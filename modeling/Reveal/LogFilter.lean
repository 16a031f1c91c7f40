import Reveal.Blank
import Reveal.Document
import Reveal.Event
import Reveal.Pattern

/-!
# Reveal — the log filter

Which events reach the log. A filter is a list of directives, each of which sets
a threshold for the events whose target begins with a given string. Of the
directives that apply to an event, the one with the longest target decides, and
of several with the same target the last; where none applies, the event is
dropped.

A filter is written as directives with commas between them: `level`, which
applies to all targets, `target=level`, or `target`, which lets everything pass.

A directive can be restricted further, in brackets after the target: to what
happens within a span, which is a part of the work with a name, or to events that
carry a field. `target[span{field=value}]=level` is the full form. The program has
no spans and compares no values, so that only a directive with nothing but a field
in its brackets ever applies to an event; it comes before one with the same target
and no field. The others still count as directives.

* `Threshold.ofText?`, `Directive.read` — the reading of the parts;
* `LogFilter.read` — the reading of the whole, with a default;
* `LogFilter.passes` — whether an event reaches the log.
-/

namespace Reveal

/-- The least severe level that passes, if any level does. -/
inductive Threshold where
  | off
  | upTo (level : Level)
deriving DecidableEq, Repr

namespace Threshold

def allows : Threshold → Level → Bool
  | off, _ => false
  | upTo least, level => decide (level.verbosity ≤ least.verbosity)

/-- The thresholds, in the order of the numbers from 0 that stand for them. -/
def numbered : List Threshold :=
  [off, upTo .error, upTo .warn, upTo .info, upTo .debug, upTo .trace]

def name : Threshold → String
  | off => "off"
  | upTo .error => "error"
  | upTo .warn => "warn"
  | upTo .info => "info"
  | upTo .debug => "debug"
  | upTo .trace => "trace"

/-- The value of a decimal number, which may have a plus sign and leading zeros. -/
def number? (cs : List Char) : Option Nat :=
  let digits := match cs with
    | '+' :: rest => rest
    | _ => cs
  if digits ≠ [] ∧ digits.all Char.isDigit then
    some (digits.foldl (fun n c => 10 * n + (c.toNat - '0'.toNat)) 0)
  else none

/-- A threshold as it is written: its name, in capitals or not, or its number. -/
def ofText? (cs : List Char) : Option Threshold :=
  match number? cs with
  | some n => numbered[n]?
  | none => numbered.find? fun t => t.name.toList == cs.map Char.toLower

end Threshold

/-! ## Directives -/

/-- A field that events are asked for. -/
structure FieldFilter where
  name : List Char
  /-- Whether the field must have a certain value. -/
  hasValue : Bool
deriving DecidableEq, Repr

/-- A threshold for some of the events. -/
structure Directive where
  /-- What the target begins with, if that matters. -/
  target : Option (List Char) := none
  /-- Whether only what happens within some span is concerned. -/
  inSpan : Bool := false
  field : Option FieldFilter := none
  threshold : Threshold := .upTo .trace
deriving DecidableEq, Repr

/-- Why a part of a written filter is no directive. -/
inductive DirectiveFault where
  | malformed
  /-- What stands in the place of a level is none. -/
  | badLevel
  /-- The value of a field is a pattern that cannot be used. -/
  | badPattern (fault : Pattern.Fault)
deriving DecidableEq, Repr

/-- What is wrong with the part. -/
def DirectiveFault.message : DirectiveFault → String
  | malformed => "invalid filter directive"
  | badLevel =>
    "error parsing level filter: expected one of " ++
      "\"off\", \"error\", \"warn\", \"info\", \"debug\", \"trace\", or a number 0-5"
  | badPattern fault => "invalid field filter: " ++ fault.message

namespace FieldFilter

/-- Whether a text is a number with a sign, which as a pattern would repeat nothing.
Any other number is a pattern as well. -/
def isSignedNumber : List Char → Bool
  | '+' :: rest =>
    let lower := rest.map Char.toLower
    lower = "inf".toList || lower = "infinity".toList || lower = "nan".toList ||
      isDecimal rest
  | _ => false
where
  /-- Digits with at most one point among them, and an exponent. -/
  isDecimal (cs : List Char) : Bool :=
    let size := cs.takeWhile fun c => c.isDigit || c = '.'
    let digits := size.filter Char.isDigit
    digits ≠ [] && decide (size.length ≤ digits.length + 1) && isExponent (cs.drop size.length)
  /-- Nothing, or an `e` with a whole number after it. -/
  isExponent : List Char → Bool
    | [] => true
    | e :: rest =>
      let digits := match rest with
        | '+' :: rest | '-' :: rest => rest
        | _ => rest
      (e = 'e' || e = 'E') && digits ≠ [] && digits.all Char.isDigit

/-- A field as it is written: its name, or the name and a value with an equals
sign between them. What follows a second one is of no account. -/
def ofText (cs : List Char) : Except Pattern.Fault FieldFilter :=
  match pieces '=' cs with
  | name :: value :: _ =>
    if isSignedNumber value then .ok ⟨name, true⟩
    else (Pattern.ofChars value).map fun _ => ⟨name, true⟩
  | _ => .ok ⟨cs, false⟩

end FieldFilter

/-! ## Reading directives -/

attribute [local instance (2000)] Zero.ofOfNat0 in
def byteCount (cs : List Char) : Nat := (cs.map Char.utf8Size).sum

def dropBytes : Nat → List Char → List Char
  | _, [] => []
  | n, c :: rest => if n = 0 then c :: rest else dropBytes (n - c.utf8Size) rest

def takeBytes : Nat → List Char → List Char
  | _, [] => []
  | n, c :: rest => if n = 0 then [] else c :: takeBytes (n - c.utf8Size) rest

namespace Directive

/-- What is read of a part of a filter is its text without the blanks around it,
but what is taken from it is counted off on the text with them. So blanks at the
end belong to the last thing, and blanks at the beginning shift everything. -/
structure Source where
  /-- The text with its blanks. -/
  whole : List Char
deriving DecidableEq, Repr

namespace Source

/-- What stands between two bytes. -/
def cut (s : Source) (first last : Nat) : List Char :=
  takeBytes (last - first) (dropBytes first s.whole)

/-- What stands after a byte. -/
def rest (s : Source) (first : Nat) : List Char := dropBytes first s.whole

def trimmed (s : Source) : List Char :=
  ((s.whole.dropWhile isSpace).reverse.dropWhile isSpace).reverse

end Source

/-- Gives the directive the level that is written from a byte on. Nothing lets
everything pass. -/
def withLevel (d : Directive) (s : Source) (first : Nat) : Except DirectiveFault Directive :=
  match s.rest first with
  | [] => .ok d
  | level =>
    match Threshold.ofText? level with
    | some threshold => .ok { d with threshold := threshold }
    | none => .error .badLevel

/-- Reads what follows the bracket that closes, at a byte. -/
def readEnd (d : Directive) (s : Source) (place : Nat) :
    List Char → Except DirectiveFault Directive
  | [] => .ok d
  | '=' :: _ => d.withLevel s (place + 1)
  | _ => .error .malformed

/-- Reads a field, which begins at a byte, and what follows it. -/
def readField (d : Directive) (s : Source) (place : Nat) (cs : List Char) :
    Except DirectiveFault Directive :=
  let close := '\x7d'
  let size := byteCount (cs.takeWhile (· ≠ close))
  match cs.dropWhile (· ≠ close) with
  | [] => .error .malformed
  | _ :: after =>
    match s.cut place (place + size) with
    | [] => .error .malformed
    | text =>
      match FieldFilter.ofText text with
      | .error fault => .error (.badPattern fault)
      | .ok field =>
        match after with
        | ']' :: after => { d with field := some field }.readEnd s (place + size + 2) after
        | _ => .error .malformed

/-- Reads what is in brackets, the first of which stands before a byte. -/
def readSpan (d : Directive) (s : Source) (place : Nat) (cs : List Char) :
    Except DirectiveFault Directive :=
  let inName (c : Char) := decide (c ≠ ']' ∧ c ≠ '\x7b')
  let size := byteCount (cs.takeWhile inName)
  match cs.dropWhile inName with
  | [] => .error .malformed
  | ']' :: after => { d with inSpan := true }.readEnd s (place + size + 1) after
  | _ :: after =>
    { d with inSpan := decide (s.cut place (place + size) ≠ []) }.readField s
      (place + size + 1) after

/-- Reads a directive that begins with a target or consists of a level. -/
def readTarget (s : Source) (cs : List Char) : Except DirectiveFault Directive :=
  let inTarget (c : Char) := decide (c ≠ '=' ∧ c ≠ '[')
  let size := byteCount (cs.takeWhile inTarget)
  let d : Directive := { target := some (s.cut 0 size) }
  match cs.dropWhile inTarget with
  | [] =>
    match Threshold.ofText? s.whole with
    | some threshold => .ok { threshold := threshold }
    | none => .ok { target := some s.whole }
  | '=' :: _ => d.withLevel s (size + 1)
  | _ :: after => d.readSpan s (size + 1) after

/-- Reads a part of a written filter. -/
def read (part : List Char) : Except DirectiveFault Directive :=
  let s : Source := ⟨part⟩
  match s.trimmed with
  | [] => .error .malformed
  | '[' :: rest => ({} : Directive).readSpan s 1 rest
  | c :: rest =>
    if isAlphanumeric c || c = '-' || c = ':' || c = '_' then readTarget s (c :: rest)
    else .error .malformed

/-- Whether the directive can concern events that happen in no span, whatever
their values are. -/
def isPlain (d : Directive) : Bool := !d.inSpan && !d.field.any (·.hasValue)

def appliesTo (d : Directive) (e : Event) : Bool :=
  d.isPlain && d.target.all (·.isPrefixOf e.target.toList) &&
    d.field.all fun field => e.fields.any (·.toList == field.name)

/-- How closely a directive describes an event that it applies to: by the length
of its target, then by having a field. -/
def closeness (d : Directive) : Nat :=
  2 * d.target.elim 0 (fun target => byteCount target + 1) + if d.field.isSome then 1 else 0

/-- The name of the field, if there is one. -/
def fieldName (d : Directive) : List Char := d.field.elim [] (·.name)

/-- Whether a directive gives way to one that comes later and applies to the same
event: if that is closer, and if it is as close unless its field comes earlier in
the alphabet. -/
def givesWay (earlier later : Directive) : Bool :=
  decide (earlier.closeness < later.closeness) ||
    (earlier.closeness == later.closeness && !decide (later.fieldName < earlier.fieldName))

end Directive

/-! ## Filters -/

/-- A list of directives. -/
abbrev LogFilter := List Directive

namespace LogFilter

/-- The parts of a written filter, those with nothing in them left out. -/
def parts (text : String) : List (List Char) :=
  (pieces ',' text.toList).filter (· ≠ [])

/-- The directives in a written filter. -/
def directives (text : String) : LogFilter :=
  (parts text).filterMap fun part => (Directive.read part).toOption

/-- What is written about a part of a filter that is ignored. -/
def notice (part : List Char) (fault : DirectiveFault) : String :=
  s!"ignoring `{String.ofList part}`: {fault.message}\n"

/-- What is written about the parts of a filter that are no directives. -/
def notices (text : String) : String :=
  String.join <| (parts text).map fun part =>
    match Directive.read part with
    | .ok _ => ""
    | .error fault => notice part fault

/-- The filter that a text stands for; without any directive in it, the threshold
`standard` holds for all events. -/
def read (text : String) (standard : Threshold) : LogFilter :=
  match directives text with
  | [] => [{ threshold := standard }]
  | found => found

/-- Of two directives that apply to an event, the one that decides about it. -/
def prefer (earlier : Option Directive) (later : Directive) : Option Directive :=
  match earlier with
  | none => some later
  | some d => if d.givesWay later then some later else some d

/-- The directive that decides about an event. -/
def decisive? (f : LogFilter) (e : Event) : Option Directive :=
  (f.filter (·.appliesTo e)).foldl prefer none

/-- Whether an event reaches the log. -/
def passes (f : LogFilter) (e : Event) : Bool :=
  match f.decisive? e with
  | none => false
  | some d => d.threshold.allows e.level

end LogFilter

end Reveal
