import Reveal.Argument
import Reveal.Terminal

/-!
# Reveal — the command line

Two flags that choose how much is logged, two that ask for a text about the
program, and one positional argument, the text to show. Arguments are taken from
left to right; the first error, and the first request for help or the version,
ends the reading.

The text may begin with hyphens. Such an argument is taken for the text unless it
is a flag; short flags may be written together, and the whole of such a group is
the text if one of its letters is no flag. After `--` nothing is a flag.

A text that is not UTF-8 is not refused at once, but when the next flag is taken
or at the end, so that a complaint about another argument can come first.

* `Shape.of` — what an argument looks like, before it is known what came earlier;
* `CommandLine.parse` — the reading of a list of arguments;
* `UsageError.message` — the complaint about arguments that cannot be accepted.
-/

namespace Reveal

inductive Flag where
  | verbose | quiet | help | version
deriving DecidableEq, Repr

namespace Flag

def all : List Flag := [verbose, quiet, help, version]

/-- The long spelling, without its two hyphens. -/
def name : Flag → String
  | verbose => "verbose"
  | quiet => "quiet"
  | help => "help"
  | version => "version"

/-- The short spelling, without its hyphen. -/
def letter : Flag → Char
  | verbose => 'v'
  | quiet => 'q'
  | help => 'h'
  | version => 'V'

/-- The flag with a long spelling; there are no abbreviations. -/
def ofName? (a : Argument) : Option Flag := all.find? fun f => a == Argument.ofString f.name

/-- The flag with a short spelling. -/
def ofLetter? (symbol : Symbol) : Option Flag := all.find? fun f => symbol == .char f.letter

end Flag

/-- Why arguments cannot be accepted. -/
inductive UsageError where
  /-- A flag was given a value. -/
  | unexpectedValue (value : String) (flag : Flag)
  /-- There is no such flag, or the text is already there. -/
  | unexpectedArgument (shown : String)
  | repeated (flag : Flag)
  /-- Two flags exclude each other; the one that was given first comes first. -/
  | conflict (first second : Flag)
  /-- The text is not UTF-8. -/
  | notUtf8
deriving DecidableEq, Repr

/-- The complaint about arguments that cannot be accepted, as a terminal gets it:
what was written wrongly is coloured. -/
def UsageError.message : UsageError → String
  | unexpectedValue value flag =>
    s!"unexpected value '{Terminal.yellow value}' for '--{flag.name}' found; " ++
      "no more were expected"
  | unexpectedArgument shown => s!"unexpected argument '{Terminal.yellow shown}' found"
  | repeated flag => s!"the argument '--{flag.name}' cannot be used multiple times"
  | conflict first second =>
    s!"the argument '--{first.name}' cannot be used with '--{second.name}'"
  | notUtf8 => "invalid UTF-8 was detected in one or more arguments"

/-- Why the reading of the command line ended before the program could start. -/
inductive Stop where
  | help
  | version
  | rejected (error : UsageError)
deriving DecidableEq, Repr

/-- What an argument looks like. -/
inductive Shape where
  /-- Two hyphens alone. -/
  | separator
  /-- The long spelling of a flag, with or without a value. -/
  | long (flag : Flag) (value : Option Argument)
  /-- Two hyphens before something else; the part before the first `=`. -/
  | unknownLong (name : Argument)
  /-- One hyphen before at least one symbol. -/
  | cluster (symbols : Argument)
  /-- Anything else. -/
  | plain
deriving DecidableEq, Repr

/-- The parts of an argument before and after its first `=`, if there is one. -/
def Argument.splitValue : Argument → Argument × Option Argument
  | [] => ([], none)
  | symbol :: rest =>
    if symbol = .char '=' then ([], some rest)
    else
      let (name, value) := Argument.splitValue rest
      (symbol :: name, value)

/-- Two hyphens alone are the separator; before a name they make a flag of it. -/
def Shape.ofLong (a : Argument) : Shape :=
  match a with
  | [] => .separator
  | _ =>
    let (name, value) := a.splitValue
    match Flag.ofName? name with
    | some flag => .long flag value
    | none => .unknownLong name

/-- What an argument looks like. -/
def Shape.of : Argument → Shape
  | .char '-' :: .char '-' :: rest => ofLong rest
  | .char '-' :: symbol :: rest => .cluster (symbol :: rest)
  | _ => .plain

/-- What an accepted command line asks for. -/
structure Invocation where
  verbose : Bool
  quiet : Bool
  text : Option String
deriving DecidableEq, Repr

namespace CommandLine

/-- What the arguments so far have given. -/
structure Progress where
  /-- The flags, in the order in which they were given. -/
  flags : List Flag := []
  /-- The text as it was given. -/
  text : Option Argument := none
  /-- Whether there was a separator. -/
  separated : Bool := false
deriving DecidableEq, Repr

namespace Progress

/-- The text as it can be shown. -/
def readText (p : Progress) : Except Stop (Option String) :=
  match p.text with
  | none => .ok none
  | some a =>
    match a.text? with
    | some text => .ok (some text)
    | none => .error (.rejected .notUtf8)

/-- Takes a flag, once the text before it is found to be in order. -/
def takeFlag (p : Progress) (flag : Flag) : Except Stop Progress := do
  let _ ← p.readText
  match flag with
  | .help => .error .help
  | .version => .error .version
  | _ =>
    if flag ∈ p.flags then .error (.rejected (.repeated flag))
    else .ok { p with flags := p.flags ++ [flag] }

/-- Takes a positional argument. A second one is refused in the words `complaint`. -/
def takeText (p : Progress) (a : Argument) (complaint : String) : Except Stop Progress :=
  match p.text with
  | some _ => .error (.rejected (.unexpectedArgument complaint))
  | none => .ok { p with text := some a }

/-- The complaint about a group of short flags from its first unknown symbol on:
the character, or the whole rest where that is not UTF-8. -/
def unknownShort : Argument → String
  | .char c :: _ => "-" ++ c.toString
  | rest => "-" ++ rest.shown

/-- Takes a group of short flags. -/
def takeCluster (p : Progress) : Argument → Except Stop Progress
  | [] => .ok p
  | symbol :: rest =>
    match Flag.ofLetter? symbol with
    | some flag => do
      let p ← p.takeFlag flag
      p.takeCluster rest
    | none => .error (.rejected (.unexpectedArgument (unknownShort (symbol :: rest))))

/-- Takes an argument that looks like a long flag but is none. It can only be the
text, and not even that if its name is not UTF-8. -/
def takeUnknownLong (p : Progress) (a name : Argument) : Except Stop Progress :=
  let complaint := "--" ++ name.shown
  if name.text?.isNone then .error (.rejected (.unexpectedArgument complaint))
  else p.takeText a complaint

def take (p : Progress) (a : Argument) : Except Stop Progress :=
  if p.separated then p.takeText a a.shown
  else
    match Shape.of a with
    | .separator => .ok { p with separated := true }
    | .long flag none => p.takeFlag flag
    | .long flag (some value) => .error (.rejected (.unexpectedValue value.shown flag))
    | .unknownLong name => p.takeUnknownLong a name
    | .cluster symbols =>
      if p.text.isNone && symbols.any (fun symbol => (Flag.ofLetter? symbol).isNone) then
        p.takeText a a.shown
      else p.takeCluster symbols
    | .plain => p.takeText a a.shown

/-- What all the arguments together ask for. -/
def finish (p : Progress) : Except Stop Invocation := do
  let text ← p.readText
  match p.flags with
  | first :: second :: _ => .error (.rejected (.conflict first second))
  | _ => .ok ⟨decide (.verbose ∈ p.flags), decide (.quiet ∈ p.flags), text⟩

end Progress

/-- Reads a command line, without the name of the program. -/
def parse (args : List Argument) : Except Stop Invocation := do
  let p ← args.foldlM Progress.take {}
  p.finish

end CommandLine

end Reveal
