/-!
# Reveal — text for a terminal

A terminal does not show every character that it gets. Control characters have
effects of their own, and an escape character begins a sequence that stands for a
command, such as another colour. What is written to something else than a terminal
is stripped of all that (`Terminal.plain`): only what would be seen is left, and of
the control characters those that are blanks.

How a sequence goes on and where it ends depends on its kind:

* a *control sequence* has numbers and ends with a letter or the like;
* an *operating system command* is a text that ends with a bell;
* a *device control string* begins with numbers and a letter, as if it were a
  control sequence; its text, and some others that are never shown, end with a byte
  that can occur only within the code of a character that is not ASCII;
* any other is one character, after some signs such as a bracket.

A further escape character, or one of the two that cancel, breaks any of them off.
-/

namespace Reveal.Terminal

def yellow (s : String) : String := "\x1b[33m" ++ s ++ "\x1b[0m"

/-- What the characters belong to that come next. -/
inductive State where
  /-- No sequence. -/
  | ground
  /-- A sequence of a kind that is not known yet. -/
  | escape
  /-- A sequence of one character, after a sign. -/
  | signed
  | controlSequence
  | systemCommand
  /-- A device control string before any sign that stands after its numbers. -/
  | deviceNumbers (started : Bool)
  /-- A device control string after such a sign. -/
  | deviceSigned
  /-- The text of a device control string, or another one that ends as it does. -/
  | controlString
deriving DecidableEq, Repr

/-- The control characters that are blanks. -/
def isBlank (c : Char) : Bool := c = '\t' || c = '\n' || c = '\x0c' || c = '\r'

/-- Whether a character is shown, or left as a blank, outside sequences. -/
def isShown (c : Char) : Bool := isBlank c || (decide (' ' ≤ c) && c ≠ '\x7f')

/-- Whether the code of a character has the byte in it that ends a string: the
last of two to four bytes, or one of those between. -/
def endsString (c : Char) : Bool :=
  let n := c.toNat
  decide (0x80 ≤ n) &&
    (n % 0x40 == 0x1c || (decide (0x800 ≤ n) && n / 0x40 % 0x40 == 0x1c) ||
      (decide (0x10000 ≤ n) && n / 0x1000 % 0x40 == 0x1c))

namespace State

/-- What breaks off any sequence. -/
def interrupt? (c : Char) : Option State :=
  if c = '\x18' ∨ c = '\x1a' then some ground
  else if c = '\x1b' then some escape
  else none

/-- The state after an escape character and a character that does not break the
sequence off. -/
def afterEscape (c : Char) : State :=
  if c = '[' then controlSequence
  else if c = ']' then systemCommand
  else if c = 'P' then deviceNumbers false
  else if c = 'X' ∨ c = '^' ∨ c = '_' then controlString
  else if ' ' ≤ c ∧ c ≤ '/' then signed
  else if '0' ≤ c ∧ c ≤ '~' then ground
  else escape

/-- The state of a device control string after a character before its text. Marks
such as a question mark stand before the numbers; elsewhere the text, which is then
of no use, begins with them. -/
def inDeviceControl (s : State) (c : Char) : State :=
  if ' ' ≤ c ∧ c ≤ '/' then deviceSigned
  else if '0' ≤ c ∧ c ≤ ';' ∧ s ≠ deviceSigned then deviceNumbers true
  else if '<' ≤ c ∧ c ≤ '?' ∧ s = deviceNumbers false then deviceNumbers true
  else if '0' ≤ c ∧ c ≤ '~' then controlString
  else s

/-- The state after one more character. -/
def next (s : State) (c : Char) : State :=
  match interrupt? c with
  | some s => s
  | none =>
    match s with
    | ground => ground
    | escape => afterEscape c
    | signed => if '0' ≤ c ∧ c ≤ '~' then ground else signed
    | controlSequence => if '@' ≤ c ∧ c ≤ '~' then ground else controlSequence
    | systemCommand => if c = '\x07' then ground else systemCommand
    | deviceNumbers _ | deviceSigned => s.inDeviceControl c
    | controlString => if endsString c then ground else controlString

/-- Whether a character comes through. Blanks do also within a sequence, but not
within a string. -/
def passes (s : State) (c : Char) : Bool :=
  match s with
  | ground => isShown c
  | escape | signed | controlSequence => isBlank c
  | systemCommand | deviceNumbers _ | deviceSigned | controlString => false

end State

/-- Where the stripping stands. -/
structure Strip where
  state : State := .ground
  /-- Whether the last character came through. What follows it then comes through
  as outside sequences, until something does not. -/
  flowing : Bool := false
deriving DecidableEq, Repr

namespace Strip

/-- A character that does not follow one that came through. -/
def skip (t : Strip) (c : Char) : Strip × Bool :=
  if t.state.passes c then
    ({ state := if '\x7f' < c then .ground else t.state, flowing := true }, true)
  else ({ state := t.state.next c, flowing := false }, false)

/-- Goes on by a character, and tells whether it comes through. -/
def next (t : Strip) (c : Char) : Strip × Bool :=
  if t.flowing && isShown c then
    ({ t with state := if '\x7f' < c then .ground else t.state }, true)
  else t.skip c

/-- What comes through. -/
def run (t : Strip) : List Char → List Char
  | [] => []
  | c :: rest =>
    let (t, through) := t.next c
    if through then c :: t.run rest else t.run rest

end Strip

/-- What is left of a text for a terminal where there is none. -/
def plain (s : String) : String := String.ofList (({} : Strip).run s.toList)

end Reveal.Terminal
