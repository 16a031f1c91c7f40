import Reveal.Alphanumeric
import Reveal.Blank
import Reveal.Pattern.Basic

/-!
# Reveal — reading patterns

How a pattern is written. Most characters stand for themselves; those that do not
are written after a backslash if they are meant.

* `.`, `^` and `$` are any character and the margins; a backslash with a letter is
  a category of characters, a margin, a boundary of words, a control character, or
  the code of a character in two, four or eight digits.
* `*`, `+` and `?` repeat what stands before them, with a `?` after them to repeat
  it as seldom as possible. Counts in braces do not occur, since a closing brace
  ends the value in which a pattern stands.
* `|` separates branches, and parentheses hold a group, which may begin with its
  name or with a switch of flags. A switch alone in parentheses holds until the
  group ends in which it stands.
* Brackets hold a set: characters, ranges, categories, further sets, and the signs
  `&&`, `--` and `~~` between parts of it.

A reader takes the characters that are left and returns what it read and what is
then left, or nothing if they are not well formed. `Pattern.read` reads the whole.
-/

namespace Reveal.Pattern

/-- Leaves out blanks and comments, which go from a hash sign to the end of the line. -/
def dropComments (inComment : Bool) : List Char → List Char
  | [] => []
  | c :: rest =>
    if inComment then dropComments (c ≠ '\n') rest
    else if isSpace c then dropComments false rest
    else if c = '#' then dropComments true rest
    else c :: rest

namespace Flags

/-- Leaves out what means nothing under the flags. -/
def skip (f : Flags) (cs : List Char) : List Char :=
  if f.spaced then dropComments false cs else cs

/-- The first character that is not a blank or the first hash sign, where these mean
nothing. -/
def glance (f : Flags) (cs : List Char) : Option Char :=
  if f.spaced then
    match cs.dropWhile isSpace with
    | '#' :: rest => (rest.dropWhile isSpace).head?
    | rest => rest.head?
  else cs.head?

end Flags

/-! ## After a backslash -/

def hexValue? (c : Char) : Option Nat :=
  if c.isDigit then some (c.toNat - '0'.toNat)
  else if 'a' ≤ c.toLower ∧ c.toLower ≤ 'f' then some (c.toLower.toNat - 'a'.toNat + 10)
  else none

/-- Reads so many hexadecimal digits, after those that give a number. -/
def readHex (f : Flags) : Nat → Nat → List Char → Option (Nat × List Char)
  | 0, n, cs => some (n, cs)
  | missing + 1, n, cs =>
    match f.skip cs with
    | [] => none
    | c :: rest =>
      match hexValue? c with
      | none => none
      | some digit => readHex f missing (16 * n + digit) rest

/-- Reads a character that is given by its code in so many digits. -/
def readCode (f : Flags) (digits : Nat) (cs : List Char) : Option (Leaf × List Char) :=
  match readHex f digits 0 cs with
  | none => none
  | some (n, rest) =>
    if n.isValidChar then some (.letter ⟨Char.ofNat n, digits == 2⟩, rest) else none

/-- The control character that a letter stands for after a backslash. -/
def control? : Char → Option Char
  | 'a' => some '\x07'
  | 't' => some '\t'
  | 'n' => some '\n'
  | 'v' => some '\x0b'
  | 'f' => some '\x0c'
  | 'r' => some '\r'
  | _ => none

/-- Reads what stands after a backslash. -/
def readEscape (f : Flags) : List Char → Option (Leaf × List Char)
  | [] => none
  | c :: rest =>
    if c = 'x' then readCode f 2 rest
    else if c = 'u' then readCode f 4 rest
    else if c = 'U' then readCode f 8 rest
    else if c ∈ ['d', 's', 'w'] then some (.category false, rest)
    else if c ∈ ['D', 'S', 'W'] then some (.category true, rest)
    else if c ∈ ['A', 'z'] then some (.margin, rest)
    else if c ∈ ['b', 'B', '<', '>'] then some (.wordBoundary, rest)
    else if c.toNat < 0x80 ∧ ¬ c.isAlphanum then some (.letter ⟨c, false⟩, rest)
    else (control? c).map fun c => (.letter ⟨c, false⟩, rest)

/-! ## Sets -/

/-- The classes of ASCII characters that have names. -/
def classNames : List String :=
  ["alnum", "alpha", "ascii", "blank", "cntrl", "digit", "graph", "lower", "print", "punct",
    "space", "upper", "word", "xdigit"]

/-- Reads the name of a class between colons, after the bracket that opens it, to
the bracket that closes it. A caret before the name stands for all other
characters. -/
def readNamed : List Char → Option (CharSet × List Char)
  | ':' :: cs =>
    let (negated, cs) := match cs with
      | '^' :: rest => (true, rest)
      | _ => (false, cs)
    match cs.dropWhile (· ≠ ':') with
    | ':' :: ']' :: rest =>
      if classNames.contains (String.ofList (cs.takeWhile (· ≠ ':'))) then
        some (.named negated, rest)
      else none
    | _ => none
  | _ => none

/-- Reads a character of a set or something after a backslash. -/
def readMember (f : Flags) : List Char → Option (Leaf × List Char)
  | [] => none
  | '\\' :: rest => readEscape f rest
  | c :: rest => some (.letter ⟨c, false⟩, rest)

/-- A leaf as a set. Places are none. -/
def Leaf.asSet? : Leaf → Option CharSet
  | letter l => some (.letter l)
  | category negated => some (.category negated)
  | anything | margin | wordBoundary => none

/-- The characters from one to another, which does not come before it. -/
def range? : Leaf → Leaf → Option CharSet
  | .letter first, .letter last =>
    if first.char ≤ last.char then some (.range first last) else none
  | _, _ => none

/-- Reads a part of a set that is not a set itself. A hyphen makes a range unless a
bracket that closes the set or another hyphen comes after it. -/
def readRange (f : Flags) (cs : List Char) : Option (CharSet × List Char) := do
  let (first, rest) ← readMember f cs
  match f.skip rest with
  | '-' :: rest =>
    if f.glance rest = some ']' ∨ f.glance rest = some '-' then
      return (← first.asSet?, '-' :: rest)
    else
      let (last, rest) ← readMember f (f.skip rest)
      return (← range? first last, rest)
  | rest => return (← first.asSet?, rest)

/-- The part of a set that has been read. -/
structure OpenSet where
  /-- What stands before the last sign that combines sets. -/
  left : Option CharSet := none
  /-- What stands after it, the last first. -/
  members : List CharSet := []
  /-- Whether nothing but hyphens has been read. -/
  atStart : Bool := true

namespace OpenSet

/-- Adds a member. -/
def add (o : OpenSet) (s : CharSet) : OpenSet :=
  { o with members := s :: o.members, atStart := false }

/-- The set if it ends here. -/
def content (o : OpenSet) : CharSet :=
  let right := CharSet.ofMembers o.members.reverse
  match o.left with
  | none => right
  | some left => .combination left right

/-- Goes on after a sign that combines what has been read with what follows. -/
def combine (o : OpenSet) : OpenSet :=
  { left := some o.content, atStart := false }

end OpenSet

/-- Reads the caret after the bracket that opens a set, if there is one. -/
def readCaret (f : Flags) (cs : List Char) : Bool × List Char :=
  match f.skip cs with
  | '^' :: rest => (true, rest)
  | rest => (false, rest)

/-- Reads a set to the bracket that closes it. At the start, hyphens stand for
themselves, and so does a closing bracket if there are none. -/
def readSet (f : Flags) : Nat → OpenSet → List Char → Option (CharSet × List Char)
  | 0, _, _ => none
  | fuel + 1, o, cs =>
    match f.skip cs with
    | [] => none
    | c :: rest =>
      if o.atStart ∧ c = '-' then
        readSet f fuel { o.add (.letter ⟨c, false⟩) with atStart := true } rest
      else if c = ']' then
        if o.atStart ∧ o.members.isEmpty then readSet f fuel (o.add (.letter ⟨c, false⟩)) rest
        else some (o.content, rest)
      else if c = '[' then
        match readNamed rest with
        | some (s, rest) => readSet f fuel (o.add s) rest
        | none =>
          let (negated, rest) := readCaret f rest
          match readSet f fuel {} rest with
          | none => none
          | some (s, rest) => readSet f fuel (o.add (.bracket negated s)) rest
      else if c ∈ ['&', '-', '~'] ∧ rest.head? = some c then
        readSet f fuel o.combine rest.tail
      else
        match readRange f (c :: rest) with
        | none => none
        | some (s, rest) => readSet f fuel (o.add s) rest

/-! ## Groups -/

/-- What an opening parenthesis begins. -/
inductive Opening where
  /-- A switch of flags by letters. -/
  | switch (letters : List Char)
  /-- A group, with the switch that holds in it. -/
  | group (name : Option (List Char)) (letters : List Char)
deriving DecidableEq, Repr

/-- Whether a text can be the name of a group. -/
def isGroupName : List Char → Bool
  | [] => false
  | c :: rest =>
    (c == '_' || isAlphabetic c) &&
      rest.all fun c => c == '_' || c == '.' || c == '[' || c == ']' || isAlphanumeric c

/-- Reads the name of a group to the sign that closes it. -/
def readName (cs : List Char) : Option (Opening × List Char) :=
  let name := cs.takeWhile (· ≠ '>')
  match cs.dropWhile (· ≠ '>') with
  | [] => none
  | _ :: rest => if isGroupName name then some (.group (some name) [], rest) else none

/-- Whether letters make a switch: they are known, come only once, and do not end
with the hyphen, after which flags are cleared. -/
def isSwitch (letters : List Char) : Bool :=
  letters.all (['i', 'm', 's', 'x', 'u', 'U', 'R', '-'].contains ·) &&
    decide letters.Nodup && letters.getLast? ≠ some '-'

/-- Reads the letters of a switch, and whether it stands alone or begins a group. -/
def readSwitch (cs : List Char) : Option (Opening × List Char) :=
  let inSwitch (c : Char) := decide (c ≠ ':' ∧ c ≠ ')')
  let letters := cs.takeWhile inSwitch
  if isSwitch letters then
    match cs.dropWhile inSwitch with
    | [] => none
    | ':' :: rest => some (.group none letters, rest)
    | _ :: rest => if letters = [] then none else some (.switch letters, rest)
  else none

/-- Reads what stands after an opening parenthesis and does not belong to the
content of the group. -/
def readOpening : List Char → Option (Opening × List Char)
  | '?' :: 'P' :: '<' :: rest => readName rest
  | '?' :: '<' :: rest => readName rest
  | '?' :: rest => readSwitch rest
  | cs => some (.group none [], cs)

/-! ## The whole -/

/-- The part of a group, or of the whole pattern, that has been read. -/
structure OpenGroup where
  /-- The branches before the last one, the last first. -/
  branches : List Pattern := []
  /-- The parts of the last branch, the last first. -/
  parts : List Pattern := []

namespace OpenGroup

/-- Adds a part to the last branch. -/
def add (o : OpenGroup) (p : Pattern) : OpenGroup := { o with parts := p :: o.parts }

/-- Begins another branch. -/
def branch (o : OpenGroup) : OpenGroup :=
  { branches := ofParts o.parts.reverse :: o.branches }

/-- Repeats the last part, if there is one that can be repeated. -/
def repeat? (o : OpenGroup) : Option OpenGroup :=
  match o.parts with
  | [] => none
  | p :: rest => if p.isRepeatable then some { o with parts := .repetition p :: rest } else none

/-- The pattern if it ends here. -/
def body (o : OpenGroup) : Pattern := ofBranches o.branch.branches.reverse

end OpenGroup

/-- Reads a character that is a leaf by itself. -/
def Leaf.ofChar (c : Char) : Leaf :=
  if c = '.' then anything
  else if c = '^' ∨ c = '$' then margin
  else letter ⟨c, false⟩

/-- Reads to the end or to the parenthesis that closes a group. -/
def readBody : Nat → Flags → OpenGroup → List Char → Option (Pattern × List Char)
  | 0, _, _, _ => none
  | fuel + 1, f, o, cs =>
    match f.skip cs with
    | [] => some (o.body, [])
    | c :: rest =>
      if c = ')' then some (o.body, c :: rest)
      else if c = '|' then readBody fuel f o.branch rest
      else if c = '\x7b' then none
      else if c = '*' ∨ c = '+' ∨ c = '?' then
        match o.repeat? with
        | none => none
        | some o => readBody fuel f o (if rest.head? = some '?' then rest.tail else rest)
      else if c = '\\' then
        match readEscape f rest with
        | none => none
        | some (l, rest) => readBody fuel f (o.add (.leaf f l)) rest
      else if c = '[' then
        let (negated, rest) := readCaret f rest
        match readSet f fuel {} rest with
        | none => none
        | some (s, rest) => readBody fuel f (o.add (.set f negated s)) rest
      else if c = '(' then
        match readOpening (f.skip rest) with
        | none => none
        | some (.switch letters, rest) => readBody fuel (f.switch letters) (o.add .switch) rest
        | some (.group name letters, rest) =>
          match readBody fuel (f.switch letters) {} rest with
          | some (body, ')' :: rest) => readBody fuel f (o.add (.group name body)) rest
          | _ => none
      else readBody fuel f (o.add (.leaf f (.ofChar c))) rest

def read (cs : List Char) : Option Pattern :=
  match readBody (cs.length + 1) {} {} cs with
  | some (p, []) => some p
  | _ => none

end Reveal.Pattern
