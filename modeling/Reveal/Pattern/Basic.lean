/-!
# Reveal — what patterns are made of

A pattern describes texts. It is made of leaves, each of which stands for one
character or for a place between two, of sets of characters in brackets, and of
groups, repetitions, sequences and choices. Here is its form as a tree, and what
can be told from that form alone:

* `Pattern.depth` — how deeply its parts lie within each other;
* `Pattern.names` — the names that its groups have;
* `Pattern.needs` — what it asks of a matcher that works on the bytes of a text
  and knows nothing of the characters beyond ASCII but their codes.

Each leaf carries the flags that hold for it, so that none of this depends on what
stands before a part.
-/

namespace Reveal

namespace Pattern

/-- What can be switched within a pattern, as far as it bears on the form. -/
structure Flags where
  /-- Whether capital and small letters are the same. -/
  caseless : Bool := false
  /-- Whether characters are matched, and not bytes. -/
  unicode : Bool := true
  /-- Whether blanks and comments in the pattern mean nothing. -/
  spaced : Bool := false
deriving DecidableEq, Repr

/-- The flags after a switch, which is written as the letters of the flags that are
set and, after a hyphen, of those that are cleared. -/
def Flags.switch (f : Flags) (letters : List Char) : Flags :=
  let set := letters.takeWhile (· ≠ '-')
  let cleared := letters.dropWhile (· ≠ '-')
  let after (letter : Char) (now : Bool) := set.contains letter || (now && !cleared.contains letter)
  { caseless := after 'i' f.caseless
    unicode := after 'u' f.unicode
    spaced := after 'x' f.spaced }

@[simp] theorem Flags.switch_nil (f : Flags) : f.switch [] = f := by simp [switch]

/-- What a pattern may ask of a matcher. -/
inductive Need where
  /-- Which letters differ only in being capital or small. -/
  | letterCases
  /-- Which characters of all scripts are letters, digits or blanks. -/
  | characterClasses
  /-- To stop within the bytes of a character. -/
  | loneBytes
  /-- Where words of all scripts begin and end. -/
  | wordBoundaries
deriving DecidableEq, Repr

/-- A character that stands for itself. -/
structure Letter where
  char : Char
  /-- Whether it is written as the two digits of a byte. -/
  isByte : Bool := false
deriving DecidableEq, Repr

namespace Letter

/-- Whether the character is not in ASCII. -/
def isWide (l : Letter) : Bool := decide (0x80 ≤ l.char.toNat)

/-- What a letter needs by itself. -/
def needs (f : Flags) (l : Letter) : List Need :=
  if f.unicode then if f.caseless then [.letterCases] else []
  else if l.isByte && l.isWide then [.loneBytes] else []

/-- What a letter needs in a set, where without Unicode only single bytes can be. -/
def needsInSet (f : Flags) (l : Letter) : List Need :=
  if f.unicode then if f.caseless then [.letterCases] else []
  else if l.isWide then [.loneBytes] else []

/-- In a set a letter needs at least what it needs by itself. -/
theorem needs_subset_needsInSet (f : Flags) (l : Letter) : l.needs f ⊆ l.needsInSet f := by
  intro need
  simp only [needs, needsInSet]
  cases f.unicode <;> cases l.isByte <;> simp

end Letter

/-- What a category of characters needs that is written as a backslash and a letter,
which is a capital if all other characters are meant. -/
def needsOfCategory (f : Flags) (negated : Bool) : List Need :=
  if f.unicode then [.characterClasses] else if negated then [.loneBytes] else []

/-- What stands for one character, or for a place between two. -/
inductive Leaf where
  | letter (l : Letter)
  /-- Any character, but perhaps not the end of a line. -/
  | anything
  /-- The digits, the blanks or the characters of words, or all others. -/
  | category (negated : Bool)
  /-- The beginning or the end of a line or of the text. -/
  | margin
  /-- The beginning or the end of a word, or any other place. -/
  | wordBoundary
deriving DecidableEq, Repr

/-- What a leaf needs. -/
def Leaf.needs (f : Flags) : Leaf → List Need
  | letter l => l.needs f
  | anything => if f.unicode then [] else [.loneBytes]
  | category negated => needsOfCategory f negated
  | margin => []
  | wordBoundary => if f.unicode then [.wordBoundaries] else []

/-! ## Sets of characters -/

inductive CharSet where
  | letter (l : Letter)
  | range (first last : Letter)
  /-- The digits, the blanks or the characters of words, or all others. -/
  | category (negated : Bool)
  /-- A class of ASCII that is written with its name, or all other characters. -/
  | named (negated : Bool)
  /-- A set in brackets of its own, or all other characters. -/
  | bracket (negated : Bool) (content : CharSet)
  | union (members : List CharSet)
  /-- What is in both sets, in the first only, or in just one of them. -/
  | combination (left right : CharSet)

namespace CharSet

mutual

/-- How deeply brackets, unions and combinations lie within each other. -/
def depth : CharSet → Nat
  | letter _ | range .. | category _ | named _ | union [] => 0
  | bracket _ content => content.depth + 1
  | union members => depthOfAll members + 1
  | combination left right => max left.depth right.depth + 1

/-- The depth of the deepest of several sets. -/
def depthOfAll : List CharSet → Nat
  | [] => 0
  | s :: rest => max s.depth (depthOfAll rest)

end

mutual

/-- What a set needs. Without Unicode the characters that are not in a set would be
bytes outside ASCII as well. -/
def needs (f : Flags) : CharSet → List Need
  | letter l => l.needsInSet f
  | range first last => first.needsInSet f ++ last.needsInSet f
  | category negated => needsOfCategory f negated
  | named negated =>
    if f.unicode then if f.caseless then [.letterCases] else []
    else if negated then [.loneBytes] else []
  | bracket negated content =>
    content.needs f ++ if negated && !f.unicode then [.loneBytes] else []
  | union members => needsOfAll f members
  | combination left right => left.needs f ++ right.needs f

/-- What several sets need. -/
def needsOfAll (f : Flags) : List CharSet → List Need
  | [] => []
  | s :: rest => s.needs f ++ needsOfAll f rest

end

/-- The union of sets; that of one set is the set itself. -/
def ofMembers : List CharSet → CharSet
  | [s] => s
  | members => union members

end CharSet

end Pattern

/-! ## Patterns -/

inductive Pattern where
  | leaf (flags : Pattern.Flags) (l : Pattern.Leaf)
  /-- A set of characters, which stands in brackets. -/
  | set (flags : Pattern.Flags) (negated : Bool) (content : Pattern.CharSet)
  /-- A change of flags. -/
  | switch
  /-- A pattern in parentheses, perhaps with a name. -/
  | group (name : Option (List Char)) (body : Pattern)
  | repetition (body : Pattern)
  | sequence (parts : List Pattern)
  | choice (branches : List Pattern)

namespace Pattern

mutual

/-- How deeply the parts of a pattern lie within each other. -/
def depth : Pattern → Nat
  | leaf .. | switch => 0
  | set _ _ content => content.depth + 1
  | group _ body | repetition body => body.depth + 1
  | sequence [] | choice [] => 0
  | sequence parts | choice parts => depthOfAll parts + 1

/-- The depth of the deepest of several patterns. -/
def depthOfAll : List Pattern → Nat
  | [] => 0
  | p :: rest => max p.depth (depthOfAll rest)

end

mutual

/-- The names of the groups in a pattern. -/
def names : Pattern → List (List Char)
  | leaf .. | set .. | switch => []
  | group name body => name.toList ++ body.names
  | repetition body => body.names
  | sequence parts | choice parts => namesOfAll parts

/-- The names of the groups in several patterns. -/
def namesOfAll : List Pattern → List (List Char)
  | [] => []
  | p :: rest => p.names ++ namesOfAll rest

end

mutual

/-- What a pattern asks of a matcher. -/
def needs : Pattern → List Need
  | leaf flags l => l.needs flags
  | set flags negated content => (CharSet.bracket negated content).needs flags
  | switch => []
  | group _ body | repetition body => body.needs
  | sequence parts | choice parts => needsOfAll parts

/-- What several patterns ask of a matcher. -/
def needsOfAll : List Pattern → List Need
  | [] => []
  | p :: rest => p.needs ++ needsOfAll rest

end

/-- Patterns one after the other; a single one is itself. -/
def ofParts : List Pattern → Pattern
  | [p] => p
  | parts => sequence parts

/-- Patterns any one of which may match; a single one is itself. -/
def ofBranches : List Pattern → Pattern
  | [p] => p
  | branches => choice branches

/-- Whether a pattern can be repeated. -/
def isRepeatable : Pattern → Bool
  | switch => false
  | _ => true

end Pattern

end Reveal
