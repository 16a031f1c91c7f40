/-!
# Reveal — the text to show

A `Document` is one fixed text, of any characters and any length. What the rest
of the program asks of it is its size in bytes and its lines, where only the
line feed separates lines.

* `pieces` — the parts of a list of characters between the occurrences of one;
* `Document.byteLength`, `Document.lines`, `Document.lineCount`.
-/

namespace Reveal

/-- The parts of a text between the occurrences of `separator`, empty parts
included: there is always one part more than there are separators. -/
def pieces (separator : Char) : List Char → List (List Char)
  | [] => [[]]
  | c :: rest =>
    if c = separator then [] :: pieces separator rest
    else
      match pieces separator rest with
      | [] => [[c]]
      | piece :: others => (c :: piece) :: others

theorem pieces_ne_nil (separator : Char) (cs : List Char) : pieces separator cs ≠ [] := by
  cases cs with
  | nil => simp [pieces]
  | cons c rest =>
    rw [pieces]
    split
    · simp
    · split <;> simp

/-- There is one part more than there are separators. -/
theorem length_pieces (separator : Char) (cs : List Char) :
    (pieces separator cs).length = cs.count separator + 1 := by
  induction cs with
  | nil => rfl
  | cons c rest ih =>
    rw [pieces, List.count_cons]
    split
    · next h => simp [h, ih]
    · next h =>
      cases hp : pieces separator rest with
      | nil => exact absurd hp (pieces_ne_nil separator rest)
      | cons piece others => simp_all

/-- One block of text. -/
structure Document where
  text : String
deriving DecidableEq, Repr

namespace Document

def empty : Document := ⟨""⟩

instance : Inhabited Document := ⟨empty⟩

def isEmpty (d : Document) : Bool := d.text.isEmpty

/-- The length of the text in UTF-8. -/
def byteLength (d : Document) : Nat := d.text.utf8ByteSize

/-- The lines of the text, separated by line feeds and by nothing else. -/
def lines (d : Document) : List String := (pieces '\n' d.text.toList).map String.ofList

/-- The number of lines; a text without a line feed, also an empty one, has one. -/
def lineCount (d : Document) : Nat := d.lines.length

/-- There is one line more than there are line feeds. -/
theorem lineCount_eq (d : Document) : d.lineCount = d.text.toList.count '\n' + 1 := by
  rw [lineCount, lines, List.length_map, length_pieces]

end Document

end Reveal
