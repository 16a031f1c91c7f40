import Reveal.Blank
import Reveal.Rounding

/-!
# Reveal — glyphs

How much space a text takes on the screen. Every character has an advance, which
is how far the next one is to its right; it is given in thousandths of the size of
the typeface. The advances of the letters that are most used are listed; those of the
other characters are estimates by their kind, on which no law of the model rests.

* `Glyph.advance` — the advance of a character;
* `Glyph.width` — the width of a line;
* `Glyph.column` — the character of a line at a distance from its beginning;
* `Glyph.wrap` — a line cut into rows of limited width.
-/

namespace Reveal.Glyph

/-- The size of the typeface, in points. -/
def size : Nat := 13

/-- The advances of some characters. -/
def listed : List (Char × Nat) := [
  ('a', 503), ('b', 558), ('c', 446), ('d', 558), ('e', 538), ('f', 364), ('g', 553),
  ('h', 543), ('i', 232), ('j', 232), ('k', 500), ('l', 256), ('m', 819), ('n', 543),
  ('o', 565), ('p', 558), ('q', 558), ('r', 360), ('s', 420), ('t', 389), ('u', 543),
  ('v', 474), ('w', 707), ('x', 475), ('y', 471), ('z', 445), (' ', 218), ('S', 504),
  ('I', 250), ('J', 450), ('L', 490), ('M', 830), ('W', 880), ('.', 230),
  (',', 230), (':', 230), (';', 230), ('!', 250), ('-', 290), ('|', 250), ('/', 370),
  ('(', 310), (')', 310), ('[', 310), (']', 310)]

/-- Whether nothing is drawn for a character, so that it takes no space: a carriage
return, and the characters that only direct the writing. -/
def isInvisible (c : Char) : Bool :=
  let n := c.toNat
  c = '\r' || decide (0x200b ≤ n ∧ n ≤ 0x200f) || decide (0x202a ≤ n ∧ n ≤ 0x202e) ||
    decide (0x2060 ≤ n ∧ n ≤ 0x2064) || decide (0x2066 ≤ n ∧ n ≤ 0x206f) || n == 0xfeff

/-- The advance of a character, in thousandths of the size. It stands for the table of the
typeface; of a character that is not listed it is an estimate by its kind. -/
def advance (c : Char) : Nat :=
  if isInvisible c then 0
  else if c = '\t' then 4 * 218
  else if c.isDigit then 536
  else match listed.lookup c with
    | some n => n
    | none => if c.isUpper then 600 else if c.toNat < 0x250 then 538 else 1000

attribute [local instance (2000)] Zero.ofOfNat0 in
/-- The advance of some characters together. -/
def total (cs : List Char) : Nat := (cs.map advance).sum

/-- So many thousandths of the size, in points. -/
def points (n : Nat) : Rat := mkRat (size * n) 1000

/-- The width of a line, to the nearest thirty-second of a point. -/
def width (cs : List Char) : Rat := mkRat (Rounding.divideEven (32 * size * total cs) 1000) 32

/-- The characters of a line that lie before a place, which is given by its distance
from the beginning. Of the character there, only the left half lies after it. -/
def column (place : Rat) : List Char → List Char
  | [] => []
  | c :: rest =>
    if place < points (advance c) / 2 then []
    else c :: column (place - points (advance c)) rest

/-! ## Wrapping -/

/-- Whether a line may be cut after a character in any case: a blank, if it does not
forbid that, or a character of a script that is written without blanks. -/
def endsWord (c : Char) : Bool :=
  let n := c.toNat
  (isSpace c && c ≠ '\u00a0') || decide (0x3040 ≤ n ∧ n ≤ 0x30ff) ||
    decide (0x3400 ≤ n ∧ n ≤ 0x4dbf) || decide (0x4e00 ≤ n ∧ n ≤ 0x9fff)

/-- Whether a character is a sign of ASCII. -/
def isSign (c : Char) : Bool := decide ('!' ≤ c ∧ c ≤ '~') && !c.isAlphanum

/-- A row cut after the last character of a kind, if it has one. -/
def cutAfter (kind : Char → Bool) (row : List Char) : Option (List Char × List Char) :=
  let other (c : Char) := !kind c
  match row.reverse.dropWhile other with
  | [] => none
  | kept => some (kept.reverse, (row.reverse.takeWhile other).reverse)

/-- A row cut where it is best to go on in the next one: after a word, else after a
hyphen, else after another sign, else at its end. -/
def cut (row : List Char) : List Char × List Char :=
  ((cutAfter endsWord row).or <| (cutAfter (· == '-') row).or <| cutAfter isSign row).getD
    (row, [])

/-- The rows of a line, the first of which begins with `row`. A row that becomes wider
than `limit` is cut; a single character is left as it is. -/
def wrapFrom (limit : Rat) (row : List Char) : List Char → List (List Char)
  | [] => [row]
  | c :: rest =>
    if !row.isEmpty && decide (limit < points (total (row ++ [c]))) then
      let (done, left) := cut row
      done :: wrapFrom limit (left ++ [c]) rest
    else wrapFrom limit (row ++ [c]) rest

/-- The rows of a line. Half a point more than `limit` is still let pass. -/
def wrap (limit : Rat) (line : List Char) : List (List Char) :=
  wrapFrom (limit + mkRat 1 2) [] line

theorem append_of_cutAfter {kind : Char → Bool} {row : List Char} {p : List Char × List Char}
    (h : cutAfter kind row = some p) : p.1 ++ p.2 = row := by
  rw [cutAfter] at h
  split at h
  · simp at h
  · obtain rfl := Option.some.inj h
    rw [← List.reverse_append, List.takeWhile_append_dropWhile, List.reverse_reverse]

/-- Cutting a row loses nothing. -/
theorem append_cut (row : List Char) : (cut row).1 ++ (cut row).2 = row := by
  unfold cut
  cases h₁ : cutAfter endsWord row with
  | some p => exact append_of_cutAfter h₁
  | none =>
    cases h₂ : cutAfter (· == '-') row with
    | some p => exact append_of_cutAfter h₂
    | none =>
      cases h₃ : cutAfter isSign row with
      | some p => exact append_of_cutAfter h₃
      | none => simp

/-- Wrapping loses nothing and adds nothing. -/
theorem flatten_wrap (limit : Rat) (line : List Char) : (wrap limit line).flatten = line := by
  have h : ∀ (rest row : List Char) (l : Rat), (wrapFrom l row rest).flatten = row ++ rest := by
    intro rest
    induction rest with
    | nil => intro row l; simp [wrapFrom]
    | cons c rest ih =>
      intro row l
      rw [wrapFrom]
      split
      · simp only [List.flatten_cons, ih]
        rw [← List.append_assoc, ← List.append_assoc, append_cut]
        simp
      · simp [ih]
  simpa [wrap] using h line [] (limit + mkRat 1 2)

end Reveal.Glyph
