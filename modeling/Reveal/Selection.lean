import Reveal.Grip
import Reveal.ScrollBar

/-!
# Reveal — the selection of text

The text in the pane can be selected with the pointer. What is selected is never used,
but where a selection begins has to be seen: if the text is not all in view, the place
where the pointer puts the cursor is scrolled into the pane. It stays as it is while
there is a selection already.

A selection ends when the text is out of view, when Escape goes down, and when the
pointer presses something else.

* `Selection.begins` — whether the pointer puts a cursor into the text;
* `Selection.cursor` — where the cursor is then;
* `Selection.sought` — what has to be seen;
* `Selection.remains` — whether there is a selection after a frame.
-/

namespace Reveal

/-- A rectangle on the screen, by what it covers on each axis. -/
structure Spot where
  x : Interval
  y : Interval
deriving DecidableEq, Repr

namespace Spot

/-- What it covers on an axis. -/
def along (s : Spot) : Axis → Interval
  | .x => s.x
  | .y => s.y

/-- A rectangle as it is stored. -/
def ofRect (r : Rect) : Spot := ⟨⟨.ofRat r.left, .ofRat r.right⟩, ⟨.ofRat r.top, .ofRat r.bottom⟩⟩

end Spot

namespace Selection

/-- Whether the pointer puts a cursor into the text. -/
def begins (hand : Hand) : Bool :=
  hand.stroke.pressed && hand.isOn .text && hand.touch.met.contains .text

/-- How far above or below the text the pointer is near enough to choose a place in its
first or last line. -/
def slack : Rat := 5

/-- The line, by its number, at a distance from the top of a text with `count` lines.
The border between two belongs to the upper one. -/
def lineAt (count : Nat) (place : Rat) : Nat :=
  min ((place / Layout.lineHeight).ceil - 1).toNat (count - 1)

/-- Where the cursor is put, by its distance from the upper left corner of the text:
between two characters of a line, of which it gives the number. -/
def cursor (document : Document) (right down : Rat) : Rat × Nat :=
  let lines := document.lines.map String.toList
  let last := lines.length - 1
  let height : Rat := (Layout.lineHeight * lines.length : Nat)
  let place (number : Nat) (before : List Char → List Char) :=
    (Glyph.points (Glyph.total (before (lines.getD number []))), number)
  if down < -slack then place 0 fun _ => []
  else if height + slack < down then place last id
  else place (lineAt lines.length down) (Glyph.column right)

/-- By how much the surroundings of the cursor are seen as well. -/
def cursorMargin : Rat := mkRat 3 2

/-- The place of the cursor that the pointer puts into a text, which is drawn at
`bounds`. -/
def cursorSpot (document : Document) (bounds : Rect) (pointer : Point) : Spot :=
  let (right, number) := cursor document (pointer.x.toRat - bounds.left)
    (pointer.y.toRat - bounds.top)
  let left := bounds.left + right
  let top := bounds.top + (Layout.lineHeight * number : Nat)
  .ofRect (Rect.grow ⟨left, top, left, top + Layout.lineHeight⟩ cursorMargin)

/-- What has to be scrolled into view. `bounds` is where the text is drawn, and `window`
is what is seen. -/
def sought (selected : Bool) (document : Document) (bounds window : Rect) (hand : Hand) :
    Option Spot :=
  if begins hand && !selected && bounds.touches window && !window.covers bounds then
    hand.pointer.position.map (cursorSpot document bounds)
  else none

/-- Whether there is a selection after a frame that drew the text at `bounds`. -/
def remains (selected : Bool) (bounds window : Rect) (hand : Hand) (escape : Bool) : Bool :=
  bounds.touches window && (selected || begins hand) && !escape &&
    !(hand.stroke.pressed && !hand.isOn .text)

end Selection

end Reveal
