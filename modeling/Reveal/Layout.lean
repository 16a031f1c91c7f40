import Reveal.Document
import Reveal.Geometry
import Reveal.Glyph

/-!
# Reveal — layout

Where things are drawn on a screen. The window has a margin on all sides. The
checkbox takes one row; the pane, when it is drawn, stands above it and takes all
the height that is left, but never less than the smallest height of a scrolled
area. The lines of the document are not wrapped; those of a label are.

Places and sizes are kept as single-precision numbers. Most of them are whole, and
for those that makes a difference only from `2 ^ 24` on.

* `Layout.paneHeight` — the inner height of the pane;
* `Layout.textWidth`, `Layout.textHeight` — how much space a document takes in it;
* `Layout.checkboxTop`, `Layout.checkbox` — where the checkbox is drawn;
* `Layout.pane`, `Layout.text`, `Layout.window` — where the pane and the document in it
  are drawn, and what is seen of that.
-/

namespace Reveal

structure Screen where
  width : Nat
  height : Nat
deriving DecidableEq, Repr

namespace Layout

attribute [local instance (2000)] instPowNat Rat.instMax

/-- The margin of the window, on each side. -/
def margin : Nat := 8

/-- The space between two things that stand above each other. -/
def spacing : Nat := 3

/-- The height of the row that holds the checkbox. -/
def rowHeight : Nat := 18

/-- The smallest inner size of a scrolled area. -/
def smallestPane : Nat := 64

def lineHeight : Nat := 15

/-- The width of the box of a checkbox, with the space after it. -/
def boxWidth : Nat := 18

/-- By how much what is scrolled may be drawn over the edge of the area. -/
def clipMargin : Nat := 3

/-! ## Whole numbers of points -/

/-- A whole number as it is kept. -/
def held (n : Nat) : Nat := Rounding.natToDigits 24 n

/-- A whole number of either sign as it is kept. -/
def heldInt (n : Int) : Int := n.sign * held n.natAbs

/-- Numbers below `2 ^ 24` are kept as they are. -/
theorem held_of_lt {n : Nat} (h : n < 2 ^ (24 : Nat)) : held n = n := Rounding.natToDigits_of_lt h

/-- The nearest whole number, a half going away from zero. -/
def nearestPoint (q : Rat) : Int :=
  if q < 0 then -(-q + mkRat 1 2).floor else (q + mkRat 1 2).floor

/-! ## The pane -/

/-- What two margins leave of an extent of the screen. -/
def room (extent : Nat) : Nat := held (held (held extent - margin) - margin)

/-- The inner extent of a scrolled area that would take `wanted`. -/
def areaExtent (wanted : Nat) : Nat := held (held (margin + max wanted smallestPane) - margin)

/-- The inner height of the pane on a screen of height `height`: what the margins
and the row of the checkbox leave, but not less than the smallest pane. -/
def paneHeight (height : Nat) : Nat := areaExtent (held (room height - (rowHeight + spacing)))

/-- The inner width of the pane on a screen of width `width`. -/
def paneWidth (width : Nat) : Nat := areaExtent (room width)

def pane (screen : Screen) : Rect :=
  .ofCorner margin margin (paneWidth screen.width) (paneHeight screen.height)

/-! ## The document -/

/-- Where a document begins that is scrolled by `scrolled`, along either axis:
at a whole point. -/
def textStart (scrolled : Scalar) : Int := nearestPoint (Scalar.ofNat margin - scrolled).toRat

/-- The height that a document takes if it is scrolled down by `scrolled`: that
of its lines. Where it begins so far away that points cannot be told apart any
more, it is what the places of its two ends differ by. -/
def textHeight (document : Document) (scrolled : Scalar) : Nat :=
  let start := textStart scrolled
  (heldInt (start + (lineHeight * document.lineCount : Nat)) - start).toNat

def widest (lines : List (List Char)) : Rat := (lines.map Glyph.width).foldl max 0

/-- The width of the lines of a document, which are not wrapped. -/
def linesWidth (document : Document) : Rat := widest (document.lines.map String.toList)

/-- The width that a document takes if it is scrolled to the right by `scrolled`. Far
away it is rounded as the height is. -/
def textWidth (document : Document) (scrolled : Scalar) : Rat :=
  let start : Rat := textStart scrolled
  Rounding.toDigits 24 (Rounding.toDigits 24 (start + linesWidth document) - start)

/-- Where a document is drawn that is scrolled by `offset`, with all that is not seen. -/
def text (document : Document) (offset : Offset) : Rect :=
  .ofCorner (textStart offset.x) (textStart offset.y) (linesWidth document)
    (lineHeight * document.lineCount : Nat)

def whole (screen : Screen) : Rect := .ofCorner 0 0 (held screen.width) (held screen.height)

/-- What is seen of a document in the pane. -/
def window (screen : Screen) : Rect := ((pane screen).grow clipMargin).meet (whole screen)

/-! ## The checkbox -/

/-- Where the checkbox begins: below the pane if there is one, else at the top. -/
def checkboxTop (height : Nat) (paneDrawn : Bool) : Nat :=
  if paneDrawn then held (held (margin + paneHeight height) + spacing) else margin

/-- The width that there is for the checkbox. A pane that is wider than the window
makes room for it as well. -/
def checkboxRoom (width : Nat) (paneDrawn : Bool) : Nat :=
  if paneDrawn then paneWidth width else room width

/-- The rows of a label, which is wrapped to what the box leaves of `room`. -/
def labelRows (room : Nat) (label : String) : List (List Char) :=
  (pieces '\n' label.toList).flatMap (Glyph.wrap ((room : Rat) - boxWidth))

/-- The beginning of something of a given height that is put in the middle between
`start` and where it ends from there. This is `start` again, unless numbers are so
large that the middle is rounded. -/
def centred (start height : Nat) : Scalar :=
  let first := Scalar.ofNat start
  let size := Scalar.ofNat height
  (first + (first + size)) / 2 - size / 2

/-- Where a checkbox with a label is drawn, below the pane or alone. It takes one row
at least. -/
def checkbox (screen : Screen) (paneDrawn : Bool) (label : String) : Rect :=
  let rows := labelRows (checkboxRoom screen.width paneDrawn) label
  let height := max rowHeight (lineHeight * rows.length)
  .ofCorner margin (centred (checkboxTop screen.height paneDrawn) height).toRat
    (boxWidth + widest rows) height

end Layout

end Reveal
