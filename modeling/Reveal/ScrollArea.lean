import Reveal.Selection
import Reveal.Track

/-!
# Reveal — the scrolled area

The area on the screen in which the document is drawn. It keeps its own scroll
offset, and as long as there is something to scroll, the pointer can move it: it
drags the background, which coasts on for a while when it is let go of in motion,
or it takes one of the scroll bars. The area also brings into view what is to be
seen.

Both axes are alike (`Track`), and influence each other only when a bar holds the text
back at the end of its range, which stops the text altogether.

* `ScrollArea.draw` — what a frame does, with the widgets that it draws.
-/

namespace Reveal

structure ScrollArea where
  x : Track := {}
  y : Track := {}
  /-- Where its inside was drawn last. -/
  bounds : Option Rect := none
deriving DecidableEq, Repr

namespace ScrollArea

def offset (a : ScrollArea) : Offset := ⟨a.x.offset, a.y.offset⟩

/-- Scrolls it to an offset, as far as that will go in the next frame. -/
def scrollTo (a : ScrollArea) (o : Offset) : ScrollArea :=
  { a with x := { a.x with offset := o.x }, y := { a.y with offset := o.y } }

/-- What moves the text along an axis. -/
def motion (a : ScrollArea) (hand : Hand) (axis : Axis) : Motion :=
  if ¬ (a.x.overflows ∨ a.y.overflows) then .none
  else if hand.grip.dragged = some .area then .drag (hand.stroke.moved.along axis)
  else if hand.touch.dropped = some .area then .coast (some (hand.pointer.velocity.along axis))
  else .coast none

/-- The space between something that is brought into view and the edge of the area. -/
def space : Axis → Scalar
  | .x => 8
  | .y => 3

/-- What a frame knows when it draws the area. -/
structure Frame where
  now : Rat
  /-- How much time a motion makes up for. -/
  step : Scalar
  screen : Screen
  document : Document
  hand : Hand
  /-- What is to be seen. -/
  sought : Option Spot
deriving DecidableEq, Repr

namespace Frame

/-- The extents along an axis of the area, and of the text if it is scrolled by
`offset`. -/
def extent (f : Frame) (offset : Offset) : Axis → Extent
  | .x => ⟨Layout.paneWidth f.screen.width, .ofRat (Layout.textWidth f.document offset.x)⟩
  | .y => ⟨Layout.paneHeight f.screen.height, .ofNat (Layout.textHeight f.document offset.y)⟩

/-- How far the text has to go along an axis to show what is to be seen. -/
def way (f : Frame) (axis : Axis) : Scalar :=
  f.sought.elim 0 fun spot =>
    Track.way (spot.along axis) ((Spot.ofRect (Layout.window f.screen)).along axis) (space axis)

/-- What the frame does along an axis. `offset` is how far the text is scrolled where
the frame draws it. -/
def advance (f : Frame) (offset : Offset) (track : Track) (motion : Motion) (axis : Axis) :
    Track.Drawn :=
  let step := f.step.smaller Track.longestStep
  let (track, coasting) := track.move step motion
  let (track, pursuing) := track.pursue f.now step
  let way := f.way axis
  let track := if way.numEq 0 then track else track.aim f.now way
  let drawn := track.settle
    { axis
      now := f.now
      step := f.step
      extent := f.extent offset axis
      aside := (f.extent offset axis.other).track
      screen := f.screen
      hand := f.hand }
  { drawn with restless := drawn.restless || coasting || pursuing || !way.numEq 0 }

end Frame

structure Drawn where
  area : ScrollArea
  /-- From back to front. -/
  widgets : List Widget
  /-- Whether the area is not at rest yet. -/
  restless : Bool
deriving DecidableEq, Repr

/-- Draws the area with a document in it. The background is a widget if the last
frame found something to scroll, at the place where that frame drew it. -/
def draw (a : ScrollArea) (f : Frame) : Drawn :=
  let background := if a.x.overflows || a.y.overflows then a.bounds.toList else []
  let text := (Layout.text f.document a.offset).meet (Layout.window f.screen)
  let x := f.advance a.offset a.x (a.motion f.hand .x) .x
  let y := f.advance a.offset a.y (a.motion f.hand .y) .y
  let stop (t : Track) := if x.stopped || y.stopped then { t with velocity := .zero } else t
  { area := { x := stop x.track, y := stop y.track, bounds := some (Layout.pane f.screen) }
    widgets := background.map (⟨.area, ·⟩) ++ [⟨.text, text⟩] ++
      x.bar.toList.map (⟨.bar .x, ·⟩) ++ y.bar.toList.map (⟨.bar .y, ·⟩)
    restless := x.restless || y.restless }

end ScrollArea

end Reveal
