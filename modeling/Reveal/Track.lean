import Reveal.ScrollBar

/-!
# Reveal — scrolling along an axis

How far a text is scrolled along one axis, and what moves it: the pointer drags the
text, the text coasts on after it was let go of in motion, it goes to a goal by
itself, or the pointer moves the handle of the scroll bar.

* `Track.move` — dragging and coasting;
* `Track.pursue` — a step towards the goal;
* `Track.aim` — a new goal;
* `Track.settle` — the bar is drawn, and the text brought into its range.
-/

namespace Reveal

/-- An offset that a text goes to, within a given time. -/
structure Goal where
  offset : Scalar
  start : Rat
  stop : Rat
deriving DecidableEq, Repr

/-- The scrolling along one axis. -/
structure Track where
  offset : Scalar := .zero
  /-- How fast the text coasts, in points per second. -/
  velocity : Scalar := .zero
  /-- Whether the text was larger than the area in the last frame that drew it. -/
  overflows : Bool := false
  goal : Option Goal := none
  bar : ScrollBar := {}
deriving DecidableEq, Repr

/-- What moves the text along an axis in a frame. -/
inductive Motion where
  /-- There was nothing to scroll. -/
  | none
  /-- The pointer drags the text, by so much. -/
  | drag (way : Scalar)
  /-- The text coasts, if it has been let go of in motion just now, that fast. -/
  | coast (launch : Option Scalar)
deriving DecidableEq, Repr

namespace Track

/-! ## Dragging and coasting -/

/-- How much slower a coasting text becomes in a second. -/
def friction : Scalar := 1000

/-- The speed below which a text stops. -/
def stopSpeed : Scalar := 20

/-- The longest time that a frame makes up for. -/
def longestStep : Scalar := .ofRat (mkRat 1 10)

/-- Coasts through a frame: the text loses speed, or stops. -/
def coast (t : Track) (step : Scalar) : Track :=
  let loss := friction * step
  let speed := t.velocity.abs
  if speed < loss ∨ speed < stopSpeed then { t with velocity := .zero }
  else
    let velocity := if t.velocity.isNegative then t.velocity + loss else t.velocity - loss
    { t with velocity := velocity, offset := t.offset - velocity * step }

/-- Moves the text, and tells whether it coasts. A text that is dragged has no goal any
more. -/
def move (t : Track) (step : Scalar) : Motion → Track × Bool
  | .none => (t, false)
  | .drag way => ({ t with offset := t.offset - way, goal := none }, false)
  | .coast launch =>
    let t := { t with velocity := launch.getD t.velocity }.coast step
    (t, decide (t.velocity ≠ .zero))

/-! ## Goals -/

/-- A course from 0 to 1 that begins and ends slowly. -/
def gentle (t : Scalar) : Scalar :=
  let t := (t.larger 0).smaller 1
  ((3 * t * t - 2 * t * t * t).larger 0).smaller 1

/-- How much of the way that is left to a goal is gone in a frame of the length `step`
that ends at `now`. -/
def Goal.part (g : Goal) (now : Rat) (step : Scalar) : Scalar :=
  let time := Scalar.ofRat (instant (g.stop - g.start))
  let course (moment : Rat) := gentle (Scalar.ofRat (instant (moment - g.start)) / time)
  let before := course (instant (now - step.toRat))
  let after := course now
  if after < 1 then (after - before) / (1 - before) else 1

/-- Goes on towards the goal, and tells whether it is still to be reached. -/
def pursue (t : Track) (now : Rat) (step : Scalar) : Track × Bool :=
  match t.goal with
  | none => (t, false)
  | some goal =>
    let arrived := { t with offset := goal.offset, velocity := .zero, goal := none }
    if (t.offset - goal.offset).abs < 1 then (arrived, false)
    else
      let part := Goal.part goal now step
      if part < 1 then
        ({ t with offset := (1 - part) * t.offset + part * goal.offset, velocity := .zero }, true)
      else (arrived, false)

/-- How fast a text goes to its goal, in points per second. -/
def pursuit : Scalar := 1000

/-- The shortest and the longest time that this may take. -/
def pursuitTimes : Interval := ⟨.ofRat (mkRat 1 10), .ofRat (mkRat 3 10)⟩

/-- The text is to go on by `way`. If it has a goal already, that one is moved. -/
def aim (t : Track) (now : Rat) (way : Scalar) : Track :=
  let offset := t.offset + way
  let goal := match t.goal with
    | some goal => { goal with offset := offset }
    | none =>
      let time := ((way.abs / pursuit).larger pursuitTimes.low).smaller pursuitTimes.high
      { offset := offset, start := now, stop := instant (now + time.toRat) }
  { t with goal := some goal }

/-- How far a text has to go for an interval on it to be seen in a window, with some
space on the side where it was hidden. It does not move if the interval is seen, or
if it hides both sides of the window. -/
def way (interval window : Interval) (space : Scalar) : Scalar :=
  if interval.low < window.low ∧ interval.high < window.high then
    -((window.low - interval.low + space).smaller (window.high - interval.high - space))
  else if window.high < interval.high ∧ window.low < interval.low then
    (interval.high - window.high + space).smaller (interval.low - window.low - space)
  else 0

/-! ## The bar -/

/-- What a frame knows of an axis when it draws the scroll bar. -/
structure Frame where
  axis : Axis
  now : Rat
  step : Scalar
  extent : Extent
  /-- The place of the area on the other axis. -/
  aside : Interval
  screen : Screen
  hand : Hand
deriving DecidableEq, Repr

namespace Frame

/-- The name of the bar. -/
def name (f : Frame) : Widget.Name := .bar f.axis

/-- Where the screen ends on the other axis. -/
def screenEdge (f : Frame) : Scalar :=
  match f.axis with
  | .x => .ofNat f.screen.height
  | .y => .ofNat f.screen.width

/-- Where a bar of a given width lies across its axis. -/
def across (f : Frame) (width : Scalar) : Interval :=
  ScrollBar.across f.aside.high f.screenEdge width

/-- The place of a swollen bar, as far as it is on the screen. -/
def surroundings (f : Frame) : Rect :=
  (ScrollBar.bounds f.axis f.extent.track
    ⟨f.aside.high - ScrollBar.fullWidth, f.aside.high⟩).meet (Layout.whole f.screen)

/-- Whether the pointer is where the bar is when it is swollen, and drags nothing. -/
def isNear (f : Frame) : Bool :=
  f.hand.grip.dragged.isNone && f.hand.pointer.position.any f.surroundings.contains

end Frame

/-- What a frame has drawn along an axis. -/
structure Drawn where
  track : Track
  /-- The place of the bar, if there is one. -/
  bar : Option Rect
  /-- Whether the text had to be held back at an end of its range. -/
  stopped : Bool
  /-- Whether something goes on that the next frame should show. -/
  restless : Bool
deriving DecidableEq, Repr

/-- Moves the text to where the pointer has the handle, if it deals with the bar. -/
def steer (t : Track) (f : Frame) (across : Interval) : Track :=
  match f.hand.pointer.position with
  | some place =>
    if f.hand.engages f.name then
      let onBar := across.contains (place.along f.axis.other)
      let (bar, offset) := t.bar.steer f.extent t.offset (place.along f.axis) onBar
      { t with bar := bar, offset := offset, goal := none }
    else { t with bar := { t.bar with grab := none } }
  | none => { t with bar := { t.bar with grab := none } }

/-- Brings the text into its range. -/
def bound (t : Track) (f : Frame) : Track := { t with offset := t.offset.clamp f.extent.range }

/-- Whether the text is beyond its range. -/
def isBeyond (t : Track) (f : Frame) : Bool :=
  decide (f.extent.range < 0) || !(t.bound f).offset.numEq t.offset

/-- Draws the bar, which `look` tells the strength of. -/
def drawBar (t : Track) (f : Frame) (look : ScrollBar.Look) : Drawn :=
  if look.strength ≤ 0 then
    { track := { t with bar := { t.bar with engaged := false } }
      bar := none, stopped := false, restless := false }
  else
    let near := f.isNear || t.bar.engaged
    let (bar, size) := t.bar.swell f.now f.step look.strength near
    let across := f.across size.strength
    let engaged := f.hand.isOn f.name || f.hand.grip.dragged == some f.name
    let t := { t with bar := { bar with engaged := engaged } }.steer f across
    { track := t
      bar := some (ScrollBar.bounds f.axis f.extent.track across)
      stopped := t.isBeyond f
      restless := size.changing }

/-- Ends the frame along an axis: the bar is drawn, and the text is brought into its
range. `before` tells whether it was too large in the last frame. -/
def settle (t : Track) (f : Frame) : Drawn :=
  let overflows := f.extent.overflows
  let (bar, look) := t.bar.appear f.now f.step t.overflows overflows
  let drawn := { t with bar := bar }.drawBar f look
  { drawn with
    track := { drawn.track.bound f with overflows := overflows }
    restless := drawn.restless || look.changing || overflows != t.overflows }

end Track

end Reveal
