import Reveal.Fade
import Reveal.Grip
import Reveal.Layout

/-!
# Reveal — scroll bars

A scroll bar floats on the edge of the scrolled area. It fades in when the text
becomes larger than the area, as a thin line, and swells to its full width while the
pointer is near it. The pointer can take its handle; where it meets the bar beside the
handle, the handle comes to it.

* `ScrollBar.appear` — the bar fades in or out;
* `ScrollBar.swell` — the bar swells or shrinks;
* `ScrollBar.steer` — the offset to which the pointer has moved the handle.
-/

namespace Reveal

/-- A scroll bar between two frames. -/
structure ScrollBar where
  /-- How far the bar has appeared. -/
  fade : Option Fade := none
  /-- How far it has swollen. -/
  swelling : Option Fade := none
  /-- Whether the pointer was on it or dragged it when it was drawn last. -/
  engaged : Bool := false
  /-- Where the pointer holds the handle, counted from the end of the handle where the
  bar begins. -/
  grab : Option Scalar := none
deriving DecidableEq, Repr

structure Interval where
  low : Scalar
  high : Scalar
deriving DecidableEq, Repr

namespace Interval

def length (i : Interval) : Scalar := i.high - i.low

def contains (i : Interval) (v : Scalar) : Bool := decide (i.low ≤ v) && decide (v ≤ i.high)

/-- The number that lies in the interval as `v` lies between `0` and `range`. -/
def project (i : Interval) (range v : Scalar) : Scalar :=
  if v ≤ 0 then i.low
  else if range ≤ v then i.high
  else
    let part := v / range
    (1 - part) * i.low + part * i.high

end Interval

/-- What a text and the area that it is scrolled in amount to on an axis. -/
structure Extent where
  /-- The inner extent of the area. -/
  area : Nat
  /-- The extent of the text. -/
  text : Scalar
deriving DecidableEq, Repr

namespace Extent

/-- How far the text can be scrolled; negative if there is space left. -/
def range (e : Extent) : Scalar := e.text - Scalar.ofNat e.area

/-- Whether the text is larger than the area. -/
def overflows (e : Extent) : Bool := decide (0 < e.range)

/-- The place of the area on the axis. -/
def track (e : Extent) : Interval := ⟨.ofNat Layout.margin, .ofNat (Layout.margin + e.area)⟩

end Extent

namespace ScrollBar

/-! ## Appearance -/

/-- The width of a bar that the pointer is not near. -/
def thinWidth : Scalar := 2

/-- The width of a bar that the pointer is on. -/
def fullWidth : Scalar := 10

/-- The least length of the handle. -/
def shortestHandle : Scalar := 12

/-- How much of the bar is to be seen, and whether that is changing. -/
structure Look where
  strength : Scalar
  changing : Bool
deriving DecidableEq, Repr

/-- The bar goes on to appear or to disappear, as the last frame found the text to be
too large or not. A bar that is missing although it is needed begins to appear at
once. -/
def appear (b : ScrollBar) (now : Rat) (step : Scalar) (before overflows : Bool) :
    ScrollBar × Look :=
  let fade := Fade.next b.fade now step before
  let strength := fade.strength before
  if overflows ∧ strength ≤ 0 then
    let late := Fade.next (some fade) now step true
    ({ b with fade := some late }, ⟨late.strength true, fade.isMoving || late.isMoving⟩)
  else ({ b with fade := some fade }, ⟨strength, fade.isMoving⟩)

/-- The bar swells if `near`, or shrinks. The result is its width, where `strength` of
it is to be seen. -/
def swell (b : ScrollBar) (now : Rat) (step strength : Scalar) (near : Bool) :
    ScrollBar × Look :=
  let swelling := Fade.next b.swelling now step near
  let part := swelling.strength near
  ({ b with swelling := some swelling },
    ⟨strength * ((1 - part) * thinWidth + part * fullWidth), swelling.isMoving⟩)

/-- Where a bar of a given width lies across its axis: at the edge of the area, or of
the screen if that is nearer. -/
def across (edge screen width : Scalar) : Interval :=
  let low := edge - width
  if screen < edge then ⟨screen - (edge - low), screen⟩ else ⟨low, edge⟩

/-- The rectangle of a bar along an axis. -/
def bounds (axis : Axis) (along across : Interval) : Rect :=
  let (x, y) := match axis with
    | .x => (along, across)
    | .y => (across, along)
  ⟨x.low.toRat, y.low.toRat, x.high.toRat, y.high.toRat⟩

/-! ## The handle -/

/-- The handle of the bar of a text that is scrolled by `offset`. -/
def handle (e : Extent) (offset : Scalar) : Interval :=
  let track := e.track
  let length := (track.project e.text (offset + .ofNat e.area) -
    track.project e.text offset).larger shortestHandle
  let start := (⟨track.low, track.high - length⟩ : Interval).project e.range offset
  ⟨start, start + length⟩

/-- Where the pointer takes the handle that it has not held yet: where it is on it, or
in the middle of where the handle comes to. `onBar` tells whether it is on the bar at
all, and not only near. -/
def seize (track handle : Interval) (place : Scalar) (onBar : Bool) : Scalar :=
  if onBar && handle.contains place then place - handle.low
  else
    let length := handle.length
    place - ((place - length / 2).larger track.low).smaller (track.high - length)

/-- The pointer has the handle: where it holds it, and the offset to which it has moved
it. -/
def steer (b : ScrollBar) (e : Extent) (offset place : Scalar) (onBar : Bool) :
    ScrollBar × Scalar :=
  let track := e.track
  let handle := handle e offset
  let grab := b.grab.getD (seize track handle place onBar)
  let lowest := track.high - handle.length
  let moved := (place - grab) - track.low
  ({ b with grab := some grab },
    if lowest = track.low then .zero else moved / (lowest - track.low) * e.range)

end ScrollBar

end Reveal
