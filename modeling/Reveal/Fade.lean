import Reveal.Clock

/-!
# Reveal — fading

Something on the screen that appears and disappears within a twelfth of a second.

* `Fade.advance` — a step towards being there or not;
* `Fade.strength` — how much of it is to be seen.
-/

namespace Reveal

/-- How far something has appeared. -/
structure Fade where
  /-- Between 0, for not at all, and 1. -/
  level : Scalar
  /-- The time of the last step. -/
  time : Rat
deriving DecidableEq, Repr

namespace Fade

/-- How long it takes to appear or to disappear. -/
def duration : Scalar := 1 / 12

/-- The first time it is there at once, or not there. -/
def start (now : Rat) (step : Scalar) (shown : Bool) : Fade :=
  ⟨if shown then 1 else 0, instant (now - step.toRat)⟩

/-- Goes on to appear or to disappear, by the time since the last step, but at
most by `step`. -/
def advance (f : Fade) (now : Rat) (step : Scalar) (shown : Bool) : Fade :=
  let elapsed := (Scalar.ofRat (instant (now - f.time))).smaller step
  let change := elapsed / duration
  let level := if shown then f.level + change else f.level - change
  ⟨(level.larger 0).smaller 1, now⟩

/-- The first step or a further one. -/
def next (f : Option Fade) (now : Rat) (step : Scalar) (shown : Bool) : Fade :=
  match f with
  | none => start now step shown
  | some f => f.advance now step shown

/-- Whether it is on the way between the two. -/
def isMoving (f : Fade) : Bool := decide (0 < f.level) && decide (f.level < 1)

/-- A course from 0 to 1 that slows down towards its end. -/
def slowing (t : Scalar) : Scalar :=
  let rest := t - 1
  rest * rest * rest + 1

/-- How much of it is to be seen. This is not the level itself: it changes fast at
first and then slowly, in either direction. -/
def strength (f : Fade) (shown : Bool) : Scalar :=
  if shown then slowing f.level else 1 - slowing (1 - f.level)

end Fade

end Reveal
