import Reveal.Scalar

/-!
# Reveal — the clock

Frames follow each other at a fixed distance. The time is counted in seconds and
kept in double precision, so that a sum of many steps is not quite a multiple of
one.

A motion on the screen needs to know how much time to make up for in a frame. The
time since the last frame is a good answer only if that frame asked to be followed
at once; otherwise nothing was waiting, and a motion starts with the time that a
smooth display takes for a frame.

* `Clock.tick` — the beginning of a frame;
* `Clock.hurry` — a frame asks to be followed at once.
-/

namespace Reveal

/-- A time, or a difference of times, as it is kept. -/
def instant (t : Rat) : Rat := Rounding.toDigits 53 t

/-- The time, and what recent frames asked for. -/
structure Clock where
  /-- The time of the last frame. -/
  now : Rat := 0
  /-- Whether the last frame asked to be followed at once. -/
  soon : Bool := false
  /-- Whether the next frame asks for it in any case. A frame that asks has two
  others follow it, for the layout to settle. -/
  again : Bool := true
deriving DecidableEq, Repr

namespace Clock

/-- The time from one frame to the next. -/
def interval : Rat := instant (mkRat 1 20)

/-- The length of a rest, which keeps gestures apart. -/
def rest : Rat := 1

/-- The time that a smooth display takes for a frame. -/
def smooth : Scalar := .ofRat (mkRat 1 60)

/-- Begins a frame, after a rest if there is one. -/
def tick (c : Clock) (rested : Bool) : Clock :=
  let before := if rested then instant (c.now + rest) else c.now
  { now := instant (before + interval), soon := c.again, again := false }

/-- How much time a motion makes up for in the frame that `tick` begins. -/
def step (c : Clock) (rested : Bool) : Scalar :=
  if c.soon then .ofRat (instant ((c.tick rested).now - c.now)) else smooth

/-- The frame asks to be followed at once. -/
def hurry (c : Clock) : Clock := { c with soon := true, again := true }

end Clock

end Reveal
