import Reveal.Input
import Reveal.Clock

/-!
# Reveal — the pointer

Where the pointer is, which buttons are down, and what that amounts to. A press
and a release make a click if little time lies between them and the pointer hardly
moved; otherwise the pointer drags.

* `Pointer.take` — what an input does to the pointer;
* `Pointer.mayClick` — whether what is going on may still become a click;
* `Stroke` — what the pointer did in one frame.
-/

namespace Reveal

/-- What the pointer did in a frame. -/
structure Stroke where
  /-- Whether a button went down. -/
  pressed : Bool := false
  /-- The button that was released. -/
  released : Option Button := none
  /-- Whether the release ended a click. -/
  clicked : Bool := false
  /-- The way that the pointer went. -/
  moved : Point := .zero
deriving DecidableEq, Repr

/-- Where and when a button was pressed. -/
structure Press where
  origin : Point
  time : Rat
deriving DecidableEq, Repr

structure Pointer where
  /-- Where it is, once it has been moved. -/
  position : Option Point := none
  /-- The latest press, until a button is released. -/
  press : Option Press := none
  /-- Whether the pointer went too far from the latest press for a click. -/
  strayed : Bool := false
  /-- Whether the primary button is down. -/
  primary : Bool := false
  /-- Whether the secondary button is down. -/
  secondary : Bool := false
  /-- Where it was in the recent frames since the latest press, oldest first. -/
  trail : List (Rat × Point) := []
deriving DecidableEq, Repr

namespace Pointer

/-- The longest way that the pointer may go in a click. -/
def clickRadius : Rat := 6

/-- The longest time that a click may take. -/
def clickTime : Rat := instant (mkRat 4 5)

/-- For how long the trail is kept. -/
def trailTime : Rat := (Scalar.ofRat (mkRat 1 10)).toRat

def isDown (p : Pointer) : Bool := p.primary || p.secondary

/-- Whether what is going on may still become a click, or, at a release, has
become one. `busy` tells whether a button is down or was just released. -/
def mayClick (p : Pointer) (now : Rat) (busy : Bool) : Bool :=
  busy && !p.strayed && p.press.all fun press => decide (instant (now - press.time) ≤ clickTime)

def moveTo (p : Pointer) (there : Point) : Pointer :=
  { p with
    position := some there
    strayed := p.strayed ||
      p.press.any fun press => decide (clickRadius * clickRadius < press.origin.distanceSq there) }

/-- Puts a button down or up. -/
def setButton (p : Pointer) (down : Bool) : Button → Pointer
  | .primary => { p with primary := down }
  | .secondary => { p with secondary := down }

def pressButton (p : Pointer) (now : Rat) (button : Button) : Pointer :=
  { p with
    press := p.position.map fun origin => ⟨origin, now⟩
    strayed := false
    trail := [] }.setButton true button

def releaseButton (p : Pointer) (button : Button) : Pointer :=
  { p with press := none }.setButton false button

/-- The trail with the present place at its end, and without the oldest places
where more than two are left and they are too old. -/
def trailWith (p : Pointer) (now : Rat) : List (Rat × Point) :=
  let places := p.trail ++ (p.position.map fun here => (now, here)).toList
  let old := (places.takeWhile fun place => decide (place.1 < instant (now - trailTime))).length
  places.drop (min old (places.length - 2))

/-- How fast the pointer goes, in points per second, by the ends of its trail.
Two places are too few to tell. -/
def velocity (p : Pointer) : Point :=
  match p.trail with
  | first :: _ :: rest@(_ :: _) =>
    let last := rest.getLast?.getD first
    let time := Scalar.ofRat (instant (last.1 - first.1))
    if Scalar.ofRat (mkRat 1 100) < time then
      let way := last.2 - first.2
      ⟨way.x / time, way.y / time⟩
    else .zero
  | _ => .zero

/-- What an input does to the pointer, where `place` is the point that the input's
target stands for. Without one the pointer stays where it is. -/
def take (p : Pointer) (now : Rat) (place : Option Point) (input : Input) : Pointer × Stroke :=
  let here := place.elim p p.moveTo
  let moved := match p.position, here.position with
    | some before, some after => after - before
    | _, _ => .zero
  let (p, stroke) : Pointer × Stroke :=
    match input with
    | .press button _ => (here.pressButton now button, { pressed := true, moved := moved })
    | .release button _ =>
      (here.releaseButton button,
        { released := some button, clicked := here.mayClick now here.isDown, moved := moved })
    | _ => (p, {})
  ({ p with trail := p.trailWith now }, stroke)

/-- Whether the pointer certainly drags: something goes on that can be no click,
and it did not begin in this frame. -/
def isDragging (p : Pointer) (now : Rat) (stroke : Stroke) : Bool :=
  let busy := p.isDown || stroke.released.isSome
  busy && !stroke.pressed && !p.mayClick now busy && !stroke.clicked

end Pointer

end Reveal
