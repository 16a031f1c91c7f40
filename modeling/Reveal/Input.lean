import Reveal.Geometry

/-!
# Reveal — input

What a frame can be told by the pointer and the keyboard, and the gestures that
a user makes, each of which takes a few frames.

* `Input` — the input of one frame;
* `Gesture.inputs` — the frames of a gesture.
-/

namespace Reveal

inductive Button where
  | primary | secondary
deriving DecidableEq, Repr

/-- What the pointer is moved to. -/
inductive Target where
  /-- The middle of the checkbox, where it was last drawn. -/
  | checkbox
  | point (p : Point)
deriving DecidableEq, Repr

inductive Key where
  | tab | space | enter | escape
  /-- A key that means nothing here. -/
  | other
deriving DecidableEq, Repr

namespace Key

/-- Whether the key stands for a click on what has the focus. -/
def activates : Key → Bool
  | space | enter => true
  | _ => false

end Key

/-- The input of one frame. -/
inductive Input where
  | idle
  /-- Nothing, but a second later. -/
  | rest
  /-- The pointer is moved there and a button is pressed. -/
  | press (button : Button) (target : Target)
  /-- The pointer is moved there and a button is released. -/
  | release (button : Button) (target : Target)
  | keyDown (key : Key)
  | keyUp (key : Key)
deriving DecidableEq, Repr

namespace Input

def key? : Input → Option Key
  | keyDown key => some key
  | _ => none

/-- Whether anything is told at all. -/
def isEvent : Input → Bool
  | idle | rest => false
  | _ => true

end Input

inductive Gesture where
  /-- Nothing, for one frame. -/
  | wait
  /-- Presses and releases a button, after the layout has settled. -/
  | click (button : Button) (target : Target)
  /-- Presses the primary button, after the layout has settled. -/
  | press (target : Target)
  /-- Releases the primary button. -/
  | release (target : Target)
  /-- Presses and releases a key. -/
  | key (key : Key)
deriving DecidableEq, Repr

/-- The inputs of the frames that a gesture takes. -/
def Gesture.inputs : Gesture → List Input
  | wait => [.idle]
  | click button target => [.rest, .idle, .press button target, .release button target]
  | press target => [.rest, .idle, .press .primary target]
  | release target => [.release .primary target]
  | key k => [.keyDown k, .keyUp k]

end Reveal
