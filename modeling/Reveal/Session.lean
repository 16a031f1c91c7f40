import Reveal.Window
import Reveal.ScrollArea
import Reveal.Focus
import Reveal.Run

/-!
# Reveal — a session on the screen

A window that is drawn frame by frame while the user points and types.

A frame first finds out what the pointer does to the widgets of the frame before.
Then it draws the pane, if it is visible, and the checkbox; an activation of the
checkbox shows only in the next frame.

* *Scrolling.* The scrolled area on the screen keeps its own offset, also while
  the pane is hidden. The window's offset is put into it only by the first frame
  that draws the pane after one that did not; every frame that draws the pane
  gives the area's offset, brought into the scroll range, back to the window.
* *Pointer.* A click with the primary button activates the checkbox.
* *Keyboard.* While the checkbox has the focus, Space and Enter activate it.

The main definitions:

* `Session.hand` — what the pointer does in a frame;
* `Session.layOut` — what the frame draws;
* `Session.activates` — whether the input then activates the checkbox;
* `Session.frame`, `Session.step`, `Session.run` — a frame, a step, a list of steps.
-/

namespace Reveal

/-- A window on a screen, and what is remembered from frame to frame. -/
structure Session where
  window : Window
  screen : Screen
  /-- The scrolled area on the screen. -/
  area : ScrollArea := {}
  /-- Whether the last frame drew the pane. -/
  paneDrawn : Bool := false
  /-- Where the last frame drew the checkbox. -/
  box : Option Rect := none
  /-- The widgets that the last frame drew, from back to front. -/
  drawn : List Widget := []
  clock : Clock := {}
  pointer : Pointer := {}
  grip : Grip := {}
  focus : Focus := {}
  /-- Whether some of the document is selected. -/
  selected : Bool := false
deriving DecidableEq, Repr

namespace Session

/-- The session before its first frame, with what making the window logs. -/
def build (settings : Settings) (document : Document) (screen : Screen) : Session × List Event :=
  let (window, events) := Window.build settings document
  ({ window := window, screen := screen }, events)

/-! ## The input of a frame -/

/-- The point that a target stands for, if there is one yet. -/
def locate (s : Session) : Target → Option Point
  | .checkbox => s.box.map Rect.center
  | .point p => some p

/-- The point that the pointer is moved to. -/
def place (s : Session) : Input → Option Point
  | .press _ target | .release _ target => s.locate target
  | _ => none

/-- The clock in the frame with that input. What the input tells has to be shown,
so that the frame asks to be followed at once. -/
def tick (s : Session) (input : Input) : Clock :=
  let clock := s.clock.tick (input = .rest)
  if input.isEvent then clock.hurry else clock

/-- What the pointer does in the frame with that input. -/
def hand (s : Session) (input : Input) : Hand :=
  Hand.take s.pointer s.grip s.drawn (s.tick input).now (s.place input) input

/-! ## Drawing -/

/-- The checkbox, as a widget of a frame that draws the pane or does not. -/
def checkboxName (s : Session) : Widget.Name := .checkbox s.paneDrawn

/-- The scrolled area as it is put before the document is drawn in it. -/
def placedArea (s : Session) : ScrollArea :=
  if s.paneDrawn then s.area else s.area.scrollTo s.window.pane.scroll

/-- Where the frame draws the document, with all that is not seen. -/
def textBounds (s : Session) : Rect :=
  Layout.text s.window.pane.document s.placedArea.offset

/-- What the frame with that input draws of the area. -/
def drawnArea (s : Session) (input : Input) : ScrollArea.Drawn :=
  let document := s.window.pane.document
  let hand := s.hand input
  s.placedArea.draw
    { now := (s.tick input).now
      step := s.clock.step (input = .rest)
      screen := s.screen
      document
      hand
      sought := Selection.sought s.selected document s.textBounds (Layout.window s.screen) hand }

/-- Whether some of the document is selected after the frame with that input. -/
def selectedAfter (s : Session) (input : Input) : Bool :=
  s.window.pane.visible && Selection.remains s.selected s.textBounds (Layout.window s.screen)
    (s.hand input) (input.key? == some .escape)

def drawPane (s : Session) (input : Input) : Session :=
  let clock := s.tick input
  if s.window.pane.visible then
    let d := s.drawnArea input
    { s with
      window := s.window.scrollTo d.area.offset
      area := d.area
      paneDrawn := true
      drawn := d.widgets
      clock := if d.restless then clock.hurry else clock }
  else { s with paneDrawn := false, drawn := [], clock := clock }

def drawCheckbox (s : Session) : Session :=
  let box := Layout.checkbox s.screen s.paneDrawn s.window.checkbox.label
  { s with box := some box, drawn := s.drawn ++ [⟨s.checkboxName, box⟩] }

/-- The screen at the end of a frame: the widgets are cut off at its edges, and the
pointer and its grip are where the input brought them. -/
def layOut (s : Session) (input : Input) : Session :=
  let hand := s.hand input
  let selected := s.selectedAfter input
  let s := (s.drawPane input).drawCheckbox
  { s with
    selected
    drawn := s.drawn.map fun w => { w with bounds := w.bounds.meet (Layout.whole s.screen) }
    pointer := hand.pointer
    grip := hand.grip }

/-! ## A frame -/

/-- The focus while the frame is drawn, when all widgets have asked for it. -/
def turn (s : Session) (input : Input) : Focus.Turn :=
  (s.focus.begin input.key?).offerAll (s.drawn.map (·.name))

/-- Whether the input activates the checkbox, in a session that the frame has laid
out. -/
def activates (s : Session) (hand : Hand) (input : Input) : Bool :=
  hand.clicks s.checkboxName ||
    (input.key?.any Key.activates && (s.turn input).holder == some s.checkboxName)

/-- The focus at the end of the frame. -/
def focusAfter (s : Session) (hand : Hand) (input : Input) : Focus :=
  (s.turn input).finish (s.drawn.map (·.name)) hand.clicksBeside

/-- Draws one frame with the given input. An activated checkbox reports the state
that it does not have yet. -/
def frame (s : Session) (input : Input) : Except Mismatch (Session × List Event) := do
  let hand := s.hand input
  let s := s.layOut input
  let (window, events) ←
    if s.activates hand input then
      (s.window.act (.report !s.window.checkbox.isChecked)).map fun (w, reply) => (w, reply.events)
    else .ok (s.window, [])
  return ({ s with window := window, focus := s.focusAfter hand input }, events)

/-! ## Steps and runs -/

/-- The smallest thing that can happen in a session. -/
inductive Moment where
  /-- Something is done to the window, and nothing is drawn. -/
  | act (action : Window.Action)
  /-- The screen gets another size, for later frames. -/
  | resize (screen : Screen)
  /-- A frame is drawn. -/
  | frame (input : Input)
deriving DecidableEq, Repr

/-- Goes through one moment. -/
def advance (s : Session) : Moment → Except Mismatch (Session × List Event)
  | .act action => (s.window.act action).map fun (w, reply) => ({ s with window := w }, reply.events)
  | .resize screen => .ok ({ s with screen := screen }, [])
  | .frame input => s.frame input

/-- Goes through some moments, and collects what they log. -/
def advanceAll (s : Session) (moments : List Moment) : Except Mismatch (Session × List Event) :=
  (Run.attempt advance s moments).map fun (s, events) => (s, events.flatten)

/-- What can happen in a session. -/
inductive Step where
  | act (action : Window.Action)
  | resize (screen : Screen)
  | gesture (gesture : Gesture)
deriving DecidableEq, Repr

/-- The moments that a step consists of. -/
def Step.moments : Step → List Moment
  | act action => [.act action]
  | resize screen => [.resize screen]
  | gesture g => g.inputs.map .frame

def step (s : Session) (what : Step) : Except Mismatch (Session × List Event) :=
  s.advanceAll what.moments

/-- The session after a list of steps, with all that they log. -/
def run (s : Session) (steps : List Step) : Except Mismatch (Session × List Event) :=
  s.advanceAll (steps.flatMap Step.moments)

/-- The session after each of the steps, with what the step logged. -/
def trace (s : Session) (steps : List Step) : Except Mismatch (List (Session × List Event)) :=
  Run.attemptTrace step s steps

/-! ## What a frame does -/

/-- A frame never fails. It lays out, moves the focus, and turns the window over if
the input activates the checkbox. -/
theorem frame_eq (s : Session) (input : Input) :
    s.frame input =
      let hand := s.hand input
      let drawn := s.layOut input
      let after := { drawn with focus := drawn.focusAfter hand input }
      if drawn.activates hand input then
        let checked := !drawn.window.checkbox.isChecked
        .ok ({ after with window := drawn.window.become checked }, [.visibilityUpdated checked])
      else .ok (after, []) := by
  by_cases h : (s.layOut input).activates (s.hand input) input
  · simp [frame, h, Window.act_report, Except.map, bind, Except.bind, pure, Except.pure]
  · simp [frame, h, bind, Except.bind, pure, Except.pure]

end Session

end Reveal
