import Reveal.Pane
import Reveal.Run

/-!
# Reveal — changes in flight

A checkbox and a pane that are connected by a queue: a change waits until it is
delivered, oldest first, so that it can be out of date by then. Changes can also
be forged, that is delivered without any checkbox having made them.

* `Channel.step` — one step, with what it replied and what was logged;
* `Channel.run`, `Channel.trace` — a list of steps.
-/

namespace Reveal

/-- A checkbox, a pane, and the changes on their way from one to the other,
oldest first. -/
structure Channel where
  checkbox : Checkbox
  pane : Pane
  pending : List Change := []
deriving DecidableEq, Repr

namespace Channel

/-- What can happen to a channel. -/
inductive Step where
  /-- Something is done to the checkbox; its change, if any, is queued. -/
  | act (action : Checkbox.Action)
  /-- The oldest queued change is delivered. -/
  | deliver
  /-- A made-up change is delivered; the queue is not touched. -/
  | forge (checked : Bool)
deriving DecidableEq, Repr

/-- How a step went. -/
inductive Result where
  /-- The checkbox changed, or did not. -/
  | acted (change : Option Change)
  /-- There was nothing to deliver. -/
  | nothingPending
  /-- The pane took the change over. -/
  | delivered
  /-- The change contradicted the checkbox. -/
  | refused (mismatch : Mismatch)
deriving DecidableEq, Repr

/-- What a step answers: how it went, and what it logged. -/
structure Reply where
  result : Result
  events : List Event
deriving DecidableEq, Repr

/-- Delivers one change. A refused one leaves no trace. -/
def take (c : Channel) (change : Change) : Channel × Reply :=
  match c.pane.deliver c.checkbox change with
  | .ok (pane, events) => ({ c with pane := pane }, ⟨.delivered, events⟩)
  | .error mismatch => (c, ⟨.refused mismatch, []⟩)

def step (c : Channel) : Step → Channel × Reply
  | .act action =>
    let (checkbox, change) := c.checkbox.act action
    ({ c with checkbox := checkbox, pending := c.pending ++ change.toList },
      ⟨.acted change, []⟩)
  | .deliver =>
    match c.pending with
    | [] => (c, ⟨.nothingPending, []⟩)
    | change :: later => { c with pending := later }.take change
  | .forge checked => c.take ⟨checked⟩

def run (c : Channel) (steps : List Step) : Channel := Run.after step c steps

/-- The state after each of the steps, with the step's reply. -/
def trace (c : Channel) (steps : List Step) : List (Channel × Reply) := Run.trace step c steps

end Channel

end Reveal
