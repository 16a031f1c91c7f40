import Reveal.Pane
import Reveal.Settings
import Reveal.Run

/-!
# Reveal — the document window

A window joins a checkbox and a pane: every change of the checkbox is delivered
to the pane at once, within the action that caused it. Nothing else makes the
pane visible or hides it.

* `Window.build` — the window of a document, hidden and unchecked;
* `Window.act` — a click, a reported state, or a new scroll offset;
* `Window.run` — a list of these.
-/

namespace Reveal

/-- A window with one document behind a checkbox. -/
structure Window where
  title : String
  checkbox : Checkbox
  pane : Pane
deriving DecidableEq, Repr

namespace Window

/-- The window of a document, with what making it logs. -/
def build (settings : Settings) (document : Document) : Window × List Event :=
  ({ title := settings.title
     checkbox := { label := settings.label }
     pane := { document := document } },
   [.buildingWindow document.byteLength document.lineCount])

/-- Whether the document can be seen exactly if the box is ticked. -/
def isConsistent (w : Window) : Bool := w.pane.visible == w.checkbox.isChecked

/-- Remembers how far the document is scrolled. -/
def scrollTo (w : Window) (offset : Offset) : Window :=
  { w with pane := { w.pane with scroll := offset } }

/-- What can be done to a window. -/
inductive Action where
  /-- The user clicks on the checkbox. -/
  | click
  /-- The control on the screen reports its state. -/
  | report (checked : Bool)
  /-- The document was scrolled. -/
  | scroll (offset : Offset)
deriving DecidableEq, Repr

/-- What an action answers. -/
structure Reply where
  /-- For a reported state: whether it was a change. -/
  fired : Option Bool := none
  events : List Event := []
deriving DecidableEq, Repr

/-- Does something to the checkbox and delivers the change, if there is one. -/
def press (w : Window) (action : Checkbox.Action) :
    Except Mismatch (Window × Option Change × List Event) :=
  let (checkbox, change) := w.checkbox.act action
  match change with
  | none => .ok ({ w with checkbox := checkbox }, none, [])
  | some change => do
    let (pane, events) ← w.pane.deliver checkbox change
    return ({ w with checkbox := checkbox, pane := pane }, some change, events)

def act (w : Window) : Action → Except Mismatch (Window × Reply)
  | .click => do
    let (w, _, events) ← w.press .click
    return (w, { events := events })
  | .report checked => do
    let (w, change, events) ← w.press (.report checked)
    return (w, { fired := some change.isSome, events := events })
  | .scroll offset => .ok (w.scrollTo offset, {})

/-- The window after a list of actions, with the reply to each. -/
def run (w : Window) (actions : List Action) : Except Mismatch (Window × List Reply) :=
  Run.attempt act w actions

/-! ## What an action does -/

/-- The window with the box ticked and the document shown, or neither. -/
def become (w : Window) (checked : Bool) : Window :=
  { w with
    checkbox := { w.checkbox with state := .ofBool checked }
    pane := { w.pane with visible := checked } }

/-- A click turns the window over: the change that it delivers is never refused. -/
theorem act_click (w : Window) :
    w.act .click =
      .ok (w.become !w.checkbox.isChecked,
        { events := [.visibilityUpdated !w.checkbox.isChecked] }) := by
  obtain ⟨title, ⟨label, state⟩, pane⟩ := w
  cases state <;> rfl

/-- A reported state takes effect exactly if it is a new one. -/
theorem act_report (w : Window) (checked : Bool) :
    w.act (.report checked) =
      if checked = w.checkbox.isChecked then .ok (w, { fired := some false })
      else
        .ok (w.become checked,
          { fired := some true, events := [.visibilityUpdated checked] }) := by
  obtain ⟨title, ⟨label, state⟩, pane⟩ := w
  cases state <;> cases checked <;> rfl

end Window

end Reveal
