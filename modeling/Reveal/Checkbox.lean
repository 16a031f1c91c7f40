/-!
# Reveal — the checkbox

The control that shows and hides the text. It has a fixed label and one of two
states, and it tells its subscriber about every change of state, once, and about
nothing else.

* `CheckState` — unchecked or checked;
* `Change` — the notification of a change, with the state after it;
* `Checkbox.click`, `Checkbox.report` — a click by the user, and a state that the
  control on the screen reports;
* `Checkbox.act` — either, as an `Action`.
-/

namespace Reveal

inductive CheckState where
  | unchecked | checked
deriving DecidableEq, Repr, Inhabited

namespace CheckState

def isChecked : CheckState → Bool
  | unchecked => false
  | checked => true

def flip : CheckState → CheckState
  | unchecked => checked
  | checked => unchecked

def ofBool : Bool → CheckState
  | false => unchecked
  | true => checked

@[simp] theorem isChecked_ofBool (b : Bool) : (ofBool b).isChecked = b := by cases b <;> rfl

@[simp] theorem ofBool_isChecked (s : CheckState) : ofBool s.isChecked = s := by cases s <;> rfl

@[simp] theorem isChecked_flip (s : CheckState) : s.flip.isChecked = !s.isChecked := by
  cases s <;> rfl

end CheckState

/-- The notification that a checkbox has changed its state. -/
structure Change where
  /-- The state after the change. -/
  checked : Bool
deriving DecidableEq, Repr

structure Checkbox where
  label : String
  state : CheckState := .unchecked
deriving DecidableEq, Repr

namespace Checkbox

def isChecked (c : Checkbox) : Bool := c.state.isChecked

/-- Brings the checkbox into the state `next` and gives the notification of the
change, if there is one. -/
def moveTo (c : Checkbox) (next : CheckState) : Checkbox × Option Change :=
  if next = c.state then (c, none)
  else ({ c with state := next }, some ⟨next.isChecked⟩)

/-- A click by the user: always a change. -/
def click (c : Checkbox) : Checkbox × Option Change := c.moveTo c.state.flip

/-- Takes over the state that the control on the screen reports; a change only
if it is a new one. -/
def report (c : Checkbox) (checked : Bool) : Checkbox × Option Change :=
  c.moveTo (.ofBool checked)

inductive Action where
  | click
  | report (checked : Bool)
deriving DecidableEq, Repr

def act (c : Checkbox) : Action → Checkbox × Option Change
  | .click => c.click
  | .report checked => c.report checked

/-! ## What an action does -/

/-- A click always changes the state, and is always notified. -/
theorem act_click (c : Checkbox) :
    c.act .click = ({ c with state := .ofBool !c.isChecked }, some ⟨!c.isChecked⟩) := by
  obtain ⟨label, state⟩ := c
  cases state <;> rfl

/-- A reported state is notified exactly if it is a new one. -/
theorem act_report (c : Checkbox) (checked : Bool) :
    c.act (.report checked) =
      ({ c with state := .ofBool checked },
        if checked = c.isChecked then none else some ⟨checked⟩) := by
  obtain ⟨label, state⟩ := c
  cases state <;> cases checked <;> rfl

/-- Whether a box is ticked after an action, if it was so before or not. -/
def Action.outcome : Action → Bool → Bool
  | .click, checked => !checked
  | .report next, _ => next

/-- An action brings about its outcome, and is notified if that is not the state
already. -/
theorem act_eq (c : Checkbox) (action : Action) :
    c.act action =
      ({ c with state := .ofBool (action.outcome c.isChecked) },
        if action.outcome c.isChecked = c.isChecked then none
        else some ⟨action.outcome c.isChecked⟩) := by
  cases action with
  | click => rw [act_click]; cases c.isChecked <;> simp [Action.outcome]
  | report checked => rw [act_report]; rfl

end Checkbox

end Reveal
