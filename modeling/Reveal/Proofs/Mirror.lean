import Reveal.Proofs.Channel
import Reveal.Window

/-!
# Reveal — a window as a channel without delay

A window delivers every change of its checkbox within the action that has caused it. A
channel whose queue is emptied right after each action does the same: the two go on as
mirror images of each other (`Channel.Mirrors`), through actions that change something and
through those that change nothing, where the window stays silent and the channel finds
nothing to deliver. No change ever waits for longer than that, so none of them is out of date
when it arrives, and none is refused.

## Results

* `Mirrors.promptly`  — one action, and the delivery after it.
* `mirrors_run`       — a run.
* `window_mirrored`   — all of this for a new window, action for action.
-/

namespace Reveal

/-- What is done to a window to do this to its checkbox. -/
def Window.Action.ofCheckbox : Checkbox.Action → Window.Action
  | .click => .click
  | .report checked => .report checked

namespace Channel

/-- An action, and the delivery of what has come of it. -/
def promptly (action : Checkbox.Action) : List Step := [.act action, .deliver]

/-- All that a trace has logged. -/
def logged (trace : List (Channel × Reply)) : List Event := trace.flatMap fun t => t.2.events

/-- The channel is as the window is, and nothing is on its way. -/
structure Mirrors (c : Channel) (w : Window) : Prop where
  checkbox : c.checkbox = w.checkbox
  pane : c.pane = w.pane
  pending : c.pending = []

theorem mirrors_build (settings : Settings) (document : Document) :
    (fresh settings.label document).Mirrors (Window.build settings document).1 := ⟨rfl, rfl, rfl⟩

/-- How a window goes through an action, which is not refused. -/
theorem act_ofCheckbox (w : Window) (action : Checkbox.Action) :
    let checked := action.outcome w.checkbox.isChecked
    ∃ fired, (∀ b, action = .report b → fired = some (decide (checked ≠ w.checkbox.isChecked))) ∧
      w.act (.ofCheckbox action) =
        if checked = w.checkbox.isChecked then .ok (w, { fired := fired })
        else .ok (w.become checked, { fired := fired, events := [.visibilityUpdated checked] }) := by
  cases action with
  | click =>
    refine ⟨none, by simp, ?_⟩
    rw [Window.Action.ofCheckbox, Window.act_click, Checkbox.Action.outcome, if_neg (by simp)]
  | report checked =>
    refine ⟨some (decide (checked ≠ w.checkbox.isChecked)), fun _ _ => rfl, ?_⟩
    rw [Window.Action.ofCheckbox, Window.act_report, Checkbox.Action.outcome]
    split
    · next h => simp [h]
    · next h => simp [h]

/-- How a channel in which nothing is on its way goes through the same. -/
theorem step_promptly {c : Channel} (hempty : c.pending = []) (action : Checkbox.Action) :
    let checked := action.outcome c.checkbox.isChecked
    let queued := c.step (.act action)
    queued.2.events = [] ∧
      (queued.1.pending = [] ↔ checked = c.checkbox.isChecked) ∧
      queued.1.step .deliver =
        if checked = c.checkbox.isChecked then (c, ⟨.nothingPending, []⟩)
        else
          ({ c with
              checkbox := { c.checkbox with state := .ofBool checked }
              pane := { c.pane with visible := checked } },
            ⟨.delivered, [.visibilityUpdated checked]⟩) := by
  intro checked queued
  have hqueued : queued.1 = _ := step_act c action
  by_cases hsame : checked = c.checkbox.isChecked
  · -- the action changes nothing, so the delivery finds nothing
    have hstate : ({ c.checkbox with state := .ofBool checked } : Checkbox) = c.checkbox := by
      rw [hsame, Checkbox.isChecked, CheckState.ofBool_isChecked]
    have hqueued : queued.1 = c := by
      rw [hqueued, if_pos hsame, List.append_nil]
      exact congrArg (fun checkbox => ({ c with checkbox } : Channel)) hstate
    refine ⟨rfl, by simp [hqueued, hempty, hsame], ?_⟩
    rw [if_pos hsame, hqueued, step_deliver_nil hempty]
  · -- the only change on its way is the state that the checkbox has now
    rw [if_neg hsame, hempty, List.nil_append] at hqueued
    refine ⟨rfl, by simp [hqueued, hsame], ?_⟩
    have hagree : checked = ({ c.checkbox with state := .ofBool checked } : Checkbox).isChecked :=
      (CheckState.isChecked_ofBool checked).symm
    rw [if_neg hsame, hqueued, step_deliver_cons rfl, take_of_eq hagree, ← hagree, hempty]

/-- **One action, and the delivery after it**, leave the channel as the window is. -/
theorem Mirrors.promptly {c : Channel} {w : Window} (h : c.Mirrors w) (action : Checkbox.Action) :
    let queued := c.step (.act action)
    let settled := queued.1.step .deliver
    ∃ w' reply, w.act (.ofCheckbox action) = .ok (w', reply) ∧ settled.1.Mirrors w' ∧
      queued.2.events ++ settled.2.events = reply.events ∧
      settled.2.result = (if queued.1.pending = [] then .nothingPending else .delivered) ∧
      ∀ b, action = .report b → reply.fired = some (decide (queued.1.pending ≠ [])) := by
  intro queued settled
  obtain ⟨hsilent, hpending, hsettled⟩ := step_promptly h.pending action
  obtain ⟨fired, hfired, hact⟩ := act_ofCheckbox w action
  rw [h.checkbox] at hpending hsettled
  rw [hact, hsilent, List.nil_append]
  change settled = _ at hsettled
  -- an action that changes nothing queues nothing; any other one is delivered at once
  by_cases hsame : action.outcome w.checkbox.isChecked = w.checkbox.isChecked
  · rw [if_pos hsame] at hsettled ⊢
    refine ⟨w, _, rfl, ?_, ?_, ?_, ?_⟩
    · rw [hsettled]
      exact h
    · rw [hsettled]
    · rw [hsettled, if_pos (hpending.mpr hsame)]
    · intro b hb
      rw [hfired b hb]
      simp [hpending, hsame, queued]
  · rw [if_neg hsame] at hsettled ⊢
    refine ⟨_, _, rfl, ?_, ?_, ?_, ?_⟩
    · rw [hsettled]
      exact ⟨rfl, by rw [h.pane]; rfl, h.pending⟩
    · rw [hsettled]
    · rw [hsettled, if_neg (mt hpending.mp hsame)]
    · intro b hb
      rw [hfired b hb]
      simp [hpending, hsame, queued]

/-- **A run of actions** in the window, and in the channel with a delivery after each. -/
theorem mirrors_run {c : Channel} {w : Window} (h : c.Mirrors w) (actions : List Checkbox.Action) :
    ∃ w' replies, w.run (actions.map .ofCheckbox) = .ok (w', replies) ∧
      (c.run (actions.flatMap Channel.promptly)).Mirrors w' ∧
      logged (c.trace (actions.flatMap Channel.promptly)) = replies.flatMap (·.events) := by
  induction actions generalizing c w with
  | nil => exact ⟨w, [], rfl, h, rfl⟩
  | cons action actions ih =>
    obtain ⟨w₁, reply, hact, hmirrors, hevents, -⟩ := h.promptly action
    obtain ⟨w₂, replies, hrun, hlast, hlogged⟩ := ih hmirrors
    refine ⟨w₂, reply :: replies, ?_, hlast, ?_⟩
    · simp only [Window.run] at hrun
      simp only [Window.run, List.map_cons, Run.attempt, hact, hrun, bind, Except.bind, pure,
        Except.pure]
    · -- the two replies of the channel log what the one of the window does
      show _ = reply.events ++ replies.flatMap (·.events)
      rw [← hlogged, ← hevents, List.append_assoc]
      rfl

/-- **A window is a channel without delay.** Take any actions on the checkbox of a new window,
and a free checkbox with a free pane and a queue, in which each of the actions is followed by
one delivery. After all of them both have the same checkbox and the same pane, have logged the
same, and nothing is on its way. So it is after one more action and its delivery: the two
log what the window does, a delivery is never refused, it finds a change exactly if there is
one, and a reported state counts as a change in the window exactly if the delivery has found
it. -/
theorem window_mirrored (settings : Settings) (document : Document)
    (actions : List Checkbox.Action) (action : Checkbox.Action) :
    let start := (Window.build settings document).1
    let free := fresh settings.label document
    let steps := actions.flatMap Channel.promptly
    let c := free.run steps
    let queued := c.step (.act action)
    let settled := queued.1.step .deliver
    ∃ w replies w' reply,
      start.run (actions.map .ofCheckbox) = .ok (w, replies) ∧
      (c.checkbox = w.checkbox ∧ c.pane = w.pane ∧ c.pending = []) ∧
      logged (free.trace steps) = replies.flatMap (·.events) ∧
      w.act (.ofCheckbox action) = .ok (w', reply) ∧
      (settled.1.checkbox = w'.checkbox ∧ settled.1.pane = w'.pane ∧ settled.1.pending = []) ∧
      queued.2.events ++ settled.2.events = reply.events ∧
      settled.2.result = (if queued.1.pending = [] then .nothingPending else .delivered) ∧
      ∀ checked, action = .report checked →
        reply.fired = some (decide (queued.1.pending ≠ [])) := by
  intro start free steps c queued settled
  obtain ⟨w, replies, hrun, hmirrors, hlogged⟩ :=
    mirrors_run (mirrors_build settings document) actions
  obtain ⟨w', reply, hact, hsettled, hevents, hresult, hfired⟩ := hmirrors.promptly action
  exact ⟨w, replies, w', reply, hrun, ⟨hmirrors.checkbox, hmirrors.pane, hmirrors.pending⟩, hlogged,
    hact, ⟨hsettled.checkbox, hsettled.pane, hsettled.pending⟩, hevents, hresult, hfired⟩

end Channel

end Reveal
