import Mathlib.Data.List.DropRight
import Reveal.Proofs.Session

/-!
# Reveal — the history of a window

A click depends on the state that it finds, a reported state does not: what was clicked
and reported before it is of no account any more. So the state of a window is that of the
last report, turned over by each click since then; and its scroll offset is the last one that
it was given. Neither depends on the other, and what a window logs and answers depends on the
first alone. Two histories that differ only in how clicks and reports are interleaved with
scrolling cannot be told apart.

## Results

* `run_eq`         — no run fails, and what a run is then.
* `ticked_concat`  — the state that a history stands for, from one action to the next.
* `after_build`    — a new window has the state and the offset that its history stands for.
* `told_toggles`   — what it logs and answers comes from the clicks and reports.
* `run_history`    — all of this.
-/

namespace Reveal.Window

/-! ## Runs -/

/-- The reply to an action. -/
def reply (w : Window) : Action → Reply
  | .click => { events := [.visibilityUpdated !w.checkbox.isChecked] }
  | .report checked =>
    if checked = w.checkbox.isChecked then { fired := some false }
    else { fired := some true, events := [.visibilityUpdated checked] }
  | .scroll _ => {}

/-- The window after an action, with the reply to it. -/
def perform (w : Window) (action : Action) : Window × Reply := (w.next action, w.reply action)

/-- No action fails, so that an action is what it leaves and what it replies. -/
theorem act_eq_perform (w : Window) (action : Action) : w.act action = .ok (w.perform action) := by
  cases action with
  | click => exact w.act_click
  | report checked =>
    rw [act_report, perform, next, reply]
    split
    · rfl
    · rfl
  | scroll offset => rfl

/-- **No run fails.** -/
theorem run_eq (w : Window) (actions : List Action) :
    w.run actions =
      .ok (Run.after perform w actions, (Run.trace perform w actions).map Prod.snd) :=
  Run.attempt_eq act_eq_perform w actions

/-- The reply depends on nothing but the checkbox. -/
theorem reply_congr {w w' : Window} (h : w.checkbox.isChecked = w'.checkbox.isChecked)
    (action : Action) : w.reply action = w'.reply action := by
  cases action with
  | click => rw [reply, reply, h]
  | report checked => rw [reply, reply, h]
  | scroll offset => rfl

/-- The reply to a reported state tells whether it was a new one. -/
theorem fired_report (w : Window) (checked : Bool) :
    (w.reply (.report checked)).fired = some (checked != w.checkbox.isChecked) := by
  rw [reply]
  split
  · next h => simp [h]
  · next h => simp [h]

/-! ## What a history stands for -/

namespace Action

/-- The state that is reported, if one is. -/
def reported? : Action → Option Bool
  | report checked => some checked
  | click | scroll _ => none

/-- The offset that is scrolled to, if one is. -/
def offset? : Action → Option Offset
  | scroll offset => some offset
  | click | report _ => none

end Action

/-- The last reported state. A new window is as if hidden by a report. -/
def lastReported (actions : List Action) : Bool :=
  ((actions.filterMap Action.reported?).getLast?).getD false

/-- How often the window was clicked after the last report. -/
def clicksSince (actions : List Action) : Nat :=
  (actions.rtakeWhile fun action => action.reported?.isNone).count .click

/-- Whether the box is ticked, and the document shown, by a history. -/
def ticked (actions : List Action) : Bool :=
  xor (lastReported actions) (decide (clicksSince actions % 2 = 1))

/-- The clicks and reports of a history. -/
def toggles (actions : List Action) : List Action :=
  actions.filter fun action => action.offset?.isNone

/-- The offsets of a history. -/
def scrolls (actions : List Action) : List Offset := actions.filterMap Action.offset?

/-- Where the document is scrolled to, by a history. -/
def lastOffset (actions : List Action) : Offset := ((scrolls actions).getLast?).getD .origin

theorem ticked_click (actions : List Action) :
    ticked (actions ++ [.click]) = !ticked actions := by
  have hreported : lastReported (actions ++ [.click]) = lastReported actions := by
    simp [lastReported, Action.reported?]
  -- the click is among those after the last report, if there is one
  have hclicks : clicksSince (actions ++ [.click]) = clicksSince actions + 1 := by
    rw [clicksSince, List.rtakeWhile_concat_pos _ _ _ rfl, List.count_append]
    rfl
  -- one click more changes the parity
  have hparity : decide ((clicksSince actions + 1) % 2 = 1) =
      !decide (clicksSince actions % 2 = 1) := by
    rw [Bool.eq_iff_iff, Bool.not_eq_true', decide_eq_true_eq, decide_eq_false_iff_not]
    omega
  rw [ticked, hreported, hclicks, hparity, Bool.xor_not, ticked]

theorem ticked_report (actions : List Action) (checked : Bool) :
    ticked (actions ++ [.report checked]) = checked := by
  have hreported : lastReported (actions ++ [.report checked]) = checked := by
    simp [lastReported, Action.reported?]
  -- nothing has come after the report yet
  have hclicks : clicksSince (actions ++ [.report checked]) = 0 := by
    rw [clicksSince, List.rtakeWhile_concat_neg _ _ _ (by simp [Action.reported?])]
    rfl
  rw [ticked, hreported, hclicks]
  exact Bool.xor_false checked

theorem ticked_scroll (actions : List Action) (offset : Offset) :
    ticked (actions ++ [.scroll offset]) = ticked actions := by
  have hreported : lastReported (actions ++ [.scroll offset]) = lastReported actions := by
    simp [lastReported, Action.reported?]
  have hclicks : clicksSince (actions ++ [.scroll offset]) = clicksSince actions := by
    rw [clicksSince, List.rtakeWhile_concat_pos _ _ _ rfl, List.count_append]
    rfl
  rw [ticked, hreported, hclicks, ticked]

/-- **The state that a history stands for**, from one action to the next. -/
theorem ticked_concat (actions : List Action) (action : Action) :
    ticked (actions ++ [action]) =
      match action with
      | .click => !ticked actions
      | .report checked => checked
      | .scroll _ => ticked actions := by
  cases action with
  | click => exact ticked_click actions
  | report checked => exact ticked_report actions checked
  | scroll offset => exact ticked_scroll actions offset

example : ticked [.click, .report true, .click, .scroll .origin, .click] = true := by decide

/-- Only what records an offset is left out. -/
theorem toggles_concat (actions : List Action) {action : Action} (h : action.offset? = none) :
    toggles (actions ++ [action]) = toggles actions ++ [action] := by
  simp [toggles, h]

theorem toggles_concat_scroll (actions : List Action) (offset : Offset) :
    toggles (actions ++ [.scroll offset]) = toggles actions := by
  simp [toggles, Action.offset?]

/-- What records an offset does not tick anything. -/
theorem ticked_toggles (actions : List Action) : ticked (toggles actions) = ticked actions := by
  induction actions using List.reverseRecOn with
  | nil => rfl
  | append_singleton actions action ih =>
    cases action with
    | click => rw [toggles_concat actions rfl, ticked_click, ticked_click, ih]
    | report checked => rw [toggles_concat actions rfl, ticked_report, ticked_report]
    | scroll offset => rw [toggles_concat_scroll, ticked_scroll, ih]

/-- The last offset is that of the last action that records one. -/
theorem lastOffset_concat (actions : List Action) (action : Action) :
    lastOffset (actions ++ [action]) = action.offset?.getD (lastOffset actions) := by
  unfold lastOffset scrolls
  cases action with
  | click => simp [Action.offset?]
  | report checked => simp [Action.offset?]
  | scroll offset => simp [Action.offset?]

/-! ## New windows -/

/-- **A new window has the state and the offset that its history stands for.** -/
theorem after_build (settings : Settings) (document : Document) (actions : List Action) :
    Run.after perform (build settings document).1 actions =
      { title := settings.title
        checkbox := { label := settings.label, state := .ofBool (ticked actions) }
        pane :=
          { document := document, visible := ticked actions, scroll := lastOffset actions } } := by
  -- on the last action: what comes before it is summed up in the window that it finds
  induction actions using List.reverseRecOn with
  | nil => rfl
  | append_singleton actions action ih =>
    rw [Run.after_append, ih, ticked_concat, lastOffset_concat]
    cases action with
    | click =>
      show next _ .click = _
      simp [next, become, Checkbox.isChecked, Action.offset?]
    | report checked =>
      show next _ (.report checked) = _
      rw [next]
      split
      · -- nothing is new: the state that is reported is the one that the window has
        next h =>
          rw [Checkbox.isChecked, CheckState.isChecked_ofBool] at h
          rw [h]
          rfl
      · rfl
    | scroll offset => rfl

/-- The checkbox shows what the actions come to. -/
theorem isChecked_after_build (settings : Settings) (document : Document)
    (actions : List Action) :
    (Run.after perform (build settings document).1 actions).checkbox.isChecked =
      ticked actions := by
  rw [after_build]
  exact CheckState.isChecked_ofBool _

/-- The replies to the actions of a history. -/
def told (settings : Settings) (document : Document) (actions : List Action) : List Reply :=
  (Run.trace perform (build settings document).1 actions).map Prod.snd

/-- An action replies to what the ones before it have left. -/
theorem told_concat (settings : Settings) (document : Document) (actions : List Action)
    (action : Action) :
    told settings document (actions ++ [action]) =
      told settings document actions ++
        [(Run.after perform (build settings document).1 actions).reply action] := by
  rw [told, Run.trace_append, List.map_append]
  rfl

/-- **What a new window logs and answers** comes from the clicks and reports. -/
theorem told_toggles (settings : Settings) (document : Document) (actions : List Action) :
    (told settings document (toggles actions)).flatMap (·.events) =
        (told settings document actions).flatMap (·.events) ∧
      (told settings document (toggles actions)).filterMap (·.fired) =
        (told settings document actions).filterMap (·.fired) := by
  -- on the last action, as the reply to it depends on what all those before it stand for
  induction actions using List.reverseRecOn with
  | nil => exact ⟨rfl, rfl⟩
  | append_singleton actions action ih =>
    obtain ⟨hevents, hfired⟩ := ih
    by_cases hscroll : action.offset? = none
    · -- both histories go on by the same action, from the same state
      have hreply : (Run.after perform (build settings document).1 (toggles actions)).reply action =
          (Run.after perform (build settings document).1 actions).reply action := by
        refine reply_congr ?_ action
        rw [isChecked_after_build, isChecked_after_build, ticked_toggles]
      rw [toggles_concat actions hscroll, told_concat, told_concat, hreply]
      simp only [List.flatMap_append, List.filterMap_append, hevents, hfired]
      exact ⟨trivial, trivial⟩
    · -- one of them goes on, and says nothing about it
      obtain ⟨offset, rfl⟩ : ∃ offset, action = .scroll offset := by
        cases action with
        | click => exact absurd rfl hscroll
        | report checked => exact absurd rfl hscroll
        | scroll offset => exact ⟨offset, rfl⟩
      rw [toggles_concat_scroll, told_concat]
      simp [hevents, hfired, reply]

/-- **A window is known from its history.** Take any actions on a new window. None of them fails.
The box is ticked, and the document shown, if the last report said so and an even number of clicks
has come after it, or if it said otherwise (or there was none) and the number is odd; the offset is
the last one scrolled to, if there is one; and each report counts as a change exactly if it differs
from the state that the actions before it stand for. So actions with the same clicks and reports,
and the same offsets, lead to the same window, and have logged and answered the same, in whatever
way the two are interleaved. -/
theorem run_history (settings : Settings) (document : Document) (actions : List Action) :
    let start := (build settings document).1
    (∃ w replies, start.run actions = .ok (w, replies) ∧
      (w.title = settings.title ∧ w.checkbox.label = settings.label ∧
        w.pane.document = document) ∧
      w.checkbox.isChecked = ticked actions ∧ w.pane.visible = ticked actions ∧
      w.pane.scroll = lastOffset actions ∧
      ∀ n checked, actions[n]? = some (.report checked) →
        ∃ r, replies[n]? = some r ∧ r.fired = some (checked != ticked (actions.take n))) ∧
    ∀ others, toggles others = toggles actions → scrolls others = scrolls actions →
      ∃ w replies replies',
        start.run actions = .ok (w, replies) ∧ start.run others = .ok (w, replies') ∧
        replies.flatMap (·.events) = replies'.flatMap (·.events) ∧
        replies.filterMap (·.fired) = replies'.filterMap (·.fired) := by
  intro start
  refine ⟨⟨_, _, start.run_eq actions, ?_, ?_, ?_, ?_, ?_⟩, ?_⟩
  · rw [after_build]
    exact ⟨rfl, rfl, rfl⟩
  · exact isChecked_after_build settings document actions
  · rw [after_build]
  · rw [after_build]
  · intro n checked hn
    -- the reply was given by the window that the actions before this one had led to
    have hreply : ((Run.trace perform start actions).map Prod.snd)[n]? =
        some ((Run.after perform start (actions.take n)).reply (.report checked)) := by
      rw [List.getElem?_map, Run.getElem?_trace, hn]
      rfl
    refine ⟨_, hreply, ?_⟩
    rw [fired_report, isChecked_after_build]
  · intro others htoggles hscrolls
    -- the clicks and reports give the state, the offsets the offset, and that is all there is
    have hsame : Run.after perform start others = Run.after perform start actions := by
      have hoffset : lastOffset others = lastOffset actions := by
        rw [lastOffset, lastOffset, hscrolls]
      rw [after_build, after_build, hoffset, ← ticked_toggles others, htoggles, ticked_toggles]
    -- both are told what they would be told for the clicks and reports alone
    obtain ⟨hevents, hfired⟩ := told_toggles settings document actions
    obtain ⟨hevents', hfired'⟩ := told_toggles settings document others
    rw [htoggles] at hevents' hfired'
    refine ⟨_, _, _, start.run_eq actions, (start.run_eq others).trans (by rw [hsame]), ?_, ?_⟩
    · exact hevents.symm.trans hevents'
    · exact hfired.symm.trans hfired'

end Reveal.Window
