import Mathlib.Data.List.Chain
import Reveal.Channel

/-!
# Reveal — what is in flight, and what has arrived

A change of the checkbox may wait for its delivery, be overtaken by later ones, or
be joined by forged ones, so that the pane is out of step with the checkbox for a
while. One invariant (`InStep`) says how far: the changes on their way alternate,
the newest of them is the state of the checkbox, and when nothing is on its way
the pane has caught up.

Of an alternating queue the oldest change is the same as the newest exactly if
their number is odd, and a delivery succeeds exactly if the change that it delivers
is still the state of the checkbox. So it is the parity of the queue that decides
about a delivery.

## Results

* `inStep_run`             — the invariant holds after every run.
* `pending_alternates`     — the queue alternates up to the state of the checkbox,
  and its parity tells how the next delivery goes.
* `visible_of_drained`     — once the queue is empty the pane is in step, and
  emptying it takes over one state in every second delivery.
-/

namespace Reveal.Channel

/-- A checkbox and a pane that nothing has been done to yet. -/
def fresh (label : String) (document : Document) : Channel :=
  { checkbox := { label := label }, pane := { document := document } }

/-- A change that turns over the change before it. -/
def TurnsOver (before after : Change) : Prop := after.checked = !before.checked

/-! ## Single steps -/

/-- An action makes its outcome the state of the checkbox, and queues it if it is a
new one. The pane does not learn of it. -/
theorem step_act (c : Channel) (action : Checkbox.Action) :
    (c.step (.act action)).1 =
      { c with
        checkbox := { c.checkbox with state := .ofBool (action.outcome c.checkbox.isChecked) }
        pending := c.pending ++
          if action.outcome c.checkbox.isChecked = c.checkbox.isChecked then []
          else [⟨action.outcome c.checkbox.isChecked⟩] } := by
  simp only [step, Checkbox.act_eq]
  split <;> rfl

/-- A change that agrees with the checkbox is taken over by the pane. -/
theorem take_of_eq {c : Channel} {change : Change}
    (h : change.checked = c.checkbox.isChecked) :
    c.take change =
      ({ c with pane := { c.pane with visible := c.checkbox.isChecked } },
        ⟨.delivered, [.visibilityUpdated c.checkbox.isChecked]⟩) := by
  simp [take, Pane.deliver, h]

/-- A change that contradicts the checkbox leaves no trace. -/
theorem take_of_ne {c : Channel} {change : Change}
    (h : change.checked ≠ c.checkbox.isChecked) :
    c.take change = (c, ⟨.refused ⟨change.checked, c.checkbox.isChecked⟩, []⟩) := by
  simp [take, Pane.deliver, h]

theorem take_pending (c : Channel) (change : Change) :
    (c.take change).1.pending = c.pending := by
  by_cases h : change.checked = c.checkbox.isChecked
  · rw [take_of_eq h]
  · rw [take_of_ne h]

theorem take_checkbox (c : Channel) (change : Change) :
    (c.take change).1.checkbox = c.checkbox := by
  by_cases h : change.checked = c.checkbox.isChecked
  · rw [take_of_eq h]
  · rw [take_of_ne h]

theorem step_deliver_nil {c : Channel} (h : c.pending = []) :
    c.step .deliver = (c, ⟨.nothingPending, []⟩) := by
  simp [step, h]

theorem step_deliver_cons {c : Channel} {change : Change} {later : List Change}
    (h : c.pending = change :: later) :
    c.step .deliver = { c with pending := later }.take change := by
  simp [step, h]

/-! ## Alternating queues -/

/-- In an alternating queue the oldest change is the same as the newest exactly if
there is an odd number of them: going from one to the next turns it over. -/
theorem oldest_eq_newest_iff {change newest : Change} {later : List Change}
    (halt : (change :: later).IsChain TurnsOver)
    (hnew : (change :: later).getLast? = some newest) :
    change.checked = newest.checked ↔ (change :: later).length % 2 = 1 := by
  induction later generalizing change with
  | nil =>
    simp only [List.getLast?_singleton, Option.some.injEq] at hnew
    simp [hnew]
  | cons next later ih =>
    rw [List.isChain_cons_cons] at halt
    rw [List.getLast?_cons_cons] at hnew
    have hturn : change.checked = newest.checked ↔ ¬ next.checked = newest.checked := by
      rw [halt.1]
      cases change.checked <;> cases newest.checked <;> simp
    rw [hturn, ih halt.2 hnew, List.length_cons (a := change)]
    omega

/-! ## The invariant -/

/-- How far a checkbox and a pane may be out of step. -/
structure InStep (c : Channel) : Prop where
  alternates : c.pending.IsChain TurnsOver
  newest : ∀ change ∈ c.pending.getLast?, change.checked = c.checkbox.isChecked
  caughtUp : c.pending = [] → c.pane.visible = c.checkbox.isChecked

theorem inStep_fresh (label : String) (document : Document) :
    InStep (fresh label document) where
  alternates := .nil
  newest := by simp [fresh]
  caughtUp _ := rfl

/-- An action queues a change to what the checkbox then shows, or none if nothing changes. -/
theorem InStep.act {c : Channel} (h : c.InStep) (action : Checkbox.Action) :
    (c.step (.act action)).1.InStep := by
  rw [step_act]
  by_cases hsame : action.outcome c.checkbox.isChecked = c.checkbox.isChecked
  · -- nothing new: no change is queued, and the checkbox is what it was
    simp only [hsame, if_true, List.append_nil]
    exact ⟨h.alternates, by simpa [Checkbox.isChecked] using h.newest,
      by simpa [Checkbox.isChecked] using h.caughtUp⟩
  · simp only [hsame, if_false]
    refine ⟨?_, by simp [Checkbox.isChecked], by simp⟩
    -- the new change turns over the one that was the newest up to now
    rw [List.isChain_append]
    refine ⟨h.alternates, .singleton _, ?_⟩
    intro before hbefore after hafter
    obtain rfl : _ = after := by simpa using hafter
    rw [TurnsOver, h.newest before hbefore]
    revert hsame
    cases action.outcome c.checkbox.isChecked <;> cases c.checkbox.isChecked <;> simp

/-- A change that is taken over puts the pane in step, and one that is refused
changes nothing: either way what is queued may go on being so. -/
theorem InStep.take {c : Channel} (h : c.InStep) (change : Change) :
    (c.take change).1.InStep := by
  by_cases hagree : change.checked = c.checkbox.isChecked
  · rw [take_of_eq hagree]
    exact ⟨h.alternates, h.newest, fun _ => rfl⟩
  · rw [take_of_ne hagree]
    exact h

/-- A delivery takes the oldest change, so that the rest still alternates. -/
theorem InStep.deliver {c : Channel} (h : c.InStep) : (c.step .deliver).1.InStep := by
  cases hp : c.pending with
  | nil => rw [step_deliver_nil hp]; exact h
  | cons change later =>
    rw [step_deliver_cons hp]
    have halt : later.IsChain TurnsOver := by
      have := h.alternates
      rw [hp] at this
      exact this.tail
    cases later with
    | nil =>
      -- the last change on its way is the state of the checkbox, so it is taken over
      have hagree : change.checked = c.checkbox.isChecked := h.newest change (by simp [hp])
      rw [take_of_eq (c := { c with pending := [] }) hagree]
      exact ⟨.nil, by simp, fun _ => rfl⟩
    | cons next later =>
      -- the newest one stays where it is, whatever becomes of the oldest
      refine InStep.take ⟨halt, ?_, by simp⟩ change
      intro newest hnewest
      exact h.newest newest (by rw [hp, List.getLast?_cons_cons]; exact hnewest)

theorem InStep.step {c : Channel} (h : c.InStep) (s : Step) : (c.step s).1.InStep := by
  cases s with
  | act action => exact h.act action
  | deliver => exact h.deliver
  | forge checked => exact h.take ⟨checked⟩

/-- **The invariant holds after every run**, whatever was forged and refused on the
way. -/
theorem inStep_run (label : String) (document : Document) (steps : List Step) :
    ((fresh label document).run steps).InStep :=
  Run.after_invariant (P := InStep) (fun _ s h => h.step s) (inStep_fresh label document) steps

/-! ## How a delivery goes -/

/-- The reply to a delivery, by the parity of the queue. -/
theorem InStep.deliver_reply {c : Channel} (h : c.InStep) :
    (c.step .deliver).2 =
      if c.pending = [] then ⟨.nothingPending, []⟩
      else if c.pending.length % 2 = 1 then
        ⟨.delivered, [.visibilityUpdated c.checkbox.isChecked]⟩
      else ⟨.refused ⟨!c.checkbox.isChecked, c.checkbox.isChecked⟩, []⟩ := by
  cases hp : c.pending with
  | nil => rw [step_deliver_nil hp]; rfl
  | cons change later =>
    rw [step_deliver_cons hp, if_neg (by simp)]
    obtain ⟨newest, hnew⟩ : ∃ newest, (change :: later).getLast? = some newest :=
      ⟨_, List.getLast?_cons⟩
    have hstate : newest.checked = c.checkbox.isChecked := h.newest newest (by simp [hp, hnew])
    have hparity := oldest_eq_newest_iff (hp ▸ h.alternates) hnew
    rw [hstate] at hparity
    -- by the parity the oldest change is the state of the checkbox, or the opposite
    by_cases hodd : (change :: later).length % 2 = 1
    · rw [if_pos hodd, take_of_eq (c := { c with pending := later }) (hparity.mpr hodd)]
    · rw [if_neg hodd, take_of_ne (c := { c with pending := later }) (mt hparity.mp hodd)]
      have hother : change.checked = !c.checkbox.isChecked := by
        have := mt hparity.mp hodd
        revert this
        cases change.checked <;> cases c.checkbox.isChecked <;> simp
      rw [hother]

/-- **What is in flight.** After every run the queued changes alternate, the newest
is the state of the checkbox, and the next delivery succeeds exactly if their number
is odd and is refused exactly if it is even and positive. -/
theorem pending_alternates (label : String) (document : Document) (steps : List Step) :
    let c := (fresh label document).run steps
    c.pending.IsChain (fun before after => after.checked = !before.checked) ∧
    (∀ newest, c.pending.getLast? = some newest → newest.checked = c.checkbox.isChecked) ∧
    ((c.step .deliver).2.result = .delivered ↔ c.pending.length % 2 = 1) ∧
    ((∃ mismatch, (c.step .deliver).2.result = .refused mismatch) ↔
      c.pending.length % 2 = 0 ∧ 0 < c.pending.length) := by
  intro c
  have h : c.InStep := inStep_run label document steps
  refine ⟨h.alternates, h.newest, ?_, ?_⟩
  · rw [h.deliver_reply]
    cases hp : c.pending with
    | nil => simp
    | cons change later =>
      rw [if_neg (by simp)]
      split <;> simp_all
  · rw [h.deliver_reply]
    cases hp : c.pending with
    | nil => simp
    | cons change later =>
      rw [if_neg (by simp)]
      split <;> simp_all

/-! ## Emptying the queue -/

/-- The reply to a delivery from a queue of `n + 1` changes, up to a checkbox that is
ticked or not. -/
def reply (checked : Bool) (n : Nat) : Reply :=
  if (n + 1) % 2 = 1 then ⟨.delivered, [.visibilityUpdated checked]⟩
  else ⟨.refused ⟨!checked, checked⟩, []⟩

/-- The replies to the deliveries of all of `n` changes. -/
def replies (checked : Bool) : Nat → List Reply
  | 0 => []
  | n + 1 => reply checked n :: replies checked n

/-- Every second of the deliveries succeeds, the last one in any case. -/
theorem countP_replies (checked : Bool) (n : Nat) :
    (replies checked n).countP (·.result = .delivered) = (n + 1) / 2 := by
  induction n with
  | zero => rfl
  | succ n ih =>
    rw [replies, List.countP_cons, ih, reply]
    split
    · simp only [decide_true, if_true]
      omega
    · simp only [reduceCtorEq, decide_false, Bool.false_eq_true, if_false]
      omega

/-- Each reply is the one change, or a refusal of the other. -/
theorem mem_replies {checked : Bool} {n : Nat} {r : Reply} (h : r ∈ replies checked n) :
    r = ⟨.delivered, [.visibilityUpdated checked]⟩ ∨
      r = ⟨.refused ⟨!checked, checked⟩, []⟩ := by
  induction n with
  | zero => simp [replies] at h
  | succ n ih =>
    rcases List.mem_cons.mp h with rfl | h
    · unfold reply
      split
      · exact Or.inl rfl
      · exact Or.inr rfl
    · exact ih h

/-- What deliveries do to a queue that they empty: the checkbox stays as it is, and
the replies are known from the length of the queue. -/
theorem InStep.drain {c : Channel} (h : c.InStep) {n : Nat} (hn : c.pending.length = n) :
    (c.run (List.replicate n .deliver)).pending = [] ∧
    (c.run (List.replicate n .deliver)).checkbox = c.checkbox ∧
    (c.trace (List.replicate n .deliver)).map Prod.snd = replies c.checkbox.isChecked n := by
  induction n generalizing c with
  | zero => exact ⟨List.length_eq_zero_iff.mp hn, rfl, rfl⟩
  | succ n ih =>
    -- one delivery takes the oldest change, and leaves the checkbox alone
    obtain ⟨change, later, hp⟩ := List.exists_cons_of_length_eq_add_one hn
    have hnext : (c.step .deliver).1.pending = later := by
      rw [step_deliver_cons hp, take_pending]
    have hbox : (c.step .deliver).1.checkbox = c.checkbox := by
      rw [step_deliver_cons hp, take_checkbox]
    have hreply : (c.step .deliver).2 = reply c.checkbox.isChecked n := by
      rw [h.deliver_reply, if_neg (by simp [hp]), hn, reply]
    have hlength : (c.step .deliver).1.pending.length = n := by
      rw [hnext]
      rw [hp, List.length_cons] at hn
      omega
    obtain ⟨hempty, hsame, hreplies⟩ := ih h.deliver hlength
    rw [hbox] at hsame hreplies
    refine ⟨hempty, hsame, ?_⟩
    rw [List.replicate_succ, trace, Run.trace, List.map_cons, hreply, replies]
    congr 1

/-- **The pane catches up.** After every run, whatever was forged and refused on the
way: if nothing is on its way, the pane is in step with the checkbox. And if `n`
changes are, `n` deliveries put it in step; exactly `⌈n / 2⌉` of them succeed, each
taking over and logging the state of the checkbox, and the others are refused. -/
theorem visible_of_drained (label : String) (document : Document) (steps : List Step) :
    let c := (fresh label document).run steps
    (c.pending = [] → c.pane.visible = c.checkbox.isChecked) ∧
    let deliveries := List.replicate c.pending.length Step.deliver
    let replied := (c.trace deliveries).map Prod.snd
    (c.run deliveries).pane.visible = c.checkbox.isChecked ∧
    (c.run deliveries).checkbox = c.checkbox ∧
    replied.countP (·.result = .delivered) = (c.pending.length + 1) / 2 ∧
    ∀ r ∈ replied,
      r = ⟨.delivered, [.visibilityUpdated c.checkbox.isChecked]⟩ ∨
        r = ⟨.refused ⟨!c.checkbox.isChecked, c.checkbox.isChecked⟩, []⟩ := by
  intro c
  have h : c.InStep := inStep_run label document steps
  refine ⟨h.caughtUp, ?_⟩
  intro deliveries replied
  obtain ⟨hempty, hsame, hreplies⟩ := h.drain rfl
  have hafter : (c.run deliveries).InStep :=
    Run.after_invariant (P := InStep) (fun _ s h => h.step s) h deliveries
  have hreplied : replied = replies c.checkbox.isChecked c.pending.length := hreplies
  refine ⟨?_, hsame, ?_, ?_⟩
  · rw [hafter.caughtUp hempty, hsame]
  · rw [hreplied, countP_replies]
  · rw [hreplied]
    exact fun _ hr => mem_replies hr

end Reveal.Channel
