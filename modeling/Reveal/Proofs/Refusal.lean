import Reveal.Proofs.Mirror

/-!
# Reveal — refused changes leave no trace

A change that contradicts the checkbox is refused before anything is done. So it makes no
difference to all that comes after it, except that it no longer waits if it was queued. A forged
one was never queued: a run in which forged changes are refused is the run without them, with the
same states and the same replies at all its other steps. A forged change that agrees with the
checkbox is taken over just as if the checkbox had made it.

What is logged is all that ever happens to the pane. Its document and its scroll offset stay as
they are, and it is visible or hidden as the last event says.

## Results

* `Run.trace_rest`           — steps that leave the state as it is can be left out of a run.
* `step_of_refusesForged`    — refused forged changes are such steps.
* `deliver_eq_forge`         — a queued change and a forged one have the same effect.
* `pane_run`                 — the pane is what the log says.
* `refused_without_trace`    — all of this for a checkbox and a pane that are new.
-/

namespace Reveal

/-! ## Runs without some of their steps -/

namespace Run

variable {σ ι ρ : Type} {step : σ → ι → σ × ρ} {skips : ι → σ × ρ → Bool}

/-- The steps of a run, each with what the trace holds for it, but for those that are skipped. -/
def rest (step : σ → ι → σ × ρ) (skips : ι → σ × ρ → Bool) (s : σ) (steps : List ι) :
    List (ι × σ × ρ) :=
  (steps.zip (trace step s steps)).filter fun t => !skips t.1 t.2

theorem rest_cons (s : σ) (i : ι) (steps : List ι) :
    rest step skips s (i :: steps) =
      if skips i (step s i) then rest step skips (step s i).1 steps
      else (i, step s i) :: rest step skips (step s i).1 steps := by
  rw [rest, trace, List.zip_cons_cons, List.filter_cons]
  cases skips i (step s i) <;> rfl

/-- **Steps that leave the state as it is can be left out**: what remains of the run goes through
the same states and gets the same replies. -/
theorem trace_rest (hskips : ∀ s i, skips i (step s i) = true → (step s i).1 = s) (s : σ)
    (steps : List ι) :
    trace step s ((rest step skips s steps).map Prod.fst) =
      (rest step skips s steps).map Prod.snd := by
  induction steps generalizing s with
  | nil => rfl
  | cons i steps ih =>
    rw [rest_cons]
    by_cases h : skips i (step s i) = true
    · -- the rest of the run begins where this step began
      rw [if_pos h, hskips s i h]
      exact ih s
    · rw [if_neg h, List.map_cons, List.map_cons, trace, ih]

theorem after_rest (hskips : ∀ s i, skips i (step s i) = true → (step s i).1 = s) (s : σ)
    (steps : List ι) :
    after step s ((rest step skips s steps).map Prod.fst) = after step s steps := by
  induction steps generalizing s with
  | nil => rfl
  | cons i steps ih =>
    rw [rest_cons]
    by_cases h : skips i (step s i) = true
    · rw [if_pos h, hskips s i h, ih s]
      show _ = after step (step s i).1 steps
      rw [hskips s i h]
    · rw [if_neg h]
      exact ih (step s i).1

end Run

/-- The visibility of the pane that an event reports. -/
def Event.shown? : Event → Option Bool
  | .visibilityUpdated checked => some checked
  | _ => none

namespace Channel

/-! ## Refused changes -/

/-- Whether a step has delivered a forged change that was refused. -/
def refusesForged : Step → Channel × Reply → Bool
  | .forge _, (_, ⟨.refused _, _⟩) => true
  | _, _ => false

/-- The steps of a run, with what the trace holds for each, without the forged changes that were
refused. -/
def kept (c : Channel) (steps : List Step) : List (Step × Channel × Reply) :=
  Run.rest step refusesForged c steps

/-- A refused forged change changes nothing, and nothing is logged. -/
theorem step_of_refusesForged {c : Channel} {s : Step} (h : refusesForged s (c.step s) = true) :
    (c.step s).1 = c ∧ (c.step s).2.events = [] := by
  cases s with
  | act action => simp [refusesForged] at h
  | deliver => simp [refusesForged] at h
  | forge checked =>
    by_cases hagree : checked = c.checkbox.isChecked
    · -- one that agrees is delivered, not refused
      rw [step, take_of_eq hagree] at h
      simp [refusesForged] at h
    · rw [step, take_of_ne hagree]
      exact ⟨rfl, rfl⟩

theorem logged_cons (c : Channel) (s : Step) (steps : List Step) :
    logged (c.trace (s :: steps)) = (c.step s).2.events ++ logged ((c.step s).1.trace steps) := by
  rw [logged, logged, trace, Run.trace, List.flatMap_cons]
  rfl

/-- Nothing of the log is missing without them. -/
theorem logged_kept (c : Channel) (steps : List Step) :
    logged ((c.kept steps).map Prod.snd) = logged (c.trace steps) := by
  induction steps generalizing c with
  | nil => rfl
  | cons s steps ih =>
    rw [logged_cons, kept, Run.rest_cons]
    by_cases h : refusesForged s (c.step s) = true
    · rw [if_pos h, (step_of_refusesForged h).2, List.nil_append]
      exact ih (c.step s).1
    · rw [if_neg h, List.map_cons, logged, List.flatMap_cons]
      exact congrArg ((c.step s).2.events ++ ·) (ih (c.step s).1)

/-! ## Queued and forged changes -/

/-- What waits behind a change has no part in how it is delivered. -/
theorem take_with_pending (c : Channel) (later : List Change) (change : Change) :
    ({ c with pending := later } : Channel).take change =
      ({ (c.take change).1 with pending := later }, (c.take change).2) := by
  by_cases h : change.checked = c.checkbox.isChecked
  · rw [take_of_eq h, take_of_eq (c := { c with pending := later }) h]
  · rw [take_of_ne h, take_of_ne (c := { c with pending := later }) h]

/-- **A queued change and a forged one have the same effect**, but for the queue. -/
theorem deliver_eq_forge (c : Channel) (checked : Bool) (later : List Change) :
    ({ c with pending := ⟨checked⟩ :: later } : Channel).step .deliver =
      ({ (c.step (.forge checked)).1 with pending := later }, (c.step (.forge checked)).2) := by
  rw [step_deliver_cons rfl]
  exact take_with_pending c later ⟨checked⟩

/-! ## What happens to the pane -/

/-- A step may show or hide the pane, and logs it if so; nothing else of it changes. -/
theorem pane_step (c : Channel) (s : Step) :
    (c.step s).1.pane =
      { c.pane with
        visible := ((c.step s).2.events.filterMap Event.shown?).getLast?.getD c.pane.visible } := by
  -- a delivery is the only step that could do so
  have htake : ∀ (c : Channel) change, (c.take change).1.pane =
      { c.pane with
        visible :=
          ((c.take change).2.events.filterMap Event.shown?).getLast?.getD c.pane.visible } := by
    intro c change
    by_cases h : change.checked = c.checkbox.isChecked
    · rw [take_of_eq h]
      rfl
    · rw [take_of_ne h]
      rfl
  cases s with
  | act action => rfl
  | deliver =>
    cases hp : c.pending with
    | nil =>
      rw [step_deliver_nil hp]
      rfl
    | cons change later =>
      rw [step_deliver_cons hp]
      exact htake _ change
  | forge checked => exact htake c ⟨checked⟩

/-- **The pane is what the log says**, and otherwise as it was. -/
theorem pane_run (c : Channel) (steps : List Step) :
    (c.run steps).pane =
      { c.pane with
        visible :=
          ((logged (c.trace steps)).filterMap Event.shown?).getLast?.getD c.pane.visible } := by
  induction steps generalizing c with
  | nil => rfl
  | cons s steps ih =>
    show ((c.step s).1.run steps).pane = _
    rw [ih, pane_step, logged_cons, List.filterMap_append, List.getLast?_append]
    -- what a later step has logged comes before what this one has
    cases ((logged ((c.step s).1.trace steps)).filterMap Event.shown?).getLast? <;> rfl

-- the forged change is refused, and the one that waits is delivered after it as without it
example : ((fresh "" .empty).kept [.act .click, .forge false, .deliver]).map Prod.fst =
    [.act .click, .deliver] := by decide

/-- **Refused changes leave no trace.** After every run from a new checkbox and a new pane:

* a change that contradicts the checkbox changes nothing and logs nothing if it is forged, and if
  it is the oldest one that is queued, then all that its delivery does is to take it off the queue;
* without the forged changes that were refused, the run has the same state, the same reply and the
  same log at each of its other steps, hence the same state at the end and the same log in all;
* a forged change that agrees with the checkbox is delivered, shows or hides the pane and logs it,
  and does so just as a queued change that says the same, apart from the queue;
* the document and the scroll offset of the pane are those of the beginning, and the pane is visible
  exactly if the last event about it says so; it is hidden if there is none. -/
theorem refused_without_trace (label : String) (document : Document) (steps : List Step) :
    let start := fresh label document
    let c := start.run steps
    let kept := start.kept steps
    (∀ change : Change, change.checked ≠ c.checkbox.isChecked →
      let refusal : Reply := ⟨.refused ⟨change.checked, c.checkbox.isChecked⟩, []⟩
      c.step (.forge change.checked) = (c, refusal) ∧
      ∀ later, c.pending = change :: later →
        c.step .deliver = ({ c with pending := later }, refusal)) ∧
    (start.trace (kept.map Prod.fst) = kept.map Prod.snd ∧
      start.run (kept.map Prod.fst) = c ∧
      logged (start.trace (kept.map Prod.fst)) = logged (start.trace steps)) ∧
    (∀ checked, checked = c.checkbox.isChecked →
      c.step (.forge checked) =
        ({ c with pane := { c.pane with visible := checked } },
          ⟨.delivered, [.visibilityUpdated checked]⟩) ∧
      ∀ later, ({ c with pending := ⟨checked⟩ :: later } : Channel).step .deliver =
        ({ (c.step (.forge checked)).1 with pending := later }, (c.step (.forge checked)).2)) ∧
    (c.pane.document = document ∧ c.pane.scroll = .origin) ∧
    c.pane.visible = ((logged (start.trace steps)).filterMap Event.shown?).getLast?.getD false := by
  intro start c kept
  have hskips : ∀ (c : Channel) s, refusesForged s (c.step s) = true → (c.step s).1 = c :=
    fun _ _ h => (step_of_refusesForged h).1
  have htrace : start.trace (kept.map Prod.fst) = kept.map Prod.snd :=
    Run.trace_rest hskips start steps
  have hpane := pane_run start steps
  refine ⟨?_, ⟨htrace, Run.after_rest hskips start steps, ?_⟩, ?_, ?_, ?_⟩
  · -- refused changes
    intro change hne refusal
    refine ⟨take_of_ne hne, ?_⟩
    intro later hpending
    rw [step_deliver_cons hpending]
    exact take_of_ne (c := { c with pending := later }) hne
  · rw [htrace]
    exact logged_kept start steps
  · -- forged changes that are not refused
    rintro checked rfl
    exact ⟨take_of_eq rfl, deliver_eq_forge c _⟩
  · exact ⟨congrArg Pane.document hpane, congrArg Pane.scroll hpane⟩
  · exact congrArg Pane.visible hpane

end Channel

end Reveal
