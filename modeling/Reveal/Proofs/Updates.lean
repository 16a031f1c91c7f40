import Mathlib.Data.List.Chain
import Reveal.Proofs.Session

/-!
# Reveal — the updates of a run

The pane takes over the state of the checkbox, and logs that it did, in three cases: the
window is clicked, a state is reported to it that it does not have, or the user activates
the checkbox on the screen. In the last case the frame reports the opposite of the state
that it has drawn. Nothing happens to the window between the drawing and the report, so
the report always is of a new state: it is never dropped, and it never comes twice.

Every update turns the window over. So the states in the log alternate, from the hidden
window on, up to the state that the window has now.

## Results

* `advance_eq_updates`  — what a moment logs.
* `isChain_course`      — the states that a run logs alternate.
* `length_states`       — how many there are.
* `updates_alternate`   — all of this for the runs of a new window.
-/

namespace Reveal

/-- The state that the pane took over, if the event tells of one. -/
def Event.update? : Event → Option Bool
  | visibilityUpdated checked => some checked
  | textReceived _ | buildingWindow _ _ | startingLoop _ => none

/-- The states that the pane took over, by a log. -/
def Event.states (log : List Event) : List Bool := log.filterMap update?

theorem Window.isChecked_become (w : Window) (checked : Bool) :
    (w.become checked).checkbox.isChecked = checked := CheckState.isChecked_ofBool checked

namespace Session

/-! ## One moment -/

/-- Whether the window is turned over: a click does so, a reported state if it is a new
one, and a frame if the user activates the checkbox in it. -/
def turnsOver (s : Session) : Moment → Bool
  | .act .click => true
  | .act (.report checked) => checked != s.window.checkbox.isChecked
  | .act (.scroll _) | .resize _ => false
  | .frame input => (s.layOut input).activates (s.hand input) input

/-- The update that a moment logs, if it turns the window over. -/
def updates (s : Session) (m : Moment) : List Event :=
  if s.turnsOver m then [.visibilityUpdated !s.window.checkbox.isChecked] else []

/-- Drawing does not touch the checkbox, so what a frame reports is not out of date. -/
theorem checkbox_layOut (s : Session) (input : Input) :
    (s.layOut input).window.checkbox = s.window.checkbox := by
  rw [window_layOut]
  split
  · rfl
  · rfl

/-- **What a moment logs.** -/
theorem advance_eq_updates (s : Session) (m : Moment) :
    s.advance m = .ok (s.next m, s.updates m) := by
  cases m with
  | act action =>
    cases action with
    | click =>
      rw [advance, Window.act_click]
      rfl
    | report checked =>
      rw [advance, Window.act_report]
      by_cases h : checked = s.window.checkbox.isChecked
      · simp [updates, turnsOver, next, Window.next, Except.map, h]
      · -- a new state can only be the opposite one
        have hnew : checked = !s.window.checkbox.isChecked := Bool.eq_not_of_ne h
        simp [updates, turnsOver, next, Window.next, Except.map, hnew]
    | scroll offset => rfl
  | resize screen => rfl
  | frame input =>
    have hstate : (s.layOut input).window.checkbox.isChecked = s.window.checkbox.isChecked :=
      congrArg Checkbox.isChecked (s.checkbox_layOut input)
    by_cases h : (s.layOut input).activates (s.hand input) input = true
    · simp only [advance, frame_eq, next, turned, updates, turnsOver, hstate, h, if_true]
    · simp only [advance, frame_eq, next, turned, updates, turnsOver, h, Bool.false_eq_true,
        if_false]

theorem isChecked_next (s : Session) (m : Moment) :
    (s.next m).window.checkbox.isChecked =
      if s.turnsOver m then !s.window.checkbox.isChecked else s.window.checkbox.isChecked := by
  cases m with
  | act action =>
    cases action with
    | click => exact Window.isChecked_become _ _
    | report checked =>
      show (Window.next _ _).checkbox.isChecked = _
      -- a report of what is shown already turns nothing over
      by_cases h : checked = s.window.checkbox.isChecked
      · simp [Window.next, turnsOver, h]
      · have hnew : checked = !s.window.checkbox.isChecked := Bool.eq_not_of_ne h
        simp [Window.next, turnsOver, Window.isChecked_become, hnew]
    | scroll offset => rfl
  | resize screen => rfl
  | frame input =>
    show (turned _ _ _).checkbox.isChecked = _
    unfold turned turnsOver
    rw [checkbox_layOut]
    split
    · exact Window.isChecked_become _ _
    · rw [checkbox_layOut]

/-! ## A run -/

/-- The moments of a run, each with the session that it begins in. -/
def stages (s : Session) : List Moment → List (Session × Moment)
  | [] => []
  | m :: later => (s, m) :: (s.next m).stages later

/-- What a run logs: the updates of those moments that turn the window over. -/
def log (s : Session) (moments : List Moment) : List Event :=
  ((s.stages moments).filter fun t => t.1.turnsOver t.2).map
    fun t => .visibilityUpdated !t.1.window.checkbox.isChecked

theorem log_cons (s : Session) (m : Moment) (later : List Moment) :
    s.log (m :: later) = s.updates m ++ (s.next m).log later := by
  simp only [log, stages, List.filter_cons, updates]
  split
  · rfl
  · rfl

/-- The log of one run after another is that of both, the second from where the first ends. -/
theorem log_append (s : Session) (first second : List Moment) :
    s.log (first ++ second) = s.log first ++ (s.after first).log second := by
  induction first generalizing s with
  | nil => rfl
  | cons m first ih =>
    rw [List.cons_append, log_cons, log_cons, ih, List.append_assoc]
    rfl

/-- No run fails, so that it is what it leaves and what it logs. -/
theorem advanceAll_eq_log (s : Session) (moments : List Moment) :
    s.advanceAll moments = .ok (s.after moments, s.log moments) := by
  induction moments generalizing s with
  | nil => rfl
  | cons m later ih =>
    have hcons : s.advanceAll (m :: later) =
        ((s.next m).advanceAll later).map fun r => (r.1, s.updates m ++ r.2) := by
      simp only [advanceAll, Run.attempt, advance_eq_updates, bind, Except.bind, pure, Except.pure]
      cases Run.attempt advance (s.next m) later with
      | error e => rfl
      | ok r => rfl
    rw [hcons, ih, log_cons]
    rfl

/-- An update says what the checkbox has been turned to. -/
theorem states_updates (s : Session) (m : Moment) :
    Event.states (s.updates m) =
      if s.turnsOver m then [!s.window.checkbox.isChecked] else [] := by
  unfold updates
  split
  · rfl
  · rfl

theorem states_log_cons (s : Session) (m : Moment) (later : List Moment) :
    Event.states (s.log (m :: later)) =
      (if s.turnsOver m then [!s.window.checkbox.isChecked] else []) ++
        Event.states ((s.next m).log later) := by
  rw [log_cons, Event.states, List.filterMap_append]
  exact congrArg (· ++ _) (s.states_updates m)

/-- **The states that a run logs alternate**: with the state at the beginning put in front,
each is the opposite of the one before it, and the last one is the state at the end. -/
theorem isChain_course (s : Session) (moments : List Moment) :
    (s.window.checkbox.isChecked :: Event.states (s.log moments)).IsChain
        (fun before after => after = !before) ∧
      (s.window.checkbox.isChecked :: Event.states (s.log moments)).getLast? =
        some (s.after moments).window.checkbox.isChecked := by
  induction moments generalizing s with
  | nil => exact ⟨.singleton _, rfl⟩
  | cons m later ih =>
    obtain ⟨hchain, hlast⟩ := ih (s.next m)
    rw [isChecked_next] at hchain hlast
    rw [states_log_cons]
    by_cases h : s.turnsOver m = true
    · -- the state before the update goes in front of the others
      rw [if_pos h] at hchain hlast ⊢
      exact ⟨.cons_cons rfl hchain, by rw [List.singleton_append, List.getLast?_cons_cons]; exact hlast⟩
    · rw [if_neg h] at hchain hlast ⊢
      exact ⟨hchain, hlast⟩

/-- Along an alternating list every step turns the state over. -/
theorem getLast?_of_isChain {first : Bool} {later : List Bool}
    (h : (first :: later).IsChain (fun before after => after = !before)) :
    (first :: later).getLast? = some (first ^^ decide (later.length % 2 = 1)) := by
  induction later generalizing first with
  | nil => simp
  | cons next later ih =>
    rw [List.isChain_cons_cons] at h
    obtain ⟨rfl, hlater⟩ := h
    rw [List.getLast?_cons_cons, ih hlater, List.length_cons]
    rcases Nat.mod_two_eq_zero_or_one later.length with hpar | hpar
    · have hpar' : (later.length + 1) % 2 = 1 := by omega
      simp [hpar, hpar']
    · have hpar' : (later.length + 1) % 2 = 0 := by omega
      simp [hpar, hpar']

/-- **How many updates there are**: one for each click, for each report of a new state, and
for each frame with an activation. -/
theorem length_states (s : Session) (moments : List Moment) :
    (Event.states (s.log moments)).length =
      (s.stages moments).countP (fun t => t.2 = .act .click) +
      (s.stages moments).countP
        (fun t => t.2 = .act (.report !t.1.window.checkbox.isChecked)) +
      (s.frames moments).countP (fun f => (f.1.layOut f.2).activates (f.1.hand f.2) f.2) := by
  induction moments generalizing s with
  | nil => rfl
  | cons m later ih =>
    rw [states_log_cons, List.length_append, ih]
    simp only [stages, List.countP_cons]
    -- a moment adds at most one state, and is counted in at most one way
    cases m with
    | act action =>
      cases action with
      | click =>
        simp [turnsOver, frames]
        omega
      | report checked =>
        by_cases h : checked = s.window.checkbox.isChecked
        · simp [turnsOver, frames, h]
        · have hnew : checked = !s.window.checkbox.isChecked := Bool.eq_not_of_ne h
          simp [turnsOver, frames, hnew]
          omega
      | scroll offset => simp [turnsOver, frames]
    | resize screen => simp [turnsOver, frames]
    | frame input =>
      by_cases h : (s.layOut input).activates (s.hand input) input = true
      · simp [turnsOver, frames, h]
        omega
      · simp [turnsOver, frames, h]

/-- **No update is lost, and none comes twice.** The states that a run of a new window logs
alternate, and ticked is the first of them. Each is logged in the moment that turns the
window over, so that there is one for every click, one for every report of a new state
and one for every frame in which the user activates the checkbox, whose own report is
always of a new state. Their number is odd exactly if the document can be seen, and
the last one tells whether it can. -/
theorem updates_alternate (settings : Settings) (document : Document) (screen : Screen)
    (steps : List Step) :
    let start := (build settings document screen).1
    let moments := steps.flatMap Step.moments
    ∃ s log, start.run steps = .ok (s, log) ∧
      let logged := Event.states ((build settings document screen).2 ++ log)
      (false :: logged).IsChain (fun before after => after = !before) ∧
      log = ((start.stages moments).filter fun t => t.1.turnsOver t.2).map
        (fun t => .visibilityUpdated !t.1.window.checkbox.isChecked) ∧
      logged.length =
        (start.stages moments).countP (fun t => t.2 = .act .click) +
        (start.stages moments).countP
          (fun t => t.2 = .act (.report !t.1.window.checkbox.isChecked)) +
        (start.frames moments).countP
          (fun f => (f.1.layOut f.2).activates (f.1.hand f.2) f.2) ∧
      (∀ f ∈ start.frames moments, ∃ w reply,
        (f.1.layOut f.2).window.act (.report !f.1.window.checkbox.isChecked) = .ok (w, reply) ∧
        reply.fired = some true) ∧
      (logged.length % 2 = 1 ↔ s.window.pane.visible = true) ∧
      ∀ last ∈ logged.getLast?, last = s.window.pane.visible := by
  intro start moments
  refine ⟨start.after moments, start.log moments, start.advanceAll_eq_log moments, ?_⟩
  intro logged
  -- that the window is made is logged as well, but is no update
  have hlogged : logged = Event.states (start.log moments) := rfl
  have hcourse : start.window.checkbox.isChecked = false := rfl
  obtain ⟨hchain, hlast⟩ := start.isChain_course moments
  rw [← hlogged, hcourse] at hchain hlast
  have hvisible : (start.after moments).window.pane.visible =
      (start.after moments).window.checkbox.isChecked := by
    have : (start.after moments).window.isConsistent = true := isConsistent_after rfl moments
    simpa [Window.isConsistent] using this
  refine ⟨hchain, rfl, ?_, ?_, ?_, ?_⟩
  · rw [hlogged, length_states]
  · intro f hf
    -- the frame has drawn the state that the checkbox still has
    have hdrawn : (f.1.layOut f.2).window.checkbox.isChecked = f.1.window.checkbox.isChecked :=
      congrArg Checkbox.isChecked (f.1.checkbox_layOut f.2)
    rw [Window.act_report, hdrawn, if_neg (by simp)]
    exact ⟨_, _, rfl, rfl⟩
  · have hparity := getLast?_of_isChain hchain
    rw [hlast] at hparity
    rw [hvisible, Option.some.inj hparity]
    simp
  · intro last hmem
    rw [hvisible]
    cases hl : logged with
    | nil =>
      rw [hl] at hmem
      contradiction
    | cons next later =>
      rw [hl, List.getLast?_cons_cons] at hlast
      rw [hl, hlast] at hmem
      exact (Option.mem_some.mp hmem).symm

end Session

end Reveal
