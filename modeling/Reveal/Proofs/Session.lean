import Reveal.Session
import Reveal.Proofs.Layout

/-!
# Reveal — what a session keeps

No moment of a session fails, so that a run is a function of its moments
(`Session.after`). Whether the document is to be seen is kept in three places: the
checkbox, the pane, and the memory of the last frame. The first two never differ. The
third is the state in which the last frame *began*: a frame draws what it finds, and
only then turns the window over, if the user has activated the checkbox. So it may lag
behind, and does until the next frame, however much happens to the window before.

## Results

* `advanceAll_eq`   — no run fails.
* `recalls_after`   — what is remembered is what the last frame has drawn.
* `run_recalls`     — all of this for the runs of a new window.
-/

namespace Reveal

/-! ## Windows -/

namespace Window

/-- The window after an action. -/
def next (w : Window) : Action → Window
  | .click => w.become !w.checkbox.isChecked
  | .report checked => if checked = w.checkbox.isChecked then w else w.become checked
  | .scroll offset => w.scrollTo offset

/-- No action fails, whatever it replies. -/
theorem act_ok (w : Window) (action : Action) :
    ∃ reply, w.act action = .ok (w.next action, reply) := by
  cases action with
  | click => exact ⟨_, w.act_click⟩
  | report checked =>
    rw [act_report, next]
    split
    · exact ⟨_, rfl⟩
    · exact ⟨_, rfl⟩
  | scroll offset => exact ⟨_, rfl⟩

/-- The second window has all the texts of the first. -/
structure SameTexts (w w' : Window) : Prop where
  title : w'.title = w.title
  label : w'.checkbox.label = w.checkbox.label
  document : w'.pane.document = w.pane.document

theorem SameTexts.refl (w : Window) : w.SameTexts w := ⟨rfl, rfl, rfl⟩

theorem SameTexts.trans {w₁ w₂ w₃ : Window} (h : w₁.SameTexts w₂) (h' : w₂.SameTexts w₃) :
    w₁.SameTexts w₃ :=
  ⟨h'.title.trans h.title, h'.label.trans h.label, h'.document.trans h.document⟩

theorem sameTexts_become (w : Window) (checked : Bool) : w.SameTexts (w.become checked) :=
  ⟨rfl, rfl, rfl⟩

/-- The pane follows the checkbox. -/
theorem isConsistent_become (w : Window) (checked : Bool) :
    (w.become checked).isConsistent = true := by
  simp [isConsistent, become, Checkbox.isChecked]

/-- An action changes no text. -/
theorem sameTexts_next (w : Window) (action : Action) : w.SameTexts (w.next action) := by
  cases action with
  | click => exact w.sameTexts_become _
  | report checked =>
    rw [next]
    split
    · exact .refl w
    · exact w.sameTexts_become _
  | scroll offset => exact ⟨rfl, rfl, rfl⟩

/-- An action leaves the pane and the checkbox in agreement. -/
theorem isConsistent_next {w : Window} (h : w.isConsistent = true) (action : Action) :
    (w.next action).isConsistent = true := by
  cases action with
  | click => exact w.isConsistent_become _
  | report checked =>
    rw [next]
    split
    · exact h
    · exact w.isConsistent_become _
  | scroll offset => exact h

/-- Only the action that is meant to scroll does. -/
theorem scroll_next (w : Window) {action : Action} (h : ∀ offset, action ≠ .scroll offset) :
    (w.next action).pane.scroll = w.pane.scroll := by
  cases action with
  | click => rfl
  | report checked =>
    rw [next]
    split <;> rfl
  | scroll offset => exact absurd rfl (h offset)

end Window

namespace Session

/-! ## Moments -/

/-- The window at the end of a frame that has been laid out. -/
def turned (s : Session) (hand : Hand) (input : Input) : Window :=
  if s.activates hand input then s.window.become !s.window.checkbox.isChecked else s.window

/-- The session after a moment. -/
def next (s : Session) : Moment → Session
  | .act action => { s with window := s.window.next action }
  | .resize screen => { s with screen := screen }
  | .frame input =>
    let drawn := s.layOut input
    { drawn with
      window := drawn.turned (s.hand input) input
      focus := drawn.focusAfter (s.hand input) input }

/-- No moment fails. -/
theorem advance_eq (s : Session) (m : Moment) : ∃ log, s.advance m = .ok (s.next m, log) := by
  cases m with
  | act action =>
    obtain ⟨reply, h⟩ := s.window.act_ok action
    exact ⟨reply.events, by rw [advance, h]; rfl⟩
  | resize screen => exact ⟨[], rfl⟩
  | frame input =>
    simp only [advance, frame_eq, next, turned]
    split
    · exact ⟨_, rfl⟩
    · exact ⟨_, rfl⟩

theorem sameTexts_turned (s : Session) (hand : Hand) (input : Input) :
    s.window.SameTexts (s.turned hand input) := by
  unfold turned
  split
  · exact s.window.sameTexts_become _
  · exact .refl _

/-- Drawing changes nothing about a window but how far the document is scrolled. -/
theorem window_layOut (s : Session) (input : Input) :
    (s.layOut input).window =
      if s.window.pane.visible then s.window.scrollTo (s.drawnArea input).area.offset
      else s.window := by
  simp only [layOut, drawCheckbox, drawPane]
  split <;> rfl

theorem sameTexts_layOut (s : Session) (input : Input) :
    s.window.SameTexts (s.layOut input).window := by
  rw [window_layOut]
  split
  · exact ⟨rfl, rfl, rfl⟩
  · exact .refl _

theorem sameTexts_next (s : Session) (m : Moment) : s.window.SameTexts (s.next m).window := by
  cases m with
  | act action => exact s.window.sameTexts_next action
  | resize screen => exact .refl _
  | frame input => exact (s.sameTexts_layOut input).trans (sameTexts_turned _ _ _)

theorem isConsistent_next {s : Session} (h : s.window.isConsistent = true) (m : Moment) :
    (s.next m).window.isConsistent = true := by
  cases m with
  | act action => exact Window.isConsistent_next h action
  | resize screen => exact h
  | frame input =>
    show (turned _ _ _).isConsistent = true
    unfold turned
    split
    · exact Window.isConsistent_become _ _
    · rw [window_layOut]
      split
      · exact h
      · exact h

/-! ## Runs -/

/-- The session after some moments. -/
def after (s : Session) (moments : List Moment) : Session := moments.foldl next s

/-- The frames among some moments, each with the session that it begins in. -/
def frames (s : Session) : List Moment → List (Session × Input)
  | [] => []
  | .frame input :: later => (s, input) :: (s.next (.frame input)).frames later
  | .act action :: later => (s.next (.act action)).frames later
  | .resize screen :: later => (s.next (.resize screen)).frames later

theorem after_append (s : Session) (first second : List Moment) :
    s.after (first ++ second) = (s.after first).after second := List.foldl_append

/-- The frames of one run after another are those of both, the second from where the first ends. -/
theorem frames_append (s : Session) (first second : List Moment) :
    s.frames (first ++ second) = s.frames first ++ (s.after first).frames second := by
  induction first generalizing s with
  | nil => rfl
  | cons m first ih =>
    cases m with
    | act action => exact ih (s.next (.act action))
    | resize screen => exact ih (s.next (.resize screen))
    | frame input => exact congrArg (List.cons (s, input)) (ih (s.next (.frame input)))

/-- No run fails. -/
theorem advanceAll_eq (s : Session) (moments : List Moment) :
    ∃ log, s.advanceAll moments = .ok (s.after moments, log) := by
  have h : ∃ logs, Run.attempt advance s moments = .ok (s.after moments, logs) := by
    induction moments generalizing s with
    | nil => exact ⟨[], rfl⟩
    | cons m later ih =>
      obtain ⟨log, hm⟩ := s.advance_eq m
      obtain ⟨logs, hlater⟩ := ih (s.next m)
      refine ⟨log :: logs, ?_⟩
      simp only [Run.attempt, hm, hlater, bind, Except.bind, pure, Except.pure]
      rfl
  obtain ⟨logs, h⟩ := h
  exact ⟨logs.flatten, by rw [advanceAll, h]; rfl⟩

theorem sameTexts_after (s : Session) (moments : List Moment) :
    s.window.SameTexts (s.after moments).window := by
  induction moments generalizing s with
  | nil => exact .refl _
  | cons m later ih => exact (s.sameTexts_next m).trans (ih (s.next m))

theorem isConsistent_after {s : Session} (h : s.window.isConsistent = true)
    (moments : List Moment) : (s.after moments).window.isConsistent = true := by
  induction moments generalizing s with
  | nil => exact h
  | cons m later ih => exact ih (isConsistent_next h m)

/-- Every frame of a run begins in the session after the moments before it. -/
theorem exists_of_mem_frames {s : Session} {moments : List Moment} {f : Session × Input}
    (h : f ∈ s.frames moments) :
    ∃ before later, moments = before ++ .frame f.2 :: later ∧ f.1 = s.after before := by
  induction moments generalizing s with
  | nil => simp [frames] at h
  | cons m moments ih =>
    -- a later frame has this moment before it as well
    have hlater : f ∈ (s.next m).frames moments →
        ∃ before later, m :: moments = before ++ .frame f.2 :: later ∧ f.1 = s.after before := by
      intro hmem
      obtain ⟨before, later, hmoments, hafter⟩ := ih hmem
      exact ⟨m :: before, later, by rw [hmoments]; rfl, hafter⟩
    cases m with
    | act action => exact hlater h
    | resize screen => exact hlater h
    | frame input =>
      rcases List.mem_cons.mp h with rfl | h
      · exact ⟨[], moments, rfl, rfl⟩
      · exact hlater h

/-! ## The last frame -/

/-- What a session remembers of its last frame, which began in the session `last`. -/
def Recalls (s : Session) : Option Session → Prop
  | none => s.paneDrawn = false ∧ s.box = none
  | some last =>
    s.paneDrawn = last.window.pane.visible ∧
      s.box = some (Layout.checkbox last.screen last.window.pane.visible last.window.checkbox.label)

/-- A frame is remembered as it was drawn, also if the window is turned over in it. -/
theorem recalls_frame (s : Session) (input : Input) :
    (s.next (.frame input)).Recalls (some s) := by
  simp only [Recalls, next, layOut, drawCheckbox, drawPane]
  split
  · next h => exact ⟨h.symm, by rw [h]; rfl⟩
  · next h =>
    have h : s.window.pane.visible = false := by simpa using h
    exact ⟨h.symm, by rw [h]⟩

/-- **What is remembered after a run** is its last frame, or what was before it if it has
none. -/
theorem recalls_after {s : Session} {last : Option Session} (h : s.Recalls last)
    (moments : List Moment) :
    (s.after moments).Recalls (((s.frames moments).getLast?.map Prod.fst).or last) := by
  induction moments generalizing s last with
  | nil => exact h
  | cons m later ih =>
    cases m with
    | act action =>
      have hnext : (s.next (.act action)).Recalls last := by
        cases last <;> exact h
      exact ih hnext
    | resize screen =>
      have hnext : (s.next (.resize screen)).Recalls last := by
        cases last <;> exact h
      exact ih hnext
    | frame input =>
      -- from here on this frame is the one before, instead of `last`
      have hlater := ih (s.recalls_frame input)
      rw [frames, List.getLast?_cons]
      cases hf : ((s.next (.frame input)).frames later).getLast? with
      | none => rw [hf] at hlater; exact hlater
      | some f => rw [hf] at hlater; exact hlater

/-- **What holds after every run** of a new window, which never fails: pane and checkbox
agree, no text has changed, and what is remembered is the window as the last frame found
it. The checkbox was drawn below the pane or alone accordingly, where exact sums put it
if nothing had to be rounded. -/
theorem run_recalls (settings : Settings) (document : Document) (screen : Screen)
    (steps : List Step) :
    let start := (build settings document screen).1
    ∃ s log, start.run steps = .ok (s, log) ∧
      s.window.pane.visible = s.window.checkbox.isChecked ∧
      (s.window.title = settings.title ∧ s.window.checkbox.label = settings.label ∧
        s.window.pane.document = document) ∧
      match (start.frames (steps.flatMap Step.moments)).getLast? with
      | none => s.paneDrawn = false ∧ s.box = none
      | some (last, _) =>
        s.paneDrawn = last.window.pane.visible ∧
        ∃ box, s.box = some box ∧
          box = Layout.checkbox last.screen s.paneDrawn settings.label ∧ box.left = 8 ∧
          (Layout.IsExact last.screen s.paneDrawn settings.label →
            box.top = Layout.boxTop last.screen.height s.paneDrawn) := by
  intro start
  set moments := steps.flatMap Step.moments with hmoments
  obtain ⟨log, hrun⟩ := start.advanceAll_eq moments
  have htexts := start.sameTexts_after moments
  have hconsistent : (start.after moments).window.isConsistent = true :=
    isConsistent_after rfl moments
  -- a new window remembers no frame
  have hfresh : start.Recalls none := ⟨rfl, rfl⟩
  have hrecalls := recalls_after hfresh moments
  refine ⟨start.after moments, log, hrun, ?_, ⟨htexts.title, htexts.label, htexts.document⟩, ?_⟩
  · simpa [Window.isConsistent] using hconsistent
  · cases hf : (start.frames moments).getLast? with
    | none =>
      rw [hf] at hrecalls
      exact hrecalls
    | some f =>
      rw [hf] at hrecalls
      obtain ⟨hdrawn, hbox⟩ := hrecalls
      obtain ⟨before, -, -, hlast⟩ := exists_of_mem_frames (List.mem_of_getLast? hf)
      have hlabel : f.1.window.checkbox.label = settings.label := by
        rw [hlast]
        exact (start.sameTexts_after before).label
      rw [hlabel, ← hdrawn] at hbox
      exact ⟨hdrawn, _, hbox, rfl, rfl, fun hexact => Layout.checkbox_top hexact⟩

/-- The exact sum does not hold on every screen. These two are higher than `2 ^ 24`, by an even
number of points, so that their heights are not rounded. On the lower one the middle of the checkbox
is odd and rounded, which puts its top one point above the sum; on the higher one the bottom of the
pane is, and the sum itself, which comes out two points below. -/
theorem checkbox_off_exact_top :
    let shown (height : Nat) :=
      (build .standard ⟨"abc"⟩ ⟨320, height⟩).1.run [.act .click, .gesture .wait]
    let top (height : Nat) := (shown height).toOption.bind fun r => r.1.box.map Rect.top
    (Layout.held 16777234 = 16777234 ∧ top 16777234 = some 16777207 ∧
      Layout.boxTop 16777234 true = 16777208) ∧
    (Layout.held 16777256 = 16777256 ∧ top 16777256 = some 16777232 ∧
      Layout.boxTop 16777256 true = 16777230) := by
  decide +kernel

end Session

end Reveal
