import Reveal.Proofs.Course
import Reveal.Proofs.Replay

/-!
# Reveal — what shows and hides nothing

Only an activation of the checkbox changes whether the document can be seen. With the pointer
that is a click of it: a press that takes hold of the checkbox, and a release that ends a click.
A press takes hold of it also from some points away, and a release ends a click also if it is
some points away from the press, wherever the checkbox is by then. Everything else is quiet: the
window is not turned over, and nothing is logged.

With the keyboard it takes a key that activates while the checkbox has the focus. Without Tab
the checkbox does not get the focus: nothing is passed on to it, and nothing else gives it away.

## Results

* `Layout.distanceSq_le_meet`  — what is cut off of a rectangle is no nearer.
* `hits_aside`                 — a press away from the checkbox does not take hold of it.
* `Away.after`                 — without Tab the checkbox does not get the focus.
* `log_of_quiet`               — a quiet step logs nothing.
* `visibility_kept`            — all of this for a run after any run.
-/

namespace Reveal

/-! ## Distances -/

namespace Rect

/-- A point is not farther from what is larger. -/
theorem distanceAlong_le_of_le {a b a' b' : ℚ} (ha : a ≤ a') (hb : b' ≤ b) (h : a' ≤ b') (v : ℚ) :
    distanceAlong a b v ≤ distanceAlong a' b' v := by
  unfold distanceAlong
  split_ifs <;> linarith

theorem distanceAlong_nonneg (a b v : ℚ) : 0 ≤ distanceAlong a b v := by
  unfold distanceAlong
  split_ifs <;> linarith

/-- **A part of a rectangle is not nearer** than the whole, unless it is inverted. -/
theorem distanceSq_le_meet {r screen : Rect} (h : (r.meet screen).isInverted = false) (p : Point) :
    r.distanceSq p ≤ (r.meet screen).distanceSq p := by
  simp only [isInverted, Bool.or_eq_false_iff, decide_eq_false_iff_not, not_lt] at h
  have hx := distanceAlong_le_of_le (le_max_left r.left screen.left)
    (min_le_left r.right screen.right) h.1 p.x.toRat
  have hy := distanceAlong_le_of_le (le_max_left r.top screen.top)
    (min_le_left r.bottom screen.bottom) h.2 p.y.toRat
  exact add_le_add (mul_self_le_mul_self (distanceAlong_nonneg _ _ _) hx)
    (mul_self_le_mul_self (distanceAlong_nonneg _ _ _) hy)

end Rect

namespace Session

open Focus (Turn)

/-! ## The pointer -/

/-- The place is out of the reach of the checkbox, where the next frame draws it. -/
def isAside (s : Session) (p : Point) : Bool :=
  decide (Widget.reach * Widget.reach <
    (Layout.checkbox s.screen s.window.pane.visible s.window.checkbox.label).distanceSq p)

/-- A release there does not click the checkbox: it is not held for a click, or the place is too far
from that of the press. -/
def releasesAside (s : Session) (p : Point) : Bool :=
  !s.grip.click.any Widget.Name.isCheckbox ||
    s.pointer.press.any fun press =>
      decide (Pointer.clickRadius * Pointer.clickRadius < press.origin.distanceSq p)

/-- Nothing that the pointer does in the step activates the checkbox, and nothing is done to the
window but that it is scrolled. -/
def isQuiet (s : Session) : Step → Bool
  | .act (.scroll _) | .resize _ | .gesture .wait | .gesture (.press _) | .gesture (.key _)
  | .gesture (.click .secondary _) => true
  | .gesture (.click .primary (.point p)) => s.isAside p
  | .gesture (.release (.point p)) => s.releasesAside p
  | .act .click | .act (.report _) | .gesture (.click .primary .checkbox)
  | .gesture (.release .checkbox) => false

/-- What a frame draws within reach of a place away from the checkbox is something else. -/
theorem other_of_aside {s : Session} {p : Point} (h : s.isAside p = true) {input : Input}
    {w : Widget} (hw : w ∈ (s.next (.frame input)).drawn) (hseen : w.bounds.isInverted = false)
    (hnear : w.distanceSq p ≤ Widget.reach * Widget.reach) : w.name.isCheckbox = false := by
  obtain ⟨pane, hnames, hdrawn⟩ := s.exists_drawn_frame input
  rw [hdrawn] at hw
  rcases List.mem_append.mp hw with hpane | hbox
  · -- what is in the pane is no checkbox
    have hname : w.name ∈ s.paneNames input := by
      rw [← hnames]
      exact List.mem_map_of_mem hpane
    cases hkind : w.name with
    | checkbox below => exact absurd hkind (ne_checkbox_of_mem_paneNames hname below)
    | area | text | bar _ => rfl
  · -- what is seen of the checkbox is not nearer than all of it
    obtain rfl := List.mem_singleton.mp hbox
    have hfar := of_decide_eq_true h
    have hcut := hfar.trans_le (Rect.distanceSq_le_meet hseen p)
    exact absurd hnear (not_le.mpr hcut)

/-- **A press away from the checkbox**, where the last frame has drawn it, does not take hold of
it. -/
theorem hits_aside {s : Session} {p : Point} (h : s.isAside p = true) (input : Input)
    (button : Button) :
    ∀ name ∈ ((s.next (.frame input)).hits (.press button (.point p))).click,
      name.isCheckbox = false := by
  have hposition : ((s.next (.frame input)).hand (.press button (.point p))).pointer.position =
      some p := position_press rfl button
  have hhit : ((s.next (.frame input)).hits (.press button (.point p))).All
      fun name => name.isCheckbox = false := by
    unfold hits
    rw [hposition, Option.elim_some]
    exact Widget.all_hit fun w hw hseen hnear => other_of_aside h hw hseen hnear
  exact hhit.1

/-- A release there turns nothing over. -/
theorem not_turnsOver_releasesAside {s : Session} {p : Point} (h : s.releasesAside p = true)
    (button : Button) : s.turnsOver (.frame (.release button (.point p))) = false := by
  rcases Bool.or_eq_true _ _ |>.mp h with hother | hfar
  · -- the checkbox is not held
    exact not_turnsOver_of_not_held (by simpa using hother) button _
  · -- the pointer has gone too far for a click
    have hclicked : (s.hand (.release button (.point p))).stroke.clicked = false := by
      show (s.pointer.moveTo p).mayClick _ s.pointer.isDown = false
      unfold Pointer.mayClick Pointer.moveTo
      simp only [hfar, Bool.or_true, Bool.not_true, Bool.and_false, Bool.false_and]
    rw [turnsOver_release, hclicked, Bool.false_and, Bool.false_and]

/-- A frame that turns nothing over leaves the checkbox where it is drawn. -/
theorem isAside_frame {s : Session} {input : Input} (h : s.turnsOver (.frame input) = false)
    (p : Point) : (s.next (.frame input)).isAside p = s.isAside p := by
  unfold isAside
  rw [visible_of_not_turnsOver h, s.screen_frame input, (s.sameTexts_next (.frame input)).label]

/-- **A click away from the checkbox** turns nothing over, nor does one with the other button. -/
theorem not_turnsOver_click {s : Session} (htimely : s.Timely) (hlate : s.clock.now + 2 ≤ 2 ^ 47)
    {button : Button} {target : Target} (h : s.isQuiet (.gesture (.click button target)) = true)
    {f : Session × Input} (hf : f ∈ s.frames (Step.gesture (.click button target)).moments) :
    f.1.turnsOver (.frame f.2) = false := by
  refine not_turnsOver_of_release ?_ hf
  cases button with
  | secondary =>
    rw [turnsOver_release]
    simp
  | primary =>
    cases target with
    | checkbox => contradiction
    | point p =>
      have hover : s.turnsOver (.frame .rest) = false := not_turnsOver_of_not_release rfl (by simp)
      have haside : (s.next (.frame .rest)).isAside p = true := (isAside_frame hover p).trans h
      have hnone : ((s.next (.frame .rest)).next (.frame .idle)).grip.click = none :=
        click_eq_none (htimely.click_rest hlate) (by simp)
      -- the press takes hold of something else, if of anything
      refine not_turnsOver_of_not_held ?_ _ _
      rw [click_press rfl hnone, Option.any_eq_false]
      simpa using hits_aside haside .idle .primary

/-! ## The focus -/

/-- Where nothing passes the focus on, a frame without Tab gives it to nothing. -/
theorem Still.turn_layOut {s : Session} (h : s.Still) {input : Input}
    (htab : input.key? ≠ some .tab) : (s.layOut input).turn input = s.focus.begin input.key? := by
  rw [Session.turn_layOut]
  exact Turn.offerAll_of_still (t := s.focus.begin input.key?) h
    (by simp [Focus.begin, htab]) _

/-- So what has it afterwards had it before. -/
theorem Still.focus_frame {s : Session} (h : s.Still) {input : Input}
    (htab : input.key? ≠ some .tab) :
    (s.next (.frame input)).Still ∧
      ∀ name ∈ (s.next (.frame input)).focus.holder, s.focus.holder = some name := by
  have hfocus : (s.next (.frame input)).focus =
      ((s.layOut input).turn input).finish ((s.layOut input).drawn.map (·.name))
        (s.hand input).clicksBeside := rfl
  rw [h.turn_layOut htab] at hfocus
  unfold Still
  rw [hfocus]
  refine ⟨h, ?_⟩
  intro name hname
  have hbegin : (s.focus.begin input.key?).holder = some name :=
    (Option.filter_eq_some_iff.mp (Option.filter_eq_some_iff.mp hname).1).1
  -- Escape takes it away from everything
  unfold Focus.begin at hbegin
  dsimp only at hbegin
  split at hbegin
  · contradiction
  · exact hbegin

/-- Nothing passes the focus on, and the checkbox does not have it. -/
structure Away (s : Session) : Prop where
  still : s.Still
  unfocused : ¬ s.Focused

/-- Without Tab, and as long as nothing is turned over, the checkbox does not get the focus. -/
theorem Away.next {s : Session} (h : s.Away) {m : Moment}
    (htab : ∀ input, m = .frame input → input.key? ≠ some .tab) (hover : s.turnsOver m = false) :
    (s.next m).Away := by
  cases m with
  | act action =>
    -- an action that turns nothing over leaves the pane visible or hidden
    have hvisible : (s.window.next action).pane.visible = s.window.pane.visible := by
      cases action with
      | click => contradiction
      | report checked =>
        have hsame : checked = s.window.checkbox.isChecked := by simpa [turnsOver] using hover
        rw [Window.next, if_pos hsame]
      | scroll offset => rfl
    refine ⟨h.still, ?_⟩
    show s.focus.holder ≠ some (.checkbox (s.window.next action).pane.visible)
    rw [hvisible]
    exact h.unfocused
  | resize screen => exact ⟨h.still, h.unfocused⟩
  | frame input =>
    obtain ⟨hstill, hholder⟩ := h.still.focus_frame (htab input rfl)
    refine ⟨hstill, ?_⟩
    intro hfocused
    apply h.unfocused
    have := hholder _ hfocused
    rwa [visible_of_not_turnsOver hover] at this

/-- Whatever is turned over is logged. -/
theorem updates_eq_nil {s : Session} {m : Moment} (h : s.updates m = []) :
    s.turnsOver m = false := by
  by_contra hover
  rw [Bool.not_eq_false] at hover
  rw [updates, if_pos hover] at h
  contradiction

/-- **Without Tab the checkbox does not get the focus**, as long as the window is not turned
over. -/
theorem Away.after {s : Session} (h : s.Away) {moments : List Moment}
    (htab : ∀ input, .frame input ∈ moments → input.key? ≠ some .tab) (hlog : s.log moments = []) :
    (s.after moments).Away := by
  induction moments generalizing s with
  | nil => exact h
  | cons m later ih =>
    rw [log_cons, List.append_eq_nil_iff] at hlog
    refine ih (s := s.next m) (h.next ?_ (updates_eq_nil hlog.1)) ?_ hlog.2
    · rintro input rfl
      exact htab input List.mem_cons_self
    · exact fun input hinput => htab input (List.mem_cons_of_mem m hinput)

/-- While the checkbox is without the focus, no key that goes down turns the window over. -/
theorem Away.not_turnsOver {s : Session} (h : s.Away) (key : Key) :
    s.turnsOver (.frame (.keyDown key)) = false := by
  by_cases htab : key = .tab
  · rw [htab]
    exact not_turnsOver_of_key rfl rfl
  · rw [turnsOver_of_key rfl, h.still.turn_layOut (by simpa [Input.key?] using htab)]
    have hother : (s.focus.begin (Input.keyDown key).key?).holder ≠
        some (.checkbox s.window.pane.visible) := by
      unfold Focus.begin
      dsimp only
      split
      · simp
      · exact h.unfocused
    rw [beq_eq_false_iff_ne.mpr hother, Bool.and_false]

/-- Only one of the steps has a frame in which Tab goes down. -/
theorem key_of_mem_moments {step : Step} (h : step ≠ .gesture (.key .tab)) {input : Input}
    (hinput : .frame input ∈ step.moments) : input.key? ≠ some .tab := by
  cases step with
  | act action => simp [Step.moments] at hinput
  | resize screen => simp [Step.moments] at hinput
  | gesture g =>
    cases g <;> simp only [Step.moments, Gesture.inputs, List.map_cons, List.map_nil, List.mem_cons,
      Moment.frame.injEq, List.not_mem_nil, or_false] at hinput
    case key k =>
      rcases hinput with rfl | rfl
      · intro htab
        obtain rfl := Option.some.inj htab
        exact h rfl
      · simp [Input.key?]
    all_goals
      rcases hinput with rfl | rfl | rfl | rfl <;> simp [Input.key?]

/-- Only Tab begins to pass the focus on. -/
theorem Still.after {s : Session} (h : s.Still) {moments : List Moment}
    (hkeys : ∀ input, .frame input ∈ moments → input.key? ≠ some .tab) :
    (s.after moments).Still := by
  induction moments generalizing s with
  | nil => exact h
  | cons m later ih =>
    have hnext : (s.next m).Still := by
      cases m with
      | act action => exact h
      | resize screen => exact h
      | frame input => exact (h.focus_frame (hkeys input List.mem_cons_self)).1
    exact ih hnext fun input hinput => hkeys input (List.mem_cons_of_mem m hinput)

/-- **After every step of a run** nothing passes the focus on: a pass that Tab begins ends when it
goes up. -/
theorem still_after {s : Session} (hsound : s.focus.Sound) (h : s.Still) (steps : List Step) :
    (s.after (steps.flatMap Step.moments)).Still := by
  induction steps generalizing s with
  | nil => exact h
  | cons step steps ih =>
    rw [List.flatMap_cons, after_append]
    refine ih (sound_after hsound _) ?_
    by_cases htab : step = .gesture (.key .tab)
    · rw [htab]
      exact (tab_of_sound hsound).2.1
    · exact h.after fun input => key_of_mem_moments htab

/-! ## Quiet steps -/

/-- **A quiet step** logs nothing, if no key of it finds the checkbox with the focus. -/
theorem log_of_quiet {s : Session} (htimely : s.Timely) (hlate : s.clock.now + 8 ≤ 2 ^ 47) {step : Step}
    (hquiet : s.isQuiet step = true)
    (hkey : ∀ key, step = .gesture (.key key) → key.activates = false ∨ s.Away) :
    s.log step.moments = [] := by
  -- an action that turns the window over is not quiet, so that only frames could log anything
  cases step with
  | act action =>
    cases action with
    | click => contradiction
    | report checked => contradiction
    | scroll offset => rfl
  | resize screen => rfl
  | gesture g =>
    refine log_frames fun f hf => ?_
    cases g with
    | wait =>
      obtain rfl : f = (s, .idle) := by simpa [Gesture.inputs, frames] using hf
      exact not_turnsOver_of_not_release rfl (by simp)
    | click button target => exact not_turnsOver_click htimely (by linarith) hquiet hf
    | press target =>
      -- a press alone turns nothing over: that needs a release
      simp only [Gesture.inputs, List.map_cons, List.map_nil, frames, List.mem_cons,
        List.not_mem_nil, or_false] at hf
      rcases hf with rfl | rfl | rfl <;> exact not_turnsOver_of_not_release rfl (by simp)
    | release target =>
      obtain rfl : f = (s, .release .primary target) := by
        simpa [Gesture.inputs, frames] using hf
      cases target with
      | checkbox => contradiction
      | point p => exact not_turnsOver_releasesAside hquiet .primary
    | key key =>
      simp only [Gesture.inputs, List.map_cons, List.map_nil, frames, List.mem_cons,
        List.not_mem_nil, or_false] at hf
      -- the key goes down in the first frame, and up in the second
      rcases hf with rfl | rfl
      · rcases hkey key rfl with hother | haway
        · exact not_turnsOver_of_key rfl hother
        · exact haway.not_turnsOver key
      · exact not_turnsOver_of_key rfl rfl

/-- What a step without a log leaves as it was. -/
theorem state_of_log {s : Session} (hconsistent : s.window.isConsistent = true)
    {moments : List Moment} (h : s.log moments = []) :
    (s.after moments).window.checkbox.isChecked = s.window.checkbox.isChecked ∧
      (s.after moments).window.pane.visible = s.window.pane.visible := by
  have hchecked : (s.after moments).window.checkbox.isChecked = s.window.checkbox.isChecked := by
    have hlast := (s.isChain_course moments).2
    rw [h] at hlast
    exact (Option.some.inj hlast).symm
  have hvisible : (s.after moments).window.pane.visible =
      (s.after moments).window.checkbox.isChecked := by
    simpa [Window.isConsistent] using isConsistent_after hconsistent moments
  have hvisible' : s.window.pane.visible = s.window.checkbox.isChecked := by
    simpa [Window.isConsistent] using hconsistent
  exact ⟨hchecked, by rw [hvisible, hchecked, hvisible']⟩

/-- **A run of quiet steps** logs nothing, and leaves the window shown or hidden, if it has no key
that activates, or if it has no Tab and begins with the checkbox without the focus. -/
theorem kept_of_quiet {s : Session} (hconsistent : s.window.isConsistent = true)
    {steps : List Step} (htimely : ∀ f ∈ s.course steps, f.1.Timely ∧ f.1.clock.now + 8 ≤ 2 ^ 47)
    (hquiet : ∀ f ∈ s.course steps, f.1.isQuiet f.2 = true)
    (hkeys : (∀ key, .gesture (.key key) ∈ steps → key.activates = false) ∨
      s.Away ∧ .gesture (.key .tab) ∉ steps) :
    ∀ f ∈ s.course steps, f.1.log f.2.moments = [] ∧
      (f.1.after f.2.moments).window.checkbox.isChecked = s.window.checkbox.isChecked ∧
      (f.1.after f.2.moments).window.pane.visible = s.window.pane.visible := by
  induction steps generalizing s with
  | nil =>
    intro f hf
    contradiction
  | cons step steps ih =>
    obtain ⟨htimely₁, hlate⟩ := htimely (s, step) List.mem_cons_self
    have hlog : s.log step.moments = [] := by
      refine log_of_quiet htimely₁ hlate (hquiet (s, step) List.mem_cons_self) ?_
      rintro key rfl
      exact hkeys.imp (fun hidle => hidle key List.mem_cons_self) And.left
    obtain ⟨hchecked, hvisible⟩ := state_of_log hconsistent hlog
    -- without Tab the checkbox is still without the focus
    have hkeys' : (∀ key, .gesture (.key key) ∈ steps → key.activates = false) ∨
        (s.after step.moments).Away ∧ .gesture (.key .tab) ∉ steps := by
      refine hkeys.imp (fun hidle key hkey => hidle key (List.mem_cons_of_mem step hkey)) ?_
      rintro ⟨haway, htab⟩
      rw [List.mem_cons, not_or] at htab
      exact ⟨haway.after (fun input => key_of_mem_moments (Ne.symm htab.1)) hlog, htab.2⟩
    have hlater := ih (isConsistent_after hconsistent step.moments)
      (fun f hf => htimely f (List.mem_cons_of_mem _ hf))
      (fun f hf => hquiet f (List.mem_cons_of_mem _ hf)) hkeys'
    intro f hf
    rcases List.mem_cons.mp hf with rfl | hf
    · exact ⟨hlog, hchecked, hvisible⟩
    · obtain ⟨hlog', hchecked', hvisible'⟩ := hlater f hf
      exact ⟨hlog', hchecked'.trans hchecked, hvisible'.trans hvisible⟩

/-! ## After any run -/

/-- **Nothing but an activation shows or hides the document.** Take any state of a new window, and
go on from there with any quiet steps: the document is scrolled from outside, the screen gets
another size, frames are drawn, a button is pressed anywhere, the secondary button is clicked
anywhere, the primary button is clicked out of the reach of the checkbox and released where
the release does not click it, and keys are pressed. If none of the keys activates, or if Tab is
not among them and the checkbox does not have the focus at the beginning, as when nothing has
it, then after every step the checkbox and the pane are as they were, and nothing has been
logged. -/
theorem visibility_kept (settings : Settings) (document : Document) (screen : Screen)
    (before steps : List Step) (hlength : before.length + steps.length ≤ 2 ^ 40) :
    ∃ s log states, (build settings document screen).1.run before = .ok (s, log) ∧
      s.trace steps = .ok states ∧ states.length = steps.length ∧
      ((∀ f ∈ s.course steps, f.1.isQuiet f.2 = true) →
        (∀ key, .gesture (.key key) ∈ steps → key.activates = false) ∨
          ¬ s.Focused ∧ .gesture (.key .tab) ∉ steps →
        ∀ t ∈ states, t.1.window.checkbox.isChecked = s.window.checkbox.isChecked ∧
          t.1.window.pane.visible = s.window.pane.visible ∧ t.2 = []) := by
  set start := (build settings document screen).1
  set s := start.after (before.flatMap Step.moments)
  refine ⟨s, _, _, start.advanceAll_eq_log _, s.trace_eq_course steps, ?_, ?_⟩
  · rw [List.length_map, length_course]
  · intro hquiet hkeys t ht
    have hconsistent : s.window.isConsistent = true := isConsistent_after rfl _
    have hstill : s.Still := still_after (s := start) (fun _ => rfl) rfl before
    have hbefore : before.length ≤ 2 ^ 40 := by omega
    obtain ⟨htimely, hnow⟩ := timely_after settings document screen hbefore
    have hcount : (steps.length : ℚ) ≤ 2 ^ 40 := by
      have : steps.length ≤ 2 ^ 40 := by omega
      exact_mod_cast this
    -- so few steps do not take the clock to where it gets too coarse
    have hcourse : ∀ f ∈ s.course steps, f.1.Timely ∧ f.1.clock.now + 8 ≤ 2 ^ 47 :=
      timely_course htimely (by linarith)
    obtain ⟨f, hf, rfl⟩ := List.mem_map.mp ht
    obtain ⟨hlog, hchecked, hvisible⟩ := kept_of_quiet hconsistent hcourse hquiet
      (hkeys.imp_right fun ⟨hfocus, htab⟩ => ⟨⟨hstill, hfocus⟩, htab⟩) f hf
    exact ⟨hchecked, hvisible, hlog⟩

/-- The checkbox is pressed, the screen grows, and the button goes up elsewhere; then the secondary
button is clicked on the checkbox and the primary one below it, and Space is pressed. The document
stays hidden. -/
theorem visibility_kept_pressed :
    let start := (build .standard ⟨"abc"⟩ ⟨320, 160⟩).1
    let steps : List Step :=
      [.resize ⟨320, 180⟩, .gesture (.release (.point ⟨100, 100⟩)),
        .gesture (.click .secondary .checkbox), .gesture (.click .primary (.point ⟨20, 60⟩)),
        .gesture (.key .space)]
    ∃ s log states, start.run [.gesture .wait, .gesture (.press .checkbox)] = .ok (s, log) ∧
      s.grip.click = some (.checkbox false) ∧ s.trace steps = .ok states ∧ states.length = 5 ∧
      ∀ t ∈ states, t.1.window.pane.visible = false ∧ t.2 = [] := by
  intro start steps
  obtain ⟨s, log, states, hrun, htrace, hlength, hkept⟩ := visibility_kept .standard ⟨"abc"⟩
    ⟨320, 160⟩ [.gesture .wait, .gesture (.press .checkbox)] steps (by decide)
  obtain rfl : start.after [.frame .idle, .frame .rest, .frame .idle,
      .frame (.press .primary .checkbox)] = s := by
    have := (start.advanceAll_eq_log _).symm.trans hrun
    exact congrArg Prod.fst (Except.ok.inj this)
  have hquiet := hkept (by decide +kernel) (.inr ⟨by decide +kernel, by decide⟩)
  refine ⟨_, log, states, hrun, by decide +kernel, htrace, hlength, ?_⟩
  intro t ht
  obtain ⟨-, hvisible, hlog⟩ := hquiet t ht
  exact ⟨hvisible.trans (by decide +kernel), hlog⟩

/-- Not everything that happens off the checkbox is quiet. A click two points below it shows the
document; so do a press and a release there. And the checkbox is clicked by a release where the
press was, although it has moved away in the meantime. -/
theorem visibility_not_kept :
    let run (steps : List Step) (p : Point) :=
      ((build .standard ⟨"abc"⟩ ⟨320, 160⟩).1.run steps).toOption.map fun r =>
        (r.1.window.pane.visible, r.1.box.map (·.contains p))
    let below : Target := .point ⟨20, 28⟩
    let moved : List Step := [.act .click, .gesture .wait, .gesture (.press .checkbox),
      .resize ⟨320, 180⟩, .gesture .wait]
    (run [.gesture .wait] ⟨20, 28⟩ = some (false, some false) ∧
      run [.gesture .wait, .gesture (.click .primary below)] ⟨20, 28⟩ = some (true, some false) ∧
      run [.gesture .wait, .gesture (.press below), .gesture (.release below)] ⟨20, 28⟩ =
        some (true, some false)) ∧
    (run moved ⟨75, 143⟩ = some (true, some false) ∧
      run (moved ++ [.gesture (.release (.point ⟨75, 143⟩))]) ⟨75, 143⟩ =
        some (false, some false)) := by
  decide +kernel

end Session

end Reveal
