import Reveal.Proofs.Coupled

/-!
# Reveal — where the pane does not come between

The checkbox is drawn three points below the pane, so that there are points within reach of both.
A point out of reach of the checkbox is nothing to it, and in the middle of the checkbox nothing
in the pane is within reach, if the checkbox is placed without rounding. So a click or a press at
either ignores the pane, whatever has been pressed before: its first frame lets go of that, and
the next one draws the screen as it is.

## Results

* `ignoresPane_at`             — a press or a release at such a place.
* `ignoresPane_click`          — a click.
* `ignoresPane_of_keepsApart`  — a step.
* `ignoresPane_course`         — the steps of a run.
-/

namespace Reveal.Session

/-- Where the checkbox and the pane are apart: at a point out of reach of the checkbox, and on the
checkbox if it is placed without rounding. -/
def IsApart (s : Session) : Target → Prop
  | .point p => s.isAside p = true
  | .checkbox => Layout.IsExact s.screen s.window.pane.visible s.window.checkbox.label

/-- Every press of the step is made where the checkbox and the pane are apart, and Tab only while
the document is hidden. -/
def KeepsApart (s : Session) : Step → Prop
  | .act _ | .resize _ | .gesture .wait => True
  | .gesture (.click _ target) | .gesture (.press target) => s.IsApart target
  | .gesture (.key key) => key = .tab → s.window.pane.visible = false
  | .gesture (.release _) => False

/-- The pane has no part in the step: the step keeps it apart from the checkbox, or at least the
input of each of its frames ignores it. -/
def LeavesOutPane (s : Session) (step : Step) : Prop :=
  s.KeepsApart step ∨ ∀ f ∈ s.frames step.moments, f.1.ignoresPane f.2 = true

section

variable {s : Session} {input : Input} {button : Button} {target : Target}

/-- A target stays apart from the pane as long as nothing is turned over. -/
theorem isApart_frame (hover : s.turnsOver (.frame input) = false) (h : s.IsApart target) :
    (s.next (.frame input)).IsApart target := by
  cases target with
  | point p => exact (isAside_frame hover p).trans h
  | checkbox =>
    show Layout.IsExact _ _ _
    rw [visible_of_not_turnsOver hover, s.screen_frame input,
      (s.sameTexts_next (.frame input)).label]
    exact h

/-! ## The place of a press -/

/-- On the checkbox nothing else is within reach. -/
theorem box_of_exact (h : s.IsApart .checkbox) (hsettled : s.Settled) {w : Widget}
    (hw : w ∈ (s.next (.frame input)).drawn) (hseen : w.bounds.isInverted = false)
    (hnear : w.distanceSq (Layout.checkbox s.screen s.window.pane.visible
      s.window.checkbox.label).center ≤ Widget.reach * Widget.reach) :
    w.name.isCheckbox = true := by
  rcases lt_center_of_frame h hsettled hw with ⟨below, hname⟩ | hbelow
  · rw [hname]
    rfl
  · exact absurd hnear
      (not_le.mpr (Rect.lt_distanceSq (by norm_num [Widget.reach]) hseen hbelow))

/-- So nothing else is taken hold of for a click there. -/
theorem held_of_press (h : s.IsApart .checkbox) (hsettled : s.Settled)
    (hnone : (s.next (.frame input)).grip.click = none) :
    ∀ name ∈ ((s.next (.frame input)).next (.frame (.press button .checkbox))).grip.click,
      name.isCheckbox = true := by
  rw [click_press (s.locate_checkbox input) hnone]
  have hhit : ((s.next (.frame input)).hits (.press button .checkbox)).All
      fun name => name.isCheckbox = true := by
    unfold hits
    rw [position_press (s.locate_checkbox input) button, Option.elim_some]
    exact Widget.all_hit fun w hw hseen hnear => box_of_exact h hsettled hw hseen hnear
  exact hhit.1

/-- A target that is apart is found in a place where the pane is ignored. -/
theorem exists_place (h : s.IsApart target) (hsettled : s.Settled)
    (hheld : target = .checkbox →
      ∀ name ∈ (s.next (.frame input)).grip.click, name.isCheckbox = true) :
    ∃ p, (s.next (.frame input)).locate target = some p ∧
      (s.next (.frame input)).ignoresPaneAt p = true := by
  cases target with
  | point p =>
    -- the checkbox is out of reach
    refine ⟨p, rfl, Bool.or_eq_true_iff.mpr (.inl (List.all_eq_true.mpr fun w hw => ?_))⟩
    obtain ⟨hdrawn, hnear⟩ := List.mem_filter.mp hw
    obtain ⟨hseen, hnear⟩ := Widget.near_bounds hnear
    simpa using other_of_aside h hdrawn hseen hnear
  | checkbox =>
    -- everything else is
    refine ⟨_, s.locate_checkbox input,
      Bool.or_eq_true_iff.mpr (.inr (Bool.and_eq_true_iff.mpr ⟨?_, ?_⟩))⟩
    · refine List.all_eq_true.mpr fun w hw => ?_
      obtain ⟨hdrawn, hnear⟩ := List.mem_filter.mp hw
      obtain ⟨hseen, hnear⟩ := Widget.near_bounds hnear
      exact box_of_exact h hsettled hdrawn hseen hnear
    · simpa [Option.all_eq_true] using hheld rfl

/-- A release is where its target is. -/
theorem position_release {place : Point} (h : s.locate target = some place) (button : Button) :
    (s.hand (.release button target)).pointer.position = some place := by
  have hplace : s.place (.release button target) = some place := h
  unfold hand
  rw [hplace]
  cases button with
  | primary => rfl
  | secondary => rfl

/-! ## Frames that ignore the pane -/

/-- Where nothing passes the focus on, an input other than Tab ignores the pane if that does not
come between the pointer and the checkbox. -/
theorem ignoresPane_of_still (h : s.Still) (htab : input.key? ≠ some .tab)
    (hplace : (s.hand input).stroke.pressed = true ∨ (s.hand input).stroke.clicked = true →
      ∀ p ∈ (s.hand input).pointer.position, s.ignoresPaneAt p = true) :
    s.ignoresPane input = true := by
  -- the focus is not passed on
  have hfocus : (input.key? == some .tab || s.focus.passing) = false := by
    rw [show s.focus.passing = false from h, Bool.or_false, beq_eq_false_iff_ne]
    exact htab
  unfold ignoresPane
  dsimp only
  rw [hfocus, Bool.not_false, Bool.true_or, Bool.and_true]
  by_cases hstroke : ((s.hand input).stroke.pressed || (s.hand input).stroke.clicked) = true
  · have := hplace (Bool.or_eq_true_iff.mp hstroke)
    rw [hstroke, Bool.not_true, Bool.false_or]
    simpa [Option.all_eq_true] using this
  · rw [(Bool.not_eq_true _).mp hstroke]
    rfl

/-- So does every such input of a frame in which no button goes down or up. -/
theorem ignoresPane_of_no_stroke (h : s.Still) (htab : input.key? ≠ some .tab)
    (hstroke : (s.hand input).stroke = {}) : s.ignoresPane input = true :=
  ignoresPane_of_still h htab (by simp [hstroke])

theorem ignoresPane_of_hidden (h : s.window.pane.visible = false)
    (hstroke : (s.hand input).stroke = {}) : s.ignoresPane input = true := by
  unfold ignoresPane
  dsimp only
  rw [hstroke, paneNames_of_hidden h]
  simp

/-- **A press or a release where the checkbox and the pane are apart**, after a frame. -/
theorem ignoresPane_at (h : s.IsApart target) (hsettled : s.Settled)
    (hstill : (s.next (.frame input)).Still)
    (hheld : target = .checkbox →
      ∀ name ∈ (s.next (.frame input)).grip.click, name.isCheckbox = true) (button : Button) :
    (s.next (.frame input)).ignoresPane (.press button target) = true ∧
      (s.next (.frame input)).ignoresPane (.release button target) = true := by
  obtain ⟨p, hlocate, hplace⟩ := exists_place h hsettled hheld
  constructor
  · refine ignoresPane_of_still hstill (by simp [Input.key?]) fun _ q hq => ?_
    rw [position_press hlocate] at hq
    obtain rfl := Option.mem_some.mp hq
    exact hplace
  · refine ignoresPane_of_still hstill (by simp [Input.key?]) fun _ q hq => ?_
    rw [position_release hlocate] at hq
    obtain rfl := Option.mem_some.mp hq
    exact hplace

/-- **A click where the checkbox and the pane are apart** ignores the pane in all its frames. -/
theorem ignoresPane_click (hstill : s.Still) (htimely : s.Timely)
    (hlate : s.clock.now + 2 ≤ 2 ^ 47) (button : Button) (h : s.IsApart target) :
    ∀ f ∈ s.frames (Step.gesture (.click button target)).moments, f.1.ignoresPane f.2 = true := by
  -- what each of the frames leaves to the next
  have hover₁ : s.turnsOver (.frame .rest) = false := not_turnsOver_of_not_release rfl (by simp)
  have hstill₁ : (s.next (.frame .rest)).Still := (hstill.focus_frame (by simp [Input.key?])).1
  have hnone₁ : (s.next (.frame .rest)).grip.click = none := htimely.click_rest hlate
  have hapart₁ := isApart_frame hover₁ h
  have hsettled₁ := settled_frame (visible_of_not_turnsOver hover₁)
  set rested := s.next (.frame .rest)
  have hover₂ : rested.turnsOver (.frame .idle) = false :=
    not_turnsOver_of_not_release rfl (by simp)
  have hstill₂ : (rested.next (.frame .idle)).Still :=
    (hstill₁.focus_frame (by simp [Input.key?])).1
  have hnone₂ : (rested.next (.frame .idle)).grip.click = none := click_eq_none hnone₁ (by simp)
  have hapart₂ := isApart_frame hover₂ hapart₁
  have hsettled₂ := settled_frame (visible_of_not_turnsOver hover₂)
  -- the press finds nothing held, and the release what the press has taken hold of
  obtain ⟨hpress, -⟩ := ignoresPane_at hapart₁ hsettled₁ hstill₂ (by simp [hnone₂]) button
  have hheld : target = .checkbox → ∀ name ∈
      ((rested.next (.frame .idle)).next (.frame (.press button target))).grip.click,
        name.isCheckbox = true := by
    rintro rfl
    exact held_of_press hapart₁ hsettled₁ hnone₂
  set settled := rested.next (.frame .idle)
  have hstill₃ : (settled.next (.frame (.press button target))).Still :=
    (hstill₂.focus_frame (by simp [Input.key?])).1
  obtain ⟨-, hrelease⟩ := ignoresPane_at hapart₂ hsettled₂ hstill₃ hheld button
  intro f hf
  rw [frames_click] at hf
  simp only [List.mem_cons, List.not_mem_nil, or_false] at hf
  rcases hf with rfl | rfl | rfl | rfl
  · exact ignoresPane_of_no_stroke hstill (by simp [Input.key?]) rfl
  · exact ignoresPane_of_no_stroke hstill₁ (by simp [Input.key?]) rfl
  · exact hpress
  · exact hrelease

/-- A key passes by the pane, unless it is Tab and the document is shown. -/
theorem ignoresPane_key (hstill : s.Still) {key : Key}
    (h : key = .tab → s.window.pane.visible = false) :
    ∀ f ∈ s.frames (Step.gesture (.key key)).moments, f.1.ignoresPane f.2 = true := by
  have hframes : s.frames (Step.gesture (.key key)).moments =
      [(s, .keyDown key), (s.next (.frame (.keyDown key)), .keyUp key)] := rfl
  rw [hframes]
  intro f hf
  simp only [List.mem_cons, List.not_mem_nil, or_false] at hf
  by_cases htab : key = .tab
  · -- nothing in a hidden pane takes the focus, and Tab does not show it
    have hover : s.turnsOver (.frame (.keyDown key)) = false := by
      rw [htab]
      exact not_turnsOver_of_key rfl rfl
    have hhidden := (visible_of_not_turnsOver hover).trans (h htab)
    rcases hf with rfl | rfl
    · exact ignoresPane_of_hidden (h htab) rfl
    · exact ignoresPane_of_hidden hhidden rfl
  · have hother : (Input.keyDown key).key? ≠ some .tab := by simpa [Input.key?] using htab
    rcases hf with rfl | rfl
    · exact ignoresPane_of_no_stroke hstill hother rfl
    · exact ignoresPane_of_no_stroke (hstill.focus_frame hother).1 (by simp [Input.key?]) rfl

/-- **A step that keeps the checkbox and the pane apart** ignores the pane in all its frames. -/
theorem ignoresPane_of_keepsApart (hstill : s.Still) (htimely : s.Timely)
    (hlate : s.clock.now + 2 ≤ 2 ^ 47) {step : Step} (h : s.KeepsApart step) :
    ∀ f ∈ s.frames step.moments, f.1.ignoresPane f.2 = true := by
  cases step with
  | act action => exact fun f hf => absurd hf (by simp [Step.moments, frames])
  | resize screen => exact fun f hf => absurd hf (by simp [Step.moments, frames])
  | gesture g =>
    cases g with
    | wait =>
      intro f hf
      obtain rfl := List.mem_singleton.mp hf
      exact ignoresPane_of_no_stroke hstill (by simp [Input.key?]) rfl
    | click button target => exact ignoresPane_click hstill htimely hlate button h
    | press target =>
      -- these are the first frames of a click
      intro f hf
      refine ignoresPane_click hstill htimely hlate .primary h f ?_
      show f ∈ s.frames
        ((Gesture.press target).inputs.map .frame ++ [.frame (.release .primary target)])
      rw [frames_append]
      exact List.mem_append_left _ hf
    | release target => contradiction
    | key key => exact ignoresPane_key hstill h

end

/-- **In a run of a new window** all frames of the steps that leave the pane out ignore it, and it
is known how long a press has lasted. -/
theorem ignoresPane_course (settings : Settings) (document : Document) (screen : Screen)
    {steps : List Step} (hlength : steps.length ≤ 2 ^ 40)
    (h : ∀ r ∈ (build settings document screen).1.course steps, r.1.LeavesOutPane r.2) :
    ∀ r ∈ (build settings document screen).1.course steps,
      (r.1.Timely ∧ r.1.clock.now + 8 ≤ 2 ^ 47) ∧
        ∀ f ∈ r.1.frames r.2.moments, f.1.ignoresPane f.2 = true := by
  intro r hr
  obtain ⟨before, later, rfl, hsession⟩ := exists_before_of_mem_course hr
  have hbefore : before.length ≤ 2 ^ 40 := by
    rw [List.length_append] at hlength
    omega
  obtain ⟨htimely, hnow⟩ := timely_after settings document screen hbefore
  have hstill := still_after (s := (build settings document screen).1) (fun _ => rfl) rfl before
  rw [← hsession] at htimely hnow hstill
  refine ⟨⟨htimely, by linarith⟩, ?_⟩
  rcases h r hr with hapart | hignores
  · exact ignoresPane_of_keepsApart hstill htimely (by linarith) hapart
  · exact hignores

end Reveal.Session
