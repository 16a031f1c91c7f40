import Reveal.Proofs.Reach

/-!
# Reveal — how old a press is

A press is forgotten when it has lasted too long for a click. Whether it has is told by the
clock, which is rounded: every frame brings it forward by a little, and a rest by about a
second, as long as seconds can be told apart at all. That is so for the first four million
years or so (`Clock.IsEarly`).

Then a press that was there before a rest is too old for a click after it, and what was
pressed in the last frame is not.

## Results

* `Clock.tick_bounds`      — how far a frame brings the clock forward.
* `Session.Timely.after`   — what is held for a click has been pressed before.
-/

namespace Reveal

/-! ## The clock -/

/-- A time is kept to one part in `2 ^ 53`. -/
theorem abs_instant_sub_le (t : ℚ) : |instant t - t| ≤ |t| / 2 ^ 53 :=
  Rounding.abs_toDigits_sub_le 53 t

/-- Rounding a time of up to `2 ^ 48` seconds moves it by less than the length of a frame. -/
theorem instant_mem {t : ℚ} (h0 : 0 ≤ t) (h : t ≤ 2 ^ 48) :
    t - 1 / 32 ≤ instant t ∧ instant t ≤ t + 1 / 32 := by
  have hnear := abs_instant_sub_le t
  have hlittle : |t| / 2 ^ 53 ≤ 1 / 32 := by
    rw [abs_of_nonneg h0, div_le_iff₀ (by positivity)]
    norm_num at h ⊢
    linarith
  have := abs_le.mp (hnear.trans hlittle)
  constructor
  · linarith [this.1]
  · linarith [this.2]

namespace Clock

/-- From one frame to the next it is about a twentieth of a second. -/
theorem interval_mem : (1 : ℚ) / 21 ≤ interval ∧ interval ≤ 1 / 19 := by
  decide +kernel

/-- Whether seconds can still be told apart. -/
def IsEarly (c : Clock) : Prop := 0 ≤ c.now ∧ c.now ≤ 2 ^ 47

/-- **How far a frame brings the clock forward.** -/
theorem tick_bounds {c : Clock} (h : c.IsEarly) (rested : Bool) :
    c.now ≤ (c.tick rested).now ∧ (c.tick rested).now ≤ c.now + 2 ∧
      (rested = true → c.now + 19 / 20 ≤ (c.tick rested).now) ∧
      (rested = false → (c.tick rested).now ≤ c.now + 1 / 10) := by
  obtain ⟨h0, hearly⟩ := h
  obtain ⟨hlow, hhigh⟩ := interval_mem
  norm_num at hearly
  -- a time is rounded once for each of the intervals that are added
  cases rested with
  | false =>
    have hnext := instant_mem (t := c.now + interval) (by linarith) (by norm_num; linarith)
    show c.now ≤ instant (c.now + interval) ∧ instant (c.now + interval) ≤ _ ∧ _
    refine ⟨by linarith [hnext.1], by linarith [hnext.2], by simp, fun _ => ?_⟩
    show instant (c.now + interval) ≤ _
    linarith [hnext.2]
  | true =>
    have hrest := instant_mem (t := c.now + rest) (by unfold rest; linarith)
      (by unfold rest; norm_num; linarith)
    unfold rest at hrest
    have hnext := instant_mem (t := instant (c.now + 1) + interval) (by linarith [hrest.1])
      (by norm_num; linarith [hrest.2])
    show c.now ≤ instant (instant (c.now + 1) + interval) ∧
      instant (instant (c.now + 1) + interval) ≤ _ ∧ _
    refine ⟨by linarith [hrest.1, hnext.1], by linarith [hrest.2, hnext.2], fun _ => ?_, by simp⟩
    show _ ≤ instant (instant (c.now + 1) + interval)
    linarith [hrest.1, hnext.1]

end Clock

/-! ## What is held for a click -/

theorem Grip.click_startDrag (g : Grip) (drawn : List Widget.Name) (certain : Bool) :
    (g.startDrag drawn certain).click = g.click := by
  unfold startDrag
  split
  · split
    · rfl
    · rfl
  · rfl

/-- What is held for a click after a frame: what was held before, or what a press has hit, unless
a button has been released or no click can come of it any more. -/
theorem Grip.click_update (g : Grip) (drawn : List Widget.Name) (hit : Widget.Hit)
    (pointer : Pointer) (now : Rat) (stroke : Stroke) (escape : Bool) :
    (g.update drawn hit pointer now stroke escape).1.click =
      if stroke.released.isSome || !pointer.isDown ||
          !pointer.mayClick now (pointer.isDown || stroke.released.isSome) then none
      else if stroke.pressed then (g.click.filter (· ∈ drawn)).or hit.click
      else g.click.filter (· ∈ drawn) := by
  unfold Grip.update
  dsimp only
  cases pointer.isDown with
  | false => simp
  | true =>
    cases stroke.released with
    | some button =>
      -- a release lets go of everything
      have hempty : (({} : Grip).startDrag drawn (pointer.isDragging now stroke)).click = none :=
        click_startDrag _ _ _
      simp only [Option.isSome_some, if_true, Bool.true_or]
      split
      · exact hempty
      · rfl
    | none =>
      cases pointer.mayClick now (true || Option.isSome none) with
      | false => simp
      | true =>
        cases stroke.pressed <;> cases escape <;> simp [click_startDrag, seize]

/-- What a frame clicks: what was held for it before, or what a press has hit just now. -/
theorem Grip.clicked_update (g : Grip) (drawn : List Widget.Name) (hit : Widget.Hit)
    (pointer : Pointer) (now : Rat) (stroke : Stroke) (escape : Bool) :
    (g.update drawn hit pointer now stroke escape).2.clicked =
      if stroke.clicked then
        if stroke.pressed then (g.click.filter (· ∈ drawn)).or hit.click
        else g.click.filter (· ∈ drawn)
      else none := by
  unfold Grip.update
  dsimp only
  cases stroke.clicked <;> cases stroke.pressed <;> cases escape <;> simp [seize]

namespace Session

theorem now_tick (s : Session) (input : Input) :
    (s.tick input).now = (s.clock.tick (input = .rest)).now := by
  unfold tick
  dsimp only
  split
  · rfl
  · rfl

theorem now_frame (s : Session) (input : Input) :
    (s.next (.frame input)).clock.now = (s.clock.tick (input = .rest)).now := by
  rw [← now_tick]
  simp only [next, layOut, drawCheckbox, drawPane]
  split
  · dsimp only
    split
    · rfl
    · rfl
  · rfl

/-- A frame takes two seconds at most. -/
theorem early_frame {s : Session} (h : s.clock.IsEarly) (hlate : s.clock.now + 2 ≤ 2 ^ 47)
    (input : Input) :
    (s.next (.frame input)).clock.IsEarly ∧
      (s.next (.frame input)).clock.now ≤ s.clock.now + 2 := by
  obtain ⟨hmono, hnext, -⟩ := Clock.tick_bounds h (input = .rest)
  rw [Clock.IsEarly, now_frame]
  exact ⟨⟨h.1.trans hmono, hnext.trans hlate⟩, hnext⟩

/-- What is held for a click has been pressed before, and it is known when. -/
structure Timely (s : Session) : Prop where
  early : s.clock.IsEarly
  held : s.grip.click ≠ none → s.pointer.position ≠ none ∧
    ∃ press, s.pointer.press = some press ∧ 0 ≤ press.time ∧ press.time ≤ s.clock.now

/-- Nothing is held in a new session. -/
theorem timely_build (settings : Settings) (document : Document) (screen : Screen) :
    (build settings document screen).1.Timely :=
  ⟨⟨le_rfl, by norm_num [build]⟩, fun h => absurd rfl h⟩

/-- What would be clicked if a button were released in the frame: what was held before, as far as
it is still on the screen, or what a press has hit just now. -/
def target (s : Session) (input : Input) : Option Widget.Name :=
  let kept := s.grip.click.filter (· ∈ s.drawn.map (·.name))
  if (s.hand input).stroke.pressed then kept.or (s.hits input).click else kept

theorem click_frame (s : Session) (input : Input) :
    (s.next (.frame input)).grip.click =
      let hand := s.hand input
      if hand.stroke.released.isSome || !hand.pointer.isDown ||
          !hand.pointer.mayClick (s.tick input).now
            (hand.pointer.isDown || hand.stroke.released.isSome) then none
      else s.target input :=
  Grip.click_update s.grip _ _ _ _ _ _

/-- What is clicked is the target of the stroke, if that is a click. -/
theorem clicked_hand (s : Session) (input : Input) :
    (s.hand input).touch.clicked =
      if (s.hand input).stroke.clicked then s.target input else none :=
  Grip.clicked_update s.grip (s.drawn.map fun w : Widget => w.name) (s.hits input) (s.hand input).pointer
    (s.tick input).now (s.hand input).stroke (input.key? == some .escape)

/-- Without a press the target is what was held before, if it is still drawn. -/
theorem target_of_not_press {s : Session} {input : Input}
    (h : ∀ button target, input ≠ .press button target) :
    s.target input = s.grip.click.filter (· ∈ s.drawn.map (·.name)) := by
  have hpressed : (s.hand input).stroke.pressed = false := by
    cases input with
    | press button target => exact absurd rfl (h button target)
    | idle | rest | release _ _ | keyDown _ | keyUp _ => rfl
  unfold target
  rw [hpressed, if_neg (by simp)]

/-- What is held was the target of the frame, and no button was released in it. -/
theorem target_of_click {s : Session} {input : Input}
    (h : (s.next (.frame input)).grip.click ≠ none) :
    s.target input ≠ none ∧ (s.hand input).stroke.released = none := by
  rw [click_frame] at h
  dsimp only at h
  split at h
  · contradiction
  · next hnot =>
    refine ⟨h, ?_⟩
    simp only [Bool.or_eq_true, not_or, Option.isSome_iff_ne_none, not_not] at hnot
    exact hnot.1.1

/-- Where nothing is held for a click, only a press changes that. -/
theorem click_eq_none {s : Session} (h : s.grip.click = none) {input : Input}
    (hpress : ∀ button target, input ≠ .press button target) :
    (s.next (.frame input)).grip.click = none := by
  by_contra hclick
  obtain ⟨htarget, -⟩ := target_of_click hclick
  rw [target_of_not_press hpress, h] at htarget
  exact htarget rfl

/-- A press is remembered with its place, if it has one, and its time. -/
theorem press_of_press (s : Session) (button : Button) (target : Target) :
    (s.hand (.press button target)).pointer.press =
      (s.hand (.press button target)).pointer.position.map
        (⟨·, (s.tick (.press button target)).now⟩) := by
  cases button with
  | primary => rfl
  | secondary => rfl

/-- Once the pointer has been somewhere, it is somewhere. -/
theorem position_ne_none {s : Session} (h : s.pointer.position ≠ none) (button : Button)
    (target : Target) : (s.hand (.press button target)).pointer.position ≠ none := by
  have hposition : (s.hand (.press button target)).pointer.position =
      ((s.locate target).elim s.pointer s.pointer.moveTo).position := by
    cases button with
    | primary => rfl
    | secondary => rfl
  rw [hposition]
  -- a press that has no place leaves the pointer where it is
  cases s.locate target with
  | none => exact h
  | some place => simp [Pointer.moveTo]

/-- A frame leaves what is held for a click with the time of its press. -/
theorem Timely.frame {s : Session} (h : s.Timely) (input : Input) (hearly : s.clock.now + 2 ≤ 2 ^ 47) :
    (s.next (.frame input)).Timely := by
  obtain ⟨hmono, -⟩ := Clock.tick_bounds h.early (input = .rest)
  refine ⟨(early_frame h.early hearly input).1, ?_⟩
  · intro hheld
    rw [now_frame]
    obtain ⟨htarget, hreleased⟩ := target_of_click hheld
    -- without a press, position and press are those of before
    have hkept : (∀ button target, input ≠ .press button target) →
        (s.next (.frame input)).pointer.position = s.pointer.position →
        (s.next (.frame input)).pointer.press = s.pointer.press →
        (s.next (.frame input)).pointer.position ≠ none ∧
          ∃ press, (s.next (.frame input)).pointer.press = some press ∧ 0 ≤ press.time ∧
            press.time ≤ (s.clock.tick (input = .rest)).now := by
      intro hpress hposition hsame
      rw [target_of_not_press hpress] at htarget
      have hbefore : s.grip.click ≠ none := by
        intro hnone
        rw [hnone] at htarget
        exact htarget rfl
      obtain ⟨hplace, press, hpressed, hzero, hle⟩ := h.held hbefore
      rw [hposition, hsame]
      exact ⟨hplace, press, hpressed, hzero, hle.trans hmono⟩
    cases input with
    | idle => exact hkept (by simp) rfl rfl
    | rest => exact hkept (by simp) rfl rfl
    | keyDown key => exact hkept (by simp) rfl rfl
    | keyUp key => exact hkept (by simp) rfl rfl
    | release button target => contradiction
    | press button target =>
      have hposition : (s.hand (.press button target)).pointer.position ≠ none := by
        intro hnone
        -- then nothing is hit, and nothing was held before
        have hbefore : s.grip.click = none := by
          by_contra hclick
          exact position_ne_none (h.held hclick).1 button target hnone
        have hhits : s.hits (.press button target) = {} := by
          rw [hits, hnone]
          rfl
        apply htarget
        rw [Session.target, hbefore, hhits]
        rfl
      refine ⟨hposition, ?_⟩
      obtain ⟨place, hplace⟩ := Option.ne_none_iff_exists'.mp hposition
      refine ⟨⟨place, (s.tick (.press button target)).now⟩, ?_, ?_, ?_⟩
      · show (s.hand (.press button target)).pointer.press = _
        rw [press_of_press, hplace]
        rfl
      · exact h.early.1.trans hmono
      · exact le_rfl

/-- **After a run** it is known when what is held for a click was pressed. -/
theorem Timely.after {s : Session} (h : s.Timely) (moments : List Moment)
    (hearly : s.clock.now + 2 * (s.frames moments).length + 2 ≤ 2 ^ 47) :
    (s.after moments).Timely ∧
      (s.after moments).clock.now ≤ s.clock.now + 2 * (s.frames moments).length := by
  induction moments generalizing s with
  | nil =>
    refine ⟨h, ?_⟩
    show s.clock.now ≤ _
    simp [frames]
  | cons m later ih =>
    cases m with
    | act action => exact ih (s := s.next (.act action)) ⟨h.early, h.held⟩ hearly
    | resize screen => exact ih (s := s.next (.resize screen)) ⟨h.early, h.held⟩ hearly
    | frame input =>
      have hlength : ((s.frames (.frame input :: later)).length : ℚ) =
          ((s.next (.frame input)).frames later).length + 1 := by
        rw [frames, List.length_cons]
        push_cast
        rfl
      have hcount : (0 : ℚ) ≤ ((s.next (.frame input)).frames later).length := Nat.cast_nonneg _
      have hnow := (early_frame h.early (by linarith) input).2
      rw [hlength] at hearly ⊢
      -- each of the later frames takes two seconds at most
      obtain ⟨hafter, hlate⟩ := ih (h.frame input (by linarith)) (by linarith)
      exact ⟨hafter, by
        show ((s.next (.frame input)).after later).clock.now ≤ _
        linarith⟩

/-- No step takes more than four frames. -/
theorem length_frames_le (s : Session) (steps : List Step) :
    (s.frames (steps.flatMap Step.moments)).length ≤ 4 * steps.length := by
  induction steps generalizing s with
  | nil => exact le_rfl
  | cons step steps ih =>
    have hstep : (s.frames step.moments).length ≤ 4 := by
      cases step with
      | act action => exact Nat.zero_le 4
      | resize screen => exact Nat.zero_le 4
      | gesture g => cases g <;> simp [Step.moments, Gesture.inputs, frames]
    rw [List.flatMap_cons, frames_append, List.length_append, List.length_cons]
    have := ih (s.after step.moments)
    omega

/-- A step takes eight seconds at most. -/
theorem Timely.step {s : Session} (h : s.Timely) (step : Step) (hlate : s.clock.now + 10 ≤ 2 ^ 47) :
    (s.after step.moments).Timely ∧ (s.after step.moments).clock.now ≤ s.clock.now + 8 := by
  have hframes : ((s.frames step.moments).length : ℚ) ≤ 4 := by
    have := s.length_frames_le [step]
    simp only [List.flatMap_cons, List.flatMap_nil, List.append_nil, List.length_singleton] at this
    exact_mod_cast this
  obtain ⟨htimely, hnow⟩ := h.after step.moments (by linarith)
  exact ⟨htimely, by linarith⟩

/-- So it is after all runs of a new window that do not go on for millions of years. -/
theorem timely_after (settings : Settings) (document : Document) (screen : Screen)
    {steps : List Step} (hsteps : steps.length ≤ 2 ^ 40) :
    let s := (build settings document screen).1.after (steps.flatMap Step.moments)
    s.Timely ∧ s.clock.now ≤ 2 ^ 43 := by
  intro s
  set start := (build settings document screen).1 with hstart
  set moments := steps.flatMap Step.moments
  have hzero : start.clock.now = 0 := rfl
  have hcount : ((start.frames moments).length : ℚ) ≤ 2 ^ 42 := by
    have hle : (start.frames moments).length ≤ 2 ^ 42 :=
      (start.length_frames_le steps).trans (by omega)
    exact_mod_cast hle
  -- each frame takes two seconds at most
  have hearly : start.clock.now + 2 * (start.frames moments).length + 2 ≤ 2 ^ 47 := by
    rw [hzero]
    linarith
  obtain ⟨htimely, hnow⟩ := (timely_build settings document screen).after _ hearly
  refine ⟨htimely, ?_⟩
  rw [← hstart, hzero] at hnow
  linarith

/-- **After a rest** nothing is held for a click any more. -/
theorem Timely.click_rest {s : Session} (h : s.Timely) (hearly : s.clock.now + 2 ≤ 2 ^ 47) :
    (s.next (.frame .rest)).grip.click = none := by
  by_contra hheld
  obtain ⟨htarget, -⟩ := target_of_click hheld
  rw [target_of_not_press (by simp)] at htarget
  have hbefore : s.grip.click ≠ none := by
    intro hnone
    rw [hnone] at htarget
    exact htarget rfl
  obtain ⟨-, press, hpress, hzero, hle⟩ := h.held hbefore
  obtain ⟨-, hnext, hrest, -⟩ := Clock.tick_bounds h.early true
  -- the press is too old by now
  have hold : Pointer.clickTime < instant ((s.tick .rest).now - press.time) := by
    have hnow : (s.tick .rest).now = (s.clock.tick true).now := rfl
    have hlate := hrest rfl
    have hmem := instant_mem (t := (s.tick .rest).now - press.time)
      (by rw [hnow]; linarith) (by rw [hnow]; linarith)
    have htime : Pointer.clickTime ≤ 9 / 10 := by decide +kernel
    rw [hnow] at hmem ⊢
    linarith [hmem.1]
  have hclick : ∀ busy, (s.hand .rest).pointer.mayClick (s.tick .rest).now busy = false := by
    intro busy
    have hsame : (s.hand .rest).pointer.press = some press := hpress
    unfold Pointer.mayClick
    rw [hsame]
    simp [hold]
  rw [click_frame] at hheld
  dsimp only at hheld
  rw [hclick] at hheld
  simp at hheld

end Session

end Reveal
