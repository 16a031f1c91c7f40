import Reveal.Proofs.Alike

/-!
# Reveal — a run and its replay

A run can be replayed with the window clicked, after a frame, wherever the run clicks the
checkbox. Both sessions go in tandem: they have the same window and draw it the same way, and
nothing is under way in either of them. Every step keeps them so, unless it leaves a button
down or gives the focus away.

The one thing that may differ between them is what the other clicks do, which depends on where
the pointer has been before. In neither session may they reach for the text (`misses`), and
where one of them hits the checkbox it has to do so in both (`boxHits`): then it turns both
windows over.

## Results

* `turnsOver_click_point`     — what a click at a point turns over.
* `Tandem.step`, `Tandem.run` — a step, and a run, and its replay.
* `click_agrees`              — a click, and a run and its replay, of a new window.
-/

namespace Reveal

namespace Widget.Name

/-- Whether it is the checkbox, with the pane or without. -/
def isCheckbox : Name → Bool
  | checkbox _ => true
  | area | text | bar _ => false

theorem exists_of_isCheckbox {name : Name} (h : name.isCheckbox = true) :
    ∃ below, name = .checkbox below := by
  cases name with
  | checkbox below => exact ⟨below, rfl⟩
  | area | text | bar _ => contradiction

end Widget.Name

namespace Session

open Layout (IsClickable IsModest)

/-! ## Other clicks -/

/-- A press at a point does not reach for the text. -/
def misses (s : Session) : Input → Bool
  | .press button (.point p) => !s.reaches (.press button (.point p))
  | _ => true

/-- Which of the presses at points with the primary button hit the checkbox. -/
def boxHits (s : Session) (moments : List Moment) : List Bool :=
  (s.frames moments).filterMap fun f =>
    match f.2 with
    | .press .primary (.point _) => some ((f.1.hits f.2).click.any Widget.Name.isCheckbox)
    | _ => none

/-- The presses of one run after another are those of both. -/
theorem boxHits_append (s : Session) (first second : List Moment) :
    s.boxHits (first ++ second) = s.boxHits first ++ (s.after first).boxHits second := by
  rw [boxHits, frames_append, List.filterMap_append]
  rfl

/-- Whether it is a frame in which the primary button is pressed at a point. -/
def Moment.pressesPoint : Moment → Bool
  | .frame (.press .primary (.point _)) => true
  | _ => false

/-- How many presses there are does not depend on the session. -/
theorem length_boxHits (s : Session) (moments : List Moment) :
    (s.boxHits moments).length = moments.countP Moment.pressesPoint := by
  induction moments generalizing s with
  | nil => rfl
  | cons m moments ih =>
    rw [List.countP_cons, ← ih (s.next m)]
    cases m with
    | act action => rfl
    | resize screen => rfl
    | frame input =>
      simp only [boxHits, frames, List.filterMap_cons]
      cases input with
      | press button target => cases button <;> cases target <;> simp [Moment.pressesPoint]
      | idle | rest | release _ _ | keyDown _ | keyUp _ => simp [Moment.pressesPoint]

/-- A release leaves nothing held. -/
theorem click_release (s : Session) (button : Button) (target : Target) :
    (s.next (.frame (.release button target))).grip.click = none := by
  have hreleased : (s.hand (.release button target)).stroke.released = some button := rfl
  rw [click_frame]
  dsimp only
  rw [hreleased]
  rfl

/-- A release turns nothing over, if it is not the checkbox that is held for a click. -/
theorem not_turnsOver_of_not_held {s : Session}
    (h : s.grip.click.any Widget.Name.isCheckbox = false) (button : Button) (target : Target) :
    s.turnsOver (.frame (.release button target)) = false := by
  have hkept : s.grip.click.filter (· ∈ s.drawn.map (·.name)) ≠
      some (.checkbox s.window.pane.visible) := by
    intro heq
    have hheld := (Option.filter_eq_some_iff.mp heq).1
    rw [hheld] at h
    contradiction
  rw [turnsOver_release, beq_eq_false_iff_ne.mpr hkept, Bool.and_false, Bool.false_and]

/-- A frame draws no other checkbox than the one for what it has found. -/
theorem eq_checkbox_of_mem_frame {s : Session} {input : Input} {name : Widget.Name}
    (h : name ∈ (s.next (.frame input)).drawn.map (·.name)) (hbox : name.isCheckbox = true) :
    name = .checkbox s.window.pane.visible := by
  have hnames : (s.next (.frame input)).drawn.map (·.name) =
      s.paneNames input ++ [.checkbox s.window.pane.visible] := s.names_layOut input
  rw [hnames, List.mem_append, List.mem_singleton] at h
  obtain ⟨below, rfl⟩ := Widget.Name.exists_of_isCheckbox hbox
  exact h.resolve_left fun hpane => ne_checkbox_of_mem_paneNames hpane below rfl

/-- **A click at a point** turns the window over if its press hits the checkbox and it is made with
the primary button, as long as nothing is held for a click before it. -/
theorem turnsOver_click_point {s : Session} (hearly : s.clock.IsEarly)
    (hlate : s.clock.now + 8 ≤ 2 ^ 47) (hclick : s.grip.click = none) (button : Button) (p : Point) :
    let settled := (s.next (.frame .rest)).next (.frame .idle)
    (settled.next (.frame (.press button (.point p)))).turnsOver
        (.frame (.release button (.point p))) =
      ((settled.hits (.press button (.point p))).click.any Widget.Name.isCheckbox &&
        button == .primary) := by
  intro settled
  set pressed := settled.next (.frame (.press button (.point p))) with hpressed
  have hearly₃ : pressed.clock.IsEarly := by
    obtain ⟨hearly₁, hnow₁⟩ := early_frame hearly (by linarith) .rest
    obtain ⟨hearly₂, hnow₂⟩ := early_frame hearly₁ (by linarith) .idle
    exact (early_frame hearly₂ (by linarith) _).1
  -- the release finds what the press has hit, and the point where it was
  have hplace : settled.locate (.point p) = some p := rfl
  have hnone : settled.grip.click = none := click_eq_none (click_eq_none hclick (by simp)) (by simp)
  have hheld : pressed.grip.click = (settled.hits (.press button (.point p))).click :=
    click_press hplace hnone button
  have hdrawn : ∀ name ∈ (settled.hits (.press button (.point p))).click,
      name ∈ settled.drawn.map (·.name) := by
    have hall : (settled.hits (.press button (.point p))).All (· ∈ settled.drawn.map (·.name)) := by
      unfold hits
      rw [position_press hplace button, Option.elim_some]
      exact Widget.all_hit fun w hw _ _ => List.mem_map_of_mem hw
    exact hall.1
  have hvisible₁ : settled.window.pane.visible = (s.next (.frame .rest)).window.pane.visible :=
    visible_of_not_release rfl (by simp)
  have hvisible₂ : pressed.window.pane.visible = settled.window.pane.visible :=
    visible_of_not_release rfl (by simp)
  have hholds := holds_press hplace button
  rw [turnsOver_release, hholds.clicked hearly₃ rfl, Bool.true_and, hheld]
  congr 1
  cases hhit : (settled.hits (.press button (.point p))).click with
  | none => rfl
  | some name =>
    cases hbox : name.isCheckbox with
    | false =>
      -- something else is clicked, if anything
      have hother : (some name).filter (· ∈ pressed.drawn.map (·.name)) ≠
          some (.checkbox pressed.window.pane.visible) := by
        intro heq
        have hname := (Option.filter_eq_some_iff.mp heq).1
        rw [Option.some.injEq] at hname
        rw [hname] at hbox
        contradiction
      rw [beq_eq_false_iff_ne.mpr hother, Option.any_some, hbox]
    | true =>
      -- it is the checkbox that the press and the release both find drawn
      have hname := eq_checkbox_of_mem_frame (hdrawn name hhit) hbox
      rw [← hvisible₁] at hname
      have hmem : name ∈ pressed.drawn.map (·.name) := by
        rw [hpressed, hname]
        show _ ∈ (settled.layOut _).drawn.map _
        rw [names_layOut]
        exact List.mem_append_right _ List.mem_cons_self
      rw [Option.filter_some_pos (by simpa using hmem), hvisible₂, ← hname, Option.any_some, hbox]
      exact beq_self_eq_true _

/-- Which of the frames turn the window over. -/
def turns (s : Session) (moments : List Moment) : List Bool :=
  (s.frames moments).map fun f => f.1.turnsOver (.frame f.2)

/-- Of the four frames of a click only the last can turn anything over. -/
theorem turns_click (s : Session) (button : Button) (target : Target) :
    s.turns (Step.gesture (.click button target)).moments =
      [false, false, false,
        (((s.next (.frame .rest)).next (.frame .idle)).next
          (.frame (.press button target))).turnsOver (.frame (.release button target))] := by
  have hover : ∀ (r : Session) (input : Input), input.key? = none →
      (∀ button target, input ≠ .release button target) → r.turnsOver (.frame input) = false :=
    fun r input hkey h => not_turnsOver_of_not_release hkey h
  rw [turns, frames_click]
  simp only [List.map_cons, List.map_nil]
  rw [hover s .rest rfl (by simp), hover _ .idle rfl (by simp),
    hover _ (.press button target) rfl (by simp)]

/-- **Another click** in two sessions turns both windows over or neither, if its press hits the
checkbox in both or in neither. -/
theorem turns_click_other {s t : Session} (hclick : s.grip.click = none)
    (hclick' : t.grip.click = none) (hearly : s.clock.IsEarly) (hlate : s.clock.now + 8 ≤ 2 ^ 47)
    (hearly' : t.clock.IsEarly) (hlate' : t.clock.now + 8 ≤ 2 ^ 47) {button : Button}
    {target : Target} (hother : ¬ (button = .primary ∧ target = .checkbox))
    (hhits : s.boxHits (Step.gesture (.click button target)).moments =
      t.boxHits (Step.gesture (.click button target)).moments) :
    s.turns (Step.gesture (.click button target)).moments =
      t.turns (Step.gesture (.click button target)).moments := by
  rw [turns_click, turns_click]
  -- the secondary button turns nothing over, and the primary one where it hits the checkbox
  cases button with
  | secondary =>
    have hnot : ∀ r : Session, r.turnsOver (.frame (.release .secondary target)) = false := by
      intro r
      rw [turnsOver_release]
      simp
    rw [hnot, hnot]
  | primary =>
    cases target with
    | checkbox => exact absurd ⟨rfl, rfl⟩ hother
    | point p =>
      rw [turnsOver_click_point hearly hlate hclick, turnsOver_click_point hearly' hlate' hclick']
      have hsame : ∀ {a b : Bool}, [a] = [b] → [false, false, false, a && Button.primary == .primary] =
          [false, false, false, b && Button.primary == .primary] := by
        rintro a b h
        rw [List.singleton_inj.mp h]
      exact hsame hhits

/-- A click reaches for the text in none of its frames, if it is on the checkbox, or at a point that
misses the text. -/
theorem reaches_of_misses {s : Session} {button : Button} {target : Target}
    (h : Layout.IsExact s.screen s.window.pane.visible s.window.checkbox.label)
    (hmiss : ∀ f ∈ s.frames (Step.gesture (.click button target)).moments, f.1.misses f.2 = true)
    {f : Session × Input} (hf : f ∈ s.frames (Step.gesture (.click button target)).moments) :
    f.1.reaches f.2 = false := by
  cases target with
  | checkbox => exact s.reaches_press_checkbox button h (by simp) hf
  | point p =>
    by_cases hpress : ∃ button target, f.2 = .press button target
    · -- the only press of a click is the one at the point
      have hpoint : f.2 = .press button (.point p) := by
        obtain ⟨before, later, hmoments, -⟩ := exists_of_mem_frames hf
        have hmem : Moment.frame f.2 ∈ (Step.gesture (.click button (.point p))).moments := by
          rw [hmoments]
          exact List.mem_append_right _ List.mem_cons_self
        obtain ⟨other, target, hother⟩ := hpress
        rw [hother] at hmem ⊢
        simpa [Step.moments, Gesture.inputs] using hmem
      have hmissed := hmiss f hf
      rw [hpoint] at hmissed ⊢
      simpa [misses] using hmissed
    · exact reaches_of_not_press _ fun button target heq => hpress ⟨button, target, heq⟩

/-! ## A run and its replay -/

/-- Where the document is in the window and on the screen is near. -/
def IsNear (s : Session) : Prop := s.window.pane.scroll.IsNear ∧ s.area.offset.IsNear

theorem IsNear.placedArea {s : Session} (h : s.IsNear) : s.placedArea.offset.IsNear := by
  unfold Session.placedArea
  split
  · exact h.2
  · exact h.1

/-- Only a far offset takes a document away from the window. -/
theorem IsNear.act {s : Session} (h : s.IsNear) {action : Window.Action}
    (hnear : ∀ offset, action = .scroll offset → offset.IsNear) :
    (s.next (.act action)).IsNear := by
  refine ⟨?_, h.2⟩
  show (s.window.next action).pane.scroll.IsNear
  by_cases hscroll : ∃ offset, action = .scroll offset
  · obtain ⟨offset, rfl⟩ := hscroll
    exact hnear offset rfl
  · -- no other action moves the text
    rw [s.window.scroll_next fun offset heq => hscroll ⟨offset, heq⟩]
    exact h.1

/-- Frames that the pointer does not scroll in leave a document near. -/
theorem isNear_frames {s : Session} (h : s.IsNear) (hrest : s.AtRest) {inputs : List Input}
    (hreach : ∀ f ∈ s.frames (inputs.map .frame), f.1.reaches f.2 = false) :
    (s.after (inputs.map .frame)).IsNear := by
  induction inputs generalizing s with
  | nil => exact h
  | cons input inputs ih =>
    have hfirst : s.reaches input = false := hreach (s, input) List.mem_cons_self
    refine ih (s := s.next (.frame input)) ?_ (hrest.frame hfirst)
      fun f hf => hreach f (List.mem_cons_of_mem _ hf)
    by_cases hvisible : s.window.pane.visible = true
    · obtain ⟨harea, hscroll⟩ := area_frame hvisible input
      -- it is brought into its range from where it is put
      have hnear := near_clamp h.placedArea ((shows_placedArea hvisible input).range hrest
        (grabs_of_reaches hfirst))
      exact ⟨hnear, by rw [harea, ← hscroll]; exact hnear⟩
    · obtain ⟨harea, hscroll⟩ := area_frame_of_hidden (by simpa using hvisible) input
      exact ⟨by rw [hscroll]; exact h.1, by rw [harea]; exact h.2⟩

/-- Frames that turn nothing over log nothing. -/
theorem log_frames {s : Session} {inputs : List Input}
    (hover : ∀ f ∈ s.frames (inputs.map .frame), f.1.turnsOver (.frame f.2) = false) :
    s.log (inputs.map .frame) = [] := by
  induction inputs generalizing s with
  | nil => rfl
  | cons input inputs ih =>
    have hfirst : s.turnsOver (.frame input) = false := hover (s, input) List.mem_cons_self
    rw [List.map_cons, log_cons, updates, hfirst,
      ih fun f hf => hover f (List.mem_cons_of_mem _ hf)]
    rfl

/-- **The same frames in two sessions alike** log the same and leave them alike, if they turn the
same windows over and no press in them reaches for the text. -/
theorem Alike.frames {s t : Session} (h : s.Alike t) (hs : s.AtRest) (ht : t.AtRest)
    {inputs : List Input}
    (hreach : ∀ f ∈ s.frames (inputs.map .frame), f.1.reaches f.2 = false)
    (hreach' : ∀ f ∈ t.frames (inputs.map .frame), f.1.reaches f.2 = false)
    (hover : s.turns (inputs.map .frame) = t.turns (inputs.map .frame)) :
    t.log (inputs.map .frame) = s.log (inputs.map .frame) ∧
      (s.after (inputs.map .frame)).Alike (t.after (inputs.map .frame)) := by
  -- along the frames, with the sessions going on side by side
  induction inputs generalizing s t with
  | nil => exact ⟨rfl, h⟩
  | cons input inputs ih =>
    have hfirst : s.reaches input = false := hreach (s, input) List.mem_cons_self
    have hfirst' : t.reaches input = false := hreach' (t, input) List.mem_cons_self
    obtain ⟨hturn, hlater⟩ : s.turnsOver (.frame input) = t.turnsOver (.frame input) ∧ _ :=
      List.cons.inj hover
    have hsame : t.updates (.frame input) = s.updates (.frame input) := by
      rw [updates, updates, ← hturn, h.window]
    obtain ⟨hlog, halike⟩ := ih (h.frame (fun _ => ⟨hs, ht⟩) hfirst hfirst' hturn.symm)
      (hs.frame hfirst) (ht.frame hfirst') (fun f hf => hreach f (List.mem_cons_of_mem _ hf))
      (fun f hf => hreach' f (List.mem_cons_of_mem _ hf)) hlater
    refine ⟨?_, halike⟩
    rw [List.map_cons, log_cons, log_cons, hsame, hlog]

/-- Two sessions alike, in which nothing is under way. -/
structure Tandem (s t : Session) : Prop extends Alike s t where
  rest : s.AtRest
  rest' : t.AtRest
  click : s.grip.click = none
  click' : t.grip.click = none
  near : s.IsNear

/-- Whether the step presses and types nothing but clicks. -/
def Step.isPlain : Step → Bool
  | .act _ | .resize _ | .gesture .wait | .gesture (.click _ _) => true
  | .gesture (.press _) | .gesture (.release _) | .gesture (.key _) => false

/-- What is done instead of the step: the window is clicked where the step clicks the checkbox. -/
def Step.replay : Step → List Step
  | .gesture (.click .primary .checkbox) => plainly
  | step => [step]

/-- An action keeps two sessions in tandem. -/
theorem Tandem.act {s t : Session} (h : s.Tandem t) {action : Window.Action}
    (hnear : ∀ offset, action = .scroll offset → offset.IsNear) :
    t.log [.act action] = s.log [.act action] ∧
      (s.next (.act action)).Tandem (t.next (.act action)) := by
  constructor
  · -- whether the window is turned over is a matter of the window alone
    rw [log_cons, log_cons]
    cases action <;> simp only [updates, turnsOver, h.window] <;> rfl
  · exact ⟨h.toAlike.act action, ⟨h.rest.area, h.rest.grip⟩, ⟨h.rest'.area, h.rest'.grip⟩, h.click,
      h.click', h.near.act hnear⟩

/-- A frame without input keeps them in tandem. -/
theorem Tandem.wait {s t : Session} (h : s.Tandem t) :
    (s.log [.frame .idle] = [] ∧ t.log [.frame .idle] = []) ∧
      (s.next (.frame .idle)).Tandem (t.next (.frame .idle)) := by
  have hover : ∀ r : Session, r.turnsOver (.frame .idle) = false :=
    fun r => not_turnsOver_of_not_release rfl (by simp)
  have hreach : ∀ r : Session, r.reaches .idle = false := fun r => reaches_of_not_press r (by simp)
  have hnear : (s.after ([.idle].map .frame)).IsNear :=
    isNear_frames h.near h.rest fun f hf => reaches_of_no_press (by simp) hf
  refine ⟨⟨?_, ?_⟩, ?_, h.rest.frame (hreach s), h.rest'.frame (hreach t),
    click_eq_none h.click (by simp), click_eq_none h.click' (by simp), hnear⟩
  · rw [log_cons, updates, hover]
    rfl
  · rw [log_cons, updates, hover]
    rfl
  · exact h.toAlike.frame (fun _ => ⟨h.rest, h.rest'⟩) (hreach s) (hreach t)
      ((hover t).trans (hover s).symm)

/-- So does a click that does not reach for the text, if it turns over both windows or neither. -/
theorem Tandem.click_other {s t : Session} (h : s.Tandem t) {button : Button} {target : Target}
    (hexact : Layout.IsExact s.screen s.window.pane.visible s.window.checkbox.label)
    (hmiss : ∀ f ∈ s.frames (Step.gesture (.click button target)).moments, f.1.misses f.2 = true)
    (hmiss' : ∀ f ∈ t.frames (Step.gesture (.click button target)).moments,
      f.1.misses f.2 = true)
    (hover : s.turns (Step.gesture (.click button target)).moments =
      t.turns (Step.gesture (.click button target)).moments) :
    t.log (Step.gesture (.click button target)).moments =
        s.log (Step.gesture (.click button target)).moments ∧
      (s.after (Step.gesture (.click button target)).moments).Tandem
        (t.after (Step.gesture (.click button target)).moments) := by
  have hexact' : Layout.IsExact t.screen t.window.pane.visible t.window.checkbox.label := by
    rw [h.screen, h.window]
    exact hexact
  have hreach : ∀ f ∈ s.frames (Step.gesture (.click button target)).moments,
      f.1.reaches f.2 = false := fun f hf => reaches_of_misses hexact hmiss hf
  have hreach' : ∀ f ∈ t.frames (Step.gesture (.click button target)).moments,
      f.1.reaches f.2 = false := fun f hf => reaches_of_misses hexact' hmiss' hf
  obtain ⟨hlog, halike⟩ := h.toAlike.frames h.rest h.rest' hreach hreach' hover
  exact ⟨hlog, halike, h.rest.after hreach, h.rest'.after hreach', click_release _ _ _,
    click_release _ _ _, isNear_frames h.near h.rest hreach⟩

/-- So do a click on the checkbox in one, and a frame and a click on the window in the other. -/
theorem Tandem.click_checkbox {s t : Session} (h : s.Tandem t)
    (hclickable : IsClickable s.screen s.window.pane.visible s.window.checkbox.label)
    (hmodest : IsModest s.window.pane.document) (hearly : s.clock.IsEarly)
    (hlate : s.clock.now + 8 ≤ 2 ^ 47) :
    t.log (plainly.flatMap Step.moments) =
        s.log (Step.gesture (.click .primary .checkbox)).moments ∧
      (s.after (Step.gesture (.click .primary .checkbox)).moments).Tandem
        (t.after (plainly.flatMap Step.moments)) := by
  have hreach : ∀ f ∈ s.frames (Step.gesture (.click .primary .checkbox)).moments,
      f.1.reaches f.2 = false :=
    fun f hf => s.reaches_press_checkbox .primary hclickable.toIsExact (by simp) hf
  have hnone : (s.next (.frame .rest)).grip.click = none := click_eq_none h.click (by simp)
  have halike := alike_click hearly hlate hnone hclickable
    fun _ => ⟨h.rest, hmodest, h.near.placedArea⟩
  obtain ⟨hlog, -⟩ := log_click hearly hlate hnone hclickable
  obtain ⟨-, htandem⟩ := h.wait
  constructor
  · rw [hlog, log_plainly, h.window]
  · -- the replay in `s` is between the two
    have hreplay : (s.after (plainly.flatMap Step.moments)).Alike
        (t.after (plainly.flatMap Step.moments)) := htandem.toAlike.act .click
    exact ⟨halike.symm.trans hreplay, h.rest.after hreach, ⟨htandem.rest'.area, htandem.rest'.grip⟩,
      click_release _ _ _, htandem.click', isNear_frames h.near h.rest hreach⟩

/-- What lets the run of `s` be replayed in `t`: its steps press and type nothing but clicks, the
checkbox can be clicked on all of its screens, the document stays near the window, and the clicks
at points do in the one session what they do in the other. -/
structure Replayable (s t : Session) (steps : List Step) : Prop where
  plain : ∀ step ∈ steps, step.isPlain = true
  clickable : ∀ screen, screen = s.screen ∨ .resize screen ∈ steps →
    ∀ paneDrawn, IsClickable screen paneDrawn s.window.checkbox.label
  modest : IsModest s.window.pane.document
  near : ∀ offset, .act (.scroll offset) ∈ steps → offset.IsNear
  misses : ∀ f ∈ s.frames (steps.flatMap Step.moments), f.1.misses f.2 = true
  misses' : ∀ f ∈ t.frames ((steps.flatMap Step.replay).flatMap Step.moments),
    f.1.misses f.2 = true
  boxHits : s.boxHits (steps.flatMap Step.moments) =
    t.boxHits ((steps.flatMap Step.replay).flatMap Step.moments)

/-- A run presses as often at points as its replay. -/
theorem length_boxHits_replay (s t : Session) (steps : List Step) :
    (s.boxHits (steps.flatMap Step.moments)).length =
      (t.boxHits ((steps.flatMap Step.replay).flatMap Step.moments)).length := by
  rw [length_boxHits, length_boxHits]
  induction steps with
  | nil => rfl
  | cons step steps ih =>
    have hstep : step.moments.countP Moment.pressesPoint =
        (step.replay.flatMap Step.moments).countP Moment.pressesPoint := by
      cases step with
      | act action => rfl
      | resize screen => rfl
      | gesture g =>
        cases g with
        | click button target => cases button <;> cases target <;> rfl
        | wait | press _ | release _ | key _ => rfl
    simp only [List.flatMap_cons, List.flatMap_append, List.countP_append]
    rw [hstep, ih]

/-- The first steps of such a run, and those after them, are such runs. -/
theorem Replayable.append {s t : Session} {first second : List Step}
    (h : s.Replayable t (first ++ second)) :
    s.Replayable t first ∧
      (s.after (first.flatMap Step.moments)).Replayable
        (t.after ((first.flatMap Step.replay).flatMap Step.moments)) second := by
  obtain ⟨hplain, hclickable, hmodest, hnear, hmiss, hmiss', hhits⟩ := h
  have htexts := s.sameTexts_after (first.flatMap Step.moments)
  rw [List.flatMap_append, frames_append] at hmiss
  rw [List.flatMap_append, List.flatMap_append, frames_append] at hmiss'
  rw [List.flatMap_append, List.flatMap_append, List.flatMap_append, boxHits_append,
    boxHits_append] at hhits
  -- both have pressed equally often in the first part, so that the second begins alike
  obtain ⟨hhead, htail⟩ := List.append_inj hhits (length_boxHits_replay s t first)
  constructor
  · exact ⟨fun step hstep => hplain step (List.mem_append_left _ hstep),
      fun screen hscreen => hclickable screen (hscreen.imp_right (List.mem_append_left _)), hmodest,
      fun offset hoffset => hnear offset (List.mem_append_left _ hoffset),
      fun f hf => hmiss f (List.mem_append_left _ hf),
      fun f hf => hmiss' f (List.mem_append_left _ hf), hhead⟩
  · refine ⟨fun step hstep => hplain step (List.mem_append_right _ hstep), ?_, ?_,
      fun offset hoffset => hnear offset (List.mem_append_right _ hoffset),
      fun f hf => hmiss f (List.mem_append_right _ hf),
      fun f hf => hmiss' f (List.mem_append_right _ hf), htail⟩
    · intro screen hscreen
      rw [htexts.label]
      exact screens_after_steps first hclickable hscreen
    · rw [htexts.document]
      exact hmodest

/-- **A step and its replay** log the same, and leave the sessions alike. -/
theorem Tandem.step {s t : Session} (h : s.Tandem t) {step : Step} (hr : s.Replayable t [step])
    (hearly : s.clock.IsEarly) (hlate : s.clock.now + 8 ≤ 2 ^ 47) (hearly' : t.clock.IsEarly)
    (hlate' : t.clock.now + 8 ≤ 2 ^ 47) :
    t.log (step.replay.flatMap Step.moments) = s.log step.moments ∧
      (s.after step.moments).Tandem (t.after (step.replay.flatMap Step.moments)) := by
  have hplain := hr.plain step List.mem_cons_self
  have hclickable := hr.clickable s.screen (.inl rfl)
  have hmiss := hr.misses
  have hmiss' := hr.misses'
  have hhits := hr.boxHits
  rw [List.flatMap_singleton] at hmiss
  rw [List.flatMap_singleton] at hmiss'
  rw [List.flatMap_singleton, List.flatMap_singleton] at hhits
  cases step with
  | act action =>
    exact h.act fun offset heq => hr.near offset (by rw [heq]; exact List.mem_cons_self)
  | resize screen =>
    exact ⟨rfl, ⟨h.window, rfl, h.drawn, h.offset⟩, ⟨h.rest.area, h.rest.grip⟩,
      ⟨h.rest'.area, h.rest'.grip⟩, h.click, h.click', h.near⟩
  | gesture g =>
    cases g with
    | wait =>
      obtain ⟨⟨hlog, hlog'⟩, hnext⟩ := h.wait
      exact ⟨hlog'.trans hlog.symm, hnext⟩
    | press target => contradiction
    | release target => contradiction
    | key key => contradiction
    | click button target =>
      by_cases hbox : button = .primary ∧ target = .checkbox
      · obtain ⟨rfl, rfl⟩ := hbox
        exact h.click_checkbox (hclickable _) hr.modest hearly hlate
      · -- every other click is its own replay
        have hreplay : (Step.gesture (.click button target)).replay =
            [.gesture (.click button target)] := by
          cases button <;> cases target <;> first | rfl | exact absurd ⟨rfl, rfl⟩ hbox
        rw [hreplay, List.flatMap_singleton] at hmiss' hhits ⊢
        exact h.click_other (hclickable _).toIsExact hmiss hmiss'
          (turns_click_other h.click h.click' hearly hlate hearly' hlate' hbox hhits)

/-- A step and its replay take sixteen seconds at most. -/
theorem Timely.replay {t : Session} (h : t.Timely) (step : Step)
    (hlate : t.clock.now + 18 ≤ 2 ^ 47) :
    (t.after (step.replay.flatMap Step.moments)).Timely ∧
      (t.after (step.replay.flatMap Step.moments)).clock.now ≤ t.clock.now + 16 := by
  have hsteps : step.replay.length ≤ 2 := by
    cases step with
    | act action => exact Nat.le_succ 1
    | resize screen => exact Nat.le_succ 1
    | gesture g =>
      cases g with
      | click button target => cases button <;> cases target <;> simp [Step.replay, plainly]
      | wait | press _ | release _ | key _ => exact Nat.le_succ 1
  have hframes : ((t.frames (step.replay.flatMap Step.moments)).length : ℚ) ≤ 8 := by
    have := t.length_frames_le step.replay
    exact_mod_cast (by omega : (t.frames (step.replay.flatMap Step.moments)).length ≤ 8)
  obtain ⟨htimely, hnow⟩ := h.after (step.replay.flatMap Step.moments) (by linarith)
  exact ⟨htimely, by linarith⟩

/-- **A run and its replay** log the same, and leave the sessions alike. -/
theorem Tandem.run {s t : Session} (h : s.Tandem t) {steps : List Step}
    (hr : s.Replayable t steps) (htimely : s.Timely) (htimely' : t.Timely)
    (hlate : s.clock.now + 16 * steps.length + 16 ≤ 2 ^ 47)
    (hlate' : t.clock.now + 16 * steps.length + 16 ≤ 2 ^ 47) :
    t.log ((steps.flatMap Step.replay).flatMap Step.moments) = s.log (steps.flatMap Step.moments) ∧
      (s.after (steps.flatMap Step.moments)).Tandem
        (t.after ((steps.flatMap Step.replay).flatMap Step.moments)) := by
  -- along the steps; what is left of the time and of the conditions goes on to the later ones
  induction steps generalizing s t with
  | nil => exact ⟨rfl, h⟩
  | cons step steps ih =>
    rw [List.length_cons] at hlate hlate'
    push_cast at hlate hlate'
    have hcount : (0 : ℚ) ≤ steps.length := Nat.cast_nonneg _
    have happend : s.Replayable t ([step] ++ steps) := hr
    obtain ⟨hhead, htail⟩ := happend.append
    obtain ⟨hlog, hnext⟩ := h.step hhead htimely.early (by linarith) htimely'.early (by linarith)
    obtain ⟨hsoon, hnow⟩ := htimely.step step (by linarith)
    obtain ⟨hsoon', hnow'⟩ := htimely'.replay step (by linarith)
    rw [List.flatMap_singleton, List.flatMap_singleton] at htail
    obtain ⟨hlater, hlast⟩ := ih hnext htail hsoon hsoon' (by linarith) (by linarith)
    rw [List.flatMap_cons, List.flatMap_cons, List.flatMap_append, log_append, log_append,
      after_append, after_append, hlog, hlater]
    exact ⟨rfl, hlast⟩

/-! ## After any run -/

/-- A run of a new window and its replay. -/
theorem run_replay (settings : Settings) (document : Document) (screen : Screen)
    {steps : List Step} (hsteps : steps.length ≤ 2 ^ 40) :
    let start := (build settings document screen).1
    start.Replayable start steps →
    ∃ s t log, start.run steps = .ok (s, log) ∧
      start.run (steps.flatMap Step.replay) = .ok (t, log) ∧ t.window = s.window := by
  intro start hr
  have hstart : start.Tandem start := by
    have horigin : Offset.origin.IsNear := by decide
    exact ⟨.refl start, atRest_build .., atRest_build .., rfl, rfl, horigin, horigin⟩
  have hcount : (steps.length : ℚ) ≤ 2 ^ 40 := by exact_mod_cast hsteps
  have hnow : start.clock.now = 0 := rfl
  -- no step takes more than sixteen seconds
  have hlate : start.clock.now + 16 * steps.length + 16 ≤ 2 ^ 47 := by
    rw [hnow]
    linarith
  have htimely := timely_build settings document screen
  obtain ⟨hlog, htandem⟩ := hstart.run hr htimely htimely hlate hlate
  refine ⟨_, _, start.log (steps.flatMap Step.moments), start.advanceAll_eq_log _, ?_,
    htandem.window⟩
  rw [← hlog]
  exact start.advanceAll_eq_log _

/-- **A click on the checkbox, and a click on the window after a frame.** A checkbox of up to four
rows can be clicked on every screen of `101` points or more. After any run of a new window,
whatever is held or has the focus, a click on a checkbox that can be clicked turns the
window over, once. If the document is hidden, or at rest and near, it does to the
window just what a frame and a click on the window do.

So a run in which no button is pressed but in clicks, and no key, goes as it does if the window is
clicked wherever it clicks the checkbox: the windows are the same after every step, and so are the
logs. Only the clicks at points must not depend on where the pointer has been. Neither in the run
nor in its replay may one of them reach for the text; and each has to hit the checkbox in both, or
in neither. -/
theorem click_agrees (settings : Settings) (document : Document) (screen : Screen)
    (steps : List Step) (hsteps : steps.length ≤ 2 ^ 40) :
    let start := (build settings document screen).1
    (∀ (size : Screen) (paneDrawn : Bool), 101 ≤ size.height → size.height ≤ 2 ^ 22 →
      size.width ≤ 2 ^ 24 → (Layout.rows size paneDrawn settings.label).length ≤ 4 →
      (Layout.checkbox size paneDrawn settings.label).left +
        (Layout.checkbox size paneDrawn settings.label).right ≤ 2 * size.width →
      IsClickable size paneDrawn settings.label) ∧
    (∃ s log, start.run steps = .ok (s, log) ∧
      (IsClickable s.screen s.window.pane.visible settings.label → ∃ t, s.ClicksBox t)) ∧
    (start.Replayable start steps →
      ∀ n, ∃ s t log, start.run (steps.take n) = .ok (s, log) ∧
        start.run ((steps.take n).flatMap Step.replay) = .ok (t, log) ∧ t.window = s.window) := by
  intro start
  refine ⟨?_, ?_, ?_⟩
  · intro size paneDrawn hlow hhigh hwidth hrows hmiddle
    exact Layout.isClickable_of_rows hlow hhigh hwidth hrows hmiddle
  · obtain ⟨htimely, hnow⟩ := timely_after settings document screen hsteps
    have htexts := start.sameTexts_after (steps.flatMap Step.moments)
    have hconsistent : (start.after (steps.flatMap Step.moments)).window.isConsistent = true :=
      isConsistent_after rfl _
    refine ⟨start.after (steps.flatMap Step.moments), _, start.advanceAll_eq_log _, ?_⟩
    intro hclickable
    have hlabel : (start.after (steps.flatMap Step.moments)).window.checkbox.label =
        settings.label := htexts.label
    rw [← hlabel] at hclickable
    exact ⟨_, step_click htimely (by linarith) hconsistent hclickable⟩
  · intro hr n
    -- what holds of the steps of a run holds of the first `n`
    rw [← List.take_append_drop n steps] at hr
    exact run_replay settings document screen ((List.length_take_le' n steps).trans hsteps)
      hr.append.1

/-- A document of ten lines is shown by a click, a line of it is clicked, and it is hidden by a
click at a point of the checkbox. On another screen it is shown again, scrolled as it was before. -/
theorem click_agrees_scrolled :
    let start := (build .standard ⟨"a\nb\nc\nd\ne\nf\ng\nh\ni\nj"⟩ ⟨320, 110⟩).1
    let click (target : Target) : Step := .gesture (.click .primary target)
    let steps : List Step := [.act (.scroll ⟨.zero, .ofNat 40⟩), click .checkbox,
      click (.point ⟨10, 40⟩), click (.point ⟨20, 92⟩), .resize ⟨300, 110⟩, .act .click]
    (∃ s log, start.run steps = .ok (s, log) ∧
      ∃ t u, s.step (click .checkbox) = .ok (t, [.visibilityUpdated false]) ∧
        s.run [.gesture .wait, .act .click] = .ok (u, [.visibilityUpdated false]) ∧
        u.window = t.window) ∧
    ∃ s t log, start.run steps = .ok (s, log) ∧
      start.run (steps.flatMap Step.replay) = .ok (t, log) ∧ t.window = s.window ∧
      s.window.pane.scroll.y = .ofNat 40 := by
  intro start click steps
  obtain ⟨-, ⟨s, log, hrun, hclick⟩, hreplay⟩ :=
    click_agrees .standard ⟨"a\nb\nc\nd\ne\nf\ng\nh\ni\nj"⟩ ⟨320, 110⟩ steps (by decide)
  have hafter : ∀ {r : Session × List Event}, start.run steps = .ok r →
      r.1 = start.after (steps.flatMap Step.moments) := by
    intro r hr
    have := (start.advanceAll_eq_log (steps.flatMap Step.moments)).symm.trans hr
    rw [← Except.ok.inj this]
  have hreplayable : start.Replayable start steps := by
    -- what the two runs do is found out at once
    have hpoints : (∀ f ∈ start.frames (steps.flatMap Step.moments), f.1.misses f.2 = true) ∧
        (∀ f ∈ start.frames ((steps.flatMap Step.replay).flatMap Step.moments),
          f.1.misses f.2 = true) ∧
        start.boxHits (steps.flatMap Step.moments) =
          start.boxHits ((steps.flatMap Step.replay).flatMap Step.moments) := by
      decide +kernel
    refine ⟨by decide, ?_, by decide +kernel, ?_, hpoints.1, hpoints.2.1, hpoints.2.2⟩
    · intro size hsize paneDrawn
      have hscreens : size = ⟨320, 110⟩ ∨ size = ⟨300, 110⟩ := by
        rcases hsize with rfl | hmem
        · exact .inl rfl
        · right
          simpa [steps, click] using hmem
      rcases hscreens with rfl | rfl <;> cases paneDrawn <;> decide +kernel
    · intro offset hmem
      obtain rfl : offset = ⟨.zero, .ofNat 40⟩ := by simpa [steps, click] using hmem
      decide +kernel
  obtain ⟨hstate, hclickable, hrest, hnear, hscroll⟩ :
      let s := start.after (steps.flatMap Step.moments)
      s.window.checkbox.isChecked = true ∧
        IsClickable s.screen s.window.pane.visible Settings.standard.label ∧ s.AtRest ∧
        s.placedArea.offset.IsNear ∧ s.window.pane.scroll.y = .ofNat 40 := by
    decide +kernel
  constructor
  · obtain rfl : s = start.after (steps.flatMap Step.moments) := hafter hrun
    obtain ⟨t, hbox⟩ := hclick hclickable
    have hmodest : IsModest (start.after (steps.flatMap Step.moments)).window.pane.document := by
      rw [(start.sameTexts_after _).document]
      decide +kernel
    obtain ⟨u, hu, hwindow⟩ := hbox.plain fun _ => ⟨hrest, hmodest, hnear⟩
    have ht := hbox.step
    rw [hstate] at ht hu
    exact ⟨_, log, hrun, t, u, ht, hu, hwindow⟩
  · obtain ⟨s', t, log', hs, ht, hwindow⟩ := hreplay hreplayable 6
    obtain rfl : s' = start.after (steps.flatMap Step.moments) := hafter hs
    exact ⟨_, t, log', hs, ht, hwindow, hscroll⟩

/-- Not every click on the checkbox does what a frame and a click on the window do. The text
goes on moving while it is dragged; the middle of a tall label may be off the screen;
a document far away is not drawn by its lines. And a click on the background drags the text by
the way from where the pointer has been before, which may be the checkbox. -/
theorem click_disagrees :
    let run (settings : Settings) (height : Nat) (text : String) (steps : List Step) :=
      ((build settings ⟨text⟩ ⟨320, height⟩).1.run steps).toOption.map fun r =>
        (r.1.window.checkbox.isChecked, r.1.window.pane.scroll.y)
    let ten := "a\nb\nc\nd\ne\nf\ng\nh\ni\nj"
    let tall : Settings := { label := "".pushn '\n' 12 }
    let box : Step := .gesture (.click .primary .checkbox)
    let background : Target := .point ⟨200, 40⟩
    let dragged : List Step := [.act (.scroll ⟨.zero, .ofNat 40⟩), .act .click, .gesture .wait,
      .gesture (.press background)]
    let far : List Step := [.act (.scroll ⟨.zero, .ofNat (2 ^ 29)⟩), .act .click]
    let again : List Step := [.act .click, .gesture (.click .primary background)]
    (run .standard 110 ten (dragged ++ [box]) = some (false, .zero) ∧
      run .standard 110 ten (dragged ++ plainly) = some (false, .ofNat 40)) ∧
    (run tall 160 "abc" [box, .gesture .wait, box] = some (true, .zero) ∧
      run tall 160 "abc" ([box, .gesture .wait] ++ plainly) = some (false, .zero)) ∧
    (run .standard 110 ten (far ++ [box]) = some (false, .ofNat 77) ∧
      run .standard 110 ten (far ++ plainly) = some (false, .ofNat 87)) ∧
    (run .standard 110 ten ([.act .click, box] ++ again) = some (true, .ofNat 53) ∧
      run .standard 110 ten ([.act .click] ++ plainly ++ again) = some (true, .zero)) := by
  decide +kernel

end Session

end Reveal
