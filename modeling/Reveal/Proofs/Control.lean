import Reveal.Proofs.Apart

/-!
# Reveal — what the document has to do with the checkbox

Two windows with the same settings, on the same screen, are taken through the same steps, but they
have different documents, and each is scrolled from outside when and how far one likes. As long as
the inputs ignore the pane in both, nothing of that can be told from the checkbox: both are
ticked or neither, they are in the same place, have the focus or not, and log the same.

## Results

* `Coupled.step`, `Coupled.run`  — a step, and a run.
* `control_alike`                — all of this for two new windows.
-/

namespace Reveal

open Widget (Name Hit)

namespace Session

section

variable {s t : Session}

/-- **Frames whose inputs ignore the pane**, and in which a button goes down only while nothing is
held for a click. -/
theorem Coupled.frames (h : s.Coupled t) {inputs : List Input}
    (hs : ∀ f ∈ s.frames (inputs.map .frame), f.1.ignoresPane f.2 = true ∧
      ((f.1.hand f.2).stroke.pressed = true → f.1.grip.click = none))
    (ht : ∀ f ∈ t.frames (inputs.map .frame), f.1.ignoresPane f.2 = true ∧
      ((f.1.hand f.2).stroke.pressed = true → f.1.grip.click = none)) :
    t.log (inputs.map .frame) = s.log (inputs.map .frame) ∧
      (s.after (inputs.map .frame)).Coupled (t.after (inputs.map .frame)) := by
  induction inputs generalizing s t with
  | nil => exact ⟨rfl, h⟩
  | cons input inputs ih =>
    obtain ⟨hignores, hfresh⟩ := hs (s, input) List.mem_cons_self
    obtain ⟨hignores', hfresh'⟩ := ht (t, input) List.mem_cons_self
    obtain ⟨hupdates, hnext⟩ := h.frame hignores hignores' fun hpressed =>
      ⟨hfresh hpressed, hfresh' (by rw [(h.hand input).2]; exact hpressed)⟩
    obtain ⟨hlog, hlast⟩ := ih hnext (fun f hf => hs f (List.mem_cons_of_mem _ hf))
      fun f hf => ht f (List.mem_cons_of_mem _ hf)
    rw [List.map_cons, log_cons, log_cons, hupdates, hlog]
    exact ⟨rfl, hlast⟩

/-- A button only goes down by a press. -/
theorem exists_of_pressed {input : Input} (h : (s.hand input).stroke.pressed = true) :
    ∃ button target, input = .press button target := by
  have hnot : ∀ {other : Input}, (s.hand other).stroke.pressed = false →
      (s.hand other).stroke.pressed = true → False := fun hfalse htrue => by
    rw [hfalse] at htrue
    contradiction
  cases input with
  | press button target => exact ⟨button, target, rfl⟩
  | idle | rest | release _ _ | keyDown _ | keyUp _ => exact (hnot rfl h).elim

/-- A button goes down in a gesture only after a rest, in which whatever was held for a click is
let go of. -/
theorem click_of_pressed (htimely : s.Timely) (hlate : s.clock.now + 2 ≤ 2 ^ 47) {g : Gesture}
    {f : Session × Input} (hf : f ∈ s.frames (g.inputs.map .frame))
    (hpressed : (f.1.hand f.2).stroke.pressed = true) : f.1.grip.click = none := by
  have hsettled : ((s.next (.frame .rest)).next (.frame .idle)).grip.click = none :=
    click_eq_none (htimely.click_rest hlate) (by simp)
  obtain ⟨button, target, hpress⟩ := exists_of_pressed hpressed
  clear hpressed
  -- every other frame of a gesture is no press
  cases g with
  | wait =>
    obtain rfl := List.mem_singleton.mp hf
    contradiction
  | click =>
    rcases List.mem_cons.mp hf with rfl | hf
    · contradiction
    rcases List.mem_cons.mp hf with rfl | hf
    · contradiction
    rcases List.mem_cons.mp hf with rfl | hf
    · exact hsettled
    · obtain rfl := List.mem_singleton.mp hf
      contradiction
  | press =>
    rcases List.mem_cons.mp hf with rfl | hf
    · contradiction
    rcases List.mem_cons.mp hf with rfl | hf
    · contradiction
    · obtain rfl := List.mem_singleton.mp hf
      exact hsettled
  | release =>
    obtain rfl := List.mem_singleton.mp hf
    contradiction
  | key =>
    rcases List.mem_cons.mp hf with rfl | hf
    · contradiction
    · obtain rfl := List.mem_singleton.mp hf
      contradiction

/-- Whether the step only scrolls the document from outside. -/
def Step.isScroll : Step → Bool
  | .act (.scroll _) => true
  | .act .click | .act (.report _) | .resize _ | .gesture _ => false

theorem Coupled.act (h : s.Coupled t) {action : Window.Action}
    (hcommon : (Step.act action).isScroll = false) :
    t.updates (.act action) = s.updates (.act action) ∧
      (s.next (.act action)).Coupled (t.next (.act action)) := by
  -- what an action does depends on the checkbox alone
  have hover : t.turnsOver (.act action) = s.turnsOver (.act action) := by
    cases action <;> simp [Session.turnsOver, h.checkbox]
  have hwindow : (t.window.next action).checkbox = (s.window.next action).checkbox ∧
      (t.window.next action).pane.visible = (s.window.next action).pane.visible := by
    cases action with
    | click => simp [Window.next, Window.become, h.checkbox]
    | report checked =>
      simp only [Window.next, h.checkbox]
      split
      · exact ⟨h.checkbox, h.visible⟩
      · simp [Window.become, h.checkbox]
    | scroll offset => contradiction
  exact ⟨by rw [updates, updates, hover, h.checkbox],
    { h with checkbox := hwindow.1, visible := hwindow.2 }⟩

/-- **A step that both take** logs the same, and leaves the sessions coupled. -/
theorem Coupled.step (h : s.Coupled t) {step : Step} (hcommon : step.isScroll = false)
    (hs : (s.Timely ∧ s.clock.now + 8 ≤ 2 ^ 47) ∧
      ∀ f ∈ s.frames step.moments, f.1.ignoresPane f.2 = true)
    (ht : (t.Timely ∧ t.clock.now + 8 ≤ 2 ^ 47) ∧
      ∀ f ∈ t.frames step.moments, f.1.ignoresPane f.2 = true) :
    t.log step.moments = s.log step.moments ∧
      (s.after step.moments).Coupled (t.after step.moments) := by
  obtain ⟨⟨htimely, hlate⟩, hignores⟩ := hs
  obtain ⟨⟨htimely', hlate'⟩, hignores'⟩ := ht
  cases step with
  | act action =>
    obtain ⟨hupdates, hnext⟩ := h.act hcommon
    refine ⟨?_, hnext⟩
    show t.log [.act action] = s.log [.act action]
    rw [log_cons, log_cons, hupdates]
    rfl
  | resize screen => exact ⟨rfl, { h with screen := rfl }⟩
  | gesture g =>
    exact h.frames (fun f hf => ⟨hignores f hf, click_of_pressed htimely (by linarith) hf⟩)
      fun f hf => ⟨hignores' f hf, click_of_pressed htimely' (by linarith) hf⟩

/-- How far the document is scrolled from outside makes no difference, in either session. -/
theorem Coupled.scroll (h : s.Coupled t) (offset : Offset) :
    (s.next (.act (.scroll offset))).Coupled t ∧ s.Coupled (t.next (.act (.scroll offset))) :=
  ⟨{ h with }, { h with }⟩

theorem Step.exists_of_isScroll {step : Step} (h : step.isScroll = true) :
    ∃ offset, step = .act (.scroll offset) := by
  cases step with
  | act action =>
    cases action with
    | scroll offset => exact ⟨offset, rfl⟩
    | click | report _ => contradiction
  | resize _ | gesture _ => contradiction

/-- Steps that only record offsets log nothing, and keep two sessions coupled. -/
theorem Coupled.scrolls (h : s.Coupled t) {steps : List Step}
    (hscroll : ∀ step ∈ steps, step.isScroll = true) :
    t.log (steps.flatMap Step.moments) = [] ∧
      s.Coupled (t.after (steps.flatMap Step.moments)) := by
  induction steps generalizing t with
  | nil => exact ⟨rfl, h⟩
  | cons step steps ih =>
    obtain ⟨offset, rfl⟩ := Step.exists_of_isScroll (hscroll step List.mem_cons_self)
    exact ih (h.scroll offset).2 fun later hlater => hscroll later (List.mem_cons_of_mem _ hlater)

/-- **Two runs with the same steps**, but for those that scroll from outside, log the same and leave
the sessions coupled. -/
theorem Coupled.run (h : s.Coupled t) {steps steps' : List Step}
    (hcommon : steps.filter (!·.isScroll) = steps'.filter (!·.isScroll))
    (hs : ∀ r ∈ s.course steps, (r.1.Timely ∧ r.1.clock.now + 8 ≤ 2 ^ 47) ∧
      ∀ f ∈ r.1.frames r.2.moments, f.1.ignoresPane f.2 = true)
    (ht : ∀ r ∈ t.course steps', (r.1.Timely ∧ r.1.clock.now + 8 ≤ 2 ^ 47) ∧
      ∀ f ∈ r.1.frames r.2.moments, f.1.ignoresPane f.2 = true) :
    t.log (steps'.flatMap Step.moments) = s.log (steps.flatMap Step.moments) ∧
      (s.after (steps.flatMap Step.moments)).Coupled (t.after (steps'.flatMap Step.moments)) := by
  induction steps generalizing s t steps' with
  | nil =>
    -- the other run only scrolls
    refine h.scrolls fun step hstep => ?_
    simpa using List.filter_eq_nil_iff.mp hcommon.symm step hstep
  | cons step steps ih =>
    cases hscroll : step.isScroll with
    | true =>
      obtain ⟨offset, rfl⟩ := Step.exists_of_isScroll hscroll
      exact ih (h.scroll offset).1 hcommon (fun r hr => hs r (List.mem_cons_of_mem _ hr)) ht
    | false =>
      -- the other run scrolls until it comes to the same step
      have hhead : (step :: steps).filter (!·.isScroll) = step :: steps.filter (!·.isScroll) := by
        rw [List.filter_cons, hscroll]
        rfl
      rw [hhead] at hcommon
      obtain ⟨scrolls, later, rfl, hscrolls, -, hlater⟩ := List.filter_eq_cons_iff.mp hcommon.symm
      have honly : ∀ other ∈ scrolls, other.isScroll = true := fun other hother => by
        simpa using hscrolls other hother
      obtain ⟨hsilent, hcoupled⟩ := h.scrolls honly
      rw [course_append] at ht
      set u := t.after (scrolls.flatMap Step.moments)
      obtain ⟨hlog, hnext⟩ := hcoupled.step hscroll (hs (s, step) List.mem_cons_self)
        (ht (u, step) (List.mem_append_right _ List.mem_cons_self))
      obtain ⟨hlog', hlast⟩ := ih hnext hlater.symm
        (fun r hr => hs r (List.mem_cons_of_mem _ hr))
        fun r hr => ht r (List.mem_append_right _ (List.mem_cons_of_mem _ hr))
      rw [List.flatMap_append, List.flatMap_cons, List.flatMap_cons, log_append, log_append,
        log_append, after_append, after_append, after_append, hsilent, hlog, hlog']
      exact ⟨rfl, hlast⟩

end

/-! ## Two windows -/

/-- New windows with the same settings, on the same screen, are coupled. -/
theorem coupled_build (settings : Settings) (document document' : Document) (screen : Screen) :
    (build settings document screen).1.Coupled (build settings document' screen).1 := by
  have hempty : ({} : Grip).IsOf (fun _ => True) (·.takesDrags = true) :=
    ⟨by simp, by simp, by simp⟩
  exact ⟨rfl, rfl, rfl, rfl, rfl, rfl, rfl, rfl, .refl none, rfl, by simp [build], hempty, hempty⟩

/-- **The document and how far it is scrolled have nothing to do with the checkbox.** Two windows
are built with the same settings and shown on the same screen. In two runs with the same steps, but
for those that scroll from outside, where every step leaves the pane out, the checkboxes are always
ticked alike, and so are the panes shown. They agree on the rectangle of the checkbox, on what the
last frame drew and on what has the focus, and they log the same. -/
theorem control_alike (settings : Settings) (document document' : Document) (screen : Screen)
    {steps steps' : List Step} (hlength : steps.length ≤ 2 ^ 40) (hlength' : steps'.length ≤ 2 ^ 40)
    (hcommon : steps.filter (!·.isScroll) = steps'.filter (!·.isScroll))
    (hout : ∀ r ∈ (build settings document screen).1.course steps, r.1.LeavesOutPane r.2)
    (hout' : ∀ r ∈ (build settings document' screen).1.course steps', r.1.LeavesOutPane r.2) :
    ∃ s t log, (build settings document screen).1.run steps = .ok (s, log) ∧
      (build settings document' screen).1.run steps' = .ok (t, log) ∧
      t.window.checkbox.isChecked = s.window.checkbox.isChecked ∧
      t.window.pane.visible = s.window.pane.visible ∧
      t.window.isConsistent = s.window.isConsistent ∧
      t.box = s.box ∧ t.paneDrawn = s.paneDrawn ∧ t.focus = s.focus := by
  obtain ⟨hlog, hlast⟩ := (coupled_build settings document document' screen).run hcommon
    (ignoresPane_course settings document screen hlength hout)
    (ignoresPane_course settings document' screen hlength' hout')
  refine ⟨_, _, _, advanceAll_eq_log _ _, ?_, ?_, hlast.visible, ?_, hlast.box, hlast.paneDrawn,
    hlast.focus⟩
  · rw [← hlog]
    exact advanceAll_eq_log _ _
  · rw [hlast.checkbox]
  · rw [Window.isConsistent, Window.isConsistent, hlast.visible, hlast.checkbox]

/-- A document of one line and one of five, which is scrolled, are shown and hidden by a click, and
shown again by Tab and Space. -/
theorem control_alike_scrolled :
    let click : Step := .gesture (.click .primary .checkbox)
    let keys : List Step := [.gesture (.key .tab), .gesture (.key .space)]
    let steps : List Step := [click, click] ++ keys
    let steps' : List Step := [click, .act (.scroll ⟨0, 40⟩), click] ++ keys
    ∃ s t log, (build .standard ⟨"abc"⟩ ⟨320, 110⟩).1.run steps = .ok (s, log) ∧
      (build .standard ⟨"a\nb\nc\nd\ne"⟩ ⟨320, 110⟩).1.run steps' = .ok (t, log) ∧
      log = [.visibilityUpdated true, .visibilityUpdated false, .visibilityUpdated true] ∧
      t.window.pane.visible = s.window.pane.visible ∧ t.box = s.box ∧ t.focus = s.focus := by
  intro click keys steps steps'
  have hlength : steps.length ≤ 2 ^ 40 := by decide
  have hlength' : steps'.length ≤ 2 ^ 40 := by decide
  have hignores : ∀ r ∈ (build .standard ⟨"abc"⟩ ⟨320, 110⟩).1.course steps,
      ∀ f ∈ r.1.frames r.2.moments, f.1.ignoresPane f.2 = true := by
    decide +kernel
  have hignores' : ∀ r ∈
      (build .standard ⟨"a\nb\nc\nd\ne"⟩ ⟨320, 110⟩).1.course steps',
      ∀ f ∈ r.1.frames r.2.moments, f.1.ignoresPane f.2 = true := by
    decide +kernel
  obtain ⟨s, t, log, hrun, hrun', -, hvisible, -, hbox, -, hfocus⟩ :=
    control_alike _ _ _ _ hlength hlength' (by decide) (fun r hr => .inr (hignores r hr))
      fun r hr => .inr (hignores' r hr)
  refine ⟨s, t, log, hrun, hrun', ?_, hvisible, hbox, hfocus⟩
  have hlog : ((build .standard ⟨"abc"⟩ ⟨320, 110⟩).1.run steps).toOption.map Prod.snd =
      some [.visibilityUpdated true, .visibilityUpdated false, .visibilityUpdated true] := by
    decide +kernel
  rw [hrun] at hlog
  exact Option.some.inj hlog

/-- The document can come between. Five lines need a scroll bar here: it takes the focus that Tab
passes on, so that Space does not turn the checkbox over as it does where the document is empty, and
the pane, which can be dragged then, is hit where both are within reach. A line of the text that is
held for a click is clicked by a release on the checkbox, which takes the focus from it.

How far one and the same document is scrolled can come between as well. Right above the checkbox a
click hits the line of the text that is seen there; but at the end of the document there is none,
and it hits the checkbox. -/
theorem control_not_alike :
    let run (height : Nat) (text : String) (steps : List Step) :=
      ((build .standard ⟨text⟩ ⟨320, height⟩).1.run steps).toOption.map fun r =>
        r.1.window.checkbox.isChecked
    let reveal : List Step := [.act .click, .gesture .wait]
    let keys := reveal ++ [.gesture (.key .tab), .gesture (.key .space)]
    let between := reveal ++ [.gesture (.click .primary (.point ⟨20, 80⟩))]
    let held := reveal ++ [.gesture (.key .tab), .gesture (.press (.point ⟨75, 84⟩)),
      .resize ⟨320, 100⟩, .gesture .wait, .gesture (.release .checkbox), .gesture (.key .space)]
    let scrolled (y : Nat) := [.act (.scroll ⟨.zero, .ofNat y⟩)] ++ reveal ++
      [.gesture (.click .primary (.point ⟨10, 83⟩))]
    (run 110 "" keys = some false ∧ run 110 "\n\n\n\n" keys = some true) ∧
      (run 110 "" between = some false ∧ run 110 "\n\n\n\n" between = some true) ∧
      (run 160 "" held = some false ∧ run 160 "\n\n\n\nabcdefghijklmnopqrst" held = some true) ∧
      (run 110 "a\nb\nc\nd\ne\nf\ng\nh\ni\nj" (scrolled 77) = some false ∧
        run 110 "a\nb\nc\nd\ne\nf\ng\nh\ni\nj" (scrolled 0) = some true) := by
  decide +kernel

end Session

end Reveal
