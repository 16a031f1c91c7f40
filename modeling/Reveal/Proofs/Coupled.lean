import Reveal.Proofs.Near
import Reveal.Proofs.Quiet

/-!
# Reveal — two sessions with different documents

Take two sessions that differ in the document and in how far it is scrolled. What they draw in
the pane is different, and so is what the pointer hits and takes hold of there. But the checkbox
is drawn in the same place, and has the focus in both or in neither (`Coupled`).

A frame leaves them so if its input ignores the pane (`ignoresPane`). Where both the checkbox and
something in the pane are within reach, or where something in the pane is held for the click that
ends, it depends on the pane what the pointer means; and a scroll bar takes the focus that Tab
passes on. Apart from these, the input means the same to both checkboxes.

## Results

* `Coupled.hits`          — what a press hits.
* `Coupled.clicksBeside`  — what the end of a click takes the focus from.
* `Coupled.frame`         — a frame.
-/

namespace Reveal

open Widget (Name Hit)

/-! ## Turns -/

namespace Focus.Turn

/-- The end of a turn only depends on whether the holder is drawn and leaves it. -/
theorem finish_congr {turn : Turn} {drawn drawn' : List Name}
    {leaves leaves' : Name → Bool}
    (h : ∀ name ∈ turn.holder, (name ∈ drawn ↔ name ∈ drawn') ∧ leaves name = leaves' name) :
    turn.finish drawn leaves = turn.finish drawn' leaves' := by
  unfold finish
  cases hholder : turn.holder with
  | none => rfl
  | some name =>
    obtain ⟨hdrawn, hleaves⟩ := h name hholder
    cases hstays : leaves' name with
    | false => simp [Option.filter, hleaves, hstays, hdrawn]
    | true => simp [Option.filter, hleaves, hstays]

/-- A turn is taken by whom it is offered to, or stays where it is. -/
theorem holder_offer (turn : Turn) (name : Name) :
    ∀ other ∈ (turn.offer name).holder, other = name ∨ turn.holder = some other := by
  intro other hother
  unfold offer at hother
  split at hother
  · exact .inr hother
  · split at hother
    · exact .inl (Option.some.inj hother).symm
    · split at hother
      · split at hother
        · contradiction
        · exact .inr hother
      · split at hother
        · exact .inl (Option.some.inj hother).symm
        · exact .inr hother

end Focus.Turn

namespace Session

/-- At that place the pane does not come between the pointer and the checkbox: the checkbox is out
of reach there, or nothing else is within reach, or held for a click. -/
def ignoresPaneAt (s : Session) (p : Point) : Bool :=
  let near := s.drawn.filter (·.isNear p)
  near.all (!·.name.isCheckbox) ||
    (near.all (·.name.isCheckbox) && s.grip.click.all Name.isCheckbox)

/-- The input means to the checkbox what it does whatever is in the pane: a press is made, or a
click ended, only where the pane does not come between, and while the focus is passed on nothing in
the pane takes it. -/
def ignoresPane (s : Session) (input : Input) : Bool :=
  let hand := s.hand input
  (!(hand.stroke.pressed || hand.stroke.clicked) || hand.pointer.position.all s.ignoresPaneAt) &&
    (!(input.key? == some .tab || s.focus.passing) || (s.paneNames input).all (!·.takesFocus))

/-- Two sessions that differ only in the document, in how far it is scrolled, and in what follows
from that in the pane. -/
structure Coupled (s t : Session) : Prop where
  checkbox : t.window.checkbox = s.window.checkbox
  visible : t.window.pane.visible = s.window.pane.visible
  screen : t.screen = s.screen
  paneDrawn : t.paneDrawn = s.paneDrawn
  box : t.box = s.box
  drawn : t.drawn.filter (·.name.isCheckbox) = s.drawn.filter (·.name.isCheckbox)
  now : t.clock.now = s.clock.now
  pointer : t.pointer = s.pointer
  click : SameBox s.grip.click t.grip.click
  focus : t.focus = s.focus
  holder : ∀ name ∈ s.focus.holder, name.isCheckbox = true
  drags : s.grip.IsOf (fun _ => True) (·.takesDrags = true)
  drags' : t.grip.IsOf (fun _ => True) (·.takesDrags = true)

section

variable {s t : Session}

/-! ## The pointer of a frame -/

theorem Coupled.tick (h : s.Coupled t) (input : Input) :
    (t.tick input).now = (s.tick input).now := by
  rw [now_tick, now_tick]
  unfold Clock.tick
  rw [h.now]

theorem Coupled.place (h : s.Coupled t) (input : Input) : t.place input = s.place input := by
  have hlocate : ∀ target, t.locate target = s.locate target := by
    intro target
    cases target with
    | checkbox => rw [locate, locate, h.box]
    | point p => rfl
  cases input with
  | press button target => exact hlocate target
  | release button target => exact hlocate target
  | idle | rest | keyDown _ | keyUp _ => rfl

/-- The pointers are in the same place and do the same, whatever they meet there. -/
theorem Coupled.hand (h : s.Coupled t) (input : Input) :
    (t.hand input).pointer = (s.hand input).pointer ∧
      (t.hand input).stroke = (s.hand input).stroke := by
  have htake : t.pointer.take (t.tick input).now (t.place input) input =
      s.pointer.take (s.tick input).now (s.place input) input := by
    rw [h.pointer, h.tick, h.place]
  constructor
  · show (t.pointer.take _ _ input).1 = (s.pointer.take _ _ input).1
    rw [htake]
  · show (t.pointer.take _ _ input).2 = (s.pointer.take _ _ input).2
    rw [htake]

/-- Leaving out all but the checkboxes leaves out no checkbox. -/
theorem mem_names_filter (s : Session) (below : Bool) :
    Name.checkbox below ∈ s.drawn.map (·.name) ↔
      Name.checkbox below ∈ (s.drawn.filter (·.name.isCheckbox)).map (·.name) := by
  simp only [List.mem_map, List.mem_filter]
  constructor
  · rintro ⟨w, hw, hname⟩
    exact ⟨w, ⟨hw, by rw [hname]; rfl⟩, hname⟩
  · rintro ⟨w, ⟨hw, -⟩, hname⟩
    exact ⟨w, hw, hname⟩

/-- What was held for a click and is still there is the same checkbox in both, if it is one. -/
theorem Coupled.kept (h : s.Coupled t) :
    SameBox (s.grip.click.filter (· ∈ s.drawn.map (·.name)))
      (t.grip.click.filter (· ∈ t.drawn.map (·.name))) := by
  intro below
  rw [Option.filter_eq_some_iff, Option.filter_eq_some_iff, decide_eq_true_iff, decide_eq_true_iff,
    mem_names_filter s, mem_names_filter t, h.drawn, h.click below]

/-- Where the pane does not come between, either the checkbox is out of reach in both, or the same
is within reach. -/
theorem Coupled.near (h : s.Coupled t) {p : Point} (hs : s.ignoresPaneAt p = true)
    (ht : t.ignoresPaneAt p = true) :
    ((∀ w ∈ s.drawn, w.isNear p = true → w.name.isCheckbox = false) ∧
      ∀ w ∈ t.drawn, w.isNear p = true → w.name.isCheckbox = false) ∨
    (s.drawn.filter (·.isNear p) = t.drawn.filter (·.isNear p) ∧
      (∀ name ∈ s.grip.click, name.isCheckbox = true) ∧
      ∀ name ∈ t.grip.click, name.isCheckbox = true) := by
  have hboxes : (t.drawn.filter (·.isNear p)).filter (·.name.isCheckbox) =
      (s.drawn.filter (·.isNear p)).filter (·.name.isCheckbox) := by
    have hcomm : ∀ r : Session, (r.drawn.filter (·.isNear p)).filter (·.name.isCheckbox) =
        (r.drawn.filter (·.name.isCheckbox)).filter (·.isNear p) := by
      intro r
      rw [List.filter_filter, List.filter_filter]
      simp only [Bool.and_comm]
    rw [hcomm, hcomm, h.drawn]
  by_cases hnone : (s.drawn.filter (·.isNear p)).filter (·.name.isCheckbox) = []
  · left
    have hfar : ∀ r : Session, (r.drawn.filter (·.isNear p)).filter (·.name.isCheckbox) = [] →
        ∀ w ∈ r.drawn, w.isNear p = true → w.name.isCheckbox = false := by
      intro r hr w hw hnear
      have := List.filter_eq_nil_iff.mp hr w (List.mem_filter.mpr ⟨hw, hnear⟩)
      simpa using this
    exact ⟨hfar s hnone, hfar t (hboxes.trans hnone)⟩
  · right
    -- one checkbox within reach leaves only the second case of the definition
    have honly : ∀ r : Session, r.ignoresPaneAt p = true →
        (r.drawn.filter (·.isNear p)).filter (·.name.isCheckbox) ≠ [] →
        (r.drawn.filter (·.isNear p)).filter (·.name.isCheckbox) = r.drawn.filter (·.isNear p) ∧
          ∀ name ∈ r.grip.click, name.isCheckbox = true := by
      intro r hr hsome
      unfold ignoresPaneAt at hr
      dsimp only at hr
      rcases Bool.or_eq_true _ _ |>.mp hr with hfar | halone
      · refine absurd (List.filter_eq_nil_iff.mpr fun w hw => ?_) hsome
        have := List.all_eq_true.mp hfar w hw
        simpa using this
      · obtain ⟨hall, hheld⟩ := Bool.and_eq_true_iff.mp halone
        exact ⟨List.filter_eq_self.mpr (List.all_eq_true.mp hall),
          by simpa [Option.all_eq_true] using hheld⟩
    obtain ⟨hs₁, hs₂⟩ := honly s hs hnone
    obtain ⟨ht₁, ht₂⟩ := honly t ht (by rw [hboxes]; exact hnone)
    exact ⟨by rw [← hs₁, ← ht₁, hboxes], hs₂, ht₂⟩

/-- Far from all checkboxes none is hit. -/
theorem hits_of_far {input : Input} {p : Point}
    (hposition : (s.hand input).pointer.position = some p)
    (h : ∀ w ∈ s.drawn, w.isNear p = true → w.name.isCheckbox = false) :
    (s.hits input).All fun name => name.isCheckbox = false := by
  unfold hits
  rw [hposition, Option.elim_some]
  apply Widget.all_hit
  intro w hw hseen hnear
  refine h w hw ?_
  unfold Widget.isNear
  rw [hseen, decide_eq_true hnear]
  rfl

/-- **What a press or the end of a click hits**, where it ignores the pane: not the checkbox, or the
same in both. -/
theorem Coupled.hits (h : s.Coupled t) {input : Input}
    (hstroke : (s.hand input).stroke.pressed = true ∨ (s.hand input).stroke.clicked = true)
    (hs : s.ignoresPane input = true) (ht : t.ignoresPane input = true) :
    ((s.hits input).All (·.isCheckbox = false) ∧ (t.hits input).All (·.isCheckbox = false)) ∨
    (s.hits input = t.hits input ∧ (∀ name ∈ s.grip.click, name.isCheckbox = true) ∧
      ∀ name ∈ t.grip.click, name.isCheckbox = true) := by
  obtain ⟨hpointer, hsame⟩ := h.hand input
  have hstroke' : ((s.hand input).stroke.pressed || (s.hand input).stroke.clicked) = true :=
    Bool.or_eq_true_iff.mpr hstroke
  have hplaces : (s.hand input).pointer.position.all s.ignoresPaneAt = true := by
    have := (Bool.and_eq_true_iff.mp hs).1
    rwa [hstroke'] at this
  have hplacet : (s.hand input).pointer.position.all t.ignoresPaneAt = true := by
    have := (Bool.and_eq_true_iff.mp ht).1
    rwa [hsame, hpointer, hstroke'] at this
  cases hposition : (s.hand input).pointer.position with
  | none =>
    -- a pointer that is nowhere hits nothing
    left
    have hnothing : ∀ r : Session, (r.hand input).pointer.position = none →
        (r.hits input).All (·.isCheckbox = false) := by
      intro r hr
      unfold Session.hits
      rw [hr]
      exact ⟨Widget.all_none, Widget.all_none⟩
    exact ⟨hnothing s hposition, hnothing t (by rw [hpointer, hposition])⟩
  | some p =>
    rw [hposition] at hplaces hplacet
    have hposition' : (t.hand input).pointer.position = some p := by rw [hpointer, hposition]
    refine (h.near hplaces hplacet).imp ?_ ?_
    · rintro ⟨hfar, hfar'⟩
      exact ⟨hits_of_far hposition hfar, hits_of_far hposition' hfar'⟩
    · rintro ⟨hnear, hheld, hheld'⟩
      refine ⟨?_, hheld, hheld'⟩
      unfold Session.hits
      rw [hposition, hposition', Option.elim_some, Option.elim_some, Widget.hit_congr hnear]

theorem takesDrags_hits (s : Session) (input : Input) :
    ∀ name ∈ (s.hits input).drag, name.takesDrags = true := by
  unfold hits
  cases (s.hand input).pointer.position with
  | none => exact Widget.all_none
  | some p => exact Widget.takesDrags_hit _ p

/-- A release leaves the pointer on the checkbox if it clicks it, or if it clicks nothing but hits
it, and no other button is down. -/
theorem isOn_release (h : s.grip.IsOf (fun _ => True) (·.takesDrags = true)) (button : Button)
    (target : Target) (below : Bool) :
    (s.hand (.release button target)).isOn (.checkbox below) =
      match (s.hand (.release button target)).touch.clicked with
      | none => !(s.hand (.release button target)).pointer.isDown &&
          decide ((s.hits (.release button target)).click = some (.checkbox below))
      | some name => decide (name = .checkbox below) := by
  set hand := s.hand (.release button target) with hhand
  set hits := s.hits (.release button target) with hhits
  have hgrip : hand.grip = {} := s.grip.update_release _ hits _ _ _ rfl
  have hunder : hand.touch.under =
      let held := hand.touch.clicked.toList ++ hand.grip.dragged.toList
      if held.isEmpty then hits.click.toList ++ hits.drag.toList else held := rfl
  -- the checkbox is neither dragged nor let go of
  have hdropped : hand.touch.dropped ≠ some (.checkbox below) := by
    obtain ⟨-, -, hdrags⟩ := h.update (s.drawn.map (·.name)) hand.pointer
      (s.tick (.release button target)).now false (fun _ _ _ => trivial)
      fun _ => s.takesDrags_hits (.release button target)
    intro heq
    have := hdrags _ heq
    contradiction
  have hdrag : hits.drag ≠ some (.checkbox below) := by
    intro heq
    have := s.takesDrags_hits _ _ heq
    contradiction
  rw [hgrip] at hunder
  unfold Hand.isOn Hand.engages
  rw [hgrip, hunder]
  cases hand.touch.clicked with
  | none => simp [beq_eq_false_iff_ne.mpr hdropped, hdrag, Bool.and_comm]
  | some name =>
    by_cases hname : name = .checkbox below
    · simp [hname]
    · simp [hname, Ne.symm hname]

/-- **The end of a click** that ignores the pane takes the focus from the checkbox in both, or in
neither. -/
theorem Coupled.clicksBeside (h : s.Coupled t) {input : Input} (hs : s.ignoresPane input = true)
    (ht : t.ignoresPane input = true) (below : Bool) :
    (t.hand input).clicksBeside (.checkbox below) =
      (s.hand input).clicksBeside (.checkbox below) := by
  obtain ⟨hpointer, hstroke⟩ := h.hand input
  unfold Hand.clicksBeside
  rw [hstroke]
  cases hclicked : (s.hand input).stroke.clicked with
  | false => rfl
  | true =>
    cases input with
    | idle | rest | press _ _ | keyDown _ | keyUp _ => contradiction
    | release button target =>
      have hclick : ∀ r : Session, (r.hand (.release button target)).stroke.clicked = true →
          (r.hand (.release button target)).touch.clicked =
            r.grip.click.filter (· ∈ r.drawn.map (·.name)) := by
        intro r hr
        rw [clicked_hand, if_pos hr, target_of_not_press (by simp)]
      rw [isOn_release h.drags', isOn_release h.drags, hclick s hclicked,
        hclick t (by rw [hstroke, hclicked]), hpointer]
      rcases h.hits (.inr hclicked) hs ht with ⟨hfar, hfar'⟩ | ⟨hhits, hheld, hheld'⟩
      · -- neither hits the checkbox, and both click it or neither
        have hon : ∀ (o : Option Name) (down : Bool) (hit : Hit),
            (∀ name ∈ hit.click, name.isCheckbox = false) →
            (match o with
              | none => !down && decide (hit.click = some (.checkbox below))
              | some name => decide (name = .checkbox below)) =
              decide (o = some (.checkbox below)) := by
          intro o down hit hhit
          cases o with
          | none =>
            have : hit.click ≠ some (.checkbox below) := fun heq => by
              have := hhit _ heq
              contradiction
            simp [this]
          | some name => simp
        rw [hon _ _ _ hfar'.1, hon _ _ _ hfar.1]
        simp only [h.kept below]
      · -- both hit and click the same
        rw [h.kept.eq (Grip.kind_filter hheld _) (Grip.kind_filter hheld' _), hhits]

/-! ## The focus -/

/-- In a frame that ignores the pane the turn is offered to the checkbox alone. -/
theorem turn_of_ignoresPane {input : Input} (h : s.ignoresPane input = true) :
    (s.layOut input).turn input =
      (s.focus.begin input.key?).offer (.checkbox s.window.pane.visible) := by
  rw [turn_layOut]
  have hpane := (Bool.and_eq_true_iff.mp h).2
  by_cases hmoves : (input.key? == some .tab || s.focus.passing) = true
  · -- nothing in the pane takes the focus
    rw [hmoves, Bool.not_true, Bool.false_or, List.all_eq_true] at hpane
    exact Focus.Turn.offerAll_append_of_none (fun name hname => by simpa using hpane name hname) _
  · -- nothing moves the focus
    simp only [Bool.or_eq_true, beq_iff_eq, not_or, Bool.not_eq_true] at hmoves
    have hstill : (s.focus.begin input.key?).passing = false := hmoves.2
    have htab : (s.focus.begin input.key?).advancing = false := by simp [Focus.begin, hmoves.1]
    rw [Focus.Turn.offerAll_of_still hstill htab, Focus.Turn.offer_of_still hstill htab]

/-! ## A frame -/

/-- Both checkboxes are turned over, or neither is. -/
theorem Coupled.turnsOver (h : s.Coupled t) {input : Input} (hs : s.ignoresPane input = true)
    (ht : t.ignoresPane input = true) : t.turnsOver (.frame input) = s.turnsOver (.frame input) := by
  cases input with
  | idle | rest | press _ _ =>
    rw [not_turnsOver_of_not_release rfl (by simp), not_turnsOver_of_not_release rfl (by simp)]
  | keyDown _ | keyUp _ =>
    rw [turnsOver_of_key rfl, turnsOver_of_key rfl, turn_of_ignoresPane hs, turn_of_ignoresPane ht,
      h.focus, h.visible]
  | release button target =>
    rw [turnsOver_release, turnsOver_release, (h.hand _).2, h.visible, h.kept.beq]

/-- The focus is in the same place afterwards, and if anywhere, on the checkbox. -/
theorem Coupled.focus_frame (h : s.Coupled t) {input : Input} (hs : s.ignoresPane input = true)
    (ht : t.ignoresPane input = true) :
    (t.next (.frame input)).focus = (s.next (.frame input)).focus ∧
      ∀ name ∈ (s.next (.frame input)).focus.holder, name.isCheckbox = true := by
  have hfocus : ∀ r : Session, r.ignoresPane input = true → (r.next (.frame input)).focus =
      ((r.focus.begin input.key?).offer (.checkbox r.window.pane.visible)).finish
        (r.paneNames input ++ [.checkbox r.window.pane.visible]) (r.hand input).clicksBeside := by
    intro r hr
    show (r.layOut input).focusAfter _ _ = _
    rw [focusAfter, names_layOut, turn_of_ignoresPane hr]
  -- only a checkbox has the focus while the frame is drawn
  have hholder : ∀ name ∈ ((s.focus.begin input.key?).offer
      (.checkbox s.window.pane.visible)).holder, name.isCheckbox = true := by
    intro name hname
    rcases Focus.Turn.holder_offer _ _ name hname with rfl | hbefore
    · rfl
    · unfold Focus.begin at hbefore
      dsimp only at hbefore
      split at hbefore
      · contradiction
      · exact h.holder name hbefore
  rw [hfocus s hs, hfocus t ht, h.focus, h.visible]
  constructor
  · refine Focus.Turn.finish_congr fun name hname => ?_
    obtain ⟨below, rfl⟩ := Name.exists_of_isCheckbox (hholder name hname)
    refine ⟨?_, h.clicksBeside hs ht below⟩
    -- neither pane draws a checkbox
    have hpane : ∀ r : Session, Name.checkbox below ∉ r.paneNames input :=
      fun r hmem => ne_checkbox_of_mem_paneNames hmem below rfl
    simp only [List.mem_append, hpane, false_or]
  · intro name hname
    exact hholder name
      (Option.filter_eq_some_iff.mp (Option.filter_eq_some_iff.mp hname).1).1

/-- Afterwards both hold the checkbox for a click, or neither does. -/
theorem Coupled.click_frame (h : s.Coupled t) {input : Input} (hs : s.ignoresPane input = true)
    (ht : t.ignoresPane input = true)
    (hfresh : (s.hand input).stroke.pressed = true → s.grip.click = none ∧ t.grip.click = none) :
    SameBox (s.next (.frame input)).grip.click (t.next (.frame input)).grip.click := by
  obtain ⟨hpointer, hstroke⟩ := h.hand input
  rw [Session.click_frame, Session.click_frame]
  dsimp only
  -- both let go of it at the same time
  rw [hpointer, hstroke, h.tick]
  refine (SameBox.refl none).ite ?_ _
  unfold target
  dsimp only
  rw [hstroke]
  split
  · next hpressed =>
    -- the press takes hold of what it hits
    obtain ⟨hnone, hnone'⟩ := hfresh hpressed
    rw [hnone, hnone']
    show SameBox (s.hits input).click (t.hits input).click
    rcases h.hits (.inl hpressed) hs ht with ⟨hfar, hfar'⟩ | ⟨hhits, -⟩
    · exact sameBox_of_other hfar.1 hfar'.1
    · rw [hhits]
      exact .refl _
  · -- any other frame goes on holding what is still there
    exact h.kept

/-- The only checkbox that a frame draws. -/
theorem boxes_frame (s : Session) (input : Input) :
    (s.next (.frame input)).drawn.filter (·.name.isCheckbox) =
      [⟨.checkbox s.window.pane.visible,
        (Layout.checkbox s.screen s.window.pane.visible s.window.checkbox.label).meet
          (Layout.whole s.screen)⟩] := by
  obtain ⟨pane, hnames, hdrawn⟩ := s.exists_drawn_frame input
  have hpane : pane.filter (·.name.isCheckbox) = [] := by
    rw [List.filter_eq_nil_iff]
    intro w hw hbox
    obtain ⟨below, hname⟩ := Name.exists_of_isCheckbox hbox
    have hmem : w.name ∈ s.paneNames input := by
      rw [← hnames]
      exact List.mem_map_of_mem hw
    exact ne_checkbox_of_mem_paneNames hmem below hname
  rw [hdrawn, List.filter_append, hpane]
  rfl

/-- A frame turns the checkbox over, or leaves it as it is. -/
theorem checkbox_frame (s : Session) (input : Input) :
    (s.next (.frame input)).window.checkbox =
      if s.turnsOver (.frame input) then
        { s.window.checkbox with state := .ofBool !s.window.checkbox.isChecked }
      else s.window.checkbox := by
  show (turned _ _ _).checkbox = _
  unfold turned
  show (if s.turnsOver (.frame input) = true then _ else _ : Window).checkbox = _
  split
  · rw [checkbox_layOut]
    show ({ (s.layOut input).window.checkbox with state := _ } : Checkbox) = _
    rw [checkbox_layOut]
  · exact s.checkbox_layOut input

theorem drags_frame (h : s.grip.IsOf (fun _ => True) (·.takesDrags = true)) (input : Input) :
    (s.next (.frame input)).grip.IsOf (fun _ => True) (·.takesDrags = true) := by
  have hdrags : (s.hand input).stroke.pressed = true →
      ∀ name ∈ (s.hits input).drag, name.takesDrags = true := fun _ => s.takesDrags_hits input
  obtain ⟨hgrip, -⟩ := h.update (s.drawn.map (·.name)) (s.hand input).pointer (s.tick input).now
    (input.key? == some .escape) (fun _ _ _ => trivial) hdrags
  exact hgrip

/-- **A frame whose input ignores the pane** turns both windows over or neither, and leaves the
sessions coupled. -/
theorem Coupled.frame (h : s.Coupled t) {input : Input} (hs : s.ignoresPane input = true)
    (ht : t.ignoresPane input = true)
    (hfresh : (s.hand input).stroke.pressed = true → s.grip.click = none ∧ t.grip.click = none) :
    t.updates (.frame input) = s.updates (.frame input) ∧
      (s.next (.frame input)).Coupled (t.next (.frame input)) := by
  have hover := h.turnsOver hs ht
  obtain ⟨hfocus, hholder⟩ := h.focus_frame hs ht
  have hrecalls := s.recalls_frame input
  have hrecalls' := t.recalls_frame input
  refine ⟨by rw [updates, updates, hover, h.checkbox], ?_⟩
  constructor
  -- the window, and what the frame recalls of it
  · rw [checkbox_frame, checkbox_frame, hover, h.checkbox]
  · rw [visible_frame, visible_frame, hover, h.checkbox, h.visible]
  · rw [screen_frame, screen_frame, h.screen]
  · rw [hrecalls.1, hrecalls'.1, h.visible]
  · rw [hrecalls.2, hrecalls'.2, h.visible, h.screen, h.checkbox]
  · rw [boxes_frame, boxes_frame, h.visible, h.screen, h.checkbox]
  -- the time and the pointer, and what it holds for a click
  · rw [now_frame, now_frame]
    unfold Clock.tick
    rw [h.now]
  · exact (h.hand input).1
  · exact h.click_frame hs ht hfresh
  -- the focus
  · exact hfocus
  · exact hholder
  -- nothing that is dragged is the checkbox
  · exact drags_frame h.drags input
  · exact drags_frame h.drags' input

end

end Session

end Reveal
