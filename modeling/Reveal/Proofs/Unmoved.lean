import Reveal.Proofs.Rest
import Reveal.Proofs.Session

/-!
# Reveal — a text that nothing moves

What a frame does to the offset of a text depends on what is going on with it. The text may
coast or go to a goal by itself, and the pointer may pull at it: drag it by some way, let go of
it in motion, or deal with a bar. Where nothing of that happens (`Unmoved`) the frame only
brings the text into its range. A cursor that is put where it is not in view moves nothing in
that frame, but gives the text a goal, to which it goes in the next ones.

What the pointer does is told in two ways. `stirs` looks at a frame alone: the pointer pulls at
the text in it, or has it go to a goal from then on. `reaches` looks at the presses by which
that begins. As long as no press reaches for a text at rest (`AtRest`), no frame stirs it.

Without any input the pointer does not move and lets go of nothing. So a text that is at rest
is not moved, unless the pointer has a hold of a bar, and it is at rest after that as well
(`Resting`).

## Results

* `Unmoved.scroll_frame`  — a frame in which nothing moves the text.
* `rests_frame`           — a frame that does not stir it.
* `AtRest.not_stirs`      — no frame does in which no press reaches for it.
* `AtRest.after`          — a run in which no press reaches for the text leaves it at rest.
* `Resting.frame`         — frames without input, one after the other.
-/

namespace Reveal

open Widget (Name Hit)

namespace Session

/-! ## The pointer and the text -/

/-- What the pointer would take hold of in the frame with that input. -/
def hits (s : Session) (input : Input) : Widget.Hit :=
  (s.hand input).pointer.position.elim {} (Widget.hit s.drawn)

/-- What the frame with that input would have to bring into view. -/
def sought (s : Session) (input : Input) : Option Spot :=
  Selection.sought s.selected s.window.pane.document s.textBounds (Layout.window s.screen)
    (s.hand input)

/-- What the area knows in the frame with that input. -/
def view (s : Session) (input : Input) : ScrollArea.Frame :=
  { now := (s.tick input).now
    step := s.clock.step (input = .rest)
    screen := s.screen
    document := s.window.pane.document
    hand := s.hand input
    sought := s.sought input }

theorem drawnArea_eq (s : Session) (input : Input) :
    s.drawnArea input = s.placedArea.draw (s.view input) := rfl

/-- Whether a press takes hold of what scrolls the text in the frame with that input: of the
background or of a bar. -/
def grabs (s : Session) (input : Input) : Bool :=
  (s.hand input).stroke.pressed && (s.hits input).scrolls

/-- Whether a press reaches for the text in the frame with that input: it takes hold of what scrolls
it, or it puts a cursor where the text has to be scrolled for it to be seen. -/
def reaches (s : Session) (input : Input) : Bool :=
  s.grabs input || s.window.pane.visible && !(s.view input).inView

/-- Whether the pointer pulls at the text in the frame with that input: it drags it by some way or
lets go of it in motion, or it deals with a bar. -/
def pulls (s : Session) (input : Input) : Bool :=
  [Axis.x, .y].any fun axis =>
    !(s.placedArea.motion (s.hand input) axis).isStill || (s.hand input).engages (.bar axis)

/-- Whether the pointer moves the text in the frame with that input, or has it moved from then on:
it pulls at it, or it puts a cursor where the text has to be scrolled for it to be seen. -/
def stirs (s : Session) (input : Input) : Bool :=
  s.window.pane.visible && (s.pulls input || !(s.view input).inView)

/-- To take hold of what scrolls the text is to reach for it. -/
theorem grabs_of_reaches {s : Session} {input : Input} (h : s.reaches input = false) :
    s.grabs input = false := by
  rw [reaches, Bool.or_eq_false_iff] at h
  exact h.1

/-- Where nothing is reached for, nothing has to be brought into view. -/
theorem inView_of_reaches {s : Session} {input : Input} (h : s.reaches input = false)
    (hvisible : s.window.pane.visible = true) : (s.view input).inView = true := by
  rw [reaches, Bool.or_eq_false_iff, hvisible, Bool.true_and, Bool.not_eq_false'] at h
  exact h.2

/-- A pointer that does not pull does so along neither axis. -/
theorem pulls_eq_false_iff {s : Session} {input : Input} :
    s.pulls input = false ↔
      (∀ axis, (s.placedArea.motion (s.hand input) axis).isStill = true) ∧
        ∀ axis, (s.hand input).engages (.bar axis) = false := by
  have haxes : ∀ {P : Axis → Prop}, (∀ axis, P axis) ↔ P .x ∧ P .y :=
    ⟨fun h => ⟨h .x, h .y⟩, fun h axis => by cases axis with
      | x => exact h.1
      | y => exact h.2⟩
  simp only [pulls, List.any_cons, List.any_nil, Bool.or_false, Bool.or_eq_false_iff,
    Bool.not_eq_false', haxes]
  tauto

/-! ## One frame -/

/-- A text at rest is at rest wherever the window has it put. -/
theorem placedArea_rests {s : Session} (h : s.area.Rests) : s.placedArea.Rests := by
  unfold placedArea
  split
  · exact h
  · exact h.scrollTo _

/-- What a frame with the text in view leaves of it. -/
theorem area_frame {s : Session} (hvisible : s.window.pane.visible = true) (input : Input) :
    (s.next (.frame input)).area = (s.drawnArea input).area ∧
    (s.next (.frame input)).window.pane.scroll = (s.drawnArea input).area.offset := by
  have harea : (s.layOut input).area = (s.drawnArea input).area := by
    simp only [layOut, drawCheckbox, drawPane, hvisible, if_true]
  have hscroll : (s.layOut input).window.pane.scroll = (s.drawnArea input).area.offset := by
    rw [window_layOut, if_pos hvisible]
    rfl
  refine ⟨harea, ?_⟩
  rw [← hscroll]
  show (turned _ _ _).pane.scroll = _
  unfold turned
  split
  · rfl
  · rfl

/-- A frame without it leaves the area and the offset alone. -/
theorem area_frame_of_hidden {s : Session} (hhidden : s.window.pane.visible = false)
    (input : Input) :
    (s.next (.frame input)).area = s.area ∧
    (s.next (.frame input)).window.pane.scroll = s.window.pane.scroll := by
  have harea : (s.layOut input).area = s.area := by
    simp only [layOut, drawCheckbox, drawPane, hhidden, Bool.false_eq_true, if_false]
  refine ⟨harea, ?_⟩
  have hwindow : (s.layOut input).window = s.window := by
    rw [window_layOut, if_neg (by simp [hhidden])]
  show (turned _ _ _).pane.scroll = _
  unfold turned
  rw [hwindow]
  split
  · rfl
  · rfl

/-- Nothing moves the text in the frame with that input: it does not move by itself, and the pointer
does not pull at it. -/
structure Unmoved (s : Session) (input : Input) : Prop where
  rests : s.area.Rests
  pulls : s.pulls input = false

/-- **A frame in which nothing moves the text** only brings it into its range from where it is put.
It leaves it at rest, unless a cursor has to be brought into view from then on. -/
theorem Unmoved.scroll_frame {s : Session} {input : Input} (h : s.Unmoved input)
    (hvisible : s.window.pane.visible = true) :
    (∀ axis, s.placedArea.offset.along axis ≠ .infinity →
      (s.next (.frame input)).window.pane.scroll.along axis =
        (s.placedArea.offset.along axis).clamp
          ((s.view input).extent s.placedArea.offset axis).range) ∧
      ((s.view input).inView = true → (s.next (.frame input)).area.Rests) := by
  obtain ⟨harea, hscroll⟩ := area_frame hvisible input
  obtain ⟨hmotion, hbar⟩ := pulls_eq_false_iff.mp h.pulls
  rw [harea, hscroll, drawnArea_eq]
  exact ScrollArea.draw_of_isStill (f := s.view input) (placedArea_rests h.rests) hmotion hbar

/-- A frame that does not stir a text moves nothing, and leaves nothing to be brought into view. -/
theorem unmoved_of_stirs {s : Session} {input : Input} (h : s.area.Rests)
    (hvisible : s.window.pane.visible = true) (hstill : s.stirs input = false) :
    s.Unmoved input ∧ (s.view input).inView = true := by
  rw [stirs, hvisible, Bool.true_and, Bool.or_eq_false_iff, Bool.not_eq_false'] at hstill
  exact ⟨⟨h, hstill.1⟩, hstill.2⟩

/-- **A frame that does not stir it** leaves a text at rest. -/
theorem rests_frame {s : Session} (h : s.area.Rests) {input : Input}
    (hstill : s.stirs input = false) : (s.next (.frame input)).area.Rests := by
  by_cases hvisible : s.window.pane.visible = true
  · obtain ⟨hunmoved, hview⟩ := unmoved_of_stirs h hvisible hstill
    exact (hunmoved.scroll_frame hvisible).2 hview
  · rw [(area_frame_of_hidden (by simpa using hvisible) input).1]
    exact h

/-! ## A text at rest -/

/-- The text does not move by itself, and the pointer has no hold of what scrolls it. -/
structure AtRest (s : Session) : Prop where
  area : s.area.Rests
  grip : s.grip.Spares

instance (s : Session) : Decidable s.AtRest :=
  decidable_of_iff (s.area.Rests ∧ s.grip.Spares)
    ⟨fun ⟨harea, hgrip⟩ => ⟨harea, hgrip⟩, fun h => ⟨h.area, h.grip⟩⟩

/-- A pointer that has no hold of what scrolls the text gets one by a press only. -/
theorem spares_hand {s : Session} (h : s.grip.Spares) {input : Input}
    (hgrab : s.grabs input = false) : (s.hand input).Spares := by
  rw [grabs, Bool.and_eq_false_iff] at hgrab
  have hhit : (s.hand input).stroke.pressed = true → (s.hits input).scrolls = false := by
    intro hpressed
    rcases hgrab with hnot | hspares
    · rw [hpressed] at hnot
      contradiction
    · exact hspares
  obtain ⟨hgrip, hclicked, hdropped⟩ :=
    h.update (s.drawn.map (·.name)) (s.hand input).pointer (s.tick input).now
      (input.key? == some .escape) hhit
  exact ⟨hgrip, hclicked, hdropped⟩

/-- A pointer without a hold of what scrolls the text does not pull at it, unless it takes one. -/
theorem AtRest.unmoved {s : Session} (h : s.AtRest) {input : Input}
    (hgrab : s.grabs input = false) : s.Unmoved input := by
  have hspares := spares_hand h.grip hgrab
  refine ⟨h.area, pulls_eq_false_iff.mpr ⟨fun axis => ?_, fun axis => hspares.engages _ rfl⟩⟩
  exact Motion.isStill_of_isRest (s.placedArea.isRest_motion hspares axis)

/-- **No frame stirs a text at rest** in which no press reaches for it. -/
theorem AtRest.not_stirs {s : Session} (h : s.AtRest) {input : Input}
    (hreach : s.reaches input = false) : s.stirs input = false := by
  rw [stirs, Bool.and_eq_false_iff]
  cases hvisible : s.window.pane.visible with
  | false => exact .inl rfl
  | true =>
    right
    rw [(h.unmoved (grabs_of_reaches hreach)).pulls, inView_of_reaches hreach hvisible]
    rfl

/-- A frame that draws a text at rest, while no press takes hold of what scrolls it. -/
theorem AtRest.drawnArea {s : Session} (h : s.AtRest) {input : Input}
    (hgrab : s.grabs input = false) :
    (s.drawnArea input).area.offset =
        ⟨s.placedArea.x.offset.clamp ((s.view input).extent s.placedArea.offset .x).range,
          s.placedArea.y.offset.clamp ((s.view input).extent s.placedArea.offset .y).range⟩ := by
  rw [drawnArea_eq]
  exact (ScrollArea.draw_of_rests (f := s.view input) (placedArea_rests h.area)
    (spares_hand h.grip hgrab)).1

/-- The text stays at rest where no press reaches for it. -/
theorem AtRest.frame {s : Session} (h : s.AtRest) {input : Input}
    (hreach : s.reaches input = false) : (s.next (.frame input)).AtRest :=
  ⟨rests_frame h.area (h.not_stirs hreach), (spares_hand h.grip (grabs_of_reaches hreach)).grip⟩

/-- In a new session nothing has moved the text yet. -/
theorem atRest_build (settings : Settings) (document : Document) (screen : Screen) :
    (build settings document screen).1.AtRest :=
  ⟨⟨⟨rfl, rfl⟩, ⟨rfl, rfl⟩⟩, Grip.spares_empty⟩

/-- **A run from rest** ends at rest, whatever offsets are recorded in it, as long as no press
reaches for the text. -/
theorem AtRest.after {s : Session} (h : s.AtRest) {moments : List Moment}
    (hreach : ∀ f ∈ s.frames moments, f.1.reaches f.2 = false) : (s.after moments).AtRest := by
  induction moments generalizing s with
  | nil => exact h
  | cons m moments ih =>
    cases m with
    | act action =>
      have hnext : (s.next (.act action)).AtRest := ⟨h.area, h.grip⟩
      exact ih hnext hreach
    | resize screen =>
      have hnext : (s.next (.resize screen)).AtRest := ⟨h.area, h.grip⟩
      exact ih hnext hreach
    | frame input =>
      refine ih (h.frame (hreach (s, input) List.mem_cons_self)) ?_
      exact fun f hf => hreach f (List.mem_cons_of_mem _ hf)

end Session

/-! ## Frames without input -/

def Widget.Name.isBar : Name → Bool
  | bar _ => true
  | area | text | checkbox _ => false

namespace Grip

/-- Where no button goes up nothing is let go of that was dragged. -/
theorem dropped_update (g : Grip) (drawn : List Name) (hit : Hit) (pointer : Pointer) (now : Rat)
    {stroke : Stroke} (h : stroke.released = none) :
    (g.update drawn hit pointer now stroke false).2.dropped = none := by
  -- a drag that has begun goes on
  have hstart : ∀ {g : Grip} {name : Name}, g.dragged = some name →
      (g.startDrag drawn (pointer.isDragging now stroke)).dragged = some name := by
    intro g name hdragged
    simp [startDrag, hdragged]
  unfold Grip.update
  dsimp only
  rw [h]
  cases hdragged : g.dragged with
  | none => simp
  | some name =>
    cases stroke.pressed with
    | true => simpa [apply_ite Grip.dragged] using hstart rfl
    | false => simpa [apply_ite Grip.dragged] using hstart rfl

end Grip

namespace Session

/-- The text neither coasts nor goes to a goal, and the pointer has no hold of a bar. -/
structure Resting (s : Session) : Prop where
  area : s.area.Rests
  grip : s.grip.IsOf (·.isBar = false) (·.isBar = false)

/-- Who has no hold of what scrolls the text has none of a bar. -/
theorem AtRest.resting {s : Session} (h : s.AtRest) : s.Resting := by
  have hbar : ∀ name : Name, name.scrolls = false → name.isBar = false := by
    intro name hname
    cases name with
    | bar axis => contradiction
    | area | text | checkbox _ => rfl
  exact ⟨h.area, fun name hname => hbar name (h.grip.click name hname),
    fun name hname => hbar name (h.grip.drag name hname),
    fun name hname => hbar name (h.grip.dragged name hname)⟩

/-- What the pointer does without input has nothing to do with a bar, if it has no hold of one. -/
theorem Resting.hand {s : Session} (h : s.Resting) :
    (s.hand .idle).grip.IsOf (·.isBar = false) (·.isBar = false) ∧
      ∀ axis, (s.hand .idle).engages (.bar axis) = false := by
  -- nothing is pressed
  have hclick : (s.hand .idle).stroke.pressed = true →
      ∀ name ∈ (s.hits .idle).click, name.isBar = false := nofun
  have hdrag : (s.hand .idle).stroke.pressed = true →
      ∀ name ∈ (s.hits .idle).drag, name.isBar = false := nofun
  obtain ⟨hgrip, hclicked, hdropped⟩ := h.grip.update (s.drawn.map (·.name)) (s.hand .idle).pointer
    (s.tick .idle).now false hclick hdrag
  refine ⟨hgrip, fun axis => ?_⟩
  -- neither what is held nor what is let go of is this bar
  have hne : ∀ {held : Option Name}, (∀ name ∈ held, name.isBar = false) →
      held ≠ some (.bar axis) := by
    intro held hheld heq
    have := hheld _ heq
    contradiction
  simp only [Hand.engages, Bool.or_eq_false_iff, beq_eq_false_iff_ne]
  exact ⟨⟨⟨hne hgrip.click, hne hgrip.drag⟩, hne hclicked⟩, hne hdropped⟩

/-- **Without input** nothing moves a text at rest, as long as the pointer has no hold of a bar. -/
theorem Resting.unmoved {s : Session} (h : s.Resting) : s.Unmoved .idle := by
  refine ⟨h.area, pulls_eq_false_iff.mpr ⟨fun axis => ?_, h.hand.2⟩⟩
  have hreleased : (s.hand .idle).stroke.released = none := rfl
  have hdropped : (s.hand .idle).touch.dropped = none := s.grip.dropped_update _ _ _ _ hreleased
  unfold ScrollArea.motion
  rw [hdropped]
  -- a pointer that drags it does not go anywhere
  split
  · rfl
  · split
    · cases axis <;> rfl
    · rfl

/-- **Frames without input** leave it so. -/
theorem Resting.frame {s : Session} (h : s.Resting) : (s.next (.frame .idle)).Resting := by
  have hview : (s.view .idle).inView = true := ScrollArea.Frame.inView_of_sought rfl
  have hstill : s.stirs .idle = false := by
    rw [stirs, h.unmoved.pulls, hview, Bool.not_true, Bool.or_false, Bool.and_false]
  exact ⟨rests_frame h.area hstill, h.hand.1⟩

end Session

end Reveal
