import Reveal.Proofs.Click
import Reveal.Proofs.Return

/-!
# Reveal — a click on the checkbox and a click on the window

The window can be clicked without the screen. A click on the checkbox takes four frames, and
each of them may draw the document, bring it into its range and give its offset to the
window. But the first one leaves a text that is at rest where the others find it: they move
nothing, and the last one turns the window over. So all that the click does to the window is
done by one frame and a click on the window.

What is left apart are the widgets, the pointer and the time of the two sessions. None of them
has a say in what a further frame does to the window, unless the pointer scrolls in it or
turns the window over.

## Results

* `Steady.frame`  — a frame after a frame moves nothing.
* `Alike.frame`   — a frame in each of two sessions that differ in the pointer only.
* `alike_click`   — a click on the checkbox is a frame and a click on the window.
* `step_click`    — the same for the step, with what it logs.
-/

namespace Reveal

/-- An offset is known by both axes. -/
theorem Offset.ext_along {o p : Offset} (h : ∀ axis, o.along axis = p.along axis) : o = p := by
  have hx : o.x = p.x := h .x
  have hy : o.y = p.y := h .y
  cases o
  cases p
  simp_all

namespace Session

open Layout (IsClickable IsModest)

/-! ## The window after a frame -/

/-- A frame gives an offset to the window, and turns it over or not. -/
theorem window_frame (s : Session) (input : Input) :
    (s.next (.frame input)).window =
      if s.turnsOver (.frame input) then
        (s.window.scrollTo (s.next (.frame input)).window.pane.scroll).next .click
      else s.window.scrollTo (s.next (.frame input)).window.pane.scroll := by
  have hlaid : (s.layOut input).window =
      s.window.scrollTo (s.next (.frame input)).window.pane.scroll := by
    rw [window_layOut]
    split
    · next hvisible => rw [(area_frame hvisible input).2]
    · next hhidden =>
      rw [(area_frame_of_hidden (by simpa using hhidden) input).2]
      rfl
  rw [← hlaid]
  show turned _ _ _ = _
  unfold turned turnsOver
  rfl

/-! ## Frames that change nothing -/

/-- The text is where a frame leaves it: drawn, if it is to be seen, and within its range. -/
structure Steady (s : Session) : Prop where
  drawn : s.paneDrawn = s.window.pane.visible
  rest : s.window.pane.visible = true → s.AtRest
  place : s.window.pane.visible = true → s.InPlace
  range : s.window.pane.visible = true → ∀ axis, s.window.pane.scroll.along axis ≤ s.range axis

/-- What a frame has drawn is what it has found, not what it leaves. -/
theorem drawn_frame (s : Session) (input : Input) :
    (s.next (.frame input)).paneDrawn = s.window.pane.visible := (s.recalls_frame input).1

/-- **A frame after a frame** moves nothing, as long as no press reaches for the text. -/
theorem Steady.frame {s : Session} (h : s.Steady) {input : Input}
    (hreach : s.reaches input = false) :
    (s.next (.frame input)).window =
        (if s.turnsOver (.frame input) then s.window.next .click else s.window) ∧
      (s.next (.frame input)).area.offset = s.area.offset ∧
      (s.turnsOver (.frame input) = false → (s.next (.frame input)).Steady) := by
  have hplace : s.window.pane.visible = true → (s.next (.frame input)).InPlace ∧ _ :=
    fun hvisible => (h.place hvisible).frame ((h.rest hvisible).not_stirs hreach)
  have hscroll : (s.next (.frame input)).window.pane.scroll = s.window.pane.scroll ∧
      (s.next (.frame input)).area.offset = s.area.offset := by
    by_cases hvisible : s.window.pane.visible = true
    · -- what is within its range is not moved by being brought into it
      obtain ⟨hplace, hvalue⟩ := hplace hvisible
      have hsame : (s.next (.frame input)).window.pane.scroll = s.window.pane.scroll := by
        apply Offset.ext_along
        intro axis
        have hle : (s.window.pane.scroll.along axis).rank ≤ (s.range axis).rank :=
          h.range hvisible axis
        rw [hvalue axis, if_pos hvisible, Scalar.smaller, if_neg (by omega)]
      exact ⟨hsame, by rw [hplace.offset, hsame, (h.place hvisible).offset]⟩
    · obtain ⟨harea, hsame⟩ := area_frame_of_hidden (by simpa using hvisible) input
      exact ⟨hsame, by rw [harea]⟩
  have hwindow : (s.next (.frame input)).window =
      if s.turnsOver (.frame input) then s.window.next .click else s.window := by
    rw [window_frame, hscroll.1]
    rfl
  refine ⟨hwindow, hscroll.2, ?_⟩
  intro hover
  rw [hover, if_neg (by simp)] at hwindow
  refine ⟨by rw [drawn_frame, hwindow], ?_, ?_, ?_⟩
  · rw [hwindow]
    intro hvisible
    exact (h.rest hvisible).frame hreach
  · rw [hwindow]
    intro hvisible
    exact (hplace hvisible).1
  · intro hvisible axis
    rw [hwindow] at hvisible ⊢
    have hrange : (s.next (.frame input)).range axis = s.range axis := by
      cases axis <;> simp only [Session.range, Session.extent, hwindow, screen_frame]
    rw [hrange]
    exact h.range hvisible axis

/-- The range of a document that is in place near the window is that of its lines. -/
theorem InPlace.range_eq {s : Session} (h : s.InPlace) (hmodest : IsModest s.window.pane.document)
    (hnear : s.window.pane.scroll.IsNear) (axis : Axis) :
    s.range axis = (Layout.extent s.screen s.window.pane.document axis).range.larger .zero := by
  have hextent : (s.view .idle).extent s.window.pane.scroll axis = s.extent axis := by
    cases axis with
    | x => rfl
    | y => rfl
  have hlines := ScrollArea.Frame.extent_eq (f := s.view .idle) hmodest hnear
    (h.isOffset axis).rank_nonneg
  rw [hextent] at hlines
  rw [Session.range, hlines]
  rfl

/-- An offset within the room for a document near the window is near as well. -/
theorem near_clamp {o p : Offset} (h : o.IsNear) {limit : Axis → Scalar}
    (hp : ∀ axis, p.along axis = (o.along axis).clamp (limit axis)) : p.IsNear := by
  intro axis
  rw [hp axis]
  have hle := Scalar.rank_clamp_le_self (o.along axis) (limit axis)
  have hnear := h axis
  have hnonneg := Scalar.rank_ofNat_nonneg axis.limit
  omega

/-- **The first frame** leaves a document where the next ones find it, if it is at rest, near the
window and not too large. -/
theorem steady_frame {s : Session} {input : Input}
    (hrest : s.window.pane.visible = true →
      s.AtRest ∧ IsModest s.window.pane.document ∧ s.placedArea.offset.IsNear)
    (hreach : s.reaches input = false) (hover : s.turnsOver (.frame input) = false) :
    (s.next (.frame input)).Steady := by
  have hvisible : (s.next (.frame input)).window.pane.visible = s.window.pane.visible := by
    rw [visible_frame, hover, if_neg (by simp)]
  refine ⟨by rw [drawn_frame, hvisible], ?_, ?_, ?_⟩
  · rw [hvisible]
    intro hshown
    exact (hrest hshown).1.frame hreach
  · rw [hvisible]
    intro hshown
    exact inPlace_frame hshown ((hrest hshown).1.frame hreach).area
  · rw [hvisible]
    intro hshown axis
    obtain ⟨hatRest, hmodest, hnear⟩ := hrest hshown
    have hplace := inPlace_frame hshown (hatRest.frame hreach).area
    obtain ⟨hlines, -⟩ :=
      (shows_placedArea hshown input).points hatRest (grabs_of_reaches hreach) hmodest hnear
    have hdocument := (s.sameTexts_next (.frame input)).document
    -- what is brought into a range is not above it
    have hbound := Scalar.rank_clamp_le (s.placedArea.offset.along axis)
      (Layout.extent s.screen s.window.pane.document axis).range
    have hrange := hplace.range_eq (by rw [hdocument]; exact hmodest) (near_clamp hnear hlines) axis
    rw [hdocument, screen_frame] at hrange
    show (_ : Scalar).rank ≤ (_ : Scalar).rank
    rw [hlines axis, hrange, Scalar.larger, Scalar.rank_zero]
    split
    · rw [Scalar.rank_zero]
      omega
    · omega

/-! ## Two sessions alike -/

/-- What the next frame does to the window is the same in both, as far as the pointer is out of
it. -/
structure Alike (s t : Session) : Prop where
  window : t.window = s.window
  screen : t.screen = s.screen
  drawn : t.paneDrawn = s.paneDrawn
  offset : t.area.offset = s.area.offset

theorem Alike.refl (s : Session) : s.Alike s := ⟨rfl, rfl, rfl, rfl⟩

theorem Alike.symm {s t : Session} (h : s.Alike t) : t.Alike s :=
  ⟨h.window.symm, h.screen.symm, h.drawn.symm, h.offset.symm⟩

theorem Alike.trans {s t u : Session} (h : s.Alike t) (h' : t.Alike u) : s.Alike u :=
  ⟨h'.window.trans h.window, h'.screen.trans h.screen, h'.drawn.trans h.drawn,
    h'.offset.trans h.offset⟩

/-- Both put the document in the same place. -/
theorem Alike.placedArea {s t : Session} (h : s.Alike t) :
    t.placedArea.offset = s.placedArea.offset := by
  unfold Session.placedArea
  rw [h.drawn, h.window]
  split
  · exact h.offset
  · rfl

/-- **A frame in each of two sessions alike** leaves them alike, if it turns the window over in both
or in neither. -/
theorem Alike.frame {s t : Session} (h : s.Alike t) {input input' : Input}
    (hrest : s.window.pane.visible = true → s.AtRest ∧ t.AtRest)
    (hreach : s.reaches input = false) (hreach' : t.reaches input' = false)
    (hover : t.turnsOver (.frame input') = s.turnsOver (.frame input)) :
    (s.next (.frame input)).Alike (t.next (.frame input')) := by
  have hscroll : (t.next (.frame input')).window.pane.scroll =
        (s.next (.frame input)).window.pane.scroll ∧
      (t.next (.frame input')).area.offset = (s.next (.frame input)).area.offset := by
    by_cases hvisible : s.window.pane.visible = true
    · have hvisible' : t.window.pane.visible = true := by
        rw [h.window]
        exact hvisible
      obtain ⟨hs, ht⟩ := hrest hvisible
      obtain ⟨harea, hleft⟩ := area_frame hvisible input
      obtain ⟨harea', hleft'⟩ := area_frame hvisible' input'
      -- both put the text at the same place, and find the same range there
      have hsame : (t.next (.frame input')).window.pane.scroll =
          (s.next (.frame input)).window.pane.scroll := by
        apply Offset.ext_along
        intro axis
        rw [(shows_placedArea hvisible input).range hs (grabs_of_reaches hreach) axis,
          (shows_placedArea hvisible' input').range ht (grabs_of_reaches hreach') axis,
          h.placedArea]
        cases axis <;> simp only [view, ScrollArea.Frame.extent, h.window, h.screen]
      exact ⟨hsame, by rw [harea, harea', ← hleft, ← hleft', hsame]⟩
    · -- a hidden document stays where it is
      have hhidden : s.window.pane.visible = false := by simpa using hvisible
      obtain ⟨harea, hleft⟩ := area_frame_of_hidden hhidden input
      obtain ⟨harea', hleft'⟩ := area_frame_of_hidden (s := t) (by rw [h.window]; exact hhidden) input'
      exact ⟨by rw [hleft, hleft', h.window], by rw [harea, harea', h.offset]⟩
  refine ⟨?_, ?_, ?_, hscroll.2⟩
  · rw [t.window_frame input', hover, hscroll.1, h.window]
    exact (s.window_frame input).symm
  · rw [screen_frame, screen_frame, h.screen]
  · rw [drawn_frame, drawn_frame, h.window]

theorem Alike.act {s t : Session} (h : s.Alike t) (action : Window.Action) :
    (s.next (.act action)).Alike (t.next (.act action)) :=
  ⟨congrArg (Window.next · action) h.window, h.screen, h.drawn, h.offset⟩

/-- A frame that changes nothing, or only turns the window over, leaves the session as it is or as a
click would. -/
theorem Steady.alike {s : Session} (h : s.Steady) {input : Input}
    (hreach : s.reaches input = false) :
    (s.turnsOver (.frame input) = false → s.Alike (s.next (.frame input))) ∧
      (s.turnsOver (.frame input) = true →
        (s.next (.act .click)).Alike (s.next (.frame input))) := by
  obtain ⟨hwindow, hoffset, -⟩ := h.frame hreach
  have hdrawn : (s.next (.frame input)).paneDrawn = s.paneDrawn := by
    rw [drawn_frame, h.drawn]
  constructor
  · intro hover
    rw [hover, if_neg (by simp)] at hwindow
    exact ⟨hwindow, s.screen_frame input, hdrawn, hoffset⟩
  · intro hover
    rw [hover, if_pos rfl] at hwindow
    exact ⟨hwindow, s.screen_frame input, hdrawn, hoffset⟩

/-! ## A click and what it does -/

/-- The steps that do the same as a click on the checkbox: a frame, and then the window is clicked.
-/
def plainly : List Step := [.gesture .wait, .act .click]

/-- A click on the window logs one update, and the frame before it nothing. -/
theorem log_plainly (s : Session) :
    s.log (plainly.flatMap Step.moments) = [.visibilityUpdated !s.window.checkbox.isChecked] := by
  have hover : s.turnsOver (.frame .idle) = false := not_turnsOver_of_not_release rfl (by simp)
  have hstate : (s.next (.frame .idle)).window.checkbox.isChecked = s.window.checkbox.isChecked := by
    rw [isChecked_next, hover, if_neg (by simp)]
  show s.log [.frame .idle, .act .click] = _
  rw [log_cons, log_cons, updates, updates, hover, hstate]
  rfl

/-- **A click on the checkbox** does to a session what a frame does and the click that is made
without it, unless something is going on with a document that is shown. -/
theorem alike_click {s : Session} (hearly : s.clock.IsEarly) (hlate : s.clock.now + 8 ≤ 2 ^ 47)
    (hclick : (s.next (.frame .rest)).grip.click = none)
    (h : IsClickable s.screen s.window.pane.visible s.window.checkbox.label)
    (hrest : s.window.pane.visible = true →
      s.AtRest ∧ IsModest s.window.pane.document ∧ s.placedArea.offset.IsNear) :
    (s.after (plainly.flatMap Step.moments)).Alike
      (s.after (Step.gesture (.click .primary .checkbox)).moments) := by
  have hover := turnsOver_click hearly hlate hclick h
  have hreaches : ∀ f ∈ s.frames (Step.gesture (.click .primary .checkbox)).moments,
      f.1.reaches f.2 = false :=
    fun f hf => s.reaches_press_checkbox .primary h.toIsExact (by simp) hf
  set rested := s.next (.frame .rest) with hrested
  set settled := rested.next (.frame .idle) with hsettled
  set pressed := settled.next (.frame (.press .primary .checkbox)) with hpressed
  have hover₁ : s.turnsOver (.frame .rest) = false := not_turnsOver_of_not_release rfl (by simp)
  have hover₁' : s.turnsOver (.frame .idle) = false := not_turnsOver_of_not_release rfl (by simp)
  have hover₂ : rested.turnsOver (.frame .idle) = false :=
    not_turnsOver_of_not_release rfl (by simp)
  have hover₃ : settled.turnsOver (.frame (.press .primary .checkbox)) = false :=
    not_turnsOver_of_not_release rfl (by simp)
  have hreach₁ : s.reaches .rest = false := reaches_of_not_press s (by simp)
  have hreach₁' : s.reaches .idle = false := reaches_of_not_press s (by simp)
  have hreach₂ : rested.reaches .idle = false := reaches_of_not_press _ (by simp)
  have hreach₃ : settled.reaches (.press .primary .checkbox) = false :=
    hreaches (settled, .press .primary .checkbox)
      (by simp [Step.moments, Gesture.inputs, frames, ← hrested, ← hsettled])
  have hreach₄ : pressed.reaches (.release .primary .checkbox) = false :=
    reaches_of_not_press _ (by simp)
  -- the first frame draws the document, and the others find it as it is
  have hfirst : (s.next (.frame .idle)).Alike rested :=
    (Alike.refl s).frame (fun hvisible => ⟨(hrest hvisible).1, (hrest hvisible).1⟩) hreach₁' hreach₁
      (hover₁.trans hover₁'.symm)
  have hsteady₁ : rested.Steady := steady_frame hrest hreach₁ hover₁
  have hsteady₂ : settled.Steady := (hsteady₁.frame hreach₂).2.2 hover₂
  have hsteady₃ : pressed.Steady := (hsteady₂.frame hreach₃).2.2 hover₃
  -- so the press finds the session as one frame would have left it, and the release clicks it
  have hpressed' : (s.next (.frame .idle)).Alike pressed :=
    (hfirst.trans ((hsteady₁.alike hreach₂).1 hover₂)).trans ((hsteady₂.alike hreach₃).1 hover₃)
  exact (hpressed'.act .click).trans ((hsteady₃.alike hreach₄).2 hover)

/-- Nothing is going on with the document, if it is shown: it is at rest, not too large, and drawn
near the window. -/
def Undisturbed (s : Session) : Prop :=
  s.window.pane.visible = true →
    s.AtRest ∧ IsModest s.window.pane.document ∧ s.placedArea.offset.IsNear

/-- What a click on the checkbox, which ends in `t`, does to the window: it turns it over, once, and
changes no text. Unless something is going on with the document, it does just what a frame and a
click on the window do. -/
structure ClicksBox (s t : Session) : Prop where
  step : s.step (.gesture (.click .primary .checkbox)) =
    .ok (t, [.visibilityUpdated !s.window.checkbox.isChecked])
  checked : t.window.checkbox.isChecked = (!s.window.checkbox.isChecked)
  visible : t.window.pane.visible = (!s.window.checkbox.isChecked)
  texts : s.window.SameTexts t.window
  plain : s.Undisturbed → ∃ u,
    s.run plainly = .ok (u, [.visibilityUpdated !s.window.checkbox.isChecked]) ∧
      u.window = t.window

/-- **A click on the checkbox** after any moments at which it is known when what is held was
pressed. -/
theorem step_click {s : Session} (htimely : s.Timely) (hlate : s.clock.now + 8 ≤ 2 ^ 47)
    (hconsistent : s.window.isConsistent = true)
    (h : IsClickable s.screen s.window.pane.visible s.window.checkbox.label) :
    s.ClicksBox (s.after (Step.gesture (.click .primary .checkbox)).moments) := by
  have hclick := htimely.click_rest (by linarith)
  obtain ⟨hlog, hstate⟩ := log_click htimely.early hlate hclick h
  set moments := (Step.gesture (.click .primary .checkbox)).moments with hmoments
  refine ⟨?_, hstate, ?_, s.sameTexts_after moments, ?_⟩
  · rw [step, ← hmoments, advanceAll_eq_log, hlog]
  · -- the pane follows the checkbox
    rw [← hstate]
    simpa [Window.isConsistent] using isConsistent_after hconsistent moments
  · intro hrest
    refine ⟨s.after (plainly.flatMap Step.moments), ?_,
      (alike_click htimely.early hlate hclick h hrest).window.symm⟩
    rw [← log_plainly]
    exact s.advanceAll_eq_log _

end Session

end Reveal
