import Reveal.Proofs.Extent

/-!
# Reveal — what a frame shows

A frame that shows the document draws it either where the window has it, or where the
area on the screen has been since the frame before. Which of them it is depends on that
frame alone: only if it did not draw the document, the offset of the window is put into
the area. So a document that is hidden and shown again is drawn as the window has it
after a frame without it. If there is none, all that was done to the offset between the
two frames is lost, and the next frame writes the old one over it.

## Results

* `area_after`        — the area after a run is that of the last frame.
* `offset_placedArea` — where the next frame draws the document.
* `frame_shows`       — what the next frame shows, after any run of a new window.
-/

namespace Reveal

namespace Session

/-- Nothing but a frame touches the area. -/
theorem area_after (s : Session) (moments : List Moment) :
    (s.after moments).area =
      (s.frames moments).getLast?.elim s.area fun f => (f.1.next (.frame f.2)).area := by
  induction moments generalizing s with
  | nil => rfl
  | cons m later ih =>
    show ((s.next m).after later).area = _
    rw [ih (s.next m)]
    cases m with
    | act action => rfl
    | resize screen => rfl
    | frame input =>
      -- this frame is the last one if there is no later one
      rw [frames, List.getLast?_cons]
      cases ((s.next (.frame input)).frames later).getLast? with
      | none => rfl
      | some f => rfl

/-- The frame with that input, which ends in `t`, shows the document scrolled by `o`: it is
drawn there, and unless it moves by itself or the pointer takes hold of what scrolls it,
`o` is what is left to the window, brought into the range. -/
structure Shows (s : Session) (input : Input) (t : Session) (o : Offset) : Prop where
  drawn : s.textBounds = Layout.text s.window.pane.document o
  range : s.AtRest → s.grabs input = false → ∀ axis,
    t.window.pane.scroll.along axis = (o.along axis).clamp ((s.view input).extent o axis).range
  points : s.AtRest → s.grabs input = false → Layout.IsModest s.window.pane.document →
    o.IsNear →
    (∀ axis, t.window.pane.scroll.along axis =
      (o.along axis).clamp (Layout.extent s.screen s.window.pane.document axis).range) ∧
    (s.screen.height ≤ 2 ^ 24 → t.window.pane.scroll.y =
      o.y.clamp (.ofNat (Layout.depth s.window.pane.document s.screen.height)))

/-- A frame shows the document where the area is put before it. -/
theorem shows_placedArea {s : Session} (hvisible : s.window.pane.visible = true) (input : Input) :
    s.Shows input (s.next (.frame input)) s.placedArea.offset := by
  have hrange : s.AtRest → s.grabs input = false → ∀ axis,
      (s.next (.frame input)).window.pane.scroll.along axis =
        (s.placedArea.offset.along axis).clamp
          ((s.view input).extent s.placedArea.offset axis).range := by
    intro hrest hgrab axis
    rw [(area_frame hvisible input).2, hrest.drawnArea hgrab]
    cases axis with
    | x => rfl
    | y => rfl
  refine ⟨rfl, hrange, ?_⟩
  intro hrest hgrab hmodest hnear
  -- near the window the range that is found is that of the lines
  have hlines : ∀ axis, (s.next (.frame input)).window.pane.scroll.along axis =
      (s.placedArea.offset.along axis).clamp
        (Layout.extent s.screen s.window.pane.document axis).range := by
    intro axis
    rw [hrange hrest hgrab axis]
    exact ScrollArea.Frame.clamp_extent (f := s.view input) hmodest hnear axis
  refine ⟨hlines, fun hheight => ?_⟩
  exact (hlines .y).trans (Layout.clamp_depth hmodest hheight _)

/-- The offset that a frame leaves to the area on the screen, if it draws the document. -/
def leaves (s : Session) (input : Input) : Option Offset :=
  if s.window.pane.visible then some (s.next (.frame input)).window.pane.scroll else none

/-- Where the next frame draws the document is fixed by what the last one has left, and by the
window only if that is nothing. -/
theorem offset_placedArea {start : Session} (h : start.Recalls none) (moments : List Moment) :
    (start.after moments).placedArea.offset =
      ((start.frames moments).getLast?.bind fun f => f.1.leaves f.2).getD
        (start.after moments).window.pane.scroll := by
  have hrecalls := recalls_after h moments
  have harea := start.area_after moments
  generalize start.after moments = s at hrecalls harea
  unfold placedArea
  cases hlast : (start.frames moments).getLast? with
  | none =>
    rw [hlast] at hrecalls
    rw [hrecalls.1, if_neg (by simp)]
    rfl
  | some f =>
    rw [hlast] at hrecalls harea
    have hdrawn : s.paneDrawn = f.1.window.pane.visible := hrecalls.1
    rw [hdrawn]
    cases hvisible : f.1.window.pane.visible with
    | true =>
      -- the area is as this frame has left it, and so was the window then
      obtain ⟨hleft, hscroll⟩ := area_frame hvisible f.2
      simp only [if_true, Option.bind_some, leaves, hvisible, Option.getD_some]
      rw [hscroll, ← hleft]
      exact congrArg ScrollArea.offset harea
    | false =>
      simp only [Bool.false_eq_true, if_false, Option.bind_some, leaves, hvisible,
        Option.getD_none]
      rfl

/-- **What a frame shows**, after any run of a new window. If the last frame has not drawn the
document, or there is none, the next one shows it as the window has it, whatever was
recorded meanwhile and however the document was brought back. If the last frame has drawn
the document, the next one shows it as that one has left it, though the window may have
been given another offset and been turned over any number of times since. -/
theorem frame_shows (settings : Settings) (document : Document) (screen : Screen)
    (steps : List Step) (input : Input) :
    let start := (build settings document screen).1
    let last := (start.frames (steps.flatMap Step.moments)).getLast?
    ∃ s log, start.run steps = .ok (s, log) ∧
      (s.window.pane.visible = true → ∃ t events, s.frame input = .ok (t, events) ∧
        s.Shows input t ((last.bind fun f => f.1.leaves f.2).getD s.window.pane.scroll)) := by
  intro start last
  have hfresh : start.Recalls none := ⟨rfl, rfl⟩
  have hplaced := offset_placedArea hfresh (steps.flatMap Step.moments)
  obtain ⟨log, hrun⟩ := start.advanceAll_eq (steps.flatMap Step.moments)
  refine ⟨_, log, hrun, ?_⟩
  intro hvisible
  obtain ⟨events, hframe⟩ := (start.after (steps.flatMap Step.moments)).advance_eq (.frame input)
  refine ⟨_, events, hframe, ?_⟩
  rw [← hplaced]
  exact shows_placedArea hvisible input

/-- What is recorded while a document is hidden is shown, if it is hidden for a frame at least. -/
theorem frame_shows_recorded :
    let start := (build .standard ⟨"a\nb\nc\nd\ne\nf\ng\nh\ni\nj"⟩ ⟨320, 110⟩).1
    let steps : List Step := [.act .click, .gesture .wait, .act .click, .gesture .wait,
      .act (.scroll ⟨.zero, .ofNat 40⟩), .act .click]
    ∃ s log, start.run steps = .ok (s, log) ∧
      ∃ t events, s.frame .idle = .ok (t, events) ∧ t.window.pane.scroll.y = .ofNat 40 := by
  intro start steps
  obtain ⟨s, log, hrun, hshows⟩ :=
    frame_shows .standard ⟨"a\nb\nc\nd\ne\nf\ng\nh\ni\nj"⟩ ⟨320, 110⟩ steps .idle
  obtain ⟨log', hrun'⟩ := start.advanceAll_eq (steps.flatMap Step.moments)
  obtain ⟨rfl, -⟩ : start.after (steps.flatMap Step.moments) = s ∧ log' = log := by
    simpa using hrun'.symm.trans hrun
  obtain ⟨t, events, hframe, hshown⟩ := hshows (by decide +kernel)
  -- the last frame has not drawn the document, so it has left nothing
  have hnothing : ((start.frames (steps.flatMap Step.moments)).getLast?.bind fun f =>
      f.1.leaves f.2) = none := by
    decide +kernel
  rw [hnothing, Option.getD_none] at hshown
  refine ⟨_, log, hrun, t, events, hframe, ?_⟩
  obtain ⟨-, hpoints⟩ := hshown.points (by decide +kernel) (by decide +kernel) (by decide +kernel)
    (by decide +kernel)
  rw [hpoints (by decide +kernel)]
  decide +kernel

/-- What is recorded while a document is hidden is lost, if it is shown again before a frame
has been drawn without it; a frame between would have had it shown. -/
theorem recorded_offset_lost :
    let run (steps : List Step) :=
      ((build .standard ⟨"a\nb\nc\nd\ne\nf\ng\nh\ni\nj"⟩ ⟨320, 110⟩).1.run steps).toOption.map
        fun r => (r.1.window.pane.visible, r.1.window.pane.scroll)
    let shown : List Step := [.act .click, .gesture .wait]
    let record : Step := .act (.scroll ⟨.zero, .ofNat 40⟩)
    run (shown ++ [.act .click, record, .act .click]) = some (true, ⟨.zero, .ofNat 40⟩) ∧
      run (shown ++ [.act .click, record, .act .click, .gesture .wait]) = some (true, .origin) ∧
      run (shown ++ [.act .click, .gesture .wait, record, .act .click, .gesture .wait]) =
        some (true, ⟨.zero, .ofNat 40⟩) := by
  decide +kernel

end Session

end Reveal
