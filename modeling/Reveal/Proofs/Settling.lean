import Reveal.Proofs.Quiet
import Reveal.Proofs.Row
import Reveal.Proofs.Stored

/-!
# Reveal — when drawing has settled

A frame without input logs nothing, and it is remembered as the one that draws the window as it
is. So further frames do not differ from the first one in what they remember, nor in anything
of the window but how far the document is scrolled.

That is settled by the first frame as well, if nothing moves the text, unless the text is found
beyond its range. Then it is brought back to the end of a range that may be rounded, and the
next frame finds another one. A document that is not too large is near the window after the
first frame, so that the second one settles it in any case.

The focus stays with what has it as long as that is drawn. The checkbox is drawn in every frame,
but a scroll bar need not be: it is faded out over some frames after there is nothing left to be
scrolled, and loses the focus at the end.

## Results

* `lasting_frame`  — what the first frame has to find for the text to stay where it leaves it.
* `Lasting.after`  — a text that stays, for any number of frames.
* `focus_idles`    — the only way in which the focus is lost.
* `frames_settle`  — all of this after any run.
-/

namespace Reveal

open Widget (Name)

/-- What is not beyond its range is left alone, if it is not negative. -/
theorem Scalar.clamp_of_le {v r : Scalar} (hv : v.IsOffset) (h : v ≤ r.larger zero) :
    v.clamp r = v := by
  have hrank : v.rank ≤ max r.rank 0 := by
    rw [← rank_larger_zero]
    exact h
  rcases hv with rfl | hpositive
  · exact clamp_of_not_isPositive (by decide) r
  · have hpos : 0 < v.rank := by
      simp only [isPositive, Bool.and_eq_true, decide_eq_true_eq] at hpositive
      exact hpositive.2
    rw [clamp_eq_of_isOffset (.inr hpositive), smaller, if_neg (by omega), larger,
      if_neg (by rw [rank_zero]; omega)]

namespace Session

open Layout (IsModest IsSmall)

/-! ## Frames without input -/

/-- Some frames without input. -/
def idles (n : Nat) : List Moment := List.replicate n (.frame .idle)

/-- The steps that consist of them. -/
def waits (n : Nat) : List Step := List.replicate n (.gesture .wait)

theorem flatMap_waits (n : Nat) : (waits n).flatMap Step.moments = idles n := by
  induction n with
  | zero => rfl
  | succ n ih =>
    rw [waits, List.replicate_succ, List.flatMap_cons, idles, List.replicate_succ]
    exact congrArg (List.cons (.frame .idle)) ih

theorem after_idles_add (s : Session) (m n : Nat) :
    s.after (idles (m + n)) = (s.after (idles m)).after (idles n) := by
  rw [idles, List.replicate_add, after_append]
  rfl

/-- Without input nothing is turned over. -/
theorem not_turnsOver_idle (s : Session) : s.turnsOver (.frame .idle) = false :=
  not_turnsOver_of_not_release rfl (by simp)

theorem visible_idle (s : Session) :
    (s.next (.frame .idle)).window.pane.visible = s.window.pane.visible :=
  visible_of_not_turnsOver s.not_turnsOver_idle

/-- Frames without input log nothing. -/
theorem log_idles (s : Session) (n : Nat) : s.log (idles n) = [] := by
  have hidles : idles n = (List.replicate n Input.idle).map .frame := List.map_replicate.symm
  rw [hidles]
  refine log_frames fun f hf => ?_
  obtain ⟨before, later, hmoments, -⟩ := exists_of_mem_frames hf
  have hmem : f.2 ∈ List.replicate n Input.idle := by
    rw [← List.mem_map_of_injective (f := Moment.frame) (fun _ _ h => Moment.frame.inj h), hmoments]
    simp
  rw [List.eq_of_mem_replicate hmem]
  exact f.1.not_turnsOver_idle

/-- Such a run does not fail, and logs nothing. -/
theorem run_waits (s : Session) (n : Nat) : s.run (waits n) = .ok (s.after (idles n), []) := by
  rw [run, advanceAll_eq_log, flatMap_waits, log_idles]

/-- All that frames without input do to a window is to scroll the document. -/
theorem window_idles (s : Session) (n : Nat) :
    (s.after (idles n)).window = s.window.scrollTo (s.after (idles n)).window.pane.scroll ∧
      (s.after (idles n)).screen = s.screen := by
  induction n with
  | zero => exact ⟨rfl, rfl⟩
  | succ n ih =>
    obtain ⟨hwindow, hscreen⟩ := ih
    rw [after_idles_add]
    set t := s.after (idles n)
    have hframe := t.window_frame .idle
    rw [t.not_turnsOver_idle, if_neg (by simp)] at hframe
    refine ⟨?_, (t.screen_frame .idle).trans hscreen⟩
    show (t.next (.frame .idle)).window = _
    rw [hframe, hwindow]
    rfl

/-- **What is remembered after them** is the window as it was before. -/
theorem recalls_idles (s : Session) (n : Nat) :
    (s.after (idles (n + 1))).Recalls (some s) := by
  obtain ⟨hwindow, hscreen⟩ := s.window_idles n
  obtain ⟨hdrawn, hbox⟩ := (s.after (idles n)).recalls_frame .idle
  rw [hwindow] at hdrawn
  rw [hwindow, hscreen] at hbox
  rw [after_idles_add]
  exact ⟨hdrawn, hbox⟩

/-! ## The text -/

/-- The next frame without input finds the text in its range, or before it. -/
structure InRange (s : Session) : Prop where
  finite : ∀ axis, s.placedArea.offset.along axis ≠ .infinity
  le_range : ∀ axis, s.placedArea.offset.along axis ≤
    ((s.view .idle).extent s.placedArea.offset axis).range.larger .zero

/-- The text stays where it is: it is drawn, if it is to be seen, nothing moves it, and it is
within its range. -/
structure Lasting (s : Session) : Prop where
  drawn : s.paneDrawn = s.window.pane.visible
  resting : s.window.pane.visible = true → s.Resting
  offset : s.window.pane.visible = true → s.area.offset = s.window.pane.scroll
  isOffset : s.window.pane.visible = true → ∀ axis, (s.window.pane.scroll.along axis).IsOffset
  finite : s.window.pane.visible = true → ∀ axis, s.window.pane.scroll.along axis ≠ .infinity
  range : s.window.pane.visible = true → ∀ axis, s.window.pane.scroll.along axis ≤ s.range axis

/-- Two frames that have the document at the same place find the same extents. -/
theorem extent_frame {s : Session} (input : Input) {o : Offset} {axis : Axis}
    (h : (s.next (.frame input)).window.pane.scroll.along axis = o.along axis) :
    (s.next (.frame input)).extent axis = (s.view input).extent o axis := by
  cases axis with
  | x =>
    have hx : (s.next (.frame input)).window.pane.scroll.x = o.x := h
    rw [extent, hx, screen_frame, (s.sameTexts_next (.frame input)).document]
    rfl
  | y =>
    have hy : (s.next (.frame input)).window.pane.scroll.y = o.y := h
    rw [extent, hy, screen_frame, (s.sameTexts_next (.frame input)).document]
    rfl

/-- A further frame leaves the offsets where they are. -/
theorem Lasting.scroll_frame {s : Session} (h : s.Lasting) :
    (s.next (.frame .idle)).window.pane.scroll = s.window.pane.scroll ∧
      (s.next (.frame .idle)).area.offset = s.area.offset := by
  by_cases hvisible : s.window.pane.visible = true
  · have hplaced : s.placedArea.offset = s.window.pane.scroll := by
      rw [placedArea, h.drawn, if_pos hvisible, h.offset hvisible]
    obtain ⟨hvalue, -⟩ := (h.resting hvisible).unmoved.scroll_frame hvisible
    rw [hplaced] at hvalue
    -- it is brought into a range that it does not leave
    have hsame : (s.next (.frame .idle)).window.pane.scroll = s.window.pane.scroll := by
      apply Offset.ext_along
      intro axis
      have hextent : (s.view .idle).extent s.window.pane.scroll axis = s.extent axis := by
        cases axis with
        | x => rfl
        | y => rfl
      rw [hvalue axis (h.finite hvisible axis), hextent]
      exact Scalar.clamp_of_le (h.isOffset hvisible axis) (h.range hvisible axis)
    obtain ⟨harea, hgiven⟩ := area_frame hvisible .idle
    exact ⟨hsame, by rw [harea, ← hgiven, hsame, h.offset hvisible]⟩
  · -- a hidden document keeps both offsets, whatever they are
    obtain ⟨harea, hsame⟩ := area_frame_of_hidden (by simpa using hvisible) .idle
    exact ⟨hsame, by rw [harea]⟩

/-- **A further frame** changes nothing of the window, and the text still stays where it is. -/
theorem Lasting.frame {s : Session} (h : s.Lasting) :
    (s.next (.frame .idle)).Lasting ∧ (s.next (.frame .idle)).window = s.window ∧
      (s.next (.frame .idle)).area.offset = s.area.offset := by
  obtain ⟨hscroll, harea⟩ := h.scroll_frame
  have hwindow : (s.next (.frame .idle)).window = s.window := by
    rw [window_frame, not_turnsOver_idle, if_neg (by simp), hscroll]
    rfl
  -- the next frame finds the same window, and so the same range
  have hrange : ∀ axis, (s.next (.frame .idle)).range axis = s.range axis := by
    intro axis
    cases axis <;> simp only [Session.range, Session.extent, hwindow, screen_frame]
  refine ⟨⟨?_, ?_, ?_, ?_, ?_, ?_⟩, hwindow, harea⟩
  · rw [drawn_frame, hwindow]
  · rw [hwindow]
    intro hvisible
    exact (h.resting hvisible).frame
  · rw [hwindow, harea]
    exact h.offset
  · rw [hwindow]
    exact h.isOffset
  · rw [hwindow]
    exact h.finite
  · simp only [hwindow, hrange]
    exact h.range

/-- **A text that stays**, for any number of frames. -/
theorem Lasting.after {s : Session} (h : s.Lasting) (n : Nat) :
    (s.after (idles n)).Lasting ∧ (s.after (idles n)).window = s.window ∧
      (s.after (idles n)).area.offset = s.area.offset := by
  induction n with
  | zero => exact ⟨h, rfl, rfl⟩
  | succ n ih =>
    obtain ⟨hlasting, hwindow, hoffset⟩ := ih
    obtain ⟨hnext, hwindow', hoffset'⟩ := hlasting.frame
    rw [after_idles_add]
    exact ⟨hnext, hwindow'.trans hwindow, hoffset'.trans hoffset⟩

/-- A text in its range is left there, and one before it is brought to its beginning: in both cases
the next frame finds it in its range. -/
theorem InRange.le_range_frame {s : Session} (h : s.InRange) (hresting : s.Resting)
    (hvisible : s.window.pane.visible = true) (axis : Axis) :
    (s.next (.frame .idle)).window.pane.scroll.along axis ≠ .infinity ∧
      (s.next (.frame .idle)).window.pane.scroll.along axis ≤
        (s.next (.frame .idle)).range axis := by
  have hvalue := (hresting.unmoved.scroll_frame hvisible).1 axis (h.finite axis)
  cases hpositive : (s.placedArea.offset.along axis).isPositive with
  | true =>
    -- it is where it was, so the next frame finds the range that this one has found
    have hsame := hvalue.trans (Scalar.clamp_of_le (.inr hpositive) (h.le_range axis))
    rw [Session.range, extent_frame .idle hsame, hsame]
    exact ⟨h.finite axis, h.le_range axis⟩
  | false =>
    rw [hvalue, Scalar.clamp_of_not_isPositive hpositive]
    refine ⟨by decide, ?_⟩
    show (_ : Scalar).rank ≤ (_ : Scalar).rank
    rw [Session.range, Scalar.rank_larger_zero, Scalar.rank_zero]
    exact le_max_right _ _

/-- Near the window the range is the same wherever the text is brought to. -/
theorem Resting.le_range_frame_of_near {s : Session} (h : s.Resting)
    (hvisible : s.window.pane.visible = true) (hmodest : IsModest s.window.pane.document)
    (hnear : s.placedArea.offset.IsNear) (axis : Axis) :
    (s.next (.frame .idle)).window.pane.scroll.along axis ≠ .infinity ∧
      (s.next (.frame .idle)).window.pane.scroll.along axis ≤
        (s.next (.frame .idle)).range axis := by
  have hclamp : ∀ axis, (s.next (.frame .idle)).window.pane.scroll.along axis =
      (s.placedArea.offset.along axis).clamp
        (Layout.extent s.screen s.window.pane.document axis).range := by
    intro axis
    rw [(h.unmoved.scroll_frame hvisible).1 axis (hnear.ne_infinity axis)]
    exact ScrollArea.Frame.clamp_extent (f := s.view .idle) hmodest hnear axis
  -- it is still near, and not negative any more: the next frame finds that range as well
  have hnear' := near_clamp hnear hclamp
  have hnonneg : 0 ≤ ((s.next (.frame .idle)).window.pane.scroll.along axis).rank :=
    ((stores_frame hvisible .idle).isOffset axis).rank_nonneg
  refine ⟨hnear'.ne_infinity axis, ?_⟩
  show (_ : Scalar).rank ≤ (_ : Scalar).rank
  rw [Session.range, extent_frame .idle rfl,
    ScrollArea.Frame.extent_eq (f := s.view .idle) hmodest hnear' hnonneg,
    Scalar.rank_larger_zero, hclamp axis]
  exact Scalar.rank_clamp_le _ _

/-- **What the first frame has to find** for the text to stay where it leaves it: a text that
nothing moves, and that is not beyond its range, or else one that is not too large and near the
window. -/
theorem lasting_frame {s : Session}
    (h : s.window.pane.visible = true → s.Resting ∧
      (s.InRange ∨ IsModest s.window.pane.document ∧ s.placedArea.offset.IsNear)) :
    (s.next (.frame .idle)).Lasting := by
  have hvisible := s.visible_idle
  have hrange : s.window.pane.visible = true → ∀ axis,
      (s.next (.frame .idle)).window.pane.scroll.along axis ≠ .infinity ∧
        (s.next (.frame .idle)).window.pane.scroll.along axis ≤
          (s.next (.frame .idle)).range axis := by
    intro hvis
    obtain ⟨hresting, hin | ⟨hmodest, hnear⟩⟩ := h hvis
    · exact hin.le_range_frame hresting hvis
    · exact hresting.le_range_frame_of_near hvis hmodest hnear
  -- the rest holds of every frame that draws the text
  refine ⟨(s.drawn_frame .idle).trans hvisible.symm, ?_, ?_, ?_, ?_, ?_⟩
  · intro hvis
    exact (h (hvisible ▸ hvis)).1.frame
  · intro hvis
    exact (stores_frame (hvisible ▸ hvis) .idle).area
  · intro hvis
    exact (stores_frame (hvisible ▸ hvis) .idle).isOffset
  · intro hvis axis
    exact (hrange (hvisible ▸ hvis) axis).1
  · intro hvis axis
    exact (hrange (hvisible ▸ hvis) axis).2

/-- **After the first frame** a text that nothing moves stays where it is, unless it has been found
beyond its range. If it is not too large, it stays after the second frame in any case. -/
theorem lasting_idles {s : Session} {first : Nat}
    (h : s.window.pane.visible = true → s.Resting ∧
      (s.InRange ∨ IsSmall s.window.pane.document ∧
        (0 < first ∨ s.placedArea.offset.IsNear))) :
    (s.after (idles (first + 1))).Lasting := by
  cases first with
  | zero =>
    -- a single frame has to find it near, or not beyond its range
    refine lasting_frame fun hvisible => (h hvisible).imp_right fun hplace => ?_
    refine hplace.imp_right fun ⟨hsmall, hnear⟩ => ⟨hsmall.isModest, ?_⟩
    exact hnear.resolve_left (lt_irrefl 0)
  | succ more =>
    have hsecond : (s.after (idles 2)).Lasting := by
      by_cases hin : s.window.pane.visible = true → s.InRange
      · exact (lasting_frame fun hvisible => ⟨(h hvisible).1, .inl (hin hvisible)⟩).frame.1
      · -- the first frame brings it near the window
        push Not at hin
        obtain ⟨hvisible, hbeyond⟩ := hin
        obtain ⟨hresting, hplace⟩ := h hvisible
        obtain ⟨hsmall, -⟩ := hplace.resolve_left hbeyond
        have hnear := near_frame hvisible hsmall .idle
        have hboth : (s.next (.frame .idle)).IsNear :=
          ⟨hnear, by rw [(stores_frame hvisible .idle).area]; exact hnear⟩
        refine lasting_frame (s := s.next (.frame .idle)) fun _ =>
          ⟨hresting.frame, .inr ⟨?_, hboth.placedArea⟩⟩
        rw [(s.sameTexts_next (.frame .idle)).document]
        exact hsmall.isModest
    have hsum : more + 1 + 1 = 2 + more := by omega
    rw [hsum, after_idles_add]
    exact (hsecond.after more).1

/-! ## The focus -/

/-- Without input the focus stays with what has it, if that is still drawn. -/
theorem Still.focus_idle {s : Session} (h : s.Still) :
    (s.next (.frame .idle)).focus =
      ⟨s.focus.holder.filter (· ∈ (s.next (.frame .idle)).drawn.map (·.name)), false⟩ := by
  obtain ⟨-, hstill, hholder⟩ := h.frame .idle rfl (by simp [Input.key?]) (by simp [Input.key?])
  have hnames : (s.next (.frame .idle)).drawn.map (·.name) =
      s.paneNames .idle ++ [.checkbox s.window.pane.visible] := s.names_layOut .idle
  rw [hnames, ← hholder, ← hstill]

theorem Still.after_idles {s : Session} (h : s.Still) (n : Nat) :
    (s.after (idles n)).Still := by
  refine h.after fun input hinput => ?_
  rw [Moment.frame.inj (List.eq_of_mem_replicate hinput)]
  simp [Input.key?]

/-- What has the focus is in the pane, or it is the checkbox as it is drawn now. -/
def HoldsDrawn (s : Session) : Prop :=
  ∀ name, s.focus.holder = some name → name = .checkbox s.window.pane.visible ∨
    name.isCheckbox = false ∧ s.window.pane.visible = true

/-- It is so after a frame without input. -/
theorem Still.holdsDrawn_frame {s : Session} (h : s.Still) :
    (s.next (.frame .idle)).HoldsDrawn := by
  intro name hname
  obtain ⟨-, -, hholder⟩ := h.frame .idle rfl (by simp [Input.key?]) (by simp [Input.key?])
  rw [hholder] at hname
  have hdrawn : name ∈ s.paneNames .idle ++ [.checkbox s.window.pane.visible] := by
    simpa using (Option.filter_eq_some_iff.mp hname).2
  rw [visible_idle]
  rcases List.mem_append.mp hdrawn with hpane | hbox
  · -- only a pane that is to be seen has something in it, and that is no checkbox
    right
    constructor
    · cases hkind : name with
      | checkbox below => exact absurd hkind (ne_checkbox_of_mem_paneNames hpane below)
      | area | text | bar _ => rfl
    · by_contra hhidden
      rw [paneNames_of_hidden (by simpa using hhidden)] at hpane
      contradiction
  · exact .inl (List.mem_singleton.mp hbox)

/-- It stays with what is drawn again. -/
theorem Still.focus_of_drawn {s : Session} (h : s.Still)
    (hdrawn : ∀ name, s.focus.holder = some name →
      name ∈ (s.next (.frame .idle)).drawn.map (·.name)) :
    (s.next (.frame .idle)).focus = s.focus := by
  have hpassing : s.focus.passing = false := h
  rw [h.focus_idle, ← hpassing]
  cases hholder : s.focus.holder with
  | none => rw [Option.filter_none, ← hholder]
  | some name => rw [Option.filter_some, if_pos (by simpa using hdrawn name hholder), ← hholder]

/-- What is not drawn again leaves it to nothing. -/
theorem Still.focus_of_gone {s : Session} (h : s.Still) {name : Name}
    (hname : s.focus.holder = some name)
    (hgone : name ∉ (s.next (.frame .idle)).drawn.map (·.name)) :
    (s.next (.frame .idle)).focus = ⟨none, false⟩ := by
  rw [h.focus_idle, hname, Option.filter_some, if_neg (by simpa using hgone)]

/-- The checkbox is drawn again, so that it does not leave it. -/
theorem HoldsDrawn.of_gone {s : Session} (h : s.HoldsDrawn) {name : Name}
    (hname : s.focus.holder = some name)
    (hgone : name ∉ (s.next (.frame .idle)).drawn.map (·.name)) :
    name.isCheckbox = false ∧ s.window.pane.visible = true := by
  refine (h name hname).resolve_left fun hbox => hgone ?_
  rw [hbox]
  show _ ∈ (s.layOut .idle).drawn.map (·.name)
  rw [names_layOut]
  exact List.mem_append_right _ List.mem_cons_self

/-- The focus is with something in the pane that one of so many frames without input does not
draw. -/
structure LosesFocus (s : Session) (n : Nat) : Prop where
  visible : s.window.pane.visible = true
  gone : ∃ name, s.focus.holder = some name ∧ name.isCheckbox = false ∧
    ∃ f ∈ s.frames (idles n), name ∉ (f.1.next (.frame f.2)).drawn.map (·.name)

/-- It is still lost in the end if it stays over the first of these frames. -/
theorem LosesFocus.of_frame {s : Session} {n : Nat} (h : (s.next (.frame .idle)).LosesFocus n)
    (hfocus : (s.next (.frame .idle)).focus = s.focus) : s.LosesFocus (n + 1) := by
  obtain ⟨hvisible, name, hname, hother, f, hf, hgone⟩ := h
  rw [visible_idle] at hvisible
  rw [hfocus] at hname
  exact ⟨hvisible, name, hname, hother, f, List.mem_cons_of_mem _ hf, hgone⟩

/-- **The only way in which the focus is lost** in frames without input. -/
theorem Still.focus_idles {s : Session} (h : s.Still) (hheld : s.HoldsDrawn) (n : Nat) :
    (s.after (idles n)).focus = s.focus ∨
      (s.after (idles n)).focus = ⟨none, false⟩ ∧ s.LosesFocus n := by
  induction n generalizing s with
  | zero => exact .inl rfl
  | succ n ih =>
    have hlater := ih (s := s.next (.frame .idle)) (h.after_idles 1) h.holdsDrawn_frame
    by_cases hlost : ∃ name, s.focus.holder = some name ∧
        name ∉ (s.next (.frame .idle)).drawn.map (·.name)
    · -- this frame does not draw it, and nothing gets it later
      obtain ⟨name, hname, hgone⟩ := hlost
      have hafter : ((s.next (.frame .idle)).after (idles n)).focus = ⟨none, false⟩ :=
        hlater.elim (·.trans (h.focus_of_gone hname hgone)) And.left
      obtain ⟨hother, hvisible⟩ := hheld.of_gone hname hgone
      exact .inr ⟨hafter, hvisible, name, hname, hother, (s, .idle), List.mem_cons_self, hgone⟩
    · -- it stays, and may be lost later
      push Not at hlost
      have hstays := h.focus_of_drawn hlost
      exact hlater.imp (·.trans hstays) (And.imp_right (·.of_frame hstays))

/-! ## After any run -/

/-- Only steps of their own do something to the window. -/
theorem act_mem_steps {steps : List Step} {action : Window.Action}
    (h : .act action ∈ steps.flatMap Step.moments) : .act action ∈ steps := by
  obtain ⟨step, hstep, hmoment⟩ := List.mem_flatMap.mp h
  cases step with
  | act other =>
    obtain rfl : action = other := Moment.act.inj (List.mem_singleton.mp hmoment)
    exact hstep
  | resize screen => simp [Step.moments] at hmoment
  | gesture g => simp [Step.moments] at hmoment

/-- The window of `s` has been drawn anew, which ends in `t`: it is remembered as it is, and nothing
of it is changed but how far the document is scrolled. -/
structure Redrawn (label : String) (s t : Session) : Prop where
  window : t.window = s.window.scrollTo t.window.pane.scroll
  paneDrawn : t.paneDrawn = s.window.pane.visible
  box : t.box = some (Layout.checkbox s.screen s.window.pane.visible label)

/-- Some more frames change nothing of this, and leave the focus where it is, or to nothing. -/
structure Repeated (t : Session) (more : Nat) (u : Session) : Prop where
  window : u.window = t.window.scrollTo u.window.pane.scroll
  paneDrawn : u.paneDrawn = t.paneDrawn
  box : u.box = t.box
  focus : u.focus = t.focus ∨ u.focus = ⟨none, false⟩ ∧ t.LosesFocus more

/-- After these steps the first frames without input, `first` after one of them, leave the text
where it stays, if it is to be seen: nothing moves it, and it is found within its range; or else it
is not too large, and near the window by the last of these frames, as no far offset has been
recorded or there are two of them at least. -/
def Settles (s : Session) (steps : List Step) (first : Nat) : Prop :=
  s.window.pane.visible = true → s.Resting ∧
    (s.InRange ∨ IsSmall s.window.pane.document ∧
      (0 < first ∨ ∀ offset, .act (.scroll offset) ∈ steps → offset.IsNear))

/-- **The first frames** leave the text where it stays, from a session in which it was near. -/
theorem Settles.lasting {start : Session} (hnear : start.IsNear) {steps : List Step} {first : Nat}
    (h : (start.after (steps.flatMap Step.moments)).Settles steps first) :
    ((start.after (steps.flatMap Step.moments)).after (idles (first + 1))).Lasting := by
  refine lasting_idles fun hvisible => (h hvisible).imp_right fun hplace => ?_
  refine hplace.imp_right fun ⟨hsmall, hrecorded⟩ => ⟨hsmall, hrecorded.imp_right fun hfar => ?_⟩
  rw [(start.sameTexts_after _).document] at hsmall
  exact (hnear.after hsmall fun offset hoffset => hfar offset (act_mem_steps hoffset)).placedArea

/-- **Drawing settles.** Take any state of a new window, and draw some frames without input, at
least one, and then some more. None of them fails or logs anything. After the first ones it is
remembered whether the document is to be seen, and where the checkbox is drawn for that; and the
further ones change neither this nor anything of the window but how far the document is scrolled.
The focus stays where it is, or it is lost as something in the pane that had it is drawn no more.

Nor do they change how far it is scrolled, or the offset of the area on the screen, if the
document is hidden. If it is to be seen, they do not as long as nothing moves the text, that is,
as long as it does not coast or go to a goal and the pointer has no hold of a bar, and the first
frame does not find it beyond its range; or, wherever that is, if the document is not too large
and either no far offset has been recorded or the first frames are two at least. Nothing moves
the text if no press has ever reached for it. -/
theorem frames_settle (settings : Settings) (document : Document) (screen : Screen)
    (steps : List Step) (first more : Nat) :
    let start := (build settings document screen).1
    ∃ s log t u, start.run steps = .ok (s, log) ∧
      s.run (waits (first + 1)) = .ok (t, []) ∧ t.run (waits more) = .ok (u, []) ∧
      Redrawn settings.label s t ∧ t.Repeated more u ∧
      (s.Settles steps first → u.window = t.window ∧ u.area.offset = t.area.offset) ∧
      ((∀ f ∈ start.frames (steps.flatMap Step.moments), f.1.reaches f.2 = false) →
        s.Resting) := by
  intro start
  set s := start.after (steps.flatMap Step.moments)
  set t := s.after (idles (first + 1))
  -- both the first frames and all of them leave the memory of a frame that begins in `s`
  obtain ⟨hdrawn, hbox⟩ := s.recalls_idles first
  obtain ⟨hdrawn', hbox'⟩ := s.recalls_idles (first + more)
  have hsum : first + more + 1 = first + 1 + more := by omega
  rw [hsum, after_idles_add] at hdrawn' hbox'
  refine ⟨s, _, t, t.after (idles more), start.advanceAll_eq_log _, run_waits _ _, run_waits _ _,
    ⟨(s.window_idles (first + 1)).1, hdrawn, ?_⟩,
    ⟨(t.window_idles more).1, hdrawn'.trans hdrawn.symm, hbox'.trans hbox.symm, ?_⟩, ?_, ?_⟩
  · -- the label is still that of the settings
    rw [hbox, (start.sameTexts_after _).label]
    rfl
  · -- a run leaves nothing that passes the focus on, so that it can only stay or be lost
    have hstill : s.Still := still_after (s := start) (fun _ => rfl) rfl steps
    refine (hstill.after_idles (first + 1)).focus_idles ?_ more
    rw [after_idles_add]
    exact (hstill.after_idles first).holdsDrawn_frame
  · exact fun h => ((h.lasting (isNear_build settings document screen)).after more).2
  · exact fun hreach => ((atRest_build settings document screen).after hreach).resting

/-- An offset that is recorded beyond the end is brought back by the first frame, and again by the
one after a resize; no other frame does anything. -/
theorem frames_settle_resized :
    let start := (build .standard ⟨"a\nb\nc\nd\ne\nf\ng\nh\ni\nj"⟩ ⟨320, 110⟩).1
    let steps : List Step := [.act (.scroll ⟨.zero, .ofNat 100⟩), .act .click, .gesture .wait,
      .resize ⟨320, 130⟩]
    ∃ s log t u, start.run steps = .ok (s, log) ∧ s.window.pane.scroll = ⟨.zero, .ofNat 77⟩ ∧
      s.run (waits 1) = .ok (t, []) ∧ t.window.pane.scroll = ⟨.zero, .ofNat 57⟩ ∧
      t.run (waits 1000) = .ok (u, []) ∧ u.window = t.window ∧ u.area.offset = t.area.offset ∧
      u.focus = t.focus := by
  intro start steps
  obtain ⟨s, log, t, u, hrun, hfirst, hmore, -, hrepeated, hsettled, hresting⟩ :=
    frames_settle .standard ⟨"a\nb\nc\nd\ne\nf\ng\nh\ni\nj"⟩ ⟨320, 110⟩ steps 0 1000
  obtain rfl : start.after (steps.flatMap Step.moments) = s :=
    congrArg Prod.fst (Except.ok.inj ((start.advanceAll_eq_log _).symm.trans hrun))
  obtain rfl : (start.after (steps.flatMap Step.moments)).after (idles 1) = t :=
    congrArg Prod.fst (Except.ok.inj ((run_waits _ 1).symm.trans hfirst))
  have hrest := hresting (by decide +kernel)
  obtain ⟨hwindow, harea⟩ := hsettled fun _ =>
    ⟨hrest, .inr ⟨by decide +kernel, .inr (by simp [steps]; decide +kernel)⟩⟩
  refine ⟨_, log, _, u, hrun, by decide +kernel, hfirst, by decide +kernel, hmore, hwindow, harea,
    hrepeated.focus.resolve_right ?_⟩
  -- nothing has the focus
  rintro ⟨-, -, name, hname, -⟩
  have hnone : ((start.after (steps.flatMap Step.moments)).after (idles 1)).focus.holder = none := by
    decide +kernel
  exact absurd (hname.symm.trans hnone) (by simp)

/-- Further frames are not always like the first one. A text that is recorded to be scrolled very
far is brought back in two frames; a text that has been thrown coasts on; one whose bar is held
is put at two places in turn; and a bar that has the focus loses it when it has faded out. -/
theorem frames_unsettled :
    let run (steps : List Step) (n : Nat) :=
      ((build .standard ⟨"a\nb\nc\nd\ne\nf\ng\nh\ni\nj"⟩ ⟨320, 110⟩).1.run
        (steps ++ waits n)).toOption.map fun r => (r.1.window.pane.scroll.y, r.1.focus.holder)
    let press (x y : Nat) : Step := .gesture (.press (.point ⟨.ofNat x, .ofNat y⟩))
    let release (x y : Nat) : Step := .gesture (.release (.point ⟨.ofNat x, .ofNat y⟩))
    let far : List Step := [.act (.scroll ⟨.zero, .ofNat 536870912⟩), .act .click]
    let reveal : List Step := [.act .click, .gesture .wait]
    let thrown := reveal ++ [press 200 60, .gesture .wait, release 200 40]
    let held := reveal ++ [press 316 54]
    let faded := reveal ++ [.gesture (.key .tab), .gesture (.key .tab), .resize ⟨320, 400⟩]
    (run far 1 = some (.ofNat 87, none) ∧ run far 2 = some (.ofNat 77, none)) ∧
    (run thrown 1 = some (.ofRat (25 / 2), none) ∧ run thrown 2 = some (.ofNat 15, none)) ∧
    (run held 1 = some (.ofRat (15209737 / 262144), none) ∧
      run held 2 = some (.ofRat (7604869 / 131072), none)) ∧
    (run faded 1 = some (.zero, some (.bar .y)) ∧ run faded 3 = some (.zero, none)) := by
  decide +kernel

end Session

end Reveal
