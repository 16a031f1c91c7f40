import Reveal.Proofs.Unmoved

/-!
# Reveal — how far a document stays scrolled

Two places keep how far the document is scrolled: the window, and the area on the screen.
The first frame that shows the document again puts the window's offset into the area, and
every frame that shows it gives the area's offset back, brought into its range. After
such a frame the two are the same (`InPlace`), and stay so while the document is hidden
and shown and the screen is resized, whatever else happens to the window, as long as the
pointer does not move the text (`stirs`).

Each frame that draws the text then takes the smaller of the offset and the range that
it finds. Taking smaller ones again and again comes to taking the smallest: neither the
order of the frames nor the hiding and showing between them matters.

## Results

* `InPlace.frame`  — one frame.
* `InPlace.after`  — a run, by the ranges that its frames find.
* `InPlace.after_points` — the same in points, as long as nothing has to be rounded.
* `scroll_kept`    — all of this for what follows a frame.
-/

namespace Reveal

namespace Session

/-! ## One frame -/

/-- The extents of the pane and of the text in a frame that begins in this session. -/
def extent (s : Session) : Axis → Extent
  | .x =>
    ⟨Layout.paneWidth s.screen.width,
      .ofRat (Layout.textWidth s.window.pane.document s.window.pane.scroll.x)⟩
  | .y =>
    ⟨Layout.paneHeight s.screen.height,
      .ofNat (Layout.textHeight s.window.pane.document s.window.pane.scroll.y)⟩

/-- How far the text can be scrolled in a frame that begins in this session. -/
def range (s : Session) (axis : Axis) : Scalar := (s.extent axis).range.larger .zero

/-- The text is at rest where the window has it. -/
structure InPlace (s : Session) : Prop where
  rests : s.area.Rests
  offset : s.area.offset = s.window.pane.scroll
  isOffset : ∀ axis, (s.window.pane.scroll.along axis).IsOffset
  finite : ∀ axis, (s.window.pane.scroll.along axis).IsFinite

/-- Whether the last frame has drawn the text or not, the next one will draw it where the
window has it. -/
theorem InPlace.placedArea {s : Session} (h : s.InPlace) :
    s.placedArea.offset = s.window.pane.scroll := by
  unfold Session.placedArea
  split
  · exact h.offset
  · rfl

/-- A range is never a negative zero: numbers are whole multiples of the smallest one. -/
theorem range_eq_zero {e : Extent} (h : e.range.rank = 0) : e.range = .zero := by
  obtain ⟨k, hk⟩ := Scalar.exists_steps e.text
  obtain ⟨j, hj⟩ := Scalar.exists_steps (Scalar.ofNat e.area)
  refine Scalar.ofRat_eq_zero (k := k - j) ?_ h
  rw [hk, hj]
  push_cast
  ring

/-- A range is never infinite: it is not above the extent of the text, which counts as nothing if
it is. -/
theorem exists_range_le (e : Extent) :
    ∃ a : Scalar, a.IsFinite ∧ 0 ≤ a.rank ∧ e.range.rank ≤ a.rank := by
  have harea := Scalar.toRat_ofNat_nonneg e.area
  by_cases htext : e.text.IsFinite ∧ 0 < e.text.rank
  · refine ⟨e.text, htext.1, htext.2.le, ?_⟩
    have hle : e.text.toRat - (Scalar.ofNat e.area).toRat ≤ e.text.toRat := by linarith
    calc e.range.rank ≤ (Scalar.ofRat e.text.toRat).rank := Scalar.rank_ofRat_le hle
      _ = e.text.rank := by rw [Scalar.ofRat_toRat htext.1 htext.2]
  · refine ⟨.zero, show Scalar.zero.magnitude < Scalar.infinityMagnitude by decide, le_rfl, ?_⟩
    have hle : e.text.toRat - (Scalar.ofNat e.area).toRat ≤ 0 := by
      linarith [Scalar.toRat_nonpos htext]
    exact Scalar.rank_ofRat_le (r := 0) hle

/-- What is brought into a range is not infinite either. -/
theorem isFinite_clamp_range (v : Scalar) (e : Extent) : (v.clamp e.range).IsFinite := by
  obtain ⟨a, hfinite, hnonneg, hle⟩ := exists_range_le e
  refine hfinite.of_rank_le (Scalar.isOffset_clamp v range_eq_zero).rank_nonneg ?_
  exact (Scalar.rank_clamp_le v e.range).trans (max_le hle hnonneg)

/-- After a frame that draws the text, whatever it does to it, the offset is what is left
of some number within the range. -/
theorem exists_clamp_frame {s : Session} (hvisible : s.window.pane.visible = true)
    (input : Input) :
    ∃ v w : Scalar, (s.next (.frame input)).window.pane.scroll =
      ⟨v.clamp (Extent.range ⟨Layout.paneWidth s.screen.width,
          .ofRat (Layout.textWidth s.window.pane.document s.placedArea.offset.x)⟩),
        w.clamp (Extent.range ⟨Layout.paneHeight s.screen.height,
          .ofNat (Layout.textHeight s.window.pane.document s.placedArea.offset.y)⟩)⟩ := by
  rw [(area_frame hvisible input).2]
  exact ScrollArea.exists_draw_offset _ _

/-- A frame that draws a text puts it where the window has it: if it leaves it at rest, it
is in place. -/
theorem inPlace_frame {s : Session} (hvisible : s.window.pane.visible = true) {input : Input}
    (h : (s.next (.frame input)).area.Rests) : (s.next (.frame input)).InPlace := by
  obtain ⟨harea, hscroll⟩ := area_frame hvisible input
  obtain ⟨v, w, hclamp⟩ := exists_clamp_frame hvisible input
  refine ⟨h, by rw [harea, hscroll], ?_, ?_⟩
  · rw [hclamp]
    intro axis
    cases axis with
    | x => exact Scalar.isOffset_clamp v range_eq_zero
    | y => exact Scalar.isOffset_clamp w range_eq_zero
  · rw [hclamp]
    intro axis
    cases axis with
    | x => exact isFinite_clamp_range v _
    | y => exact isFinite_clamp_range w _

/-- **One frame** in which the pointer does not stir the text. If the text is drawn,
the range is taken where it is smaller than the offset; if not, nothing happens to it. -/
theorem InPlace.frame {s : Session} (h : s.InPlace) {input : Input}
    (hstill : s.stirs input = false) :
    (s.next (.frame input)).InPlace ∧
    ∀ axis, (s.next (.frame input)).window.pane.scroll.along axis =
      if s.window.pane.visible then (s.window.pane.scroll.along axis).smaller (s.range axis)
      else s.window.pane.scroll.along axis := by
  have hrest := rests_frame h.rests hstill
  by_cases hvisible : s.window.pane.visible = true
  · refine ⟨inPlace_frame hvisible hrest, ?_⟩
    obtain ⟨hunmoved, -⟩ := unmoved_of_stirs h.rests hvisible hstill
    obtain ⟨hvalue, -⟩ := hunmoved.scroll_frame hvisible
    rw [h.placedArea] at hvalue
    -- an offset is brought into a range by taking the smaller of both
    intro axis
    have hfinite : s.window.pane.scroll.along axis ≠ .infinity := by
      intro heq
      have hinfinite := h.finite axis
      rw [heq] at hinfinite
      exact absurd hinfinite (show ¬ Scalar.infinity.magnitude < Scalar.infinityMagnitude by decide)
    rw [if_pos hvisible, hvalue axis hfinite, range, ← Scalar.clamp_eq (h.isOffset axis)]
    cases axis with
    | x => rfl
    | y => rfl
  · have hhidden : s.window.pane.visible = false := by simpa using hvisible
    obtain ⟨harea, hscroll⟩ := area_frame_of_hidden hhidden input
    refine ⟨⟨hrest, ?_, ?_, ?_⟩, ?_⟩
    · rw [harea, hscroll]
      exact h.offset
    · rw [hscroll]
      exact h.isOffset
    · rw [hscroll]
      exact h.finite
    · intro axis
      rw [if_neg hvisible, hscroll]

/-! ## A run -/

/-- The sessions in which those frames of a run begin that draw the text. -/
def drawing (s : Session) (moments : List Moment) : List Session :=
  ((s.frames moments).map Prod.fst).filter (·.window.pane.visible)

theorem drawing_frame (s : Session) (input : Input) (later : List Moment) :
    s.drawing (.frame input :: later) =
      if s.window.pane.visible then s :: (s.next (.frame input)).drawing later
      else (s.next (.frame input)).drawing later := by
  simp only [drawing, frames, List.map_cons, List.filter_cons]

/-- A moment without a frame leaves a text in place, unless it is one that scrolls. -/
theorem InPlace.act {s : Session} (h : s.InPlace) {action : Window.Action}
    (haction : ∀ offset, action ≠ .scroll offset) :
    (s.next (.act action)).InPlace ∧
      (s.next (.act action)).window.pane.scroll = s.window.pane.scroll := by
  have hscroll : (s.next (.act action)).window.pane.scroll = s.window.pane.scroll :=
    s.window.scroll_next haction
  refine ⟨⟨h.rests, ?_, ?_, ?_⟩, hscroll⟩
  · rw [hscroll]
    exact h.offset
  · rw [hscroll]
    exact h.isOffset
  · rw [hscroll]
    exact h.finite

/-- **A run** in which the pointer does not stir the text takes the smallest of the
offset and of the limits of the frames that draw it. `limit` may be any that is as good
as the range, for a text in place that is scrolled no further than up to `bound`. -/
theorem InPlace.after {axis : Axis} {bound : Int} {limit : Session → Scalar} {s : Session}
    (h : s.InPlace) (hbound : (s.window.pane.scroll.along axis).rank ≤ bound)
    {later : List Moment} (hscroll : ∀ offset, .act (.scroll offset) ∉ later)
    (hstill : ∀ f ∈ s.frames later, f.1.stirs f.2 = false)
    (hlimit : ∀ f ∈ s.drawing later, f.InPlace →
      (f.window.pane.scroll.along axis).rank ≤ bound →
      (f.window.pane.scroll.along axis).smaller (f.range axis) =
        (f.window.pane.scroll.along axis).smaller (limit f)) :
    (s.after later).window.pane.scroll.along axis =
      ((s.drawing later).map limit).foldl Scalar.smaller (s.window.pane.scroll.along axis) := by
  induction later generalizing s with
  | nil => rfl
  | cons m later ih =>
    have hlater : ∀ offset, .act (.scroll offset) ∉ later :=
      fun offset hmem => hscroll offset (List.mem_cons_of_mem m hmem)
    show ((s.next m).after later).window.pane.scroll.along axis = _
    cases m with
    | act action =>
      have haction : ∀ offset, action ≠ .scroll offset := by
        rintro offset rfl
        exact hscroll offset List.mem_cons_self
      obtain ⟨hnext, hsame⟩ := h.act haction
      rw [ih hnext (by rw [hsame]; exact hbound) hlater hstill hlimit, hsame]
      rfl
    | resize screen =>
      have hnext : (s.next (.resize screen)).InPlace := ⟨h.rests, h.offset, h.isOffset, h.finite⟩
      exact ih hnext hbound hlater hstill hlimit
    | frame input =>
      obtain ⟨hnext, hvalue⟩ := h.frame (hstill (s, input) List.mem_cons_self)
      have hstill' : ∀ f ∈ (s.next (.frame input)).frames later, f.1.stirs f.2 = false :=
        fun f hf => hstill f (List.mem_cons_of_mem _ hf)
      rw [drawing_frame] at hlimit ⊢
      -- a frame that draws the text puts its limit in front, the others leave all as it is
      by_cases hvisible : s.window.pane.visible = true
      · rw [if_pos hvisible] at hlimit ⊢
        have hvalue : (s.next (.frame input)).window.pane.scroll.along axis =
            (s.window.pane.scroll.along axis).smaller (limit s) := by
          rw [hvalue axis, if_pos hvisible, hlimit s List.mem_cons_self h hbound]
        -- the offset only goes down, so what bounds it still does
        have hbound' : ((s.next (.frame input)).window.pane.scroll.along axis).rank ≤ bound := by
          rw [hvalue]
          exact (Scalar.rank_smaller_le _ _).trans hbound
        rw [ih hnext hbound' hlater hstill' fun f hf => hlimit f (List.mem_cons_of_mem _ hf),
          hvalue]
        rfl
      · rw [if_neg hvisible] at hlimit ⊢
        have hvalue : (s.next (.frame input)).window.pane.scroll.along axis =
            s.window.pane.scroll.along axis := by
          rw [hvalue axis, if_neg hvisible]
        rw [ih hnext (by rw [hvalue]; exact hbound) hlater hstill' hlimit, hvalue]

/-- Limits that are not below an offset leave it as it is. -/
theorem foldl_smaller_of_le {v : Scalar} {limits : List Scalar} (h : ∀ w ∈ limits, v ≤ w) :
    limits.foldl Scalar.smaller v = v := by
  induction limits with
  | nil => rfl
  | cons w limits ih =>
    have hw : v.rank ≤ w.rank := h w List.mem_cons_self
    rw [List.foldl_cons, Scalar.smaller, if_neg (by omega)]
    exact ih fun u hu => h u (List.mem_cons_of_mem w hu)

/-! ## The range in points -/

/-- The range is at most the extent of the text. -/
theorem rank_range_le {e : Extent} {n : Nat} (h : e.text.toRat ≤ n) :
    e.range.rank ≤ (Scalar.ofNat n).rank := by
  have harea := Scalar.toRat_ofNat_nonneg e.area
  rw [← Scalar.ofRat_natCast n]
  apply Scalar.rank_ofRat_le
  show e.text.toRat - (Scalar.ofNat e.area).toRat ≤ _
  linarith

/-- After a frame that draws the text it is scrolled by at most twice its height, wherever
it was before. -/
theorem rank_scroll_frame {s : Session} (hvisible : s.window.pane.visible = true) (input : Input)
    (hlines : Layout.linesHeight s.window.pane.document ≤ 2 ^ 24) :
    (s.next (.frame input)).window.pane.scroll.y.rank ≤
      (Scalar.ofNat (2 * Layout.linesHeight s.window.pane.document)).rank := by
  obtain ⟨v, w, hclamp⟩ := exists_clamp_frame hvisible input
  have hheight := Layout.textHeight_le s.placedArea.offset.y hlines
  rw [hclamp]
  generalize Layout.textHeight s.window.pane.document s.placedArea.offset.y = text at hheight ⊢
  generalize Layout.paneHeight s.screen.height = area
  generalize Layout.linesHeight s.window.pane.document = lines at hlines hheight ⊢
  obtain ⟨hfinite, hvalue⟩ := Scalar.toRat_ofNat_double hlines
  have htext : (Scalar.ofNat text).toRat ≤ 2 * lines := by
    have hrank := Scalar.rank_ofNat_le hheight
    have := Scalar.toRat_le_toRat (hfinite.of_rank_le (Scalar.rank_ofNat_nonneg _) hrank)
      hfinite hrank
    rw [hvalue] at this
    exact this
  -- the range is at most the height of the text, which can be stored if it is doubled
  have hrange : (Extent.range ⟨area, .ofNat text⟩).rank ≤ (Scalar.ofNat (2 * lines)).rank :=
    rank_range_le (by push_cast; exact htext)
  have hnonneg := Scalar.rank_ofNat_nonneg (2 * lines)
  exact (Scalar.rank_clamp_le w _).trans (max_le hrange hnonneg)

/-- Where the end of the text is rounded, the text is so high, and scrolled by so little,
that the range is out of reach. -/
theorem scroll_le_range {s : Session} (h : s.InPlace)
    (hlines : Layout.linesHeight s.window.pane.document ≤ 2 ^ 24)
    (hheight : s.screen.height ≤ 2 ^ 24) (hfinite : s.window.pane.scroll.y.IsFinite)
    (hend : 2 ^ 24 < Layout.textStart s.window.pane.scroll.y +
      Layout.linesHeight s.window.pane.document) :
    s.window.pane.scroll.y.rank ≤ (s.range .y).rank ∧
    s.window.pane.scroll.y.rank ≤
      (Scalar.ofNat (Layout.depth s.window.pane.document s.screen.height)).rank := by
  have hpane := Layout.paneHeight_eq hheight
  have hnonneg : 0 ≤ s.window.pane.scroll.y.toRat := (h.isOffset .y).toRat_nonneg
  have hfew : s.window.pane.scroll.y.rank ≤ (Scalar.ofNat 8).rank := by
    -- scrolled further, the text would begin above the screen
    by_contra hfar
    have hfar : (Scalar.ofNat 8).rank ≤ s.window.pane.scroll.y.rank := by omega
    obtain ⟨hfinite₈, hvalue⟩ := Scalar.toRat_ofNat (n := 8) (by norm_num)
    have hle := Scalar.toRat_le_toRat hfinite₈ hfinite hfar
    rw [hvalue] at hle
    have := Layout.textStart_le (k := 8) le_rfl hle
    omega
  have htext := Layout.le_textHeight hnonneg hlines (by omega)
  have hstart := Layout.textStart_le (k := 0) (Nat.zero_le 8) (by exact_mod_cast hnonneg)
  have htext' := Layout.textHeight_le s.window.pane.scroll.y hlines
  refine ⟨hfew.trans ?_, hfew.trans (Scalar.rank_ofNat_le ?_)⟩
  · have harea := (Scalar.toRat_ofNat (n := Layout.paneHeight s.screen.height) (by
      unfold Layout.innerHeight at hpane
      omega)).2
    have hbig : ((2 ^ 24 - 8 : Nat) : ℚ) ≤
        (Scalar.ofNat (Layout.textHeight s.window.pane.document s.window.pane.scroll.y)).toRat := by
      obtain ⟨hfinite₁, hvalue₁⟩ := Scalar.toRat_ofNat (n := 2 ^ 24 - 8) (by norm_num)
      obtain ⟨hfinite₂, -⟩ := Scalar.toRat_ofNat_double hlines
      have := Scalar.toRat_le_toRat hfinite₁
        (hfinite₂.of_rank_le (Scalar.rank_ofNat_nonneg _) (Scalar.rank_ofNat_le htext'))
        (Scalar.rank_ofNat_le (by omega))
      rw [hvalue₁] at this
      exact this
    have hrange : (Scalar.ofNat 8).rank ≤ (s.extent .y).range.rank := by
      rw [← Scalar.ofRat_natCast 8]
      apply Scalar.rank_ofRat_le
      show _ ≤ (Scalar.ofNat _).toRat - (Scalar.ofNat (Layout.paneHeight s.screen.height)).toRat
      have hsmall : (Layout.paneHeight s.screen.height : ℚ) ≤ ((2 ^ 24 - 37 : Nat) : ℚ) := by
        unfold Layout.innerHeight at hpane
        exact_mod_cast (by omega : Layout.paneHeight s.screen.height ≤ 2 ^ 24 - 37)
      rw [harea]
      push_cast at hbig hsmall ⊢
      linarith
    exact hrange.trans (Scalar.rank_le_rank_larger _ _)
  · unfold Layout.depth
    unfold Layout.innerHeight at hpane ⊢
    omega

/-- **The range in points.** As far as the offset goes, the range that a frame finds might
as well be computed by exact sums. -/
theorem smaller_range {s : Session} (h : s.InPlace)
    (hlines : Layout.linesHeight s.window.pane.document ≤ 2 ^ 24)
    (hheight : s.screen.height ≤ 2 ^ 24)
    (hbound : s.window.pane.scroll.y.rank ≤
      (Scalar.ofNat (2 * Layout.linesHeight s.window.pane.document)).rank) :
    s.window.pane.scroll.y.smaller (s.range .y) =
      s.window.pane.scroll.y.smaller
        (.ofNat (Layout.depth s.window.pane.document s.screen.height)) := by
  have hpane := Layout.paneHeight_eq hheight
  obtain ⟨hfinite₂, hvalue₂⟩ := Scalar.toRat_ofNat_double hlines
  have hfinite := hfinite₂.of_rank_le (h.isOffset .y).rank_nonneg hbound
  have hle := Scalar.toRat_le_toRat hfinite hfinite₂ hbound
  rw [hvalue₂] at hle
  rcases le_or_gt (Layout.textStart s.window.pane.scroll.y +
    Layout.linesHeight s.window.pane.document : Int) (2 ^ 24) with hend | hend
  · -- nothing is rounded, and the range is the depth itself
    have htext := Layout.textHeight_eq (h.isOffset .y).toRat_nonneg hle hlines hend
    have harea : Layout.paneHeight s.screen.height ≤ 2 ^ 24 := by
      unfold Layout.innerHeight at hpane
      omega
    have hdepth : Layout.depth s.window.pane.document s.screen.height =
        Layout.linesHeight s.window.pane.document - Layout.paneHeight s.screen.height := by
      unfold Layout.depth
      omega
    have hrange : s.range .y =
        .ofNat (Layout.depth s.window.pane.document s.screen.height) := by
      rw [hdepth, ← Scalar.larger_sub_ofNat hlines harea, ← htext]
      rfl
    rw [hrange]
  · -- both limits are out of reach, so it does not matter that they differ
    obtain ⟨hrange, hdepth⟩ := scroll_le_range h hlines hheight hfinite hend
    unfold Scalar.smaller
    rw [if_neg (by omega), if_neg (by omega)]

theorem document_drawing {s f : Session} {moments : List Moment} (h : f ∈ s.drawing moments) :
    f.window.pane.document = s.window.pane.document := by
  obtain ⟨g, hg, rfl⟩ := List.mem_map.mp (List.mem_of_mem_filter h)
  obtain ⟨before, -, -, hbefore⟩ := exists_of_mem_frames hg
  rw [hbefore]
  exact (s.sameTexts_after before).document

/-- **A run in points**: what is left of the offset down the text is the smallest of it and
of the depths of the document on the screens that it is drawn on. -/
theorem InPlace.after_points {s : Session} (h : s.InPlace)
    (hbound : (s.window.pane.scroll.along .y).rank ≤
      (Scalar.ofNat (2 * Layout.linesHeight s.window.pane.document)).rank)
    (hlines : Layout.linesHeight s.window.pane.document ≤ 2 ^ 24) {later : List Moment}
    (hscroll : ∀ offset, .act (.scroll offset) ∉ later)
    (hstill : ∀ f ∈ s.frames later, f.1.stirs f.2 = false)
    (hheight : ∀ f ∈ s.drawing later, f.screen.height ≤ 2 ^ 24) :
    (s.after later).window.pane.scroll.y =
      ((s.drawing later).map fun f =>
          Layout.depth s.window.pane.document f.screen.height).min?.elim
        s.window.pane.scroll.y fun m => s.window.pane.scroll.y.smaller (.ofNat m) := by
  have hlimit : ∀ f ∈ s.drawing later, f.InPlace →
      (f.window.pane.scroll.along .y).rank ≤
        (Scalar.ofNat (2 * Layout.linesHeight s.window.pane.document)).rank →
      (f.window.pane.scroll.along .y).smaller (f.range .y) =
        (f.window.pane.scroll.along .y).smaller
          (.ofNat (Layout.depth s.window.pane.document f.screen.height)) := by
    intro f hf hplace hle
    -- the text is the same in all frames, so one bound does for all
    have hdocument := document_drawing hf
    rw [← hdocument] at hlines hle ⊢
    exact smaller_range hplace hlines (hheight f hf) hle
  have hpoints : (s.after later).window.pane.scroll.along .y =
      ((s.drawing later).map fun f =>
        Scalar.ofNat (Layout.depth s.window.pane.document f.screen.height)).foldl
          Scalar.smaller (s.window.pane.scroll.along .y) :=
    h.after hbound hscroll hstill hlimit
  rw [← Scalar.foldl_smaller_ofNat, List.map_map]
  exact hpoints

/-! ## Hiding, showing and resizing -/

/-- **A document stays scrolled** from a frame on that has drawn it and left it at rest,
whatever happens, as long as no other offset is given to the window and the pointer does
not stir the text; a click in it is all right wherever it is in view. What is left of the
offset is the smallest of it and of the ranges that the frames find which draw the text; it
is all left if none of them is below it. Up to `2 ^ 24` points these are the ranges by exact
sums. -/
theorem scroll_kept {p s : Session} {input : Input} {log : List Event}
    (hframe : p.frame input = .ok (s, log)) (hvisible : p.window.pane.visible = true)
    (hrest : s.area.Rests) {later : List Moment}
    (hscroll : ∀ offset, Moment.act (.scroll offset) ∉ later)
    (hstill : ∀ f ∈ s.frames later, f.1.stirs f.2 = false) :
    ∃ t events, s.advanceAll later = .ok (t, events) ∧
      (∀ axis, t.window.pane.scroll.along axis =
        ((s.drawing later).map (·.range axis)).foldl Scalar.smaller
          (s.window.pane.scroll.along axis)) ∧
      (∀ axis, (∀ f ∈ s.drawing later, s.window.pane.scroll.along axis ≤ f.range axis) →
        t.window.pane.scroll.along axis = s.window.pane.scroll.along axis) ∧
      (Layout.linesHeight s.window.pane.document ≤ 2 ^ 24 →
        (∀ f ∈ s.drawing later, f.screen.height ≤ 2 ^ 24) →
        t.window.pane.scroll.y =
          ((s.drawing later).map fun f =>
              Layout.depth s.window.pane.document f.screen.height).min?.elim
            s.window.pane.scroll.y fun m => s.window.pane.scroll.y.smaller (.ofNat m)) := by
  obtain ⟨log', hnext⟩ := p.advance_eq (.frame input)
  obtain ⟨rfl, -⟩ : p.next (.frame input) = s ∧ log' = log := by
    have := hnext.symm.trans hframe
    simpa using this
  set s := p.next (.frame input)
  -- a frame that draws the text and leaves it at rest leaves it in place
  have hplace : s.InPlace := inPlace_frame hvisible hrest
  have hfold : ∀ axis, (s.after later).window.pane.scroll.along axis =
      ((s.drawing later).map (·.range axis)).foldl Scalar.smaller
        (s.window.pane.scroll.along axis) :=
    fun axis => hplace.after le_rfl hscroll hstill fun _ _ _ _ => rfl
  obtain ⟨events, hrun⟩ := s.advanceAll_eq later
  refine ⟨s.after later, events, hrun, hfold, ?_, ?_⟩
  · intro axis hrange
    rw [hfold axis]
    apply foldl_smaller_of_le
    simpa using hrange
  · intro hlines hheight
    have hsame : s.window.pane.document = p.window.pane.document :=
      (p.sameTexts_next (.frame input)).document
    have hbound : (s.window.pane.scroll.along .y).rank ≤
        (Scalar.ofNat (2 * Layout.linesHeight s.window.pane.document)).rank := by
      rw [hsame] at hlines ⊢
      exact rank_scroll_frame hvisible input hlines
    exact hplace.after_points hbound hlines hscroll hstill hheight

/-- A text of ten lines is hidden by a click, and the screen resized before it is shown
again and after: it goes up as far as the highest of the screens lets it, and stays there, also
when a line of it is clicked. -/
theorem scroll_kept_resized :
    let p := (build .standard ⟨"a\nb\nc\nd\ne\nf\ng\nh\ni\nj"⟩ ⟨320, 110⟩).1.after
      [.act (.scroll ⟨.zero, .ofNat 60⟩), .act .click]
    let s := p.next (.frame .idle)
    let later := [Step.gesture (.click .primary .checkbox), .gesture .wait, .resize ⟨320, 130⟩,
      .act (.report true), .gesture .wait, .gesture (.click .primary (.point ⟨10, 40⟩)),
      .resize ⟨320, 100⟩, .gesture .wait].flatMap Step.moments
    s.window.pane.scroll.y = .ofNat 60 ∧
    ∃ t events, s.advanceAll later = .ok (t, events) ∧ t.window.pane.scroll.y = .ofNat 57 := by
  intro p s later
  obtain ⟨log, hadvance⟩ := p.advance_eq (.frame .idle)
  have hframe : p.frame .idle = .ok (s, log) := hadvance
  have hvisible : p.window.pane.visible = true := by decide +kernel
  have hrest : s.area.Rests := by decide +kernel
  have hscroll : ∀ offset, Moment.act (.scroll offset) ∉ later := by
    simp [later, Step.moments, Gesture.inputs]
  have hstill : ∀ f ∈ s.frames later, f.1.stirs f.2 = false := by decide +kernel
  obtain ⟨t, events, hrun, -, -, hpoints⟩ :=
    scroll_kept hframe hvisible hrest hscroll hstill
  refine ⟨by decide +kernel, t, events, hrun, ?_⟩
  rw [hpoints (by decide +kernel) (by decide +kernel)]
  decide +kernel

/-- What else moves a document. A press on a line that is not all in view brings more of it
into view, one on the end of a bar goes there, and a text that was dragged coasts on by
itself. And a wider screen leaves a single line nothing to be scrolled by. -/
theorem scroll_not_kept :
    let run (document : Document) (width : Nat) (steps : List Step) :=
      ((build .standard document ⟨width, 110⟩).1.run steps).toOption.map fun r =>
        (r.1.paneDrawn, r.1.window.pane.scroll)
    let spot (x y : Nat) : Target := .point ⟨.ofNat x, .ofNat y⟩
    let column : Document := ⟨"a\nb\nc\nd\ne\nf\ng\nh\ni\nj"⟩
    let row : Document := ⟨"xxxxxxxxxxxxxxxx"⟩
    let reveal : List Step := [.act .click, .gesture .wait]
    let pressed (x y : Nat) : List Step := [.gesture (.press (spot x y)), .gesture .wait]
    let dragged : List Step := pressed 200 40 ++ [.gesture (.release (spot 200 25))]
    let aside : List Step := .act (.scroll ⟨.ofNat 10, .zero⟩) :: reveal
    (run column 320 reveal = some (true, .origin) ∧
      run column 320 (reveal ++ pressed 12 78) = some (true, ⟨.zero, .ofRat (7 / 4)⟩) ∧
      run column 320 (reveal ++ pressed 316 66) = some (true, ⟨.zero, .ofNat 77⟩)) ∧
    (run column 320 (reveal ++ dragged) = some (true, ⟨.zero, .ofNat 5⟩) ∧
      run column 320 (reveal ++ dragged ++ [.gesture .wait]) =
        some (true, ⟨.zero, .ofRat (15 / 2)⟩)) ∧
    (run row 80 aside = some (true, ⟨.ofNat 10, .zero⟩) ∧
      run row 80 (aside ++ [.resize ⟨320, 110⟩, .gesture .wait]) = some (true, .origin)) := by
  decide +kernel

end Session

end Reveal
