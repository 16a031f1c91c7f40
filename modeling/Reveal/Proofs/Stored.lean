import Reveal.Proofs.Replay
import Reveal.Proofs.Return
import Reveal.Proofs.Unmoved

/-!
# Reveal — what a frame stores

A frame that does not draw the document leaves all offsets as they are. One that draws it
gives the window the offset at which the area on the screen ends up, and that is always one
within the range that the frame finds: never negative, not even a negative zero, and no NaN.
If nothing moves the text in the frame, it is the offset at which the document was put,
brought into that range; and where it was put depends on what the last frame has drawn.

The range that a frame finds is that of the lines, unless the document is so large, or
recorded to be scrolled so far, that its ends are rounded. How far it is scrolled is bounded
once for all: a frame brings a document that is not too large (`IsSmall`) back near the
window from wherever it was (`IsNear.after`), however the pointer moves it.

## Results

* `IsNear.after`       — a document stays near the window, whatever happens to it.
* `shortLines_fit`     — short lines fit on all but narrow screens.
* `stores_frame`       — what a frame leaves of an offset.
* `frame_stores`       — all of this for every frame after any moments of a new window.
-/

namespace Reveal

theorem Offset.IsNear.ne_infinity {o : Offset} (h : o.IsNear) (axis : Axis) :
    o.along axis ≠ .infinity := by
  intro heq
  have hnear := h axis
  rw [heq] at hnear
  cases axis with
  | x => exact absurd hnear (by decide)
  | y => exact absurd hnear (by decide)

/-! ## How large a document is -/

namespace Layout

/-- A document whose extents are kept so well that every range of it is near the window, wherever
it is. -/
structure IsSmall (document : Document) : Prop where
  width : linesWidth document ≤ 2 ^ 18
  height : linesHeight document ≤ 2 ^ 23

instance (document : Document) : Decidable (IsSmall document) :=
  decidable_of_iff (linesWidth document ≤ 2 ^ 18 ∧ linesHeight document ≤ 2 ^ 23)
    ⟨fun ⟨hwidth, hheight⟩ => ⟨hwidth, hheight⟩, fun h => ⟨h.width, h.height⟩⟩

theorem IsSmall.isModest {document : Document} (h : IsSmall document) : IsModest document := by
  have hwidth := h.width
  have hheight := h.height
  refine ⟨?_, by omega⟩
  norm_num at hwidth ⊢
  linarith

end Layout

/-! ## Short lines -/

namespace Glyph

/-- A line of characters that are not wider than the size of the typeface is at most as wide as
their number times the size. -/
theorem width_le {line : List Char} {n : Nat} (h : line.length ≤ n)
    (hadvance : ∀ c ∈ line, advance c ≤ 1000) : width line ≤ (size * n : Nat) := by
  -- in units of the typeface, a thousand of which are its size
  have htotal : total line ≤ 1000 * n := by
    have hsum : total line ≤ line.length * 1000 := by
      have hle := List.sum_le_card_nsmul (line.map advance) 1000 (by simpa using hadvance)
      rw [List.length_map] at hle
      exact hle
    omega
  -- widths are rounded to parts of a point, and a whole number of points is one of them
  have hround : Rounding.divideEven (32 * size * total line) 1000 ≤ 32 * (size * n) := by
    apply Rounding.divideEven_le (by norm_num)
    rw [div_le_iff₀ (by norm_num)]
    have hmul : 32 * size * total line ≤ 32 * (size * n) * 1000 := by
      unfold size
      omega
    exact_mod_cast hmul
  rw [width, Rat.mkRat_eq_div, div_le_iff₀ (by norm_num)]
  have hcast : ((Rounding.divideEven (32 * size * total line) 1000 : Nat) : ℚ) ≤
      ((32 * (size * n) : Nat) : ℚ) := by exact_mod_cast hround
  push_cast at hcast ⊢
  linarith

end Glyph

namespace Layout

theorem widest_le {lines : List (List Char)} {width : ℚ} (h0 : 0 ≤ width)
    (h : ∀ line ∈ lines, Glyph.width line ≤ width) : widest lines ≤ width := by
  have hfold : ∀ start ≤ width, (lines.map Glyph.width).foldl max start ≤ width := by
    induction lines with
    | nil => exact fun start hstart => hstart
    | cons line lines ih =>
      intro start hstart
      exact ih (fun other hother => h other (List.mem_cons_of_mem _ hother)) _
        (max_le hstart (h line List.mem_cons_self))
  exact hfold 0 h0

/-- **A document that is not wider than the pane** cannot be scrolled sideways. -/
theorem limit_x_of_fits {document : Document} {screen : Screen} (hwidth : screen.width ≤ 2 ^ 24)
    (h : linesWidth document ≤ paneWidth screen.width) : limit screen document .x = .zero := by
  have hpane : paneWidth screen.width ≤ 2 ^ 24 := by
    have := paneWidth_eq hwidth
    omega
  obtain ⟨n, hn⟩ : ∃ n : Nat, linesWidth document = (n : ℚ) / 32 := exists_widest _
  have hnonneg : 0 ≤ linesWidth document := by
    rw [hn]
    exact div_nonneg (Nat.cast_nonneg n) (by norm_num)
  obtain ⟨-, -, hle⟩ := Scalar.toRat_ofRat_mem (Scalar.exact_natCast (Nat.zero_le (2 ^ 24)))
    (Scalar.exact_natCast hpane) (by exact_mod_cast hnonneg) h
  -- the width is rounded, but not beyond that of the pane
  have hrange : (extent screen document .x).range.rank ≤ 0 := by
    have hdifference : (Scalar.ofRat (linesWidth document)).toRat -
        (Scalar.ofNat (paneWidth screen.width)).toRat ≤ 0 := by
      rw [(Scalar.toRat_ofNat hpane).2]
      linarith
    exact Scalar.rank_ofRat_le (r := 0) hdifference
  unfold limit Scalar.larger
  rw [Scalar.rank_zero]
  split
  · rfl
  · exact Session.range_eq_zero (by omega)

/-- Lines of less than `20` characters, none of which is wider than the size of the typeface. -/
structure HasShortLines (document : Document) : Prop where
  length : ∀ line ∈ document.lines, line.length < 20
  advance : ∀ line ∈ document.lines, ∀ c ∈ line.toList, Glyph.advance c ≤ 1000

/-- **Short lines** fit on all but narrow screens. -/
theorem shortLines_fit {document : Document} {screen : Screen} (h : HasShortLines document)
    (hwide : 263 ≤ screen.width) (hwidth : screen.width ≤ 2 ^ 24) :
    linesWidth document ≤ paneWidth screen.width := by
  have hpane := paneWidth_eq hwidth
  have hlines : linesWidth document ≤ ((13 * 19 : Nat) : ℚ) := by
    refine widest_le (by positivity) fun line hline => ?_
    obtain ⟨text, htext, rfl⟩ := List.mem_map.mp hline
    refine Glyph.width_le ?_ (h.advance text htext)
    have := h.length text htext
    rw [String.length_toList]
    omega
  refine hlines.trans ?_
  exact_mod_cast (by omega : 13 * 19 ≤ paneWidth screen.width)

end Layout

namespace Session

open Layout (HasShortLines IsModest IsSmall)

/-! ## Near the window -/

/-- **A frame brings a document near the window**, from wherever it was, and whatever else moves
it. -/
theorem near_frame {s : Session} (hvisible : s.window.pane.visible = true)
    (h : IsSmall s.window.pane.document) (input : Input) :
    (s.next (.frame input)).window.pane.scroll.IsNear := by
  -- wherever it is moved to, it is brought into a range that is at most twice its extent
  obtain ⟨v, w, hclamp⟩ := exists_clamp_frame hvisible input
  have hlow : Scalar.Exact ((0 : Nat) : ℚ) := Scalar.exact_natCast (by norm_num)
  have hbound : ∀ (v r : Scalar) (n : Nat), r.rank ≤ (Scalar.ofNat n).rank →
      (v.clamp r).rank ≤ (Scalar.ofNat n).rank := by
    intro v r n hr
    have hle := Scalar.rank_clamp_le v r
    have hnonneg := Scalar.rank_ofNat_nonneg n
    omega
  rw [hclamp]
  intro axis
  cases axis with
  | x =>
    refine hbound _ _ _ (rank_range_le ?_)
    obtain ⟨hnonneg, hdouble⟩ := Layout.textWidth_mem (by have := h.isModest.width; linarith)
      s.placedArea.offset.x
    have hwidth := h.width
    refine (Scalar.toRat_ofRat_mem hlow (Scalar.exact_natCast (n := 2 ^ 19) (by norm_num))
      (by exact_mod_cast hnonneg) ?_).2.2
    push_cast
    linarith
  | y =>
    refine hbound _ _ _ (rank_range_le ?_)
    have hheight := h.height
    have hdouble : Layout.textHeight s.window.pane.document s.placedArea.offset.y ≤
        2 * Layout.linesHeight s.window.pane.document :=
      Layout.textHeight_le _ (by omega)
    rw [(Scalar.toRat_ofNat (by omega)).2]
    exact_mod_cast (by omega : _ ≤ 2 ^ 24)

theorem IsNear.frame {s : Session} (h : s.IsNear) (hsmall : IsSmall s.window.pane.document)
    (input : Input) : (s.next (.frame input)).IsNear := by
  by_cases hvisible : s.window.pane.visible = true
  · obtain ⟨harea, hscroll⟩ := area_frame hvisible input
    have hnear := near_frame hvisible hsmall input
    exact ⟨hnear, by rw [harea, ← hscroll]; exact hnear⟩
  · obtain ⟨harea, hscroll⟩ := area_frame_of_hidden (by simpa using hvisible) input
    exact ⟨by rw [hscroll]; exact h.1, by rw [harea]; exact h.2⟩

/-- **A document stays near the window**, as long as no far offset is recorded. -/
theorem IsNear.after {s : Session} (h : s.IsNear) (hsmall : IsSmall s.window.pane.document)
    {moments : List Moment}
    (hnear : ∀ offset, .act (.scroll offset) ∈ moments → offset.IsNear) :
    (s.after moments).IsNear := by
  induction moments generalizing s with
  | nil => exact h
  | cons m later ih =>
    have hlater : ∀ offset, .act (.scroll offset) ∈ later → offset.IsNear :=
      fun offset hoffset => hnear offset (List.mem_cons_of_mem m hoffset)
    -- no moment changes the document, so that it stays small
    refine ih (s := s.next m) ?_ ?_ hlater
    · cases m with
      | act action =>
        refine h.act fun offset heq => hnear offset ?_
        rw [heq]
        exact List.mem_cons_self
      | resize screen => exact h
      | frame input => exact h.frame hsmall input
    · rw [(s.sameTexts_next m).document]
      exact hsmall

/-- A new document is where it begins. -/
theorem isNear_build (settings : Settings) (document : Document) (screen : Screen) :
    (build settings document screen).1.IsNear := by
  have horigin : Offset.origin.IsNear := by decide
  exact ⟨horigin, horigin⟩

/-! ## A frame that draws the document -/

/-- What a frame with that input, which puts the document at `o` and ends in `t`, leaves of that:
an offset within the range that it finds, and `o` in that range if nothing moves the text. -/
structure Stores (s : Session) (input : Input) (t : Session) (o : Offset) : Prop where
  area : t.area.offset = t.window.pane.scroll
  isOffset : ∀ axis, (t.window.pane.scroll.along axis).IsOffset
  le_range : ∀ axis,
    t.window.pane.scroll.along axis ≤ ((s.view input).extent o axis).range.larger .zero
  clamp_range : s.Unmoved input → ∀ axis, o.along axis ≠ .infinity →
    t.window.pane.scroll.along axis =
      (o.along axis).clamp ((s.view input).extent o axis).range

/-- The same with the range of the lines instead of the one that the frame finds. -/
structure StoresExactly (s : Session) (input : Input) (t : Session) (o : Offset) : Prop where
  le_limit : (s.Unmoved input ∨ ∀ axis, 0 ≤ (o.along axis).rank) → ∀ axis,
    t.window.pane.scroll.along axis ≤ Layout.limit s.screen s.window.pane.document axis
  clamp_limit : s.Unmoved input → ∀ axis,
    t.window.pane.scroll.along axis =
      (o.along axis).clamp (Layout.limit s.screen s.window.pane.document axis)

/-- **What a frame leaves of an offset**, wherever it puts the document. -/
theorem stores_frame {s : Session} (hvisible : s.window.pane.visible = true) (input : Input) :
    s.Stores input (s.next (.frame input)) s.placedArea.offset := by
  obtain ⟨harea, hscroll⟩ := area_frame hvisible input
  obtain ⟨v, w, hclamp⟩ := exists_clamp_frame hvisible input
  refine ⟨by rw [harea, hscroll], ?_, ?_, fun h => (h.scroll_frame hvisible).1⟩
  · rw [hclamp]
    intro axis
    cases axis with
    | x => exact Scalar.isOffset_clamp v range_eq_zero
    | y => exact Scalar.isOffset_clamp w range_eq_zero
  · rw [hclamp]
    intro axis
    show (_ : Scalar).rank ≤ (_ : Scalar).rank
    rw [Scalar.rank_larger_zero]
    cases axis with
    | x => exact Scalar.rank_clamp_le v _
    | y => exact Scalar.rank_clamp_le w _

/-- **Near the window** the range is that of the lines. -/
theorem Stores.exactly {s t : Session} {input : Input} {o : Offset} (h : s.Stores input t o)
    (hmodest : IsModest s.window.pane.document) (hnear : o.IsNear) :
    s.StoresExactly input t o := by
  have hclamp : s.Unmoved input → ∀ axis, t.window.pane.scroll.along axis =
      (o.along axis).clamp (Layout.limit s.screen s.window.pane.document axis) := by
    intro hunmoved axis
    rw [h.clamp_range hunmoved axis (hnear.ne_infinity axis), Layout.limit,
      Scalar.clamp_larger_zero]
    exact ScrollArea.Frame.clamp_extent (f := s.view input) hmodest hnear axis
  refine ⟨?_, hclamp⟩
  rintro (hunmoved | hpos) axis
  · -- brought into the range of the lines it is within it
    show (_ : Scalar).rank ≤ (_ : Scalar).rank
    rw [hclamp hunmoved axis]
    have hle := Scalar.rank_clamp_le (o.along axis)
      (Layout.limit s.screen s.window.pane.document axis)
    have hlimit := Scalar.rank_larger_zero
      (Layout.extent s.screen s.window.pane.document axis).range
    unfold Layout.limit at hle ⊢
    omega
  · -- from where it is not negative, the range that is found is that of the lines
    have hle := h.le_range axis
    rw [ScrollArea.Frame.extent_eq (f := s.view input) hmodest hnear (hpos axis)] at hle
    exact hle

/-- **What a frame stores**, after any moments of a new window, and with any input.

If the document is hidden, nothing of the offsets changes. Otherwise the document is put where the
last frame has left it, or, if that has not drawn it, where the window has it; and the frame
stores an offset within the range that it finds there, which is where it is put, brought into
that range, if nothing moves the text. A cursor that is put where it is not in view does not: it
moves the text in the next frames only. Nothing moves it, for one, if no press has reached for the
text before and none takes hold of what scrolls it now.

The range is that of the lines, if the document is not too large and no far offset has been
recorded. Down the document this is one in points. Across there is none if the document is not
wider than the pane, as one with short lines is not on a screen that is not narrow. -/
theorem frame_stores (settings : Settings) (document : Document) (screen : Screen)
    (before : List Moment) (input : Input) :
    let start := (build settings document screen).1
    let last := (start.frames before).getLast?
    ∃ s log t events, start.advanceAll before = .ok (s, log) ∧ s.frame input = .ok (t, events) ∧
      (s.window.pane.visible = false →
        t.window.pane.scroll = s.window.pane.scroll ∧ t.area = s.area) ∧
      (s.window.pane.visible = true →
        let o := (last.bind fun f => f.1.leaves f.2).getD s.window.pane.scroll
        s.Stores input t o ∧
        (IsSmall document →
          (∀ offset, .act (.scroll offset) ∈ before → offset.IsNear) →
          s.StoresExactly input t o) ∧
        ((∀ f ∈ start.frames before, f.1.reaches f.2 = false) → s.grabs input = false →
          s.Unmoved input)) ∧
      (IsSmall document → s.screen.height ≤ 2 ^ 24 →
        Layout.limit s.screen s.window.pane.document .y =
          .ofNat (Layout.depth document s.screen.height)) ∧
      (s.screen.width ≤ 2 ^ 24 → Layout.linesWidth document ≤ Layout.paneWidth s.screen.width →
        Layout.limit s.screen s.window.pane.document .x = .zero) ∧
      (s.screen.width ≤ 2 ^ 24 → 263 ≤ s.screen.width → HasShortLines document →
        Layout.linesWidth document ≤ Layout.paneWidth s.screen.width) := by
  intro start last
  have hfresh : start.Recalls none := ⟨rfl, rfl⟩
  obtain ⟨log, hbefore⟩ := start.advanceAll_eq before
  obtain ⟨events, hframe⟩ := (start.after before).advance_eq (.frame input)
  have hdocument : (start.after before).window.pane.document = document :=
    (start.sameTexts_after before).document
  have hplaced := offset_placedArea hfresh before
  refine ⟨_, log, _, events, hbefore, hframe, ?_, ?_, ?_, ?_, ?_⟩
  · intro hhidden
    obtain ⟨harea, hscroll⟩ := area_frame_of_hidden hhidden input
    exact ⟨hscroll, harea⟩
  · intro hvisible
    have hstores := stores_frame hvisible input
    rw [hplaced] at hstores
    refine ⟨hstores, ?_, ?_⟩
    · -- everything near is brought near again, whatever happens
      intro hsmall hnear
      refine hstores.exactly (by rw [hdocument]; exact hsmall.isModest) ?_
      rw [← hplaced]
      exact ((isNear_build settings document screen).after hsmall hnear).placedArea
    · -- a text that no press has reached for is at rest
      intro hreach hgrab
      exact ((atRest_build settings document screen).after hreach).unmoved hgrab
  · rw [hdocument]
    exact fun hsmall hheight => Layout.limit_y hsmall.isModest hheight
  · rw [hdocument]
    exact Layout.limit_x_of_fits
  · exact fun hwidth hwide hshort => Layout.shortLines_fit hshort hwide hwidth

/-- What is recorded before the first frame is brought into the range by it, on both sides. -/
theorem frame_stores_recorded :
    let start := (build .standard ⟨"a\nb\nc\nd\ne\nf\ng\nh\ni\nj"⟩ ⟨320, 110⟩).1
    let before : List Moment := [.act (.scroll ⟨.negate .infinity, .ofNat 100⟩), .act .click]
    ∃ s log t events, start.advanceAll before = .ok (s, log) ∧
      s.frame .idle = .ok (t, events) ∧ t.window.pane.scroll = ⟨.zero, .ofNat 77⟩ := by
  intro start before
  obtain ⟨s, log, t, events, hbefore, hframe, -, hdrawn, hdown, hacross, hshort⟩ :=
    frame_stores .standard ⟨"a\nb\nc\nd\ne\nf\ng\nh\ni\nj"⟩ ⟨320, 110⟩ before .idle
  obtain ⟨log', hafter⟩ := start.advanceAll_eq before
  obtain ⟨rfl, -⟩ : start.after before = s ∧ log' = log := by
    simpa using hafter.symm.trans hbefore
  refine ⟨_, log, t, events, hbefore, hframe, ?_⟩
  obtain ⟨-, hexactly, hunmoved⟩ := hdrawn (by decide +kernel)
  have hstored := (hexactly (by decide +kernel) (by simp [before]; decide +kernel)).clamp_limit
    (hunmoved (by decide +kernel) (by decide +kernel))
  -- no frame has drawn the document before, so it is put where the window has it
  apply Offset.ext_along
  intro axis
  rw [hstored axis]
  cases axis with
  | x =>
    have hlines : Document.lines ⟨"a\nb\nc\nd\ne\nf\ng\nh\ni\nj"⟩ =
        ["a", "b", "c", "d", "e", "f", "g", "h", "i", "j"] := by decide +kernel
    have hlow : ∀ line ∈ ["a", "b", "c", "d", "e", "f", "g", "h", "i", "j"],
        ∀ c ∈ line.toList, Glyph.advance c ≤ 1000 := by simp; decide
    have hfits := hshort (by decide +kernel) (by decide +kernel) ⟨by decide +kernel, hlines ▸ hlow⟩
    rw [hacross (by decide +kernel) hfits]
    decide +kernel
  | y =>
    rw [hdown (by decide +kernel) (by decide +kernel)]
    decide +kernel

/-- What else a frame stores. The range of a text that is recorded to be scrolled very far is
rounded, here to `10` points more than there are; on a narrow screen a line of `16` characters
can be scrolled sideways; and a press on a line that is not all in view has the next frame bring
it into view. -/
theorem frame_stores_otherwise :
    let run (document : Document) (width : Nat) (steps : List Step) :=
      ((build .standard document ⟨width, 110⟩).1.run steps).toOption.map fun r =>
        (r.1.paneDrawn, r.1.window.pane.scroll)
    let column : Document := ⟨"a\nb\nc\nd\ne\nf\ng\nh\ni\nj"⟩
    let row : Document := ⟨"xxxxxxxxxxxxxxxx"⟩
    let reveal : List Step := [.act .click, .gesture .wait]
    let record (x y : Nat) : Step := .act (.scroll ⟨.ofNat x, .ofNat y⟩)
    let press (x y : Nat) : List Step :=
      [.gesture (.press (.point ⟨.ofNat x, .ofNat y⟩)), .gesture .wait]
    (run column 320 (record 0 536870912 :: reveal) = some (true, ⟨.zero, .ofNat 87⟩) ∧
      Layout.depth column 110 = 77) ∧
    run row 80 (record 10 0 :: reveal) = some (true, ⟨.ofNat 10, .zero⟩) ∧
    (run column 320 reveal = some (true, .origin) ∧
      run column 320 (reveal ++ press 12 78) = some (true, ⟨.zero, .ofRat (7 / 4)⟩)) := by
  decide +kernel

end Session

end Reveal
