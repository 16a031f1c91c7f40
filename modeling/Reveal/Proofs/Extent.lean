import Reveal.Proofs.Scroll

/-!
# Reveal — extents of a document

How much space a document takes is found out from the places of its two ends, which
are rounded. So the range that a frame finds depends on how far the document is scrolled
in it. It does so only for a document that is very large or scrolled very far: as long as
both ends are kept exactly, the extents are those of the lines, wherever the document is.

## Results

* `Layout.textHeight_eq_of_near`, `Layout.textWidth_eq_of_near` — the extents near the
  window.
* `Layout.textWidth_mem` — the width wherever the document is.
* `clamp_extent`    — bringing a document into the range that a frame finds.
* `limit_y`         — the range down the document, in points.
-/

namespace Reveal

/-! ## Near the window -/

/-- How far a document may be scrolled along an axis for its ends to be kept exactly. Widths are
counted in smaller parts of a point. -/
def Axis.limit : Axis → Nat
  | x => 2 ^ 19
  | y => 2 ^ 24

/-- An offset at which the ends of a document are kept exactly. It may be negative. -/
def Offset.IsNear (o : Offset) : Prop :=
  ∀ axis, (o.along axis).rank ≤ (Scalar.ofNat axis.limit).rank

instance (o : Offset) : Decidable o.IsNear :=
  decidable_of_iff (o.x.rank ≤ (Scalar.ofNat (2 ^ 19)).rank ∧ o.y.rank ≤ (Scalar.ofNat (2 ^ 24)).rank)
    ⟨fun ⟨hx, hy⟩ axis => by cases axis with
      | x => exact hx
      | y => exact hy, fun h => ⟨h .x, h .y⟩⟩

namespace Layout

/-- A document whose extents are kept exactly wherever it is drawn near the window. -/
structure IsModest (document : Document) : Prop where
  width : linesWidth document + 8 < 2 ^ 19
  height : linesHeight document + 8 ≤ 2 ^ 24

instance (document : Document) : Decidable (IsModest document) :=
  decidable_of_iff (linesWidth document + 8 < 2 ^ 19 ∧ linesHeight document + 8 ≤ 2 ^ 24)
    ⟨fun ⟨hwidth, hheight⟩ => ⟨hwidth, hheight⟩, fun h => ⟨h.width, h.height⟩⟩

/-- The width of the widest line is a whole number of thirty-seconds of a point. -/
theorem exists_widest (lines : List (List Char)) : ∃ n : Nat, widest lines = (n : ℚ) / 32 := by
  -- the induction is for the widest of the lines so far, which need not be none
  have hwidest : ∀ start : Nat,
      ∃ n : Nat, (lines.map Glyph.width).foldl max ((start : ℚ) / 32) = (n : ℚ) / 32 := by
    induction lines with
    | nil => exact fun start => ⟨start, rfl⟩
    | cons line lines ih =>
      intro start
      obtain ⟨k, hk⟩ : ∃ k : Nat, Glyph.width line = (k : ℚ) / 32 :=
        ⟨_, by rw [Glyph.width, Rat.mkRat_eq_div]; rfl⟩
      rw [List.map_cons, List.foldl_cons, hk]
      rcases le_total ((start : ℚ) / 32) ((k : ℚ) / 32) with hle | hle
      · rw [max_eq_right hle]
        exact ih k
      · rw [max_eq_left hle]
        exact ih start
  have hstart := hwidest 0
  rw [Nat.cast_zero, zero_div] at hstart
  exact hstart

/-- Along both axes, the document begins at most as far from the window as it is scrolled. -/
theorem textStart_mem {v : Scalar} {n : Nat} (h : 0 ≤ v.toRat) (hn : 4 ≤ n) (hn' : n ≤ 2 ^ 24)
    (hv : v.toRat ≤ 2 * n) : 8 - 2 * (n : Int) ≤ textStart v ∧ textStart v ≤ 8 :=
  ⟨le_textStart h hn hn' hv, textStart_le (k := 0) (Nat.zero_le 8) (by exact_mod_cast h)⟩

/-- **The height near the window** is that of the lines. -/
theorem textHeight_eq_of_near {document : Document} (h : IsModest document) {v : Scalar}
    (hv : 0 ≤ v.toRat) (hnear : v.toRat ≤ 2 ^ 24) :
    textHeight document v = linesHeight document := by
  obtain ⟨hlow, hhigh⟩ := textStart_mem hv (n := 2 ^ 23) (by norm_num) (by norm_num)
    (by norm_num at hnear ⊢; exact hnear)
  have hheight := h.height
  unfold textHeight
  dsimp only
  change (heldInt (textStart v + linesHeight document) - textStart v).toNat = _
  rw [heldInt_of_le (by omega)]
  omega

/-- **The width near the window** is that of the lines. -/
theorem textWidth_eq_of_near {document : Document} (h : IsModest document) {v : Scalar}
    (hv : 0 ≤ v.toRat) (hnear : v.toRat ≤ 2 ^ 19) :
    textWidth document v = linesWidth document := by
  obtain ⟨hlow, hhigh⟩ := textStart_mem hv (n := 2 ^ 18) (by norm_num) (by norm_num)
    (by norm_num at hnear ⊢; exact hnear)
  obtain ⟨n, hn⟩ : ∃ n : Nat, linesWidth document = (n : ℚ) / 32 := exists_widest _
  have hwidth : n + 256 < 2 ^ 24 := by
    have hlt := h.width
    rw [hn, div_add' _ _ _ (by norm_num), div_lt_iff₀ (by norm_num)] at hlt
    norm_num at hlt ⊢
    exact_mod_cast hlt
  -- both ends are whole numbers of thirty-seconds, with few enough digits
  have hkeep : ∀ k : Int, k.natAbs < 2 ^ 24 →
      Rounding.toDigits 24 ((k : ℚ) / 32) = (k : ℚ) / 32 := by
    intro k hk
    refine Rounding.toDigits_eq (n := k.natAbs) (j := -5) hk ?_
    rw [abs_div, Nat.cast_natAbs, Int.cast_abs, zpow_neg, div_eq_mul_inv]
    norm_num
  have hend : (textStart v : ℚ) + linesWidth document = ((32 * textStart v + n : Int) : ℚ) / 32 := by
    rw [hn]
    push_cast
    ring
  have hrest : ((32 * textStart v + n : Int) : ℚ) / 32 - textStart v = ((n : Int) : ℚ) / 32 := by
    push_cast
    ring
  unfold textWidth
  dsimp only
  rw [hend, hkeep _ (by omega), hrest, hkeep _ (by omega), hn]
  rfl

/-- The place where a document begins has few digits. -/
theorem exists_textStart (v : Scalar) :
    ∃ (m : Nat) (j : Int), m < 2 ^ 24 ∧ |(textStart v : ℚ)| = m * 2 ^ j := by
  have hdvd : 2 ^ ((textStart v).natAbs.log2 + 1 - 24) ∣ (textStart v).natAbs :=
    nearestPoint_toRat_dvd _
  have habs : |(textStart v : ℚ)| = ((textStart v).natAbs : ℚ) := by
    rw [← Int.cast_abs, Int.abs_eq_natAbs, Int.cast_natCast]
  rw [habs]
  generalize (textStart v).natAbs = n at hdvd
  obtain ⟨m, hm⟩ := hdvd
  refine ⟨m, (n.log2 + 1 - 24 : Nat), ?_, ?_⟩
  · -- with the zeros at its end it would have more places than it has
    have hlt : 2 ^ (n.log2 + 1 - 24) * m < 2 ^ (n.log2 + 1 - 24) * 2 ^ 24 := by
      calc 2 ^ (n.log2 + 1 - 24) * m = n := hm.symm
        _ < 2 ^ (n.log2 + 1) := Nat.lt_log2_self
        _ ≤ 2 ^ (n.log2 + 1 - 24 + 24) := Nat.pow_le_pow_right (by norm_num) (by omega)
        _ = 2 ^ (n.log2 + 1 - 24) * 2 ^ 24 := pow_add _ _ _
    exact Nat.lt_of_mul_lt_mul_left hlt
  · have hcast : (n : ℚ) = ((2 ^ (n.log2 + 1 - 24) * m : Nat) : ℚ) := congrArg Nat.cast hm
    rw [hcast, zpow_natCast, Nat.cast_mul, mul_comm]
    push_cast
    rfl

/-- **The width far away** is at most twice that of the lines, wherever the document is: its
beginning can be stored, and so is as near to its end as what its end is rounded to. -/
theorem textWidth_mem {document : Document} (h : linesWidth document < 2 ^ 19) (v : Scalar) :
    0 ≤ textWidth document v ∧ textWidth document v ≤ 2 * linesWidth document := by
  obtain ⟨n, hn⟩ : ∃ n : Nat, linesWidth document = (n : ℚ) / 32 := exists_widest _
  have hfew : n < 2 ^ 24 := by
    rw [hn, div_lt_iff₀ (by norm_num)] at h
    norm_num at h
    exact_mod_cast h
  obtain ⟨m, j, hm, hstart⟩ := exists_textStart v
  unfold textWidth
  dsimp only
  -- what the end is rounded to is at most as far from it as the beginning
  have hend := Rounding.abs_toDigits_sub_le_of_digits (by norm_num) hm hstart
    (textStart v + linesWidth document)
  have hnonneg : 0 ≤ linesWidth document := by
    rw [hn]
    positivity
  rw [sub_add_cancel_left, abs_neg, abs_of_nonneg hnonneg, abs_le] at hend
  generalize Rounding.toDigits 24 (textStart v + linesWidth document) = stop at hend
  -- the rest is rounded once more, and crosses neither zero nor the double width
  obtain ⟨rest, hrest⟩ : ∃ rest, stop - (textStart v : ℚ) = rest := ⟨_, rfl⟩
  have hzero : |Rounding.toDigits 24 rest - rest| ≤ |0 - rest| :=
    Rounding.abs_toDigits_sub_le_of_digits (n := 0) (j := 0) (by norm_num) (by norm_num) (by simp) _
  have hdouble : |Rounding.toDigits 24 rest - rest| ≤ |2 * linesWidth document - rest| := by
    refine Rounding.abs_toDigits_sub_le_of_digits (j := -4) (by norm_num) hfew ?_ _
    rw [hn, abs_of_nonneg (by positivity), zpow_neg]
    norm_num
    ring
  rw [zero_sub, abs_neg, abs_of_nonneg (a := rest) (by linarith), abs_le] at hzero
  rw [abs_of_nonneg (a := 2 * linesWidth document - rest) (by linarith), abs_le] at hdouble
  rw [hrest]
  constructor
  · linarith
  · linarith

/-- The extents of the pane and of the lines of a document. -/
def extent (screen : Screen) (document : Document) : Axis → Extent
  | .x => ⟨paneWidth screen.width, .ofRat (linesWidth document)⟩
  | .y => ⟨paneHeight screen.height, .ofNat (linesHeight document)⟩

/-- How far a document can be scrolled along an axis on a screen, by the extents of its lines. -/
def limit (screen : Screen) (document : Document) (axis : Axis) : Scalar :=
  (extent screen document axis).range.larger .zero

end Layout

namespace ScrollArea

open Layout (IsModest)

/-- The extents that a frame finds are those of the lines, where the document is near. -/
theorem Frame.extent_eq {f : Frame} (h : IsModest f.document) {o : Offset} (hnear : o.IsNear)
    {axis : Axis} (hpos : 0 ≤ (o.along axis).rank) :
    f.extent o axis = Layout.extent f.screen f.document axis := by
  cases axis with
  | x =>
    obtain ⟨hfinite, hvalue⟩ := Scalar.toRat_ofNat (n := 2 ^ 19) (by norm_num)
    have hx : o.x.IsFinite := hfinite.of_rank_le hpos (hnear .x)
    have hle := Scalar.toRat_le_toRat hx hfinite (hnear .x)
    rw [hvalue] at hle
    rw [extent, Layout.extent, Layout.textWidth_eq_of_near h (Scalar.toRat_nonneg hx hpos)
      (by exact_mod_cast hle)]
  | y =>
    obtain ⟨hfinite, hvalue⟩ := Scalar.toRat_ofNat (n := 2 ^ 24) (by norm_num)
    have hy : o.y.IsFinite := hfinite.of_rank_le hpos (hnear .y)
    have hle := Scalar.toRat_le_toRat hy hfinite (hnear .y)
    rw [hvalue] at hle
    rw [extent, Layout.extent, Layout.textHeight_eq_of_near h (Scalar.toRat_nonneg hy hpos)
      (by exact_mod_cast hle)]

/-- **Bringing a document into the range that a frame finds** is bringing it into the one of its
lines, where the document is near; and where it is scrolled by less than nothing, the range
does not matter. -/
theorem Frame.clamp_extent {f : Frame} (h : IsModest f.document) {o : Offset} (hnear : o.IsNear)
    (axis : Axis) :
    (o.along axis).clamp (f.extent o axis).range =
      (o.along axis).clamp (Layout.extent f.screen f.document axis).range := by
  -- an offset that is not positive is brought to zero in any range
  cases hpos : (o.along axis).isPositive with
  | false =>
    rw [Scalar.clamp_of_not_isPositive hpos, Scalar.clamp_of_not_isPositive hpos]
  | true =>
    simp only [Scalar.isPositive, Bool.and_eq_true, decide_eq_true_eq] at hpos
    rw [extent_eq h hnear hpos.2.le]

end ScrollArea

namespace Layout

/-- **Down the document** it can be scrolled by its depth in points, on screens of up to `2 ^ 24`.
-/
theorem limit_y {document : Document} (h : IsModest document) {screen : Screen}
    (hheight : screen.height ≤ 2 ^ 24) :
    limit screen document .y = .ofNat (depth document screen.height) := by
  have hpane := paneHeight_eq hheight
  have hlines := h.height
  have harea : paneHeight screen.height ≤ 2 ^ 24 := by
    unfold innerHeight at hpane
    omega
  have hdepth : depth document screen.height = linesHeight document - paneHeight screen.height := by
    unfold depth
    omega
  rw [hdepth]
  exact Scalar.larger_sub_ofNat (by omega) harea

/-- So the range is as good as that depth. -/
theorem clamp_depth {document : Document} (h : IsModest document) {screen : Screen}
    (hheight : screen.height ≤ 2 ^ 24) (v : Scalar) :
    v.clamp (extent screen document .y).range = v.clamp (.ofNat (depth document screen.height)) := by
  rw [← limit_y h hheight, limit, Scalar.clamp_larger_zero]

end Layout

end Reveal
