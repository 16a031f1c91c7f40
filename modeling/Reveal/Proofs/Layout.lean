import Mathlib.Data.Nat.Log
import Reveal.Layout
import Reveal.Proofs.Scalar

/-!
# Reveal — where things are drawn

Places and sizes are kept in single precision, which makes no difference up to
`2 ^ 24`: there the pane and the checkbox are where the exact sums put them. Beyond,
whole points are no longer told apart.

A document is drawn at a whole point. As long as it is scrolled by no more than twice
its height, its two ends can be told apart exactly; and however far away it is put,
the height that its ends seem to have is at most twice the real one.

## Results

* `paneHeight_eq`   — the inner height of the pane, up to `2 ^ 24`.
* `checkbox_top`    — where the checkbox begins, up to `2 ^ 24`.
* `textHeight_eq`   — a document near the window takes the height of its lines.
* `textHeight_le`   — a document far away takes at most twice that.
-/

namespace Reveal.Layout

/-! ## What is kept exactly -/

theorem held_of_le {n : Nat} (h : n ≤ 2 ^ 24) : held n = n := by
  rcases Nat.eq_or_lt_of_le h with rfl | h
  · decide
  · exact held_of_lt h

theorem heldInt_of_le {n : Int} (h : n.natAbs ≤ 2 ^ 24) : heldInt n = n := by
  rw [heldInt, held_of_le h]
  exact Int.sign_mul_natAbs n

/-! ## The pane and the checkbox -/

/-- The inner height of the pane by exact sums: what the margins leave, less the row of
the checkbox and the space above it, but not less than the smallest pane. -/
def innerHeight (height : Nat) : Int :=
  max (min ((height : Int) - 16) (max ((height : Int) - 37) 0)) 64

theorem room_eq {extent : Nat} (h : extent ≤ 2 ^ 24) : room extent = extent - 16 := by
  simp only [room, margin]
  rw [held_of_le h, held_of_le (n := extent - 8) (by omega), held_of_le (by omega)]
  omega

/-- An area has the extent that it wants, but at least `64` points. -/
theorem areaExtent_eq {wanted : Nat} (h : wanted + 8 ≤ 2 ^ 24) :
    areaExtent wanted = max wanted 64 := by
  simp only [areaExtent, margin, smallestPane]
  rw [held_of_le (n := 8 + max wanted 64) (by omega), held_of_le (by omega)]
  omega

/-- On a screen of up to `2 ^ 24` points the pane has its exact height. -/
theorem paneHeight_eq {height : Nat} (h : height ≤ 2 ^ 24) :
    (paneHeight height : Int) = innerHeight height := by
  have hroom := room_eq h
  simp only [paneHeight, hroom, rowHeight, spacing, innerHeight]
  rw [held_of_le (n := height - 16 - (18 + 3)) (by omega), areaExtent_eq (by omega)]
  omega

/-- And its exact width. -/
theorem paneWidth_eq {width : Nat} (h : width ≤ 2 ^ 24) : paneWidth width = max (width - 16) 64 := by
  rw [paneWidth, room_eq h, areaExtent_eq (by omega)]

/-- Something that is put in the middle of its own place stays there, unless the middle
has to be rounded. -/
theorem toRat_centred {start height : Nat} (h : start + height ≤ 2 ^ 24)
    (heven : 2 ∣ height ∨ 2 * start + height ≤ 2 ^ 24) :
    (centred start height).toRat = start := by
  have hstart := (Scalar.toRat_ofNat (n := start) (by omega)).2
  have hheight := (Scalar.toRat_ofNat (n := height) (by omega)).2
  have htwo : (2 : Scalar).toRat = (2 : ℚ) := (Scalar.toRat_ofNat (n := 2) (by norm_num)).2
  -- every sum on the way to the middle can be stored
  have hend : (Scalar.ofNat start + Scalar.ofNat height).toRat = ((start + height : Nat) : ℚ) := by
    show (Scalar.ofRat (_ + _)).toRat = _
    rw [hstart, hheight, ← Nat.cast_add]
    exact (Scalar.toRat_ofRat (Scalar.exact_natCast h)).2
  have hsum : (Scalar.ofNat start + (Scalar.ofNat start + Scalar.ofNat height)).toRat =
      ((2 * start + height : Nat) : ℚ) := by
    show (Scalar.ofRat (_ + _)).toRat = _
    rw [hstart, hend, ← Nat.cast_add, show start + (start + height) = 2 * start + height by ring]
    rcases heven with ⟨half, rfl⟩ | hle
    · rw [← Nat.mul_add, Nat.cast_mul, Nat.cast_two]
      exact (Scalar.toRat_ofRat (Scalar.exact_double (by omega))).2
    · exact (Scalar.toRat_ofRat (Scalar.exact_natCast hle)).2
  have hmiddle : ((Scalar.ofNat start + (Scalar.ofNat start + Scalar.ofNat height)) / 2).toRat =
      ((2 * start + height : Nat) : ℚ) / 2 := by
    show (Scalar.ofRat (_ / _)).toRat = _
    rw [hsum, htwo]
    rcases heven with ⟨half, rfl⟩ | hle
    · rw [← Nat.mul_add, Nat.cast_mul, Nat.cast_two, mul_div_cancel_left₀ _ (by norm_num)]
      exact (Scalar.toRat_ofRat (Scalar.exact_natCast (by omega))).2
    · exact (Scalar.toRat_ofRat (Scalar.exact_half hle)).2
  have hhalf : (Scalar.ofNat height / 2).toRat = (height : ℚ) / 2 := by
    show (Scalar.ofRat (_ / _)).toRat = _
    rw [hheight, htwo]
    exact (Scalar.toRat_ofRat (Scalar.exact_half (by omega))).2
  show (Scalar.ofRat (_ - _)).toRat = _
  rw [hmiddle, hhalf, show ((2 * start + height : Nat) : ℚ) / 2 - height / 2 = (start : ℚ) by
    push_cast; ring]
  exact (Scalar.toRat_ofRat (Scalar.exact_natCast (by omega))).2

/-- How high a checkbox with a label is. -/
def boxHeight (screen : Screen) (paneDrawn : Bool) (label : String) : Nat :=
  max rowHeight
    (lineHeight * (labelRows (checkboxRoom screen.width paneDrawn) label).length)

/-- Where the checkbox begins by exact sums. -/
def boxTop (height : Nat) (paneDrawn : Bool) : Int :=
  if paneDrawn then 8 + innerHeight height + 3 else 8

theorem checkbox_height (screen : Screen) (paneDrawn : Bool) (label : String) :
    (checkbox screen paneDrawn label).height = boxHeight screen paneDrawn label := by
  simp only [Rect.height, checkbox, Rect.ofCorner]
  exact add_sub_cancel_left _ _

/-- The checkbox begins where the sum has it, if neither the screen nor the sum is too high. -/
theorem checkboxTop_eq {height : Nat} {paneDrawn : Bool} (h : paneDrawn = true → height ≤ 2 ^ 24)
    (htop : boxTop height paneDrawn ≤ 2 ^ 24) :
    (checkboxTop height paneDrawn : Int) = boxTop height paneDrawn := by
  cases paneDrawn with
  | false => rfl
  | true =>
    have hpane := paneHeight_eq (h rfl)
    simp only [boxTop, if_true] at htop ⊢
    simp only [checkboxTop, if_true, margin, spacing]
    rw [held_of_le (n := 8 + paneHeight height) (by omega), held_of_le (by omega)]
    omega

/-- Whether all that the place of the checkbox is computed from is kept exactly: it ends
at `2 ^ 24` at the latest, and its middle is a whole point or below `2 ^ 23`. -/
structure IsExact (screen : Screen) (paneDrawn : Bool) (label : String) : Prop where
  height : paneDrawn = true → screen.height ≤ 2 ^ 24
  bottom : boxTop screen.height paneDrawn + boxHeight screen paneDrawn label ≤ 2 ^ 24
  middle : 2 ∣ boxHeight screen paneDrawn label ∨
    2 * boxTop screen.height paneDrawn + boxHeight screen paneDrawn label ≤ 2 ^ 24

/-- **Where the checkbox begins**, if nothing has to be rounded. -/
theorem checkbox_top {screen : Screen} {paneDrawn : Bool} {label : String}
    (h : IsExact screen paneDrawn label) :
    (checkbox screen paneDrawn label).top = boxTop screen.height paneDrawn := by
  obtain ⟨hheight, hbottom, hmiddle⟩ := h
  have htop := checkboxTop_eq hheight (by omega)
  rw [← htop] at hbottom hmiddle ⊢
  rw [Int.cast_natCast]
  refine toRat_centred (by exact_mod_cast hbottom) (hmiddle.imp_right fun hle => ?_)
  exact_mod_cast hle

/-! ## Where a document begins -/

/-- What is not above a whole number is not brought above it. -/
theorem nearestPoint_le {q : ℚ} {k : Int} (h : q ≤ k) : nearestPoint q ≤ k := by
  unfold nearestPoint
  rw [Rat.mkRat_eq_div]
  split
  · have : -k ≤ (-q + ((1 : Int) : ℚ) / (2 : Nat)).floor := by
      rw [Rat.le_floor_iff]
      push_cast
      linarith
    omega
  · have : (q + ((1 : Int) : ℚ) / (2 : Nat)).floor < k + 1 := by
      rw [Rat.floor_lt_iff]
      push_cast
      linarith
    omega

theorem le_nearestPoint {q : ℚ} {k : Int} (h : (k : ℚ) ≤ q) : k ≤ nearestPoint q := by
  unfold nearestPoint
  rw [Rat.mkRat_eq_div]
  split
  · have : (-q + ((1 : Int) : ℚ) / (2 : Nat)).floor < -k + 1 := by
      rw [Rat.floor_lt_iff]
      push_cast
      linarith
    omega
  · have : k ≤ (q + ((1 : Int) : ℚ) / (2 : Nat)).floor := by
      rw [Rat.le_floor_iff]
      push_cast
      linarith
    omega

theorem nearestPoint_intCast (k : Int) : nearestPoint (k : ℚ) = k :=
  le_antisymm (nearestPoint_le le_rfl) (le_nearestPoint le_rfl)

/-- The whole point nearest to a stored number can be stored as well: either the number
is whole already, or it is below `2 ^ 23`. -/
theorem nearestPoint_toRat_dvd (v : Scalar) :
    2 ^ ((nearestPoint v.toRat).natAbs.log2 + 1 - 24) ∣ (nearestPoint v.toRat).natAbs := by
  by_cases hv : v.IsFinite
  swap
  · have hzero : nearestPoint v.toRat = 0 := by
      rw [Scalar.toRat_of_not_isFinite hv]
      exact_mod_cast nearestPoint_intCast 0
    rw [hzero]
    exact Nat.dvd_zero _
  obtain ⟨t, s, hm, hs, hcase⟩ := Scalar.exists_eq_add v.magnitude
  -- the number as it is stored: a sign, 24 digits and a place
  obtain ⟨sign, hsign, hvalue⟩ : ∃ sign : Int, sign.natAbs = 1 ∧
      v.toRat = sign * (((s * 2 ^ t : Nat) : ℚ) / 2 ^ 149) := by
    refine ⟨if v.isNegative then -1 else 1, by split <;> rfl, ?_⟩
    rw [Scalar.toRat_eq hv, hm, Scalar.steps_add hs.le hcase]
    split <;> push_cast <;> ring
  rcases Nat.lt_or_ge t 149 with ht | ht
  · -- less than `2 ^ 23` in size, where every whole number has few digits
    have hsmall : ((s * 2 ^ t : Nat) : ℚ) / 2 ^ 149 ≤ 2 ^ 23 := by
      rw [div_le_iff₀ (by positivity), ← pow_add]
      have : s * 2 ^ t ≤ 2 ^ (23 + 149) :=
        calc s * 2 ^ t ≤ 2 ^ 24 * 2 ^ 148 :=
              Nat.mul_le_mul hs.le (Nat.pow_le_pow_right (by omega) (by omega))
          _ = 2 ^ (23 + 149) := by norm_num
      exact_mod_cast this
    have hnonneg : (0 : ℚ) ≤ ((s * 2 ^ t : Nat) : ℚ) / 2 ^ 149 := by positivity
    generalize ((s * 2 ^ t : Nat) : ℚ) / 2 ^ 149 = size at hvalue hsmall hnonneg
    have hbound : (nearestPoint v.toRat).natAbs ≤ 2 ^ 23 := by
      have hle : nearestPoint v.toRat ≤ 2 ^ 23 := by
        apply nearestPoint_le
        rw [hvalue]
        rcases Int.natAbs_eq_iff.mp hsign with rfl | rfl <;> push_cast <;> linarith
      have hge : -(2 ^ 23) ≤ nearestPoint v.toRat := by
        apply le_nearestPoint
        rw [hvalue]
        rcases Int.natAbs_eq_iff.mp hsign with rfl | rfl <;> push_cast <;> linarith
      omega
    have hlog : (nearestPoint v.toRat).natAbs.log2 ≤ 23 := by
      rcases Nat.eq_zero_or_pos (nearestPoint v.toRat).natAbs with h0 | h0
      · rw [h0]
        decide
      · exact Nat.lt_succ_iff.mp
          ((Nat.log2_lt (by omega)).mpr (hbound.trans_lt (by norm_num)))
    rw [Nat.sub_eq_zero_of_le (by omega), Nat.pow_zero]
    exact one_dvd _
  · -- a whole number of at most 24 digits with zeros behind them
    obtain ⟨i, rfl⟩ := Nat.exists_eq_add_of_le ht
    have hwhole : v.toRat = ((sign * (s * 2 ^ i : Nat) : Int) : ℚ) := by
      rw [hvalue]
      push_cast
      rw [pow_add]
      field_simp
    have habs : (nearestPoint v.toRat).natAbs = s * 2 ^ i := by
      rw [hwhole, nearestPoint_intCast, Int.natAbs_mul, hsign, Nat.one_mul, Int.natAbs_natCast]
    rw [habs]
    rcases Nat.eq_zero_or_pos s with rfl | hs0
    · simp
    have hlog : (s * 2 ^ i).log2 < 24 + i := by
      rw [Nat.log2_lt (by positivity), pow_add]
      exact Nat.mul_lt_mul_of_pos_right hs (Nat.two_pow_pos i)
    exact (Nat.pow_dvd_pow 2 (by omega)).trans (Nat.dvd_mul_left _ _)

/-- A document begins in the margin, or above that if it is scrolled far enough. -/
theorem textStart_le {v : Scalar} {k : Nat} (hk : k ≤ 8) (h : k ≤ v.toRat) :
    textStart v ≤ 8 - k := by
  have hmargin := (Scalar.toRat_ofNat (n := margin) (by decide)).2
  apply nearestPoint_le
  show (Scalar.ofRat (_ - _)).toRat ≤ _
  rw [hmargin]
  -- what is too large to be kept counts as zero
  by_cases hf : (Scalar.ofRat (((margin : Nat) : ℚ) - v.toRat)).IsFinite
  · obtain ⟨hfk, hvk⟩ := Scalar.toRat_ofRat (Scalar.exact_natCast (n := 8 - k) (by omega))
    have hle : ((margin : Nat) : ℚ) - v.toRat ≤ ((8 - k : Nat) : ℚ) := by
      rw [Nat.cast_sub hk]
      push_cast [margin]
      linarith
    have := Scalar.toRat_le_toRat hf hfk (Scalar.rank_ofRat_le hle)
    rw [hvk, Nat.cast_sub hk] at this
    push_cast at this ⊢
    exact this
  · rw [Scalar.toRat_of_not_isFinite hf]
    push_cast
    have : (k : ℚ) ≤ 8 := by exact_mod_cast hk
    linarith

/-- A document begins no higher than it is scrolled. -/
theorem le_textStart {v : Scalar} {n : Nat} (h : 0 ≤ v.toRat) (hn : 4 ≤ n) (hn' : n ≤ 2 ^ 24)
    (hv : v.toRat ≤ 2 * n) : 8 - 2 * (n : Int) ≤ textStart v := by
  have hmargin := (Scalar.toRat_ofNat (n := margin) (by decide)).2
  apply le_nearestPoint
  show _ ≤ (Scalar.ofRat (_ - _)).toRat
  rw [hmargin]
  -- both ends of the range of the difference can be stored, so rounding stays between them
  have hlow : Scalar.Exact (-(2 * ((n - 4 : Nat) : ℚ))) := (Scalar.exact_double (by omega)).neg
  have hhigh : Scalar.Exact ((8 : Nat) : ℚ) := Scalar.exact_natCast (by norm_num)
  have hbounds := Scalar.toRat_ofRat_mem (q := (margin : ℚ) - v.toRat) hlow hhigh
    (by rw [Nat.cast_sub hn]; push_cast [margin]; linarith) (by push_cast [margin]; linarith)
  have := hbounds.2.1
  rw [Nat.cast_sub hn] at this
  push_cast at this ⊢
  linarith

/-! ## How high a document seems -/

/-- The height of the lines of a document. -/
def linesHeight (document : Document) : Nat := lineHeight * document.lineCount

/-- How far down a document can be scrolled on a screen of that height, by exact sums. -/
def depth (document : Document) (height : Nat) : Nat :=
  ((linesHeight document : Int) - innerHeight height).toNat

theorem lineCount_pos (document : Document) : 0 < document.lineCount := by
  rw [Document.lineCount_eq]
  omega

/-- **A document near the window** takes the height of its lines, if its end is kept
exactly. -/
theorem textHeight_eq {document : Document} {v : Scalar} (hv : 0 ≤ v.toRat)
    (hle : v.toRat ≤ 2 * linesHeight document) (hlines : linesHeight document ≤ 2 ^ 24)
    (hend : textStart v + linesHeight document ≤ 2 ^ 24) :
    textHeight document v = linesHeight document := by
  have hpos := lineCount_pos document
  have hstart := le_textStart hv (n := linesHeight document)
    (by simp only [linesHeight, lineHeight]; omega) hlines hle
  unfold textHeight
  dsimp only
  change (heldInt (textStart v + linesHeight document) - textStart v).toNat = _
  rw [heldInt_of_le (by omega)]
  omega

/-- Below `2 ^ 25` a whole number loses one at most. -/
theorem le_held_add_one {n : Nat} (h : n < 2 ^ 25) : n ≤ held n + 1 := by
  rcases Nat.le_total n (2 ^ 24) with hle | hge
  · rw [held_of_le hle]
    omega
  · -- of 25 digits the last one is dropped
    have hlog : n.log2 = 24 := by
      rw [Nat.log2_eq_iff (by omega)]
      exact ⟨hge, h⟩
    have hround := Rounding.le_two_mul_divideEven n (d := 2) (by norm_num)
    rw [held, Rounding.natToDigits, hlog]
    norm_num
    omega

/-- Also where its end is rounded, a document near the window loses no more than a point. -/
theorem le_textHeight {document : Document} {v : Scalar} (hv : 0 ≤ v.toRat)
    (hlines : linesHeight document ≤ 2 ^ 24) (hend : 0 < textStart v + linesHeight document) :
    linesHeight document ≤ textHeight document v + 1 := by
  have hstart := textStart_le (k := 0) (Nat.zero_le 8) (by exact_mod_cast hv)
  unfold textHeight
  dsimp only
  change _ ≤ (heldInt (textStart v + linesHeight document) - textStart v).toNat + 1
  obtain ⟨n, hn⟩ : ∃ n : Nat, textStart v + linesHeight document = (n : Int) :=
    ⟨(textStart v + linesHeight document).toNat, by omega⟩
  have hheld : heldInt (textStart v + linesHeight document) = held n := by
    rw [hn, heldInt, Int.natAbs_natCast, Int.sign_eq_one_of_pos (by omega), one_mul]
  have hround := le_held_add_one (n := n) (by omega)
  rw [hheld]
  omega

/-- **A document far away** seems to take at most twice the height of its lines: its
beginning can be stored, and so is as near to its end as what its end is rounded to. -/
theorem textHeight_le {document : Document} (v : Scalar)
    (hlines : linesHeight document ≤ 2 ^ 24) :
    textHeight document v ≤ 2 * linesHeight document := by
  have hdigits : 2 ^ ((textStart v).natAbs.log2 + 1 - 24) ∣ (textStart v).natAbs :=
    nearestPoint_toRat_dvd _
  unfold textHeight
  dsimp only
  change (heldInt (textStart v + linesHeight document) - textStart v).toNat ≤ _
  generalize textStart v = start at hdigits
  generalize linesHeight document = height at hlines
  rcases lt_or_ge (start + height) 0 with hneg | hnonneg
  · -- both ends are above the screen
    obtain ⟨n, hn⟩ : ∃ n : Nat, start + height = -(n : Int) :=
      ⟨(start + height).natAbs, by omega⟩
    have hnear := Rounding.sub_natToDigits_le (n := n) hdigits (by omega)
    have hheld : heldInt (start + height) = -(held n : Int) := by
      rw [hn, heldInt, Int.natAbs_neg, Int.natAbs_natCast, Int.sign_neg,
        Int.sign_eq_one_of_pos (by omega), neg_one_mul]
    rw [hheld]
    change n - held n ≤ _ at hnear
    omega
  rcases lt_or_ge start 0 with hstart | hstart
  · -- the end is not far away, though the beginning may be
    rw [heldInt_of_le (by omega)]
    omega
  · -- both ends are on the screen or below it
    obtain ⟨n, hn⟩ : ∃ n : Nat, start + height = (n : Int) :=
      ⟨(start + height).toNat, by omega⟩
    have hnear := Rounding.natToDigits_sub_le (n := n) (by norm_num) hdigits (by omega)
    have hheld : heldInt (start + height) ≤ held n := by
      rw [hn, heldInt, Int.natAbs_natCast]
      rcases Nat.eq_zero_or_pos n with rfl | h0
      · simp
      · rw [Int.sign_eq_one_of_pos (by omega), one_mul]
    change held n - n ≤ _ at hnear
    omega

end Reveal.Layout
