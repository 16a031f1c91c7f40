import Reveal.Proofs.Rounding
import Reveal.Scalar

/-!
# Reveal — the values of stored numbers

A stored number stands for a whole number of smallest steps, of which `2 ^ 149`
make one, or for the negative of that. The pattern without its sign bit is ordered
as these numbers of steps are, so that the order of the ranks is the order of the
values.

An operation rounds its exact result. Rounding is monotone and keeps what can be
stored (`Exact`), so the result lies between any two such bounds of the exact one.

## Results

* `toRat_le_toRat`   — a number of lower rank has a lower value.
* `rank_ofRat_le`    — rounding is monotone.
* `toRat_ofRat`      — rounding keeps what can be stored.
* `toRat_ofRat_mem`  — rounding crosses nothing that can be stored.
* `clamp_eq`         — clamping an offset takes a minimum.
-/

namespace Reveal.Scalar

/-! ## Steps -/

/-- The number of smallest steps that a pattern without sign stands for. -/
def steps (m : Nat) : Nat :=
  if m / 2 ^ 23 = 0 then m % 2 ^ 23 else (2 ^ 23 + m % 2 ^ 23) * 2 ^ (m / 2 ^ 23 - 1)

/-- A pattern put together of an exponent, counted from the smallest one, and the
significand with all its digits, which is where a carry of the rounding shows. -/
theorem steps_add {t s : Nat} (hs : s ≤ 2 ^ 24) (h : t = 0 ∨ 2 ^ 23 ≤ s) :
    steps (t * 2 ^ 23 + s) = s * 2 ^ t := by
  rcases Nat.lt_or_ge s (2 ^ 23) with hlow | hhigh
  · -- the highest digit is missing, which is so below the smallest normal number
    obtain rfl : t = 0 := by omega
    have hquot : (0 * 2 ^ 23 + s) / 2 ^ 23 = 0 := by omega
    have hrem : (0 * 2 ^ 23 + s) % 2 ^ 23 = s := by omega
    rw [steps, if_pos hquot, hrem, Nat.pow_zero, Nat.mul_one]
  rcases Nat.lt_or_ge s (2 ^ 24) with hlow | hcarry
  · have hquot : (t * 2 ^ 23 + s) / 2 ^ 23 = t + 1 := by omega
    have hrem : 2 ^ 23 + (t * 2 ^ 23 + s) % 2 ^ 23 = s := by omega
    rw [steps, if_neg (by omega), hquot, hrem, Nat.add_sub_cancel]
  · -- a carry: the exponent goes up by one more, and no digit is left
    obtain rfl : s = 2 ^ 24 := by omega
    have hquot : (t * 2 ^ 23 + 2 ^ 24) / 2 ^ 23 = t + 2 := by omega
    have hrem : (t * 2 ^ 23 + 2 ^ 24) % 2 ^ 23 = 0 := by omega
    rw [steps, if_neg (by omega), hquot, hrem, show t + 2 - 1 = t + 1 from rfl]
    ring

/-- Every pattern is put together so. -/
theorem exists_eq_add (m : Nat) :
    ∃ t s, m = t * 2 ^ 23 + s ∧ s < 2 ^ 24 ∧ (t = 0 ∨ 2 ^ 23 ≤ s) := by
  refine ⟨m / 2 ^ 23 - 1, m - (m / 2 ^ 23 - 1) * 2 ^ 23, ?_, ?_, ?_⟩ <;> omega

/-- The larger of two patterns stands for more steps. -/
theorem steps_lt_steps {m m' : Nat} (h : m < m') : steps m < steps m' := by
  obtain ⟨t, s, rfl, hs, hcase⟩ := exists_eq_add m
  obtain ⟨t', s', rfl, hs', hcase'⟩ := exists_eq_add m'
  rw [steps_add hs.le hcase, steps_add hs'.le hcase']
  -- one exponent more outweighs all digits
  rcases Nat.lt_trichotomy t t' with hlt | rfl | hgt
  · calc s * 2 ^ t < 2 ^ 24 * 2 ^ t := Nat.mul_lt_mul_of_pos_right hs (Nat.two_pow_pos t)
      _ = 2 ^ 23 * 2 ^ (t + 1) := by ring
      _ ≤ 2 ^ 23 * 2 ^ t' := Nat.mul_le_mul_left _ (Nat.pow_le_pow_right (by omega) hlt)
      _ ≤ s' * 2 ^ t' := Nat.mul_le_mul_right _ (by omega)
  · exact Nat.mul_lt_mul_of_pos_right (by omega) (Nat.two_pow_pos t)
  · omega

theorem steps_le_steps {m m' : Nat} (h : m ≤ m') : steps m ≤ steps m' := by
  rcases Nat.eq_or_lt_of_le h with rfl | h
  · exact Nat.le_refl _
  · exact (steps_lt_steps h).le

/-! ## Values -/

/-- Neither infinite nor a NaN. -/
def IsFinite (v : Scalar) : Prop := v.magnitude < infinityMagnitude

/-- A quotient by a power of two, or a product with one, as a quotient by the largest
one. -/
theorem mkRat_shift (s p k : Nat) (hp : 1 ≤ p) :
    mkRat ((s * 2 ^ (p - (k + 1)) : Nat) : Int) (2 ^ (k + 1 - p)) =
      ((s * 2 ^ (p - 1) : Nat) : ℚ) / 2 ^ k := by
  rw [Rat.mkRat_eq_div, div_eq_div_iff (by positivity) (by positivity)]
  push_cast
  rw [mul_assoc, mul_assoc, ← pow_add, ← pow_add]
  congr 2
  omega

/-- The value of a finite number, by its steps. -/
theorem toRat_eq {v : Scalar} (h : v.IsFinite) :
    v.toRat = (if v.isNegative then -1 else 1) * ((steps v.magnitude : ℚ) / 2 ^ 149) := by
  have hexp : v.magnitude / 2 ^ 23 < 255 := by
    rw [IsFinite, infinityMagnitude] at h
    omega
  have hsteps : (if v.magnitude / 2 ^ 23 = 0 then v.magnitude % 2 ^ 23
      else 2 ^ 23 + v.magnitude % 2 ^ 23) * 2 ^ (max (v.magnitude / 2 ^ 23) 1 - 1) =
        steps v.magnitude := by
    rw [steps]
    -- the smallest numbers have no leading digit
    by_cases h0 : v.magnitude / 2 ^ 23 = 0
    · rw [if_pos h0, if_pos h0, h0, show max 0 1 - 1 = 0 from rfl, Nat.pow_zero, Nat.mul_one]
    · rw [if_neg h0, if_neg h0, Nat.max_eq_left (by omega)]
  unfold toRat
  dsimp only
  rw [if_neg (by omega : ¬ v.magnitude / 2 ^ 23 = 255),
    mkRat_shift _ _ 149 (Nat.le_max_right _ _), hsteps]
  split
  · rw [neg_one_mul]
  · rw [one_mul]

/-- Infinities and NaNs count as zero. -/
theorem toRat_of_not_isFinite {v : Scalar} (h : ¬ v.IsFinite) : v.toRat = 0 := by
  have hexp : v.magnitude / 2 ^ 23 = 255 := by
    have : v.magnitude < 2 ^ 31 := Nat.mod_lt _ (by norm_num)
    rw [IsFinite, infinityMagnitude] at h
    omega
  unfold toRat
  dsimp only
  rw [if_pos hexp]
  simp

/-- Every value is a whole number of steps. -/
theorem exists_steps (v : Scalar) : ∃ k : Int, v.toRat = (k : ℚ) / 2 ^ 149 := by
  by_cases h : v.IsFinite
  · refine ⟨(if v.isNegative then -1 else 1) * steps v.magnitude, ?_⟩
    rw [toRat_eq h]
    push_cast
    ring
  · exact ⟨0, by rw [toRat_of_not_isFinite h]; simp⟩

theorem toRat_nonneg {v : Scalar} (h : v.IsFinite) (hv : 0 ≤ v.rank) : 0 ≤ v.toRat := by
  rw [toRat_eq h]
  by_cases hneg : v.isNegative
  · have : v.magnitude = 0 := by
      simp only [rank, hneg, if_true] at hv
      omega
    simp [this, steps]
  · rw [if_neg hneg, one_mul]
    positivity

/-- **Ranks are ordered as values are.** -/
theorem toRat_le_toRat {a b : Scalar} (ha : a.IsFinite) (hb : b.IsFinite)
    (h : a.rank ≤ b.rank) : a.toRat ≤ b.toRat := by
  have hstep : ∀ m m' : Nat, m ≤ m' → (steps m : ℚ) / 2 ^ 149 ≤ steps m' / 2 ^ 149 := by
    intro m m' hm
    gcongr
    exact_mod_cast steps_le_steps hm
  have hpos : ∀ m : Nat, (0 : ℚ) ≤ steps m / 2 ^ 149 := fun m => by positivity
  rw [toRat_eq ha, toRat_eq hb]
  unfold rank at h
  by_cases hna : a.isNegative <;> by_cases hnb : b.isNegative
  · simp only [hna, hnb, if_true] at h ⊢
    have := hstep b.magnitude a.magnitude (by omega)
    linarith
  · simp only [hna, hnb, if_true] at h ⊢
    have := hpos a.magnitude
    have := hpos b.magnitude
    simp only [Bool.false_eq_true, if_false]
    linarith
  · -- a positive number that is not above a negative one: both are zero
    simp only [hna, hnb, if_true, Bool.false_eq_true, if_false] at h ⊢
    have ha0 : a.magnitude = 0 := by omega
    have hb0 : b.magnitude = 0 := by omega
    simp [ha0, hb0, steps]
  · simp only [hna, hnb, Bool.false_eq_true, if_false] at h ⊢
    have := hstep a.magnitude b.magnitude (by omega)
    linarith

/-! ## Rounding a ratio -/

/-- The place of the highest digit that the number nearest to `n / d` may have. -/
def place (n d : Nat) : Int := max (Rounding.exponent n d) (-126)

/-- The digits of the number nearest to `n / d`, as a whole number. -/
def significand (n d : Nat) : Nat :=
  Rounding.divideEven (n * 2 ^ (23 - place n d).toNat) (d * 2 ^ (-(23 - place n d)).toNat)

/-- Below the next power of two a fraction has its first digit at this place, or at a later one. -/
theorem place_le {n d : Nat} (hn : 0 < n) (hd : 0 < d) {e : Int} (he : -126 ≤ e)
    (h : (n : ℚ) / d < 2 ^ (e + 1)) : place n d ≤ e := by
  have hlt : (2 : ℚ) ^ Rounding.exponent n d < 2 ^ (e + 1) :=
    (Rounding.exponent_le hn hd).trans_lt h
  have := (zpow_lt_zpow_iff_right₀ (by norm_num : (1 : ℚ) < 2)).mp hlt
  simp only [place]
  omega

/-- The significand has at most 24 digits, or is one with a carry. -/
theorem significand_le {n d : Nat} (hn : 0 < n) (hd : 0 < d) : significand n d ≤ 2 ^ 24 := by
  apply Rounding.divideEven_le (Nat.mul_pos hd (Nat.two_pow_pos _))
  rw [Rounding.scaled_div n hd]
  have hlt := Rounding.lt_exponent hn hd
  have hplace : Rounding.exponent n d + 1 ≤ place n d + 1 := by
    simp only [place]
    omega
  calc (n : ℚ) / d * 2 ^ (23 - place n d)
      ≤ 2 ^ (place n d + 1) * 2 ^ (23 - place n d) := by
        gcongr
        exact hlt.le.trans (zpow_le_zpow_right₀ (by norm_num) hplace)
    _ = ((2 ^ 24 : Nat) : ℚ) := by
        rw [← zpow_add₀ (by norm_num), show place n d + 1 + (23 - place n d) = 24 by ring]
        norm_num

/-- Unless its exponent is the smallest one, the significand has all its digits. -/
theorem le_significand {n d : Nat} (hn : 0 < n) (hd : 0 < d) (h : -126 < place n d) :
    2 ^ 23 ≤ significand n d := by
  have hplace : place n d = Rounding.exponent n d := by
    simp only [place] at h ⊢
    omega
  apply Rounding.le_divideEven (Nat.mul_pos hd (Nat.two_pow_pos _))
  rw [Rounding.scaled_div n hd]
  calc (((2 ^ 23 : Nat)) : ℚ) = 2 ^ place n d * 2 ^ (23 - place n d) := by
        rw [← zpow_add₀ (by norm_num), show place n d + (23 - place n d) = 23 by ring]
        norm_num
    _ ≤ (n : ℚ) / d * 2 ^ (23 - place n d) := by
        gcongr
        rw [hplace]
        exact Rounding.exponent_le hn hd

/-- The bits of a fraction: its place and its digits, as long as the place is not too far. -/
theorem ofRatio_bits {n d : Nat} (hn : 0 < n) :
    ofRatio n d =
      if 128 ≤ place n d then infinity
      else ⟨UInt32.ofNat ((place n d + 126).toNat * 2 ^ 23 + significand n d)⟩ := by
  rw [ofRatio, if_neg (by omega)]
  rfl

/-- The pattern of the number nearest to a ratio, where it is not too large. -/
theorem ofRatio_toNat {n d : Nat} (hn : 0 < n) (hd : 0 < d) (h : place n d < 128) :
    (ofRatio n d).bits.toNat = (place n d + 126).toNat * 2 ^ 23 + significand n d := by
  have hsig := significand_le hn hd
  have hlow : -126 ≤ place n d := by simp only [place]; omega
  rw [ofRatio_bits hn, if_neg (by omega), UInt32.toNat_ofNat', Nat.mod_eq_of_lt (by omega)]

theorem ofRatio_zero (d : Nat) : ofRatio 0 d = zero := rfl

/-- No number without a sign is above infinity. -/
theorem ofRatio_toNat_le (n : Nat) {d : Nat} (hd : 0 < d) :
    (ofRatio n d).bits.toNat ≤ infinityMagnitude := by
  rcases Nat.eq_zero_or_pos n with rfl | hn
  · rw [ofRatio_zero]
    exact Nat.zero_le _
  rcases lt_or_ge (place n d) 128 with h | h
  · have hsig := significand_le hn hd
    have hlow : -126 ≤ place n d := by simp only [place]; omega
    rw [ofRatio_toNat hn hd h, infinityMagnitude]
    omega
  · rw [ofRatio_bits hn, if_pos h]
    decide

/-- A fraction has no sign, so that its bits are its magnitude. -/
theorem magnitude_ofRatio (n : Nat) {d : Nat} (hd : 0 < d) :
    (ofRatio n d).magnitude = (ofRatio n d).bits.toNat := by
  have := ofRatio_toNat_le n hd
  rw [infinityMagnitude] at this
  exact Nat.mod_eq_of_lt (by omega)

theorem isNegative_ofRatio (n : Nat) {d : Nat} (hd : 0 < d) :
    (ofRatio n d).isNegative = false := by
  have := ofRatio_toNat_le n hd
  rw [infinityMagnitude] at this
  exact decide_eq_false (by omega)

/-- **Rounding a ratio is monotone.** Where the highest digits have different places,
the pattern with the higher one begins where the other ends. -/
theorem magnitude_ofRatio_le {n d n' d' : Nat} (hd : 0 < d) (hd' : 0 < d')
    (h : (n : ℚ) / d ≤ n' / d') : (ofRatio n d).magnitude ≤ (ofRatio n' d').magnitude := by
  rw [magnitude_ofRatio n hd, magnitude_ofRatio n' hd']
  rcases Nat.eq_zero_or_pos n with rfl | hn
  · rw [ofRatio_zero]
    exact Nat.zero_le _
  have hn' : 0 < n' := by
    rw [Rounding.div_le_div_iff_mul hd hd'] at h
    rcases Nat.eq_zero_or_pos n' with rfl | hn'
    · have := Nat.mul_pos hn hd'
      omega
    · exact hn'
  have hexp := Rounding.exponent_mono hn hd hn' hd' h
  have hplace : place n d ≤ place n' d' := by
    simp only [place]
    omega
  rcases lt_or_ge (place n' d') 128 with hsmall' | hbig'
  · have hlow : -126 ≤ place n d := by simp only [place]; omega
    rw [ofRatio_toNat hn hd (by omega), ofRatio_toNat hn' hd' hsmall']
    rcases Int.lt_or_eq_of_le hplace with hlt | heq
    · -- the one has all its digits, the other at most a carry more
      have hsig := significand_le hn hd
      have hsig' := le_significand hn' hd' (by omega)
      omega
    · -- the same scale: the digits are compared
      have hdigits : significand n d ≤ significand n' d' := by
        unfold significand
        rw [heq]
        apply Rounding.divideEven_mono (Nat.mul_pos hd (Nat.two_pow_pos _))
          (Nat.mul_pos hd' (Nat.two_pow_pos _))
        rw [← Rounding.div_le_div_iff_mul (Nat.mul_pos hd (Nat.two_pow_pos _))
          (Nat.mul_pos hd' (Nat.two_pow_pos _)), Rounding.scaled_div n hd,
          Rounding.scaled_div n' hd']
        gcongr
      rw [heq]
      omega
  · rw [ofRatio_bits hn', if_pos hbig']
    exact ofRatio_toNat_le n hd

/-- Where the highest digit of a ratio with 24 digits at most stands. -/
theorem place_le_add {n d k : Nat} {j : Int} (hn : 0 < n) (hd : 0 < d) (hk : k ≤ 2 ^ 24)
    (hj : -149 ≤ j) (h : (n : ℚ) / d = k * 2 ^ j) : place n d ≤ j + 24 := by
  have hk' : (k : ℚ) ≤ 2 ^ (24 : Int) := by
    rw [show (2 : ℚ) ^ (24 : Int) = ((2 ^ 24 : Nat) : ℚ) by norm_num]
    exact_mod_cast hk
  apply place_le hn hd (by omega)
  calc (n : ℚ) / d = k * 2 ^ j := h
    _ ≤ 2 ^ (24 : Int) * 2 ^ j := by gcongr
    _ = 2 ^ (j + 24) := by rw [← zpow_add₀ (by norm_num)]; congr 1; ring
    _ < 2 ^ (j + 24 + 1) := zpow_lt_zpow_right₀ (by norm_num) (by omega)

/-- **Rounding a ratio keeps what can be stored.** A ratio with 24 digits at most that is not too
large is what the nearest number stands for. -/
theorem steps_ofRatio_of_place {n d k : Nat} {j : Int} (hd : 0 < d) (hk : k ≤ 2 ^ 24)
    (hj : -149 ≤ j) (hsize : 0 < n → place n d < 128) (h : (n : ℚ) / d = k * 2 ^ j) :
    (ofRatio n d).IsFinite ∧ (steps (ofRatio n d).magnitude : ℚ) / 2 ^ 149 = n / d := by
  rcases Nat.eq_zero_or_pos n with rfl | hn
  · rw [ofRatio_zero]
    refine ⟨?_, by simp [steps, zero, magnitude]⟩
    show zero.magnitude < infinityMagnitude
    decide
  have hk' : (k : ℚ) ≤ 2 ^ (24 : Int) := by
    rw [show (2 : ℚ) ^ (24 : Int) = ((2 ^ 24 : Nat) : ℚ) by norm_num]
    exact_mod_cast hk
  have hplace : place n d ≤ j + 24 := place_le_add hn hd hk hj h
  have hsize := hsize hn
  -- the digits need no rounding
  obtain ⟨s, hs, hcarry⟩ : ∃ s : Nat, (n : ℚ) / d * 2 ^ (23 - place n d) = s ∧
      (place n d < j + 24 ∨ s = 2 ^ 23) := by
    rcases Int.lt_or_eq_of_le hplace with hlt | heq
    · obtain ⟨i, hi⟩ := Int.eq_ofNat_of_zero_le (show 0 ≤ j + (23 - place n d) by omega)
      refine ⟨k * 2 ^ i, ?_, Or.inl hlt⟩
      rw [h, mul_assoc, ← zpow_add₀ (by norm_num), hi]
      push_cast
      rfl
    · -- the only number of 25 digits among them is a power of two
      have hexp : Rounding.exponent n d = j + 24 := by
        simp only [place] at heq
        omega
      have hle := Rounding.exponent_le hn hd
      rw [h, hexp, add_comm, zpow_add₀ (by norm_num)] at hle
      have hpow : (2 : ℚ) ^ (24 : Int) ≤ k := le_of_mul_le_mul_right hle (by positivity)
      refine ⟨2 ^ 23, ?_, Or.inr rfl⟩
      rw [h, heq, le_antisymm hk' hpow, mul_assoc, ← zpow_add₀ (by norm_num),
        ← zpow_add₀ (by norm_num), show 24 + (j + (23 - (j + 24))) = (23 : Int) by ring]
      norm_num
  -- rounding crosses no whole number, from above or from below
  have hsig : significand n d = s := by
    have hpos : 0 < d * 2 ^ (-(23 - place n d)).toNat := Nat.mul_pos hd (Nat.two_pow_pos _)
    apply Nat.le_antisymm
    · exact Rounding.divideEven_le hpos (by rw [Rounding.scaled_div n hd, hs])
    · exact Rounding.le_divideEven hpos (by rw [Rounding.scaled_div n hd, hs])
  have hlow : -126 ≤ place n d := by simp only [place]; omega
  have hless : s < 2 ^ 24 := by
    have hlt := Rounding.lt_exponent hn hd
    have hle : Rounding.exponent n d ≤ place n d := by simp only [place]; omega
    have : (s : ℚ) < 2 ^ (24 : Int) := by
      calc (s : ℚ) = n / d * 2 ^ (23 - place n d) := hs.symm
        _ < 2 ^ (Rounding.exponent n d + 1) * 2 ^ (23 - place n d) := by gcongr
        _ ≤ 2 ^ (place n d + 1) * 2 ^ (23 - place n d) := by gcongr; norm_num
        _ = 2 ^ (24 : Int) := by rw [← zpow_add₀ (by norm_num)]; congr 1; ring
    exact_mod_cast this
  have hmag : (ofRatio n d).magnitude = (place n d + 126).toNat * 2 ^ 23 + s := by
    rw [magnitude_ofRatio n hd, ofRatio_toNat hn hd hsize, hsig]
  constructor
  · rw [IsFinite, hmag, infinityMagnitude]
    omega
  · rw [hmag, steps_add (by omega) (by
      rcases Int.lt_or_eq_of_le hlow with hlt | heq
      · exact Or.inr (hsig ▸ le_significand hn hd hlt)
      · exact Or.inl (by omega))]
    have hscale : (((2 : Nat) ^ (place n d + 126).toNat : Nat) : ℚ) = 2 ^ (place n d + 126) := by
      rw [Nat.cast_pow, Nat.cast_ofNat, ← zpow_natCast]
      congr 1
      omega
    rw [Nat.cast_mul, hscale, ← hs, mul_assoc, ← zpow_add₀ (by norm_num),
      show 23 - place n d + (place n d + 126) = ((149 : Nat) : Int) by push_cast; ring,
      zpow_natCast, mul_div_assoc, div_self (by positivity), mul_one]

/-- The same for a ratio that has few enough digits and places. -/
theorem steps_ofRatio {n d k : Nat} {j : Int} (hd : 0 < d) (hk : k ≤ 2 ^ 24) (hj : -149 ≤ j)
    (hj' : j ≤ 103) (h : (n : ℚ) / d = k * 2 ^ j) :
    (ofRatio n d).IsFinite ∧ (steps (ofRatio n d).magnitude : ℚ) / 2 ^ 149 = n / d := by
  refine steps_ofRatio_of_place hd hk hj (fun hn => ?_) h
  have := place_le_add hn hd hk hj h
  omega

/-! ## Rounding a number -/

theorem negate_toNat {v : Scalar} (h : v.bits.toNat < 2 ^ 31) :
    v.negate.bits.toNat = 2 ^ 31 + v.bits.toNat := by
  have hmod : (v.bits.toNat ^^^ 2 ^ 31) % 2 ^ 31 = v.bits.toNat := by
    rw [Nat.xor_mod_two_pow, Nat.mod_eq_of_lt h]
    simp
  have hdiv : (v.bits.toNat ^^^ 2 ^ 31) / 2 ^ 31 = 1 := by
    rw [Nat.xor_div_two_pow, Nat.div_eq_of_lt h]
    simp
  have := Nat.div_add_mod (v.bits.toNat ^^^ 2 ^ 31) (2 ^ 31)
  rw [negate, UInt32.toNat_xor]
  change v.bits.toNat ^^^ 2 ^ 31 = _
  omega

/-- The pattern that a number is rounded to, without its sign. -/
def rounded (q : ℚ) : Nat := (ofRatio q.num.natAbs q.den).magnitude

/-- The bit of the sign is left over. -/
theorem rounded_lt (q : ℚ) : (ofRatio q.num.natAbs q.den).bits.toNat < 2 ^ 31 := by
  have := ofRatio_toNat_le q.num.natAbs q.den_pos
  rw [infinityMagnitude] at this
  omega

theorem magnitude_ofRat (q : ℚ) : (ofRat q).magnitude = rounded q := by
  have hlt := rounded_lt q
  unfold ofRat rounded
  dsimp only
  split
  · rw [magnitude, negate_toNat hlt, Nat.add_mod_left, magnitude]
  · rfl

theorem isNegative_ofRat (q : ℚ) : (ofRat q).isNegative = decide (q < 0) := by
  have hlt := rounded_lt q
  unfold ofRat
  dsimp only
  split
  · next h => rw [isNegative, negate_toNat hlt, decide_eq_true h, decide_eq_true (by omega)]
  · next h => rw [isNegative_ofRatio _ q.den_pos, decide_eq_false h]

/-- The rank of a number that is kept: as far from zero as its size is, on its side. -/
theorem rank_ofRat (q : ℚ) :
    (ofRat q).rank = if q < 0 then -(rounded q : Int) else rounded q := by
  simp only [rank, magnitude_ofRat, isNegative_ofRat, decide_eq_true_eq]

/-- What is larger is not rounded to less. -/
theorem rounded_le_rounded {q r : ℚ} (h : |q| ≤ |r|) : rounded q ≤ rounded r := by
  apply magnitude_ofRatio_le q.den_pos r.den_pos
  rwa [Rounding.abs_eq_ratio, Rounding.abs_eq_ratio]

/-- **Rounding is monotone.** -/
theorem rank_ofRat_le {q r : ℚ} (h : q ≤ r) : (ofRat q).rank ≤ (ofRat r).rank := by
  rw [rank_ofRat, rank_ofRat]
  rcases lt_or_ge q 0 with hq | hq <;> rcases lt_or_ge r 0 with hr | hr
  · have := rounded_le_rounded (q := r) (r := q) (by rw [abs_of_neg hq, abs_of_neg hr]; linarith)
    simp only [hq, hr, if_true]
    omega
  · simp only [hq, if_true, not_lt.mpr hr, if_false]
    omega
  · exact absurd (hq.trans h) (not_le.mpr hr)
  · have := rounded_le_rounded (q := q) (r := r)
      (by rw [abs_of_nonneg hq, abs_of_nonneg hr]; exact h)
    simp only [not_lt.mpr hq, not_lt.mpr hr, if_false]
    omega

/-- What can be stored as it is: at most 24 digits, neither too large nor too small. -/
def Exact (q : ℚ) : Prop :=
  ∃ (k : Nat) (j : Int), k ≤ 2 ^ 24 ∧ -149 ≤ j ∧ j ≤ 103 ∧ |q| = k * 2 ^ j

/-- **Rounding keeps what can be stored.** -/
theorem toRat_ofRat {q : ℚ} (h : Exact q) : (ofRat q).IsFinite ∧ (ofRat q).toRat = q := by
  obtain ⟨k, j, hk, hj, hj', habs⟩ := h
  rw [← Rounding.abs_eq_ratio] at habs
  obtain ⟨hfinite, hvalue⟩ := steps_ofRatio q.den_pos hk hj hj' habs
  have hfin : (ofRat q).IsFinite := by
    rw [IsFinite, magnitude_ofRat]
    exact hfinite
  refine ⟨hfin, ?_⟩
  rw [toRat_eq hfin, magnitude_ofRat, rounded, hvalue, Rounding.abs_eq_ratio, isNegative_ofRat]
  rcases lt_or_ge q 0 with hq | hq
  · simp [hq, abs_of_neg hq]
  · simp [not_lt.mpr hq, abs_of_nonneg hq]

theorem natAbs_rank (v : Scalar) : v.rank.natAbs = v.magnitude := by
  unfold rank
  split <;> omega

/-- **Rounding crosses nothing that can be stored.** -/
theorem toRat_ofRat_mem {a b q : ℚ} (ha : Exact a) (hb : Exact b) (haq : a ≤ q) (hqb : q ≤ b) :
    (ofRat q).IsFinite ∧ a ≤ (ofRat q).toRat ∧ (ofRat q).toRat ≤ b := by
  obtain ⟨hfa, hva⟩ := toRat_ofRat ha
  obtain ⟨hfb, hvb⟩ := toRat_ofRat hb
  have hlow := rank_ofRat_le haq
  have hhigh := rank_ofRat_le hqb
  -- between two patterns that are finite, whatever their signs
  have hfq : (ofRat q).IsFinite := by
    have hma := natAbs_rank (ofRat a)
    have hmb := natAbs_rank (ofRat b)
    have hmq := natAbs_rank (ofRat q)
    unfold IsFinite at *
    omega
  refine ⟨hfq, ?_, ?_⟩
  · rw [← hva]
    exact toRat_le_toRat hfa hfq hlow
  · rw [← hvb]
    exact toRat_le_toRat hfq hfb hhigh

/-- What is rounded from a whole number of steps is no negative zero: only zero itself
is rounded to zero. -/
theorem ofRat_eq_zero {q : ℚ} {k : Int} (hq : q = (k : ℚ) / 2 ^ 149) (h : (ofRat q).rank = 0) :
    ofRat q = zero := by
  by_contra hne
  have hq0 : q ≠ 0 := by
    rintro rfl
    exact hne rfl
  -- then it is at least one step, and a step is not rounded to zero
  have hstep : |((1 : ℚ) / 2 ^ 149)| ≤ |q| := by
    have hk : (1 : ℚ) ≤ |(k : ℚ)| := by
      have : k ≠ 0 := by
        rintro rfl
        exact hq0 (by simp [hq])
      exact_mod_cast Int.one_le_abs this
    rw [hq, abs_div, abs_div, abs_one]
    gcongr
  have hexact : Exact (1 / 2 ^ 149) :=
    ⟨1, -149, by norm_num, by norm_num, by norm_num, by rw [abs_of_pos (by positivity)]; norm_num⟩
  have hpos : 0 < rounded (1 / 2 ^ 149) := by
    have hvalue := (toRat_ofRat hexact).2
    rw [toRat_eq (toRat_ofRat hexact).1, magnitude_ofRat] at hvalue
    rcases Nat.eq_zero_or_pos (rounded (1 / 2 ^ 149)) with h0 | h0
    · rw [h0] at hvalue
      norm_num [steps] at hvalue
    · exact h0
  have hle := rounded_le_rounded hstep
  have := natAbs_rank (ofRat q)
  rw [magnitude_ofRat] at this
  omega

/-! ## Numbers that can be stored -/

theorem exact_half {n : Nat} (h : n ≤ 2 ^ 24) : Exact (n / 2) :=
  ⟨n, -1, h, by norm_num, by norm_num, by
    rw [abs_of_nonneg (by positivity), zpow_neg_one]; ring⟩

theorem exact_natCast {n : Nat} (h : n ≤ 2 ^ 24) : Exact n :=
  ⟨n, 0, h, by norm_num, by norm_num, by rw [abs_of_nonneg (by positivity)]; simp⟩

theorem exact_double {n : Nat} (h : n ≤ 2 ^ 24) : Exact (2 * n) :=
  ⟨n, 1, h, by norm_num, by norm_num, by rw [abs_of_nonneg (by positivity), zpow_one]; ring⟩

theorem Exact.neg {q : ℚ} (h : Exact q) : Exact (-q) := by
  obtain ⟨k, j, hk, hj, hj', habs⟩ := h
  exact ⟨k, j, hk, hj, hj', by rw [abs_neg, habs]⟩

/-- A whole number is kept as the fraction that it is. -/
theorem ofRat_natCast (n : Nat) : ofRat (n : ℚ) = ofNat n := by
  have hneg : ¬ ((n : ℚ) < 0) := not_lt.mpr (Nat.cast_nonneg n)
  unfold ofRat
  dsimp only
  rw [if_neg hneg, Rat.num_natCast, Rat.den_natCast, Int.natAbs_natCast, ofNat]

/-- Whole numbers up to `2 ^ 24` are kept as they are. -/
theorem toRat_ofNat {n : Nat} (h : n ≤ 2 ^ 24) : (ofNat n).IsFinite ∧ (ofNat n).toRat = n := by
  rw [← ofRat_natCast]
  exact toRat_ofRat (exact_natCast h)

theorem rank_ofNat_nonneg (n : Nat) : 0 ≤ (ofNat n).rank := by
  rw [← ofRat_natCast, rank_ofRat, if_neg (not_lt.mpr (Nat.cast_nonneg n))]
  exact Int.natCast_nonneg _

theorem rank_ofNat_le {m n : Nat} (h : m ≤ n) : (ofNat m).rank ≤ (ofNat n).rank := by
  rw [← ofRat_natCast, ← ofRat_natCast]
  exact rank_ofRat_le (by exact_mod_cast h)

/-- Doubling only moves the binary digits. -/
theorem toRat_ofNat_double {n : Nat} (h : n ≤ 2 ^ 24) :
    (ofNat (2 * n)).IsFinite ∧ (ofNat (2 * n)).toRat = 2 * n := by
  have hcast : (2 * n : ℚ) = ((2 * n : Nat) : ℚ) := by push_cast; rfl
  rw [hcast, ← ofRat_natCast, ← hcast]
  exact toRat_ofRat (exact_double h)

theorem toRat_ofNat_nonneg (n : Nat) : 0 ≤ (ofNat n).toRat := by
  by_cases hf : (ofNat n).IsFinite
  · exact toRat_nonneg hf (rank_ofNat_nonneg n)
  · rw [toRat_of_not_isFinite hf]

/-- What lies between zero and a finite number is finite. -/
theorem IsFinite.of_rank_le {v w : Scalar} (hw : w.IsFinite) (hv : 0 ≤ v.rank)
    (h : v.rank ≤ w.rank) : v.IsFinite := by
  have := natAbs_rank v
  have := natAbs_rank w
  unfold IsFinite at hw ⊢
  omega

/-- The difference of whole numbers, but not less than zero. -/
theorem larger_sub_ofNat {m n : Nat} (hm : m ≤ 2 ^ 24) (hn : n ≤ 2 ^ 24) :
    (ofNat m - ofNat n).larger zero = ofNat (m - n) := by
  have hsub : ofNat m - ofNat n = ofRat ((m : ℚ) - n) := by
    show ofRat (_ - _) = _
    rw [(toRat_ofNat hm).2, (toRat_ofNat hn).2]
  have hzero : zero.rank = 0 := by decide
  rw [hsub]
  unfold larger
  rcases Nat.le_total n m with h | h
  · rw [← Nat.cast_sub h, ofRat_natCast, hzero, if_neg (not_lt.mpr (rank_ofNat_nonneg _))]
  · have hrank : (ofRat ((m : ℚ) - n)).rank ≤ 0 := by
      have hle : (m : ℚ) - n ≤ ((0 : Nat) : ℚ) := by
        rw [Nat.cast_zero, sub_nonpos]
        exact_mod_cast h
      have := rank_ofRat_le hle
      rw [ofRat_natCast] at this
      exact this
    rw [Nat.sub_eq_zero_of_le h, hzero]
    rcases lt_or_eq_of_le hrank with hlt | heq
    · rw [if_pos hlt]
      rfl
    -- the difference is zero, and not the negative one
    · rw [if_neg (by omega)]
      refine ofRat_eq_zero (k := ((m : Int) - n) * 2 ^ 149) ?_ heq
      rw [Int.cast_mul, Int.cast_pow, Int.cast_ofNat, mul_div_cancel_right₀ _ (by positivity)]
      push_cast
      rfl

/-! ## The smaller and the larger of two -/

theorem smaller_assoc (a b c : Scalar) : (a.smaller b).smaller c = a.smaller (b.smaller c) := by
  simp only [smaller]
  grind

theorem rank_smaller_le (a b : Scalar) : (a.smaller b).rank ≤ a.rank := by
  unfold smaller
  split
  · omega
  · exact le_rfl

theorem rank_le_rank_larger (a b : Scalar) : a.rank ≤ (a.larger b).rank := by
  unfold larger
  split
  · omega
  · exact le_rfl

/-- Two numbers without a sign that have the same rank are the same. -/
theorem eq_of_rank_eq {a b : Scalar} (ha : a.isNegative = false) (hb : b.isNegative = false)
    (h : a.rank = b.rank) : a = b := by
  simp only [rank, ha, hb, Bool.false_eq_true, if_false, magnitude] at h
  simp only [isNegative, decide_eq_false_iff_not] at ha hb
  obtain ⟨a⟩ := a
  obtain ⟨b⟩ := b
  simp only [mk.injEq] at *
  apply UInt32.toNat_inj.mp
  omega

/-- Two magnitudes are not so many steps from zero. -/
theorem steps_injective : Function.Injective steps := by
  intro m m' h
  rcases Nat.lt_trichotomy m m' with hlt | heq | hlt
  · exact absurd h (steps_lt_steps hlt).ne
  · exact heq
  · exact absurd h (steps_lt_steps hlt).ne'

/-- **What is stored is rounded to itself**, if it is positive. -/
theorem ofRat_toRat {v : Scalar} (h : v.IsFinite) (hpos : 0 < v.rank) : ofRat v.toRat = v := by
  have hneg : v.isNegative = false := by
    by_contra hneg
    rw [rank, if_pos (by simpa using hneg)] at hpos
    omega
  have hvalue : v.toRat = (steps v.magnitude : ℚ) / 2 ^ 149 := by
    rw [toRat_eq h, hneg, if_neg (by simp), one_mul]
  have hnonneg : ¬ v.toRat < 0 := not_lt.mpr (by rw [hvalue]; positivity)
  -- it has 24 digits at most, and stands below the place of infinity
  obtain ⟨t, k, hm, hk, hcase⟩ := exists_eq_add v.magnitude
  have hdigits : |v.toRat| = k * 2 ^ ((t : Int) - 149) := by
    rw [abs_of_nonneg (not_lt.mp hnonneg), hvalue, hm, steps_add hk.le hcase,
      zpow_sub₀ (by norm_num), zpow_natCast]
    push_cast
    rw [mul_div_assoc]
    rfl
  rw [← Rounding.abs_eq_ratio] at hdigits
  have ht : (t : Int) - 149 ≤ 104 := by
    rw [IsFinite, infinityMagnitude] at h
    omega
  have hbelow : (v.toRat.num.natAbs : ℚ) / v.toRat.den < 2 ^ ((127 : Int) + 1) := by
    have hk' : (k : ℚ) < 2 ^ (24 : Int) := by exact_mod_cast hk
    calc (v.toRat.num.natAbs : ℚ) / v.toRat.den
        = k * 2 ^ ((t : Int) - 149) := hdigits
      _ < 2 ^ (24 : Int) * 2 ^ ((t : Int) - 149) := by gcongr
      _ ≤ 2 ^ (24 : Int) * 2 ^ (104 : Int) := by gcongr; norm_num
      _ = 2 ^ ((127 : Int) + 1) := by rw [← zpow_add₀ (by norm_num)]; norm_num
  have hplace : 0 < v.toRat.num.natAbs → place v.toRat.num.natAbs v.toRat.den < 128 := by
    intro hn
    have := place_le hn v.toRat.den_pos (by norm_num) hbelow
    omega
  obtain ⟨-, hsteps⟩ := steps_ofRatio_of_place v.toRat.den_pos hk.le (by omega) hplace hdigits
  have hsame : rounded v.toRat = v.magnitude := by
    apply steps_injective
    rw [Rounding.abs_eq_ratio, abs_of_nonneg (not_lt.mp hnonneg), hvalue,
      div_left_inj' (by positivity)] at hsteps
    rw [rounded, hvalue]
    exact_mod_cast hsteps
  apply eq_of_rank_eq
  · rw [isNegative_ofRat, decide_eq_false hnonneg]
  · exact hneg
  · rw [rank_ofRat, if_neg hnonneg, hsame, rank, hneg, if_neg (by simp)]

/-- Whole numbers are compared as they are, also where both are rounded. -/
theorem smaller_ofNat (m n : Nat) : (ofNat m).smaller (ofNat n) = ofNat (min m n) := by
  have hneg : ∀ k, (ofNat k).isNegative = false := fun k => isNegative_ofRatio k Nat.one_pos
  unfold smaller
  rcases Nat.le_total m n with h | h
  · rw [if_neg (not_lt.mpr (rank_ofNat_le h)), Nat.min_eq_left h]
  · rw [Nat.min_eq_right h]
    split
    · rfl
    · -- different whole numbers may be rounded to the same
      next hlt =>
      exact eq_of_rank_eq (hneg m) (hneg n) (le_antisymm (not_lt.mp hlt) (rank_ofNat_le h))

/-- **Repeated minima are one.** The order in which whole numbers are taken in does not
matter, only the least of them. -/
theorem foldl_smaller_ofNat (v : Scalar) (l : List Nat) :
    (l.map ofNat).foldl smaller v = l.min?.elim v fun m => v.smaller (ofNat m) := by
  induction l generalizing v with
  | nil => rfl
  | cons a l ih =>
    rw [List.map_cons, List.foldl_cons, ih, List.min?_cons]
    cases l.min? with
    | none => rfl
    | some m => simp only [Option.elim_some, smaller_assoc, smaller_ofNat]

/-! ## Clamping -/

/-- By how much a text may be scrolled: not at all, or by a positive number. -/
def IsOffset (v : Scalar) : Prop := v = zero ∨ v.isPositive = true

theorem IsOffset.rank_nonneg {v : Scalar} (h : v.IsOffset) : 0 ≤ v.rank := by
  rcases h with rfl | h
  · decide
  · simp only [isPositive, Bool.and_eq_true, decide_eq_true_eq] at h
    omega

theorem IsOffset.toRat_nonneg {v : Scalar} (h : v.IsOffset) : 0 ≤ v.toRat := by
  by_cases hf : v.IsFinite
  · exact Scalar.toRat_nonneg hf h.rank_nonneg
  · rw [toRat_of_not_isFinite hf]

theorem rank_zero : zero.rank = 0 := by decide

/-- The smaller of a bound and what remains of a number without its sign. -/
theorem clamp_eq_of_isOffset {v : Scalar} (h : v.IsOffset) (r : Scalar) :
    v.clamp r = (v.smaller r).larger zero := by
  unfold clamp
  rcases h with rfl | h
  · rw [if_neg (by decide)]
  · rw [if_pos h]

/-- **Clamping an offset** takes the smaller of it and the limit. -/
theorem clamp_eq {v : Scalar} (h : v.IsOffset) (r : Scalar) :
    v.clamp r = v.smaller (r.larger zero) := by
  have hv := h.rank_nonneg
  rw [clamp_eq_of_isOffset h]
  have hz := rank_zero
  unfold smaller larger
  by_cases hr : r.rank < 0
  · -- no room at all: both sides are zero
    rw [if_pos (by omega : r.rank < v.rank), hz, if_pos hr, hz]
    rcases h with rfl | h
    · rw [if_neg (by omega)]
    · simp only [isPositive, Bool.and_eq_true, decide_eq_true_eq] at h
      rw [if_pos h.2]
  · rw [hz, if_neg hr]
    by_cases hlt : r.rank < v.rank
    · rw [if_pos hlt, if_neg hr]
    · rw [if_neg hlt, if_neg (by omega)]

/-- What is clamped to a limit that is no negative zero is an offset. -/
theorem isOffset_clamp (v : Scalar) {r : Scalar} (hr : r.rank = 0 → r = zero) :
    (v.clamp r).IsOffset := by
  have hstart : (if v.isPositive then v else zero).IsOffset := by
    split
    · next h => exact Or.inr h
    · exact Or.inl rfl
  unfold clamp
  set w := if v.isPositive then v else zero with hw
  have hwr := hstart.rank_nonneg
  have hz := rank_zero
  unfold smaller larger
  by_cases hlt : r.rank < w.rank
  · rw [if_pos hlt, hz]
    rcases lt_trichotomy r.rank 0 with hneg | hzero | hpos
    · rw [if_pos hneg]
      exact Or.inl rfl
    · rw [hr hzero]
      exact Or.inl rfl
    · -- below a number, so itself one
      rw [if_neg (by omega)]
      refine Or.inr ?_
      have hwpos : w.isPositive = true := by
        rcases hstart with h | h
        · rw [h] at hlt
          omega
        · exact h
      simp only [isPositive, isNaN, Bool.and_eq_true, Bool.not_eq_true', decide_eq_false_iff_not,
        decide_eq_true_eq] at hwpos ⊢
      have := natAbs_rank r
      have := natAbs_rank w
      omega
  · rw [if_neg hlt, if_neg (by omega)]
    exact hstart

/-- What is clamped is not above the limit, unless that is negative. -/
theorem rank_clamp_le (v r : Scalar) : (v.clamp r).rank ≤ max r.rank 0 := by
  have hz := rank_zero
  unfold clamp
  set w := if v.isPositive then v else zero
  unfold smaller larger
  split <;> split <;> omega

/-- What is not positive is brought to zero, whatever the limit is. -/
theorem clamp_of_not_isPositive {v : Scalar} (h : v.isPositive = false) (r : Scalar) :
    v.clamp r = zero := by
  have hz := rank_zero
  unfold clamp
  rw [h, if_neg (by simp)]
  unfold smaller larger
  by_cases hr : r.rank < 0
  · rw [hz, if_pos hr, if_pos hr]
  · rw [hz, if_neg hr, hz, if_neg (by omega)]

/-- Where there is no room, nothing is left. -/
theorem clamp_of_nonpos (v : Scalar) {r : Scalar} (hr : r.rank < 0 ∨ r = zero) :
    v.clamp r = zero := by
  have hz := rank_zero
  cases hv : v.isPositive with
  | false => exact clamp_of_not_isPositive hv r
  | true =>
    have hpos : 0 < v.rank := by
      simp only [isPositive, Bool.and_eq_true, decide_eq_true_eq] at hv
      exact hv.2
    unfold clamp
    rw [hv, if_pos rfl]
    -- a positive number is brought down to the range, and then up to zero
    rcases hr with hneg | rfl
    · unfold smaller
      rw [if_pos (by omega)]
      unfold larger
      rw [hz, if_pos hneg]
    · unfold smaller
      rw [hz, if_pos hpos]
      rfl

/-- A negative limit is as good as zero. -/
theorem clamp_larger_zero (v r : Scalar) : v.clamp (r.larger zero) = v.clamp r := by
  unfold larger
  rw [rank_zero]
  split
  · next hneg => rw [clamp_of_nonpos v (.inl hneg), clamp_of_nonpos v (.inr rfl)]
  · rfl

/-- What is brought into a range does not go up, except to zero. -/
theorem rank_clamp_le_self (v r : Scalar) : (v.clamp r).rank ≤ max v.rank 0 := by
  have hz := rank_zero
  unfold clamp
  have hstart : (if v.isPositive then v else zero).rank ≤ max v.rank 0 := by
    split <;> omega
  generalize (if v.isPositive then v else zero) = w at hstart ⊢
  unfold smaller larger
  split <;> split <;> omega

theorem rank_larger_zero (v : Scalar) : (v.larger zero).rank = max v.rank 0 := by
  unfold larger
  rw [rank_zero]
  split
  · rw [rank_zero]
    omega
  · omega

/-! ## Values that are not positive -/

/-- What is no finite positive number has no positive value: an infinity has none at all. -/
theorem toRat_nonpos {v : Scalar} (h : ¬ (v.IsFinite ∧ 0 < v.rank)) : v.toRat ≤ 0 := by
  by_cases hfinite : v.IsFinite
  · have hrank : v.rank ≤ zero.rank := by
      rw [rank_zero]
      by_contra hlt
      exact h ⟨hfinite, by omega⟩
    have hle := toRat_le_toRat hfinite (show zero.magnitude < infinityMagnitude by decide) hrank
    rwa [show zero.toRat = 0 from by decide] at hle
  · rw [toRat_of_not_isFinite hfinite]

/-- A positive number other than infinity is finite. -/
theorem isFinite_of_isPositive {v : Scalar} (hv : v.isPositive = true) (h : v ≠ infinity) :
    v.IsFinite ∧ 0 < v.rank := by
  simp only [isPositive, Bool.and_eq_true, decide_eq_true_eq, isNaN, Bool.not_eq_true',
    decide_eq_false_iff_not, not_lt] at hv
  refine ⟨lt_of_le_of_ne hv.1 fun hsame => h ?_, hv.2⟩
  apply eq_of_rank_eq
  · by_contra hneg
    rw [rank, if_pos (by simpa using hneg)] at hv
    omega
  · decide
  · have hrank := natAbs_rank v
    have : infinity.rank = infinityMagnitude := by decide
    omega

/-- **Subtracting nothing** does not show when the number is brought into a range. -/
theorem clamp_sub_zero {v : Scalar} (h : v ≠ infinity) (r : Scalar) :
    (v - zero).clamp r = v.clamp r := by
  have hsub : v - zero = ofRat v.toRat := by
    show ofRat (v.toRat - zero.toRat) = _
    rw [show zero.toRat = 0 from by decide, sub_zero]
  rw [hsub]
  by_cases hpositive : v.isPositive = true
  · -- a positive number is the nearest one to itself
    obtain ⟨hfinite, hrank⟩ := isFinite_of_isPositive hpositive h
    rw [ofRat_toRat hfinite hrank]
  · -- all others are brought to zero, before and after
    have hnot : (ofRat v.toRat).isPositive = false := by
      have hnonpos : v.toRat ≤ 0 := by
        refine toRat_nonpos fun ⟨hfinite, hrank⟩ => hpositive ?_
        rw [isPositive, isNaN, Bool.and_eq_true, decide_eq_true_eq, Bool.not_eq_true',
          decide_eq_false_iff_not, not_lt]
        exact ⟨le_of_lt hfinite, hrank⟩
      have hrank : (ofRat v.toRat).rank ≤ 0 := rank_ofRat_le (r := 0) hnonpos
      rw [isPositive, decide_eq_false (by omega), Bool.and_false]
    rw [clamp_of_not_isPositive hnot, clamp_of_not_isPositive (by simpa using hpositive)]

end Reveal.Scalar
