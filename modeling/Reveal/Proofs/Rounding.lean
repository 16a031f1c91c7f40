import Mathlib.Algebra.Order.Field.Power
import Mathlib.Data.Rat.Floor
import Mathlib.Tactic.FieldSimp
import Mathlib.Tactic.Linarith
import Mathlib.Tactic.NormNum
import Mathlib.Tactic.Positivity
import Mathlib.Tactic.Ring
import Reveal.Rounding

/-!
# Reveal — what rounding keeps

Rounding is monotone, and it fixes what needs no rounding: from these two follow all
the bounds on rounded results, because a bound that is itself a result is never
crossed.

## Results

* `divideEven_mono`    — the rounded quotient grows with the exact one.
* `exponent_le`, `lt_exponent` — `exponent` is the place of the highest digit.
* `sub_natToDigits_le`, `natToDigits_sub_le` — nothing that has few digits is nearer than
  the result.
* `toDigits_eq`        — a number with few digits is kept.
* `abs_toDigits_sub_le` — what is not kept is moved by little.
* `abs_toDigits_sub_le_of_digits` — and to the nearest number that has few digits.
-/

namespace Reveal.Rounding

/-! ## Division -/

/-- A quotient halfway between two whole numbers goes to the even one. -/
theorem divideEven_of_tie {n d j : Nat} (hd : 0 < d) (h : 2 * n = (2 * j + 1) * d) :
    divideEven n d = if j % 2 = 1 then j + 1 else j := by
  -- the left side is even and `2 * j + 1` is not, so the divisor is
  obtain ⟨half, rfl⟩ : ∃ half, d = 2 * half := by
    refine ⟨d / 2, ?_⟩
    have : (2 * j + 1) * d = 2 * (j * d) + d := by ring
    omega
  have hn : n = half + 2 * half * j := by
    have : (2 * j + 1) * (2 * half) = 2 * (half + 2 * half * j) := by ring
    omega
  have hquot : n / (2 * half) = j := by
    rw [hn, Nat.add_mul_div_left _ _ hd, Nat.div_eq_of_lt (by omega), Nat.zero_add]
  have hrem : n % (2 * half) = half := by
    rw [hn, Nat.add_mul_mod_self_left, Nat.mod_eq_of_lt (by omega)]
  simp only [divideEven, hquot, hrem]
  by_cases hodd : j % 2 = 1
  · rw [if_pos (Or.inr ⟨trivial, hodd⟩), if_pos hodd]
  · rw [if_neg (by omega), if_neg hodd]

/-- The rounded quotient is at most a half above the exact one. -/
theorem two_mul_divideEven_le (n : Nat) {d : Nat} (hd : 0 < d) :
    2 * divideEven n d * d ≤ 2 * n + d := by
  have hdiv := Nat.div_add_mod n d
  have hmod := Nat.mod_lt n hd
  simp only [divideEven]
  split
  · have : 2 * (n / d + 1) * d = 2 * (d * (n / d)) + 2 * d := by ring
    omega
  · have : 2 * (n / d) * d = 2 * (d * (n / d)) := by ring
    omega

/-- The rounded quotient is at most a half below the exact one. -/
theorem le_two_mul_divideEven (n : Nat) {d : Nat} (hd : 0 < d) :
    2 * n ≤ (2 * divideEven n d + 1) * d := by
  have hdiv := Nat.div_add_mod n d
  have hmod := Nat.mod_lt n hd
  simp only [divideEven]
  split
  · have : (2 * (n / d + 1) + 1) * d = 2 * (d * (n / d)) + 3 * d := by ring
    omega
  · have : (2 * (n / d) + 1) * d = 2 * (d * (n / d)) + d := by ring
    omega

/-- **Rounded division is monotone.** Where the results could cross, both quotients
lie halfway between the same two numbers, and go to the same one of them. -/
theorem divideEven_mono {n d n' d' : Nat} (hd : 0 < d) (hd' : 0 < d')
    (h : n * d' ≤ n' * d) : divideEven n d ≤ divideEven n' d' := by
  by_contra hlt
  have hup := two_mul_divideEven_le n hd
  have hlow := le_two_mul_divideEven n' hd'
  set k := divideEven n d with hk
  set k' := divideEven n' d' with hk'
  obtain ⟨gap, hgap⟩ : ∃ gap, k = k' + 1 + gap := ⟨k - (k' + 1), by omega⟩
  have hpos : 0 < d * d' := Nat.mul_pos hd hd'
  -- over the common divisor: up by a half at most, and down by a half at most
  have hup' : 2 * k * (d * d') ≤ 2 * (n * d') + d * d' := by
    calc 2 * k * (d * d') = 2 * k * d * d' := by ring
      _ ≤ (2 * n + d) * d' := Nat.mul_le_mul_right _ hup
      _ = 2 * (n * d') + d * d' := by ring
  have hlow' : 2 * (n' * d) ≤ 2 * k' * (d * d') + d * d' := by
    calc 2 * (n' * d) = 2 * n' * d := by ring
      _ ≤ (2 * k' + 1) * d' * d := Nat.mul_le_mul_right _ hlow
      _ = 2 * k' * (d * d') + d * d' := by ring
  have hexpand : 2 * k * (d * d') = 2 * k' * (d * d') + 2 * (d * d') + 2 * gap * (d * d') := by
    rw [hgap]; ring
  -- that leaves room for one whole number, not for two
  have hgap0 : gap = 0 := by
    by_contra hne
    have : 1 * (d * d') ≤ 2 * gap * (d * d') := Nat.mul_le_mul_right _ (by omega)
    omega
  subst hgap0
  -- now all inequalities are equalities: two ties at the same place
  have htie : 2 * n = (2 * k' + 1) * d := by
    apply Nat.eq_of_mul_eq_mul_right hd'
    have : (2 * k' + 1) * d * d' = 2 * k' * (d * d') + d * d' := by ring
    have : 2 * n * d' = 2 * (n * d') := by ring
    omega
  have htie' : 2 * n' = (2 * k' + 1) * d' := by
    apply Nat.eq_of_mul_eq_mul_right hd
    have : (2 * k' + 1) * d' * d = 2 * k' * (d * d') + d * d' := by ring
    have : 2 * n' * d = 2 * (n' * d) := by ring
    omega
  rw [divideEven_of_tie hd htie] at hk
  rw [divideEven_of_tie hd' htie'] at hk'
  omega

/-! ## The highest digit -/

/-- A quotient scaled by a power of two of either sign. -/
theorem scaled_div (n : Nat) {d : Nat} (hd : 0 < d) (p : Int) :
    ((n * 2 ^ p.toNat : Nat) : ℚ) / ((d * 2 ^ (-p).toNat : Nat) : ℚ) = n / d * 2 ^ p := by
  have hd0 : (d : ℚ) ≠ 0 := by exact_mod_cast Nat.ne_of_gt hd
  rcases le_total 0 p with h | h
  · obtain ⟨k, rfl⟩ := Int.eq_ofNat_of_zero_le h
    simp
    ring
  · obtain ⟨k, hk⟩ := Int.eq_ofNat_of_zero_le (Int.neg_nonneg.mpr h)
    obtain rfl : p = -(k : Int) := by omega
    simp [zpow_neg]
    field_simp

/-- The order of two quotients, without division. -/
theorem div_le_div_iff_mul {n d n' d' : Nat} (hd : 0 < d) (hd' : 0 < d') :
    (n : ℚ) / d ≤ n' / d' ↔ n * d' ≤ n' * d := by
  rw [div_le_div_iff₀ (by exact_mod_cast hd) (by exact_mod_cast hd')]
  exact_mod_cast Iff.rfl

/-- A rounded quotient does not cross a whole number above the exact one. -/
theorem divideEven_le {n d k : Nat} (hd : 0 < d) (h : (n : ℚ) / d ≤ k) : divideEven n d ≤ k := by
  rw [← divideEven_one k]
  apply divideEven_mono hd Nat.one_pos
  rw [← div_le_div_iff_mul hd Nat.one_pos]
  simpa using h

/-- A rounded quotient does not cross a whole number below the exact one. -/
theorem le_divideEven {n d k : Nat} (hd : 0 < d) (h : (k : ℚ) ≤ n / d) : k ≤ divideEven n d := by
  rw [← divideEven_one k]
  apply divideEven_mono Nat.one_pos hd
  rw [← div_le_div_iff_mul Nat.one_pos hd]
  simpa using h

theorem log2_bounds {n : Nat} (hn : 0 < n) :
    (2 : ℚ) ^ (n.log2 : Int) ≤ n ∧ (n : ℚ) < 2 ^ ((n.log2 : Int) + 1) := by
  constructor
  · rw [zpow_natCast]
    exact_mod_cast Nat.log2_self_le (Nat.ne_of_gt hn)
  · rw [show ((n.log2 : Int) + 1) = ((n.log2 + 1 : Nat) : Int) by push_cast; rfl, zpow_natCast]
    exact_mod_cast Nat.lt_log2_self (n := n)

/-- The test in `exponent`, on quotients. -/
theorem exponent_test {n d : Nat} (hd : 0 < d) (e : Int) :
    d * 2 ^ e.toNat ≤ n * 2 ^ (-e).toNat ↔ (2 : ℚ) ^ e ≤ n / d := by
  have hscale := scaled_div 1 (Nat.one_pos) e
  have hd0 : (0 : ℚ) < d := by exact_mod_cast hd
  rw [Nat.one_mul, Nat.one_mul, Nat.cast_one, div_one, one_mul] at hscale
  rw [← hscale, div_le_div_iff_mul (by positivity) hd, Nat.mul_comm d]

/-- A fraction is not below the power of two at its exponent, -/
theorem exponent_le {n d : Nat} (hn : 0 < n) (hd : 0 < d) :
    (2 : ℚ) ^ exponent n d ≤ n / d := by
  simp only [exponent]
  split
  · next h => exact (exponent_test hd _).mp h
  · -- one place lower, the lengths alone decide
    have hlow := (log2_bounds hn).1
    have hhigh := (log2_bounds hd).2
    have hd0 : (0 : ℚ) < d := by exact_mod_cast hd
    rw [le_div_iff₀ hd0]
    calc (2 : ℚ) ^ ((n.log2 : Int) - d.log2 - 1) * d
        ≤ 2 ^ ((n.log2 : Int) - d.log2 - 1) * 2 ^ ((d.log2 : Int) + 1) := by
          exact mul_le_mul_of_nonneg_left hhigh.le (by positivity)
      _ = 2 ^ (n.log2 : Int) := by
          rw [← zpow_add₀ (by norm_num)]
          congr 1
          ring
      _ ≤ n := hlow

/-- but below the next one. -/
theorem lt_exponent {n d : Nat} (hn : 0 < n) (hd : 0 < d) :
    (n : ℚ) / d < 2 ^ (exponent n d + 1) := by
  simp only [exponent]
  split
  · -- the lengths alone decide: no quotient reaches further than their difference
    have hhigh := (log2_bounds hn).2
    have hlow := (log2_bounds hd).1
    have hd0 : (0 : ℚ) < d := by exact_mod_cast hd
    rw [div_lt_iff₀ hd0]
    calc (n : ℚ) < 2 ^ ((n.log2 : Int) + 1) := hhigh
      _ = 2 ^ ((n.log2 : Int) - d.log2 + 1) * 2 ^ (d.log2 : Int) := by
          rw [← zpow_add₀ (by norm_num)]
          congr 1
          ring
      _ ≤ 2 ^ ((n.log2 : Int) - d.log2 + 1) * d :=
          mul_le_mul_of_nonneg_left hlow (by positivity)
  · next h =>
    rw [exponent_test hd, not_le] at h
    rwa [Int.sub_add_cancel]

/-- A larger quotient has no lower highest digit. -/
theorem exponent_mono {n d n' d' : Nat} (hn : 0 < n) (hd : 0 < d) (hn' : 0 < n') (hd' : 0 < d')
    (h : (n : ℚ) / d ≤ n' / d') : exponent n d ≤ exponent n' d' := by
  have hlt : (2 : ℚ) ^ exponent n d < 2 ^ (exponent n' d' + 1) :=
    ((exponent_le hn hd).trans h).trans_lt (lt_exponent hn' hd')
  have := (zpow_lt_zpow_iff_right₀ (by norm_num : (1 : ℚ) < 2)).mp hlt
  omega

/-! ## Natural numbers with few digits -/

/-- **Nothing is nearer.** A number with few digits that is not below `n` is at least
as far from it as the result is, if that is below `n`. -/
theorem sub_natToDigits_le {digits n a : Nat} (ha : 2 ^ (a.log2 + 1 - digits) ∣ a)
    (hna : n ≤ a) : n - natToDigits digits n ≤ a - n := by
  rcases Nat.eq_zero_or_pos n with rfl | hn
  · simp
  -- `a` is as long as `n` or longer, so it is a multiple of the same step
  have hlog : n.log2 ≤ a.log2 := by
    rw [Nat.le_log2 (by omega)]
    exact (Nat.log2_self_le (by omega)).trans hna
  set g := 2 ^ (n.log2 + 1 - digits) with hg
  have hgpos : 0 < g := Nat.two_pow_pos _
  obtain ⟨c, hc⟩ : g ∣ a := (Nat.pow_dvd_pow 2 (by omega)).trans ha
  have hdiv := Nat.div_add_mod n g
  have hmod := Nat.mod_lt n hgpos
  unfold natToDigits
  dsimp only
  rw [← hg]
  simp only [divideEven]
  split
  · have : (n / g + 1) * g = g * (n / g) + g := by ring
    omega
  · -- the result is the multiple of `g` just below, and `a` is one not below `n`
    next hnot =>
    have hmul : n / g * g = g * (n / g) := Nat.mul_comm _ _
    rcases Nat.eq_zero_or_pos (n % g) with h0 | h0
    · omega
    have hquot : n / g + 1 ≤ c := by
      by_contra hle
      have : g * c ≤ g * (n / g) := Nat.mul_le_mul_left _ (by omega)
      omega
    have : g * (n / g + 1) ≤ g * c := Nat.mul_le_mul_left _ hquot
    have : g * (n / g + 1) = g * (n / g) + g := by ring
    omega

/-- **Nothing is nearer**, from the other side: a number with few digits that is not above
`n` is at least as far from it as the result is, if that is above `n`. -/
theorem natToDigits_sub_le {digits n a : Nat} (hdigits : 0 < digits)
    (ha : 2 ^ (a.log2 + 1 - digits) ∣ a) (han : a ≤ n) :
    natToDigits digits n - n ≤ n - a := by
  rcases Nat.eq_zero_or_pos n with rfl | hn
  · simp [natToDigits, divideEven]
  set g := 2 ^ (n.log2 + 1 - digits) with hg
  have hgpos : 0 < g := Nat.two_pow_pos _
  have hdiv := Nat.div_add_mod n g
  have hmod := Nat.mod_lt n hgpos
  -- the multiple of `g` just below `n` lies between `a` and `n`
  have hbelow : a ≤ g * (n / g) := by
    rcases Nat.lt_or_ge a (2 ^ n.log2) with hlt | hge
    · -- `a` is shorter than `n`: the highest digit of `n` alone is between them
      obtain ⟨c, hc⟩ : g ∣ 2 ^ n.log2 := Nat.pow_dvd_pow 2 (by omega)
      have hself := Nat.log2_self_le (by omega : n ≠ 0)
      have hquot : c ≤ n / g := by
        rw [Nat.le_div_iff_mul_le hgpos, Nat.mul_comm, ← hc]
        exact hself
      have := Nat.mul_le_mul_left g hquot
      omega
    · have hlog : n.log2 ≤ a.log2 := by
        have hpos := Nat.two_pow_pos n.log2
        rw [Nat.le_log2 (by omega)]
        exact hge
      obtain ⟨c, hc⟩ : g ∣ a := (Nat.pow_dvd_pow 2 (by omega)).trans ha
      have hquot : c ≤ n / g := by
        rw [Nat.le_div_iff_mul_le hgpos, Nat.mul_comm, ← hc]
        exact han
      have := Nat.mul_le_mul_left g hquot
      omega
  unfold natToDigits
  dsimp only
  rw [← hg]
  simp only [divideEven]
  split
  · have : (n / g + 1) * g = g * (n / g) + g := by ring
    omega
  · have : n / g * g = g * (n / g) := Nat.mul_comm _ _
    omega

/-! ## Numbers with few digits -/

/-- A rounded quotient is off by a half at most. -/
theorem abs_divideEven_sub_le (n : Nat) {d : Nat} (hd : 0 < d) :
    |(divideEven n d : ℚ) - n / d| ≤ 1 / 2 := by
  have hd0 : (0 : ℚ) < d := by exact_mod_cast hd
  have hup : (2 * divideEven n d * d : ℚ) ≤ 2 * n + d := by
    exact_mod_cast two_mul_divideEven_le n hd
  have hlow : (2 * n : ℚ) ≤ (2 * divideEven n d + 1) * d := by
    exact_mod_cast le_two_mul_divideEven n hd
  have hn : (n : ℚ) = n / d * d := by field_simp
  -- both bounds are in multiples of the divisor
  generalize (n : ℚ) / d = r at hn ⊢
  rw [hn] at hup hlow
  rw [abs_le]
  constructor
  · have : r ≤ divideEven n d + 1 / 2 := by
      refine le_of_mul_le_mul_right ?_ hd0
      linarith
    linarith
  · have : (divideEven n d : ℚ) ≤ r + 1 / 2 := by
      refine le_of_mul_le_mul_right ?_ hd0
      linarith
    linarith

theorem abs_eq_ratio (q : ℚ) : ((q.num.natAbs : Nat) : ℚ) / q.den = |q| := by
  rw [Rat.abs_def, Rat.divInt_eq_div, Int.cast_natCast, Int.cast_natCast]

/-- What a number is rounded to: a whole number of steps, which are such that the number takes
`digits` digits. -/
theorem exists_toDigits (digits : Nat) {q : ℚ} (hq : q ≠ 0) :
    ∃ (k : Nat) (e : Int), (2 : ℚ) ^ e ≤ |q| ∧
      toDigits digits q = q.num.sign * (k * 2 ^ (e + 1 - digits)) ∧
      |k - |q| * 2 ^ ((digits : Int) - 1 - e)| ≤ 1 / 2 := by
  have hn : 0 < q.num.natAbs := Int.natAbs_pos.mpr (Rat.num_ne_zero.mpr hq)
  have habs := abs_eq_ratio q
  set e := exponent q.num.natAbs q.den with he
  set places : Int := (digits : Int) - 1 - e with hplaces
  set n := q.num.natAbs * 2 ^ places.toNat with hn'
  set d := q.den * 2 ^ (-places).toNat with hd'
  have hd : 0 < d := Nat.mul_pos q.den_pos (Nat.two_pow_pos _)
  have hratio : (n : ℚ) / d = |q| * 2 ^ places := by
    rw [hn', hd', scaled_div _ q.den_pos, habs]
  refine ⟨divideEven n d, e, ?_, ?_, ?_⟩
  · rw [← habs]
    exact exponent_le hn q.den_pos
  · -- the power of two is taken from one side or the other, by its sign
    have hscale := scaled_div (divideEven n d) Nat.one_pos (-places)
    rw [neg_neg, Nat.one_mul, Nat.cast_one, div_one] at hscale
    have hstep : -places = e + 1 - digits := by
      rw [hplaces]
      ring
    unfold toDigits
    dsimp only
    rw [if_neg hq, Rat.mkRat_eq_div, ← hstep, ← hscale, ← he, ← hplaces]
    push_cast
    rw [mul_div_assoc]
  · rw [← hratio]
    exact abs_divideEven_sub_le n hd

theorem sign_mul_abs (q : ℚ) : (q.num.sign : ℚ) * |q| = q := by
  rcases lt_trichotomy q 0 with h | rfl | h
  · rw [Int.sign_eq_neg_one_of_neg (Rat.num_neg.mpr h), abs_of_neg h]
    push_cast
    ring
  · simp
  · rw [Int.sign_eq_one_of_pos (Rat.num_pos.mpr h), abs_of_pos h]
    push_cast
    ring

/-- **Few digits are kept.** -/
theorem toDigits_eq {digits n : Nat} {j : Int} {q : ℚ} (hn : n < 2 ^ digits)
    (hq : |q| = n * 2 ^ j) : toDigits digits q = q := by
  by_cases h0 : q = 0
  · rw [h0]
    rfl
  obtain ⟨k, e, he, hround, hnear⟩ := exists_toDigits digits h0
  -- the number itself is a whole number of these steps
  have hplaces : 0 ≤ j + ((digits : Int) - 1 - e) := by
    have hlt : (2 : ℚ) ^ e < 2 ^ ((digits : Int) + j) := by
      rw [hq] at he
      refine he.trans_lt ?_
      rw [zpow_add₀ (by norm_num), zpow_natCast]
      have : (n : ℚ) < 2 ^ digits := by exact_mod_cast hn
      gcongr
    have := (zpow_lt_zpow_iff_right₀ (by norm_num : (1 : ℚ) < 2)).mp hlt
    omega
  obtain ⟨i, hi⟩ := Int.eq_ofNat_of_zero_le hplaces
  have hwhole : |q| * 2 ^ ((digits : Int) - 1 - e) = ((n * 2 ^ i : Nat) : ℚ) := by
    rw [hq, mul_assoc, ← zpow_add₀ (by norm_num), hi, zpow_natCast]
    push_cast
    rfl
  have hk : (k : ℚ) = |q| * 2 ^ ((digits : Int) - 1 - e) := by
    rw [hwhole] at hnear ⊢
    rw [abs_le] at hnear
    have hle : k < n * 2 ^ i + 1 := by
      have : (k : ℚ) < ((n * 2 ^ i + 1 : Nat) : ℚ) := by
        push_cast at hnear ⊢
        linarith
      exact_mod_cast this
    have hge : n * 2 ^ i < k + 1 := by
      have : ((n * 2 ^ i : Nat) : ℚ) < ((k + 1 : Nat) : ℚ) := by
        push_cast at hnear ⊢
        linarith
      exact_mod_cast this
    exact_mod_cast (by omega : k = n * 2 ^ i)
  rw [hround, hk, mul_assoc, ← zpow_add₀ (by norm_num),
    show (digits : Int) - 1 - e + (e + 1 - digits) = 0 by ring, zpow_zero, mul_one]
  exact sign_mul_abs q

/-- How far a number is moved: to a whole number of steps, by half a step at most. -/
theorem exists_abs_toDigits_sub_le (digits : Nat) {q : ℚ} (hq : q ≠ 0) :
    ∃ (k : Nat) (e : Int), (2 : ℚ) ^ e ≤ |q| ∧
      |toDigits digits q - q| ≤ |k * 2 ^ (e + 1 - digits) - (|q|)| ∧
      |k * 2 ^ (e + 1 - digits) - (|q|)| ≤ 2 ^ (e + 1 - digits) / 2 := by
  obtain ⟨k, e, he, hround, hnear⟩ := exists_toDigits digits hq
  refine ⟨k, e, he, ?_, ?_⟩
  · have hsign : |(q.num.sign : ℚ)| ≤ 1 := by
      rcases Int.sign_trichotomy q.num with h | h | h <;> simp [h]
    calc |toDigits digits q - q|
        = |(q.num.sign : ℚ) * (k * 2 ^ (e + 1 - digits) - |q|)| := by
          rw [hround, mul_sub, sign_mul_abs]
      _ ≤ |k * 2 ^ (e + 1 - digits) - (|q|)| := by
          rw [abs_mul]
          exact mul_le_of_le_one_left (abs_nonneg _) hsign
  · -- the digits are rounded to half a step
    set step : ℚ := 2 ^ (e + 1 - digits) with hstep
    have hpos : 0 < step := by positivity
    have hinverse : (2 : ℚ) ^ ((digits : Int) - 1 - e) * step = 1 := by
      rw [hstep, ← zpow_add₀ (by norm_num),
        show (digits : Int) - 1 - e + (e + 1 - digits) = 0 by ring, zpow_zero]
    calc |k * step - (|q|)|
        = |k - |q| * 2 ^ ((digits : Int) - 1 - e)| * step := by
          rw [← abs_of_pos hpos, ← abs_mul, abs_of_pos hpos, sub_mul, mul_assoc, hinverse, mul_one]
      _ ≤ 1 / 2 * step := by gcongr
      _ = step / 2 := by ring

/-- **Rounding is off by little**: by half a unit of the last digit at most. -/
theorem abs_toDigits_sub_le (digits : Nat) (q : ℚ) :
    |toDigits digits q - q| ≤ |q| / 2 ^ digits := by
  by_cases h0 : q = 0
  · simp [h0, toDigits]
  obtain ⟨k, e, he, hmoved, hnear⟩ := exists_abs_toDigits_sub_le digits h0
  calc |toDigits digits q - q|
      ≤ 2 ^ (e + 1 - digits) / 2 := hmoved.trans hnear
    _ = 2 ^ e / 2 ^ digits := by
        rw [zpow_sub₀ (by norm_num), zpow_add₀ (by norm_num), zpow_natCast]
        ring
    _ ≤ |q| / 2 ^ digits := by gcongr

/-- **The nearest number is taken**: no other one with so few digits is nearer. -/
theorem abs_toDigits_sub_le_of_digits {digits n : Nat} {j : Int} {a : ℚ} (hdigits : 0 < digits)
    (hn : n < 2 ^ digits) (ha : |a| = n * 2 ^ j) (q : ℚ) :
    |toDigits digits q - q| ≤ |a - q| := by
  by_cases h0 : q = 0
  · simp [h0, toDigits]
  obtain ⟨k, e, he, hmoved, hnear⟩ := exists_abs_toDigits_sub_le digits h0
  set step : ℚ := 2 ^ (e + 1 - digits) with hstep
  have hpos : 0 < step := by positivity
  -- between the other number and this one there is a whole number of steps
  obtain ⟨m, hm⟩ : ∃ m : Nat, |m * step - (|q|)| ≤ |a - q| := by
    rcases le_or_gt ((2 : ℚ) ^ e) |a| with hlarge | hsmall
    · have hplace : 0 ≤ j - (e + 1 - digits) := by
        have hlt : (2 : ℚ) ^ e < 2 ^ ((digits : Int) + j) := by
          rw [ha] at hlarge
          refine hlarge.trans_lt ?_
          rw [zpow_add₀ (by norm_num), zpow_natCast]
          have : (n : ℚ) < 2 ^ digits := by exact_mod_cast hn
          gcongr
        have := (zpow_lt_zpow_iff_right₀ (by norm_num : (1 : ℚ) < 2)).mp hlt
        omega
      obtain ⟨i, hi⟩ := Int.eq_ofNat_of_zero_le hplace
      have hwhole : ((n * 2 ^ i : Nat) : ℚ) * step = |a| := by
        rw [ha, hstep, show j = i + (e + 1 - digits) by omega, zpow_add₀ (by norm_num),
          zpow_natCast]
        push_cast
        ring
      exact ⟨n * 2 ^ i, by rw [hwhole]; exact abs_abs_sub_abs_le a q⟩
    · -- the power of two below `q` is one
      have hpower : ((2 ^ (digits - 1) : Nat) : ℚ) * step = 2 ^ e := by
        rw [hstep, Nat.cast_pow, Nat.cast_ofNat, ← zpow_natCast, ← zpow_add₀ (by norm_num)]
        congr 1
        omega
      refine ⟨2 ^ (digits - 1), ?_⟩
      rw [hpower, abs_sub_comm, abs_of_nonneg (by linarith), abs_sub_comm]
      have := abs_sub_abs_le_abs_sub q a
      linarith
  -- another whole number of steps than the one taken is half a step away at least
  have hbest : |k * step - (|q|)| ≤ |m * step - (|q|)| := by
    rcases eq_or_ne m k with rfl | hne
    · exact le_rfl
    · have hapart : step ≤ |k * step - m * step| := by
        have hone : (1 : ℚ) ≤ |(k : ℚ) - m| := by
          have : (k : Int) - m ≠ 0 := by omega
          exact_mod_cast Int.one_le_abs this
        rw [← sub_mul, abs_mul, abs_of_pos hpos]
        exact le_mul_of_one_le_left hpos.le hone
      have htriangle := abs_sub_le (k * step) |q| (m * step)
      rw [abs_sub_comm |q| (m * step)] at htriangle
      linarith
  exact hmoved.trans (hbest.trans hm)

end Reveal.Rounding
