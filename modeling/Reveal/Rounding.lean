/-!
# Reveal — rounding

Numbers with a limited number of binary digits. What has no such form is moved to
the nearest number that has one, and a number halfway between two goes to the one
whose last digit is even.

* `Rounding.divideEven` — a quotient of natural numbers, rounded to a whole one;
* `Rounding.exponent` — the place of the highest binary digit;
* `Rounding.toDigits` — the nearest number with so many binary digits;
* `Rounding.natToDigits` — the same among the natural numbers.
-/

namespace Reveal.Rounding

-- Powers of natural numbers are those of the core library.
attribute [local instance (2000)] instPowNat

/-- Division to the nearest whole number, a half going to the even neighbour. -/
def divideEven (n d : Nat) : Nat :=
  let quotient := n / d
  let twice := 2 * (n % d)
  if d < twice ∨ (twice = d ∧ quotient % 2 = 1) then quotient + 1 else quotient

theorem divideEven_one (n : Nat) : divideEven n 1 = n := by
  simp [divideEven, Nat.mod_one]

/-- The place `e` of the highest binary digit of `n / d`, the one that stands for
`2 ^ e`. The lengths of `n` and `d` fix it up to one. -/
def exponent (n d : Nat) : Int :=
  let e : Int := (n.log2 : Int) - d.log2
  if d * 2 ^ e.toNat ≤ n * 2 ^ (-e).toNat then e else e - 1

/-- The nearest number to `q` that has at most `digits` binary digits. -/
def toDigits (digits : Nat) (q : Rat) : Rat :=
  if q = 0 then 0
  else
    let n := q.num.natAbs
    let places := (digits : Int) - 1 - exponent n q.den
    let rounded := divideEven (n * 2 ^ places.toNat) (q.den * 2 ^ (-places).toNat)
    mkRat (q.num.sign * (rounded * 2 ^ (-places).toNat : Nat)) (2 ^ places.toNat)

/-- The nearest natural number to `n` that has at most `digits` binary digits,
apart from zeros at its end. -/
def natToDigits (digits n : Nat) : Nat :=
  let dropped := n.log2 + 1 - digits
  divideEven n (2 ^ dropped) * 2 ^ dropped

/-- What is short enough stays as it is. -/
theorem natToDigits_of_lt {digits n : Nat} (h : n < 2 ^ digits) : natToDigits digits n = n := by
  rcases Nat.eq_zero_or_pos n with rfl | hn
  · simp [natToDigits, divideEven]
  · have hlog := (Nat.log2_lt (Nat.ne_of_gt hn)).2 h
    have hnone : n.log2 + 1 - digits = 0 := by omega
    simp [natToDigits, hnone, divideEven_one]

end Reveal.Rounding
