import Reveal.Rounding

/-!
# Reveal — scalars

Lengths on the screen are single-precision numbers. A `Scalar` is such a number
in the form in which it is stored, the 32 bits of its IEEE 754 pattern, so that
what is kept is given back bit for bit, the payload of a NaN and the sign of a
zero included.

Comparisons do not need the value of a number, only its place in the order of
all numbers. That is `Scalar.rank`: the pattern without its sign bit, counted
down from zero for negative numbers. Patterns above that of infinity are NaNs,
which have no place in the order.

Arithmetic goes through the exact values: the result of an operation is the
number nearest to the exact result.

* `Scalar.numEq` — equality of numbers: `-0.0` equals `0.0`, a NaN equals nothing;
* `Scalar.clamp` — the nearest number between zero and a limit;
* `Scalar.toRat`, `Scalar.ofRat` — the exact value, and the number nearest to one.
-/

namespace Reveal

/-- A single-precision number, known by its bit pattern. -/
structure Scalar where
  bits : UInt32
deriving DecidableEq, Repr

namespace Scalar

attribute [local instance (2000)] instPowNat

def zero : Scalar := ⟨0⟩

instance : Inhabited Scalar := ⟨zero⟩

/-- The pattern of positive infinity; every magnitude above it is a NaN. -/
def infinityMagnitude : Nat := 0x7f800000

def infinity : Scalar := ⟨UInt32.ofNat infinityMagnitude⟩

/-- The pattern without its sign bit. -/
def magnitude (v : Scalar) : Nat := v.bits.toNat % 2 ^ (31 : Nat)

/-- The sign bit, the highest of the 32. -/
def isNegative (v : Scalar) : Bool := decide (2 ^ (31 : Nat) ≤ v.bits.toNat)

/-- Not a number: of either sign, with any payload. -/
def isNaN (v : Scalar) : Bool := decide (infinityMagnitude < v.magnitude)

/-- The place of a number in the order of all numbers. Patterns of one sign are
ordered as the numbers are, and both zeros have rank 0. -/
def rank (v : Scalar) : Int := if v.isNegative then -(v.magnitude : Int) else v.magnitude

/-! ## Comparing -/

/-- Equality of numbers. It identifies the two zeros, and no NaN equals
anything, itself included. -/
def numEq (a b : Scalar) : Bool := !a.isNaN && !b.isNaN && a.rank == b.rank

/-- Greater than zero, which a NaN is not. -/
def isPositive (v : Scalar) : Bool := !v.isNaN && decide (0 < v.rank)

/-- The smaller of two numbers, neither of them a NaN. -/
def smaller (a b : Scalar) : Scalar := if b.rank < a.rank then b else a

/-- The larger of two numbers, neither of them a NaN. -/
def larger (a b : Scalar) : Scalar := if a.rank < b.rank then b else a

/-- The order of numbers, none of them a NaN. -/
instance : LE Scalar := ⟨fun a b => a.rank ≤ b.rank⟩

instance : LT Scalar := ⟨fun a b => a.rank < b.rank⟩

instance (a b : Scalar) : Decidable (a ≤ b) := inferInstanceAs (Decidable (a.rank ≤ b.rank))

instance (a b : Scalar) : Decidable (a < b) := inferInstanceAs (Decidable (a.rank < b.rank))

/-! ## Values -/

/-- The nearest number to `n / d`: it has 24 binary digits, of which a normal
number does not store the highest, or fewer where the exponent is the smallest
one. What exceeds all numbers becomes infinity.

Adding the whole significand to an exponent smaller by one writes both fields,
also where rounding carries into the next exponent. -/
def ofRatio (n d : Nat) : Scalar :=
  if n = 0 then zero
  else
    let e := max (Rounding.exponent n d) (-126)
    if 128 ≤ e then infinity
    else
      let places := 23 - e
      let significand := Rounding.divideEven (n * 2 ^ places.toNat) (d * 2 ^ (-places).toNat)
      ⟨UInt32.ofNat ((e + 126).toNat * 2 ^ (23 : Nat) + significand)⟩

/-- The nearest number to a natural number. -/
def ofNat (n : Nat) : Scalar := ofRatio n 1

/-- The number with the other sign. -/
def negate (v : Scalar) : Scalar := ⟨v.bits ^^^ 0x80000000⟩

/-- The nearest number to `q`. -/
def ofRat (q : Rat) : Scalar :=
  let v := ofRatio q.num.natAbs q.den
  if q < 0 then v.negate else v

/-- The exact value of a number. Infinities and NaNs have none and count as zero. -/
def toRat (v : Scalar) : Rat :=
  let exponent : Nat := v.magnitude / 2 ^ (23 : Nat)
  let fraction : Nat := v.magnitude % 2 ^ (23 : Nat)
  let significand : Nat := if exponent = 0 then fraction else 2 ^ (23 : Nat) + fraction
  let places : Nat := max exponent 1
  let size : Rat :=
    if exponent = 255 then 0
    else mkRat (significand * 2 ^ (places - 150) : Nat) (2 ^ (150 - places))
  if v.isNegative then -size else size

/-! ## Arithmetic -/

instance (n : Nat) : OfNat Scalar n := ⟨ofNat n⟩

instance : Neg Scalar := ⟨negate⟩

instance : Add Scalar := ⟨fun a b => ofRat (a.toRat + b.toRat)⟩

instance : Sub Scalar := ⟨fun a b => ofRat (a.toRat - b.toRat)⟩

instance : Mul Scalar := ⟨fun a b => ofRat (a.toRat * b.toRat)⟩

/-- Division; by zero it gives zero. -/
instance : Div Scalar := ⟨fun a b => ofRat (a.toRat / b.toRat)⟩

def abs (v : Scalar) : Scalar := if v.isNegative then v.negate else v

/-! ## Clamping -/

/-- The nearest number between zero and `limit`. A NaN and a negative zero become
zero, and so does everything if the limit is negative. -/
def clamp (v limit : Scalar) : Scalar :=
  ((if v.isPositive then v else zero).smaller limit).larger zero

end Scalar

/-! ## Pairs -/

/-- How far a text is scrolled, to the right and down. -/
structure Offset where
  x : Scalar
  y : Scalar
deriving DecidableEq, Repr

namespace Offset

/-- Not scrolled. -/
def origin : Offset := ⟨.zero, .zero⟩

instance : Inhabited Offset := ⟨origin⟩

end Offset

/-- The inner size of a window. -/
structure Size where
  width : Scalar
  height : Scalar
deriving DecidableEq, Repr

/-- Equality of sizes as pairs of numbers. -/
def Size.numEq (a b : Size) : Bool := a.width.numEq b.width && a.height.numEq b.height

end Reveal
