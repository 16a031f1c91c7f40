import Mathlib.Data.List.Forall2
import Reveal.Settings

/-!
# Reveal — when settings are equal

Settings are compared with their sizes taken as numbers, and numbers are compared by their place
in the order of all numbers. What that means for the stored patterns is said here in terms of
their fields: a pattern with all bits of the exponent and some bit of the fraction is no number,
whatever its sign and its other bits, and is equal to nothing. Two other patterns are equal if
they are the same, or if both are zeros, whose signs do not count (`Scalar.SameNumber`).

So equality of settings is symmetric and transitive, but settings with such a pattern among them
do not even equal themselves. An edit that writes none keeps equal settings equal.

## Results

* `Scalar.numEq_iff`    — equality of numbers by their patterns.
* `Settings.numEq_iff`  — equality of settings, component by component.
* `Settings.numEq_apply_iff` — when an edit of equal settings leaves equal ones.
* `numEq_laws`          — all of this for any settings.
-/

namespace Reveal

namespace Scalar

variable {u v w : Scalar}

/-! ## Patterns -/

/-- The eight bits after the sign. -/
def exponentField (v : Scalar) : Nat := v.bits.toNat / 0x800000 % 0x100

/-- The last 23 bits. -/
def fractionField (v : Scalar) : Nat := v.bits.toNat % 0x800000

/-- The patterns that stand for no number, of either sign. -/
def IsNaNPattern (v : Scalar) : Prop := v.exponentField = 0xff ∧ v.fractionField ≠ 0

instance (v : Scalar) : Decidable v.IsNaNPattern := inferInstanceAs (Decidable (_ ∧ _))

/-- The zeros of either sign. -/
def IsZero (v : Scalar) : Prop := v.bits = 0 ∨ v.bits = 0x80000000

/-- Two patterns that stand for one number. -/
structure SameNumber (v w : Scalar) : Prop where
  left : ¬v.IsNaNPattern
  right : ¬w.IsNaNPattern
  same : v.bits = w.bits ∨ v.IsZero ∧ w.IsZero

theorem sameNumber_self_iff : SameNumber v v ↔ ¬v.IsNaNPattern :=
  ⟨fun h => h.left, fun h => ⟨h, h, Or.inl rfl⟩⟩

/-- The patterns of no number are those above the infinities. -/
theorem isNaN_iff : v.isNaN = true ↔ v.IsNaNPattern := by
  have hlt := v.bits.toNat_lt
  rw [isNaN, decide_eq_true_eq, infinityMagnitude, magnitude, IsNaNPattern, exponentField,
    fractionField]
  constructor
  · -- beyond the magnitude of infinity the exponent cannot grow, so that a fraction is left
    intro h
    exact ⟨by omega, by omega⟩
  · rintro ⟨hexponent, hfraction⟩
    omega

-- the infinity of either sign is still a number, and the next pattern is none
example : ¬(⟨0xff800000⟩ : Scalar).IsNaNPattern ∧ (⟨0xff800001⟩ : Scalar).IsNaNPattern := by decide

/-! ## Places in the order -/

/-- Nothing but the two zeros has rank zero. -/
theorem rank_eq_zero_iff : v.rank = 0 ↔ v.IsZero := by
  have hlt := v.bits.toNat_lt
  simp only [IsZero, ← UInt32.toNat_inj, rank, isNegative, magnitude, decide_eq_true_eq]
  show _ ↔ v.bits.toNat = 0 ∨ v.bits.toNat = 0x80000000
  split <;> omega

/-- Only the zeros share their place with another pattern. -/
theorem rank_eq_iff : v.rank = w.rank ↔ v.bits = w.bits ∨ v.IsZero ∧ w.IsZero := by
  constructor
  · intro h
    by_cases hzero : v.rank = 0
    · exact Or.inr ⟨rank_eq_zero_iff.mp hzero, rank_eq_zero_iff.mp (h ▸ hzero)⟩
    · -- away from zero the sign of the place is the sign bit
      left
      rw [← UInt32.toNat_inj]
      have hv := v.bits.toNat_lt
      have hw := w.bits.toNat_lt
      simp only [rank, isNegative, magnitude, decide_eq_true_eq] at h hzero
      split at h <;> split at h <;> omega
  · rintro (h | ⟨hv, hw⟩)
    · obtain rfl : v = w := congrArg Scalar.mk h
      rfl
    · rw [rank_eq_zero_iff.mpr hv, rank_eq_zero_iff.mpr hw]

/-! ## Equality of numbers -/

/-- **Equality of numbers**, by their patterns. -/
theorem numEq_iff : v.numEq w = true ↔ SameNumber v w := by
  rw [numEq, Bool.and_eq_true, Bool.and_eq_true, beq_iff_eq, rank_eq_iff, Bool.not_eq_true',
    Bool.not_eq_true', ← Bool.not_eq_true, ← Bool.not_eq_true, isNaN_iff, isNaN_iff]
  exact ⟨fun ⟨⟨hv, hw⟩, h⟩ => ⟨hv, hw, h⟩, fun h => ⟨⟨h.left, h.right⟩, h.same⟩⟩

theorem numEq_self_iff : v.numEq v = true ↔ ¬v.IsNaNPattern :=
  numEq_iff.trans sameNumber_self_iff

theorem numEq_comm (v w : Scalar) : v.numEq w = w.numEq v := by
  rw [numEq, numEq, Bool.and_comm (!v.isNaN), Bool.beq_comm]

theorem numEq_trans (h : u.numEq v = true) (h' : v.numEq w = true) : u.numEq w = true := by
  simp only [numEq, Bool.and_eq_true, beq_iff_eq] at *
  exact ⟨⟨h.1.1, h'.1.2⟩, h.2.trans h'.2⟩

end Scalar

/-! ## Equality of sizes -/

namespace Size

variable {a b c : Size}

theorem numEq_self_iff :
    a.numEq a = true ↔ ¬a.width.IsNaNPattern ∧ ¬a.height.IsNaNPattern := by
  rw [numEq, Bool.and_eq_true, Scalar.numEq_self_iff, Scalar.numEq_self_iff]

theorem numEq_comm (a b : Size) : a.numEq b = b.numEq a := by
  rw [numEq, numEq, a.width.numEq_comm, a.height.numEq_comm]

theorem numEq_trans (h : a.numEq b = true) (h' : b.numEq c = true) : a.numEq c = true := by
  simp only [numEq, Bool.and_eq_true] at *
  exact ⟨Scalar.numEq_trans h.1 h'.1, Scalar.numEq_trans h.2 h'.2⟩

end Size

/-! ## Equality of settings -/

namespace Settings

variable {a b c : Settings}

/-- The numbers among the settings. -/
def scalars (s : Settings) : List Scalar :=
  [s.size.width, s.size.height, s.minSize.width, s.minSize.height]

/-- The numbers that an edit writes. -/
def Edit.scalars : Edit → List Scalar
  | .title _ | .label _ => []
  | .size pair | .minSize pair => [pair.width, pair.height]

/-- **Equality of settings**: the same texts, and component by component the same numbers. -/
theorem numEq_iff :
    a.numEq b = true ↔
      a.title = b.title ∧ a.label = b.label ∧
        List.Forall₂ Scalar.SameNumber a.scalars b.scalars := by
  simp only [numEq, Size.numEq, scalars, Bool.and_eq_true, beq_iff_eq, Scalar.numEq_iff,
    List.forall₂_cons, List.Forall₂.nil, and_true, and_assoc]

theorem numEq_self_iff : a.numEq a = true ↔ ∀ v ∈ a.scalars, ¬v.IsNaNPattern := by
  rw [numEq_iff, List.forall₂_same]
  simp only [true_and, Scalar.sameNumber_self_iff]

theorem numEq_comm (a b : Settings) : a.numEq b = b.numEq a := by
  rw [numEq, numEq, a.size.numEq_comm, a.minSize.numEq_comm, Bool.beq_comm (a := a.title),
    Bool.beq_comm (a := a.label)]

theorem numEq_trans (h : a.numEq b = true) (h' : b.numEq c = true) : a.numEq c = true := by
  simp only [numEq, Bool.and_eq_true, beq_iff_eq] at *
  obtain ⟨⟨⟨htitle, hlabel⟩, hsize⟩, hmin⟩ := h
  obtain ⟨⟨⟨htitle', hlabel'⟩, hsize'⟩, hmin'⟩ := h'
  exact ⟨⟨⟨htitle.trans htitle', hlabel.trans hlabel'⟩, Size.numEq_trans hsize hsize'⟩,
    Size.numEq_trans hmin hmin'⟩

/-- An edit of equal settings leaves what it does not name equal, so that all depends on what it
writes being equal to itself. -/
theorem numEq_apply_iff (h : a.numEq b = true) (e : Edit) :
    (a.apply e).numEq (b.apply e) = true ↔ ∀ v ∈ e.scalars, ¬v.IsNaNPattern := by
  simp only [numEq, Bool.and_eq_true, beq_iff_eq] at h ⊢
  obtain ⟨⟨⟨htitle, hlabel⟩, hsize⟩, hmin⟩ := h
  -- three parts are equal as before, and the fourth is compared with itself
  cases e with
  | title text => simp [apply, Edit.scalars, hlabel, hsize, hmin]
  | label text => simp [apply, Edit.scalars, htitle, hsize, hmin]
  | size size => simp [apply, Edit.scalars, htitle, hlabel, hmin, Size.numEq_self_iff]
  | minSize size => simp [apply, Edit.scalars, htitle, hlabel, hsize, Size.numEq_self_iff]

-- a zero of the other sign is equal to zero, a pattern without a number not even to itself
example :
    let flat : Settings := standard.apply (.size ⟨⟨0⟩, ⟨0⟩⟩)
    flat.numEq (flat.apply (.size ⟨⟨0x80000000⟩, ⟨0⟩⟩)) = true ∧
      (flat.apply (.size ⟨⟨0xff800001⟩, ⟨0⟩⟩)).numEq (flat.apply (.size ⟨⟨0xff800001⟩, ⟨0⟩⟩)) =
        false := by decide

/-- **Equality of settings is a partial equivalence** that fails to be reflexive exactly where
there is a pattern without a number. It is symmetric and transitive. Settings equal themselves
exactly if none of their four components is such a pattern, and others exactly if the texts are
the same and each component has a number which is that of the other's, bit for bit the same or
both of them zeros of any signs. The same edit of equal settings leaves equal settings exactly if
it writes no pattern without a number. -/
theorem numEq_laws (a b c : Settings) :
    (a.numEq b = true → b.numEq a = true) ∧
    (a.numEq b = true → b.numEq c = true → a.numEq c = true) ∧
    (a.numEq a = true ↔ ∀ v ∈ a.scalars, ¬v.IsNaNPattern) ∧
    (a.numEq b = true ↔
      a.title = b.title ∧ a.label = b.label ∧
        List.Forall₂ Scalar.SameNumber a.scalars b.scalars) ∧
    ∀ e : Edit, a.numEq b = true →
      ((a.apply e).numEq (b.apply e) = true ↔ ∀ v ∈ e.scalars, ¬v.IsNaNPattern) := by
  refine ⟨?_, numEq_trans, numEq_self_iff, numEq_iff, ?_⟩
  · intro h
    rw [numEq_comm, h]
  · intro e h
    exact numEq_apply_iff h e

end Settings

end Reveal
