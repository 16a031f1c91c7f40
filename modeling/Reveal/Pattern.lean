import Reveal.Pattern.Reader

/-!
# Reveal — patterns in filters

A value in a log filter is a number, a truth value or a pattern, that is a regular
expression that the value of a field must match. Nothing is ever matched here; it
is only asked whether there is a matcher for it (`Pattern.ofChars`).

A matcher is a machine with finitely many states that reads bytes one by one. It
has no tables of the characters beyond ASCII. So a pattern can fail in two ways: it
is not well formed, or asks for what is not there; or it is in order, but asks for
the boundaries of words, which the machine could find only where all is ASCII.

Main statement:

* `ofChars_eq_ok_iff` — there is a matcher for a pattern just if it can be read, is
  sound, and asks for nothing.
-/

namespace Reveal.Pattern

/-- Why there is no matcher for a pattern. -/
inductive Fault where
  /-- The pattern is not well formed, or would need what the matcher lacks. -/
  | unusable
  /-- The pattern speaks of the boundaries of words of all scripts. -/
  | wordBoundaries
deriving DecidableEq, Repr

/-- What is wrong with the pattern. -/
def Fault.message : Fault → String
  | unusable => "error building NFA"
  | wordBoundaries =>
    "unsupported regex feature for DFAs: cannot build DFAs for regexes with Unicode word " ++
      "boundaries; switch to ASCII word boundaries, or heuristically enable Unicode word " ++
      "boundaries or use a different regex engine"

/-- How deeply the parts of a pattern may lie within each other. -/
def maxDepth : Nat := 250

/-- Whether a pattern may be used as far as its form goes: it is not too deep, and no
two groups have the same name. -/
def isSound (p : Pattern) : Bool := decide (p.depth ≤ maxDepth) && decide p.names.Nodup

/-- The fault that a need of a pattern is. -/
def Need.fault : Need → Fault
  | letterCases | characterClasses | loneBytes => .unusable
  | wordBoundaries => .wordBoundaries

/-- Of several faults the one that is found: whether a pattern can be used at all is
settled before the boundaries of words. -/
def Fault.first? (faults : List Fault) : Option Fault :=
  if faults.contains .unusable then some .unusable else faults.head?

/-- Reads a pattern for which there is a matcher. -/
def ofChars (cs : List Char) : Except Fault Pattern :=
  match read cs with
  | none => .error .unusable
  | some p =>
    if p.isSound then
      match Fault.first? (p.needs.map Need.fault) with
      | none => .ok p
      | some fault => .error fault
    else .error .unusable

/-! ## When there is a matcher -/

/-- Among faults one is always found. -/
theorem Fault.first?_eq_none_iff {faults : List Fault} : first? faults = none ↔ faults = [] := by
  cases faults with
  | nil => simp [first?]
  | cons fault rest =>
    rw [first?]
    split <;> simp

/-- A pattern has a matcher just if it can be read, is sound, and asks for nothing. -/
theorem ofChars_eq_ok_iff {cs : List Char} {p : Pattern} :
    ofChars cs = .ok p ↔ read cs = some p ∧ p.isSound ∧ p.needs = [] := by
  rw [ofChars]
  cases h : read cs with
  | none => simp
  | some q =>
    by_cases hs : q.isSound
    · cases hf : Fault.first? (q.needs.map Need.fault) with
      | none =>
        have hn : q.needs = [] := by simpa using Fault.first?_eq_none_iff.1 hf
        simp only [hs, if_true, hf, Except.ok.injEq, Option.some.injEq]
        constructor
        · rintro rfl
          exact ⟨rfl, hs, hn⟩
        · exact fun hp => hp.1
      | some fault =>
        have hn : q.needs ≠ [] := by
          intro hn
          simp [hn, Fault.first?] at hf
        simp only [hs, if_true, hf, Option.some.injEq]
        constructor
        · simp
        · rintro ⟨rfl, _, hp⟩
          exact absurd hp hn
    · simp only [hs, Option.some.injEq]
      constructor
      · simp
      · rintro ⟨rfl, hp, _⟩
        exact absurd hp hs

end Reveal.Pattern
