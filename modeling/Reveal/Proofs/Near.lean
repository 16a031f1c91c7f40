import Reveal.Proofs.Replay

/-!
# Reveal — what is within reach

The widgets on a screen are asked for the one that the pointer hits, but only those within reach
of it answer. So where the same widgets are within reach, the same is hit, whatever else is on the
two screens.

Of all widgets the checkbox alone does not answer to drags. It is never dragged, so that nothing
but a click of it matters to it.

## Results

* `hit_congr`       — what is hit depends on what is near.
* `takesDrags_hit`  — the checkbox is never taken hold of for a drag.
* `SameBox`         — two names that are the same as far as they are of checkboxes.
-/

namespace Reveal

open Widget (Name Hit)

/-! ## What is within reach -/

namespace Widget

/-- Whether it is within reach of a place. -/
def isNear (w : Widget) (p : Point) : Bool :=
  !w.bounds.isInverted && decide (w.distanceSq p ≤ reach * reach)

/-- What is near a point is within reach of it. -/
theorem near_bounds {w : Widget} {p : Point} (h : w.isNear p = true) :
    w.bounds.isInverted = false ∧ w.distanceSq p ≤ reach * reach := by
  unfold isNear at h
  obtain ⟨hseen, hnear⟩ := Bool.and_eq_true_iff.mp h
  exact ⟨by simpa using hseen, of_decide_eq_true hnear⟩

/-- **What is hit depends on what is near**, and on nothing else. -/
theorem hit_congr {widgets widgets' : List Widget} {p : Point}
    (h : widgets.filter (·.isNear p) = widgets'.filter (·.isNear p)) :
    hit widgets p = hit widgets' p := by
  have hclose : widgets.filter (fun w =>
      !w.bounds.isInverted && decide (w.distanceSq p ≤ reach * reach)) =
    widgets'.filter (fun w =>
      !w.bounds.isInverted && decide (w.distanceSq p ≤ reach * reach)) := h
  unfold hit
  dsimp only
  rw [hclose]

theorem takesDrags_nearest {p : Point} {widgets : List Widget} {q : Widget → Bool} {w : Widget}
    (h : nearest p (widgets.filter q) = some w) (hq : ∀ v, q v = true → v.name.takesDrags = true) :
    w.name.takesDrags = true :=
  hq w (List.mem_filter.mp (nearest_mem h)).2

theorem takesDrags_hitBackground {p : Point} {close : List Widget} {big : Widget}
    (h : big.name.takesDrags = true) :
    ∀ name ∈ (hitBackground p close big).drag, name.takesDrags = true := by
  unfold hitBackground
  split
  · split
    · intro name hname
      obtain rfl := Option.mem_some.mp hname
      split
      · assumption
      · exact h
    · exact all_some h
  · split
    · next small hsmall =>
      have hdrags := takesDrags_nearest hsmall fun v hv => (Bool.and_eq_true_iff.mp hv).1
      refine all_some ?_
      split
      · exact hdrags
      · exact h
    · exact all_some h

/-- Nothing is ever dragged that does not take drags. -/
theorem takesDrags_hit (widgets : List Widget) (p : Point) :
    ∀ name ∈ (hit widgets p).drag, name.takesDrags = true := by
  -- whatever is dragged is found among what takes drags, or is a background that does
  unfold hit
  dsimp only
  split
  · split
    · intro name hname
      unfold Hit.all at hname
      dsimp only at hname
      split at hname
      · next hdrags =>
        obtain rfl := Option.mem_some.mp hname
        exact hdrags
      · contradiction
    · exact all_none
  · next big _ hbig => exact takesDrags_hitBackground (takesDrags_nearest hbig fun v hv => hv)
  · exact all_none
  · next c d _ hd =>
    have hdrags := takesDrags_nearest hd fun v hv => hv
    split
    · refine all_some ?_
      split
      · assumption
      · exact hdrags
    · exact all_some hdrags

end Widget

/-! ## The same checkbox -/

/-- Both are the same checkbox, or neither is one. -/
def SameBox (a b : Option Name) : Prop :=
  ∀ below, a = some (.checkbox below) ↔ b = some (.checkbox below)

theorem SameBox.refl (a : Option Name) : SameBox a a := fun _ => Iff.rfl

/-- Where neither is a checkbox, both are as good as nothing. -/
theorem sameBox_of_other {a b : Option Name} (ha : ∀ name ∈ a, name.isCheckbox = false)
    (hb : ∀ name ∈ b, name.isCheckbox = false) : SameBox a b := by
  intro below
  constructor
  · rintro rfl
    exact absurd (ha _ rfl) (by simp [Name.isCheckbox])
  · rintro rfl
    exact absurd (hb _ rfl) (by simp [Name.isCheckbox])

/-- Where both are checkboxes, if anything, they are the same. -/
theorem SameBox.eq {a b : Option Name} (h : SameBox a b) (ha : ∀ name ∈ a, name.isCheckbox = true)
    (hb : ∀ name ∈ b, name.isCheckbox = true) : a = b := by
  cases a with
  | some name =>
    obtain ⟨below, rfl⟩ := Name.exists_of_isCheckbox (ha name rfl)
    exact ((h below).mp rfl).symm
  | none =>
    cases b with
    | none => rfl
    | some name =>
      obtain ⟨below, rfl⟩ := Name.exists_of_isCheckbox (hb name rfl)
      exact absurd ((h below).mpr rfl) (by simp)

theorem SameBox.beq {a b : Option Name} (h : SameBox a b) (below : Bool) :
    (a == some (.checkbox below)) = (b == some (.checkbox below)) := by
  rw [Bool.eq_iff_iff, beq_iff_eq, beq_iff_eq]
  exact h below

theorem SameBox.ite {a b a' b' : Option Name} (h : SameBox a b) (h' : SameBox a' b') (c : Prop)
    [Decidable c] : SameBox (if c then a else a') (if c then b else b') := by
  split
  · exact h
  · exact h'

/-! ## The end of a click -/

/-- A release lets go of everything. -/
theorem Grip.update_release (g : Grip) (drawn : List Name) (hit : Hit) (pointer : Pointer)
    (now : Rat) {stroke : Stroke} (escape : Bool) (hreleased : stroke.released.isSome = true) :
    (g.update drawn hit pointer now stroke escape).1 = {} := by
  have hstart : ∀ certain, ({} : Grip).startDrag drawn certain = {} := fun _ => rfl
  unfold update
  dsimp only
  rw [hreleased, if_pos rfl, hstart]
  split <;> split <;> rfl

end Reveal
