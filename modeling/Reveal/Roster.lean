import Reveal.Checkbox
import Reveal.Window

/-!
# Reveal — several at once

A `Roster` is a list of things of one kind, one of which is the current one.
What is done is done to that one; a copy, or a new one, is put at the end and
becomes current.

* `Roster.current`, `Roster.replace`, `Roster.add`, `Roster.select`;
* `Checkboxes.step` — steps on several checkboxes;
* `Windows.step` — steps on several windows.
-/

namespace Reveal

/-- A list with a current member. -/
structure Roster (α : Type) where
  members : List α
  index : Nat
  index_lt : index < members.length

namespace Roster

variable {α : Type}

def single (a : α) : Roster α := ⟨[a], 0, by simp⟩

def current (r : Roster α) : α := r.members.get ⟨r.index, r.index_lt⟩

/-- Puts `a` in the place of the current member. -/
def replace (r : Roster α) (a : α) : Roster α :=
  ⟨r.members.set r.index a, r.index, by simpa using r.index_lt⟩

/-- Puts `a` at the end and makes it current. -/
def add (r : Roster α) (a : α) : Roster α := ⟨r.members ++ [a], r.members.length, by simp⟩

/-- Makes member number `i`, counted from 0, current. Where there is none, the
current one stays. -/
def select (r : Roster α) (i : Nat) : Roster α :=
  if h : i < r.members.length then ⟨r.members, i, h⟩ else r

@[simp] theorem current_single (a : α) : (single a).current = a := rfl

@[simp] theorem current_replace (r : Roster α) (a : α) : (r.replace a).current = a := by
  simp [current, replace]

@[simp] theorem current_add (r : Roster α) (a : α) : (r.add a).current = a := by
  simp [current, add]

/-! What is at each place of a list. -/

theorem getElem?_index (r : Roster α) : r.members[r.index]? = some r.current :=
  List.getElem?_eq_getElem r.index_lt

theorem getElem?_replace (r : Roster α) (a : α) (i : Nat) :
    (r.replace a).members[i]? = if i = r.index then some a else r.members[i]? := by
  rw [replace, List.getElem?_set]
  by_cases h : i = r.index
  · rw [if_pos h.symm, if_pos r.index_lt, if_pos h]
  · rw [if_neg (Ne.symm h), if_neg h]

theorem getElem?_add (r : Roster α) (a : α) (i : Nat) :
    (r.add a).members[i]? = if i = r.members.length then some a else r.members[i]? := by
  rw [add]
  by_cases h : i = r.members.length
  · rw [if_pos h, h, List.getElem?_concat_length]
  · by_cases hlt : i < r.members.length
    · rw [if_neg h, List.getElem?_append_left hlt]
    · rw [if_neg h, List.getElem?_eq_none (by simp; omega), List.getElem?_eq_none (by omega)]

theorem members_select (r : Roster α) (i : Nat) : (r.select i).members = r.members := by
  rw [select]
  split
  · rfl
  · rfl

/-- Nothing else is chosen if there is none at that place. -/
theorem index_select (r : Roster α) (i : Nat) :
    (r.select i).index = if i < r.members.length then i else r.index := by
  rw [select]
  split
  · rfl
  · rfl

end Roster

/-! ## Checkboxes -/

abbrev Checkboxes := Roster Checkbox

namespace Checkboxes

inductive Step where
  | act (action : Checkbox.Action)
  /-- Copies the current one. -/
  | duplicate
  | select (i : Nat)
deriving DecidableEq, Repr

/-- Does one step, and gives the change that it caused. -/
def step (r : Checkboxes) : Step → Checkboxes × Option Change
  | .act action =>
    let (checkbox, change) := r.current.act action
    (r.replace checkbox, change)
  | .duplicate => (r.add r.current, none)
  | .select i => (r.select i, none)

/-- The state after each of the steps, with the change that it caused. -/
def trace (r : Checkboxes) (steps : List Step) : List (Checkboxes × Option Change) :=
  Run.trace step r steps

end Checkboxes

/-! ## Windows -/

abbrev Windows := Roster Window

namespace Windows

inductive Step where
  | act (action : Window.Action)
  /-- Copies the current one. -/
  | duplicate
  /-- Makes a new one. -/
  | build (settings : Settings) (document : Document)
  | select (i : Nat)
deriving DecidableEq, Repr

def step (r : Windows) : Step → Except Mismatch (Windows × Window.Reply)
  | .act action => do
    let (window, reply) ← r.current.act action
    return (r.replace window, reply)
  | .duplicate => .ok (r.add r.current, {})
  | .build settings document =>
    let (window, events) := Window.build settings document
    .ok (r.add window, { events := events })
  | .select i => .ok (r.select i, {})

/-- The state after each of the steps, with the step's reply. -/
def trace (r : Windows) (steps : List Step) : Except Mismatch (List (Windows × Window.Reply)) :=
  Run.attemptTrace step r steps

end Windows

end Reveal
