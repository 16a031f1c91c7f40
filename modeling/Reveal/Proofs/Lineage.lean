import Mathlib.Logic.Function.Basic
import Reveal.Proofs.History
import Reveal.Roster

/-!
# Reveal — where each of several windows comes from

A copy of a window has the history of that window up to then, and one of its own from then
on. So each window of a list has a lineage: what the first of its ancestors was made of, the
actions on each ancestor until the next one was copied from it, and those on the window
itself. A `Ledger` keeps these lineages from the steps alone. It knows no windows.

A window is what a single window would be that is made anew and taken through its lineage.
As actions go to the current window only, and copying takes a value, nothing that is done to
one window can be seen in another.

## Results

* `lineage_after`   — later steps add to a lineage what is done to that window in them.
* `Describes.next`  — the books and the windows keep in step.
* `describes_after` — so they do through a run.
* `windows_apart`   — all of this for the runs that begin with a single new window.
-/

namespace Reveal

/-- What a window was made of, or the first of its ancestors if it is a copy, and all that has
been done since to the one that it was then. -/
structure Lineage where
  settings : Settings
  document : Document
  actions : List Window.Action

namespace Lineage

/-- A lineage that goes on by some actions. -/
def followedBy (l : Lineage) (actions : List Window.Action) : Lineage :=
  { l with actions := l.actions ++ actions }

/-- The window with this lineage, made anew. -/
def window (l : Lineage) : Window :=
  Run.after Window.perform (Window.build l.settings l.document).1 l.actions

theorem followedBy_nil (l : Lineage) : l.followedBy [] = l := by
  rw [followedBy, List.append_nil]

theorem followedBy_append (l : Lineage) (first second : List Window.Action) :
    l.followedBy (first ++ second) = (l.followedBy first).followedBy second := by
  simp only [followedBy, List.append_assoc]

/-- One more action is done to the window that there is. -/
theorem window_followedBy (l : Lineage) (action : Window.Action) :
    (l.followedBy [action]).window = l.window.next action := Run.after_append _ _ _ _

/-- In no lineage do the checkbox and the pane differ. -/
theorem isConsistent_window (l : Lineage) : l.window.isConsistent = true :=
  Run.after_invariant (P := fun w : Window => w.isConsistent = true)
    (fun _ action h => Window.isConsistent_next h action) rfl l.actions

end Lineage

/-! ## The books -/

/-- The books about several windows, which are known by their numbers. -/
structure Ledger where
  /-- How many windows there are. -/
  count : Nat
  /-- The number of the current one. -/
  current : Nat
  lineage : Nat → Lineage

namespace Ledger

/-- The books about a single new window. -/
def opened (settings : Settings) (document : Document) : Ledger :=
  ⟨1, 0, fun _ => ⟨settings, document, []⟩⟩

/-- What a step does to window number `i`. -/
def doneIn (b : Ledger) (i : Nat) : Windows.Step → List Window.Action
  | .act action => if i = b.current then [action] else []
  | .duplicate | .build _ _ | .select _ => []

/-- Enters a new window, which becomes the current one. -/
def enter (b : Ledger) (l : Lineage) : Ledger :=
  ⟨b.count + 1, b.count, Function.update b.lineage b.count l⟩

/-- The books after a step. -/
def next (b : Ledger) : Windows.Step → Ledger
  | .act action =>
    { b with
      lineage :=
        Function.update b.lineage b.current ((b.lineage b.current).followedBy [action]) }
  | .duplicate => b.enter (b.lineage b.current)
  | .build settings document => b.enter ⟨settings, document, []⟩
  | .select i => { b with current := if i < b.count then i else b.current }

/-- The books after a list of steps. -/
def after (b : Ledger) (steps : List Windows.Step) : Ledger := steps.foldl next b

/-- What a list of steps does to window number `i`. -/
def done (b : Ledger) (i : Nat) : List Windows.Step → List Window.Action
  | [] => []
  | step :: later => b.doneIn i step ++ (b.next step).done i later

theorem count_le_next (b : Ledger) (step : Windows.Step) : b.count ≤ (b.next step).count := by
  cases step with
  | act action => exact Nat.le_refl _
  | duplicate => exact Nat.le_succ _
  | build settings document => exact Nat.le_succ _
  | select i => exact Nat.le_refl _

/-- An action goes down in the lineage of the window that is chosen, and in no other. -/
theorem lineage_act (b : Ledger) (action : Window.Action) (i : Nat) :
    (b.next (.act action)).lineage i =
      if i = b.current then (b.lineage b.current).followedBy [action] else b.lineage i :=
  Function.update_apply _ _ _ _

/-- A new window comes last, and the others keep their lineages. -/
theorem lineage_enter (b : Ledger) (l : Lineage) (i : Nat) :
    (b.enter l).lineage i = if i = b.count then l else b.lineage i :=
  Function.update_apply _ _ _ _

theorem lineage_next (b : Ledger) (step : Windows.Step) {i : Nat} (h : i < b.count) :
    (b.next step).lineage i = (b.lineage i).followedBy (b.doneIn i step) := by
  cases step with
  | act action =>
    -- only the current window's lineage is written on
    rw [lineage_act, doneIn]
    by_cases hi : i = b.current
    · rw [if_pos hi, if_pos hi, hi]
    · rw [if_neg hi, if_neg hi, Lineage.followedBy_nil]
  | duplicate =>
    -- a new lineage gets a number of its own
    rw [doneIn, Lineage.followedBy_nil]
    exact (b.lineage_enter _ i).trans (if_neg (Nat.ne_of_lt h))
  | build settings document =>
    rw [doneIn, Lineage.followedBy_nil]
    exact (b.lineage_enter _ i).trans (if_neg (Nat.ne_of_lt h))
  | select j =>
    rw [doneIn, Lineage.followedBy_nil]
    rfl

/-- **Later steps** add to a lineage what is done to that window in them. -/
theorem lineage_after (b : Ledger) (steps : List Windows.Step) {i : Nat} (h : i < b.count) :
    (b.after steps).lineage i = (b.lineage i).followedBy (b.done i steps) := by
  induction steps generalizing b with
  | nil => exact (Lineage.followedBy_nil _).symm
  | cons step later ih =>
    -- a window that there is does not go away, so the rest of the steps goes on with it
    have hnext : i < (b.next step).count := Nat.lt_of_lt_of_le h (b.count_le_next step)
    rw [done, Lineage.followedBy_append, ← b.lineage_next step h]
    exact ih (b.next step) hnext

end Ledger

/-! ## The windows -/

namespace Windows

/-- The windows after a step, with the reply to it. -/
def perform (r : Windows) : Step → Windows × Window.Reply
  | .act action => (r.replace (r.current.next action), r.current.reply action)
  | .duplicate => (r.add r.current, {})
  | .build settings document =>
    (r.add (Window.build settings document).1, { events := (Window.build settings document).2 })
  | .select i => (r.select i, {})

/-- No step fails. -/
theorem step_eq (r : Windows) (s : Step) : step r s = .ok (perform r s) := by
  cases s with
  | act action =>
    rw [step, Window.act_eq_perform]
    rfl
  | duplicate => rfl
  | build settings document => rfl
  | select i => rfl

theorem trace_eq (r : Windows) (steps : List Step) :
    trace r steps = .ok (Run.trace perform r steps) := Run.attemptTrace_eq step_eq r steps

/-- **A step changes no window** but the current one, and that only by an action. -/
theorem getElem?_perform (r : Windows) (s : Step) {i : Nat} (h : i < r.members.length)
    (hother : ∀ action, s = .act action → i ≠ r.index) :
    (perform r s).1.members[i]? = r.members[i]? := by
  cases s with
  | act action => exact (r.getElem?_replace _ i).trans (if_neg (hother action rfl))
  | duplicate => exact (r.getElem?_add _ i).trans (if_neg (Nat.ne_of_lt h))
  | build settings document => exact (r.getElem?_add _ i).trans (if_neg (Nat.ne_of_lt h))
  | select j => exact congrArg (·[i]?) (r.members_select j)

end Windows

/-- The books are in order: every window is what its lineage makes of a new one. -/
structure Ledger.Describes (b : Ledger) (r : Windows) : Prop where
  count : r.members.length = b.count
  current : r.index = b.current
  lineage : ∀ i w, r.members[i]? = some w → w = (b.lineage i).window

namespace Ledger

theorem describes_opened (settings : Settings) (document : Document) :
    (opened settings document).Describes (.single (Window.build settings document).1) := by
  refine ⟨rfl, rfl, ?_⟩
  intro i w hw
  -- there is no other window than the first
  cases i with
  | zero => exact (Option.some.inj hw).symm
  | succ i => exact absurd hw (by simp [Roster.single])

variable {b : Ledger} {r : Windows}

theorem Describes.current_eq (h : b.Describes r) : r.current = (b.lineage b.current).window := by
  rw [← h.current]
  exact h.lineage _ _ r.getElem?_index

/-- An action does to the chosen window what it adds to the lineage of it. -/
theorem Describes.act (h : b.Describes r) (action : Window.Action) :
    (b.next (.act action)).Describes (r.replace (r.current.next action)) := by
  refine ⟨?_, h.current, ?_⟩
  · rw [Roster.replace, List.length_set]
    exact h.count
  · intro i w hw
    rw [Roster.getElem?_replace, h.current] at hw
    rw [lineage_act]
    by_cases hi : i = b.current
    · rw [if_pos hi, h.current_eq, ← Lineage.window_followedBy] at hw
      rw [if_pos hi, Option.some.inj hw]
    · rw [if_neg hi] at hw
      rw [if_neg hi, h.lineage i w hw]

/-- A window is put into the list as its lineage goes into the ledger. -/
theorem Describes.enter (h : b.Describes r) (l : Lineage) :
    (b.enter l).Describes (r.add l.window) := by
  refine ⟨?_, ?_, ?_⟩
  · rw [Roster.add, List.length_append, h.count]
    rfl
  · exact h.count
  · intro i w hw
    rw [Roster.getElem?_add, h.count] at hw
    rw [lineage_enter]
    by_cases hi : i = b.count
    · rw [if_pos hi] at hw
      rw [if_pos hi, Option.some.inj hw]
    · rw [if_neg hi] at hw
      rw [if_neg hi, h.lineage i w hw]

/-- Both choose the same window, or keep theirs if there is none at that place. -/
theorem Describes.select (h : b.Describes r) (i : Nat) :
    (b.next (.select i)).Describes (r.select i) := by
  refine ⟨?_, ?_, ?_⟩
  · rw [Roster.members_select]
    exact h.count
  · rw [Roster.index_select, h.count, h.current]
    rfl
  · rw [Roster.members_select]
    exact h.lineage

/-- **The books and the windows keep in step.** -/
theorem Describes.next (h : b.Describes r) (step : Windows.Step) :
    (b.next step).Describes (Windows.perform r step).1 := by
  cases step with
  | act action => exact h.act action
  | duplicate =>
    -- the copy is a value: it has come to be in the same way as the current window
    rw [Windows.perform, h.current_eq]
    exact h.enter _
  | build settings document => exact h.enter ⟨settings, document, []⟩
  | select i => exact h.select i

/-- **The ledger describes the list** after any steps, if it does before them. -/
theorem describes_after (h : b.Describes r) (steps : List Windows.Step) :
    (b.after steps).Describes (Run.after Windows.perform r steps) := by
  induction steps generalizing b r with
  | nil => exact h
  | cons step later ih => exact ih (h.next step)

end Ledger

/-- **Windows know nothing of one another.** Take any steps from a single new window on, and
one step more. None of them fails. Each window that there is before the last step is in every
respect the one that is made anew and goes through its lineage alone, and is consistent. The
last step leaves all windows as they are but the current one, and that too unless it is an
action; copying and selecting log nothing. A lineage, once there, goes on by what is done to its
window, and nothing else. -/
theorem windows_apart (settings : Settings) (document : Document) (steps : List Windows.Step)
    (step : Windows.Step) :
    let start : Windows := .single (Window.build settings document).1
    let books := (Ledger.opened settings document).after steps
    ∃ visited r r' reply,
      Windows.trace start (steps ++ [step]) = .ok (visited ++ [(r', reply)]) ∧
      (visited.getLast?.map Prod.fst).getD start = r ∧
      (r.members.length = books.count ∧ r.index = books.current) ∧
      (∀ i w, r.members[i]? = some w →
        let l := books.lineage i
        (∃ replies, (Window.build l.settings l.document).1.run l.actions = .ok (w, replies)) ∧
          w.isConsistent = true) ∧
      (∀ i, i < r.members.length → (∀ action, step = .act action → i ≠ r.index) →
        r'.members[i]? = r.members[i]?) ∧
      ((step = .duplicate ∨ ∃ i, step = .select i) → reply.events = []) ∧
      ∀ i later, i < books.count →
        (books.after later).lineage i = (books.lineage i).followedBy (books.done i later) := by
  intro start books
  let r := Run.after Windows.perform start steps
  have hbooks : books.Describes r :=
    Ledger.describes_after (Ledger.describes_opened settings document) steps
  refine ⟨Run.trace Windows.perform start steps, r, (Windows.perform r step).1,
    (Windows.perform r step).2, ?_, Run.getLast?_trace _ _ _, ⟨hbooks.count, hbooks.current⟩,
    ?_, ?_, ?_, ?_⟩
  · rw [Windows.trace_eq, Run.trace_append]
    rfl
  · intro i w hw l
    -- taking a new window through a lineage cannot fail, so there is a run that gives it
    have hw : w = l.window := hbooks.lineage i w hw
    rw [hw]
    exact ⟨⟨_, Window.run_eq _ _⟩, l.isConsistent_window⟩
  · intro i hi hother
    exact r.getElem?_perform step hi hother
  · rintro (rfl | ⟨i, rfl⟩)
    · rfl
    · rfl
  · intro i later hi
    exact books.lineage_after later hi

end Reveal
