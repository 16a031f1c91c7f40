import Reveal.Proofs.Updates
import Reveal.Proofs.Press

/-!
# Reveal — a run step by step

What can be said of a step often depends on the session that it begins in: where the checkbox
is, and what is held. `Session.course` gives each step of a run together with that session, as
`frames` does for the frames. What a run leaves after each of its steps is then a matter of each
step alone.

## Results

* `trace_eq_course`  — what a run leaves after each of its steps.
* `timely_course`    — how long a press has lasted is known in all of them.
-/

namespace Reveal.Session

/-- The steps of a run, each with the session that it begins in. -/
def course (s : Session) : List Step → List (Session × Step)
  | [] => []
  | step :: later => (s, step) :: (s.after step.moments).course later

theorem length_course (s : Session) (steps : List Step) :
    (s.course steps).length = steps.length := by
  induction steps generalizing s with
  | nil => rfl
  | cons step steps ih => rw [course, List.length_cons, List.length_cons, ih]

theorem course_append (s : Session) (first second : List Step) :
    s.course (first ++ second) =
      s.course first ++ (s.after (first.flatMap Step.moments)).course second := by
  induction first generalizing s with
  | nil => rfl
  | cons step first ih =>
    rw [List.cons_append, course, course, ih, List.flatMap_cons, after_append]
    rfl

/-- Each step begins in the session that the steps before it leave. -/
theorem exists_before_of_mem_course {s : Session} {steps : List Step} {f : Session × Step}
    (h : f ∈ s.course steps) :
    ∃ before later, steps = before ++ f.2 :: later ∧
      f.1 = s.after (before.flatMap Step.moments) := by
  induction steps generalizing s with
  | nil => contradiction
  | cons step steps ih =>
    rcases List.mem_cons.mp h with rfl | hlater
    · exact ⟨[], steps, rfl, rfl⟩
    · obtain ⟨before, later, rfl, hsession⟩ := ih hlater
      exact ⟨step :: before, later, rfl, by rw [hsession, List.flatMap_cons, after_append]⟩

/-- **What a run leaves after each of its steps**, and what it logs in it. No step fails. -/
theorem trace_eq_course (s : Session) (steps : List Step) :
    s.trace steps =
      .ok ((s.course steps).map fun f => (f.1.after f.2.moments, f.1.log f.2.moments)) := by
  -- the induction needs the last state too, which the trace does not hold
  have h : ∃ last, Run.attempt (fun s step => (Session.step s step).map fun r => (r.1, r)) s steps =
      .ok (last, (s.course steps).map fun f => (f.1.after f.2.moments, f.1.log f.2.moments)) := by
    induction steps generalizing s with
    | nil => exact ⟨s, rfl⟩
    | cons step steps ih =>
      obtain ⟨last, hlater⟩ := ih (s.after step.moments)
      refine ⟨last, ?_⟩
      simp only [Run.attempt, Session.step, advanceAll_eq_log, Except.map, bind, Except.bind, pure,
        Except.pure] at hlater ⊢
      rw [hlater]
      rfl
  obtain ⟨last, h⟩ := h
  rw [trace, Run.attemptTrace, h]
  rfl

/-- **In all steps of a run** it is known how long a press has lasted. -/
theorem timely_course {s : Session} (h : s.Timely) {steps : List Step}
    (hlate : s.clock.now + 8 * steps.length + 8 ≤ 2 ^ 47) :
    ∀ f ∈ s.course steps, f.1.Timely ∧ f.1.clock.now + 8 ≤ 2 ^ 47 := by
  induction steps generalizing s with
  | nil =>
    intro f hf
    contradiction
  | cons step steps ih =>
    rw [List.length_cons] at hlate
    push_cast at hlate
    have hcount : (0 : ℚ) ≤ steps.length := Nat.cast_nonneg _
    intro f hf
    rcases List.mem_cons.mp hf with rfl | hf
    · exact ⟨h, by linarith⟩
    · obtain ⟨htimely, hnow⟩ := h.step step (by linarith)
      exact ih htimely (by linarith) f hf

end Reveal.Session
