/-!
# Reveal — runs

Everything that happens to a part of the program happens in steps, each of which
takes a state to the next one and replies something. A run is a list of steps,
one after the other.

* `Run.after`, `Run.trace` — the last state of a run, and all its states with the
  replies, where no step can fail;
* `Run.attempt`, `Run.attemptTrace` — the same where a step can fail, which ends
  the run;
* `Run.attempt_eq`, `Run.attemptTrace_eq` — a run of steps that could fail but do
  not.
-/

namespace Reveal.Run

variable {σ ι ρ ε : Type}

/-! ## Steps that cannot fail -/

def after (step : σ → ι → σ × ρ) (s : σ) (steps : List ι) : σ :=
  steps.foldl (fun s i => (step s i).1) s

/-- The state after each of the steps, with what the step replied. -/
def trace (step : σ → ι → σ × ρ) : σ → List ι → List (σ × ρ)
  | _, [] => []
  | s, i :: steps => step s i :: trace step (step s i).1 steps

/-- One run after another ends where the second does that begins where the first ends. -/
theorem after_append (step : σ → ι → σ × ρ) (s : σ) (first second : List ι) :
    after step s (first ++ second) = after step (after step s first) second :=
  List.foldl_append

/-- What every step keeps, a run keeps. -/
theorem after_invariant {step : σ → ι → σ × ρ} {P : σ → Prop}
    (hstep : ∀ s i, P s → P (step s i).1) {s : σ} (hs : P s) (steps : List ι) :
    P (after step s steps) := by
  induction steps generalizing s with
  | nil => exact hs
  | cons i steps ih => exact ih (hstep s i hs)

/-- The last state of the trace is the state after the run. -/
theorem getLast?_trace (step : σ → ι → σ × ρ) (s : σ) (steps : List ι) :
    ((trace step s steps).getLast?.map Prod.fst).getD s = after step s steps := by
  induction steps generalizing s with
  | nil => rfl
  | cons i steps ih =>
    rw [show after step s (i :: steps) = after step (step s i).1 steps from rfl, ← ih]
    cases h : (trace step (step s i).1 steps).getLast? <;> simp [trace, List.getLast?_cons, h]

/-- The trace of one run after another is that of both. -/
theorem trace_append (step : σ → ι → σ × ρ) (s : σ) (first second : List ι) :
    trace step s (first ++ second) =
      trace step s first ++ trace step (after step s first) second := by
  induction first generalizing s with
  | nil => rfl
  | cons i first ih => exact congrArg (step s i :: ·) (ih (step s i).1)

/-- What a trace holds for one step is that step, done in the state that the steps
before it lead to. -/
theorem getElem?_trace (step : σ → ι → σ × ρ) (s : σ) (steps : List ι) (n : Nat) :
    (trace step s steps)[n]? = steps[n]?.map (step (after step s (steps.take n))) := by
  induction steps generalizing s n with
  | nil => rfl
  | cons i steps ih =>
    cases n with
    | zero => rfl
    | succ n =>
      rw [trace, List.getElem?_cons_succ, List.getElem?_cons_succ, ih]
      rfl

/-! ## Steps that can fail -/

/-- The state after all the steps, with what they replied. -/
def attempt (step : σ → ι → Except ε (σ × ρ)) : σ → List ι → Except ε (σ × List ρ)
  | s, [] => .ok (s, [])
  | s, i :: steps => do
    let (s, reply) ← step s i
    let (s, replies) ← attempt step s steps
    return (s, reply :: replies)

/-- The state after each of the steps, with what the step replied. -/
def attemptTrace (step : σ → ι → Except ε (σ × ρ)) (s : σ) (steps : List ι) :
    Except ε (List (σ × ρ)) :=
  (attempt (fun s i => (step s i).map fun r => (r.1, r)) s steps).map Prod.snd

/-! ## Steps that do not fail -/

/-- **An attempt whose steps do not fail** is a run, with its replies. -/
theorem attempt_eq {attempted : σ → ι → Except ε (σ × ρ)} {step : σ → ι → σ × ρ}
    (h : ∀ s i, attempted s i = .ok (step s i)) (s : σ) (steps : List ι) :
    attempt attempted s steps = .ok (after step s steps, (trace step s steps).map Prod.snd) := by
  induction steps generalizing s with
  | nil => rfl
  | cons i steps ih =>
    simp only [attempt, h, ih, bind, Except.bind, pure, Except.pure]
    rfl

theorem attemptTrace_eq {attempted : σ → ι → Except ε (σ × ρ)} {step : σ → ι → σ × ρ}
    (h : ∀ s i, attempted s i = .ok (step s i)) (s : σ) (steps : List ι) :
    attemptTrace attempted s steps = .ok (trace step s steps) := by
  have hkeep : ∀ s i, (attempted s i).map (fun r => (r.1, r)) = .ok ((step s i).1, step s i) := by
    intro s i
    rw [h]
    rfl
  -- the replies of these steps are what the trace holds
  have htrace : ∀ s, (trace (fun s i => ((step s i).1, step s i)) s steps).map Prod.snd =
      trace step s steps := by
    induction steps with
    | nil => exact fun _ => rfl
    | cons i steps ih => exact fun s => congrArg (step s i :: ·) (ih (step s i).1)
  rw [attemptTrace, attempt_eq hkeep]
  exact congrArg Except.ok (htrace s)

end Reveal.Run
