/-!
# Runs

What happens to a state machine, as data: a run applies one event after the other and collects the
answers. Statements about histories are statements about runs.
-/

namespace FlowScope

variable {σ ε α : Type}

/-- Applies a step for each event, and gives the last state with all the answers. -/
def run (step : σ → ε → σ × α) (s : σ) : List ε → σ × List α
  | [] => (s, [])
  | event :: events =>
    let (s, answer) := step s event
    let (s, answers) := run step s events
    (s, answer :: answers)

/-- The state after a run. -/
def after (step : σ → ε → σ × α) (s : σ) (events : List ε) : σ := (run step s events).1

@[simp] theorem run_nil (step : σ → ε → σ × α) (s : σ) : run step s [] = (s, []) := rfl

theorem run_cons (step : σ → ε → σ × α) (s : σ) (event : ε) (events : List ε) :
    run step s (event :: events) =
      ((run step (step s event).1 events).1,
        (step s event).2 :: (run step (step s event).1 events).2) := rfl

theorem run_append (step : σ → ε → σ × α) (s : σ) (first second : List ε) :
    run step s (first ++ second) =
      ((run step (after step s first) second).1,
        (run step s first).2 ++ (run step (after step s first) second).2) := by
  induction first generalizing s with
  | nil => rfl
  | cons event events ih => simp only [List.cons_append, run_cons, after, ih]

/-- What each step keeps holds after every run. -/
theorem after_induction {step : σ → ε → σ × α} {motive : σ → Prop}
    (step_case : ∀ s event, motive s → motive (step s event).1) {s : σ} (start_case : motive s)
    (events : List ε) : motive (after step s events) := by
  induction events generalizing s with
  | nil => exact start_case
  | cons event events ih => exact ih (step_case s event start_case)

end FlowScope
