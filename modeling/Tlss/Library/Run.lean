import Mathlib.Data.List.Basic

/-!
# Runs of a state machine

A machine is a total step function `step : σ → ε → σ`; what the environment
decides (faults, schedules, messages) is carried by the events. A run is the
fold of `step` over a list of events, so "in every reachable state" is a
statement about `run step start events` for every list of events.

`run_invariant` is the induction over a run. For `run_invariant_of_meets` only the
steps that meet a condition on the state before them keep the invariant, and
`StepsMeet` says that all steps of a run do.
-/

namespace Tlss.Library

variable {σ ε : Type*} (step : σ → ε → σ)

def run (start : σ) (events : List ε) : σ :=
  events.foldl step start

@[simp] lemma run_nil (start : σ) : run step start [] = start := rfl

lemma run_append (start : σ) (early late : List ε) :
    run step start (early ++ late) = run step (run step start early) late := by
  simp [run]

lemma run_concat (start : σ) (events : List ε) (e : ε) :
    run step start (events ++ [e]) = step (run step start events) e := by
  simp [run]

/-- Every step of the run from `start` meets `ok`, which may look at the state
before the step. -/
def StepsMeet (ok : σ → ε → Prop) : σ → List ε → Prop
  | _, [] => True
  | state, event :: events => ok state event ∧ StepsMeet ok (step state event) events

instance decidableStepsMeet (ok : σ → ε → Prop) [∀ state event, Decidable (ok state event)] :
    ∀ (start : σ) (events : List ε), Decidable (StepsMeet step ok start events)
  | _, [] => inferInstanceAs (Decidable True)
  | start, event :: events =>
    @instDecidableAnd _ _ _ (decidableStepsMeet ok (step start event) events)

variable {step} {Inv : σ → Prop} {start : σ}

lemma run_invariant (hstep : ∀ s e, Inv s → Inv (step s e))
    (hstart : Inv start) (events : List ε) : Inv (run step start events) := by
  induction events generalizing start with
  | nil => exact hstart
  | cons e events ih => exact ih (hstep start e hstart)

lemma run_invariant_of_meets {ok : σ → ε → Prop} (hstep : ∀ s e, Inv s → ok s e → Inv (step s e))
    (hstart : Inv start) {events : List ε}
    (hmeet : StepsMeet step ok start events) : Inv (run step start events) := by
  induction events generalizing start with
  | nil => exact hstart
  | cons e events ih => exact ih (hstep start e hstart hmeet.1) hmeet.2

lemma run_congr_of_meets {ok : σ → ε → Prop} {other : σ → ε → σ}
    (hstep : ∀ s e, ok s e → step s e = other s e) {events : List ε}
    (hmeet : StepsMeet step ok start events) :
    run step start events = run other start events := by
  induction events generalizing start with
  | nil => rfl
  | cons e events ih =>
    calc run step start (e :: events)
      _ = run step (step start e) events := rfl
      _ = run other (step start e) events := ih hmeet.2
      _ = run other (other start e) events := by rw [hstep start e hmeet.1]

end Tlss.Library
