import Mathlib.Data.List.Basic
import Mathlib.Tactic.Common

namespace OpenAmpReference
namespace CountedLoop

/-!
# Counted loops

`for (i = 0; i < bound; ++i)` over a body that may run into a fault.  A fault
ends the loop.  The states a loop goes through are given as a trace, a
function of the number of rounds made so far, and a loop that follows its
trace needs no induction of its own.
-/

variable {State Fault : Type*}

/-- The first rounds of a loop. -/
def run (body : Nat -> State -> Except Fault State) : Nat -> State -> Except Fault State
  | 0, state => Except.ok state
  | rounds + 1, state => (run body rounds state).bind (body rounds)

theorem run_succ (body : Nat -> State -> Except Fault State) (rounds : Nat) (state : State) :
    run body (rounds + 1) state = (run body rounds state).bind (body rounds) := rfl

/-- A loop whose rounds lead from each state of a trace to the next ends in its last. -/
theorem run_trace {body : Nat -> State -> Except Fault State} (trace : Nat -> State)
    {bound : Nat}
    (follows : forall i, i < bound -> body i (trace i) = Except.ok (trace (i + 1))) :
    run body bound (trace 0) = Except.ok (trace bound) := by
  induction bound with
  | zero => rfl
  | succ bound inductionHypothesis =>
      have earlier := inductionHypothesis fun i small =>
        follows i (Nat.lt_succ_of_lt small)
      rw [run_succ, earlier]
      exact follows bound (Nat.lt_succ_self bound)

/-- A loop whose rounds lead from each stage to the next reaches the last stage. -/
theorem run_stages {body : Nat -> State -> Except Fault State} (stage : Nat -> State -> Prop)
    {bound : Nat}
    (follows : forall i state, i < bound -> stage i state ->
      Exists fun next => body i state = Except.ok next ∧ stage (i + 1) next)
    {start : State} (initially : stage 0 start) :
    Exists fun final => run body bound start = Except.ok final ∧ stage bound final := by
  induction bound with
  | zero => exact ⟨start, rfl, initially⟩
  | succ bound inductionHypothesis =>
      rcases inductionHypothesis (fun i state small => follows i state (Nat.lt_succ_of_lt small))
        with ⟨middle, reached, at_stage⟩
      rcases follows bound middle (Nat.lt_succ_self bound) at_stage with ⟨next, performed, last⟩
      refine ⟨next, ?_, last⟩
      rw [run_succ, reached]
      exact performed

end CountedLoop
end OpenAmpReference
