import Mathlib.Data.List.Basic
import Mathlib.Tactic.Common

namespace OpenAmpReference

/-!
# Servers of request streams

A server takes requests one after the other, and each request that it serves
has an output.  When it stops serving, the requests that are left stay where
they are.  Two servers are compared by the outputs of the same stream, so that
an equation between runs speaks about the order of the outputs and about where
the servers stop.
-/

/-- A server with a state. -/
structure Service (State Request Output : Type*) where
  serving : State -> Bool
  serve : State -> Request -> State × Output

namespace Service

variable {State Request Output : Type*} (service : Service State Request Output)

/-- The outputs of the requests that are served. -/
def run : State -> List Request -> List Output
  | _, [] => []
  | state, request :: rest =>
      if service.serving state then
        (service.serve state request).2 :: run (service.serve state request).1 rest
      else []

/-- The state once the requests that can be served have been. -/
def after : State -> List Request -> State
  | state, [] => state
  | state, request :: rest =>
      if service.serving state then after (service.serve state request).1 rest else state

variable {service}

@[simp] theorem run_nil (state : State) : service.run state [] = [] := rfl

theorem run_of_stopped {state : State} (stopped : service.serving state = false)
    (requests : List Request) : service.run state requests = [] := by
  cases requests with
  | nil => rfl
  | cons request rest => rw [run, stopped, if_neg Bool.false_ne_true]

theorem run_of_serving {state : State} (serving : service.serving state = true)
    (request : Request) (rest : List Request) :
    service.run state (request :: rest) =
      (service.serve state request).2 :: service.run (service.serve state request).1 rest := by
  rw [run, if_pos serving]

end Service
end OpenAmpReference
