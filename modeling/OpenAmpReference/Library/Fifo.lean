import OpenAmpReference.Library.Transition

namespace OpenAmpReference

/-!
# A queue that serves in order

The abstract service of everything that takes items, keeps them, and hands them on
in the order of their arrival.  A system that keeps two logs, of what it has taken
and of what it has handed on, simulates this service as soon as the second log is
always the beginning of the first, and no step adds to a log more than one item.
-/

/-- The items that wait and those that have been served, from the oldest one. -/
structure Fifo (Item : Type*) where
  waiting : List Item
  served : List Item

namespace Fifo

open Transition

variable {Item : Type*}

inductive Event (Item : Type*)
  | arrive (item : Item)
  | serve

def empty : Fifo Item where
  waiting := []
  served := []

def step (queue : Fifo Item) : Event Item -> Option (Fifo Item)
  | Event.arrive item => some { queue with waiting := queue.waiting ++ [item] }
  | Event.serve =>
      match queue.waiting with
      | [] => none
      | first :: rest => some { waiting := rest, served := queue.served ++ [first] }

/-- All that has arrived -/
def arrived (queue : Fifo Item) : List Item :=
  queue.served ++ queue.waiting

/-- The items that arrive in a schedule -/
def arrivals : List (Event Item) -> List Item
  | [] => []
  | Event.arrive item :: rest => item :: arrivals rest
  | Event.serve :: rest => arrivals rest

theorem step_arrived {queue next : Fifo Item} {event : Event Item}
    (moved : queue.step event = some next) :
    next.arrived = queue.arrived ++ arrivals [event] := by
  cases event with
  | arrive item =>
      cases moved
      exact (List.append_assoc ..).symm
  | serve =>
      cases waits : queue.waiting with
      | nil => simp only [step, waits, reduceCtorEq] at moved
      | cons first rest =>
          simp only [step, waits, Option.some.injEq] at moved
          rw [← moved, arrived, arrived, waits, arrivals, arrivals, List.append_nil,
            List.append_assoc, List.singleton_append]

/-- What has been served and what waits is what was there and what has arrived. -/
theorem run_arrived {queue final : Fifo Item} {events : List (Event Item)}
    (reached : run step queue events = some final) :
    final.arrived = queue.arrived ++ arrivals events := by
  induction events generalizing queue with
  | nil => rw [← Option.some.inj reached, arrivals, List.append_nil]
  | cons event rest inductionHypothesis =>
      rcases run_cons_eq_some.mp reached with ⟨next, moved, later⟩
      rw [inductionHypothesis later, step_arrived moved, List.append_assoc]
      cases event <;> rfl

/-! ## Systems with two logs -/

variable {State Label : Type*}

/-- A step adds nothing to the logs, or one item to one of them. -/
inductive Grows (taken handed takenNext handedNext : List Item) : Prop
  | stays (sameTaken : takenNext = taken) (sameHanded : handedNext = handed)
  | takes (item : Item) (moreTaken : takenNext = taken ++ [item]) (sameHanded : handedNext = handed)
  | hands (item : Item) (sameTaken : takenNext = taken) (moreHanded : handedNext = handed ++ [item])

/-- The queue has served what is handed on, and all that is taken has arrived. -/
structure Logs (taken handed : State -> List Item) (state : State) (queue : Fifo Item) : Prop where
  served : queue.served = handed state
  arrived : queue.arrived = taken state

/-- A system that hands on in order simulates the queue. -/
theorem simulates_of_logs {condition : State -> Label -> Prop}
    {step : State -> Label -> Option State} (Invariant : State -> Prop)
    (taken handed : State -> List Item)
    (preserved : forall state label next, Invariant state -> condition state label ->
      step state label = some next -> Invariant next)
    (ordered : forall state, Invariant state -> handed state <+: taken state)
    (grows : forall state label next, Invariant state -> condition state label ->
      step state label = some next ->
        Grows (taken state) (handed state) (taken next) (handed next)) :
    Simulates condition step Fifo.step
      (fun state queue => Invariant state ∧ Logs taken handed state queue) := by
  rintro state label next queue ⟨invariant, logs⟩ met moved
  have invariantNext := preserved state label next invariant met moved
  cases grows state label next invariant met moved with
  | stays sameTaken sameHanded =>
      refine ⟨[], queue, rfl, invariantNext, ?_⟩
      exact { served := logs.served.trans sameHanded.symm
              arrived := logs.arrived.trans sameTaken.symm }
  | takes item moreTaken sameHanded =>
      have waits : queue.step (Event.arrive item) =
          some { queue with waiting := queue.waiting ++ [item] } := rfl
      refine ⟨[Event.arrive item], _, run_singleton waits, invariantNext, ?_⟩
      refine { served := logs.served.trans sameHanded.symm, arrived := ?_ }
      rw [step_arrived waits, logs.arrived, moreTaken]
      rfl
  | hands item sameTaken moreHanded =>
      rcases ordered next invariantNext with ⟨rest, whole⟩
      have waits : queue.waiting = item :: rest := by
        have arrived := logs.arrived
        rw [Fifo.arrived, logs.served, ← sameTaken, ← whole, moreHanded,
          List.append_assoc] at arrived
        exact List.append_cancel_left arrived
      have served : queue.step Event.serve =
          some { waiting := rest, served := queue.served ++ [item] } := by
        simp only [Fifo.step, waits]
      refine ⟨[Event.serve], _, run_singleton served, invariantNext, ?_⟩
      refine { served := ?_, arrived := ?_ }
      · rw [moreHanded, logs.served]
      · rw [step_arrived served, logs.arrived, sameTaken]
        exact List.append_nil _

/-- In every run whose steps all meet the condition, such a system does what some run of
the queue does. -/
theorem run_of_simulates {condition : State -> Label -> Prop}
    {step : State -> Label -> Option State} {Invariant : State -> Prop}
    {taken handed : State -> List Item}
    (simulates : Simulates condition step Fifo.step
      (fun state queue => Invariant state ∧ Logs taken handed state queue))
    {start final : State} {schedule : List Label} (initially : Invariant start)
    (logs : Logs taken handed start empty) (guarded : Guarded condition step start schedule)
    (reached : run step start schedule = some final) :
    Exists fun events => Exists fun queue => run Fifo.step empty events = some queue ∧
      queue.served = handed final ∧ arrivals events = taken final := by
  rcases simulates.run ⟨initially, logs⟩ guarded reached with ⟨events, queue, ran, _, kept⟩
  refine ⟨events, queue, ran, kept.served, ?_⟩
  rw [← kept.arrived, run_arrived ran]
  rfl

end Fifo
end OpenAmpReference
