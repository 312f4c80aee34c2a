import Mathlib.Tactic.Common

namespace OpenAmpReference

/-!
# Event loops behind a doorbell

A ring is pending until the interrupt handler turns it into a signal.  The
loop waits for the signal, clears it and then empties its queue; whatever
comes later rings again.  Clearing first is what makes the order safe: a
message that comes after the loop has looked leaves a signal behind.
-/

/-- Where a loop is; `found` says that the queue was not empty. -/
inductive Place
  | polling
  | woken
  | draining (found : Bool)
  deriving DecidableEq, Repr

structure EventLoop where
  bell : Bool
  signaled : Bool
  place : Place
  deriving DecidableEq, Repr

namespace EventLoop

def asleep : EventLoop where
  bell := false
  signaled := false
  place := .polling

def ring (loop : EventLoop) : EventLoop := { loop with bell := true }

/-- The interrupt handler -/
def interrupt (loop : EventLoop) : Option EventLoop :=
  if loop.bell then some { loop with bell := false, signaled := true } else none

/-- The loop up to its queue -/
def advance (loop : EventLoop) : Option EventLoop :=
  match loop.place with
  | .polling => if loop.signaled then some { loop with place := .woken } else none
  | .woken => some { loop with signaled := false, place := .draining false }
  | .draining _ => none

/-- The loop has taken something from its queue. -/
def finds (loop : EventLoop) : EventLoop := { loop with place := .draining true }

/-- The queue is empty. -/
def rest (loop : EventLoop) : EventLoop := { loop with place := .polling }

/-- The loop is going to look at its queue. -/
def Looks (loop : EventLoop) : Prop :=
  loop.bell = true ∨ loop.signaled = true ∨ loop.place ≠ .polling

/-- What is left to do.  A loop that has found something may ring once more. -/
def weight (loop : EventLoop) : Nat :=
  4 * loop.bell.toNat +
    match loop.place with
    | .polling => 3 * loop.signaled.toNat + 1
    | .woken => 3
    | .draining found => 3 * loop.signaled.toNat + 2 + 5 * found.toNat

variable {loop next : EventLoop}

theorem looks_ring (loop : EventLoop) : loop.ring.Looks := Or.inl rfl

theorem looks_finds (loop : EventLoop) : loop.finds.Looks :=
  Or.inr (Or.inr Place.noConfusion)

/-- An interrupt and a step towards the queue leave the loop looking. -/
theorem interrupt_looks (moved : loop.interrupt = some next) : next.Looks := by
  unfold interrupt at moved
  split at moved
  · cases moved
    exact Or.inr (Or.inl rfl)
  · cases moved

theorem advance_looks (moved : loop.advance = some next) : next.Looks := by
  unfold advance at moved
  split at moved
  · split at moved
    · cases moved
      exact Or.inr (Or.inr Place.noConfusion)
    · cases moved
  · cases moved
    exact Or.inr (Or.inr Place.noConfusion)
  · cases moved

/-- A loop that looks gets to its queue. -/
theorem Looks.goes (looks : loop.Looks) :
    loop.bell = true ∨ (loop.advance).isSome ∨
      Exists fun found => loop.place = .draining found := by
  rcases looks with rings | signals | awake
  · exact Or.inl rings
  · refine Or.inr ?_
    unfold advance
    cases at_place : loop.place with
    | polling => exact Or.inl (by rw [signals]; rfl)
    | woken => exact Or.inl rfl
    | draining found => exact Or.inr ⟨found, rfl⟩
  · refine Or.inr ?_
    unfold advance
    cases at_place : loop.place with
    | polling => exact absurd at_place awake
    | woken => exact Or.inl rfl
    | draining found => exact Or.inr ⟨found, rfl⟩

theorem weight_ring (loop : EventLoop) : loop.ring.weight ≤ loop.weight + 4 := by
  simp only [weight, ring, Bool.toNat_true]
  omega

theorem interrupt_weight (moved : loop.interrupt = some next) : next.weight < loop.weight := by
  unfold interrupt at moved
  split at moved
  · rename_i rings
    cases moved
    simp only [weight, rings, Bool.toNat_true, Bool.toNat_false]
    cases loop.place with
    | polling | woken | draining => dsimp only; omega
  · cases moved

theorem advance_weight (moved : loop.advance = some next) : next.weight < loop.weight := by
  unfold advance at moved
  cases at_place : loop.place with
  | polling =>
      rw [at_place] at moved
      dsimp only at moved
      split at moved
      · rename_i signals
        cases moved
        simp only [weight, at_place, signals, Bool.toNat_true]
        exact Nat.lt_succ_self _
      · cases moved
  | woken =>
      rw [at_place] at moved
      cases moved
      simp only [weight, at_place, Bool.toNat_false]
      exact Nat.lt_succ_self _
  | draining found =>
      rw [at_place] at moved
      cases moved

theorem weight_finds {found : Bool} (drains : loop.place = .draining found) :
    loop.finds.weight ≤ loop.weight + 5 := by
  simp only [weight, finds, drains, Bool.toNat_true]
  omega

theorem weight_rest {found : Bool} (drains : loop.place = .draining found) :
    loop.rest.weight + 5 * found.toNat < loop.weight := by
  simp only [weight, rest, drains]
  omega

end EventLoop
end OpenAmpReference
