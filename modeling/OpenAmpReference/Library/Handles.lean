import OpenAmpReference.Library.Ledger

namespace OpenAmpReference

/-!
# Numbered handles

Handles are numbered as they are opened, so that none is ever handed out twice.  The
ledger remembers what has been closed how often.  `Holds` says which handles are open
and that all others have been closed once; opening and closing change it by one handle,
whatever else is open.
-/

structure Handles where
  next : Nat
  ledger : Ledger Nat
  deriving DecidableEq, Repr

namespace Handles

/-- Nothing has been opened; the first handle will be `next`. -/
def initial (next : Nat) : Handles where
  next := next
  ledger := Ledger.empty

/-- Open the handle `next`. -/
def opens (handles : Handles) : Handles where
  next := handles.next + 1
  ledger := handles.ledger.acquire handles.next

def close (handles : Handles) (handle : Nat) : Handles :=
  { handles with ledger := handles.ledger.release handle }

/-- Something is read or written through the handle, if there is one. -/
def useIfSet (handles : Handles) : Option Nat -> Handles
  | none => { handles with ledger := handles.ledger.misuse }
  | some handle => { handles with ledger := handles.ledger.use handle }

@[simp] theorem useIfSet_next (handles : Handles) (handle : Option Nat) :
    (handles.useIfSet handle).next = handles.next := by
  cases handle <;> rfl

/-- The handles of the list are open, and whatever else was opened has been closed
exactly once. -/
structure Holds (handles : Handles) (held : List Nat) : Prop where
  acquired_lt : forall handle, handle ∈ handles.ledger.acquired -> handle < handles.next
  released_lt : forall handle, handle ∈ handles.ledger.released -> handle < handles.next
  live : forall handle, handle ∈ held -> handles.ledger.Live handle
  settled : forall handle, handle ∈ handles.ledger.acquired -> handle ∉ held ->
    handles.ledger.released.count handle = 1
  nodup : held.Nodup
  misused : handles.ledger.misused = false

variable {handles : Handles} {held : List Nat}

theorem initial_holds (next : Nat) : (initial next).Holds [] where
  acquired_lt := fun _ member => absurd member List.not_mem_nil
  released_lt := fun _ member => absurd member List.not_mem_nil
  live := fun _ member => absurd member List.not_mem_nil
  settled := fun _ member => absurd member List.not_mem_nil
  nodup := List.nodup_nil
  misused := rfl

/-- What has been misused stays so. -/
theorem close_misused (misused : handles.ledger.misused = true) (handle : Nat) :
    (handles.close handle).ledger.misused = true :=
  (Ledger.release_extends _ _).misused misused

namespace Holds

theorem lt_next (holds : handles.Holds held) {handle : Nat} (member : handle ∈ held) :
    handle < handles.next :=
  holds.acquired_lt handle (holds.live handle member).1

/-- A handle that is not held is not open. -/
theorem dead (holds : handles.Holds held) {handle : Nat} (gone : handle ∉ held) :
    ¬ handles.ledger.Live handle := by
  intro live
  have once := holds.settled handle live.1 gone
  rw [List.count_eq_zero_of_not_mem live.2] at once
  exact nomatch once

theorem close_dead (holds : handles.Holds held) {handle : Nat} (gone : handle ∉ held) :
    (handles.close handle).ledger.misused = true :=
  Ledger.release_of_dead (holds.dead gone)

theorem useIfSet_dead (holds : handles.Holds []) (handle : Option Nat) :
    (handles.useIfSet handle).ledger.misused = true := by
  cases handle with
  | none => rfl
  | some handle => exact Ledger.use_of_dead (holds.dead List.not_mem_nil)

theorem useIfSet (holds : handles.Holds held) {handle : Nat} (member : handle ∈ held) :
    handles.useIfSet (some handle) = handles := by
  rw [Handles.useIfSet, Ledger.use_of_live (holds.live handle member)]

theorem opens (holds : handles.Holds held) : handles.opens.Holds (handles.next :: held) where
  acquired_lt := by
    intro handle member
    rcases List.mem_cons.mp member with rfl | earlier
    · exact Nat.lt_succ_self _
    · exact Nat.lt_succ_of_lt (holds.acquired_lt handle earlier)
  released_lt := fun handle member => Nat.lt_succ_of_lt (holds.released_lt handle member)
  live := by
    intro handle member
    rcases List.mem_cons.mp member with rfl | earlier
    · exact ⟨List.mem_cons_self, fun closed => Nat.lt_irrefl _ (holds.released_lt _ closed)⟩
    · have live := holds.live handle earlier
      exact ⟨List.mem_cons_of_mem _ live.1, live.2⟩
  settled := by
    intro handle member other
    rcases List.mem_cons.mp member with rfl | earlier
    · exact absurd List.mem_cons_self other
    · exact holds.settled handle earlier (fun held => other (List.mem_cons_of_mem _ held))
  nodup := List.nodup_cons.mpr ⟨fun member => Nat.lt_irrefl _ (holds.lt_next member), holds.nodup⟩
  misused := holds.misused

theorem close (holds : handles.Holds held) {handle : Nat} (member : handle ∈ held) :
    (handles.close handle).Holds (held.erase handle) := by
  have live := holds.live handle member
  have ledger := Ledger.release_of_live live
  have others : forall other, other ∈ held.erase handle ↔ other ≠ handle ∧ other ∈ held :=
    fun other => holds.nodup.mem_erase_iff
  constructor
  · intro other acquired
    rw [Handles.close, ledger] at acquired
    exact holds.acquired_lt other acquired
  · intro other released
    rw [Handles.close, ledger] at released
    rcases List.mem_cons.mp released with rfl | earlier
    · exact holds.lt_next member
    · exact holds.released_lt other earlier
  · intro other still
    have before := holds.live other ((others other).mp still).2
    rw [Handles.close, ledger]
    refine ⟨before.1, fun released => ?_⟩
    rcases List.mem_cons.mp released with same | earlier
    · exact ((others other).mp still).1 same
    · exact before.2 earlier
  · intro other acquired gone
    rw [Handles.close, ledger] at acquired ⊢
    by_cases same : other = handle
    · subst same
      rw [List.count_cons_self, List.count_eq_zero_of_not_mem live.2]
    · rw [List.count_cons_of_ne (Ne.symm same)]
      exact holds.settled other acquired (fun before => gone ((others other).mpr ⟨same, before⟩))
  · exact holds.nodup.erase handle
  · rw [Handles.close, ledger]
    exact holds.misused

/-- Closing what was opened last. -/
theorem close_head {handle : Nat} (holds : handles.Holds (handle :: held)) :
    (handles.close handle).Holds held := by
  have closed := holds.close List.mem_cons_self
  rwa [List.erase_cons_head] at closed

/-- Closing what was opened before the last. -/
theorem close_second {first second : Nat} (holds : handles.Holds (first :: second :: held)) :
    (handles.close second).Holds (first :: held) := by
  have closed := holds.close (List.mem_cons_of_mem first List.mem_cons_self)
  have different : first ≠ second := by
    rintro rfl
    exact (List.nodup_cons.mp holds.nodup).1 List.mem_cons_self
  rwa [List.erase_cons_tail (by simpa using different), List.erase_cons_head] at closed

end Holds
end Handles
end OpenAmpReference
