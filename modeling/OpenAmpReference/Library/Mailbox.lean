import Mathlib.Data.List.Basic
import Mathlib.Tactic.Common

namespace OpenAmpReference

/-!
# Mailboxes with a doorbell

Messages wait in buffers until the receiver has handed the buffers back.  A
sender rings after each message; the rings merge into one, and the receiver
forgets it before it empties the mailbox, not after.  A channel may tell a
sender that has found no buffer when some were handed back, once the mailbox
has been emptied.
-/

/-- `held` counts the buffers whose message is being handled, and `owed` says that buffers
have been handed back and the sender has not been told. -/
structure Mailbox (Message : Type*) where
  queue : List Message
  held : Nat
  kicked : Bool
  draining : Bool
  owed : Bool
  deriving DecidableEq, Repr

namespace Mailbox

variable {Message : Type*}

def empty : Mailbox Message where
  queue := []
  held := 0
  kicked := false
  draining := false
  owed := false

/-- The buffers in use -/
def used (box : Mailbox Message) : Nat := box.queue.length + box.held

/-! ## Operations -/

def kick (box : Mailbox Message) : Mailbox Message := { box with kicked := true }

def post (box : Mailbox Message) (message : Message) : Mailbox Message :=
  { box with queue := box.queue ++ [message], kicked := true }

/-- The receiver has been woken. -/
def wake (box : Mailbox Message) : Mailbox Message := { box with kicked := false, draining := true }

/-- The first message is taken out; its buffer is not yet handed back. -/
def take (box : Mailbox Message) : Mailbox Message :=
  { box with queue := box.queue.tail, held := box.held + 1 }

def giveBack (box : Mailbox Message) : Mailbox Message :=
  { box with held := box.held - 1, owed := true }

/-- The mailbox is empty, and the receiver is through. -/
def settle (box : Mailbox Message) : Mailbox Message :=
  { box with draining := false, owed := false }

/-- The sender of that mailbox is told what it is owed, if the channel tells. -/
def told (box : Mailbox Message) (tells : Bool) (other : Mailbox Message) : Mailbox Message :=
  if tells && other.owed then box.kick else box

section Used

variable {box : Mailbox Message}

theorem used_post (message : Message) : (box.post message).used = box.used + 1 := by
  simp only [used, post, List.length_append, List.length_singleton]
  omega

/-- Taking a message out does not free its buffer. -/
theorem used_take {first : Message} {rest : List Message} (queue : box.queue = first :: rest) :
    box.take.used = box.used := by
  simp only [used, take, queue, List.tail_cons, List.length_cons]
  omega

theorem used_giveBack_le : box.giveBack.used ≤ box.used := by
  simp only [used, giveBack]
  omega

end Used

section Told

variable {box : Mailbox Message} (tells : Bool) (other : Mailbox Message)

@[simp] theorem told_queue : (box.told tells other).queue = box.queue := by
  unfold told
  split <;> rfl

@[simp] theorem told_held : (box.told tells other).held = box.held := by
  unfold told
  split <;> rfl

@[simp] theorem told_draining : (box.told tells other).draining = box.draining := by
  unfold told
  split <;> rfl

@[simp] theorem told_owed : (box.told tells other).owed = box.owed := by
  unfold told
  split <;> rfl

@[simp] theorem told_used : (box.told tells other).used = box.used := by
  unfold used
  rw [told_queue, told_held]

theorem told_kicked (speaks : tells = true) (owes : other.owed = true) :
    (box.told tells other).kicked = true := by
  unfold told
  rw [speaks, owes]
  rfl

/-- A ring that was there stays. -/
theorem kicked_told (rings : box.kicked = true) : (box.told tells other).kicked = true := by
  unfold told
  split
  · rfl
  · exact rings

end Told

/-! ## No message is forgotten -/

/-- Whatever is in the mailbox, somebody is going to look. -/
structure Attended (box : Mailbox Message) : Prop where
  queued : box.queue ≠ [] -> box.kicked = true ∨ box.draining = true
  handled : box.held ≠ 0 -> box.draining = true
  settled : box.owed = true -> box.draining = true

namespace Attended

variable {box : Mailbox Message}

theorem initially : (empty : Mailbox Message).Attended where
  queued := fun occupied => absurd rfl occupied
  handled := fun occupied => absurd rfl occupied
  settled := Bool.noConfusion

theorem kick (attended : box.Attended) : box.kick.Attended :=
  { attended with queued := fun _ => Or.inl rfl }

theorem post (attended : box.Attended) (message : Message) : (box.post message).Attended :=
  { attended with queued := fun _ => Or.inl rfl }

theorem told (attended : box.Attended) (tells : Bool) (other : Mailbox Message) :
    (box.told tells other).Attended := by
  unfold Mailbox.told
  split
  · exact attended.kick
  · exact attended

/-- A receiver that is at work looks at everything. -/
theorem of_draining (drains : box.draining = true) : box.Attended where
  queued := fun _ => Or.inr drains
  handled := fun _ => drains
  settled := fun _ => drains

/-- The receiver may stop when nothing is left. -/
theorem settle (through : box.queue = []) (free : box.held = 0) : box.settle.Attended where
  queued := fun occupied => absurd through occupied
  handled := fun occupied => absurd free occupied
  settled := Bool.noConfusion

/-- A receiver that sleeps with nothing to wake it has nothing to do. -/
theorem nothing (attended : box.Attended) (asleep : box.draining = false)
    (quiet : box.kicked = false) : box.queue = [] ∧ box.held = 0 ∧ box.owed = false := by
  refine ⟨?_, ?_, ?_⟩
  · by_contra occupied
    rcases attended.queued occupied with rings | drains
    · exact Bool.noConfusion (quiet.symm.trans rings)
    · exact Bool.noConfusion (asleep.symm.trans drains)
  · by_contra occupied
    exact Bool.noConfusion (asleep.symm.trans (attended.handled occupied))
  · cases owes : box.owed with
    | false => rfl
    | true => exact Bool.noConfusion (asleep.symm.trans (attended.settled owes))

end Attended

/-! ## What is left to do -/

/-- A message has its price, and a ring is worth more than the look it causes. -/
def weight (message : Nat) (box : Mailbox Message) : Nat :=
  message * box.queue.length + 3 * box.kicked.toNat + 2 * box.draining.toNat + 4 * box.owed.toNat

variable {box : Mailbox Message} (message : Nat)

theorem weight_kick : box.kick.weight message ≤ box.weight message + 3 := by
  simp only [weight, kick, Bool.toNat_true]
  omega

theorem weight_told (tells : Bool) (other : Mailbox Message) :
    (box.told tells other).weight message ≤ box.weight message + 3 * other.owed.toNat := by
  unfold told
  split
  · rename_i both
    rw [(Bool.and_eq_true_iff.mp both).2]
    exact weight_kick message
  · exact Nat.le_add_right _ _

theorem weight_post (sent : Message) :
    (box.post sent).weight message ≤ box.weight message + message + 3 := by
  simp only [weight, post, Bool.toNat_true, List.length_append, List.length_singleton,
    Nat.mul_add, Nat.mul_one]
  omega

theorem weight_wake (rings : box.kicked = true) (sleeps : box.draining = false) :
    box.wake.weight message + 1 = box.weight message := by
  simp only [weight, wake, rings, sleeps, Bool.toNat_true, Bool.toNat_false]
  omega

theorem weight_take {first : Message} {rest : List Message} (queue : box.queue = first :: rest) :
    box.take.weight message + message = box.weight message := by
  simp only [weight, take, queue, List.tail_cons, List.length_cons, Nat.mul_add, Nat.mul_one]
  omega

theorem weight_giveBack : box.giveBack.weight message ≤ box.weight message + 4 := by
  simp only [weight, giveBack, Bool.toNat_true]
  omega

theorem weight_settle (drains : box.draining = true) :
    box.settle.weight message + 2 + 4 * box.owed.toNat = box.weight message := by
  simp only [weight, settle, drains, Bool.toNat_true, Bool.toNat_false]

end Mailbox
end OpenAmpReference
