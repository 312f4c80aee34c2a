import OpenAmpReference.Library.ByteMemory

namespace OpenAmpReference

/-!
# A published message stream in shared memory

One direction of a two-party ring: the producer stores message bytes one
after another in a payload area, the address of each message in the next slot
of an address array, and then the number of messages it has published.  The
consumer stores how many it has used.  `View` says what the shared memory
holds at a given progress of the two parties; the update rules advance one
component at a time, and the frame rules say that a store outside the
direction's own footprint changes nothing.

Message contents enter only through one byte stream, so a message is the
`width` bytes of the stream at a multiple of `width`.
-/

namespace Spsc

/-- Where a direction lives: its descriptor (two counters, then the address
array), its payload area, the bytes of one message and the number of messages
there is room for. -/
structure Place where
  descriptor : Nat
  payload : Nat
  width : Nat
  capacity : Nat

namespace Place

/-- Descriptor and payload lie apart, and every address fits in 32 bits. -/
structure Sound (place : Place) : Prop where
  nonempty : 0 < place.width
  apart : place.descriptor + 8 + 4 * place.capacity ≤ place.payload ∨
    place.payload + place.width * place.capacity ≤ place.descriptor
  below : place.payload + place.width * place.capacity ≤ 2 ^ 32

/-- The addresses from `address` on, `size` of them, meet neither the
descriptor nor the payload area. -/
def Avoids (place : Place) (address size : Nat) : Prop :=
  (address + size ≤ place.descriptor ∨
    place.descriptor + 8 + 4 * place.capacity ≤ address) ∧
  (address + size ≤ place.payload ∨
    place.payload + place.width * place.capacity ≤ address)

end Place

/-- How far the two parties have got: message bytes stored, addresses stored,
messages published, messages used. -/
structure Progress where
  bytes : Nat
  slots : Nat
  avail : Nat
  used : Nat

/-- What the memory holds for a direction at a given progress. -/
structure View (place : Place) (stream : Nat -> UInt8) (memory : ByteMemory)
    (progress : Progress) : Prop where
  bytesFit : progress.bytes ≤ place.width * place.capacity
  slotsFit : progress.slots ≤ place.capacity
  avail : memory.readWord place.descriptor = progress.avail
  used : memory.readWord (place.descriptor + 4) = progress.used
  slot : forall index, index < progress.slots ->
    memory.readWord (place.descriptor + 8 + 4 * index) = place.payload + place.width * index
  byte : forall index, index < progress.bytes -> memory (place.payload + index) = stream index

namespace View

variable {place : Place} {stream : Nat -> UInt8} {memory : ByteMemory} {progress : Progress}

/-- Before anything is stored, only the two counters matter. -/
theorem initial (avail : memory.readWord place.descriptor = 0)
    (used : memory.readWord (place.descriptor + 4) = 0) :
    View place stream memory ⟨0, 0, 0, 0⟩ where
  bytesFit := Nat.zero_le _
  slotsFit := Nat.zero_le _
  avail := avail
  used := used
  slot := fun index impossible => absurd impossible (Nat.not_lt_zero index)
  byte := fun index impossible => absurd impossible (Nat.not_lt_zero index)

/-- Store the next byte of the stream. -/
theorem storeByte (view : View place stream memory progress) (sound : place.Sound)
    {address : Nat} {value : UInt8} (here : address = place.payload + progress.bytes)
    (next : value = stream progress.bytes) (room : progress.bytes < place.width * place.capacity) :
    View place stream (memory.writeByte address value)
      { progress with bytes := progress.bytes + 1 } := by
  have apart := sound.apart
  subst here next
  refine ⟨room, view.slotsFit, ?_, ?_, ?_, ?_⟩
  · rw [ByteMemory.readWord_writeByte_of_disjoint _ _ (by omega), view.avail]
  · rw [ByteMemory.readWord_writeByte_of_disjoint _ _ (by omega), view.used]
  · intro index (stored : index < progress.slots)
    have slotsFit := view.slotsFit
    rw [ByteMemory.readWord_writeByte_of_disjoint _ _ (by omega), view.slot index stored]
  · intro index (stored : index < progress.bytes + 1)
    by_cases last : index = progress.bytes
    · subst last
      exact ByteMemory.writeByte_same _ _ _
    · have earlier : index < progress.bytes := by omega
      rw [ByteMemory.writeByte_of_ne _ _ (by omega), view.byte index earlier]

/-- Store the address of the next message in the next slot. -/
theorem storeSlot (view : View place stream memory progress) (sound : place.Sound)
    {address value : Nat} (here : address = place.descriptor + 8 + 4 * progress.slots)
    (next : value = place.payload + place.width * progress.slots)
    (room : progress.slots < place.capacity) :
    View place stream (memory.writeWord address value)
      { progress with slots := progress.slots + 1 } := by
  have apart := sound.apart
  have inside : place.width * progress.slots ≤ place.width * place.capacity :=
    Nat.mul_le_mul_left _ (Nat.le_of_lt room)
  subst here next
  refine ⟨view.bytesFit, room, ?_, ?_, ?_, ?_⟩
  · rw [ByteMemory.readWord_writeWord_of_disjoint _ _ (by omega), view.avail]
  · rw [ByteMemory.readWord_writeWord_of_disjoint _ _ (by omega), view.used]
  · intro index (stored : index < progress.slots + 1)
    by_cases last : index = progress.slots
    · subst last
      have below := sound.below
      have before : place.width * progress.slots < place.width * place.capacity :=
        Nat.mul_lt_mul_of_pos_left room sound.nonempty
      rw [ByteMemory.readWord_writeWord_same, Nat.mod_eq_of_lt (by omega)]
    · have earlier : index < progress.slots := by omega
      rw [ByteMemory.readWord_writeWord_of_disjoint _ _ (by omega), view.slot index earlier]
  · intro index (stored : index < progress.bytes)
    have bytesFit := view.bytesFit
    rw [ByteMemory.writeWord_of_disjoint _ _ (by omega), view.byte index stored]

/-- A store to one of the two counters leaves the slots and the bytes. -/
theorem storeCounter (view : View place stream memory progress) (sound : place.Sound)
    {address value avail used : Nat}
    (here : address = place.descriptor ∨ address = place.descriptor + 4)
    (availNow : (memory.writeWord address value).readWord place.descriptor = avail)
    (usedNow : (memory.writeWord address value).readWord (place.descriptor + 4) = used) :
    View place stream (memory.writeWord address value)
      { progress with avail := avail, used := used } := by
  have apart := sound.apart
  have slotsFit := view.slotsFit
  have bytesFit := view.bytesFit
  refine ⟨view.bytesFit, view.slotsFit, availNow, usedNow, ?_, ?_⟩
  · intro index (stored : index < progress.slots)
    rw [ByteMemory.readWord_writeWord_of_disjoint _ _ (by omega), view.slot index stored]
  · intro index (stored : index < progress.bytes)
    rw [ByteMemory.writeWord_of_disjoint _ _ (by omega), view.byte index stored]

/-- Publish: store the number of messages available. -/
theorem storeAvail (view : View place stream memory progress) (sound : place.Sound)
    {address value : Nat} (here : address = place.descriptor) (small : value < 2 ^ 32) :
    View place stream (memory.writeWord address value) { progress with avail := value } := by
  subst here
  apply view.storeCounter sound (Or.inl rfl)
  · rw [ByteMemory.readWord_writeWord_same, Nat.mod_eq_of_lt small]
  · rw [ByteMemory.readWord_writeWord_of_disjoint _ _ (by omega), view.used]

/-- Consume: store the number of messages used. -/
theorem storeUsed (view : View place stream memory progress) (sound : place.Sound)
    {address value : Nat} (here : address = place.descriptor + 4) (small : value < 2 ^ 32) :
    View place stream (memory.writeWord address value) { progress with used := value } := by
  subst here
  apply view.storeCounter sound (Or.inr rfl)
  · rw [ByteMemory.readWord_writeWord_of_disjoint _ _ (by omega), view.avail]
  · rw [ByteMemory.readWord_writeWord_same, Nat.mod_eq_of_lt small]

/-! ## Stores elsewhere -/

theorem frameByte (view : View place stream memory progress) {address : Nat} (value : UInt8)
    (avoids : place.Avoids address 1) : View place stream (memory.writeByte address value) progress := by
  have slotsFit := view.slotsFit
  have bytesFit := view.bytesFit
  rcases avoids with ⟨descriptor, payload⟩
  refine ⟨view.bytesFit, view.slotsFit, ?_, ?_, ?_, ?_⟩
  · rw [ByteMemory.readWord_writeByte_of_disjoint _ _ (by omega), view.avail]
  · rw [ByteMemory.readWord_writeByte_of_disjoint _ _ (by omega), view.used]
  · intro index stored
    rw [ByteMemory.readWord_writeByte_of_disjoint _ _ (by omega), view.slot index stored]
  · intro index stored
    rw [ByteMemory.writeByte_of_ne _ _ (by omega), view.byte index stored]

theorem frameWord (view : View place stream memory progress) {address : Nat} (value : Nat)
    (avoids : place.Avoids address 4) : View place stream (memory.writeWord address value) progress := by
  have slotsFit := view.slotsFit
  have bytesFit := view.bytesFit
  rcases avoids with ⟨descriptor, payload⟩
  refine ⟨view.bytesFit, view.slotsFit, ?_, ?_, ?_, ?_⟩
  · rw [ByteMemory.readWord_writeWord_of_disjoint _ _ (by omega), view.avail]
  · rw [ByteMemory.readWord_writeWord_of_disjoint _ _ (by omega), view.used]
  · intro index stored
    rw [ByteMemory.readWord_writeWord_of_disjoint _ _ (by omega), view.slot index stored]
  · intro index stored
    rw [ByteMemory.writeWord_of_disjoint _ _ (by omega), view.byte index stored]

/-- Clearing any byte is harmless while nothing has been stored. -/
theorem clearByte (view : View place stream memory ⟨0, 0, 0, 0⟩) (address : Nat) :
    View place stream (memory.writeByte address 0) ⟨0, 0, 0, 0⟩ :=
  initial (ByteMemory.readWord_writeByte_zero _ _ _ view.avail)
    (ByteMemory.readWord_writeByte_zero _ _ _ view.used)

end View
end Spsc
end OpenAmpReference
