import OpenAmpReference.Library.Transition
import OpenAmpReference.Library.Spsc
import OpenAmpReference.IrqShmem.System

namespace OpenAmpReference
namespace IrqShmem

/-!
# The messages of one run

Message `k` of the host carries the `k`-th timestamp, and message number
`PKGS_TOTAL` carries the shutdown marker.  Every message has sixteen bytes, so
the run has one byte stream, and both directions store a prefix of it: the
host writes the stream, and the remote writes it back.
-/

section Buffers

theorem timestampBytes_length (timestamp : UInt64) : (timestampBytes timestamp).length = 8 := rfl

theorem shutdownBytes_length : shutdownBytes.length = 8 := rfl

theorem message_length (index : Nat) (body : List UInt8) :
    (message index body).length = sizeofMsgHdr + body.length := by
  simp only [message, ByteMemory.bytesOfWord, List.length_append, List.length_cons,
    List.length_nil, sizeofMsgHdr]

theorem msgIndex_message {index : Nat} (body : List UInt8) (small : index < 2 ^ 32) :
    msgIndex (message index body) = index := by
  have bytes := ByteMemory.wordOfBytes_bytesOfWord index
  rw [Nat.mod_eq_of_lt small] at bytes
  exact bytes

theorem msgLen_message (index : Nat) {body : List UInt8} (small : body.length < 2 ^ 32) :
    msgLen (message index body) = body.length := by
  have bytes := ByteMemory.wordOfBytes_bytesOfWord body.length
  rw [Nat.mod_eq_of_lt small] at bytes
  exact bytes

theorem message_body (index : Nat) (body : List UInt8) :
    (message index body).drop sizeofMsgHdr = body := rfl

theorem getD_take {buffer : List UInt8} {size position : Nat} (inside : position < size) :
    (buffer.take size).getD position 0 = buffer.getD position 0 := by
  simp only [List.getD_eq_getElem?_getD, List.getElem?_take_of_lt inside]

/-- The header of a message is known once its eight bytes are there. -/
theorem msgIndex_take {buffer : List UInt8} {size : Nat} (header : sizeofMsgHdr ≤ size) :
    msgIndex (buffer.take size) = msgIndex buffer := by
  unfold sizeofMsgHdr at header
  unfold msgIndex
  rw [getD_take (by omega), getD_take (by omega), getD_take (by omega), getD_take (by omega)]

theorem msgLen_take {buffer : List UInt8} {size : Nat} (header : sizeofMsgHdr ≤ size) :
    msgLen (buffer.take size) = msgLen buffer := by
  unfold sizeofMsgHdr at header
  unfold msgLen
  rw [getD_take (by omega), getD_take (by omega), getD_take (by omega), getD_take (by omega)]

end Buffers

/-- What a run sends: so many timestamped messages, then the shutdown marker. -/
structure Traffic (pkgsTotal : Nat) where
  timestamps : Nat -> UInt64
  packets : pkgsTotal + 1 < 2 ^ 32
  plain : forall k, k < pkgsTotal -> timestampBytes (timestamps k) ≠ shutdownBytes

namespace Traffic

variable {pkgsTotal : Nat} (traffic : Traffic pkgsTotal)

def body (k : Nat) : List UInt8 :=
  if k < pkgsTotal then timestampBytes (traffic.timestamps k) else shutdownBytes

/-- Message number `k`, counted from zero. -/
def messageAt (k : Nat) : List UInt8 := message k (traffic.body k)

/-- The messages one after another. -/
def stream (position : Nat) : UInt8 := (traffic.messageAt (position / 16)).getD (position % 16) 0

/-- The first `count` messages. -/
def firstMessages (count : Nat) : List (List UInt8) := (List.range count).map traffic.messageAt

theorem body_length (k : Nat) : (traffic.body k).length = 8 := by
  unfold body
  split
  · exact timestampBytes_length _
  · exact shutdownBytes_length

theorem body_of_lt {k : Nat} (packet : k < pkgsTotal) :
    traffic.body k = timestampBytes (traffic.timestamps k) := if_pos packet

theorem body_pkgsTotal : traffic.body pkgsTotal = shutdownBytes :=
  if_neg (Nat.lt_irrefl _)

/-- The shutdown marker is recognised at the last message and at no other. -/
theorem body_eq_shutdownBytes {k : Nat} (bounded : k ≤ pkgsTotal) :
    traffic.body k = shutdownBytes ↔ k = pkgsTotal := by
  constructor
  · intro marker
    by_cases packet : k < pkgsTotal
    · rw [traffic.body_of_lt packet] at marker
      exact absurd marker (traffic.plain k packet)
    · exact Nat.le_antisymm bounded (Nat.le_of_not_lt packet)
  · intro last
    subst last
    exact traffic.body_pkgsTotal

theorem messageAt_length (k : Nat) : (traffic.messageAt k).length = 16 := by
  rw [messageAt, message_length, traffic.body_length, sizeofMsgHdr]

theorem msgIndex_messageAt {k : Nat} (bounded : k ≤ pkgsTotal) :
    msgIndex (traffic.messageAt k) = k :=
  msgIndex_message _ (Nat.lt_of_le_of_lt bounded (Nat.lt_of_succ_lt traffic.packets))

theorem msgLen_messageAt (k : Nat) : msgLen (traffic.messageAt k) = 8 := by
  have short : (traffic.body k).length < 2 ^ 32 := by
    rw [traffic.body_length]
    decide
  rw [messageAt, msgLen_message k short, traffic.body_length]

theorem stream_of_message (k : Nat) {done : Nat} (inside : done < 16) :
    traffic.stream (16 * k + done) = (traffic.messageAt k).getD done 0 := by
  have quotient : (16 * k + done) / 16 = k := by omega
  have remainder : (16 * k + done) % 16 = done := by omega
  rw [stream, quotient, remainder]

/-- Reading one more byte of message `k`. -/
theorem messageAt_take_succ (k : Nat) {done : Nat} (inside : done < 16) :
    (traffic.messageAt k).take done ++ [traffic.stream (16 * k + done)] =
      (traffic.messageAt k).take (done + 1) := by
  have bounded : done < (traffic.messageAt k).length := by
    rw [traffic.messageAt_length]
    exact inside
  rw [traffic.stream_of_message k inside, List.take_succ_eq_append_getElem bounded,
    List.getD_eq_getElem?_getD, List.getElem?_eq_getElem bounded, Option.getD_some]

theorem messageAt_take_all (k : Nat) : (traffic.messageAt k).take 16 = traffic.messageAt k :=
  List.take_of_length_le (Nat.le_of_eq (traffic.messageAt_length k))

theorem firstMessages_succ (count : Nat) :
    traffic.firstMessages (count + 1) =
      traffic.firstMessages count ++ [traffic.messageAt count] := by
  rw [firstMessages, List.range_succ, List.map_append]
  rfl

theorem firstMessages_length (count : Nat) : (traffic.firstMessages count).length = count := by
  rw [firstMessages, List.length_map, List.length_range]

/-- Fewer messages are a prefix of more. -/
theorem firstMessages_prefix {fewer more : Nat} (ordered : fewer ≤ more) :
    traffic.firstMessages fewer <+: traffic.firstMessages more := by
  induction ordered with
  | refl => exact List.prefix_refl _
  | step _ inductionHypothesis =>
      rw [traffic.firstMessages_succ]
      exact inductionHypothesis.trans (List.prefix_append _ _)

end Traffic

/-! ## The two directions -/

namespace Layout

/-- Host to remote. -/
def hToR (layout : Layout) : Spsc.Place where
  descriptor := layout.remoteShmIo.base
  payload := layout.remoteShmIo.base + layout.remotePayloadRxOffset
  width := 16
  capacity := layout.pkgsTotal + 1

/-- Remote to host. -/
def rToH (layout : Layout) : Spsc.Place where
  descriptor := layout.remoteShmIo.base + layout.shm0DescSize
  payload := layout.remoteShmIo.base + layout.remotePayloadTxOffset
  width := 16
  capacity := layout.pkgsTotal + 1

namespace Fits

variable {layout : Layout}

/-- The distances between the areas, in the numbers the places use. -/
theorem areas (fits : layout.Fits) :
    8 + 4 * (layout.pkgsTotal + 1) ≤ layout.shm0DescSize ∧
    8 + 4 * (layout.pkgsTotal + 1) ≤ layout.shm1DescSize ∧
    16 * (layout.pkgsTotal + 1) ≤ layout.shmPayloadHalfSize :=
  ⟨fits.descriptor0, fits.descriptor1, fits.half⟩

theorem hToR_sound (fits : layout.Fits) : layout.hToR.Sound := by
  have areas := fits.areas
  have after := fits.rxAfterDescriptors
  have inside := fits.remoteRxInside
  have below := fits.below4GiB
  refine ⟨?_, ?_, ?_⟩ <;> simp only [hToR] <;> omega

theorem rToH_sound (fits : layout.Fits) : layout.rToH.Sound := by
  have areas := fits.areas
  have after := fits.txAfterDescriptors
  have inside := fits.remoteTxInside
  have below := fits.below4GiB
  refine ⟨?_, ?_, ?_⟩ <;> simp only [rToH] <;> omega

/-- A store into one direction's own areas is outside the other's. -/
theorem rToH_avoids (fits : layout.Fits) {address size : Nat}
    (inside : (layout.hToR.descriptor ≤ address ∧
        address + size ≤ layout.hToR.descriptor + 8 + 4 * (layout.pkgsTotal + 1)) ∨
      (layout.hToR.payload ≤ address ∧
        address + size ≤ layout.hToR.payload + 16 * (layout.pkgsTotal + 1))) :
    layout.rToH.Avoids address size := by
  have areas := fits.areas
  have rxAfter := fits.rxAfterDescriptors
  have txAfter := fits.txAfterDescriptors
  have halves := fits.halvesApart
  simp only [Spsc.Place.Avoids, hToR, rToH] at inside ⊢
  omega

theorem hToR_avoids (fits : layout.Fits) {address size : Nat}
    (inside : (layout.rToH.descriptor ≤ address ∧
        address + size ≤ layout.rToH.descriptor + 8 + 4 * (layout.pkgsTotal + 1)) ∨
      (layout.rToH.payload ≤ address ∧
        address + size ≤ layout.rToH.payload + 16 * (layout.pkgsTotal + 1))) :
    layout.hToR.Avoids address size := by
  have areas := fits.areas
  have rxAfter := fits.rxAfterDescriptors
  have txAfter := fits.txAfterDescriptors
  have halves := fits.halvesApart
  simp only [Spsc.Place.Avoids, hToR, rToH] at inside ⊢
  omega

end Fits
end Layout
end IrqShmem
end OpenAmpReference
