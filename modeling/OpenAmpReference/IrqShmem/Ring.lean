import OpenAmpReference.IrqShmem.Layout

namespace OpenAmpReference
namespace IrqShmem

/-!
# Agreement of the address arrays

Four offsets walk the two address arrays: the host's transmit offset, which
wraps at the end of its array, and the host's receive offset and both offsets
of the remote, which only advance.  Message number `k` of a direction, counted
from zero, uses the `k`-th value of each.  The host sends `PKGS_TOTAL`
messages and the shutdown message; the remote echoes `PKGS_TOTAL` of them.

The `END` macros are compared with nothing but the host's transmit offset, and
neither producer reads a `used` counter.  Agreement therefore depends on a
relation between the number of packets and the sizes, which is worked out
exactly here.

The two sides count from different bases.  A slot of the host lies in one of
its two descriptor devices, and these are taken to begin where the remote has
its descriptors: at `SHM0_DESC_OFFSET` and `SHM1_DESC_OFFSET` of its region.
-/

namespace Config

/-! ## The offsets used for message number `k` -/

def hostTxAddrOffset (config : Config) : Nat -> Nat
  | 0 => config.hostHToRDescAddrStart
  | k + 1 => config.hostNextTxAddr (hostTxAddrOffset config k)

def hostRxAddrOffset (config : Config) : Nat -> Nat
  | 0 => config.hostRToHDescAddrStart
  | k + 1 => nextAddr (hostRxAddrOffset config k)

def remoteRxAddrOffset (config : Config) : Nat -> Nat
  | 0 => config.remoteHToRDescAddrStart
  | k + 1 => nextAddr (remoteRxAddrOffset config k)

def remoteTxAddrOffset (config : Config) : Nat -> Nat
  | 0 => config.remoteRToHDescAddrStart
  | k + 1 => nextAddr (remoteTxAddrOffset config k)

def hostTxDataOffset (config : Config) : Nat -> Nat
  | 0 => config.hostHToRPayloadStart
  | k + 1 => nextData (hostTxDataOffset config k) sizeofTimestamp

def remoteTxDataOffset (config : Config) : Nat -> Nat
  | 0 => config.remoteRToHPayloadStart
  | k + 1 => nextData (remoteTxDataOffset config k) sizeofTimestamp

theorem hostRxAddrOffset_eq (config : Config) (k : Nat) :
    config.hostRxAddrOffset k = shmDescAddrArrayOffset + sizeofAddr * k := by
  induction k with
  | zero => rfl
  | succ k inductionHypothesis =>
      simp only [hostRxAddrOffset, nextAddr, inductionHypothesis, sizeofAddr]
      omega

theorem remoteRxAddrOffset_eq (config : Config) (k : Nat) :
    config.remoteRxAddrOffset k =
      config.shmDescOffsetHToR + shmDescAddrArrayOffset + sizeofAddr * k := by
  induction k with
  | zero => rfl
  | succ k inductionHypothesis =>
      simp only [remoteRxAddrOffset, nextAddr, inductionHypothesis, sizeofAddr]
      omega

theorem remoteTxAddrOffset_eq (config : Config) (k : Nat) :
    config.remoteTxAddrOffset k =
      config.shmDescOffsetRToH + shmDescAddrArrayOffset + sizeofAddr * k := by
  induction k with
  | zero => rfl
  | succ k inductionHypothesis =>
      simp only [remoteTxAddrOffset, nextAddr, inductionHypothesis, sizeofAddr]
      omega

theorem hostTxDataOffset_eq (config : Config) (k : Nat) :
    config.hostTxDataOffset k =
      config.hostHToRPayloadStart + (sizeofMsgHdr + sizeofTimestamp) * k := by
  induction k with
  | zero => rfl
  | succ k inductionHypothesis =>
      simp only [hostTxDataOffset, nextData, inductionHypothesis, sizeofMsgHdr, sizeofTimestamp]
      omega

theorem remoteTxDataOffset_eq (config : Config) (k : Nat) :
    config.remoteTxDataOffset k =
      config.remoteRToHPayloadStart + (sizeofMsgHdr + sizeofTimestamp) * k := by
  induction k with
  | zero => rfl
  | succ k inductionHypothesis =>
      simp only [remoteTxDataOffset, nextData, inductionHypothesis, sizeofMsgHdr, sizeofTimestamp]
      omega

/-- Until the array is full the host's transmit offset does not wrap. -/
theorem hostTxAddrOffset_eq (config : Config) (k : Nat)
    (room : shmDescAddrArrayOffset + sizeofAddr * k < config.shm0DescSize ∨ k = 0) :
    config.hostTxAddrOffset k = shmDescAddrArrayOffset + sizeofAddr * k := by
  induction k with
  | zero => rfl
  | succ k inductionHypothesis =>
      simp only [shmDescAddrArrayOffset, sizeofAddr] at room inductionHypothesis ⊢
      rw [hostTxAddrOffset, inductionHypothesis (by omega),
        hostNextTxAddr_of_lt _ _ (by simp only [sizeofAddr]; omega), sizeofAddr]
      omega

/-! ## What agreement means -/

/-- The entry at `offset` lies inside the address array `[start, finish)`. -/
def EntryInside (offset start finish : Nat) : Prop :=
  start ≤ offset ∧ offset + sizeofAddr ≤ finish

/-- A producer that puts message `k` into the slot of an earlier message `j`
finds, whatever number of the `k` published messages the consumer may have
counted as used by then, that `j` is among them. -/
def RewritesOnlyUsed (slot : Nat -> Nat) (messages : Nat) : Prop :=
  forall k, k < messages -> forall j, j < k -> slot j = slot k ->
    forall used, used ≤ k -> j < used

/-- The two sides agree on the slot of every message, stay inside their own
address arrays and payload halves, and never rewrite an unread entry.  The slots of the host
are counted in the region of the remote, from where its two devices begin there. -/
structure RingAgreement (config : Config) : Prop where
  hToRSlot : forall k, k ≤ config.pkgsTotal ->
    config.hostDescriptor0Offset + config.hostTxAddrOffset k = config.remoteRxAddrOffset k
  rToHSlot : forall k, k < config.pkgsTotal ->
    config.hostDescriptor1Offset + config.hostRxAddrOffset k = config.remoteTxAddrOffset k
  hostTxInside : forall k, k ≤ config.pkgsTotal ->
    EntryInside (config.hostTxAddrOffset k) config.hostHToRDescAddrStart config.hostHToRDescAddrEnd
  remoteRxInside : forall k, k ≤ config.pkgsTotal ->
    EntryInside (config.remoteRxAddrOffset k) config.remoteHToRDescAddrStart
      config.remoteHToRDescAddrEnd
  hostRxInside : forall k, k < config.pkgsTotal ->
    EntryInside (config.hostRxAddrOffset k) config.hostRToHDescAddrStart config.hostRToHDescAddrEnd
  remoteTxInside : forall k, k < config.pkgsTotal ->
    EntryInside (config.remoteTxAddrOffset k) config.remoteRToHDescAddrStart
      config.remoteRToHDescAddrEnd
  hostPayloadInside : forall k, k ≤ config.pkgsTotal ->
    config.hostHToRPayloadStart ≤ config.hostTxDataOffset k ∧
      config.hostTxDataOffset k + (sizeofMsgHdr + sizeofTimestamp) ≤ config.hostHToRPayloadEnd
  remotePayloadInside : forall k, k < config.pkgsTotal ->
    config.remoteRToHPayloadStart ≤ config.remoteTxDataOffset k ∧
      config.remoteTxDataOffset k + (sizeofMsgHdr + sizeofTimestamp) ≤ config.remoteRToHPayloadEnd
  hToRRewrites : RewritesOnlyUsed config.hostTxAddrOffset (config.pkgsTotal + 1)
  rToHRewrites : RewritesOnlyUsed config.remoteTxAddrOffset config.pkgsTotal

/-- The address arrays and the payload halves have room for every message at
once: no slot is used a second time. -/
structure HoldsEveryMessage (config : Config) : Prop where
  descriptor0 :
    shmDescAddrArrayOffset + sizeofAddr * (config.pkgsTotal + 1) ≤ config.shm0DescSize
  descriptor1 : 0 < config.pkgsTotal ->
    shmDescAddrArrayOffset + sizeofAddr * config.pkgsTotal ≤ config.shm1DescSize
  half :
    (sizeofMsgHdr + sizeofTimestamp) * (config.pkgsTotal + 1) ≤ config.shmPayloadHalfSize

theorem rewritesOnlyUsed_of_injective {slot : Nat -> Nat} {messages : Nat}
    (distinct : forall k, k < messages -> forall j, j < k -> slot j ≠ slot k) :
    RewritesOnlyUsed slot messages :=
  fun k bounded j earlier same => absurd same (distinct k bounded j earlier)

/-- Room for every message at once is enough. -/
theorem HoldsEveryMessage.agreement {config : Config} (holds : config.HoldsEveryMessage) :
    config.RingAgreement := by
  have descriptor0 := holds.descriptor0
  have descriptor1 := holds.descriptor1
  have half := holds.half
  simp only [shmDescAddrArrayOffset, sizeofAddr, sizeofMsgHdr, sizeofTimestamp]
    at descriptor0 descriptor1 half
  have unwrapped : forall k, k ≤ config.pkgsTotal ->
      config.hostTxAddrOffset k = shmDescAddrArrayOffset + sizeofAddr * k := by
    intro k bounded
    apply config.hostTxAddrOffset_eq
    simp only [shmDescAddrArrayOffset, sizeofAddr]
    omega
  refine ⟨?_, ?_, ?_, ?_, ?_, ?_, ?_, ?_, ?_, ?_⟩
  · intro k bounded
    rw [hostDescriptor0Offset, unwrapped k bounded, remoteRxAddrOffset_eq]
    omega
  · intro k bounded
    rw [hostDescriptor1Offset, hostRxAddrOffset_eq, remoteTxAddrOffset_eq]
    omega
  · intro k bounded
    rw [unwrapped k bounded]
    simp only [EntryInside, hostHToRDescAddrStart, hostHToRDescAddrEnd, shmDescAddrArrayOffset,
      sizeofAddr]
    omega
  · intro k bounded
    rw [remoteRxAddrOffset_eq]
    simp only [EntryInside, remoteHToRDescAddrStart, remoteHToRDescAddrEnd,
      shmDescAddrArrayOffset, sizeofAddr]
    omega
  · intro k bounded
    rw [hostRxAddrOffset_eq]
    simp only [EntryInside, hostRToHDescAddrStart, hostRToHDescAddrEnd, shmDescAddrArrayOffset,
      sizeofAddr]
    omega
  · intro k bounded
    rw [remoteTxAddrOffset_eq]
    simp only [EntryInside, remoteRToHDescAddrStart, remoteRToHDescAddrEnd,
      shmDescAddrArrayOffset, sizeofAddr]
    omega
  · intro k bounded
    rw [hostTxDataOffset_eq]
    simp only [hostHToRPayloadStart, hostHToRPayloadEnd, sizeofMsgHdr, sizeofTimestamp]
    omega
  · intro k bounded
    rw [remoteTxDataOffset_eq]
    simp only [remoteRToHPayloadStart, remoteRToHPayloadEnd, sizeofMsgHdr, sizeofTimestamp]
    omega
  · apply rewritesOnlyUsed_of_injective
    intro k bounded j earlier
    rw [unwrapped k (by omega), unwrapped j (by omega)]
    simp only [sizeofAddr]
    omega
  · apply rewritesOnlyUsed_of_injective
    intro k bounded j earlier
    rw [remoteTxAddrOffset_eq, remoteTxAddrOffset_eq]
    simp only [sizeofAddr]
    omega

/-- Agreement needs that room: the last slot of each direction is read by a
side that never wraps, and the last payload lies at a fixed distance. -/
theorem RingAgreement.holdsEveryMessage {config : Config} (agreement : config.RingAgreement) :
    config.HoldsEveryMessage := by
  refine ⟨?_, ?_, ?_⟩
  · have last := (agreement.remoteRxInside config.pkgsTotal (Nat.le_refl _)).2
    rw [remoteRxAddrOffset_eq] at last
    simp only [remoteHToRDescAddrEnd, shmDescAddrArrayOffset, sizeofAddr] at last ⊢
    omega
  · intro positive
    have last := (agreement.hostRxInside (config.pkgsTotal - 1) (by omega)).2
    rw [hostRxAddrOffset_eq] at last
    simp only [hostRToHDescAddrEnd, shmDescAddrArrayOffset, sizeofAddr] at last ⊢
    omega
  · have last := (agreement.hostPayloadInside config.pkgsTotal (Nat.le_refl _)).2
    rw [hostTxDataOffset_eq] at last
    simp only [hostHToRPayloadStart, hostHToRPayloadEnd, sizeofMsgHdr, sizeofTimestamp] at last ⊢
    omega

/-- The ring agrees exactly when nothing ever has to be stored twice. The number of packets and
the sizes are arbitrary, and no relation between them is assumed: the condition is the relation
that the macros would have to keep. Where the devices begin is taken from the macros of the
remote. -/
theorem ringAgreement_iff_holdsEveryMessage (config : Config) :
    config.RingAgreement ↔ config.HoldsEveryMessage :=
  ⟨RingAgreement.holdsEveryMessage, HoldsEveryMessage.agreement⟩

/-- The documented carve-outs: 4 KiB descriptors, a payload of 256 KiB split
evenly, and 1024 packets. -/
def documented : Config where
  shm0DescSize := 0x1000
  shm1DescSize := 0x1000
  shmPayloadSize := 0x40000
  shmPayloadHalfSize := 0x20000
  hostPayloadRxOffset := 0
  hostPayloadTxOffset := 0x20000
  remotePayloadRxOffset := 0x8000
  remotePayloadTxOffset := 0x28000
  pkgsTotal := 1024

/-- With the documented carve-outs message 1022 is put where the remote does
not look: the host wraps to the first slot, the remote reads on past the end. -/
theorem documented_not_ringAgreement : ¬ documented.RingAgreement := by
  intro agreement
  have room := agreement.holdsEveryMessage.descriptor0
  simp only [documented, shmDescAddrArrayOffset, sizeofAddr] at room
  omega

end Config
end IrqShmem
end OpenAmpReference
