import OpenAmpReference.IrqShmem.Messages

namespace OpenAmpReference
namespace IrqShmem

/-!
# The invariant of the echo

How far each direction has got can be read off the two program counters, so
the invariant needs no ghost state: the memory is a `View` of both directions
at the progress the programs are at, and each program's variables are where
its program counter says, up to the number of messages the other side has
published.  That number only grows, and a program's part of the invariant is
monotone in it.
-/

namespace SendStep

/-- The bytes, addresses and messages stored when message `k` is being handed
over and all earlier ones have been. -/
def bytes (k : Nat) : SendStep -> Nat
  | .writeMsg done => 16 * k + done
  | _ => 16 * (k + 1)

def slots (k : Nat) : SendStep -> Nat
  | .writeMsg _ | .writeAddr => k
  | .writeAvail | .kick => k + 1

def avail (k : Nat) : SendStep -> Nat
  | .kick => k + 1
  | _ => k

def progress (k used : Nat) (step : SendStep) : Spsc.Progress :=
  ⟨step.bytes k, step.slots k, step.avail k, used⟩

/-- The access after this one, up to the kick. -/
def after : SendStep -> SendStep
  | .writeMsg done => if done < 16 then .writeMsg (done + 1) else .writeAddr
  | .writeAddr => .writeAvail
  | .writeAvail | .kick => .kick

/-- A block write has at most the sixteen bytes of a message to do. -/
def Within : SendStep -> Prop
  | .writeMsg done => done ≤ 16
  | _ => True

theorem Within.after {step : SendStep} (within : step.Within) : step.after.Within := by
  cases step with
  | writeMsg done =>
      by_cases more : done < 16
      · rw [SendStep.after, if_pos more]
        exact more
      · rw [SendStep.after, if_neg more]
        trivial
  | writeAddr | writeAvail | kick => trivial

/-- A message is published after its address, and that after its bytes. -/
theorem progress_ordered (k used : Nat) (step : SendStep) :
    (step.progress k used).avail ≤ (step.progress k used).slots ∧
      16 * (step.progress k used).slots ≤ (step.progress k used).bytes := by
  cases step with
  | writeMsg done => exact ⟨Nat.le_refl _, Nat.le_add_right _ _⟩
  | writeAddr => exact ⟨Nat.le_refl _, Nat.mul_le_mul_left _ (Nat.le_succ _)⟩
  | writeAvail => exact ⟨Nat.le_succ _, Nat.le_refl _⟩
  | kick => exact ⟨Nat.le_refl _, Nat.le_refl _⟩

theorem progress_avail_mono (k used : Nat) (step : SendStep) :
    (step.progress k used).avail ≤ (step.after.progress k used).avail := by
  cases step with
  | writeMsg done =>
      by_cases more : done < 16
      · rw [after, if_pos more]
        exact Nat.le_refl _
      · rw [after, if_neg more]
        exact Nat.le_refl _
  | writeAddr => exact Nat.le_refl _
  | writeAvail => exact Nat.le_succ _
  | kick => exact Nat.le_refl _

theorem progress_avail_le (k used : Nat) (step : SendStep) :
    k ≤ (step.progress k used).avail ∧ (step.progress k used).avail ≤ k + 1 := by
  cases step with
  | writeMsg done | writeAddr | writeAvail => exact ⟨Nat.le_refl _, Nat.le_succ _⟩
  | kick => exact ⟨Nat.le_succ _, Nat.le_refl _⟩

end SendStep

/-! ## Both directions of the memory -/

/-- The memory at a given progress of both directions. -/
structure Streams (layout : Layout) (traffic : Traffic layout.pkgsTotal) (memory : ByteMemory)
    (hToR rToH : Spsc.Progress) : Prop where
  hToR : Spsc.View layout.hToR traffic.stream memory hToR
  rToH : Spsc.View layout.rToH traffic.stream memory rToH

namespace Streams

variable {layout : Layout} {traffic : Traffic layout.pkgsTotal} {memory : ByteMemory}
  {hToR rToH : Spsc.Progress}

/-- Clearing is harmless before anything is stored. -/
theorem clearByte (streams : Streams layout traffic memory ⟨0, 0, 0, 0⟩ ⟨0, 0, 0, 0⟩)
    (address : Nat) :
    Streams layout traffic (memory.writeByte address 0) ⟨0, 0, 0, 0⟩ ⟨0, 0, 0, 0⟩ :=
  ⟨streams.hToR.clearByte address, streams.rToH.clearByte address⟩

variable (fits : layout.Fits)

include fits

section HostToRemote

theorem storeByteHToR (streams : Streams layout traffic memory hToR rToH) {address : Nat}
    {value : UInt8} (here : address = layout.hToR.payload + hToR.bytes)
    (next : value = traffic.stream hToR.bytes)
    (room : hToR.bytes < 16 * (layout.pkgsTotal + 1)) :
    Streams layout traffic (memory.writeByte address value)
      { hToR with bytes := hToR.bytes + 1 } rToH := by
  constructor
  · exact streams.hToR.storeByte fits.hToR_sound here next room
  · exact streams.rToH.frameByte _ (fits.rToH_avoids (Or.inr (by omega)))

theorem storeSlotHToR (streams : Streams layout traffic memory hToR rToH) {address value : Nat}
    (here : address = layout.hToR.descriptor + 8 + 4 * hToR.slots)
    (next : value = layout.hToR.payload + 16 * hToR.slots)
    (room : hToR.slots < layout.pkgsTotal + 1) :
    Streams layout traffic (memory.writeWord address value)
      { hToR with slots := hToR.slots + 1 } rToH := by
  constructor
  · exact streams.hToR.storeSlot fits.hToR_sound here next room
  · exact streams.rToH.frameWord _ (fits.rToH_avoids (Or.inl (by omega)))

theorem storeAvailHToR (streams : Streams layout traffic memory hToR rToH) {address value : Nat}
    (here : address = layout.hToR.descriptor) (small : value < 2 ^ 32) :
    Streams layout traffic (memory.writeWord address value) { hToR with avail := value } rToH := by
  constructor
  · exact streams.hToR.storeAvail fits.hToR_sound here small
  · exact streams.rToH.frameWord _ (fits.rToH_avoids (Or.inl (by omega)))

theorem storeUsedHToR (streams : Streams layout traffic memory hToR rToH) {address value : Nat}
    (here : address = layout.hToR.descriptor + 4) (small : value < 2 ^ 32) :
    Streams layout traffic (memory.writeWord address value) { hToR with used := value } rToH := by
  constructor
  · exact streams.hToR.storeUsed fits.hToR_sound here small
  · exact streams.rToH.frameWord _ (fits.rToH_avoids (Or.inl (by omega)))

end HostToRemote

section RemoteToHost

theorem storeByteRToH (streams : Streams layout traffic memory hToR rToH) {address : Nat}
    {value : UInt8} (here : address = layout.rToH.payload + rToH.bytes)
    (next : value = traffic.stream rToH.bytes)
    (room : rToH.bytes < 16 * (layout.pkgsTotal + 1)) :
    Streams layout traffic (memory.writeByte address value)
      hToR { rToH with bytes := rToH.bytes + 1 } := by
  constructor
  · exact streams.hToR.frameByte _ (fits.hToR_avoids (Or.inr (by omega)))
  · exact streams.rToH.storeByte fits.rToH_sound here next room

theorem storeSlotRToH (streams : Streams layout traffic memory hToR rToH) {address value : Nat}
    (here : address = layout.rToH.descriptor + 8 + 4 * rToH.slots)
    (next : value = layout.rToH.payload + 16 * rToH.slots)
    (room : rToH.slots < layout.pkgsTotal + 1) :
    Streams layout traffic (memory.writeWord address value)
      hToR { rToH with slots := rToH.slots + 1 } := by
  constructor
  · exact streams.hToR.frameWord _ (fits.hToR_avoids (Or.inl (by omega)))
  · exact streams.rToH.storeSlot fits.rToH_sound here next room

theorem storeAvailRToH (streams : Streams layout traffic memory hToR rToH) {address value : Nat}
    (here : address = layout.rToH.descriptor) (small : value < 2 ^ 32) :
    Streams layout traffic (memory.writeWord address value) hToR { rToH with avail := value } := by
  constructor
  · exact streams.hToR.frameWord _ (fits.hToR_avoids (Or.inl (by omega)))
  · exact streams.rToH.storeAvail fits.rToH_sound here small

theorem storeUsedRToH (streams : Streams layout traffic memory hToR rToH) {address value : Nat}
    (here : address = layout.rToH.descriptor + 4) (small : value < 2 ^ 32) :
    Streams layout traffic (memory.writeWord address value) hToR { rToH with used := value } := by
  constructor
  · exact streams.hToR.frameWord _ (fits.hToR_avoids (Or.inl (by omega)))
  · exact streams.rToH.storeUsed fits.rToH_sound here small

end RemoteToHost
end Streams

/-! ## The host -/

namespace Host

/-- What the host has stored for the remote, which has used `used`. -/
def progress (config : Config) (host : Host) (used : Nat) : Spsc.Progress :=
  match host.pc with
  | .clearPayload _ | .clearHostToRemote _ | .clearRemoteToHost _ | .failed => ⟨0, 0, 0, used⟩
  | .send step | .shutdown step => step.progress host.i used
  | .done =>
      ⟨16 * (config.pkgsTotal + 1), config.pkgsTotal + 1, config.pkgsTotal + 1, used⟩
  | _ => ⟨16 * config.pkgsTotal, config.pkgsTotal, config.pkgsTotal, used⟩

/-- The number of messages the host has published. -/
def published (config : Config) (host : Host) : Nat := (host.progress config 0).avail

/-- The number of echoes the host has counted as used. -/
def used (host : Host) : Nat :=
  match host.pc with
  | .clearPayload _ | .clearHostToRemote _ | .clearRemoteToHost _ | .failed | .send _ => 0
  | .readTx _ | .compare => host.i + 1
  | _ => host.i

/-- The number of echoes the host has accepted. -/
def accepted (host : Host) : Nat :=
  match host.pc with
  | .clearPayload _ | .clearHostToRemote _ | .clearRemoteToHost _ | .failed | .send _ => 0
  | _ => host.i

theorem progress_avail (config : Config) (host : Host) (used : Nat) :
    (host.progress config used).avail = host.published config := by
  unfold published progress
  cases host.pc <;> rfl

theorem progress_used (config : Config) (host : Host) (used : Nat) :
    (host.progress config used).used = used := by
  unfold progress
  cases host.pc <;> rfl

theorem progress_withUsed (config : Config) (host : Host) (used more : Nat) :
    { host.progress config used with used := more } = host.progress config more := by
  unfold progress
  cases host.pc <;> rfl

theorem progress_ordered (config : Config) (host : Host) (used : Nat) :
    (host.progress config used).avail ≤ (host.progress config used).slots ∧
      16 * (host.progress config used).slots ≤ (host.progress config used).bytes := by
  unfold progress
  cases host.pc with
  | send step | shutdown step => exact step.progress_ordered host.i used
  | clearPayload | clearHostToRemote | clearRemoteToHost | testAndSet | yield | readAvail
  | readAddr | readHdr | readBody | writeUsed | readTx | compare | done | failed =>
      exact ⟨Nat.le_refl _, Nat.le_refl _⟩

variable (layout : Layout) (traffic : Traffic layout.pkgsTotal)

/-- While message `host.i` is handed over through slot number `slot`. -/
structure Sends (host : Host) (step : SendStep) (slot : Nat) : Prop where
  txbuf : host.txbuf = traffic.messageAt host.i
  within : step.Within
  txAddr : host.txAddrOffset = 8 + 4 * slot
  txData : host.txDataOffset = layout.hostPayloadRxOffset + 16 * slot

/-- While echo number `host.i` is waited for or verified: `slot` addresses
have been taken, and `data` sent messages have been read back. -/
structure Receives (host : Host) (slot data avail : Nat) : Prop where
  txAddr : host.txAddrOffset = 8 + 4 * layout.pkgsTotal
  rxAddr : host.rxAddrOffset = 8 + 4 * slot
  txData : host.txDataOffset = layout.hostPayloadRxOffset + 16 * data
  counted : host.i ≤ host.rxAvail
  published : host.rxAvail ≤ avail

/-- The host's variables are where its program counter says, when the remote
has published `avail` echoes. -/
def Ok (host : Host) (avail : Nat) : Prop :=
  match host.pc with
  | .clearPayload _ | .clearHostToRemote _ | .clearRemoteToHost _ => host.rxAvail = 0
  | .send step =>
      host.Sends layout traffic step (step.slots host.i) ∧ host.i < layout.pkgsTotal ∧
        host.rxAddrOffset = 8 ∧ host.rxAvail = 0
  | .testAndSet | .yield | .readAvail =>
      host.Receives layout host.i host.i avail ∧ host.i < layout.pkgsTotal
  | .readAddr => host.Receives layout host.i host.i avail ∧ host.i < host.rxAvail
  | .readHdr done =>
      host.Receives layout (host.i + 1) host.i avail ∧ host.i < host.rxAvail ∧ done ≤ 8 ∧
        host.rxDataOffset = layout.hostPayloadTxOffset + 16 * host.i ∧
        host.rxbuf = (traffic.messageAt host.i).take done
  | .readBody done =>
      host.Receives layout (host.i + 1) host.i avail ∧ host.i < host.rxAvail ∧ done ≤ 8 ∧
        host.rxDataOffset = layout.hostPayloadTxOffset + 16 * host.i + 8 ∧
        host.rxbuf = (traffic.messageAt host.i).take (8 + done)
  | .writeUsed =>
      host.Receives layout (host.i + 1) host.i avail ∧ host.i < host.rxAvail ∧
        host.rxbuf = traffic.messageAt host.i
  | .readTx done =>
      host.Receives layout (host.i + 1) host.i avail ∧ host.i < host.rxAvail ∧
        host.rxbuf = traffic.messageAt host.i ∧ done ≤ 16 ∧
        host.txbuf = (traffic.messageAt host.i).take done
  | .compare =>
      host.Receives layout (host.i + 1) (host.i + 1) avail ∧ host.i < host.rxAvail ∧
        host.rxbuf = traffic.messageAt host.i ∧ host.txbuf = traffic.messageAt host.i
  | .shutdown step =>
      host.Sends layout traffic step host.i ∧ host.i = layout.pkgsTotal ∧ host.i ≤ avail
  | .done => host.i = layout.pkgsTotal ∧ host.i ≤ avail
  | .failed => False

variable {layout : Layout} {traffic : Traffic layout.pkgsTotal}

theorem Receives.mono {host : Host} {slot data avail more : Nat}
    (receives : host.Receives layout slot data avail) (grows : avail ≤ more) :
    host.Receives layout slot data more :=
  { receives with published := Nat.le_trans receives.published grows }

/-- The host's part of the invariant survives further echoes. -/
theorem Ok.mono {host : Host} {avail more : Nat} (ok : host.Ok layout traffic avail)
    (grows : avail ≤ more) : host.Ok layout traffic more := by
  unfold Ok at ok ⊢
  cases at_pc : host.pc with
  | clearPayload done | clearHostToRemote done | clearRemoteToHost done | send step =>
      simp only [at_pc] at ok ⊢
      exact ok
  | failed => simp only [at_pc] at ok
  | testAndSet | yield | readAvail | readAddr | readHdr done | readBody done | writeUsed
  | readTx done | compare =>
      simp only [at_pc] at ok ⊢
      exact ⟨ok.1.mono grows, ok.2⟩
  | shutdown step =>
      simp only [at_pc] at ok ⊢
      exact ⟨ok.1, ok.2.1, Nat.le_trans ok.2.2 grows⟩
  | done =>
      simp only [at_pc] at ok ⊢
      exact ⟨ok.1, Nat.le_trans ok.2 grows⟩

/-- The host uses no more echoes than are published. -/
theorem Ok.used_le {host : Host} {avail : Nat} (ok : host.Ok layout traffic avail) :
    host.used ≤ avail := by
  unfold Ok at ok
  unfold used
  cases at_pc : host.pc with
  | clearPayload done | clearHostToRemote done | clearRemoteToHost done | send step | failed =>
      exact Nat.zero_le _
  | testAndSet | yield | readAvail | readAddr | readHdr done | readBody done | writeUsed =>
      simp only [at_pc] at ok ⊢
      exact Nat.le_trans ok.1.counted ok.1.published
  | readTx done | compare =>
      simp only [at_pc] at ok ⊢
      exact Nat.le_trans ok.2.1 ok.1.published
  | shutdown step =>
      simp only [at_pc] at ok ⊢
      exact ok.2.2
  | done =>
      simp only [at_pc] at ok ⊢
      exact ok.2

/-- The host publishes at most `PKGS_TOTAL + 1` messages. -/
theorem Ok.published_le {host : Host} {avail : Nat} (ok : host.Ok layout traffic avail) :
    host.published layout.toConfig ≤ layout.pkgsTotal + 1 := by
  unfold Ok at ok
  unfold published progress
  cases at_pc : host.pc with
  | clearPayload done | clearHostToRemote done | clearRemoteToHost done | testAndSet | yield
  | readAvail | readAddr | readHdr done | readBody done | writeUsed | readTx done | compare
  | done | failed =>
      simp only
      omega
  | send step =>
      simp only [at_pc] at ok ⊢
      have bounds := step.progress_avail_le host.i 0
      omega
  | shutdown step =>
      simp only [at_pc] at ok ⊢
      have bounds := step.progress_avail_le host.i 0
      omega

end Host

/-! ## The remote -/

namespace Remote

/-- What the remote has stored for the host, which has used `used`. -/
def progress (config : Config) (remote : Remote) (used : Nat) : Spsc.Progress :=
  match remote.pc with
  | .send step => step.progress (remote.rxCount - 1) used
  | .done => ⟨16 * config.pkgsTotal, config.pkgsTotal, config.pkgsTotal, used⟩
  | .failed => ⟨0, 0, 0, used⟩
  | _ => ⟨16 * remote.rxCount, remote.rxCount, remote.rxCount, used⟩

/-- The number of echoes the remote has published. -/
def published (config : Config) (remote : Remote) : Nat := (remote.progress config 0).avail

theorem progress_avail (config : Config) (remote : Remote) (used : Nat) :
    (remote.progress config used).avail = remote.published config := by
  unfold published progress
  cases remote.pc <;> rfl

theorem progress_used (config : Config) (remote : Remote) (used : Nat) :
    (remote.progress config used).used = used := by
  unfold progress
  cases remote.pc <;> rfl

theorem progress_withUsed (config : Config) (remote : Remote) (used more : Nat) :
    { remote.progress config used with used := more } = remote.progress config more := by
  unfold progress
  cases remote.pc <;> rfl

theorem progress_ordered (config : Config) (remote : Remote) (used : Nat) :
    (remote.progress config used).avail ≤ (remote.progress config used).slots ∧
      16 * (remote.progress config used).slots ≤ (remote.progress config used).bytes := by
  unfold progress
  cases remote.pc with
  | send step => exact step.progress_ordered _ used
  | suspend | parked | readAvail | readAddr | readHdr | readBody | writeUsed | done | failed =>
      exact ⟨Nat.le_refl _, Nat.le_refl _⟩

variable (layout : Layout) (traffic : Traffic layout.pkgsTotal)

/-- The remote's offsets when `received` addresses have been taken and
`echoed` stored, of the `avail` messages the host has published. -/
structure Walks (remote : Remote) (received echoed avail : Nat) : Prop where
  rxAddr : remote.rxAddrOffset = 8 + 4 * received
  txAddr : remote.txAddrOffset = layout.shm0DescSize + 8 + 4 * echoed
  txData : remote.txDataOffset = layout.remotePayloadTxOffset + 16 * echoed
  counted : remote.rxCount ≤ remote.rxAvail
  published : remote.rxAvail ≤ avail

/-- The remote's variables are where its program counter says, when the host
has published `avail` messages. -/
def Ok (remote : Remote) (avail : Nat) : Prop :=
  match remote.pc with
  | .suspend | .parked | .readAvail =>
      remote.Walks layout remote.rxCount remote.rxCount avail ∧ remote.rxCount = remote.rxAvail ∧
        remote.rxCount ≤ layout.pkgsTotal
  | .readAddr =>
      remote.Walks layout remote.rxCount remote.rxCount avail ∧ remote.rxCount < remote.rxAvail
  | .readHdr done =>
      remote.Walks layout (remote.rxCount + 1) remote.rxCount avail ∧
        remote.rxCount < remote.rxAvail ∧ done ≤ 8 ∧
        remote.rxDataOffset = layout.remotePayloadRxOffset + 16 * remote.rxCount ∧
        remote.lbuf = (traffic.messageAt remote.rxCount).take done
  | .readBody done =>
      remote.Walks layout (remote.rxCount + 1) remote.rxCount avail ∧
        remote.rxCount < remote.rxAvail ∧ done ≤ 8 ∧
        remote.rxDataOffset = layout.remotePayloadRxOffset + 16 * remote.rxCount + 8 ∧
        remote.lbuf = (traffic.messageAt remote.rxCount).take (8 + done)
  | .writeUsed =>
      remote.Walks layout (remote.rxCount + 1) remote.rxCount avail ∧
        remote.rxCount < remote.rxAvail ∧ remote.lbuf = traffic.messageAt remote.rxCount
  | .send step =>
      remote.Walks layout remote.rxCount (step.slots (remote.rxCount - 1)) avail ∧
        step.Within ∧ 0 < remote.rxCount ∧ remote.rxCount ≤ layout.pkgsTotal ∧
        remote.lbuf = traffic.messageAt (remote.rxCount - 1)
  | .done => remote.rxCount = layout.pkgsTotal + 1 ∧ remote.rxCount ≤ avail
  | .failed => False

variable {layout : Layout} {traffic : Traffic layout.pkgsTotal}

theorem Walks.mono {remote : Remote} {received echoed avail more : Nat}
    (walks : remote.Walks layout received echoed avail) (grows : avail ≤ more) :
    remote.Walks layout received echoed more :=
  { walks with published := Nat.le_trans walks.published grows }

/-- The remote's part of the invariant survives further messages. -/
theorem Ok.mono {remote : Remote} {avail more : Nat} (ok : remote.Ok layout traffic avail)
    (grows : avail ≤ more) : remote.Ok layout traffic more := by
  unfold Ok at ok ⊢
  cases at_pc : remote.pc with
  | suspend | parked | readAvail | readAddr | readHdr done | readBody done | writeUsed
  | send step =>
      simp only [at_pc] at ok ⊢
      exact ⟨ok.1.mono grows, ok.2⟩
  | done =>
      simp only [at_pc] at ok ⊢
      exact ⟨ok.1, Nat.le_trans ok.2 grows⟩
  | failed => simp only [at_pc] at ok

/-- The remote uses no more messages than are published. -/
theorem Ok.rxCount_le {remote : Remote} {avail : Nat} (ok : remote.Ok layout traffic avail) :
    remote.rxCount ≤ avail := by
  unfold Ok at ok
  cases at_pc : remote.pc with
  | suspend | parked | readAvail | readAddr | readHdr done | readBody done | writeUsed
  | send step =>
      simp only [at_pc] at ok
      exact Nat.le_trans ok.1.counted ok.1.published
  | done =>
      simp only [at_pc] at ok
      exact ok.2
  | failed => simp only [at_pc] at ok

/-- The remote publishes an echo of nothing but messages it has used, and
none of the shutdown message. -/
theorem Ok.published_le {remote : Remote} {avail : Nat} (ok : remote.Ok layout traffic avail)
    (bounded : avail ≤ layout.pkgsTotal + 1) :
    remote.published layout.toConfig ≤ remote.rxCount ∧
      remote.published layout.toConfig ≤ layout.pkgsTotal := by
  have counted := ok.rxCount_le
  unfold Ok at ok
  unfold published progress
  cases at_pc : remote.pc with
  | suspend | parked | readAvail =>
      simp only [at_pc] at ok ⊢
      exact ⟨Nat.le_refl _, ok.2.2⟩
  | readAddr | readHdr done | readBody done | writeUsed =>
      simp only [at_pc] at ok ⊢
      have published := ok.1.published
      omega
  | send step =>
      simp only [at_pc] at ok ⊢
      have bounds := step.progress_avail_le (remote.rxCount - 1) 0
      omega
  | done =>
      simp only [at_pc] at ok ⊢
      omega
  | failed => simp only [at_pc] at ok

/-- Before the host has published anything the remote has stored nothing. -/
theorem Ok.nothing_stored {remote : Remote} (ok : remote.Ok layout traffic 0) (used : Nat) :
    remote.rxCount = 0 ∧ remote.progress layout.toConfig used = ⟨0, 0, 0, used⟩ := by
  have counted := Nat.le_zero.mp ok.rxCount_le
  unfold Ok at ok
  unfold progress
  cases at_pc : remote.pc with
  | suspend | parked | readAvail | readAddr | readHdr done | readBody done | writeUsed =>
      simp only [counted, Nat.mul_zero, and_self]
  | send step =>
      simp only [at_pc] at ok
      omega
  | done =>
      simp only [at_pc] at ok
      omega
  | failed => simp only [at_pc] at ok

end Remote

/-! ## The system -/

/-- The invariant of every run. -/
structure Invariant (layout : Layout) (traffic : Traffic layout.pkgsTotal) (system : System) :
    Prop where
  host : system.host.Ok layout traffic (system.remote.published layout.toConfig)
  remote : system.remote.Ok layout traffic (system.host.published layout.toConfig)
  streams : Streams layout traffic system.memory
    (system.host.progress layout.toConfig system.remote.rxCount)
    (system.remote.progress layout.toConfig system.host.used)
  sent : system.sent = traffic.firstMessages (system.host.published layout.toConfig)
  consumed : system.consumed = traffic.firstMessages system.remote.rxCount
  verified : system.verified = traffic.firstMessages system.host.accepted

namespace Invariant

variable {layout : Layout} {traffic : Traffic layout.pkgsTotal} {system : System}

/-- The counters of the two directions, in the order of the claim a run makes
on them: no side runs ahead of the other. -/
theorem ordered (invariant : Invariant layout traffic system) :
    system.host.used ≤ system.remote.published layout.toConfig ∧
      system.remote.published layout.toConfig ≤ system.remote.rxCount ∧
      system.remote.rxCount ≤ system.host.published layout.toConfig ∧
      system.host.published layout.toConfig ≤ layout.pkgsTotal + 1 :=
  ⟨invariant.host.used_le, (invariant.remote.published_le invariant.host.published_le).1,
    invariant.remote.rxCount_le, invariant.host.published_le⟩

theorem echoes_le (invariant : Invariant layout traffic system) :
    system.remote.published layout.toConfig ≤ layout.pkgsTotal :=
  (invariant.remote.published_le invariant.host.published_le).2

end Invariant
end IrqShmem
end OpenAmpReference
