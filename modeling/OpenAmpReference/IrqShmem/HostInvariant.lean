import OpenAmpReference.IrqShmem.Invariant

namespace OpenAmpReference
namespace IrqShmem

/-!
# The host keeps the invariant

The control-flow functions between two accesses are followed first: each
leaves the host at one of its loop heads.  Then every program counter has one
lemma, which performs the access and restores the invariant.
-/

namespace Host

variable {layout : Layout} {traffic : Traffic layout.pkgsTotal}

/-! ## Control flow between accesses -/

/-- The host has stored so much, and used and accepted so many echoes. -/
structure Reaches (layout : Layout) (traffic : Traffic layout.pkgsTotal) (host : Host)
    (avail bytes slots published echoes : Nat) : Prop where
  ok : host.Ok layout traffic avail
  progress : forall used, host.progress layout.toConfig used = ⟨bytes, slots, published, used⟩
  used : host.used = echoes
  accepted : host.accepted = echoes

theorem verifyLoop_reaches {host : Host} {avail : Nat}
    (receives : host.Receives layout host.i host.i avail) (bounded : host.i ≤ layout.pkgsTotal) :
    (host.verifyLoop layout.toConfig).Reaches layout traffic avail (16 * layout.pkgsTotal)
      layout.pkgsTotal layout.pkgsTotal host.i := by
  unfold verifyLoop
  by_cases remaining : host.i ≠ layout.pkgsTotal
  · rw [if_pos remaining]
    refine ⟨⟨?_, ?_⟩, fun _ => rfl, rfl, rfl⟩
    · exact { receives with }
    · exact Nat.lt_of_le_of_ne bounded remaining
  · rw [if_neg remaining]
    have last : host.i = layout.pkgsTotal := not_not.mp remaining
    have marker : message host.i shutdownBytes = traffic.messageAt host.i := by
      rw [Traffic.messageAt, last, traffic.body_pkgsTotal]
    refine ⟨⟨⟨marker, Nat.zero_le _, ?_, ?_⟩, last, ?_⟩, ?_, rfl, rfl⟩
    · exact last ▸ receives.txAddr
    · exact receives.txData
    · exact Nat.le_trans receives.counted receives.published
    · intro used
      rw [← last]
      rfl

theorem drainLoop_reaches {host : Host} {avail : Nat}
    (receives : host.Receives layout host.i host.i avail) (bounded : host.i ≤ layout.pkgsTotal) :
    (host.drainLoop layout.toConfig).Reaches layout traffic avail (16 * layout.pkgsTotal)
      layout.pkgsTotal layout.pkgsTotal host.i := by
  unfold drainLoop
  by_cases remaining : host.i ≠ host.rxAvail
  · rw [if_pos remaining]
    refine ⟨⟨?_, ?_⟩, fun _ => rfl, rfl, rfl⟩
    · exact { receives with }
    · exact Nat.lt_of_le_of_ne receives.counted remaining
  · rw [if_neg remaining]
    exact verifyLoop_reaches receives bounded

theorem sendLoop_reaches {host : Host} {avail : Nat} (bounded : host.i ≤ layout.pkgsTotal)
    (txAddr : host.txAddrOffset = 8 + 4 * host.i) (rxAddr : host.rxAddrOffset = 8)
    (txData : host.txDataOffset = layout.hostPayloadRxOffset + 16 * host.i)
    (rxAvail : host.rxAvail = 0) :
    (host.sendLoop layout.toConfig traffic.timestamps).Reaches layout traffic avail
      (16 * host.i) host.i host.i 0 := by
  unfold sendLoop
  by_cases remaining : host.i < layout.pkgsTotal
  · rw [if_pos remaining]
    have packet : message host.i (timestampBytes (traffic.timestamps host.i)) =
        traffic.messageAt host.i := by
      rw [Traffic.messageAt, traffic.body_of_lt remaining]
    exact ⟨⟨⟨packet, Nat.zero_le _, txAddr, txData⟩, remaining, rxAddr, rxAvail⟩,
      fun _ => rfl, rfl, rfl⟩
  · rw [if_neg remaining]
    have last : host.i = layout.pkgsTotal := Nat.le_antisymm bounded (Nat.le_of_not_lt remaining)
    rw [last]
    apply verifyLoop_reaches
    · exact ⟨last ▸ txAddr, rxAddr, rfl, Nat.zero_le _,
        Nat.le_trans (Nat.le_of_eq rxAvail) (Nat.zero_le _)⟩
    · exact Nat.zero_le _

/-! ## Clearing -/

/-- The host clears one of the three areas. -/
def Clearing (host : Host) : Prop :=
  match host.pc with
  | .clearPayload _ | .clearHostToRemote _ | .clearRemoteToHost _ => True
  | _ => False

/-- Nothing is stored, used or accepted, nor about to be. -/
structure Idle (host : Host) : Prop where
  progress : forall config used, host.progress config used = ⟨0, 0, 0, used⟩
  used : host.used = 0
  accepted : host.accepted = 0
  publishes : host.publishes = []
  verifies : host.verifies = []

theorem Clearing.idle {host : Host} (clearing : host.Clearing) : host.Idle := by
  unfold Clearing at clearing
  cases at_pc : host.pc with
  | clearPayload done | clearHostToRemote done | clearRemoteToHost done =>
      constructor <;> simp only [progress, used, accepted, publishes, verifies, at_pc, implies_true]
  | send | testAndSet | yield | readAvail | readAddr | readHdr | readBody | writeUsed | readTx
  | compare | shutdown | done | failed => simp only [at_pc] at clearing

theorem Clearing.ok {host : Host} {avail : Nat} (clearing : host.Clearing)
    (rxAvail : host.rxAvail = 0) : host.Ok layout traffic avail := by
  unfold Clearing at clearing
  unfold Ok
  cases at_pc : host.pc with
  | clearPayload done | clearHostToRemote done | clearRemoteToHost done => exact rxAvail
  | send | testAndSet | yield | readAvail | readAddr | readHdr | readBody | writeUsed | readTx
  | compare | shutdown | done | failed => simp only [at_pc] at clearing

/-- The host waits for or takes an echo it has not counted as used. -/
def Taking (host : Host) : Prop :=
  match host.pc with
  | .testAndSet | .yield | .readAvail | .readAddr | .readHdr _ | .readBody _ | .writeUsed => True
  | _ => False

/-- Every message but the shutdown message is stored, and as many echoes are
used as accepted. -/
structure Steady (host : Host) : Prop where
  progress : forall config used, host.progress config used =
    ⟨16 * config.pkgsTotal, config.pkgsTotal, config.pkgsTotal, used⟩
  used : host.used = host.i
  accepted : host.accepted = host.i
  publishes : host.publishes = []
  verifies : host.verifies = []

theorem Taking.steady {host : Host} (taking : host.Taking) : host.Steady := by
  unfold Taking at taking
  cases at_pc : host.pc with
  | testAndSet | yield | readAvail | readAddr | readHdr | readBody | writeUsed =>
      constructor <;> simp only [progress, used, accepted, publishes, verifies, at_pc, implies_true]
  | clearPayload | clearHostToRemote | clearRemoteToHost | send | readTx | compare | shutdown
  | done | failed => simp only [at_pc] at taking

/-! ## Handing over a message -/

/-- The address of a message the host is handing over. -/
theorem txPhyAddr32_eq (fits : layout.Fits) {host : Host} {k : Nat}
    (txData : host.txDataOffset = layout.hostPayloadRxOffset + 16 * k)
    (bounded : k ≤ layout.pkgsTotal) :
    host.txPhyAddr32 layout = layout.hToR.payload + 16 * k := by
  have areas := fits.areas
  have rx := fits.samePayloadRx
  have inside := fits.hostRxInside
  have below := fits.hostBelow4GiB
  unfold txPhyAddr32
  rw [layout.hostShmIo.phys_eq _ (by omega)]
  simp only [Layout.hToR]
  omega

theorem txPhyAddr32_good (fits : layout.Fits) {host : Host} {k : Nat}
    (txData : host.txDataOffset = layout.hostPayloadRxOffset + 16 * k)
    (bounded : k ≤ layout.pkgsTotal) : host.txPhyAddr32 layout ≠ metalBad32 := by
  have areas := fits.areas
  have inside := fits.remoteRxInside
  have below := fits.below4GiB
  rw [host.txPhyAddr32_eq fits txData bounded]
  simp only [Layout.hToR, metalBad32]
  omega

/-- The three accesses before a kick advance the host's direction by one
step, whichever message is handed over. -/
theorem sendAccess_stores (fits : layout.Fits) {host : Host} {memory : ByteMemory}
    {step : SendStep} {slot used : Nat} {rToH : Spsc.Progress}
    (sends : host.Sends layout traffic step slot)
    (aligned : step ≠ .writeAvail -> slot = host.i) (bounded : host.i ≤ layout.pkgsTotal)
    (running : step ≠ .kick)
    (streams : Streams layout traffic memory (step.progress host.i used) rToH) :
    Exists fun memory' =>
      (host.sendAccess layout ((host.i + 1) % 2 ^ 32) step).OnMemory ∧
      (host.sendAccess layout ((host.i + 1) % 2 ^ 32) step).onMemory layout memory =
        some (0, memory') ∧
      Streams layout traffic memory' (step.after.progress host.i used) rToH := by
  have areas := fits.areas
  have length : sizeofMsgHdr + msgLen host.txbuf = 16 := by
    rw [sends.txbuf, traffic.msgLen_messageAt, sizeofMsgHdr]
  have rx := fits.samePayloadRx
  have inside := fits.hostRxInside
  have below := fits.hostBelow4GiB
  have txData := sends.txData
  have txAddr := sends.txAddr
  cases step with
  | writeMsg done =>
      have within : done ≤ 16 := sends.within
      rw [aligned (by intro impossible; cases impossible)] at txData
      by_cases more : done < 16
      · have covers : layout.hostShmIo.Covers (host.txDataOffset + done) 1 := by
          unfold IoRegion.Covers
          omega
        have stored : Streams layout traffic
            (memory.writeByte (layout.hostShmIo.base + (host.txDataOffset + done))
              (host.txbuf.getD done 0))
            ((SendStep.writeMsg (done + 1)).progress host.i used) rToH := by
          apply streams.storeByteHToR fits
          · simp only [SendStep.progress, SendStep.bytes, Layout.hToR]
            omega
          · rw [sends.txbuf]
            exact (traffic.stream_of_message host.i more).symm
          · simp only [SendStep.progress, SendStep.bytes]
            omega
        rw [sendAccess, length, if_pos more, SendStep.after, if_pos more]
        exact ⟨_, trivial, if_pos covers, stored⟩
      · have finished : done = 16 := Nat.le_antisymm within (Nat.le_of_not_lt more)
        rw [sendAccess, length, if_neg more, SendStep.after, if_neg more]
        subst finished
        exact ⟨memory, trivial, rfl, streams⟩
  | writeAddr =>
      rw [aligned (by intro impossible; cases impossible)] at txData txAddr
      have good := host.txPhyAddr32_good fits txData bounded
      have covers : layout.hostToRemoteDescIo.Covers host.txAddrOffset sizeofAddr := by
        have size := fits.descriptor0Size
        simp only [IoRegion.Covers, sizeofAddr]
        omega
      have stored : Streams layout traffic
          (memory.writeWord (layout.hostToRemoteDescIo.base + host.txAddrOffset)
            (host.txPhyAddr32 layout))
          (SendStep.writeAvail.progress host.i used) rToH := by
        apply streams.storeSlotHToR fits
        · have same := fits.sameDescriptor0
          simp only [SendStep.progress, SendStep.slots, Layout.hToR]
          omega
        · exact host.txPhyAddr32_eq fits txData bounded
        · exact Nat.lt_succ_of_le bounded
      rw [sendAccess, if_neg good]
      exact ⟨_, trivial, if_pos covers, stored⟩
  | writeAvail =>
      have packets := fits.packets
      have covers : layout.hostToRemoteDescIo.Covers shmDescAvailOffset sizeofAddr := by
        have size := fits.descriptor0Size
        simp only [IoRegion.Covers, shmDescAvailOffset, sizeofAddr]
        omega
      have small : (host.i + 1) % 2 ^ 32 = host.i + 1 := Nat.mod_eq_of_lt (by omega)
      refine ⟨_, trivial, if_pos covers, ?_⟩
      rw [small]
      apply streams.storeAvailHToR fits fits.sameDescriptor0
      omega
  | kick => exact absurd rfl running

/-- Storing the number of available messages is what publishes. -/
theorem publishes_after {host : Host} {step : SendStep} (running : step ≠ .kick)
    (at_pc : host.pc = .send step ∨ host.pc = .shutdown step)
    (txbuf : host.txbuf = traffic.messageAt host.i) :
    traffic.firstMessages (step.progress host.i 0).avail ++ host.publishes =
      traffic.firstMessages (step.after.progress host.i 0).avail := by
  cases step with
  | writeMsg done =>
      have silent : host.publishes = [] := by
        rcases at_pc with at_pc | at_pc <;> simp only [publishes, at_pc]
      have same : ((SendStep.writeMsg done).after.progress host.i 0).avail = host.i := by
        by_cases more : done < 16
        · rw [SendStep.after, if_pos more]
          rfl
        · rw [SendStep.after, if_neg more]
          rfl
      rw [silent, List.append_nil, same]
      rfl
  | writeAddr =>
      have silent : host.publishes = [] := by
        rcases at_pc with at_pc | at_pc <;> simp only [publishes, at_pc]
      rw [silent, List.append_nil]
      rfl
  | writeAvail =>
      have published : host.publishes = [traffic.messageAt host.i] := by
        rcases at_pc with at_pc | at_pc <;> simp only [publishes, at_pc, txbuf]
      rw [published]
      exact (traffic.firstMessages_succ host.i).symm
  | kick => exact absurd rfl running

/-- Up to the kick, the send loop goes through the steps in order. -/
theorem nextSend_after (fits : layout.Fits) (avail : Nat) {host : Host} {step : SendStep}
    (running : step ≠ .kick)
    (sends : host.Sends layout traffic step (step.slots host.i))
    (remaining : host.i < layout.pkgsTotal) (rxAddr : host.rxAddrOffset = 8)
    (rxAvail : host.rxAvail = 0) :
    (host.nextSend layout traffic.timestamps step).pc = .send step.after ∧
    (host.nextSend layout traffic.timestamps step).i = host.i ∧
    (host.nextSend layout traffic.timestamps step).Ok layout traffic avail := by
  have areas := fits.areas
  have length : msgLen host.txbuf = 8 := by rw [sends.txbuf, traffic.msgLen_messageAt]
  cases step with
  | writeMsg done =>
      have whole : sizeofMsgHdr + msgLen host.txbuf = 16 := by rw [length, sizeofMsgHdr]
      rw [nextSend, whole, SendStep.after]
      by_cases more : done < 16
      · rw [if_pos more, if_pos more]
        exact ⟨rfl, rfl, ⟨sends.txbuf, more, sends.txAddr, sends.txData⟩, remaining, rxAddr, rxAvail⟩
      · rw [if_neg more, if_neg more]
        exact ⟨rfl, rfl, ⟨sends.txbuf, trivial, sends.txAddr, sends.txData⟩, remaining, rxAddr,
          rxAvail⟩
  | writeAddr =>
      have txAddr := sends.txAddr
      have txData := sends.txData
      simp only [SendStep.slots] at txAddr txData
      have good : host.txPhyAddr32 layout ≠ metalBad32 := host.txPhyAddr32_good fits txData (by omega)
      rw [nextSend, if_neg good]
      refine ⟨rfl, rfl, ⟨sends.txbuf, trivial, ?_, ?_⟩, remaining, rxAddr, rxAvail⟩
      · show layout.hostNextTxAddr host.txAddrOffset = 8 + 4 * (host.i + 1)
        rw [layout.hostNextTxAddr_of_lt _ (by simp only [sizeofAddr]; omega), txAddr, sizeofAddr]
        omega
      · show Config.nextData host.txDataOffset (msgLen host.txbuf) =
          layout.hostPayloadRxOffset + 16 * (host.i + 1)
        rw [length, txData, Config.nextData, sizeofMsgHdr]
        omega
  | writeAvail =>
      exact ⟨rfl, rfl, ⟨sends.txbuf, trivial, sends.txAddr, sends.txData⟩, remaining, rxAddr,
        rxAvail⟩
  | kick => exact absurd rfl running

theorem nextShutdown_after (fits : layout.Fits) {host : Host} {step : SendStep} {avail : Nat}
    (running : step ≠ .kick) (sends : host.Sends layout traffic step host.i)
    (last : host.i = layout.pkgsTotal) (echoed : host.i ≤ avail) :
    (host.nextShutdown layout step).pc = .shutdown step.after ∧
    (host.nextShutdown layout step).i = host.i ∧
    (host.nextShutdown layout step).Ok layout traffic avail := by
  cases step with
  | writeMsg done =>
      have whole : sizeofMsgHdr + msgLen host.txbuf = 16 := by
        rw [sends.txbuf, traffic.msgLen_messageAt, sizeofMsgHdr]
      rw [nextShutdown, whole, SendStep.after]
      by_cases more : done < 16
      · rw [if_pos more, if_pos more]
        exact ⟨rfl, rfl, ⟨sends.txbuf, more, sends.txAddr, sends.txData⟩, last, echoed⟩
      · rw [if_neg more, if_neg more]
        exact ⟨rfl, rfl, ⟨sends.txbuf, trivial, sends.txAddr, sends.txData⟩, last, echoed⟩
  | writeAddr =>
      rw [nextShutdown, if_neg (host.txPhyAddr32_good fits sends.txData (Nat.le_of_eq last))]
      exact ⟨rfl, rfl, ⟨sends.txbuf, trivial, sends.txAddr, sends.txData⟩, last, echoed⟩
  | writeAvail =>
      exact ⟨rfl, rfl, ⟨sends.txbuf, trivial, sends.txAddr, sends.txData⟩, last, echoed⟩
  | kick => exact absurd rfl running

end Host

/-! ## One step -/

namespace Invariant

variable {layout : Layout} {traffic : Traffic layout.pkgsTotal} {system : System}

/-- The next step of the host exists and keeps the invariant. -/
def HostKeeps (layout : Layout) (traffic : Traffic layout.pkgsTotal) (system : System) : Prop :=
  Exists fun after => system.hostStep layout traffic.timestamps = some after ∧
    Invariant layout traffic after

/-- What is left to show of a host step once its access has been performed. -/
theorem hostPerforms (invariant : Invariant layout traffic system) {access : Access}
    {reply : Nat} {memory : ByteMemory} (here : system.host.access layout = access)
    (kind : access.OnMemory) (performed : access.onMemory layout system.memory = some (reply, memory))
    {next : Host} (computed : system.host.next layout traffic.timestamps reply = next)
    (ok : next.Ok layout traffic (system.remote.published layout.toConfig))
    (streams : Streams layout traffic memory (next.progress layout.toConfig system.remote.rxCount)
      (system.remote.progress layout.toConfig next.used))
    (sent : traffic.firstMessages (system.host.published layout.toConfig) ++
        system.host.publishes = traffic.firstMessages (next.published layout.toConfig))
    (verified : traffic.firstMessages system.host.accepted ++ system.host.verifies =
      traffic.firstMessages next.accepted) :
    HostKeeps layout traffic system := by
  have grows : system.host.published layout.toConfig ≤ next.published layout.toConfig := by
    have lengths := congrArg List.length sent
    rw [List.length_append, traffic.firstMessages_length, traffic.firstMessages_length] at lengths
    omega
  refine ⟨_, System.hostStep_onMemory kind here performed, ?_⟩
  rw [computed]
  exact {
    host := ok
    remote := invariant.remote.mono grows
    streams := streams
    sent := by rw [invariant.sent, sent]
    consumed := invariant.consumed
    verified := by rw [invariant.verified, verified] }

/-- The host moves on at the same progress, and only interrupts change. -/
theorem withHost (invariant : Invariant layout traffic system) {next : Host}
    (ok : next.Ok layout traffic (system.remote.published layout.toConfig))
    (progress : forall used,
      next.progress layout.toConfig used = system.host.progress layout.toConfig used)
    (used : next.used = system.host.used) (accepted : next.accepted = system.host.accepted)
    (irq : Irq) : Invariant layout traffic { system with host := next, irq := irq } := by
  have published : next.published layout.toConfig = system.host.published layout.toConfig :=
    congrArg Spsc.Progress.avail (progress 0)
  constructor
  · exact ok
  · exact published.symm ▸ invariant.remote
  · show Streams layout traffic system.memory
      (next.progress layout.toConfig system.remote.rxCount)
      (system.remote.progress layout.toConfig next.used)
    rw [progress, used]
    exact invariant.streams
  · exact published.symm ▸ invariant.sent
  · exact invariant.consumed
  · exact accepted.symm ▸ invariant.verified

/-- A step that stores nothing and enters nothing into the logs. -/
theorem hostComputes (invariant : Invariant layout traffic system) (access : Access)
    (reply : Nat) (next : Host) (here : system.host.access layout = access) (kind : access.OnMemory)
    (performed : access.onMemory layout system.memory = some (reply, system.memory))
    (computed : system.host.next layout traffic.timestamps reply = next)
    (ok : next.Ok layout traffic (system.remote.published layout.toConfig))
    (progress : forall used,
      next.progress layout.toConfig used = system.host.progress layout.toConfig used)
    (used : next.used = system.host.used) (accepted : next.accepted = system.host.accepted)
    (publishes : system.host.publishes = []) (verifies : system.host.verifies = []) :
    HostKeeps layout traffic system := by
  have published : next.published layout.toConfig = system.host.published layout.toConfig :=
    congrArg Spsc.Progress.avail (progress 0)
  apply invariant.hostPerforms here kind performed computed ok
  · rw [progress, used]
    exact invariant.streams
  · rw [publishes, List.append_nil, published]
  · rw [verifies, List.append_nil, accepted]

/-- A kick changes no memory and no log. -/
theorem hostKicks (invariant : Invariant layout traffic system)
    (here : system.host.access layout = .irqKick) {next : Host}
    (computed : system.host.next layout traffic.timestamps 0 = next)
    (ok : next.Ok layout traffic (system.remote.published layout.toConfig))
    (progress : forall used,
      next.progress layout.toConfig used = system.host.progress layout.toConfig used)
    (used : next.used = system.host.used) (accepted : next.accepted = system.host.accepted) :
    HostKeeps layout traffic system := by
  have performed : system.hostStep layout traffic.timestamps =
      some { system with host := next, irq := system.irq.kickRemote } := by
    simp only [System.hostStep, here, computed]
  exact ⟨_, performed, invariant.withHost ok progress used accepted _⟩

/-- A step within the taking of an echo, which only reads. -/
theorem hostTakes (invariant : Invariant layout traffic system) (access : Access) (reply : Nat)
    (next : Host) (here : system.host.access layout = access) (kind : access.OnMemory)
    (performed : access.onMemory layout system.memory = some (reply, system.memory))
    (computed : system.host.next layout traffic.timestamps reply = next)
    (taking : system.host.Taking) (still : next.Taking) (same : next.i = system.host.i)
    (ok : next.Ok layout traffic (system.remote.published layout.toConfig)) :
    HostKeeps layout traffic system :=
  invariant.hostComputes access reply next here kind performed computed ok
    (fun used => (still.steady.progress _ used).trans (taking.steady.progress _ used).symm)
    (still.steady.used.trans (same.trans taking.steady.used.symm))
    (still.steady.accepted.trans (same.trans taking.steady.accepted.symm))
    taking.steady.publishes taking.steady.verifies

/-! ### Clearing -/

theorem hostClears (invariant : Invariant layout traffic system)
    (clearing : system.host.Clearing) (window : Window) (offset : Nat)
    (here : system.host.access layout = .setByte window offset)
    (covers : (layout.region window).Covers offset 1) {next : Host}
    (computed : system.host.next layout traffic.timestamps 0 = next)
    (still : next.Clearing) (rxAvail : next.rxAvail = 0) :
    HostKeeps layout traffic system := by
  have ok := invariant.remote
  rw [Host.published, clearing.idle.progress] at ok
  rcases ok.nothing_stored 0 with ⟨rxCount, idle⟩
  have streams := invariant.streams
  rw [clearing.idle.progress, clearing.idle.used, rxCount, idle] at streams
  apply invariant.hostPerforms here trivial (if_pos covers) computed (still.ok rxAvail)
  · rw [still.idle.progress, still.idle.used, rxCount, idle]
    exact streams.clearByte _
  · rw [clearing.idle.publishes, List.append_nil, Host.published, Host.published, clearing.idle.progress,
      still.idle.progress]
  · rw [clearing.idle.verifies, List.append_nil, clearing.idle.accepted, still.idle.accepted]

/-- The host turns from one area to the next. -/
theorem hostTurns (invariant : Invariant layout traffic system)
    (clearing : system.host.Clearing) (here : system.host.access layout = .compute) {next : Host}
    (computed : system.host.next layout traffic.timestamps 0 = next)
    (still : next.Clearing) (rxAvail : next.rxAvail = 0) :
    HostKeeps layout traffic system :=
  invariant.hostComputes .compute 0 next here trivial rfl computed (still.ok rxAvail)
    (fun used => (still.idle.progress _ used).trans (clearing.idle.progress _ used).symm)
    (still.idle.used.trans clearing.idle.used.symm) (still.idle.accepted.trans clearing.idle.accepted.symm)
    clearing.idle.publishes clearing.idle.verifies

/-- The host clears a window of `size` bytes, one after the other, and then goes on. -/
theorem hostClearsWindow (invariant : Invariant layout traffic system)
    (clearing : system.host.Clearing) (rxAvail : system.host.rxAvail = 0) (window : Window)
    (done size : Nat) (inside : size ≤ (layout.region window).size) (more onward : Host)
    (here : system.host.access layout = if done < size then .setByte window done else .compute)
    (computed : system.host.next layout traffic.timestamps 0 =
      if done < size then more else onward)
    (still : more.Clearing) (kept : more.rxAvail = system.host.rxAvail)
    (goesOn : system.host.access layout = .compute ->
      system.host.next layout traffic.timestamps 0 = onward -> HostKeeps layout traffic system) :
    HostKeeps layout traffic system := by
  by_cases left : done < size
  · rw [if_pos left] at here computed
    exact invariant.hostClears clearing window done here (Nat.le_trans left inside) computed still
      (kept.trans rxAvail)
  · rw [if_neg left] at here computed
    exact goesOn here computed

theorem host_clearPayload (fits : layout.Fits) (invariant : Invariant layout traffic system)
    {done : Nat} (at_pc : system.host.pc = .clearPayload done) : HostKeeps layout traffic system := by
  have ok := invariant.host
  simp only [Host.Ok, at_pc] at ok
  have clearing : system.host.Clearing := by simp only [Host.Clearing, at_pc]
  exact invariant.hostClearsWindow clearing ok .hostShm done layout.shmPayloadSize
    (Nat.le_of_eq fits.payloadSize.symm) { system.host with pc := .clearPayload (done + 1) }
    { system.host with pc := .clearHostToRemote 0 }
    (by simp only [Host.access, at_pc]) (by simp only [Host.next, at_pc]) trivial rfl
    fun here computed => invariant.hostTurns clearing here computed trivial ok

theorem host_clearHostToRemote (fits : layout.Fits) (invariant : Invariant layout traffic system)
    {done : Nat} (at_pc : system.host.pc = .clearHostToRemote done) :
    HostKeeps layout traffic system := by
  have ok := invariant.host
  simp only [Host.Ok, at_pc] at ok
  have clearing : system.host.Clearing := by simp only [Host.Clearing, at_pc]
  exact invariant.hostClearsWindow clearing ok .hostToRemoteDesc done layout.shm0DescSize
    (Nat.le_of_eq fits.descriptor0Size.symm) { system.host with pc := .clearHostToRemote (done + 1) }
    { system.host with pc := .clearRemoteToHost 0 }
    (by simp only [Host.access, at_pc]) (by simp only [Host.next, at_pc]) trivial rfl
    fun here computed => invariant.hostTurns clearing here computed trivial ok

/-- The last area cleared, the host enters its send loop. -/
theorem host_startsSending (invariant : Invariant layout traffic system)
    (clearing : system.host.Clearing) (rxAvail : system.host.rxAvail = 0)
    (here : system.host.access layout = .compute)
    (computed : system.host.next layout traffic.timestamps 0 =
      system.host.startSending layout.toConfig traffic.timestamps) :
    HostKeeps layout traffic system := by
  have reaches : (system.host.startSending layout.toConfig traffic.timestamps).Reaches layout
      traffic (system.remote.published layout.toConfig) 0 0 0 0 :=
    Host.sendLoop_reaches (Nat.zero_le _) rfl rfl rfl rxAvail
  apply invariant.hostComputes .compute 0 (system.host.startSending layout.toConfig
    traffic.timestamps) here trivial rfl computed
  · exact reaches.ok
  · exact fun used => (reaches.progress used).trans (clearing.idle.progress _ used).symm
  · exact reaches.used.trans clearing.idle.used.symm
  · exact reaches.accepted.trans clearing.idle.accepted.symm
  · exact clearing.idle.publishes
  · exact clearing.idle.verifies

theorem host_clearRemoteToHost (fits : layout.Fits) (invariant : Invariant layout traffic system)
    {done : Nat} (at_pc : system.host.pc = .clearRemoteToHost done) :
    HostKeeps layout traffic system := by
  have ok := invariant.host
  simp only [Host.Ok, at_pc] at ok
  have clearing : system.host.Clearing := by simp only [Host.Clearing, at_pc]
  exact invariant.hostClearsWindow clearing ok .remoteToHostDesc done layout.shm1DescSize
    (Nat.le_of_eq fits.descriptor1Size.symm) { system.host with pc := .clearRemoteToHost (done + 1) }
    (system.host.startSending layout.toConfig traffic.timestamps)
    (by simp only [Host.access, at_pc]) (by simp only [Host.next, at_pc]) trivial rfl
    fun here computed => host_startsSending invariant clearing ok here computed

/-! ### Sending -/

theorem host_send (fits : layout.Fits) (invariant : Invariant layout traffic system)
    {step : SendStep} (at_pc : system.host.pc = .send step) : HostKeeps layout traffic system := by
  have ok := invariant.host
  have streams := invariant.streams
  simp only [Host.Ok, Host.progress, Host.used, at_pc] at ok streams
  rcases ok with ⟨sends, remaining, rxAddr, rxAvail⟩
  have here : system.host.access layout =
      system.host.sendAccess layout ((system.host.i + 1) % 2 ^ 32) step := by
    simp only [Host.access, at_pc]
  have computed : forall reply, system.host.next layout traffic.timestamps reply =
      system.host.nextSend layout traffic.timestamps step := by
    intro reply
    simp only [Host.next, at_pc]
  have verifies : system.host.verifies = [] := by simp only [Host.verifies, at_pc]
  have accepted : system.host.accepted = 0 := by simp only [Host.accepted, at_pc]
  have published : system.host.published layout.toConfig = (step.progress system.host.i 0).avail := by
    simp only [Host.published, Host.progress, at_pc]
  by_cases running : step ≠ .kick
  · rcases Host.nextSend_after fits (system.remote.published layout.toConfig) running sends
        remaining rxAddr rxAvail with ⟨next_pc, next_i, next_ok⟩
    have aligned : step ≠ .writeAvail -> step.slots system.host.i = system.host.i := by
      intro earlier
      cases step with
      | writeMsg done | writeAddr => rfl
      | writeAvail => exact absurd rfl earlier
      | kick => exact absurd rfl running
    rcases Host.sendAccess_stores fits sends aligned (Nat.le_of_lt remaining) running streams with
      ⟨memory, kind, performed, stored⟩
    apply invariant.hostPerforms here kind performed (computed 0) next_ok
    · simp only [Host.progress, Host.used, next_pc, next_i]
      exact stored
    · rw [published, Host.publishes_after running (Or.inl at_pc) sends.txbuf]
      simp only [Host.published, Host.progress, next_pc, next_i]
    · rw [verifies, accepted]
      simp only [Host.accepted, next_pc, List.append_nil]
  · have kicking : step = .kick := not_not.mp running
    subst kicking
    have packets := fits.packets
    have advances : (system.host.i + 1) % 2 ^ 32 = system.host.i + 1 :=
      Nat.mod_eq_of_lt (by omega)
    have reaches : (system.host.nextSend layout traffic.timestamps .kick).Reaches layout traffic
        (system.remote.published layout.toConfig) (16 * (system.host.i + 1)) (system.host.i + 1)
        (system.host.i + 1) 0 := by
      rw [Host.nextSend, advances]
      exact Host.sendLoop_reaches remaining sends.txAddr rxAddr sends.txData rxAvail
    apply invariant.hostKicks here (computed 0) reaches.ok
    · intro used
      rw [reaches.progress]
      simp only [Host.progress, at_pc]
      rfl
    · rw [reaches.used]
      simp only [Host.used, at_pc]
    · rw [reaches.accepted, accepted]

theorem host_shutdown (fits : layout.Fits) (invariant : Invariant layout traffic system)
    {step : SendStep} (at_pc : system.host.pc = .shutdown step) :
    HostKeeps layout traffic system := by
  have ok := invariant.host
  have streams := invariant.streams
  simp only [Host.Ok, Host.progress, Host.used, at_pc] at ok streams
  rcases ok with ⟨sends, last, echoed⟩
  have here : system.host.access layout =
      system.host.sendAccess layout ((system.host.i + 1) % 2 ^ 32) step := by
    simp only [Host.access, at_pc, last]
  have computed : forall reply, system.host.next layout traffic.timestamps reply =
      system.host.nextShutdown layout step := by
    intro reply
    simp only [Host.next, at_pc]
  have verifies : system.host.verifies = [] := by simp only [Host.verifies, at_pc]
  have accepted : system.host.accepted = system.host.i := by simp only [Host.accepted, at_pc]
  have published : system.host.published layout.toConfig = (step.progress system.host.i 0).avail := by
    simp only [Host.published, Host.progress, at_pc]
  by_cases running : step ≠ .kick
  · rcases Host.nextShutdown_after fits running sends last echoed with ⟨next_pc, next_i, next_ok⟩
    rcases Host.sendAccess_stores fits sends (fun _ => rfl) (Nat.le_of_eq last) running streams with
      ⟨memory, kind, performed, stored⟩
    apply invariant.hostPerforms here kind performed (computed 0) next_ok
    · simp only [Host.progress, Host.used, next_pc, next_i]
      exact stored
    · rw [published, Host.publishes_after running (Or.inr at_pc) sends.txbuf]
      simp only [Host.published, Host.progress, next_pc, next_i]
    · rw [verifies, accepted]
      simp only [Host.accepted, next_pc, next_i, List.append_nil]
  · have kicking : step = .kick := not_not.mp running
    subst kicking
    apply invariant.hostKicks here (computed 0)
    · exact ⟨last, echoed⟩
    · intro used
      simp only [Host.progress, at_pc, last]
      rfl
    · simp only [Host.used, at_pc]
      rfl
    · rw [accepted]
      rfl

/-! ### Waiting -/

theorem host_testAndSet (invariant : Invariant layout traffic system)
    (at_pc : system.host.pc = .testAndSet) : HostKeeps layout traffic system := by
  have ok := invariant.host
  simp only [Host.Ok, at_pc] at ok
  have performed : system.hostStep layout traffic.timestamps =
      some { system with
        host := system.host.next layout traffic.timestamps system.irq.testAndSetNkicked.1
        irq := system.irq.testAndSetNkicked.2 } := by
    simp only [System.hostStep, Host.access, at_pc]
  refine ⟨_, performed, ?_⟩
  by_cases notified : system.irq.testAndSetNkicked.1 = 0
  · apply invariant.withHost
    all_goals simp only [Host.next, at_pc, if_pos notified]
    · exact ⟨{ ok.1 with }, ok.2⟩
    · simp only [Host.progress, at_pc, implies_true]
    · simp only [Host.used, at_pc]
    · simp only [Host.accepted, at_pc]
  · apply invariant.withHost
    all_goals simp only [Host.next, at_pc, if_neg notified]
    · exact ⟨{ ok.1 with }, ok.2⟩
    · simp only [Host.progress, at_pc, implies_true]
    · simp only [Host.used, at_pc]
    · simp only [Host.accepted, at_pc]

theorem host_yield (invariant : Invariant layout traffic system)
    (at_pc : system.host.pc = .yield) : HostKeeps layout traffic system := by
  have ok := invariant.host
  simp only [Host.Ok, at_pc] at ok
  apply invariant.hostTakes .compute 0 { system.host with pc := .testAndSet }
  · simp only [Host.access, at_pc]
  · trivial
  · rfl
  · simp only [Host.next, at_pc]
  · simp only [Host.Taking, at_pc]
  · trivial
  · rfl
  · exact ⟨{ ok.1 with }, ok.2⟩

/-- The counter read is the number of echoes published. -/
theorem host_readAvail (fits : layout.Fits) (invariant : Invariant layout traffic system)
    (at_pc : system.host.pc = .readAvail) : HostKeeps layout traffic system := by
  have ok := invariant.host
  simp only [Host.Ok, at_pc] at ok
  have areas := fits.areas
  have size := fits.descriptor1Size
  have covers : layout.remoteToHostDescIo.Covers shmDescAvailOffset sizeofAddr := by
    simp only [IoRegion.Covers, shmDescAvailOffset, sizeofAddr]
    omega
  have counter : system.memory.readWord (layout.remoteToHostDescIo.base + shmDescAvailOffset) =
      system.remote.published layout.toConfig := by
    rw [fits.sameDescriptor1]
    exact invariant.streams.rToH.avail.trans (Remote.progress_avail _ _ _)
  have receives := ok.1
  have reaches : ({ system.host with
      rxAvail := system.remote.published layout.toConfig }.drainLoop layout.toConfig).Reaches
      layout traffic (system.remote.published layout.toConfig) (16 * layout.pkgsTotal)
      layout.pkgsTotal layout.pkgsTotal system.host.i := by
    apply Host.drainLoop_reaches
    · exact {
        txAddr := receives.txAddr
        rxAddr := receives.rxAddr
        txData := receives.txData
        counted := Nat.le_trans receives.counted receives.published
        published := Nat.le_refl _ }
    · exact Nat.le_of_lt ok.2
  refine invariant.hostComputes (.readAvail .remoteToHostDesc shmDescAvailOffset)
    (system.remote.published layout.toConfig) _ ?_ trivial ?_ ?_ reaches.ok ?_ ?_ ?_ ?_ ?_
  · simp only [Host.access, at_pc]
  · simp only [Access.onMemory, Layout.region, if_pos covers, counter]
  · simp only [Host.next, at_pc]
  · intro used
    rw [reaches.progress]
    simp only [Host.progress, at_pc]
  · rw [reaches.used]
    simp only [Host.used, at_pc]
  · rw [reaches.accepted]
    simp only [Host.accepted, at_pc]
  · simp only [Host.publishes, at_pc]
  · simp only [Host.verifies, at_pc]

/-! ### Taking an echo -/

theorem host_readAddr (fits : layout.Fits) (invariant : Invariant layout traffic system)
    (at_pc : system.host.pc = .readAddr) : HostKeeps layout traffic system := by
  have ok := invariant.host
  simp only [Host.Ok, at_pc] at ok
  rcases ok with ⟨receives, pending⟩
  have published := receives.published
  have echoes := invariant.echoes_le
  have areas := fits.areas
  have size := fits.descriptor1Size
  have inside := fits.hostTxInside
  have below := fits.hostBelow4GiB
  have rxAddr := receives.rxAddr
  have covers : layout.remoteToHostDescIo.Covers system.host.rxAddrOffset sizeofAddr := by
    simp only [IoRegion.Covers, sizeofAddr]
    omega
  have entry : system.memory.readWord
      (layout.remoteToHostDescIo.base + system.host.rxAddrOffset) =
      layout.hostShmIo.base + (layout.hostPayloadTxOffset + 16 * system.host.i) := by
    have stored : system.host.i <
        (system.remote.progress layout.toConfig system.host.used).slots := by
      have order := (system.remote.progress_ordered layout.toConfig system.host.used).1
      rw [Remote.progress_avail] at order
      omega
    have slot := invariant.streams.rToH.slot system.host.i stored
    have same := fits.samePayloadTx
    simp only [Layout.rToH] at slot
    rw [fits.sameDescriptor1, rxAddr, ← Nat.add_assoc, slot]
    omega
  have offset : layout.hostShmIo.metalIoPhysToOffset
      (layout.hostShmIo.base + (layout.hostPayloadTxOffset + 16 * system.host.i)) =
      layout.hostPayloadTxOffset + 16 * system.host.i := by
    have inverse := layout.hostShmIo.toOffset_phys
      (layout.hostPayloadTxOffset + 16 * system.host.i) (by omega)
    rwa [layout.hostShmIo.phys_eq _ (by omega)] at inverse
  have good : layout.hostPayloadTxOffset + 16 * system.host.i ≠ hostMetalBad := by
    unfold hostMetalBad
    omega
  apply invariant.hostTakes (.readAddr .remoteToHostDesc system.host.rxAddrOffset)
    (layout.hostShmIo.base + (layout.hostPayloadTxOffset + 16 * system.host.i))
    { system.host with
      rxDataOffset := layout.hostPayloadTxOffset + 16 * system.host.i
      rxAddrOffset := Config.nextAddr system.host.rxAddrOffset
      rxbuf := []
      pc := .readHdr 0 }
  · simp only [Host.access, at_pc]
  · trivial
  · simp only [Access.onMemory, Layout.region, if_pos covers, entry]
  · simp only [Host.next, at_pc, offset, if_neg good]
  · simp only [Host.Taking, at_pc]
  · trivial
  · rfl
  · refine ⟨{ receives with rxAddr := ?_ }, pending, Nat.zero_le _, rfl, rfl⟩
    show Config.nextAddr system.host.rxAddrOffset = 8 + 4 * (system.host.i + 1)
    rw [rxAddr, Config.nextAddr, sizeofAddr]
    omega

/-- A byte of the echo is a byte of the message it echoes. -/
theorem echo_byte (fits : layout.Fits) (invariant : Invariant layout traffic system)
    (pending : system.host.i < system.remote.published layout.toConfig) {done : Nat}
    (inside : done < 16) (offset : Nat)
    (here : offset = layout.hostPayloadTxOffset + 16 * system.host.i + done) :
    layout.hostShmIo.Covers offset 1 ∧
      system.memory (layout.hostShmIo.base + offset) =
        traffic.stream (16 * system.host.i + done) := by
  have echoes := invariant.echoes_le
  have areas := fits.areas
  have same := fits.samePayloadTx
  have room := fits.hostTxInside
  constructor
  · unfold IoRegion.Covers
    omega
  · have order := system.remote.progress_ordered layout.toConfig system.host.used
    rw [Remote.progress_avail] at order
    have stored := invariant.streams.rToH.byte (16 * system.host.i + done) (by omega)
    rw [← stored]
    apply congrArg
    simp only [Layout.rToH]
    omega

theorem host_readHdr (fits : layout.Fits) (invariant : Invariant layout traffic system)
    {done : Nat} (at_pc : system.host.pc = .readHdr done) : HostKeeps layout traffic system := by
  have ok := invariant.host
  simp only [Host.Ok, at_pc] at ok
  rcases ok with ⟨receives, pending, within, rxData, rxbuf⟩
  have published := Nat.lt_of_lt_of_le pending receives.published
  have taking : system.host.Taking := by simp only [Host.Taking, at_pc]
  by_cases more : done < 8
  · rcases invariant.echo_byte fits published (Nat.lt_of_lt_of_le more (by decide)) _
        (congrArg (· + done) rxData) with ⟨covers, byte⟩
    apply invariant.hostTakes (.readByte .hostShm (system.host.rxDataOffset + done))
      (traffic.stream (16 * system.host.i + done)).toNat
      { system.host with
        rxbuf := (traffic.messageAt system.host.i).take (done + 1)
        pc := .readHdr (done + 1) }
    · simp only [Host.access, at_pc]
      exact if_pos more
    · trivial
    · simp only [Access.onMemory, Layout.region, if_pos covers, byte]
    · simp only [Host.next, at_pc, sizeofMsgHdr, if_pos more, rxbuf, UInt8.ofNat_toNat]
      rw [traffic.messageAt_take_succ system.host.i (Nat.lt_of_lt_of_le more (by decide))]
    · exact taking
    · trivial
    · rfl
    · exact ⟨{ receives with }, pending, more, rxData, rfl⟩
  · have whole : done = 8 := Nat.le_antisymm within (Nat.le_of_not_lt more)
    subst whole
    have index : msgIndex system.host.rxbuf = system.host.i := by
      rw [rxbuf, msgIndex_take (Nat.le_refl 8), traffic.msgIndex_messageAt]
      exact Nat.le_of_lt (Nat.lt_of_lt_of_le published invariant.echoes_le)
    have length : msgLen system.host.rxbuf = 8 := by
      rw [rxbuf, msgLen_take (Nat.le_refl 8), traffic.msgLen_messageAt]
    apply invariant.hostTakes .compute 0
      { system.host with
        rxDataOffset := system.host.rxDataOffset + sizeofMsgHdr
        pc := .readBody 0 }
    · simp only [Host.access, at_pc]
      exact if_neg more
    · trivial
    · rfl
    · simp only [Host.next, at_pc, sizeofMsgHdr, sizeofTimestamp, if_neg more, index, length,
        ne_eq, not_true_eq_false, if_false]
    · exact taking
    · trivial
    · rfl
    · exact ⟨{ receives with }, pending, Nat.zero_le _, congrArg (· + 8) rxData, rxbuf⟩

theorem host_readBody (fits : layout.Fits) (invariant : Invariant layout traffic system)
    {done : Nat} (at_pc : system.host.pc = .readBody done) : HostKeeps layout traffic system := by
  have ok := invariant.host
  simp only [Host.Ok, at_pc] at ok
  rcases ok with ⟨receives, pending, within, rxData, rxbuf⟩
  have published := Nat.lt_of_lt_of_le pending receives.published
  have taking : system.host.Taking := by simp only [Host.Taking, at_pc]
  have length : msgLen system.host.rxbuf = 8 := by
    rw [rxbuf, msgLen_take (Nat.le_add_right 8 done), traffic.msgLen_messageAt]
  by_cases more : done < 8
  · have inside : 8 + done < 16 := Nat.add_lt_add_left more 8
    rcases invariant.echo_byte fits published inside (system.host.rxDataOffset + done)
        (by omega) with ⟨covers, byte⟩
    apply invariant.hostTakes (.readByte .hostShm (system.host.rxDataOffset + done))
      (traffic.stream (16 * system.host.i + (8 + done))).toNat
      { system.host with
        rxbuf := (traffic.messageAt system.host.i).take (8 + done + 1)
        pc := .readBody (done + 1) }
    · simp only [Host.access, at_pc, length, if_pos more]
    · trivial
    · simp only [Access.onMemory, Layout.region, if_pos covers, byte]
    · simp only [Host.next, at_pc, length, if_pos more, UInt8.ofNat_toNat]
      rw [rxbuf, traffic.messageAt_take_succ system.host.i inside]
    · exact taking
    · trivial
    · rfl
    · exact ⟨{ receives with }, pending, more, rxData, rfl⟩
  · have whole : done = 8 := Nat.le_antisymm within (Nat.le_of_not_lt more)
    subst whole
    apply invariant.hostTakes .compute 0
      { system.host with
        rxDataOffset := system.host.rxDataOffset + 8
        pc := .writeUsed }
    · simp only [Host.access, at_pc, length, if_neg more]
    · trivial
    · rfl
    · simp only [Host.next, at_pc, length, if_neg more]
    · exact taking
    · trivial
    · rfl
    · exact ⟨{ receives with }, pending, rxbuf.trans (traffic.messageAt_take_all _)⟩

/-! ### Verifying an echo -/

theorem host_writeUsed (fits : layout.Fits) (invariant : Invariant layout traffic system)
    (at_pc : system.host.pc = .writeUsed) : HostKeeps layout traffic system := by
  have ok := invariant.host
  have streams := invariant.streams
  simp only [Host.Ok, Host.progress, Host.used, at_pc] at ok streams
  rcases ok with ⟨receives, pending, rxbuf⟩
  have published := receives.published
  have echoes := invariant.echoes_le
  have packets := fits.packets
  have areas := fits.areas
  have size := fits.descriptor1Size
  have covers : layout.remoteToHostDescIo.Covers shmDescUsedOffset sizeofAddr := by
    simp only [IoRegion.Covers, shmDescUsedOffset, sizeofAddr]
    omega
  have advances : (system.host.i + 1) % 2 ^ 32 = system.host.i + 1 := Nat.mod_eq_of_lt (by omega)
  have computed : system.host.next layout traffic.timestamps 0 =
      { system.host with txbuf := [], pc := .readTx 0 } := by
    simp only [Host.next, at_pc]
  have here : system.host.access layout =
      .writeUsed .remoteToHostDesc shmDescUsedOffset (system.host.i + 1) := by
    simp only [Host.access, at_pc, advances]
  apply invariant.hostPerforms here trivial (if_pos covers) computed
  · exact ⟨{ receives with }, pending, rxbuf, Nat.zero_le _, rfl⟩
  · have place : layout.remoteToHostDescIo.base + shmDescUsedOffset =
        layout.rToH.descriptor + 4 := by
      rw [fits.sameDescriptor1]
      rfl
    have stored := streams.storeUsedRToH fits place (show system.host.i + 1 < 2 ^ 32 by omega)
    rw [Remote.progress_withUsed] at stored
    exact stored
  · simp only [Host.publishes, Host.published, Host.progress, at_pc, List.append_nil]
  · simp only [Host.verifies, Host.accepted, at_pc, List.append_nil]

/-- The host reads back the message it sent from its own payload area. -/
theorem host_readTx (fits : layout.Fits) (invariant : Invariant layout traffic system)
    {done : Nat} (at_pc : system.host.pc = .readTx done) : HostKeeps layout traffic system := by
  have ok := invariant.host
  have streams := invariant.streams
  simp only [Host.Ok, Host.progress, Host.used, at_pc] at ok streams
  rcases ok with ⟨receives, pending, rxbuf, within, txbuf⟩
  have published := receives.published
  have echoes := invariant.echoes_le
  have areas := fits.areas
  have txData := receives.txData
  by_cases more : done < 16
  · have room := fits.hostRxInside
    have covers : layout.hostShmIo.Covers (system.host.txDataOffset + done) 1 := by
      unfold IoRegion.Covers
      omega
    have byte : system.memory (layout.hostShmIo.base + (system.host.txDataOffset + done)) =
        traffic.stream (16 * system.host.i + done) := by
      have same := fits.samePayloadRx
      have stored : 16 * system.host.i + done < 16 * layout.pkgsTotal := by omega
      rw [← streams.hToR.byte (16 * system.host.i + done) stored]
      apply congrArg
      simp only [Layout.hToR]
      omega
    apply invariant.hostComputes (.readByte .hostShm (system.host.txDataOffset + done))
      (traffic.stream (16 * system.host.i + done)).toNat
      { system.host with
        txbuf := (traffic.messageAt system.host.i).take (done + 1)
        pc := .readTx (done + 1) }
    · simp only [Host.access, at_pc]
      exact if_pos more
    · trivial
    · simp only [Access.onMemory, Layout.region, if_pos covers, byte]
    · simp only [Host.next, at_pc, txbuf, UInt8.ofNat_toNat]
      rw [traffic.messageAt_take_succ system.host.i more]
      exact if_pos more
    · exact ⟨{ receives with }, pending, rxbuf, more, rfl⟩
    · simp only [Host.progress, at_pc, implies_true]
    · simp only [Host.used, at_pc]
    · simp only [Host.accepted, at_pc]
    · simp only [Host.publishes, at_pc]
    · simp only [Host.verifies, at_pc]
  · have whole : done = 16 := Nat.le_antisymm within (Nat.le_of_not_lt more)
    subst whole
    apply invariant.hostComputes .compute 0
      { system.host with
        txDataOffset := system.host.txDataOffset + 16
        pc := .compare }
    · simp only [Host.access, at_pc]
      exact if_neg more
    · trivial
    · rfl
    · simp only [Host.next, at_pc]
      exact if_neg more
    · refine ⟨{ receives with txData := ?_ }, pending, rxbuf,
        txbuf.trans (traffic.messageAt_take_all _)⟩
      show system.host.txDataOffset + 16 = layout.hostPayloadRxOffset + 16 * (system.host.i + 1)
      omega
    · simp only [Host.progress, at_pc, implies_true]
    · simp only [Host.used, at_pc]
    · simp only [Host.accepted, at_pc]
    · simp only [Host.publishes, at_pc]
    · simp only [Host.verifies, at_pc]

theorem host_compare (fits : layout.Fits) (invariant : Invariant layout traffic system)
    (at_pc : system.host.pc = .compare) : HostKeeps layout traffic system := by
  have ok := invariant.host
  have streams := invariant.streams
  simp only [Host.Ok, Host.progress, Host.used, at_pc] at ok streams
  rcases ok with ⟨receives, pending, rxbuf, txbuf⟩
  have published := receives.published
  have echoes := invariant.echoes_le
  have packets := fits.packets
  have advances : (system.host.i + 1) % 2 ^ 32 = system.host.i + 1 := Nat.mod_eq_of_lt (by omega)
  have equal : system.host.rxbuf = system.host.txbuf := rxbuf.trans txbuf.symm
  have reaches : ({ system.host with i := system.host.i + 1 }.drainLoop layout.toConfig).Reaches
      layout traffic (system.remote.published layout.toConfig) (16 * layout.pkgsTotal)
      layout.pkgsTotal layout.pkgsTotal (system.host.i + 1) := by
    apply Host.drainLoop_reaches
    · exact {
        txAddr := receives.txAddr
        rxAddr := receives.rxAddr
        txData := receives.txData
        counted := pending
        published := receives.published }
    · exact Nat.le_trans pending (Nat.le_trans published echoes)
  have here : system.host.access layout = .compute := by simp only [Host.access, at_pc]
  have computed : system.host.next layout traffic.timestamps 0 =
      { system.host with i := system.host.i + 1 }.drainLoop layout.toConfig := by
    simp only [Host.next, at_pc, if_pos equal, advances]
  apply invariant.hostPerforms here trivial rfl computed reaches.ok
  · rw [reaches.progress, reaches.used]
    exact streams
  · rw [Host.published, Host.published, reaches.progress]
    simp only [Host.publishes, Host.progress, at_pc, List.append_nil]
  · rw [reaches.accepted, traffic.firstMessages_succ]
    simp only [Host.verifies, Host.accepted, at_pc, rxbuf, txbuf, if_true]

/-! ### Every step -/

/-- Every step of the host keeps the invariant. -/
theorem hostStep_keeps (fits : layout.Fits) (invariant : Invariant layout traffic system)
    {after : System} (moved : system.hostStep layout traffic.timestamps = some after) :
    Invariant layout traffic after := by
  have keeps : HostKeeps layout traffic system := by
    cases at_pc : system.host.pc with
    | clearPayload done => exact host_clearPayload fits invariant at_pc
    | clearHostToRemote done => exact host_clearHostToRemote fits invariant at_pc
    | clearRemoteToHost done => exact host_clearRemoteToHost fits invariant at_pc
    | send step => exact host_send fits invariant at_pc
    | testAndSet => exact invariant.host_testAndSet at_pc
    | yield => exact invariant.host_yield at_pc
    | readAvail => exact host_readAvail fits invariant at_pc
    | readAddr => exact host_readAddr fits invariant at_pc
    | readHdr done => exact host_readHdr fits invariant at_pc
    | readBody done => exact host_readBody fits invariant at_pc
    | writeUsed => exact host_writeUsed fits invariant at_pc
    | readTx done => exact host_readTx fits invariant at_pc
    | compare => exact host_compare fits invariant at_pc
    | shutdown step => exact host_shutdown fits invariant at_pc
    | done | failed => simp only [System.hostStep, Host.access, at_pc, reduceCtorEq] at moved
  rcases keeps with ⟨next, performed, kept⟩
  have same : next = after := Option.some.inj (performed.symm.trans moved)
  exact same ▸ kept

end Invariant
end IrqShmem
end OpenAmpReference
