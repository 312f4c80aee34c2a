import OpenAmpReference.IrqShmem.Invariant

namespace OpenAmpReference
namespace IrqShmem

/-!
# The remote keeps the invariant

As for the host, each program counter has one lemma.  The remote's window
covers all three areas, so its accesses need no agreement between devices;
what it needs is that every body before the last differs from the shutdown
marker.
-/

namespace Remote

variable {layout : Layout} {traffic : Traffic layout.pkgsTotal}

/-! ## Control flow between accesses -/

/-- The remote has used and echoed so many messages and stands at the head of
its inner loop. -/
structure Reaches (layout : Layout) (traffic : Traffic layout.pkgsTotal) (remote : Remote)
    (avail messages : Nat) : Prop where
  ok : remote.Ok layout traffic avail
  progress : forall used,
    remote.progress layout.toConfig used = ⟨16 * messages, messages, messages, used⟩
  rxCount : remote.rxCount = messages

theorem drainLoop_reaches {remote : Remote} {avail : Nat}
    (walks : remote.Walks layout remote.rxCount remote.rxCount avail)
    (bounded : remote.rxCount ≤ layout.pkgsTotal) :
    remote.drainLoop.Reaches layout traffic avail remote.rxCount := by
  unfold drainLoop
  by_cases remaining : remote.rxCount ≠ remote.rxAvail
  · rw [if_pos remaining]
    refine ⟨⟨?_, ?_⟩, fun _ => rfl, rfl⟩
    · exact { walks with }
    · exact Nat.lt_of_le_of_ne walks.counted remaining
  · rw [if_neg remaining]
    refine ⟨⟨?_, ?_, ?_⟩, fun _ => rfl, rfl⟩
    · exact { walks with }
    · exact not_not.mp remaining
    · exact bounded

/-- The remote takes a message as the shutdown message exactly when it is. -/
theorem isShutdown_messageAt {remote : Remote} {k : Nat}
    (lbuf : remote.lbuf = traffic.messageAt k) (bounded : k ≤ layout.pkgsTotal) :
    remote.isShutdown = true ↔ k = layout.pkgsTotal := by
  have length : msgLen remote.lbuf = 8 := by rw [lbuf, traffic.msgLen_messageAt]
  have body : (remote.lbuf.drop sizeofMsgHdr).take shutdownBytes.length = traffic.body k := by
    rw [lbuf, Traffic.messageAt, message_body]
    exact List.take_of_length_le (Nat.le_of_eq (traffic.body_length k))
  rw [isShutdown, decide_eq_true_iff, body, length]
  constructor
  · intro marker
    exact (traffic.body_eq_shutdownBytes bounded).mp marker.2
  · intro last
    exact ⟨rfl, (traffic.body_eq_shutdownBytes bounded).mpr last⟩

/-! ## Echoing a message -/

/-- The address of the echo the remote is handing over. -/
theorem bufPhyAddr_eq (fits : layout.Fits) {remote : Remote} {k : Nat}
    (txData : remote.txDataOffset = layout.remotePayloadTxOffset + 16 * k)
    (bounded : k < layout.pkgsTotal) :
    remote.bufPhyAddr layout = layout.rToH.payload + 16 * k := by
  have areas := fits.areas
  have inside := fits.remoteTxInside
  have below := fits.below4GiB
  unfold bufPhyAddr
  rw [layout.remoteShmIo.phys_eq _ (by omega)]
  simp only [Layout.rToH]
  omega

theorem bufPhyAddr_good (fits : layout.Fits) {remote : Remote} {k : Nat}
    (txData : remote.txDataOffset = layout.remotePayloadTxOffset + 16 * k)
    (bounded : k < layout.pkgsTotal) : remote.bufPhyAddr layout ≠ metalBad32 := by
  have areas := fits.areas
  have inside := fits.remoteTxInside
  have below := fits.below4GiB
  rw [remote.bufPhyAddr_eq fits txData bounded]
  simp only [Layout.rToH, metalBad32]
  omega

/-- The three accesses before a kick advance the remote's direction by one
step. -/
theorem sendAccess_stores (fits : layout.Fits) {remote : Remote} {memory : ByteMemory}
    {step : SendStep} {k avail used : Nat} {hToR : Spsc.Progress}
    (walks : remote.Walks layout (k + 1) (step.slots k) avail) (within : step.Within)
    (count : remote.rxCount = k + 1) (bounded : k < layout.pkgsTotal)
    (lbuf : remote.lbuf = traffic.messageAt k) (running : step ≠ .kick)
    (streams : Streams layout traffic memory hToR (step.progress k used)) :
    Exists fun memory' =>
      (remote.sendAccess layout step).OnMemory ∧
      (remote.sendAccess layout step).onMemory layout memory = some (0, memory') ∧
      Streams layout traffic memory' hToR (step.after.progress k used) := by
  have areas := fits.areas
  have length : sizeofMsgHdr + msgLen remote.lbuf = 16 := by
    rw [lbuf, traffic.msgLen_messageAt, sizeofMsgHdr]
  have inside := fits.remoteTxInside
  have after := fits.txAfterDescriptors
  have txData := walks.txData
  have txAddr := walks.txAddr
  cases step with
  | writeMsg done =>
      have short : done ≤ 16 := within
      simp only [SendStep.slots] at txData
      by_cases more : done < 16
      · have covers : layout.remoteShmIo.Covers (remote.txDataOffset + done) 1 := by
          unfold IoRegion.Covers
          omega
        have stored : Streams layout traffic
            (memory.writeByte (layout.remoteShmIo.base + (remote.txDataOffset + done))
              (remote.lbuf.getD done 0)) hToR
            ((SendStep.writeMsg (done + 1)).progress k used) := by
          apply streams.storeByteRToH fits
          · simp only [SendStep.progress, SendStep.bytes, Layout.rToH]
            omega
          · rw [lbuf]
            exact (traffic.stream_of_message k more).symm
          · simp only [SendStep.progress, SendStep.bytes]
            omega
        rw [sendAccess, length, if_pos more, SendStep.after, if_pos more]
        exact ⟨_, trivial, if_pos covers, stored⟩
      · have finished : done = 16 := Nat.le_antisymm short (Nat.le_of_not_lt more)
        rw [sendAccess, length, if_neg more, SendStep.after, if_neg more]
        subst finished
        exact ⟨memory, trivial, rfl, streams⟩
  | writeAddr =>
      simp only [SendStep.slots] at txData txAddr
      have good := remote.bufPhyAddr_good fits txData bounded
      have covers : layout.remoteShmIo.Covers remote.txAddrOffset sizeofAddr := by
        simp only [IoRegion.Covers, sizeofAddr]
        omega
      have stored : Streams layout traffic
          (memory.writeWord (layout.remoteShmIo.base + remote.txAddrOffset)
            (remote.bufPhyAddr layout)) hToR
          (SendStep.writeAvail.progress k used) := by
        apply streams.storeSlotRToH fits
        · simp only [SendStep.progress, SendStep.slots, Layout.rToH]
          omega
        · exact remote.bufPhyAddr_eq fits txData bounded
        · exact Nat.lt_succ_of_lt bounded
      rw [sendAccess, if_neg good]
      exact ⟨_, trivial, if_pos covers, stored⟩
  | writeAvail =>
      have packets := fits.packets
      have covers : layout.remoteShmIo.Covers
          (layout.shmDescOffsetRToH + shmDescAvailOffset) sizeofAddr := by
        simp only [IoRegion.Covers, Config.shmDescOffsetRToH, shmDescAvailOffset, sizeofAddr]
        omega
      refine ⟨_, trivial, if_pos covers, ?_⟩
      rw [count]
      apply streams.storeAvailRToH fits
      · rfl
      · omega
  | kick => exact absurd rfl running

/-- Up to the kick, the echo goes through the steps in order. -/
theorem nextSend_after (fits : layout.Fits) {remote : Remote} {step : SendStep} {k avail : Nat}
    (running : step ≠ .kick) (walks : remote.Walks layout (k + 1) (step.slots k) avail)
    (bounded : k < layout.pkgsTotal) (lbuf : remote.lbuf = traffic.messageAt k) :
    (remote.nextSend layout step).pc = .send step.after ∧
    (remote.nextSend layout step).rxCount = remote.rxCount ∧
    (remote.nextSend layout step).lbuf = remote.lbuf ∧
    (remote.nextSend layout step).Walks layout (k + 1) (step.after.slots k) avail := by
  have length : msgLen remote.lbuf = 8 := by rw [lbuf, traffic.msgLen_messageAt]
  cases step with
  | writeMsg done =>
      have whole : sizeofMsgHdr + msgLen remote.lbuf = 16 := by rw [length, sizeofMsgHdr]
      rw [nextSend, whole, SendStep.after]
      by_cases more : done < 16
      · rw [if_pos more, if_pos more]
        exact ⟨rfl, rfl, rfl, { walks with }⟩
      · rw [if_neg more, if_neg more]
        exact ⟨rfl, rfl, rfl, { walks with }⟩
  | writeAddr =>
      have txAddr := walks.txAddr
      have txData := walks.txData
      simp only [SendStep.slots] at txAddr txData
      rw [nextSend, if_neg (remote.bufPhyAddr_good fits txData bounded)]
      refine ⟨rfl, rfl, rfl, walks.rxAddr, ?_, ?_, walks.counted, walks.published⟩
      · show Config.nextAddr remote.txAddrOffset = layout.shm0DescSize + 8 + 4 * (k + 1)
        rw [Config.nextAddr, sizeofAddr]
        omega
      · show Config.nextData remote.txDataOffset (msgLen remote.lbuf) =
          layout.remotePayloadTxOffset + 16 * (k + 1)
        rw [length, Config.nextData, sizeofMsgHdr]
        omega
  | writeAvail => exact ⟨rfl, rfl, rfl, { walks with }⟩
  | kick => exact absurd rfl running

end Remote

/-! ## One step -/

namespace Invariant

variable {layout : Layout} {traffic : Traffic layout.pkgsTotal} {system : System}

/-- The next step of the remote keeps the invariant, should it be enabled. -/
def RemoteKeeps (layout : Layout) (traffic : Traffic layout.pkgsTotal) (port : Port)
    (system : System) : Prop :=
  forall after, system.remoteStep layout port = some after -> Invariant layout traffic after

/-- What is left to show of a remote step once its access has been performed. -/
theorem remotePerforms (invariant : Invariant layout traffic system) {port : Port}
    {access : Access} {reply : Nat} {memory : ByteMemory}
    (here : system.remote.access layout = access) (kind : access.OnMemory)
    (performed : access.onMemory layout system.memory = some (reply, memory))
    {next : Remote} (computed : system.remote.next layout reply = next)
    (ok : next.Ok layout traffic (system.host.published layout.toConfig))
    (streams : Streams layout traffic memory (system.host.progress layout.toConfig next.rxCount)
      (next.progress layout.toConfig system.host.used))
    (grows : system.remote.published layout.toConfig ≤ next.published layout.toConfig)
    (consumed : traffic.firstMessages system.remote.rxCount ++ system.remote.consumes =
      traffic.firstMessages next.rxCount) :
    RemoteKeeps layout traffic port system := by
  intro after moved
  rw [System.remoteStep_onMemory kind here performed, computed] at moved
  have same := Option.some.inj moved
  subst same
  exact {
    host := invariant.host.mono grows
    remote := ok
    streams := streams
    sent := invariant.sent
    consumed := by rw [invariant.consumed, consumed]
    verified := invariant.verified }

/-- The remote moves on at the same progress, and only interrupts change. -/
theorem withRemote (invariant : Invariant layout traffic system) {next : Remote}
    (ok : next.Ok layout traffic (system.host.published layout.toConfig))
    (progress : forall used,
      next.progress layout.toConfig used = system.remote.progress layout.toConfig used)
    (rxCount : next.rxCount = system.remote.rxCount) (irq : Irq) :
    Invariant layout traffic { system with remote := next, irq := irq } := by
  have published : next.published layout.toConfig = system.remote.published layout.toConfig :=
    congrArg Spsc.Progress.avail (progress 0)
  constructor
  · exact published.symm ▸ invariant.host
  · exact ok
  · show Streams layout traffic system.memory
      (system.host.progress layout.toConfig next.rxCount)
      (next.progress layout.toConfig system.host.used)
    rw [progress, rxCount]
    exact invariant.streams
  · exact invariant.sent
  · exact rxCount.symm ▸ invariant.consumed
  · exact invariant.verified

/-- A step that stores nothing and enters nothing into the log. -/
theorem remoteComputes (invariant : Invariant layout traffic system) {port : Port}
    (access : Access) (reply : Nat) (next : Remote) (here : system.remote.access layout = access)
    (kind : access.OnMemory)
    (performed : access.onMemory layout system.memory = some (reply, system.memory))
    (computed : system.remote.next layout reply = next)
    (ok : next.Ok layout traffic (system.host.published layout.toConfig))
    (progress : forall used,
      next.progress layout.toConfig used = system.remote.progress layout.toConfig used)
    (rxCount : next.rxCount = system.remote.rxCount) (consumes : system.remote.consumes = []) :
    RemoteKeeps layout traffic port system := by
  have published : next.published layout.toConfig = system.remote.published layout.toConfig :=
    congrArg Spsc.Progress.avail (progress 0)
  apply invariant.remotePerforms here kind performed computed ok
  · rw [progress, rxCount]
    exact invariant.streams
  · exact Nat.le_of_eq published.symm
  · rw [consumes, List.append_nil, rxCount]

/-! ### Waiting -/

theorem remote_suspend (invariant : Invariant layout traffic system) {port : Port}
    (at_pc : system.remote.pc = .suspend) : RemoteKeeps layout traffic port system := by
  intro after moved
  have ok := invariant.remote
  simp only [Remote.Ok, at_pc] at ok
  simp only [System.remoteStep, Remote.access, at_pc, Option.some.injEq] at moved
  subst moved
  apply invariant.withRemote
  all_goals simp only [Remote.next, at_pc]
  · split
    · exact ⟨{ ok.1 with }, ok.2⟩
    · exact ⟨{ ok.1 with }, ok.2⟩
  · intro used
    split <;> simp only [Remote.progress, at_pc]
  · split <;> rfl

theorem remote_parked (invariant : Invariant layout traffic system) {port : Port}
    (at_pc : system.remote.pc = .parked) : RemoteKeeps layout traffic port system := by
  intro after moved
  have ok := invariant.remote
  simp only [Remote.Ok, at_pc] at ok
  simp only [System.remoteStep, Remote.access, at_pc] at moved
  cases returned : system.irq.parked port with
  | none => simp only [returned, reduceCtorEq] at moved
  | some reply =>
      simp only [returned, Option.some.injEq] at moved
      subst moved
      apply invariant.withRemote
      all_goals simp only [Remote.next, at_pc]
      · split
        · exact ⟨{ ok.1 with }, ok.2⟩
        · exact ⟨{ ok.1 with }, ok.2⟩
      · intro used
        split <;> simp only [Remote.progress, at_pc]
      · split <;> rfl

/-- The counter read is the number of messages published. -/
theorem remote_readAvail (fits : layout.Fits) (invariant : Invariant layout traffic system)
    {port : Port} (at_pc : system.remote.pc = .readAvail) :
    RemoteKeeps layout traffic port system := by
  have ok := invariant.remote
  simp only [Remote.Ok, at_pc] at ok
  rcases ok with ⟨walks, counted, bounded⟩
  have areas := fits.areas
  have inside := fits.remoteRxInside
  have after := fits.rxAfterDescriptors
  have covers : layout.remoteShmIo.Covers
      (layout.shmDescOffsetHToR + shmDescAvailOffset) sizeofAddr := by
    simp only [IoRegion.Covers, Config.shmDescOffsetHToR, shmDescAvailOffset, sizeofAddr]
    omega
  have counter : system.memory.readWord
      (layout.remoteShmIo.base + (layout.shmDescOffsetHToR + shmDescAvailOffset)) =
      system.host.published layout.toConfig :=
    invariant.streams.hToR.avail.trans (Host.progress_avail _ _ _)
  have reaches : ({ system.remote with
      rxAvail := system.host.published layout.toConfig }.drainLoop).Reaches layout traffic
      (system.host.published layout.toConfig) system.remote.rxCount := by
    apply Remote.drainLoop_reaches
    · exact {
        rxAddr := walks.rxAddr
        txAddr := walks.txAddr
        txData := walks.txData
        counted := Nat.le_trans walks.counted walks.published
        published := Nat.le_refl _ }
    · exact bounded
  refine invariant.remoteComputes
    (.readAvail .remoteShm (layout.shmDescOffsetHToR + shmDescAvailOffset))
    (system.host.published layout.toConfig) _ ?_ trivial ?_ ?_ reaches.ok ?_ reaches.rxCount ?_
  · simp only [Remote.access, at_pc]
  · simp only [Access.onMemory, Layout.region, if_pos covers, counter]
  · simp only [Remote.next, at_pc]
  · intro used
    rw [reaches.progress]
    simp only [Remote.progress, at_pc]
  · simp only [Remote.consumes, at_pc]

/-! ### Taking a message -/

theorem remote_readAddr (fits : layout.Fits) (invariant : Invariant layout traffic system)
    {port : Port} (at_pc : system.remote.pc = .readAddr) :
    RemoteKeeps layout traffic port system := by
  have ok := invariant.remote
  simp only [Remote.Ok, at_pc] at ok
  rcases ok with ⟨walks, pending⟩
  have published := walks.published
  have messages := invariant.host.published_le
  have areas := fits.areas
  have inside := fits.remoteRxInside
  have after := fits.rxAfterDescriptors
  have below := fits.below4GiB
  have rxAddr := walks.rxAddr
  have covers : layout.remoteShmIo.Covers system.remote.rxAddrOffset sizeofAddr := by
    simp only [IoRegion.Covers, sizeofAddr]
    omega
  have entry : system.memory.readWord
      (layout.remoteShmIo.base + system.remote.rxAddrOffset) =
      layout.remoteShmIo.base + (layout.remotePayloadRxOffset + 16 * system.remote.rxCount) := by
    have stored : system.remote.rxCount <
        (system.host.progress layout.toConfig system.remote.rxCount).slots := by
      have order := (system.host.progress_ordered layout.toConfig system.remote.rxCount).1
      rw [Host.progress_avail] at order
      omega
    have slot := invariant.streams.hToR.slot system.remote.rxCount stored
    simp only [Layout.hToR] at slot
    rw [rxAddr, ← Nat.add_assoc, slot, Nat.add_assoc]
  have offset : layout.remoteShmIo.metalIoPhysToOffset
      (layout.remoteShmIo.base + (layout.remotePayloadRxOffset + 16 * system.remote.rxCount)) =
      layout.remotePayloadRxOffset + 16 * system.remote.rxCount := by
    have inverse := layout.remoteShmIo.toOffset_phys
      (layout.remotePayloadRxOffset + 16 * system.remote.rxCount) (by omega)
    rwa [layout.remoteShmIo.phys_eq _ (by omega)] at inverse
  have good : layout.remotePayloadRxOffset + 16 * system.remote.rxCount ≠ metalBad32 := by
    unfold metalBad32
    omega
  apply invariant.remoteComputes (.readAddr .remoteShm system.remote.rxAddrOffset)
    (layout.remoteShmIo.base + (layout.remotePayloadRxOffset + 16 * system.remote.rxCount))
    { system.remote with
      rxDataOffset := layout.remotePayloadRxOffset + 16 * system.remote.rxCount
      rxAddrOffset := Config.nextAddr system.remote.rxAddrOffset
      lbuf := []
      pc := .readHdr 0 }
  · simp only [Remote.access, at_pc]
  · trivial
  · simp only [Access.onMemory, Layout.region, if_pos covers, entry]
  · simp only [Remote.next, at_pc, offset, if_neg good]
  · refine ⟨{ walks with rxAddr := ?_ }, pending, Nat.zero_le _, rfl, rfl⟩
    show Config.nextAddr system.remote.rxAddrOffset = 8 + 4 * (system.remote.rxCount + 1)
    rw [rxAddr, Config.nextAddr, sizeofAddr]
    omega
  · simp only [Remote.progress, at_pc, implies_true]
  · rfl
  · simp only [Remote.consumes, at_pc]

/-- A byte of the message as the host stored it. -/
theorem message_byte (fits : layout.Fits) (invariant : Invariant layout traffic system)
    (pending : system.remote.rxCount < system.host.published layout.toConfig) {done : Nat}
    (inside : done < 16) (offset : Nat)
    (here : offset = layout.remotePayloadRxOffset + 16 * system.remote.rxCount + done) :
    layout.remoteShmIo.Covers offset 1 ∧
      system.memory (layout.remoteShmIo.base + offset) =
        traffic.stream (16 * system.remote.rxCount + done) := by
  have messages := invariant.host.published_le
  have areas := fits.areas
  have room := fits.remoteRxInside
  constructor
  · unfold IoRegion.Covers
    omega
  · have order := system.host.progress_ordered layout.toConfig system.remote.rxCount
    rw [Host.progress_avail] at order
    have stored := invariant.streams.hToR.byte (16 * system.remote.rxCount + done) (by omega)
    rw [← stored]
    apply congrArg
    simp only [Layout.hToR]
    omega

theorem remote_readHdr (fits : layout.Fits) (invariant : Invariant layout traffic system)
    {port : Port} {done : Nat} (at_pc : system.remote.pc = .readHdr done) :
    RemoteKeeps layout traffic port system := by
  have ok := invariant.remote
  simp only [Remote.Ok, at_pc] at ok
  rcases ok with ⟨walks, pending, within, rxData, lbuf⟩
  have published := Nat.lt_of_lt_of_le pending walks.published
  by_cases more : done < 8
  · have inside : done < 16 := Nat.lt_of_lt_of_le more (by decide)
    rcases invariant.message_byte fits published inside _ (congrArg (· + done) rxData) with
      ⟨covers, byte⟩
    apply invariant.remoteComputes (.readByte .remoteShm (system.remote.rxDataOffset + done))
      (traffic.stream (16 * system.remote.rxCount + done)).toNat
      { system.remote with
        lbuf := (traffic.messageAt system.remote.rxCount).take (done + 1)
        pc := .readHdr (done + 1) }
    · simp only [Remote.access, at_pc]
      exact if_pos more
    · trivial
    · simp only [Access.onMemory, Layout.region, if_pos covers, byte]
    · simp only [Remote.next, at_pc, lbuf, UInt8.ofNat_toNat]
      rw [traffic.messageAt_take_succ system.remote.rxCount inside]
      exact if_pos more
    · exact ⟨{ walks with }, pending, more, rxData, rfl⟩
    · simp only [Remote.progress, at_pc, implies_true]
    · rfl
    · simp only [Remote.consumes, at_pc]
  · have whole : done = 8 := Nat.le_antisymm within (Nat.le_of_not_lt more)
    subst whole
    have length : msgLen system.remote.lbuf = 8 := by
      rw [lbuf, msgLen_take (Nat.le_refl 8), traffic.msgLen_messageAt]
    have short : ¬ msgLen system.remote.lbuf > bufSizeMax - sizeofMsgHdr := by
      rw [length]
      decide
    apply invariant.remoteComputes .compute 0
      { system.remote with
        rxDataOffset := system.remote.rxDataOffset + sizeofMsgHdr
        pc := .readBody 0 }
    · simp only [Remote.access, at_pc]
      exact if_neg more
    · trivial
    · rfl
    · simp only [Remote.next, at_pc, if_neg short]
      exact if_neg more
    · exact ⟨{ walks with }, pending, Nat.zero_le _, congrArg (· + 8) rxData, lbuf⟩
    · simp only [Remote.progress, at_pc, implies_true]
    · rfl
    · simp only [Remote.consumes, at_pc]

theorem remote_readBody (fits : layout.Fits) (invariant : Invariant layout traffic system)
    {port : Port} {done : Nat} (at_pc : system.remote.pc = .readBody done) :
    RemoteKeeps layout traffic port system := by
  have ok := invariant.remote
  simp only [Remote.Ok, at_pc] at ok
  rcases ok with ⟨walks, pending, within, rxData, lbuf⟩
  have published := Nat.lt_of_lt_of_le pending walks.published
  have length : msgLen system.remote.lbuf = 8 := by
    rw [lbuf, msgLen_take (Nat.le_add_right 8 done), traffic.msgLen_messageAt]
  by_cases more : done < 8
  · have inside : 8 + done < 16 := Nat.add_lt_add_left more 8
    rcases invariant.message_byte fits published inside (system.remote.rxDataOffset + done)
        (by omega) with ⟨covers, byte⟩
    apply invariant.remoteComputes (.readByte .remoteShm (system.remote.rxDataOffset + done))
      (traffic.stream (16 * system.remote.rxCount + (8 + done))).toNat
      { system.remote with
        lbuf := (traffic.messageAt system.remote.rxCount).take (8 + done + 1)
        pc := .readBody (done + 1) }
    · simp only [Remote.access, at_pc, length, if_pos more]
    · trivial
    · simp only [Access.onMemory, Layout.region, if_pos covers, byte]
    · simp only [Remote.next, at_pc, length, if_pos more, UInt8.ofNat_toNat]
      rw [lbuf, traffic.messageAt_take_succ system.remote.rxCount inside]
    · exact ⟨{ walks with }, pending, more, rxData, rfl⟩
    · simp only [Remote.progress, at_pc, implies_true]
    · rfl
    · simp only [Remote.consumes, at_pc]
  · have whole : done = 8 := Nat.le_antisymm within (Nat.le_of_not_lt more)
    subst whole
    apply invariant.remoteComputes .compute 0
      { system.remote with
        rxDataOffset := system.remote.rxDataOffset + 8
        pc := .writeUsed }
    · simp only [Remote.access, at_pc, length, if_neg more]
    · trivial
    · rfl
    · simp only [Remote.next, at_pc, length, if_neg more]
    · exact ⟨{ walks with }, pending, lbuf.trans (traffic.messageAt_take_all _)⟩
    · simp only [Remote.progress, at_pc, implies_true]
    · rfl
    · simp only [Remote.consumes, at_pc]

/-- Counting a message as used: the last one ends the demo, any other is
echoed. -/
theorem remote_writeUsed (fits : layout.Fits) (invariant : Invariant layout traffic system)
    {port : Port} (at_pc : system.remote.pc = .writeUsed) :
    RemoteKeeps layout traffic port system := by
  have ok := invariant.remote
  have streams := invariant.streams
  simp only [Remote.Ok, Remote.progress, at_pc] at ok streams
  rcases ok with ⟨walks, pending, lbuf⟩
  have published := walks.published
  have messages := invariant.host.published_le
  have packets := fits.packets
  have areas := fits.areas
  have inside := fits.remoteRxInside
  have after := fits.rxAfterDescriptors
  have bounded : system.remote.rxCount ≤ layout.pkgsTotal := by omega
  have covers : layout.remoteShmIo.Covers
      (layout.shmDescOffsetHToR + shmDescUsedOffset) sizeofAddr := by
    simp only [IoRegion.Covers, Config.shmDescOffsetHToR, shmDescUsedOffset, sizeofAddr]
    omega
  have advances : (system.remote.rxCount + 1) % 2 ^ 32 = system.remote.rxCount + 1 :=
    Nat.mod_eq_of_lt (by omega)
  have here : system.remote.access layout =
      .writeUsed .remoteShm (layout.shmDescOffsetHToR + shmDescUsedOffset)
        (system.remote.rxCount + 1) := by
    simp only [Remote.access, at_pc, advances]
  have place : layout.remoteShmIo.base + (layout.shmDescOffsetHToR + shmDescUsedOffset) =
      layout.hToR.descriptor + 4 := rfl
  have stored := streams.storeUsedHToR fits place
    (show system.remote.rxCount + 1 < 2 ^ 32 by omega)
  rw [Host.progress_withUsed] at stored
  have marker := Remote.isShutdown_messageAt lbuf bounded
  by_cases last : system.remote.rxCount = layout.pkgsTotal
  · have computed : system.remote.next layout 0 =
        { system.remote with rxCount := system.remote.rxCount + 1, pc := .done } := by
      simp only [Remote.next, at_pc, advances, marker.mpr last, if_true]
    apply invariant.remotePerforms here trivial (if_pos covers) computed
    · exact ⟨congrArg (· + 1) last, Nat.le_trans pending published⟩
    · simp only [Remote.progress, ← last]
      exact stored
    · simp only [Remote.published, Remote.progress, at_pc, last, Nat.le_refl]
    · simp only [Remote.consumes, at_pc, lbuf]
      exact (traffic.firstMessages_succ _).symm
  · have computed : system.remote.next layout 0 =
        { system.remote with rxCount := system.remote.rxCount + 1, pc := .send (.writeMsg 0) } := by
      have plain : system.remote.isShutdown = false :=
        Bool.eq_false_iff.mpr (fun found => last (marker.mp found))
      simp only [Remote.next, at_pc, advances, plain, Bool.false_eq_true, if_false]
    apply invariant.remotePerforms here trivial (if_pos covers) computed
    · refine ⟨⟨walks.rxAddr, walks.txAddr, walks.txData, pending, walks.published⟩,
        Nat.zero_le _, Nat.succ_pos _, ?_, lbuf⟩
      exact Nat.lt_of_le_of_ne bounded last
    · exact stored
    · simp only [Remote.published, Remote.progress, at_pc, SendStep.progress, SendStep.avail,
        Nat.add_sub_cancel, Nat.le_refl]
    · simp only [Remote.consumes, at_pc, lbuf]
      exact (traffic.firstMessages_succ _).symm

theorem remote_send (fits : layout.Fits) (invariant : Invariant layout traffic system)
    {port : Port} {step : SendStep} (at_pc : system.remote.pc = .send step) :
    RemoteKeeps layout traffic port system := by
  have ok := invariant.remote
  have streams := invariant.streams
  simp only [Remote.Ok, Remote.progress, at_pc] at ok streams
  rcases ok with ⟨walks, within, positive, bounded, lbuf⟩
  rcases Nat.exists_eq_succ_of_ne_zero (Nat.pos_iff_ne_zero.mp positive) with ⟨k, count⟩
  simp only [count, Nat.succ_eq_add_one, Nat.add_sub_cancel] at walks bounded lbuf streams
  have here : system.remote.access layout = system.remote.sendAccess layout step := by
    simp only [Remote.access, at_pc]
  have computed : forall reply, system.remote.next layout reply =
      system.remote.nextSend layout step := by
    intro reply
    simp only [Remote.next, at_pc]
  have consumes : system.remote.consumes = [] := by simp only [Remote.consumes, at_pc]
  by_cases running : step ≠ .kick
  · rcases Remote.nextSend_after fits running walks bounded lbuf with
      ⟨next_pc, next_count, next_lbuf, next_walks⟩
    rcases Remote.sendAccess_stores fits walks within count bounded lbuf running streams with
      ⟨memory, kind, performed, stored⟩
    apply invariant.remotePerforms here kind performed (computed 0)
    · simp only [Remote.Ok, next_pc, next_count, next_lbuf, count, Nat.succ_eq_add_one,
        Nat.add_sub_cancel]
      exact ⟨next_walks, within.after, Nat.succ_pos k, bounded, lbuf⟩
    · simp only [Remote.progress, next_pc, next_count, count, Nat.succ_eq_add_one,
        Nat.add_sub_cancel]
      exact stored
    · simp only [Remote.published, Remote.progress, next_pc, next_count, at_pc]
      exact SendStep.progress_avail_mono _ _ _
    · rw [consumes, List.append_nil, next_count]
  · have kicking : step = .kick := not_not.mp running
    subst kicking
    intro after moved
    have reaches : system.remote.drainLoop.Reaches layout traffic
        (system.host.published layout.toConfig) (k + 1) := by
      have drained : system.remote.drainLoop.Reaches layout traffic
          (system.host.published layout.toConfig) system.remote.rxCount := by
        apply Remote.drainLoop_reaches
        · exact count.symm ▸ walks
        · exact count.symm ▸ bounded
      rwa [count] at drained
    simp only [System.remoteStep, here, Remote.sendAccess, computed, Remote.nextSend,
      Option.some.injEq] at moved
    subst moved
    apply invariant.withRemote reaches.ok
    · intro used
      rw [reaches.progress]
      simp only [Remote.progress, at_pc, count, Nat.succ_eq_add_one, Nat.add_sub_cancel]
      rfl
    · exact reaches.rxCount.trans count.symm

/-! ### Every step -/

/-- Every step of the remote keeps the invariant. -/
theorem remoteStep_keeps (fits : layout.Fits) (invariant : Invariant layout traffic system)
    {port : Port} {after : System} (moved : system.remoteStep layout port = some after) :
    Invariant layout traffic after := by
  have keeps : RemoteKeeps layout traffic port system := by
    cases at_pc : system.remote.pc with
    | suspend => exact remote_suspend invariant at_pc
    | parked => exact remote_parked invariant at_pc
    | readAvail => exact remote_readAvail fits invariant at_pc
    | readAddr => exact remote_readAddr fits invariant at_pc
    | readHdr done => exact remote_readHdr fits invariant at_pc
    | readBody done => exact remote_readBody fits invariant at_pc
    | writeUsed => exact remote_writeUsed fits invariant at_pc
    | send step => exact remote_send fits invariant at_pc
    | done | failed => simp only [System.remoteStep, Remote.access, at_pc, reduceCtorEq] at moved
  exact keeps after moved

end Invariant
end IrqShmem
end OpenAmpReference
