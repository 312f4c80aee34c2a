import OpenAmpReference.Library.Fairness
import OpenAmpReference.IrqShmem.Echo
import OpenAmpReference.IrqShmem.Wakeup

namespace OpenAmpReference
namespace IrqShmem

/-!
# The echo comes to an end

That no message is corrupted and no wake-up lost does not say that the two
programs ever finish.  Here both facts are put together: on the bare-metal
port, whatever the order of moves, as long as neither program and neither
handler is left out for ever, both programs return from the demo, with every
packet verified.

The rank counts the work each program has left, and on top of it what a kick
under way and a clear flag still allow a waiting side to do: a look at its
counter that may show nothing new.
-/

/-! ## The work a program has left -/

namespace SendStep

/-- The accesses left of a handover. -/
def left : SendStep -> Nat
  | .writeMsg done => 20 - done
  | .writeAddr => 3
  | .writeAvail => 2
  | .kick => 1

end SendStep

namespace Host

/-- From the wait for echo number `i` on. -/
def verifying (config : Config) (i : Nat) : Nat := 60 * (config.pkgsTotal - i) + 40

/-- From the start of the send loop on. -/
def sending (config : Config) (i : Nat) : Nat :=
  40 * (config.pkgsTotal - i) + verifying config 0

/-- What is left at a program counter, while `i` counts the messages or echoes. -/
def workAt (config : Config) (i : Nat) : HostPc -> Nat
  | .clearPayload done =>
      (config.shmPayloadSize - done) + config.shm0DescSize + config.shm1DescSize + 23 +
        sending config 0
  | .clearHostToRemote done =>
      (config.shm0DescSize - done) + config.shm1DescSize + 22 + sending config 0
  | .clearRemoteToHost done => (config.shm1DescSize - done) + 21 + sending config 0
  | .send step => sending config i + step.left
  | .testAndSet | .yield => verifying config i
  | .readAvail => verifying config i + 2
  | .readAddr => verifying config i + 1
  | .readHdr done => verifying config (i + 1) + (58 - done)
  | .readBody done => verifying config (i + 1) + (49 - done)
  | .writeUsed => verifying config (i + 1) + 40
  | .readTx done => verifying config (i + 1) + (26 - done)
  | .compare => verifying config (i + 1) + 5
  | .shutdown step => 10 + step.left
  | .done | .failed => 0

def work (config : Config) (host : Host) : Nat := workAt config host.i host.pc

/-- A kick is paid for by the one who kicks. -/
def pays : HostPc -> Nat
  | .send .kick | .shutdown .kick => 10
  | _ => 1

theorem pays_pos (pc : HostPc) : 1 ≤ pays pc := by
  unfold pays
  split <;> decide

/-- Not about to look at the flag once more. -/
def Awake (host : Host) : Prop :=
  match host.pc with
  | .yield => False
  | _ => True

/-- A step by which the host gets on. -/
structure Advances (config : Config) (host next : Host) : Prop where
  work : next.work config + pays host.pc ≤ host.work config
  awake : next.Awake

theorem verifying_succ (config : Config) {i : Nat} (bounded : i < config.pkgsTotal) :
    verifying config i = verifying config (i + 1) + 60 := by
  unfold verifying
  omega

theorem sending_succ (config : Config) {i : Nat} (bounded : i < config.pkgsTotal) :
    sending config i = sending config (i + 1) + 40 := by
  unfold sending
  omega

theorem verifyLoop_work (config : Config) (host : Host) :
    (host.verifyLoop config).work config ≤ verifying config host.i ∧
      (host.verifyLoop config).Awake := by
  unfold verifyLoop
  split
  · exact ⟨Nat.le_refl _, trivial⟩
  · refine ⟨?_, trivial⟩
    simp only [work, workAt, SendStep.left, verifying]
    omega

theorem drainLoop_work (config : Config) (host : Host) :
    (host.drainLoop config).work config ≤ verifying config host.i + 1 ∧
      (host.drainLoop config).Awake := by
  unfold drainLoop
  split
  · exact ⟨Nat.le_refl _, trivial⟩
  · have verified := verifyLoop_work config host
    exact ⟨Nat.le_succ_of_le verified.1, verified.2⟩

theorem sendLoop_work (config : Config) (timestamps : Nat -> UInt64) (host : Host) :
    (host.sendLoop config timestamps).work config ≤ sending config host.i + 20 ∧
      (host.sendLoop config timestamps).Awake := by
  unfold sendLoop
  split
  · exact ⟨Nat.le_refl _, trivial⟩
  · have verified := verifyLoop_work config
      { host with i := 0, txDataOffset := config.hostHToRPayloadStart }
    refine ⟨Nat.le_trans verified.1 ?_, verified.2⟩
    show verifying config 0 ≤ sending config host.i + 20
    unfold sending
    omega

variable {layout : Layout} {traffic : Traffic layout.pkgsTotal} {host : Host} {avail : Nat}

/-- A step gets on when it pays for itself out of the work left. -/
theorem advances_of {config : Config} {next : Host} {pc : HostPc} (at_pc : host.pc = pc)
    (awake : next.Awake) (less : next.work config + pays pc ≤ workAt config host.i pc) :
    host.Advances config next where
  work := by
    rw [work.eq_1 config host, at_pc]
    exact less
  awake := awake

theorem clear_advances (clearing : host.Clearing) (reply : Nat) :
    host.Advances layout.toConfig (host.next layout traffic.timestamps reply) := by
  unfold Clearing at clearing
  unfold next
  cases at_pc : host.pc with
  | clearPayload done | clearHostToRemote done =>
      simp only
      split
      · refine advances_of at_pc trivial ?_
        simp only [work, workAt, pays]
        omega
      · refine advances_of at_pc trivial ?_
        simp only [work, workAt, pays]
        omega
  | clearRemoteToHost done =>
      simp only
      split
      · refine advances_of at_pc trivial ?_
        simp only [work, workAt, pays]
        omega
      · have entered := sendLoop_work layout.toConfig traffic.timestamps
          { host with
            i := 0
            txAddrOffset := layout.hostHToRDescAddrStart
            rxAddrOffset := layout.hostRToHDescAddrStart
            txDataOffset := layout.hostHToRPayloadStart
            rxDataOffset := layout.hostRToHPayloadStart }
        refine advances_of at_pc entered.2 (Nat.le_trans (Nat.add_le_add_right entered.1 _) ?_)
        simp only [workAt, pays]
        omega
  | send | testAndSet | yield | readAvail | readAddr | readHdr | readBody | writeUsed | readTx
  | compare | shutdown | done | failed => simp only [at_pc] at clearing

theorem send_advances {step : SendStep} (at_pc : host.pc = .send step)
    (ok : host.Ok layout traffic avail) (reply : Nat) :
    host.Advances layout.toConfig (host.next layout traffic.timestamps reply) := by
  have packets := traffic.packets
  simp only [Ok, at_pc] at ok
  rcases ok with ⟨sends, bounded, -⟩
  have length : msgLen host.txbuf = 8 := by
    rw [sends.txbuf, traffic.msgLen_messageAt]
  simp only [next, at_pc]
  cases step with
  | writeMsg done =>
      have within : done ≤ 16 := sends.within
      simp only [nextSend, length, sizeofMsgHdr]
      split
      · refine advances_of at_pc trivial ?_
        simp only [work, workAt, pays, SendStep.left]
        omega
      · refine advances_of at_pc trivial ?_
        simp only [work, workAt, pays, SendStep.left]
        omega
  | writeAddr =>
      simp only [nextSend]
      split
      · refine advances_of at_pc trivial ?_
        simp only [work, workAt, pays, fail, SendStep.left]
        omega
      · exact advances_of at_pc trivial (Nat.le_refl _)
  | writeAvail => exact advances_of at_pc trivial (Nat.le_refl _)
  | kick =>
      have entered := sendLoop_work layout.toConfig traffic.timestamps
        { host with i := (host.i + 1) % 2 ^ 32 }
      have following : (host.i + 1) % 2 ^ 32 = host.i + 1 := Nat.mod_eq_of_lt (by omega)
      have paid := sending_succ layout.toConfig bounded
      refine advances_of at_pc entered.2 (Nat.le_trans (Nat.add_le_add_right entered.1 _) ?_)
      simp only [following, workAt, pays, SendStep.left]
      omega

theorem shutdown_advances {step : SendStep} (at_pc : host.pc = .shutdown step)
    (ok : host.Ok layout traffic avail) (reply : Nat) :
    host.Advances layout.toConfig (host.next layout traffic.timestamps reply) := by
  simp only [Ok, at_pc] at ok
  rcases ok with ⟨sends, -, -⟩
  have length : msgLen host.txbuf = 8 := by
    rw [sends.txbuf, traffic.msgLen_messageAt]
  simp only [next, at_pc]
  cases step with
  | writeMsg done =>
      have within : done ≤ 16 := sends.within
      simp only [nextShutdown, length, sizeofMsgHdr]
      split
      · refine advances_of at_pc trivial ?_
        simp only [work, workAt, pays, SendStep.left]
        omega
      · refine advances_of at_pc trivial ?_
        simp only [work, workAt, pays, SendStep.left]
        omega
  | writeAddr =>
      simp only [nextShutdown]
      split
      · exact advances_of at_pc trivial (Nat.le_add_left _ _)
      · exact advances_of at_pc trivial (Nat.le_refl _)
  | writeAvail => exact advances_of at_pc trivial (Nat.le_refl _)
  | kick => exact advances_of at_pc trivial (Nat.le_succ _)

/-- The host is at work: it neither waits nor has it left its function. -/
def Working (host : Host) : Prop :=
  match host.pc with
  | .testAndSet | .yield | .done | .failed => False
  | _ => True

/-- Every access of a host at work gets it on, and every kick is paid for. -/
theorem next_advances (ok : host.Ok layout traffic avail) (echoes : avail ≤ layout.pkgsTotal)
    (working : host.Working) (reply : Nat) :
    host.Advances layout.toConfig (host.next layout traffic.timestamps reply) := by
  have packets := traffic.packets
  cases at_pc : host.pc with
  | testAndSet | yield | done | failed => simp only [Working, at_pc] at working
  | clearPayload done | clearHostToRemote done | clearRemoteToHost done =>
      apply clear_advances
      simp only [Clearing, at_pc]
  | send step => exact send_advances at_pc ok reply
  | shutdown step => exact shutdown_advances at_pc ok reply
  | readAvail =>
      have entered := drainLoop_work layout.toConfig { host with rxAvail := reply }
      simp only [next, at_pc]
      exact advances_of at_pc entered.2 (Nat.add_le_add_right entered.1 1)
  | readAddr =>
      simp only [Ok, at_pc] at ok
      have following := verifying_succ layout.toConfig
        (Nat.lt_of_lt_of_le ok.2 (Nat.le_trans ok.1.published echoes))
      simp only [next, at_pc]
      split
      · exact advances_of at_pc trivial (Nat.le_add_left _ _)
      · refine advances_of at_pc trivial ?_
        simp only [work, workAt, pays]
        omega
  | readHdr done =>
      simp only [Ok, at_pc] at ok
      have read : 1 ≤ workAt layout.toConfig host.i (.readHdr done) := by
        rw [workAt]
        omega
      simp only [next, at_pc]
      by_cases more : done < sizeofMsgHdr
      · rw [if_pos more]
        refine advances_of at_pc trivial ?_
        simp only [work, workAt, pays]
        omega
      · rw [if_neg more]
        split
        · exact advances_of at_pc trivial read
        · split
          · exact advances_of at_pc trivial read
          · refine advances_of at_pc trivial ?_
            simp only [work, workAt, pays]
            omega
  | readBody done =>
      simp only [Ok, at_pc] at ok
      simp only [next, at_pc]
      split
      · refine advances_of at_pc trivial ?_
        simp only [work, workAt, pays]
        omega
      · refine advances_of at_pc trivial ?_
        simp only [work, workAt, pays]
        omega
  | writeUsed =>
      simp only [next, at_pc]
      refine advances_of at_pc trivial ?_
      simp only [work, workAt, pays]
      omega
  | readTx done =>
      simp only [Ok, at_pc] at ok
      simp only [next, at_pc]
      split
      · refine advances_of at_pc trivial ?_
        simp only [work, workAt, pays]
        omega
      · refine advances_of at_pc trivial ?_
        simp only [work, workAt, pays]
        omega
  | compare =>
      simp only [Ok, at_pc] at ok
      have bounded := Nat.lt_of_lt_of_le ok.2.1 (Nat.le_trans ok.1.published echoes)
      have following : (host.i + 1) % 2 ^ 32 = host.i + 1 := Nat.mod_eq_of_lt (by omega)
      simp only [next, at_pc]
      split
      · have entered := drainLoop_work layout.toConfig
          { host with i := (host.i + 1) % 2 ^ 32 }
        refine advances_of at_pc entered.2 (Nat.le_trans (Nat.add_le_add_right entered.1 _) ?_)
        simp only [following, workAt, pays]
        omega
      · refine advances_of at_pc trivial ?_
        simp only [work, workAt, pays, fail]
        omega

end Host
namespace Remote

/-- From the wait for message number `received` on, the shutdown message included. -/
def receiving (config : Config) (received : Nat) : Nat := 80 * (config.pkgsTotal + 1 - received)

/-- What is left at a program counter, when `received` messages are counted as used. -/
def workAt (config : Config) (received : Nat) : RemotePc -> Nat
  | .suspend | .parked => receiving config received
  | .readAvail => receiving config received + 2
  | .readAddr => receiving config received + 1
  | .readHdr done => receiving config (received + 1) + (68 - done)
  | .readBody done => receiving config (received + 1) + (58 - done)
  | .writeUsed => receiving config (received + 1) + 45
  | .send step => receiving config received + 12 + step.left
  | .done | .failed => 0

def work (config : Config) (remote : Remote) : Nat := workAt config remote.rxCount remote.pc

def pays : RemotePc -> Nat
  | .send .kick => 10
  | _ => 1

theorem pays_pos (pc : RemotePc) : 1 ≤ pays pc := by
  unfold pays
  split <;> decide

/-- Not about to look at the flag once more. -/
def Awake (remote : Remote) : Prop :=
  match remote.pc with
  | .parked => False
  | _ => True

/-- A step by which the remote gets on. -/
structure Advances (config : Config) (remote next : Remote) : Prop where
  work : next.work config + pays remote.pc ≤ remote.work config
  awake : next.Awake

theorem receiving_succ (config : Config) {received : Nat} (bounded : received ≤ config.pkgsTotal) :
    receiving config received = receiving config (received + 1) + 80 := by
  unfold receiving
  omega

theorem drainLoop_work (config : Config) (remote : Remote) :
    remote.drainLoop.work config ≤ receiving config remote.rxCount + 1 ∧
      remote.drainLoop.Awake := by
  unfold drainLoop
  split
  · exact ⟨Nat.le_refl _, trivial⟩
  · exact ⟨Nat.le_succ _, trivial⟩

variable {layout : Layout} {traffic : Traffic layout.pkgsTotal} {remote : Remote} {avail : Nat}

theorem advances_of {config : Config} {next : Remote} {pc : RemotePc} (at_pc : remote.pc = pc)
    (awake : next.Awake) (less : next.work config + pays pc ≤ workAt config remote.rxCount pc) :
    remote.Advances config next where
  work := by
    rw [work.eq_1 config remote, at_pc]
    exact less
  awake := awake

theorem send_advances {step : SendStep} (at_pc : remote.pc = .send step)
    (ok : remote.Ok layout traffic avail) (reply : Nat) :
    remote.Advances layout.toConfig (remote.next layout reply) := by
  simp only [Ok, at_pc] at ok
  rcases ok with ⟨-, within, -, -, lbuf⟩
  have length : msgLen remote.lbuf = 8 := by
    rw [lbuf, traffic.msgLen_messageAt]
  simp only [next, at_pc]
  cases step with
  | writeMsg done =>
      have within : done ≤ 16 := within
      simp only [nextSend, length, sizeofMsgHdr]
      split
      · refine advances_of at_pc trivial ?_
        simp only [work, workAt, pays, SendStep.left]
        omega
      · refine advances_of at_pc trivial ?_
        simp only [work, workAt, pays, SendStep.left]
        omega
  | writeAddr =>
      simp only [nextSend]
      split
      · exact advances_of at_pc trivial (Nat.le_add_left _ _)
      · exact advances_of at_pc trivial (Nat.le_refl _)
  | writeAvail => exact advances_of at_pc trivial (Nat.le_refl _)
  | kick =>
      have entered := drainLoop_work layout.toConfig remote
      refine advances_of at_pc entered.2 (Nat.le_trans (Nat.add_le_add_right entered.1 _) ?_)
      simp only [workAt, pays, SendStep.left]
      omega

/-- The remote is at work: it neither waits nor has it left its function. -/
def Working (remote : Remote) : Prop :=
  match remote.pc with
  | .suspend | .parked | .done | .failed => False
  | _ => True

theorem next_advances (ok : remote.Ok layout traffic avail)
    (published : avail ≤ layout.pkgsTotal + 1) (working : remote.Working) (reply : Nat) :
    remote.Advances layout.toConfig (remote.next layout reply) := by
  have packets := traffic.packets
  cases at_pc : remote.pc with
  | suspend | parked | done | failed => simp only [Working, at_pc] at working
  | send step => exact send_advances at_pc ok reply
  | readAvail =>
      have entered := drainLoop_work layout.toConfig { remote with rxAvail := reply }
      simp only [next, at_pc]
      exact advances_of at_pc entered.2 (Nat.add_le_add_right entered.1 1)
  | readAddr =>
      simp only [Ok, at_pc] at ok
      have bounded := Nat.lt_of_lt_of_le ok.2 (Nat.le_trans ok.1.published published)
      have following := receiving_succ layout.toConfig (Nat.le_of_lt_succ bounded)
      simp only [next, at_pc]
      split
      · exact advances_of at_pc trivial (Nat.le_add_left _ _)
      · refine advances_of at_pc trivial ?_
        simp only [work, workAt, pays]
        omega
  | readHdr done =>
      simp only [Ok, at_pc] at ok
      have read : 1 ≤ workAt layout.toConfig remote.rxCount (.readHdr done) := by
        rw [workAt]
        omega
      simp only [next, at_pc]
      by_cases more : done < sizeofMsgHdr
      · rw [if_pos more]
        refine advances_of at_pc trivial ?_
        simp only [work, workAt, pays]
        omega
      · rw [if_neg more]
        split
        · exact advances_of at_pc trivial read
        · refine advances_of at_pc trivial ?_
          simp only [work, workAt, pays]
          omega
  | readBody done =>
      simp only [Ok, at_pc] at ok
      simp only [next, at_pc]
      split
      · refine advances_of at_pc trivial ?_
        simp only [work, workAt, pays]
        omega
      · refine advances_of at_pc trivial ?_
        simp only [work, workAt, pays]
        omega
  | writeUsed =>
      simp only [Ok, at_pc] at ok
      have bounded := Nat.lt_of_lt_of_le ok.2.1 (Nat.le_trans ok.1.published published)
      have following : (remote.rxCount + 1) % 2 ^ 32 = remote.rxCount + 1 :=
        Nat.mod_eq_of_lt (by omega)
      simp only [next, at_pc, following]
      split
      · exact advances_of at_pc trivial (Nat.le_add_left _ _)
      · refine advances_of at_pc trivial ?_
        simp only [work, workAt, pays, SendStep.left]
        omega

end Remote

/-! ## What a step changes -/

namespace System

variable {layout : Layout} {timestamps : Nat -> UInt64} {system after : System}

/-- An access that goes to memory either reads something and computes on, or is refused. -/
theorem hostStep_access (kind : (system.host.access layout).OnMemory)
    (moved : system.hostStep layout timestamps = some after)
    (survives : after.host.pc ≠ .failed) :
    Exists fun reply => Exists fun memory =>
      (system.host.access layout).onMemory layout system.memory = some (reply, memory) ∧
      after = { system with
        host := system.host.next layout timestamps reply
        memory := memory
        sent := system.sent ++ system.host.publishes
        verified := system.verified ++ system.host.verifies } := by
  cases performed : (system.host.access layout).onMemory layout system.memory with
  | none =>
      have failed : after.host = system.host.fail := by
        unfold hostStep at moved
        cases here : system.host.access layout with
        | irqKick | testAndSetNkicked | systemSuspend | parked | exit =>
            rw [here] at kind
            exact absurd kind id
        | setByte | readByte | writeByte | readAddr | writeAddr | readAvail | writeAvail
        | writeUsed | compute =>
            simp only [here] at moved performed
            simp only [performed, Option.some.injEq] at moved
            rw [← moved]
      exact absurd (congrArg Host.pc failed) survives
  | some result =>
      rw [hostStep_onMemory kind rfl performed] at moved
      exact ⟨result.1, result.2, rfl, (Option.some.inj moved).symm⟩

theorem remoteStep_access {port : Port} (kind : (system.remote.access layout).OnMemory)
    (moved : system.remoteStep layout port = some after)
    (survives : after.remote.pc ≠ .failed) :
    Exists fun reply => Exists fun memory =>
      (system.remote.access layout).onMemory layout system.memory = some (reply, memory) ∧
      after = { system with
        remote := system.remote.next layout reply
        memory := memory
        consumed := system.consumed ++ system.remote.consumes } := by
  cases performed : (system.remote.access layout).onMemory layout system.memory with
  | none =>
      have failed : after.remote = system.remote.fail := by
        unfold remoteStep at moved
        cases here : system.remote.access layout with
        | irqKick | testAndSetNkicked | systemSuspend | parked | exit =>
            rw [here] at kind
            exact absurd kind id
        | setByte | readByte | writeByte | readAddr | writeAddr | readAvail | writeAvail
        | writeUsed | compute =>
            simp only [here] at moved performed
            simp only [performed, Option.some.injEq] at moved
            rw [← moved]
      exact absurd (congrArg Remote.pc failed) survives
  | some result =>
      rw [remoteStep_onMemory kind rfl performed] at moved
      exact ⟨result.1, result.2, rfl, (Option.some.inj moved).symm⟩

end System

/-! ## The two counters as the programs know them -/

theorem Access.Private.onMemory {access : Access} (kind : access.Private) : access.OnMemory := by
  cases access with
  | irqKick | testAndSetNkicked | systemSuspend | parked | exit | readAvail | writeAvail =>
      exact absurd kind id
  | setByte | readByte | writeByte | readAddr | writeAddr | writeUsed | compute => trivial

namespace Host

variable {layout : Layout} {traffic : Traffic layout.pkgsTotal} {host : Host} {avail : Nat}

theorem publishes_of_private (kind : (host.access layout).Private) : host.publishes = [] := by
  unfold publishes
  cases at_pc : host.pc with
  | send step | shutdown step =>
      cases step with
      | writeAvail =>
          simp only [access, at_pc, sendAccess, Access.Private] at kind
      | writeMsg | writeAddr | kick => rfl
  | clearPayload | clearHostToRemote | clearRemoteToHost | testAndSet | yield | readAvail
  | readAddr | readHdr | readBody | writeUsed | readTx | compare | done | failed => rfl

/-- The number the host writes is the number of messages it has then published. -/
theorem published_written (ok : host.Ok layout traffic avail) {window : Window}
    {offset value : Nat} (here : host.access layout = .writeAvail window offset value)
    (reply : Nat) :
    (host.next layout traffic.timestamps reply).published layout.toConfig = value := by
  have packets := traffic.packets
  cases at_pc : host.pc with
  | send step =>
      simp only [Ok, at_pc] at ok
      cases step with
      | writeAvail =>
          simp only [access, at_pc, sendAccess, Access.writeAvail.injEq] at here
          simp only [next, at_pc, nextSend, published, progress, SendStep.progress,
            SendStep.avail]
          rw [← here.2.2, Nat.mod_eq_of_lt (by omega)]
      | writeMsg | writeAddr =>
          simp only [access, at_pc, sendAccess] at here
          split at here
          · simp only [reduceCtorEq] at here
          · simp only [reduceCtorEq] at here
      | kick => simp only [access, at_pc, sendAccess, reduceCtorEq] at here
  | shutdown step =>
      simp only [Ok, at_pc] at ok
      cases step with
      | writeAvail =>
          simp only [access, at_pc, sendAccess, Access.writeAvail.injEq] at here
          simp only [next, at_pc, nextShutdown, published, progress, SendStep.progress,
            SendStep.avail]
          rw [← here.2.2, ok.2.1, Nat.mod_eq_of_lt (by omega)]
      | writeMsg | writeAddr =>
          simp only [access, at_pc, sendAccess] at here
          split at here
          · simp only [reduceCtorEq] at here
          · simp only [reduceCtorEq] at here
      | kick => simp only [access, at_pc, sendAccess, reduceCtorEq] at here
  | clearPayload | clearHostToRemote | clearRemoteToHost | readHdr | readBody | readTx =>
      simp only [access, at_pc] at here
      split at here
      · simp only [reduceCtorEq] at here
      · simp only [reduceCtorEq] at here
  | testAndSet | yield | readAvail | readAddr | writeUsed | compare | done | failed =>
      simp only [access, at_pc, reduceCtorEq] at here

end Host

namespace Remote

variable {layout : Layout} {traffic : Traffic layout.pkgsTotal} {remote : Remote} {avail : Nat}

/-- The number the remote writes is the number of echoes it has then published. -/
theorem published_written (ok : remote.Ok layout traffic avail) {window : Window}
    {offset value : Nat} (here : remote.access layout = .writeAvail window offset value)
    (reply : Nat) : (remote.next layout reply).published layout.toConfig = value := by
  cases at_pc : remote.pc with
  | send step =>
      simp only [Ok, at_pc] at ok
      cases step with
      | writeAvail =>
          simp only [access, at_pc, sendAccess, Access.writeAvail.injEq] at here
          simp only [next, at_pc, nextSend, published, progress, SendStep.progress,
            SendStep.avail]
          omega
      | writeMsg | writeAddr =>
          simp only [access, at_pc, sendAccess] at here
          split at here
          · simp only [reduceCtorEq] at here
          · simp only [reduceCtorEq] at here
      | kick => simp only [access, at_pc, sendAccess, reduceCtorEq] at here
  | readHdr | readBody =>
      simp only [access, at_pc] at here
      split at here
      · simp only [reduceCtorEq] at here
      · simp only [reduceCtorEq] at here
  | suspend | parked | readAvail | readAddr | writeUsed | done | failed =>
      simp only [access, at_pc, reduceCtorEq] at here

theorem drainLoop_published {config : Config} (remote : Remote) :
    remote.drainLoop.published config = remote.rxCount := by
  unfold drainLoop
  split <;> rfl

/-- Where no echo is being handed over, one is published for every message used. -/
theorem published_of_pc {config : Config} (outside : forall step, remote.pc ≠ .send step)
    (running : remote.pc ≠ .done) (survives : remote.pc ≠ .failed) :
    remote.published config = remote.rxCount := by
  unfold published progress
  cases at_pc : remote.pc with
  | suspend | parked | readAvail | readAddr | readHdr | readBody | writeUsed => rfl
  | send step => exact absurd at_pc (outside step)
  | done => exact absurd at_pc running
  | failed => exact absurd at_pc survives

/-- No other access publishes anything. -/
theorem next_published (ok : remote.Ok layout traffic avail)
    (published : avail ≤ layout.pkgsTotal + 1) (reply : Nat)
    (survives : (remote.next layout reply).pc ≠ .failed)
    (elsewhere : remote.pc ≠ .send .writeAvail)
    (last : (remote.next layout reply).pc = .done ->
      (remote.next layout reply).rxCount = layout.pkgsTotal + 1) :
    (remote.next layout reply).published layout.toConfig = remote.published layout.toConfig := by
  have packets := traffic.packets
  cases at_pc : remote.pc with
  | suspend | parked =>
      have before : remote.published layout.toConfig = remote.rxCount := by
        apply published_of_pc <;> simp only [at_pc, ne_eq, reduceCtorEq, not_false_eq_true,
          implies_true]
      rw [before]
      simp only [next, at_pc]
      split <;> rfl
  | readAvail =>
      have before : remote.published layout.toConfig = remote.rxCount := by
        apply published_of_pc <;> simp only [at_pc, ne_eq, reduceCtorEq, not_false_eq_true,
          implies_true]
      rw [before]
      simp only [next, at_pc]
      exact drainLoop_published _
  | readAddr =>
      have before : remote.published layout.toConfig = remote.rxCount := by
        apply published_of_pc <;> simp only [at_pc, ne_eq, reduceCtorEq, not_false_eq_true,
          implies_true]
      rw [before]
      simp only [next, at_pc] at survives ⊢
      by_cases bad : layout.remoteShmIo.metalIoPhysToOffset reply = metalBad32
      · rw [if_pos bad] at survives
        exact absurd rfl survives
      · rw [if_neg bad]
        rfl
  | readBody done =>
      have before : remote.published layout.toConfig = remote.rxCount := by
        apply published_of_pc <;> simp only [at_pc, ne_eq, reduceCtorEq, not_false_eq_true,
          implies_true]
      rw [before]
      simp only [next, at_pc]
      split <;> rfl
  | readHdr done =>
      have before : remote.published layout.toConfig = remote.rxCount := by
        apply published_of_pc <;> simp only [at_pc, ne_eq, reduceCtorEq, not_false_eq_true,
          implies_true]
      rw [before]
      simp only [next, at_pc] at survives ⊢
      by_cases more : done < sizeofMsgHdr
      · rw [if_pos more]
        rfl
      · rw [if_neg more] at survives ⊢
        by_cases long : msgLen remote.lbuf > bufSizeMax - sizeofMsgHdr
        · rw [if_pos long] at survives
          exact absurd rfl survives
        · rw [if_neg long]
          rfl
  | writeUsed =>
      have before : remote.published layout.toConfig = remote.rxCount := by
        apply published_of_pc <;> simp only [at_pc, ne_eq, reduceCtorEq, not_false_eq_true,
          implies_true]
      simp only [Ok, at_pc] at ok
      have bounded := Nat.lt_of_lt_of_le ok.2.1 (Nat.le_trans ok.1.published published)
      have following : (remote.rxCount + 1) % 2 ^ 32 = remote.rxCount + 1 :=
        Nat.mod_eq_of_lt (by omega)
      rw [before]
      simp only [next, at_pc, following] at last ⊢
      by_cases stops : remote.isShutdown = true
      · rw [if_pos stops] at last ⊢
        have count : remote.rxCount + 1 = layout.pkgsTotal + 1 := last rfl
        exact (Nat.succ.inj count).symm
      · rw [if_neg stops]
        rfl
  | send step =>
      have before : remote.published layout.toConfig =
          (step.progress (remote.rxCount - 1) 0).avail := by
        simp only [Remote.published, progress, at_pc]
      simp only [Ok, at_pc] at ok
      rw [before]
      simp only [next, at_pc] at survives ⊢
      cases step with
      | writeMsg done =>
          simp only [nextSend]
          split <;> rfl
      | writeAddr =>
          simp only [nextSend] at survives ⊢
          by_cases bad : remote.bufPhyAddr layout = metalBad32
          · rw [if_pos bad] at survives
            exact absurd rfl survives
          · rw [if_neg bad]
            rfl
      | writeAvail => exact absurd at_pc elsewhere
      | kick =>
          rw [nextSend, drainLoop_published]
          show remote.rxCount = remote.rxCount - 1 + 1
          omega
  | done | failed => simp only [next, at_pc]

end Remote

/-! ## A run of the system is a run of the channel -/

namespace System

/-- The two programs, the interrupts and the two counters of a system. -/
def toChannel (layout : Layout) (system : System) : Channel where
  host := system.host
  remote := system.remote
  irq := system.irq
  h2rAvail := system.host.published layout.toConfig
  r2hAvail := system.remote.published layout.toConfig

variable {layout : Layout} {traffic : Traffic layout.pkgsTotal} {system after : System}

theorem published_eq_sent (invariant : Invariant layout traffic system) :
    system.host.published layout.toConfig = system.sent.length := by
  rw [invariant.sent, traffic.firstMessages_length]

/-- What one side reads of the other's counter is what the other has published. -/
theorem host_reads (fits : layout.Fits) (invariant : Invariant layout traffic system)
    (at_pc : system.host.pc = .readAvail) {reply : Nat} {memory : ByteMemory}
    (performed : (system.host.access layout).onMemory layout system.memory =
      some (reply, memory)) : reply = system.remote.published layout.toConfig := by
  simp only [Host.access, at_pc, Access.onMemory, Option.ite_none_right_eq_some,
    Option.some.injEq, Prod.mk.injEq] at performed
  rw [← performed.2.1]
  exact (invariant.counters fits).2.2.1

theorem remote_reads (fits : layout.Fits) (invariant : Invariant layout traffic system)
    (at_pc : system.remote.pc = .readAvail) {reply : Nat} {memory : ByteMemory}
    (performed : (system.remote.access layout).onMemory layout system.memory =
      some (reply, memory)) : reply = system.host.published layout.toConfig := by
  simp only [Remote.access, at_pc, Access.onMemory, Option.ite_none_right_eq_some,
    Option.some.injEq, Prod.mk.injEq] at performed
  have counter := (invariant.counters fits).1
  unfold System.h2rAvail at counter
  rw [fits.sameDescriptor0] at counter
  rw [← performed.2.1, ← counter]
  rfl

theorem hostStep_toChannel (fits : layout.Fits) (invariant : Invariant layout traffic system)
    (kept : Invariant layout traffic after)
    (moved : system.hostStep layout traffic.timestamps = some after) :
    Exists fun reply => (system.toChannel layout).hostStep layout traffic.timestamps reply =
      some (after.toChannel layout) := by
  have survives : after.host.pc ≠ .failed := (kept.echoCorrect fits).hostRuns
  cases system.host.turn layout with
  | test at_pc here =>
      simp only [hostStep, here, Option.some.injEq] at moved
      subst moved
      have published := (published_eq_sent kept).trans (published_eq_sent invariant).symm
      refine ⟨none, ?_⟩
      simp only [Channel.hostStep, toChannel, here, published]
  | kick kicking here elsewhere =>
      simp only [hostStep, here, Option.some.injEq] at moved
      subst moved
      have published := (published_eq_sent kept).trans (published_eq_sent invariant).symm
      refine ⟨none, ?_⟩
      simp only [Channel.hostStep, toChannel, here, published]
  | read at_pc window offset here =>
      rcases hostStep_access (here ▸ trivial) moved survives with
        ⟨reply, memory, performed, same⟩
      have value := host_reads fits invariant at_pc performed
      have nothing : system.host.publishes = [] := by simp only [Host.publishes, at_pc]
      subst same
      have published := (published_eq_sent kept).trans
        ((congrArg List.length (by rw [nothing, List.append_nil])).trans
          (published_eq_sent invariant).symm)
      refine ⟨some 0, ?_⟩
      simp only [value] at published
      simp only [Channel.hostStep, toChannel, here, value, published]
  | publish window offset value here elsewhere quiet kicking =>
      rcases hostStep_access (here ▸ trivial) moved survives with
        ⟨reply, memory, performed, same⟩
      have zero : reply = 0 := by
        simp only [here, Access.onMemory, Option.ite_none_right_eq_some, Option.some.injEq,
          Prod.mk.injEq] at performed
        exact performed.2.1.symm
      have written := Host.published_written invariant.host here 0
      subst same
      refine ⟨some 0, ?_⟩
      simp only [Channel.hostStep, toChannel, here, zero, written]
  | finish here => simp only [hostStep, here, reduceCtorEq] at moved
  | other kind elsewhere quiet =>
      rcases hostStep_access kind.onMemory moved survives with ⟨reply, memory, performed, same⟩
      have nothing := Host.publishes_of_private kind
      subst same
      have published := (published_eq_sent kept).trans
        ((congrArg List.length (by rw [nothing, List.append_nil])).trans
          (published_eq_sent invariant).symm)
      refine ⟨some reply, ?_⟩
      rw [Channel.hostStep_private
        (show ((system.toChannel layout).host.access layout).Private from kind)]
      simp only [toChannel, published]

theorem remoteStep_toChannel (fits : layout.Fits) (invariant : Invariant layout traffic system)
    (kept : Invariant layout traffic after)
    (moved : system.remoteStep layout .generic = some after) :
    Exists fun reply => (system.toChannel layout).remoteStep layout .generic reply =
      some (after.toChannel layout) := by
  have correct := kept.echoCorrect fits
  have survives : after.remote.pc ≠ .failed := correct.remoteRuns
  have bounded := invariant.host.published_le
  have last : after.remote.pc = .done -> after.remote.rxCount = layout.pkgsTotal + 1 := by
    intro ended
    have ok := kept.remote
    simp only [Remote.Ok, ended] at ok
    exact ok.1
  have unpublished : forall reply, after.remote = system.remote.next layout reply ->
      system.remote.pc ≠ .send .writeAvail ->
      after.remote.published layout.toConfig = system.remote.published layout.toConfig := by
    intro reply computed elsewhere
    rw [computed] at survives last ⊢
    exact Remote.next_published invariant.remote bounded reply survives elsewhere last
  cases system.remote.turn layout with
  | suspend at_pc here =>
      simp only [remoteStep, here, Option.some.injEq] at moved
      subst moved
      have published := unpublished _ rfl (by simp only [at_pc, ne_eq, reduceCtorEq,
        not_false_eq_true])
      refine ⟨none, ?_⟩
      simp only [Channel.remoteStep, toChannel, here, published]
  | wait at_pc here =>
      simp only [remoteStep, here, Irq.parked, Option.some.injEq] at moved
      subst moved
      have published := unpublished _ rfl (by simp only [at_pc, ne_eq, reduceCtorEq,
        not_false_eq_true])
      refine ⟨none, ?_⟩
      simp only [Channel.remoteStep, toChannel, here, Irq.parked, published]
  | kick kicking here elsewhere =>
      simp only [remoteStep, here, Option.some.injEq] at moved
      subst moved
      have kicks : system.remote.pc = .send .kick := kicking
      have published := unpublished _ rfl (by simp only [kicks, ne_eq, RemotePc.send.injEq,
        reduceCtorEq, not_false_eq_true])
      refine ⟨none, ?_⟩
      simp only [Channel.remoteStep, toChannel, here, published]
  | read at_pc window offset here =>
      rcases remoteStep_access (here ▸ trivial) moved survives with
        ⟨reply, memory, performed, same⟩
      have value := remote_reads fits invariant at_pc performed
      have published := unpublished reply (congrArg System.remote same)
        (by simp only [at_pc, ne_eq, reduceCtorEq, not_false_eq_true])
      subst same
      refine ⟨some 0, ?_⟩
      simp only [value] at published
      simp only [Channel.remoteStep, toChannel, here, value, published]
  | publish window offset value here elsewhere quiet kicking =>
      rcases remoteStep_access (here ▸ trivial) moved survives with
        ⟨reply, memory, performed, same⟩
      have zero : reply = 0 := by
        simp only [here, Access.onMemory, Option.ite_none_right_eq_some, Option.some.injEq,
          Prod.mk.injEq] at performed
        exact performed.2.1.symm
      have written := Remote.published_written invariant.remote here 0
      subst same
      refine ⟨some 0, ?_⟩
      simp only [Channel.remoteStep, toChannel, here, zero, written]
  | finish here => simp only [remoteStep, here, reduceCtorEq] at moved
  | other kind elsewhere quiet awake =>
      rcases remoteStep_access kind.onMemory moved survives with ⟨reply, memory, performed, same⟩
      have notPublishing : system.remote.pc ≠ .send .writeAvail := by
        intro at_pc
        simp only [Remote.access, at_pc, Remote.sendAccess, Access.Private] at kind
      have published := unpublished reply (congrArg System.remote same) notPublishing
      subst same
      refine ⟨some reply, ?_⟩
      rw [Channel.remoteStep_private
        (show ((system.toChannel layout).remote.access layout).Private from kind)]
      simp only [toChannel, published]

/-- Every step of the system is a step of the channel. -/
theorem step_toChannel (fits : layout.Fits) {actor : Actor}
    (invariant : Invariant layout traffic system)
    (moved : system.step layout traffic.timestamps .generic actor = some after) :
    Exists fun move => (system.toChannel layout).step layout traffic.timestamps .generic move =
      some (after.toChannel layout) := by
  have kept := invariant.step_keeps fits moved
  cases actor with
  | host =>
      rcases hostStep_toChannel fits invariant kept moved with ⟨reply, performed⟩
      exact ⟨.host reply, performed⟩
  | remote =>
      rcases remoteStep_toChannel fits invariant kept moved with ⟨reply, performed⟩
      exact ⟨.remote reply, performed⟩
  | remoteIsr => exact ⟨.remoteIsr, Option.some.inj moved ▸ rfl⟩
  | hostIsr => exact ⟨.hostIsr, Option.some.inj moved ▸ rfl⟩

end System

/-! ## The rank -/

/-- What a kick under way can still make the woken side do. -/
def Irq.notice (bit : Bool) : IsrPc -> Nat
  | .idle => if bit then 9 else 0
  | .stopTimer => 8
  | .acknowledge => 7
  | .wake => if bit then 15 else 6

/-- What a clear flag lets the host do before it waits again. -/
def Host.watch (flag : Bool) (host : Host) : Nat :=
  if flag then 0 else match host.pc with
    | .yield => 5
    | _ => 4

def Remote.watch (flag : Bool) (remote : Remote) : Nat :=
  if flag then 0 else match remote.pc with
    | .parked => 5
    | _ => 4

namespace System

def rank (layout : Layout) (system : System) : Nat :=
  system.host.work layout.toConfig + system.host.watch system.irq.remoteNkicked +
    (system.remote.work layout.toConfig + system.remote.watch system.irq.irqPending) +
    (Irq.notice system.irq.toRemote system.irq.remoteIsr +
      Irq.notice system.irq.toHost system.irq.hostIsr)

/-- Who has something to do: a program at work or with a clear flag, a handler
with a kick to serve. -/
def Busy (system : System) : Actor -> Prop
  | .host => system.host.Working ∨
      Channel.HostWaits system.host ∧ system.irq.remoteNkicked = false
  | .remote => system.remote.Working ∨
      Channel.RemoteWaits system.remote ∧ system.irq.irqPending = false
  | .remoteIsr => system.irq.toRemote = true ∨ system.irq.remoteIsr ≠ .idle
  | .hostIsr => system.irq.toHost = true ∨ system.irq.hostIsr ≠ .idle

end System

theorem Irq.notice_kick (bit : Bool) (isr : IsrPc) :
    notice true isr ≤ notice bit isr + 9 := by
  cases isr with
  | idle | wake => cases bit <;> decide
  | stopTimer | acknowledge => exact Nat.le_add_right _ _

namespace Host

theorem Working.awake {host : Host} (working : host.Working) : host.Awake := by
  unfold Working at working
  unfold Awake
  cases at_pc : host.pc with
  | testAndSet | yield | done | failed => simp only [at_pc] at working
  | clearPayload | clearHostToRemote | clearRemoteToHost | send | readAvail | readAddr | readHdr
  | readBody | writeUsed | readTx | compare | shutdown => trivial

theorem Working.not_waits {host : Host} (working : host.Working) : ¬ Channel.HostWaits host := by
  unfold Working at working
  rintro (at_pc | at_pc)
  · simp only [at_pc] at working
  · simp only [at_pc] at working

theorem working_of {layout : Layout} {host : Host} (waits : ¬ Channel.HostWaits host)
    (running : host.access layout ≠ .exit) : host.Working := by
  unfold Working
  cases at_pc : host.pc with
  | testAndSet => exact absurd (Or.inl at_pc) waits
  | yield => exact absurd (Or.inr at_pc) waits
  | done | failed => exact absurd (by simp only [access, at_pc]) running
  | clearPayload | clearHostToRemote | clearRemoteToHost | send | readAvail | readAddr | readHdr
  | readBody | writeUsed | readTx | compare | shutdown => trivial

/-- Only a program that has left its function does nothing. -/
theorem exits {layout : Layout} {host : Host} (here : host.access layout = .exit) :
    host.pc = .done ∨ host.pc = .failed := by
  cases at_pc : host.pc with
  | done => exact Or.inl rfl
  | failed => exact Or.inr rfl
  | send step | shutdown step =>
      cases step with
      | writeMsg | writeAddr =>
          simp only [access, at_pc, sendAccess] at here
          split at here
          · simp only [reduceCtorEq] at here
          · simp only [reduceCtorEq] at here
      | writeAvail | kick => simp only [access, at_pc, sendAccess, reduceCtorEq] at here
  | clearPayload | clearHostToRemote | clearRemoteToHost | readHdr | readBody | readTx =>
      simp only [access, at_pc] at here
      split at here
      · simp only [reduceCtorEq] at here
      · simp only [reduceCtorEq] at here
  | testAndSet | yield | readAvail | readAddr | writeUsed | compare =>
      simp only [access, at_pc, reduceCtorEq] at here

theorem Awake.watch {host : Host} (awake : host.Awake) (flag : Bool) :
    host.watch flag = if flag then 0 else 4 := by
  unfold Awake at awake
  unfold Host.watch
  cases at_pc : host.pc with
  | yield => simp only [at_pc] at awake
  | testAndSet | done | failed | clearPayload | clearHostToRemote | clearRemoteToHost | send
  | readAvail | readAddr | readHdr | readBody | writeUsed | readTx | compare | shutdown => rfl

theorem watch_clear_le (host : Host) (flag : Bool) : host.watch false ≤ host.watch flag + 5 := by
  have bounded : host.watch false ≤ 5 := by
    by_cases awake : host.Awake
    · rw [awake.watch]
      decide
    · unfold Awake at awake
      split at awake
      · rename_i at_pc
        simp only [watch, at_pc, Bool.false_eq_true, if_false, Nat.le_refl]
      · exact absurd trivial awake
  exact Nat.le_trans bounded (Nat.le_add_left _ _)

end Host

namespace Remote

theorem Working.awake {remote : Remote} (working : remote.Working) : remote.Awake := by
  unfold Working at working
  unfold Awake
  cases at_pc : remote.pc with
  | suspend | parked | done | failed => simp only [at_pc] at working
  | readAvail | readAddr | readHdr | readBody | writeUsed | send => trivial

theorem Working.not_waits {remote : Remote} (working : remote.Working) :
    ¬ Channel.RemoteWaits remote := by
  unfold Working at working
  rintro (at_pc | at_pc)
  · simp only [at_pc] at working
  · simp only [at_pc] at working

theorem working_of {layout : Layout} {remote : Remote} (waits : ¬ Channel.RemoteWaits remote)
    (running : remote.access layout ≠ .exit) : remote.Working := by
  unfold Working
  cases at_pc : remote.pc with
  | suspend => exact absurd (Or.inl at_pc) waits
  | parked => exact absurd (Or.inr at_pc) waits
  | done | failed => exact absurd (by simp only [access, at_pc]) running
  | send | readAvail | readAddr | readHdr | readBody | writeUsed => trivial

theorem exits {layout : Layout} {remote : Remote} (here : remote.access layout = .exit) :
    remote.pc = .done ∨ remote.pc = .failed := by
  cases at_pc : remote.pc with
  | done => exact Or.inl rfl
  | failed => exact Or.inr rfl
  | send step =>
      cases step with
      | writeMsg | writeAddr =>
          simp only [access, at_pc, sendAccess] at here
          split at here
          · simp only [reduceCtorEq] at here
          · simp only [reduceCtorEq] at here
      | writeAvail | kick => simp only [access, at_pc, sendAccess, reduceCtorEq] at here
  | readHdr | readBody =>
      simp only [access, at_pc] at here
      split at here
      · simp only [reduceCtorEq] at here
      · simp only [reduceCtorEq] at here
  | suspend | parked | readAvail | readAddr | writeUsed =>
      simp only [access, at_pc, reduceCtorEq] at here

theorem Awake.watch {remote : Remote} (awake : remote.Awake) (flag : Bool) :
    remote.watch flag = if flag then 0 else 4 := by
  unfold Awake at awake
  unfold Remote.watch
  cases at_pc : remote.pc with
  | parked => simp only [at_pc] at awake
  | suspend | done | failed | readAvail | readAddr | readHdr | readBody | writeUsed | send => rfl

theorem watch_clear_le (remote : Remote) (flag : Bool) :
    remote.watch false ≤ remote.watch flag + 5 := by
  have bounded : remote.watch false ≤ 5 := by
    by_cases awake : remote.Awake
    · rw [awake.watch]
      decide
    · unfold Awake at awake
      split at awake
      · rename_i at_pc
        simp only [watch, at_pc, Bool.false_eq_true, if_false, Nat.le_refl]
      · exact absurd trivial awake
  exact Nat.le_trans bounded (Nat.le_add_left _ _)

end Remote

namespace System

variable {layout : Layout} {traffic : Traffic layout.pkgsTotal} {system after : System}

/-! ### Steps of the handlers -/

theorem ipiIrqHandler_rank (layout : Layout) (system : System) :
    rank layout { system with irq := system.irq.ipiIrqHandler .generic } ≤ system.rank layout ∧
      (system.Busy .remoteIsr ->
        rank layout { system with irq := system.irq.ipiIrqHandler .generic } <
          system.rank layout) := by
  unfold Busy rank Irq.ipiIrqHandler
  cases isr : system.irq.remoteIsr with
  | idle =>
      cases bit : system.irq.toRemote with
      | true =>
          simp only [if_true, Irq.notice]
          omega
      | false =>
          simp only [isr, bit, Bool.false_eq_true, if_false, Irq.notice, ne_eq, not_true_eq_false,
            or_self, false_implies, and_true]
          omega
  | stopTimer =>
      simp only [Irq.notice]
      omega
  | acknowledge =>
      simp only [Irq.notice, Bool.false_eq_true, if_false]
      omega
  | wake =>
      have looks := system.remote.watch_clear_le system.irq.irqPending
      cases bit : system.irq.toRemote with
      | true =>
          simp only [Irq.systemResume, bit, if_true, Irq.notice]
          omega
      | false =>
          simp only [Irq.systemResume, bit, Bool.false_eq_true, if_false, Irq.notice]
          omega

theorem irqIsr_rank (layout : Layout) (system : System) :
    rank layout { system with irq := system.irq.irqIsr } ≤ system.rank layout ∧
      (system.Busy .hostIsr ->
        rank layout { system with irq := system.irq.irqIsr } < system.rank layout) := by
  unfold Busy rank Irq.irqIsr
  cases isr : system.irq.hostIsr with
  | idle =>
      cases bit : system.irq.toHost with
      | true =>
          simp only [if_true, Irq.notice]
          omega
      | false =>
          simp only [isr, bit, Bool.false_eq_true, if_false, Irq.notice, ne_eq, not_true_eq_false,
            or_self, false_implies, and_true]
          omega
  | stopTimer =>
      simp only [Irq.notice]
      omega
  | acknowledge =>
      simp only [Irq.notice, Bool.false_eq_true, if_false]
      omega
  | wake =>
      have looks := system.host.watch_clear_le system.irq.remoteNkicked
      cases bit : system.irq.toHost with
      | true =>
          simp only [if_true, Irq.notice]
          omega
      | false =>
          simp only [Bool.false_eq_true, if_false, Irq.notice]
          omega

/-! ### Steps of the programs -/

/-- A host at work lowers the rank, and what it saves pays for its kick. -/
theorem rank_of_host_advances {next : Host}
    (working : system.host.Working)
    (advances : system.host.Advances layout.toConfig next)
    (host : after.host = next) (remote : after.remote = system.remote)
    (nkicked : after.irq.remoteNkicked = system.irq.remoteNkicked)
    (pending : after.irq.irqPending = system.irq.irqPending)
    (paid : Irq.notice after.irq.toRemote after.irq.remoteIsr +
        Irq.notice after.irq.toHost after.irq.hostIsr + 1 ≤
      Irq.notice system.irq.toRemote system.irq.remoteIsr +
        Irq.notice system.irq.toHost system.irq.hostIsr + Host.pays system.host.pc) :
    after.rank layout < system.rank layout := by
  have work := advances.work
  have before := working.awake.watch system.irq.remoteNkicked
  have later := advances.awake.watch system.irq.remoteNkicked
  unfold rank
  rw [host, remote, nkicked, pending, before, later]
  omega

theorem rank_of_remote_advances {next : Remote}
    (working : system.remote.Working)
    (advances : system.remote.Advances layout.toConfig next)
    (remote : after.remote = next) (host : after.host = system.host)
    (nkicked : after.irq.remoteNkicked = system.irq.remoteNkicked)
    (pending : after.irq.irqPending = system.irq.irqPending)
    (paid : Irq.notice after.irq.toRemote after.irq.remoteIsr +
        Irq.notice after.irq.toHost after.irq.hostIsr + 1 ≤
      Irq.notice system.irq.toRemote system.irq.remoteIsr +
        Irq.notice system.irq.toHost system.irq.hostIsr + Remote.pays system.remote.pc) :
    after.rank layout < system.rank layout := by
  have work := advances.work
  have before := working.awake.watch system.irq.irqPending
  have later := advances.awake.watch system.irq.irqPending
  unfold rank
  rw [host, remote, nkicked, pending, before, later]
  omega

/-- Looking at its flag the host gets on if the flag is clear, and loses nothing if it is set. -/
theorem host_waits_rank (waits : Channel.HostWaits system.host)
    (moved : system.hostStep layout traffic.timestamps = some after) :
    after.rank layout ≤ system.rank layout ∧
      (system.irq.remoteNkicked = false -> after.rank layout < system.rank layout) := by
  rcases waits with at_pc | at_pc
  · simp only [hostStep, Host.access, at_pc, Option.some.injEq] at moved
    subst moved
    cases flag : system.irq.remoteNkicked with
    | false =>
        simp only [rank, Irq.testAndSetNkicked, flag, Host.next, at_pc, Host.work, Host.workAt,
          Host.watch, Bool.false_eq_true, if_false, if_true]
        omega
    | true =>
        refine ⟨Nat.le_of_eq ?_, fun clear => Bool.noConfusion clear⟩
        simp only [rank, Irq.testAndSetNkicked, flag, Host.next, at_pc, Host.work, Host.workAt,
          Host.watch, if_true, Nat.one_ne_zero, if_false]
  · simp only [hostStep, Host.access, at_pc, Access.onMemory, Option.some.injEq] at moved
    subst moved
    cases flag : system.irq.remoteNkicked with
    | false =>
        simp only [rank, flag, Host.next, at_pc, Host.work, Host.workAt, Host.watch,
          Bool.false_eq_true, if_false]
        omega
    | true =>
        refine ⟨Nat.le_of_eq ?_, fun clear => Bool.noConfusion clear⟩
        simp only [rank, flag, Host.next, at_pc, Host.work, Host.workAt, Host.watch, if_true]

theorem remote_waits_rank (waits : Channel.RemoteWaits system.remote)
    (moved : system.remoteStep layout .generic = some after) :
    after.rank layout ≤ system.rank layout ∧
      (system.irq.irqPending = false -> after.rank layout < system.rank layout) := by
  rcases waits with at_pc | at_pc
  · simp only [remoteStep, Remote.access, at_pc, Option.some.injEq] at moved
    subst moved
    cases flag : system.irq.irqPending with
    | false =>
        simp only [rank, Irq.systemSuspend, flag, Remote.next, at_pc, Remote.work, Remote.workAt,
          Remote.watch, Bool.false_eq_true, if_false, if_true, Nat.one_ne_zero]
        omega
    | true =>
        refine ⟨Nat.le_of_eq ?_, fun clear => Bool.noConfusion clear⟩
        simp only [rank, Irq.systemSuspend, flag, Remote.next, at_pc, Remote.work, Remote.workAt,
          Remote.watch, if_true]
  · simp only [remoteStep, Remote.access, at_pc, Irq.parked, Option.some.injEq] at moved
    subst moved
    cases flag : system.irq.irqPending with
    | false =>
        simp only [rank, flag, Remote.next, at_pc, Remote.work, Remote.workAt, Remote.watch,
          Bool.false_eq_true, if_false, if_true]
        omega
    | true =>
        refine ⟨Nat.le_of_eq ?_, fun clear => Bool.noConfusion clear⟩
        simp only [rank, flag, Remote.next, at_pc, Remote.work, Remote.workAt, Remote.watch,
          if_true]

theorem hostStep_rank (fits : layout.Fits) (invariant : Invariant layout traffic system)
    (moved : system.hostStep layout traffic.timestamps = some after) :
    after.rank layout ≤ system.rank layout ∧
      (system.Busy .host -> after.rank layout < system.rank layout) := by
  have survives : after.host.pc ≠ .failed :=
    ((invariant.hostStep_keeps fits moved).echoCorrect fits).hostRuns
  by_cases waits : Channel.HostWaits system.host
  · have looked := host_waits_rank waits moved
    refine ⟨looked.1, fun busy => ?_⟩
    rcases busy with working | ⟨-, clear⟩
    · exact absurd waits working.not_waits
    · exact looked.2 clear
  · suffices lower : after.rank layout < system.rank layout from
      ⟨Nat.le_of_lt lower, fun _ => lower⟩
    have running : system.host.access layout ≠ .exit := by
      intro here
      simp only [hostStep, here, reduceCtorEq] at moved
    have working := Host.working_of waits running
    have advances := Host.next_advances invariant.host invariant.echoes_le working
    cases system.host.turn layout with
    | test at_pc here => exact absurd (Or.inl at_pc) waits
    | finish here => exact absurd here running
    | kick kicking here elsewhere =>
        simp only [hostStep, here, Option.some.injEq] at moved
        subst moved
        have cost : Host.pays system.host.pc = 10 := by
          rcases kicking with kicks | kicks
          · rw [kicks, Host.pays]
          · rw [kicks, Host.pays]
        have noticed := Irq.notice_kick system.irq.toRemote system.irq.remoteIsr
        refine rank_of_host_advances working (advances 0) rfl rfl rfl rfl ?_
        rw [cost]
        simp only [Irq.kickRemote]
        omega
    | read at_pc window offset here =>
        rcases hostStep_access (here ▸ trivial) moved survives with ⟨reply, memory, -, same⟩
        subst same
        exact rank_of_host_advances working (advances reply) rfl rfl rfl rfl
          (Nat.add_le_add_left (Host.pays_pos _) _)
    | publish window offset value here elsewhere quiet kicking =>
        rcases hostStep_access (here ▸ trivial) moved survives with ⟨reply, memory, -, same⟩
        subst same
        exact rank_of_host_advances working (advances reply) rfl rfl rfl rfl
          (Nat.add_le_add_left (Host.pays_pos _) _)
    | other kind elsewhere quiet =>
        rcases hostStep_access kind.onMemory moved survives with ⟨reply, memory, -, same⟩
        subst same
        exact rank_of_host_advances working (advances reply) rfl rfl rfl rfl
          (Nat.add_le_add_left (Host.pays_pos _) _)

theorem remoteStep_rank (fits : layout.Fits) (invariant : Invariant layout traffic system)
    (moved : system.remoteStep layout .generic = some after) :
    after.rank layout ≤ system.rank layout ∧
      (system.Busy .remote -> after.rank layout < system.rank layout) := by
  have survives : after.remote.pc ≠ .failed :=
    ((invariant.remoteStep_keeps fits moved).echoCorrect fits).remoteRuns
  by_cases waits : Channel.RemoteWaits system.remote
  · have looked := remote_waits_rank waits moved
    refine ⟨looked.1, fun busy => ?_⟩
    rcases busy with working | ⟨-, clear⟩
    · exact absurd waits working.not_waits
    · exact looked.2 clear
  · suffices lower : after.rank layout < system.rank layout from
      ⟨Nat.le_of_lt lower, fun _ => lower⟩
    have running : system.remote.access layout ≠ .exit := by
      intro here
      simp only [remoteStep, here, reduceCtorEq] at moved
    have working := Remote.working_of waits running
    have advances := Remote.next_advances invariant.remote invariant.host.published_le working
    cases system.remote.turn layout with
    | suspend at_pc here => exact absurd (Or.inl at_pc) waits
    | wait at_pc here => exact absurd (Or.inr at_pc) waits
    | finish here => exact absurd here running
    | kick kicking here elsewhere =>
        simp only [remoteStep, here, Option.some.injEq] at moved
        subst moved
        have kicks : system.remote.pc = .send .kick := kicking
        have cost : Remote.pays system.remote.pc = 10 := by rw [kicks, Remote.pays]
        have noticed := Irq.notice_kick system.irq.toHost system.irq.hostIsr
        refine rank_of_remote_advances working (advances 0) rfl rfl rfl rfl ?_
        rw [cost]
        simp only [Irq.kickHost]
        omega
    | read at_pc window offset here =>
        rcases remoteStep_access (here ▸ trivial) moved survives with ⟨reply, memory, -, same⟩
        subst same
        exact rank_of_remote_advances working (advances reply) rfl rfl rfl rfl
          (Nat.add_le_add_left (Remote.pays_pos _) _)
    | publish window offset value here elsewhere quiet kicking =>
        rcases remoteStep_access (here ▸ trivial) moved survives with ⟨reply, memory, -, same⟩
        subst same
        exact rank_of_remote_advances working (advances reply) rfl rfl rfl rfl
          (Nat.add_le_add_left (Remote.pays_pos _) _)
    | other kind elsewhere quiet awake =>
        rcases remoteStep_access kind.onMemory moved survives with ⟨reply, memory, -, same⟩
        subst same
        exact rank_of_remote_advances working (advances reply) rfl rfl rfl rfl
          (Nat.add_le_add_left (Remote.pays_pos _) _)

/-- No step raises the rank, and a busy one's step lowers it. -/
theorem step_rank (fits : layout.Fits) (invariant : Invariant layout traffic system)
    {actor : Actor}
    (moved : system.step layout traffic.timestamps .generic actor = some after) :
    after.rank layout ≤ system.rank layout ∧
      (system.Busy actor -> after.rank layout < system.rank layout) := by
  cases actor with
  | host => exact hostStep_rank fits invariant moved
  | remote => exact remoteStep_rank fits invariant moved
  | remoteIsr => exact Option.some.inj moved ▸ ipiIrqHandler_rank layout system
  | hostIsr => exact Option.some.inj moved ▸ irqIsr_rank layout system

/-! ## Who is busy, and for how long -/

theorem hostStep_some (running : system.host.access layout ≠ .exit) :
    Exists fun after => system.hostStep layout traffic.timestamps = some after := by
  unfold hostStep
  split
  · rename_i here
    exact absurd here running
  · exact ⟨_, rfl⟩
  · exact ⟨_, rfl⟩
  · split <;> exact ⟨_, rfl⟩

theorem remoteStep_some (running : system.remote.access layout ≠ .exit) :
    Exists fun after => system.remoteStep layout .generic = some after := by
  unfold remoteStep
  split
  · rename_i here
    exact absurd here running
  · exact ⟨_, rfl⟩
  · exact ⟨_, rfl⟩
  · exact ⟨_, rfl⟩
  · split <;> exact ⟨_, rfl⟩

/-- What a step of the host leaves to the others. -/
structure HostFrame (system after : System) : Prop where
  remote : after.remote = system.remote
  irqPending : after.irq.irqPending = system.irq.irqPending
  remoteIsr : after.irq.remoteIsr = system.irq.remoteIsr
  hostIsr : after.irq.hostIsr = system.irq.hostIsr
  toHost : after.irq.toHost = system.irq.toHost
  toRemote : system.irq.toRemote = true -> after.irq.toRemote = true

structure RemoteFrame (system after : System) : Prop where
  host : after.host = system.host
  remoteNkicked : after.irq.remoteNkicked = system.irq.remoteNkicked
  remoteIsr : after.irq.remoteIsr = system.irq.remoteIsr
  hostIsr : after.irq.hostIsr = system.irq.hostIsr
  toRemote : after.irq.toRemote = system.irq.toRemote
  toHost : system.irq.toHost = true -> after.irq.toHost = true

theorem hostStep_frame (moved : system.hostStep layout traffic.timestamps = some after) :
    HostFrame system after := by
  unfold hostStep at moved
  split at moved
  · simp only [reduceCtorEq] at moved
  · exact Option.some.inj moved ▸ ⟨rfl, rfl, rfl, rfl, rfl, fun _ => rfl⟩
  · exact Option.some.inj moved ▸ ⟨rfl, rfl, rfl, rfl, rfl, id⟩
  · split at moved
    · exact Option.some.inj moved ▸ ⟨rfl, rfl, rfl, rfl, rfl, id⟩
    · exact Option.some.inj moved ▸ ⟨rfl, rfl, rfl, rfl, rfl, id⟩

theorem remoteStep_frame (moved : system.remoteStep layout .generic = some after) :
    RemoteFrame system after := by
  unfold remoteStep at moved
  split at moved
  · simp only [reduceCtorEq] at moved
  · exact Option.some.inj moved ▸ ⟨rfl, rfl, rfl, rfl, rfl, fun _ => rfl⟩
  · exact Option.some.inj moved ▸ ⟨rfl, rfl, rfl, rfl, rfl, id⟩
  · simp only [Irq.parked] at moved
    exact Option.some.inj moved ▸ ⟨rfl, rfl, rfl, rfl, rfl, id⟩
  · split at moved
    · exact Option.some.inj moved ▸ ⟨rfl, rfl, rfl, rfl, rfl, id⟩
    · exact Option.some.inj moved ▸ ⟨rfl, rfl, rfl, rfl, rfl, id⟩

/-- Nobody else takes from a busy one what it is busy with. -/
theorem busy_stays {actor who : Actor} (busy : system.Busy who) (other : actor ≠ who)
    (moved : system.step layout traffic.timestamps .generic actor = some after) :
    after.Busy who := by
  cases actor with
  | host =>
      have frame := hostStep_frame moved
      cases who with
      | host => exact absurd rfl other
      | remote =>
          simp only [Busy, frame.remote, frame.irqPending]
          exact busy
      | remoteIsr =>
          simp only [Busy, frame.remoteIsr]
          exact busy.imp frame.toRemote id
      | hostIsr =>
          simp only [Busy, frame.toHost, frame.hostIsr]
          exact busy
  | remote =>
      have frame := remoteStep_frame moved
      cases who with
      | remote => exact absurd rfl other
      | host =>
          simp only [Busy, frame.host, frame.remoteNkicked]
          exact busy
      | remoteIsr =>
          simp only [Busy, frame.toRemote, frame.remoteIsr]
          exact busy
      | hostIsr =>
          simp only [Busy, frame.hostIsr]
          exact busy.imp frame.toHost id
  | remoteIsr =>
      have same := Option.some.inj moved
      subst same
      cases who with
      | remoteIsr => exact absurd rfl other
      | host | remote | hostIsr =>
          simp only [Busy, Irq.ipiIrqHandler] at busy ⊢
          cases system.irq.remoteIsr with
          | idle => cases system.irq.toRemote <;> exact busy
          | stopTimer | acknowledge => exact busy
          | wake => first | exact busy | exact busy.imp id (fun waits => ⟨waits.1, rfl⟩)
  | hostIsr =>
      have same := Option.some.inj moved
      subst same
      cases who with
      | hostIsr => exact absurd rfl other
      | host | remote | remoteIsr =>
          simp only [Busy, Irq.irqIsr] at busy ⊢
          cases system.irq.hostIsr with
          | idle => cases system.irq.toHost <;> exact busy
          | stopTimer | acknowledge => exact busy
          | wake => first | exact busy | exact busy.imp id (fun waits => ⟨waits.1, rfl⟩)

/-! ## The end of the demo -/

/-- Both programs have returned. -/
def Ended (system : System) : Prop := system.host.pc = .done ∧ system.remote.pc = .done

/-- With nobody busy a waiting side has seen everything the other has published. -/
theorem caught_up (informed : (system.toChannel layout).Informed)
    (idle : forall who, ¬ system.Busy who) :
    (Channel.HostWaits system.host ->
      system.host.i = system.remote.published layout.toConfig) ∧
    (Channel.RemoteWaits system.remote ->
      system.remote.rxCount = system.host.published layout.toConfig) := by
  have hostIdle := idle .host
  have remoteIdle := idle .remote
  have remoteIsr := idle .remoteIsr
  have hostIsr := idle .hostIsr
  simp only [Busy, not_or, not_and, Bool.not_eq_false, Bool.not_eq_true, not_not]
    at hostIdle remoteIdle remoteIsr hostIsr
  constructor
  · intro waits
    by_contra behind
    have kicking : ¬ Channel.RemoteKicking system.remote := by
      intro kicks
      apply remoteIdle.1
      unfold Channel.RemoteKicking at kicks
      simp only [Remote.Working, kicks]
    exact informed.not_hostLost ⟨waits, hostIdle.2 waits, hostIsr.1, hostIsr.2, kicking, behind⟩
  · intro waits
    by_contra behind
    have kicking : ¬ Channel.HostKicking system.host := by
      rintro (kicks | kicks)
      · exact hostIdle.1 (by simp only [Host.Working, kicks])
      · exact hostIdle.1 (by simp only [Host.Working, kicks])
    exact informed.not_remoteLost
      ⟨waits, remoteIdle.2 waits, remoteIsr.1, remoteIsr.2, kicking, behind⟩

theorem host_rests (invariant : Invariant layout traffic system) (idle : ¬ system.Busy .host) :
    Channel.HostWaits system.host ∨ system.host.pc = .done := by
  have ok := invariant.host
  unfold Host.Ok at ok
  have working : ¬ system.host.Working := fun working => idle (Or.inl working)
  unfold Host.Working at working
  cases at_pc : system.host.pc with
  | testAndSet => exact Or.inl (Or.inl at_pc)
  | yield => exact Or.inl (Or.inr at_pc)
  | done => exact Or.inr rfl
  | failed => simp only [at_pc] at ok
  | clearPayload | clearHostToRemote | clearRemoteToHost | send | readAvail | readAddr | readHdr
  | readBody | writeUsed | readTx | compare | shutdown =>
      simp only [at_pc, not_true_eq_false] at working

theorem remote_rests (invariant : Invariant layout traffic system)
    (idle : ¬ system.Busy .remote) :
    Channel.RemoteWaits system.remote ∨ system.remote.pc = .done := by
  have ok := invariant.remote
  unfold Remote.Ok at ok
  have working : ¬ system.remote.Working := fun working => idle (Or.inl working)
  unfold Remote.Working at working
  cases at_pc : system.remote.pc with
  | suspend => exact Or.inl (Or.inl at_pc)
  | parked => exact Or.inl (Or.inr at_pc)
  | done => exact Or.inr rfl
  | failed => simp only [at_pc] at ok
  | send | readAvail | readAddr | readHdr | readBody | writeUsed =>
      simp only [at_pc, not_true_eq_false] at working

/-- A waiting host has sent all packets and misses an echo. -/
theorem host_waiting (invariant : Invariant layout traffic system)
    (waits : Channel.HostWaits system.host) :
    system.host.published layout.toConfig = layout.pkgsTotal ∧
      system.host.i < layout.pkgsTotal := by
  have ok := invariant.host
  rcases waits with at_pc | at_pc
  · simp only [Host.Ok, at_pc] at ok
    simp only [Host.published, Host.progress, at_pc, true_and]
    exact ok.2
  · simp only [Host.Ok, at_pc] at ok
    simp only [Host.published, Host.progress, at_pc, true_and]
    exact ok.2

/-- A waiting remote has echoed all it has used, and not seen the shutdown message. -/
theorem remote_waiting (invariant : Invariant layout traffic system)
    (waits : Channel.RemoteWaits system.remote) :
    system.remote.published layout.toConfig = system.remote.rxCount ∧
      system.remote.rxCount ≤ layout.pkgsTotal := by
  have ok := invariant.remote
  rcases waits with at_pc | at_pc
  · simp only [Remote.Ok, at_pc] at ok
    simp only [Remote.published, Remote.progress, at_pc, true_and]
    exact ok.2.2
  · simp only [Remote.Ok, at_pc] at ok
    simp only [Remote.published, Remote.progress, at_pc, true_and]
    exact ok.2.2

/-- As long as one of the programs has not returned, somebody is busy. -/
theorem somebody_busy (invariant : Invariant layout traffic system)
    (informed : (system.toChannel layout).Informed) (running : ¬ system.Ended) :
    Exists fun who => system.Busy who := by
  by_contra nobody
  have idle : forall who, ¬ system.Busy who := fun who busy => nobody ⟨who, busy⟩
  have caught := caught_up informed idle
  have hostOk := invariant.host
  have remoteOk := invariant.remote
  rcases host_rests invariant (idle .host) with hostWaits | hostDone
  · have host := host_waiting invariant hostWaits
    have seen := caught.1 hostWaits
    rcases remote_rests invariant (idle .remote) with remoteWaits | remoteDone
    · have remote := remote_waiting invariant remoteWaits
      have received := caught.2 remoteWaits
      omega
    · simp only [Remote.Ok, remoteDone] at remoteOk
      omega
  · rcases remote_rests invariant (idle .remote) with remoteWaits | remoteDone
    · have remote := remote_waiting invariant remoteWaits
      have received := caught.2 remoteWaits
      have published : system.host.published layout.toConfig = layout.pkgsTotal + 1 := by
        simp only [Host.published, Host.progress, hostDone]
      omega
    · exact running ⟨hostDone, remoteDone⟩

/-- The rank and the busy actors bring every fair schedule to the end. -/
theorem ranked (fits : layout.Fits) :
    Fairness.Ranked (step layout traffic.timestamps .generic) id (fun _ _ => True)
      (fun system => Invariant layout traffic system ∧ (system.toChannel layout).Informed)
      Ended (rank layout) Busy where
  preserved := by
    intro system actor after both _ moved
    rcases step_toChannel fits both.1 moved with ⟨move, performed⟩
    exact ⟨both.1.step_keeps fits moved, Channel.step_informed both.2 performed⟩
  lowers := by
    intro system actor both _ busy
    have enabled : Exists fun after =>
        system.step layout traffic.timestamps .generic actor = some after := by
      cases actor with
      | host =>
          apply hostStep_some
          intro here
          rcases busy with working | ⟨waits, -⟩
          · rcases Host.exits here with at_pc | at_pc
            · simp only [Host.Working, at_pc] at working
            · simp only [Host.Working, at_pc] at working
          · rcases waits with at_pc | at_pc
            · simp only [Host.access, at_pc, reduceCtorEq] at here
            · simp only [Host.access, at_pc, reduceCtorEq] at here
      | remote =>
          apply remoteStep_some
          intro here
          rcases busy with working | ⟨waits, -⟩
          · rcases Remote.exits here with at_pc | at_pc
            · simp only [Remote.Working, at_pc] at working
            · simp only [Remote.Working, at_pc] at working
          · rcases waits with at_pc | at_pc
            · simp only [Remote.access, at_pc, reduceCtorEq] at here
            · simp only [Remote.access, at_pc, reduceCtorEq] at here
      | remoteIsr | hostIsr => exact ⟨_, rfl⟩
    rcases enabled with ⟨after, moved⟩
    exact ⟨after, moved, (step_rank fits both.1 moved).2 busy⟩
  keeps := fun _ _ _ both _ _ moved => (step_rank fits both.1 moved).1
  stays := fun _ _ _ _ _ _ busy other moved => Or.inl (busy_stays busy other moved)
  somebody := fun _ both running => somebody_busy both.1 both.2 running

theorem initial_informed (layout : Layout) (memory : ByteMemory) :
    ((initial layout memory).toChannel layout).Informed :=
  Channel.initial_informed layout.toConfig

end System

/-- On the bare-metal port every schedule in which no program and no handler is left out for ever
brings both programs to their end, every packet verified and the shutdown message received. No
bound is set on how long either of them is left waiting. The layout has to fit as for the
correctness of the echo, and fairness is needed because a program that is never scheduled does
not end. -/
theorem echo_terminates (layout : Layout) (fits : layout.Fits) (traffic : Traffic layout.pkgsTotal)
    (memory : ByteMemory) (schedule : Nat -> Actor) (fair : Fairness.Fair id schedule) :
    Exists fun n =>
      let system := Fairness.trace (System.step layout traffic.timestamps .generic)
        (System.initial layout memory) schedule n
      system.Ended ∧ system.verified = traffic.firstMessages layout.pkgsTotal ∧
        system.consumed = traffic.firstMessages (layout.pkgsTotal + 1) := by
  have ranked := @System.ranked layout traffic fits
  have initially : Invariant layout traffic (System.initial layout memory) ∧
      ((System.initial layout memory).toChannel layout).Informed :=
    ⟨Invariant.initially fits memory, System.initial_informed layout memory⟩
  rcases ranked.reaches initially (fun _ => trivial) fair with ⟨n, ended⟩
  have both : (fun system => Invariant layout traffic system ∧ (system.toChannel layout).Informed)
      (Fairness.trace (System.step layout traffic.timestamps .generic)
        (System.initial layout memory) schedule n) :=
    Fairness.trace_invariant ranked.preserved initially (fun _ => trivial) n
  have invariant := both.1
  have host := invariant.host
  have remote := invariant.remote
  simp only [Host.Ok, ended.1] at host
  simp only [Remote.Ok, ended.2] at remote
  refine ⟨n, ended, ?_, ?_⟩
  · rw [invariant.verified, Host.accepted, ended.1, host.1]
  · rw [invariant.consumed, remote.1]

/-- Everybody in turn. -/
def roundRobin : Nat -> Actor := Fairness.cycle .host [.remote, .remoteIsr, .hostIsr]

theorem roundRobin_fair : Fairness.Fair id roundRobin := by
  apply Fairness.cycle_fair
  intro who
  refine ⟨who, ?_, rfl⟩
  cases who with
  | host | remote | remoteIsr | hostIsr => decide

/-- The demo with one packet ends when everybody moves in turn. -/
theorem smallLayout_echo_terminates : Exists fun n =>
    let system := Fairness.trace (System.step smallLayout smallTraffic.timestamps .generic)
      (System.initial smallLayout (fun _ => 0)) roundRobin n
    system.Ended ∧ system.verified = smallTraffic.firstMessages smallLayout.pkgsTotal ∧
      system.consumed = smallTraffic.firstMessages (smallLayout.pkgsTotal + 1) :=
  echo_terminates smallLayout smallLayout_fits smallTraffic (fun _ => 0) roundRobin roundRobin_fair

end IrqShmem
end OpenAmpReference
