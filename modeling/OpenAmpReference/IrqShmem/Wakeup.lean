import OpenAmpReference.Library.Transition
import OpenAmpReference.IrqShmem.Remote

namespace OpenAmpReference
namespace IrqShmem

/-!
# Wake-ups

Whether a wake-up can get lost depends on the two `avail` counters, the kicks
and the interrupts, and on nothing else that is shared.  The system here runs
the same two programs with the two counters as its only memory: every other
access may read any value, and any access may be refused.  What holds of it
holds for all layouts and all contents of the shared areas that keep the
counters apart from the rest.

While the host clears the areas the counters are still zero, and clearing
leaves them so.
-/

/-- The accesses that concern neither a counter of the channel nor an
interrupt. -/
def Access.Private : Access -> Prop
  | .setByte _ _ | .readByte _ _ | .writeByte _ _ _ | .readAddr _ _ | .writeAddr _ _ _
  | .writeUsed _ _ _ | .compute => True
  | _ => False

/-- The two programs, the interrupts and the two counters. -/
structure Channel where
  host : Host
  remote : Remote
  irq : Irq
  h2rAvail : Nat
  r2hAvail : Nat
  deriving DecidableEq, Repr

/-- Who moves; for a program also what its access reads, `none` when the
access is refused. -/
inductive Move where
  | host (reply : Option Nat)
  | remote (reply : Option Nat)
  | remoteIsr
  | hostIsr
  deriving DecidableEq, Repr

namespace Channel

/-- The remote is past `amp_os_init()` and about to wait; the host starts. -/
def initial (config : Config) : Channel where
  host := Host.initial
  remote := Remote.initial config
  irq := Irq.initial
  h2rAvail := 0
  r2hAvail := 0

def hostStep (layout : Layout) (timestamps : Nat -> UInt64) (channel : Channel)
    (reply : Option Nat) : Option Channel :=
  match channel.host.access layout with
  | .exit => none
  | .irqKick =>
      some { channel with
        host := channel.host.next layout timestamps 0
        irq := channel.irq.kickRemote }
  | .testAndSetNkicked =>
      some { channel with
        host := channel.host.next layout timestamps channel.irq.testAndSetNkicked.1
        irq := channel.irq.testAndSetNkicked.2 }
  | other =>
      match reply with
      | none => some { channel with host := channel.host.fail }
      | some value =>
          match other with
          | .readAvail _ _ =>
              some { channel with host := channel.host.next layout timestamps channel.r2hAvail }
          | .writeAvail _ _ avail =>
              some { channel with
                host := channel.host.next layout timestamps 0
                h2rAvail := avail }
          | _ => some { channel with host := channel.host.next layout timestamps value }

def remoteStep (layout : Layout) (port : Port) (channel : Channel) (reply : Option Nat) :
    Option Channel :=
  match channel.remote.access layout with
  | .exit => none
  | .irqKick =>
      some { channel with
        remote := channel.remote.next layout 0
        irq := channel.irq.kickHost }
  | .systemSuspend =>
      some { channel with
        remote := channel.remote.next layout (channel.irq.systemSuspend port).1
        irq := (channel.irq.systemSuspend port).2 }
  | .parked =>
      match channel.irq.parked port with
      | none => none
      | some returned => some { channel with remote := channel.remote.next layout returned }
  | other =>
      match reply with
      | none => some { channel with remote := channel.remote.fail }
      | some value =>
          match other with
          | .readAvail _ _ =>
              some { channel with remote := channel.remote.next layout channel.h2rAvail }
          | .writeAvail _ _ avail =>
              some { channel with
                remote := channel.remote.next layout 0
                r2hAvail := avail }
          | _ => some { channel with remote := channel.remote.next layout value }

def step (layout : Layout) (timestamps : Nat -> UInt64) (port : Port) (channel : Channel) :
    Move -> Option Channel
  | .host reply => channel.hostStep layout timestamps reply
  | .remote reply => channel.remoteStep layout port reply
  | .remoteIsr => some { channel with irq := channel.irq.ipiIrqHandler port }
  | .hostIsr => some { channel with irq := channel.irq.irqIsr }

/-! ## Kicks under way -/

/-- The host has written its counter and not yet kicked. -/
def HostKicking (host : Host) : Prop :=
  host.pc = .send .kick ∨ host.pc = .shutdown .kick

/-- The remote has written its counter and not yet kicked. -/
def RemoteKicking (remote : Remote) : Prop := remote.pc = .send .kick

/-- A kick of the remote is owed, pending or in service. -/
def ToRemoteUnderWay (channel : Channel) : Prop :=
  HostKicking channel.host ∨ channel.irq.toRemote = true ∨ channel.irq.remoteIsr ≠ .idle

def ToHostUnderWay (channel : Channel) : Prop :=
  RemoteKicking channel.remote ∨ channel.irq.toHost = true ∨ channel.irq.hostIsr ≠ .idle

/-- The remote is inside `system_suspend()`. -/
def RemoteWaits (remote : Remote) : Prop := remote.pc = .suspend ∨ remote.pc = .parked

/-- The host is inside `wait_for_notified()`. -/
def HostWaits (host : Host) : Prop := host.pc = .testAndSet ∨ host.pc = .yield

end Channel

/-! ## What one step of a program does to its snapshot of the counter -/

namespace Host

@[simp] theorem verifyLoop_rxAvail (config : Config) (host : Host) :
    (host.verifyLoop config).rxAvail = host.rxAvail := by
  unfold verifyLoop
  split <;> rfl

@[simp] theorem drainLoop_rxAvail (config : Config) (host : Host) :
    (host.drainLoop config).rxAvail = host.rxAvail := by
  unfold drainLoop
  split
  · rfl
  · exact verifyLoop_rxAvail config host

@[simp] theorem sendLoop_rxAvail (config : Config) (timestamps : Nat -> UInt64) (host : Host) :
    (host.sendLoop config timestamps).rxAvail = host.rxAvail := by
  unfold sendLoop
  split
  · rfl
  · exact verifyLoop_rxAvail config _

/-- Only reading the counter changes the host's snapshot of it. -/
theorem next_rxAvail (layout : Layout) (timestamps : Nat -> UInt64) (host : Host) (reply : Nat)
    (elsewhere : host.pc ≠ .readAvail) :
    (host.next layout timestamps reply).rxAvail = host.rxAvail := by
  unfold next
  cases at_pc : host.pc with
  | readAvail => exact absurd at_pc elsewhere
  | send step =>
      cases step with
      | writeMsg done | writeAddr =>
          simp only [nextSend]
          split <;> rfl
      | writeAvail => rfl
      | kick => simp only [nextSend, sendLoop_rxAvail]
  | shutdown step =>
      cases step with
      | writeMsg done | writeAddr =>
          simp only [nextShutdown]
          split <;> rfl
      | writeAvail | kick => rfl
  | compare =>
      simp only
      split
      · exact drainLoop_rxAvail _ _
      · rfl
  | clearRemoteToHost done =>
      simp only
      split
      · rfl
      · exact sendLoop_rxAvail _ _ _
  | readHdr done =>
      simp only
      split_ifs <;> rfl
  | clearPayload | clearHostToRemote | testAndSet | readAddr | readBody | readTx =>
      simp only
      split <;> rfl
  | yield | writeUsed | done | failed => rfl

/-- The snapshot starts at zero, and the host waits only when it has verified
as many echoes as its snapshot says. -/
def Counted (host : Host) : Prop :=
  match host.pc with
  | .clearPayload _ | .clearHostToRemote _ | .clearRemoteToHost _ | .send _ => host.rxAvail = 0
  | .testAndSet | .yield => host.i = host.rxAvail
  | _ => True

theorem verifyLoop_counted {config : Config} {host : Host} (counted : host.i = host.rxAvail) :
    (host.verifyLoop config).Counted := by
  unfold verifyLoop
  split
  · exact counted
  · trivial

theorem drainLoop_counted (config : Config) (host : Host) : (host.drainLoop config).Counted := by
  unfold drainLoop
  by_cases remaining : host.i ≠ host.rxAvail
  · rw [if_pos remaining]
    trivial
  · rw [if_neg remaining]
    exact verifyLoop_counted (not_not.mp remaining)

theorem sendLoop_counted {config : Config} {timestamps : Nat -> UInt64} {host : Host}
    (fresh : host.rxAvail = 0) : (host.sendLoop config timestamps).Counted := by
  unfold sendLoop
  split
  · exact fresh
  · exact verifyLoop_counted fresh.symm

theorem next_counted {layout : Layout} {timestamps : Nat -> UInt64} {host : Host}
    (counted : host.Counted) (reply : Nat) : (host.next layout timestamps reply).Counted := by
  unfold Counted at counted
  unfold next
  cases at_pc : host.pc with
  | clearPayload done | clearHostToRemote done =>
      simp only [at_pc] at counted ⊢
      split <;> exact counted
  | clearRemoteToHost done =>
      simp only [at_pc] at counted ⊢
      split
      · exact counted
      · exact sendLoop_counted counted
  | send step =>
      simp only [at_pc] at counted ⊢
      cases step with
      | writeMsg done =>
          simp only [nextSend]
          split <;> exact counted
      | writeAddr =>
          simp only [nextSend]
          split
          · trivial
          · exact counted
      | writeAvail => exact counted
      | kick => exact sendLoop_counted counted
  | testAndSet =>
      simp only [at_pc] at counted ⊢
      split
      · trivial
      · exact counted
  | yield =>
      simp only [at_pc] at counted ⊢
      exact counted
  | readAvail => exact drainLoop_counted _ _
  | compare =>
      simp only
      split
      · exact drainLoop_counted _ _
      · trivial
  | shutdown step =>
      simp only
      cases step with
      | writeMsg done | writeAddr =>
          simp only [nextShutdown]
          split <;> trivial
      | writeAvail | kick => trivial
  | readHdr done =>
      simp only
      split_ifs <;> trivial
  | readAddr | readBody done | readTx done =>
      simp only
      split <;> trivial
  | writeUsed => trivial
  | done | failed => simp only [Counted, at_pc]

/-! ### Which accesses concern the counters and the interrupts -/

/-- The host is neither about to read the counter nor out of its function. -/
def Elsewhere (host : Host) : Prop := host.pc ≠ .readAvail ∧ host.pc ≠ .failed

/-- The turns a host can take, as far as the other side can see them. -/
inductive Turn (layout : Layout) (host : Host) : Prop where
  | test (at_pc : host.pc = .testAndSet) (here : host.access layout = .testAndSetNkicked)
  | read (at_pc : host.pc = .readAvail) (window : Window) (offset : Nat)
      (here : host.access layout = .readAvail window offset)
  | publish (window : Window) (offset value : Nat)
      (here : host.access layout = .writeAvail window offset value)
      (elsewhere : host.Elsewhere) (quiet : ¬ Channel.HostKicking host)
      (kicking : forall timestamps,
        Channel.HostKicking (host.next layout timestamps 0))
  | kick (kicking : Channel.HostKicking host) (here : host.access layout = .irqKick)
      (elsewhere : host.Elsewhere)
  | finish (here : host.access layout = .exit)
  | other (kind : (host.access layout).Private) (elsewhere : host.Elsewhere)
      (quiet : ¬ Channel.HostKicking host)

theorem turn (layout : Layout) (host : Host) : host.Turn layout := by
  cases at_pc : host.pc with
  | testAndSet =>
      apply Turn.test at_pc
      simp only [access, at_pc]
  | readAvail =>
      apply Turn.read at_pc .remoteToHostDesc shmDescAvailOffset
      simp only [access, at_pc]
  | done | failed =>
      apply Turn.finish
      simp only [access, at_pc]
  | send step | shutdown step =>
      cases step with
      | writeMsg done | writeAddr =>
          apply Turn.other
          · simp only [access, at_pc, sendAccess]
            split <;> trivial
          · simp only [Elsewhere, at_pc, ne_eq, reduceCtorEq, not_false_eq_true, and_self]
          · simp only [Channel.HostKicking, at_pc, reduceCtorEq, HostPc.send.injEq,
              HostPc.shutdown.injEq, or_self, not_false_eq_true]
      | writeAvail =>
          apply Turn.publish .hostToRemoteDesc shmDescAvailOffset
          · simp only [access, at_pc, sendAccess]
            rfl
          · simp only [Elsewhere, at_pc, ne_eq, reduceCtorEq, not_false_eq_true, and_self]
          · simp only [Channel.HostKicking, at_pc, reduceCtorEq, HostPc.send.injEq,
              HostPc.shutdown.injEq, or_self, not_false_eq_true]
          · intro timestamps
            simp only [next, at_pc, nextSend, nextShutdown, Channel.HostKicking, or_true, true_or]
      | kick =>
          apply Turn.kick
          · simp only [Channel.HostKicking, at_pc, or_true, true_or]
          · simp only [access, at_pc, sendAccess]
          · simp only [Elsewhere, at_pc, ne_eq, reduceCtorEq, not_false_eq_true, and_self]
  | clearPayload | clearHostToRemote | clearRemoteToHost | yield | readAddr | readHdr | readBody
  | writeUsed | readTx | compare =>
      apply Turn.other
      · simp only [access, at_pc]
        first | trivial | (split <;> trivial)
      · simp only [Elsewhere, at_pc, ne_eq, reduceCtorEq, not_false_eq_true, and_self]
      · simp only [Channel.HostKicking, at_pc, reduceCtorEq, or_self, not_false_eq_true]

end Host

namespace Remote

/-- Only reading the counter changes the remote's snapshot of it. -/
theorem next_rxAvail (layout : Layout) (remote : Remote) (reply : Nat)
    (elsewhere : remote.pc ≠ .readAvail) :
    (remote.next layout reply).rxAvail = remote.rxAvail := by
  unfold next
  cases at_pc : remote.pc with
  | readAvail => exact absurd at_pc elsewhere
  | send step =>
      cases step with
      | writeMsg done | writeAddr =>
          simp only [nextSend]
          split <;> rfl
      | writeAvail => rfl
      | kick =>
          simp only [nextSend, drainLoop]
          split <;> rfl
  | readHdr done =>
      simp only
      split_ifs <;> rfl
  | suspend | parked | readAddr | readBody done | writeUsed =>
      simp only
      split <;> rfl
  | done | failed => rfl

/-- The remote waits only when it has used as many messages as its snapshot
says. -/
def Counted (remote : Remote) : Prop :=
  match remote.pc with
  | .suspend | .parked => remote.rxCount = remote.rxAvail
  | _ => True

theorem drainLoop_counted (remote : Remote) : remote.drainLoop.Counted := by
  unfold drainLoop
  by_cases remaining : remote.rxCount ≠ remote.rxAvail
  · rw [if_pos remaining]
    trivial
  · rw [if_neg remaining]
    exact not_not.mp remaining

theorem next_counted {layout : Layout} {remote : Remote} (counted : remote.Counted)
    (reply : Nat) : (remote.next layout reply).Counted := by
  unfold Counted at counted
  unfold next
  cases at_pc : remote.pc with
  | suspend | parked =>
      simp only [at_pc] at counted ⊢
      split
      · exact counted
      · trivial
  | readAvail => exact drainLoop_counted _
  | send step =>
      cases step with
      | writeMsg done | writeAddr =>
          simp only [nextSend]
          split <;> trivial
      | writeAvail => trivial
      | kick => exact drainLoop_counted _
  | readHdr done =>
      simp only
      split_ifs <;> trivial
  | readAddr | readBody done | writeUsed =>
      simp only
      split <;> trivial
  | done | failed => simp only [Counted, at_pc]

/-- The remote is neither about to read the counter nor out of its function. -/
def Elsewhere (remote : Remote) : Prop := remote.pc ≠ .readAvail ∧ remote.pc ≠ .failed

/-- The turns a remote can take, as far as the other side can see them. -/
inductive Turn (layout : Layout) (remote : Remote) : Prop where
  | suspend (at_pc : remote.pc = .suspend) (here : remote.access layout = .systemSuspend)
  | wait (at_pc : remote.pc = .parked) (here : remote.access layout = .parked)
  | read (at_pc : remote.pc = .readAvail) (window : Window) (offset : Nat)
      (here : remote.access layout = .readAvail window offset)
  | publish (window : Window) (offset value : Nat)
      (here : remote.access layout = .writeAvail window offset value)
      (elsewhere : remote.Elsewhere) (quiet : ¬ Channel.RemoteKicking remote)
      (kicking : Channel.RemoteKicking (remote.next layout 0))
  | kick (kicking : Channel.RemoteKicking remote) (here : remote.access layout = .irqKick)
      (elsewhere : remote.Elsewhere)
  | finish (here : remote.access layout = .exit)
  | other (kind : (remote.access layout).Private) (elsewhere : remote.Elsewhere)
      (quiet : ¬ Channel.RemoteKicking remote) (awake : ¬ Channel.RemoteWaits remote)

theorem turn (layout : Layout) (remote : Remote) : remote.Turn layout := by
  cases at_pc : remote.pc with
  | suspend =>
      apply Turn.suspend at_pc
      simp only [access, at_pc]
  | parked =>
      apply Turn.wait at_pc
      simp only [access, at_pc]
  | readAvail =>
      apply Turn.read at_pc .remoteShm (layout.shmDescOffsetHToR + shmDescAvailOffset)
      simp only [access, at_pc]
  | done | failed =>
      apply Turn.finish
      simp only [access, at_pc]
  | send step =>
      cases step with
      | writeMsg done | writeAddr =>
          apply Turn.other
          · simp only [access, at_pc, sendAccess]
            split <;> trivial
          · simp only [Elsewhere, at_pc, ne_eq, reduceCtorEq, not_false_eq_true, and_self]
          · simp only [Channel.RemoteKicking, at_pc, reduceCtorEq, RemotePc.send.injEq,
              not_false_eq_true]
          · simp only [Channel.RemoteWaits, at_pc, reduceCtorEq, or_self, not_false_eq_true]
      | writeAvail =>
          apply Turn.publish .remoteShm (layout.shmDescOffsetRToH + shmDescAvailOffset)
            remote.rxCount
          · simp only [access, at_pc, sendAccess]
          · simp only [Elsewhere, at_pc, ne_eq, reduceCtorEq, not_false_eq_true, and_self]
          · simp only [Channel.RemoteKicking, at_pc, reduceCtorEq, RemotePc.send.injEq,
              not_false_eq_true]
          · simp only [next, at_pc, nextSend, Channel.RemoteKicking]
      | kick =>
          apply Turn.kick
          · simp only [Channel.RemoteKicking, at_pc]
          · simp only [access, at_pc, sendAccess]
          · simp only [Elsewhere, at_pc, ne_eq, reduceCtorEq, not_false_eq_true, and_self]
  | readAddr | readHdr | readBody | writeUsed =>
      apply Turn.other
      · simp only [access, at_pc]
        first | trivial | (split <;> trivial)
      · simp only [Elsewhere, at_pc, ne_eq, reduceCtorEq, not_false_eq_true, and_self]
      · simp only [Channel.RemoteKicking, at_pc, reduceCtorEq, not_false_eq_true]
      · simp only [Channel.RemoteWaits, at_pc, reduceCtorEq, or_self, not_false_eq_true]

end Remote

/-! ## The invariant -/

namespace Channel

variable {layout : Layout} {timestamps : Nat -> UInt64} {port : Port} {channel next : Channel}

theorem hostStep_private (kind : (channel.host.access layout).Private) (reply : Option Nat) :
    channel.hostStep layout timestamps reply =
      some { channel with
        host := match reply with
          | none => channel.host.fail
          | some value => channel.host.next layout timestamps value } := by
  unfold hostStep
  cases here : channel.host.access layout with
  | irqKick | testAndSetNkicked | systemSuspend | parked | exit | readAvail | writeAvail =>
      rw [here] at kind
      exact absurd kind id
  | setByte | readByte | writeByte | readAddr | writeAddr | writeUsed | compute =>
      cases reply <;> rfl

theorem remoteStep_private (kind : (channel.remote.access layout).Private) (reply : Option Nat) :
    channel.remoteStep layout port reply =
      some { channel with
        remote := match reply with
          | none => channel.remote.fail
          | some value => channel.remote.next layout value } := by
  unfold remoteStep
  cases here : channel.remote.access layout with
  | irqKick | testAndSetNkicked | systemSuspend | parked | exit | readAvail | writeAvail =>
      rw [here] at kind
      exact absurd kind id
  | setByte | readByte | writeByte | readAddr | writeAddr | writeUsed | compute =>
      cases reply <;> rfl

/-- The remote's snapshot is out of date and it is not about to renew it. -/
def RemoteStale (channel : Channel) : Prop :=
  channel.remote.rxAvail ≠ channel.h2rAvail ∧ channel.remote.Elsewhere

/-- The host's snapshot is out of date and it is not about to renew it. -/
def HostStale (channel : Channel) : Prop :=
  channel.host.rxAvail ≠ channel.r2hAvail ∧ channel.host.Elsewhere

/-- A step that is not about to renew the snapshot finds it out of date if it leaves it so. -/
theorem hostStale_before (elsewhere : channel.host.Elsewhere) (value : Nat)
    (stale : { channel with host := channel.host.next layout timestamps value }.HostStale) :
    channel.HostStale := by
  have same := Host.next_rxAvail layout timestamps channel.host value elsewhere.1
  exact ⟨same ▸ stale.1, elsewhere⟩

theorem remoteStale_before (elsewhere : channel.remote.Elsewhere) (value : Nat)
    (stale : { channel with remote := channel.remote.next layout value }.RemoteStale) :
    channel.RemoteStale := by
  have same := Remote.next_rxAvail layout channel.remote value elsewhere.1
  exact ⟨same ▸ stale.1, elsewhere⟩

/-- A side whose snapshot is out of date will learn of it: its flag is clear,
or a kick is under way. -/
structure Informed (channel : Channel) : Prop where
  hostCounted : channel.host.Counted
  remoteCounted : channel.remote.Counted
  remote : channel.RemoteStale -> channel.irq.irqPending = false ∨ channel.ToRemoteUnderWay
  host : channel.HostStale -> channel.irq.remoteNkicked = false ∨ channel.ToHostUnderWay

theorem initial_informed (config : Config) : (initial config).Informed where
  hostCounted := rfl
  remoteCounted := rfl
  remote := fun stale => absurd rfl stale.1
  host := fun stale => absurd rfl stale.1

/-- A step of the host that moves no counter and kicks nobody. -/
theorem Informed.hostMoves (informed : channel.Informed) (quiet : ¬ HostKicking channel.host)
    {host : Host} (counted : host.Counted)
    (fresh : { channel with host := host }.HostStale -> channel.HostStale) :
    { channel with host := host }.Informed where
  hostCounted := counted
  remoteCounted := informed.remoteCounted
  remote := fun stale => (informed.remote stale).imp id
    (fun underWay => Or.inr (Or.resolve_left underWay quiet))
  host := fun stale => informed.host (fresh stale)

theorem Informed.remoteMoves (informed : channel.Informed)
    (quiet : ¬ RemoteKicking channel.remote) {remote : Remote} (counted : remote.Counted)
    (fresh : { channel with remote := remote }.RemoteStale -> channel.RemoteStale) :
    { channel with remote := remote }.Informed where
  hostCounted := informed.hostCounted
  remoteCounted := counted
  remote := fun stale => informed.remote (fresh stale)
  host := fun stale => (informed.host stale).imp id
    (fun underWay => Or.inr (Or.resolve_left underWay quiet))

/-- An access that fails ends the demo, where nobody waits. -/
theorem Informed.hostFails (informed : channel.Informed) (quiet : ¬ HostKicking channel.host) :
    { channel with host := channel.host.fail }.Informed :=
  informed.hostMoves quiet trivial (fun stale => absurd rfl stale.2.2)

theorem Informed.remoteFails (informed : channel.Informed)
    (quiet : ¬ RemoteKicking channel.remote) :
    { channel with remote := channel.remote.fail }.Informed :=
  informed.remoteMoves quiet trivial (fun stale => absurd rfl stale.2.2)

/-! ## Steps of the host -/

theorem hostStep_informed (informed : channel.Informed) {reply : Option Nat}
    (moved : channel.hostStep layout timestamps reply = some next) : next.Informed := by
  have counted : forall value, (channel.host.next layout timestamps value).Counted :=
    Host.next_counted informed.hostCounted
  cases channel.host.turn layout with
  | test at_pc here =>
      have quiet : ¬ HostKicking channel.host := by
        simp only [HostKicking, at_pc, reduceCtorEq, or_self, not_false_eq_true]
      have elsewhere : channel.host.Elsewhere := by
        simp only [Host.Elsewhere, at_pc, ne_eq, reduceCtorEq, not_false_eq_true, and_self]
      simp only [hostStep, here, Option.some.injEq] at moved
      subst moved
      cases flag : channel.irq.remoteNkicked with
      | false =>
          have reads : (channel.host.next layout timestamps 0).pc = .readAvail := by
            simp only [Host.next, at_pc, if_true]
          simp only [Irq.testAndSetNkicked, flag, Bool.false_eq_true, if_false]
          exact {
            hostCounted := counted 0
            remoteCounted := informed.remoteCounted
            remote := fun stale => (informed.remote stale).imp id
              (fun underWay => Or.inr (Or.resolve_left underWay quiet))
            host := fun stale => absurd reads stale.2.1 }
      | true =>
          have unchanged : { channel.irq with remoteNkicked := true } = channel.irq := by
            rw [← flag]
          simp only [Irq.testAndSetNkicked, flag, if_true, unchanged]
          exact informed.hostMoves quiet (counted 1) (hostStale_before elsewhere 1)
  | read at_pc window offset here =>
      have quiet : ¬ HostKicking channel.host := by
        simp only [HostKicking, at_pc, reduceCtorEq, or_self, not_false_eq_true]
      cases reply with
      | none =>
          simp only [hostStep, here, Option.some.injEq] at moved
          subst moved
          exact informed.hostFails quiet
      | some value =>
          simp only [hostStep, here, Option.some.injEq] at moved
          subst moved
          have renewed : (channel.host.next layout timestamps channel.r2hAvail).rxAvail =
              channel.r2hAvail := by
            simp only [Host.next, at_pc, Host.drainLoop_rxAvail]
          exact informed.hostMoves quiet (counted _) (fun stale => absurd renewed stale.1)
  | publish window offset value here elsewhere quiet kicking =>
      cases reply with
      | none =>
          simp only [hostStep, here, Option.some.injEq] at moved
          subst moved
          exact informed.hostFails quiet
      | some value =>
          simp only [hostStep, here, Option.some.injEq] at moved
          subst moved
          exact {
            hostCounted := counted 0
            remoteCounted := informed.remoteCounted
            remote := fun _ => Or.inr (Or.inl (kicking timestamps))
            host := fun stale => informed.host (hostStale_before elsewhere 0 stale) }
  | kick kicking here elsewhere =>
      simp only [hostStep, here, Option.some.injEq] at moved
      subst moved
      exact {
        hostCounted := counted 0
        remoteCounted := informed.remoteCounted
        remote := fun _ => Or.inr (Or.inr (Or.inl rfl))
        host := fun stale => informed.host (hostStale_before elsewhere 0 stale) }
  | finish here => simp only [hostStep, here, reduceCtorEq] at moved
  | other kind elsewhere quiet =>
      rw [hostStep_private kind] at moved
      have after := Option.some.inj moved
      subst after
      cases reply with
      | none => exact informed.hostFails quiet
      | some value =>
          exact informed.hostMoves quiet (counted value) (hostStale_before elsewhere value)

/-! ## Steps of the remote -/

theorem remoteStep_informed (informed : channel.Informed) {reply : Option Nat}
    (moved : channel.remoteStep layout .generic reply = some next) : next.Informed := by
  have counted : forall value, (channel.remote.next layout value).Counted :=
    Remote.next_counted informed.remoteCounted
  cases channel.remote.turn layout with
  | suspend at_pc here =>
      have quiet : ¬ RemoteKicking channel.remote := by
        simp only [RemoteKicking, at_pc, reduceCtorEq, not_false_eq_true]
      have elsewhere : channel.remote.Elsewhere := by
        simp only [Remote.Elsewhere, at_pc, ne_eq, reduceCtorEq, not_false_eq_true, and_self]
      simp only [remoteStep, here, Option.some.injEq] at moved
      subst moved
      cases flag : channel.irq.irqPending with
      | false =>
          have reads : (channel.remote.next layout 1).pc = .readAvail := by
            simp only [Remote.next, at_pc, Nat.one_ne_zero, if_false]
          simp only [Irq.systemSuspend, flag, Bool.false_eq_true, if_false]
          exact {
            hostCounted := informed.hostCounted
            remoteCounted := counted 1
            remote := fun stale => absurd reads stale.2.1
            host := fun stale => (informed.host stale).imp id
              (fun underWay => Or.inr (Or.resolve_left underWay quiet)) }
      | true =>
          have unchanged : { channel.irq with irqPending := true } = channel.irq := by
            rw [← flag]
          simp only [Irq.systemSuspend, flag, if_true, unchanged]
          exact informed.remoteMoves quiet (counted 0) (remoteStale_before elsewhere 0)
  | wait at_pc here =>
      have quiet : ¬ RemoteKicking channel.remote := by
        simp only [RemoteKicking, at_pc, reduceCtorEq, not_false_eq_true]
      have elsewhere : channel.remote.Elsewhere := by
        simp only [Remote.Elsewhere, at_pc, ne_eq, reduceCtorEq, not_false_eq_true, and_self]
      simp only [remoteStep, here, Irq.parked, Option.some.injEq] at moved
      subst moved
      exact informed.remoteMoves quiet (counted 0) (remoteStale_before elsewhere 0)
  | read at_pc window offset here =>
      have quiet : ¬ RemoteKicking channel.remote := by
        simp only [RemoteKicking, at_pc, reduceCtorEq, not_false_eq_true]
      cases reply with
      | none =>
          simp only [remoteStep, here, Option.some.injEq] at moved
          subst moved
          exact informed.remoteFails quiet
      | some value =>
          simp only [remoteStep, here, Option.some.injEq] at moved
          subst moved
          have renewed : (channel.remote.next layout channel.h2rAvail).rxAvail =
              channel.h2rAvail := by
            simp only [Remote.next, at_pc, Remote.drainLoop]
            split <;> rfl
          exact informed.remoteMoves quiet (counted _) (fun stale => absurd renewed stale.1)
  | publish window offset value here elsewhere quiet kicking =>
      cases reply with
      | none =>
          simp only [remoteStep, here, Option.some.injEq] at moved
          subst moved
          exact informed.remoteFails quiet
      | some _ =>
          simp only [remoteStep, here, Option.some.injEq] at moved
          subst moved
          exact {
            hostCounted := informed.hostCounted
            remoteCounted := counted 0
            remote := fun stale => informed.remote (remoteStale_before elsewhere 0 stale)
            host := fun _ => Or.inr (Or.inl kicking) }
  | kick kicking here elsewhere =>
      simp only [remoteStep, here, Option.some.injEq] at moved
      subst moved
      exact {
        hostCounted := informed.hostCounted
        remoteCounted := counted 0
        remote := fun stale => informed.remote (remoteStale_before elsewhere 0 stale)
        host := fun _ => Or.inr (Or.inr (Or.inl rfl)) }
  | finish here => simp only [remoteStep, here, reduceCtorEq] at moved
  | other kind elsewhere quiet awake =>
      rw [remoteStep_private kind] at moved
      have after := Option.some.inj moved
      subst after
      cases reply with
      | none => exact informed.remoteFails quiet
      | some value =>
          exact informed.remoteMoves quiet (counted value) (remoteStale_before elsewhere value)

/-! ## Steps of the handlers -/

/-- A handler turns a pending kick into one in service, and that into a clear
flag; it forgets none. -/
theorem ipiIrqHandler_informed (informed : channel.Informed) :
    { channel with irq := channel.irq.ipiIrqHandler .generic }.Informed := by
  refine ⟨informed.hostCounted, informed.remoteCounted, ?_, ?_⟩
  · intro stale
    have before := informed.remote stale
    cases isr : channel.irq.remoteIsr with
    | idle =>
        cases bit : channel.irq.toRemote with
        | true =>
            right; right; right
            simp only [Irq.ipiIrqHandler, isr, bit, if_true, ne_eq, reduceCtorEq,
              not_false_eq_true]
        | false =>
            have unchanged : channel.irq.ipiIrqHandler .generic = channel.irq := by
              simp only [Irq.ipiIrqHandler, isr, bit, Bool.false_eq_true, if_false]
            rw [unchanged]
            exact before
    | stopTimer | acknowledge =>
        right; right; right
        simp only [Irq.ipiIrqHandler, isr, ne_eq, reduceCtorEq, not_false_eq_true]
    | wake =>
        left
        simp only [Irq.ipiIrqHandler, isr, Irq.systemResume]
  · intro stale
    have before := informed.host stale
    have frame : (channel.irq.ipiIrqHandler .generic).remoteNkicked = channel.irq.remoteNkicked ∧
        (channel.irq.ipiIrqHandler .generic).toHost = channel.irq.toHost ∧
        (channel.irq.ipiIrqHandler .generic).hostIsr = channel.irq.hostIsr := by
      unfold Irq.ipiIrqHandler
      cases channel.irq.remoteIsr with
      | idle => cases channel.irq.toRemote <;> exact ⟨rfl, rfl, rfl⟩
      | stopTimer | acknowledge | wake => exact ⟨rfl, rfl, rfl⟩
    simp only [ToHostUnderWay, frame.1, frame.2.1, frame.2.2]
    exact before

theorem irqIsr_informed (informed : channel.Informed) :
    { channel with irq := channel.irq.irqIsr }.Informed := by
  refine ⟨informed.hostCounted, informed.remoteCounted, ?_, ?_⟩
  · intro stale
    have before := informed.remote stale
    have frame : channel.irq.irqIsr.irqPending = channel.irq.irqPending ∧
        channel.irq.irqIsr.toRemote = channel.irq.toRemote ∧
        channel.irq.irqIsr.remoteIsr = channel.irq.remoteIsr := by
      unfold Irq.irqIsr
      cases channel.irq.hostIsr with
      | idle => cases channel.irq.toHost <;> exact ⟨rfl, rfl, rfl⟩
      | stopTimer | acknowledge | wake => exact ⟨rfl, rfl, rfl⟩
    simp only [ToRemoteUnderWay, frame.1, frame.2.1, frame.2.2]
    exact before
  · intro stale
    have before := informed.host stale
    cases isr : channel.irq.hostIsr with
    | idle =>
        cases bit : channel.irq.toHost with
        | true =>
            right; right; right
            simp only [Irq.irqIsr, isr, bit, if_true, ne_eq, reduceCtorEq, not_false_eq_true]
        | false =>
            have unchanged : channel.irq.irqIsr = channel.irq := by
              simp only [Irq.irqIsr, isr, bit, Bool.false_eq_true, if_false]
            rw [unchanged]
            exact before
    | stopTimer | acknowledge =>
        right; right; right
        simp only [Irq.irqIsr, isr, ne_eq, reduceCtorEq, not_false_eq_true]
    | wake =>
        left
        simp only [Irq.irqIsr, isr]

theorem step_informed (informed : channel.Informed) {move : Move}
    (moved : channel.step layout timestamps .generic move = some next) : next.Informed := by
  cases move with
  | host reply => exact hostStep_informed informed moved
  | remote reply => exact remoteStep_informed informed moved
  | remoteIsr => exact Option.some.inj moved ▸ ipiIrqHandler_informed informed
  | hostIsr => exact Option.some.inj moved ▸ irqIsr_informed informed

theorem run_informed {schedule : List Move}
    (reached : Transition.run (step layout timestamps .generic) (initial layout.toConfig)
      schedule = some channel) : channel.Informed :=
  Transition.run_invariant (fun _ _ _ informed moved => step_informed informed moved)
    (initial_informed layout.toConfig) reached

/-! ## No lost wake-up -/

/-- The remote waits in `system_suspend()` with `irq_pending` set and nothing
under way, although the host has published something it has not used. -/
structure RemoteLost (channel : Channel) : Prop where
  waits : RemoteWaits channel.remote
  flag : channel.irq.irqPending = true
  bit : channel.irq.toRemote = false
  handler : channel.irq.remoteIsr = .idle
  kicking : ¬ HostKicking channel.host
  behind : channel.remote.rxCount ≠ channel.h2rAvail

/-- The host waits in `wait_for_notified()` with `remote_nkicked` set and
nothing under way, although there are echoes it has not verified. -/
structure HostLost (channel : Channel) : Prop where
  waits : HostWaits channel.host
  flag : channel.irq.remoteNkicked = true
  bit : channel.irq.toHost = false
  handler : channel.irq.hostIsr = .idle
  kicking : ¬ RemoteKicking channel.remote
  behind : channel.host.i ≠ channel.r2hAvail

theorem Informed.not_remoteLost (informed : channel.Informed) : ¬ channel.RemoteLost := by
  intro lost
  have counted := informed.remoteCounted
  have stale : channel.RemoteStale := by
    rcases lost.waits with at_pc | at_pc
    · simp only [Remote.Counted, at_pc] at counted
      refine ⟨counted ▸ lost.behind, ?_, ?_⟩ <;>
        simp only [at_pc, ne_eq, reduceCtorEq, not_false_eq_true]
    · simp only [Remote.Counted, at_pc] at counted
      refine ⟨counted ▸ lost.behind, ?_, ?_⟩ <;>
        simp only [at_pc, ne_eq, reduceCtorEq, not_false_eq_true]
  rcases informed.remote stale with cleared | kicking | bit | serving
  · exact Bool.false_ne_true (cleared.symm.trans lost.flag)
  · exact lost.kicking kicking
  · exact Bool.false_ne_true (lost.bit.symm.trans bit)
  · exact serving lost.handler

theorem Informed.not_hostLost (informed : channel.Informed) : ¬ channel.HostLost := by
  intro lost
  have counted := informed.hostCounted
  have stale : channel.HostStale := by
    rcases lost.waits with at_pc | at_pc
    · simp only [Host.Counted, at_pc] at counted
      refine ⟨counted ▸ lost.behind, ?_, ?_⟩ <;>
        simp only [at_pc, ne_eq, reduceCtorEq, not_false_eq_true]
    · simp only [Host.Counted, at_pc] at counted
      refine ⟨counted ▸ lost.behind, ?_, ?_⟩ <;>
        simp only [at_pc, ne_eq, reduceCtorEq, not_false_eq_true]
  rcases informed.host stale with cleared | kicking | bit | serving
  · exact Bool.false_ne_true (cleared.symm.trans lost.flag)
  · exact lost.kicking kicking
  · exact Bool.false_ne_true (lost.bit.symm.trans bit)
  · exact serving lost.handler

/-- With the bare-metal port no interleaving loses a wake-up of either side. A state lies between
any two accesses of the two programs and their interrupt handlers, so an interrupt may arrive
between a test and the wait behind it. Neither fairness nor a bound on the run is needed, since a
lost wake-up is a state and not the absence of a step. -/
theorem no_lost_wakeup (layout : Layout) (timestamps : Nat -> UInt64) (schedule : List Move)
    (channel : Channel)
    (reached : Transition.run (step layout timestamps .generic) (initial layout.toConfig)
      schedule = some channel) :
    ¬ channel.RemoteLost ∧ ¬ channel.HostLost :=
  ⟨(run_informed reached).not_remoteLost, (run_informed reached).not_hostLost⟩

/-- The host publishes and kicks; the handler runs, and the remote, which has
not waited yet, returns from `system_suspend()` at once and reads the counter. -/
theorem smallLayout_no_lost_wakeup : Exists fun channel =>
    Transition.run (step smallLayout (fun _ => 0) .generic) (initial smallLayout.toConfig)
      (List.replicate 119 (.host (some 0)) ++ List.replicate 4 .remoteIsr ++
        List.replicate 2 (.remote (some 0))) = some channel ∧
    channel.remote.rxAvail = 1 ∧ ¬ channel.RemoteLost ∧ ¬ channel.HostLost := by
  have complete : (Transition.run (step smallLayout (fun _ => 0) .generic)
      (initial smallLayout.toConfig) (List.replicate 119 (.host (some 0)) ++
        List.replicate 4 .remoteIsr ++ List.replicate 2 (.remote (some 0)))).map
        (fun channel => channel.remote.rxAvail) = some 1 := by
    decide +kernel
  rcases Option.map_eq_some_iff.mp complete with ⟨channel, reached, seen⟩
  exact ⟨channel, reached, seen, no_lost_wakeup smallLayout (fun _ => 0) _ channel reached⟩

end Channel
end IrqShmem
end OpenAmpReference
