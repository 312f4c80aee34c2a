import OpenAmpReference.IrqShmem.Wakeup

namespace OpenAmpReference
namespace IrqShmem

/-!
# The FreeRTOS port against the bare-metal port

The bare-metal port remembers a resume in its flag; the FreeRTOS port does
not: resuming a task that is not suspended has no effect.  The bit `owed`
records a resume that has run outside `system_suspend()` and that no later
return of it has answered.  A run of the FreeRTOS port in which the task never
suspends while a resume is owed is a run of the bare-metal port.  The
condition is exact: a task that suspends while one is owed is blocked at once.
-/

namespace Irq

/-- The handlers of the two ports differ in what a resume does. -/
theorem ipiIrqHandler_withFlags (irq : Irq) (irqPending : Bool) :
    ipiIrqHandler .generic { irq with irqPending := irqPending, suspended := false } =
      { irq.ipiIrqHandler .freertos with
        irqPending := if irq.remoteIsr = .wake then false else irqPending
        suspended := false } := by
  rcases irq with ⟨toRemote, toHost, remoteIsr, hostIsr, pending, suspended, nkicked⟩
  cases remoteIsr with
  | idle => cases toRemote <;> rfl
  | stopTimer | acknowledge | wake => rfl

theorem ipiIrqHandler_suspended (irq : Irq) :
    (irq.ipiIrqHandler .freertos).suspended =
      if irq.remoteIsr = .wake then false else irq.suspended := by
  rcases irq with ⟨toRemote, toHost, remoteIsr, hostIsr, pending, suspended, nkicked⟩
  cases remoteIsr with
  | idle => cases toRemote <;> rfl
  | stopTimer | acknowledge | wake => rfl

theorem irqIsr_withFlags (irq : Irq) (irqPending suspended : Bool) :
    irqIsr { irq with irqPending := irqPending, suspended := suspended } =
      { irq.irqIsr with irqPending := irqPending, suspended := suspended } := by
  rcases irq with ⟨toRemote, toHost, remoteIsr, hostIsr, pending, suspended, nkicked⟩
  cases hostIsr with
  | idle => cases toHost <;> rfl
  | stopTimer | acknowledge | wake => rfl

theorem irqIsr_suspended (irq : Irq) : irq.irqIsr.suspended = irq.suspended := by
  rcases irq with ⟨toRemote, toHost, remoteIsr, hostIsr, pending, suspended, nkicked⟩
  cases hostIsr with
  | idle => cases toHost <;> rfl
  | stopTimer | acknowledge | wake => rfl

end Irq

namespace Channel

/-- The same channel with the two wake-up flags replaced. -/
def withFlags (channel : Channel) (irqPending suspended : Bool) : Channel :=
  { channel with irq := { channel.irq with irqPending := irqPending, suspended := suspended } }

variable {layout : Layout} {timestamps : Nat -> UInt64}

/-- The host does not see the remote's wake-up flags. -/
theorem hostStep_withFlags (channel : Channel) (reply : Option Nat)
    (irqPending suspended : Bool) :
    (channel.withFlags irqPending suspended).hostStep layout timestamps reply =
      (channel.hostStep layout timestamps reply).map
        (fun next => next.withFlags irqPending suspended) := by
  unfold hostStep
  cases here : channel.host.access layout <;> cases reply <;>
    simp only [withFlags, here, Option.map_none, Option.map_some] <;> rfl

theorem hostStep_frame {channel next : Channel} {reply : Option Nat}
    (moved : channel.hostStep layout timestamps reply = some next) :
    next.remote = channel.remote ∧ next.irq.suspended = channel.irq.suspended := by
  unfold hostStep at moved
  cases here : channel.host.access layout <;> cases reply <;>
    simp only [here, Option.some.injEq, reduceCtorEq] at moved <;> subst moved <;>
    exact ⟨rfl, rfl⟩

/-- Outside `system_suspend()` the ports do not differ. -/
theorem remoteStep_withFlags (layout : Layout) (channel : Channel) (awake : ¬ RemoteWaits channel.remote)
    (reply : Option Nat) (irqPending suspended : Bool) :
    (channel.withFlags irqPending suspended).remoteStep layout .generic reply =
      (channel.remoteStep layout .freertos reply).map
        (fun next => next.withFlags irqPending suspended) := by
  cases channel.remote.turn layout with
  | suspend at_pc here => exact absurd (Or.inl at_pc) awake
  | wait at_pc here => exact absurd (Or.inr at_pc) awake
  | read at_pc window offset here =>
      cases reply <;> simp only [remoteStep, withFlags, here, Option.map_some]
  | publish window offset value here elsewhere quiet kicking =>
      cases reply <;> simp only [remoteStep, withFlags, here, Option.map_some]
  | kick kicking here elsewhere =>
      simp only [remoteStep, withFlags, here, Option.map_some, Irq.kickHost]
  | finish here => simp only [remoteStep, withFlags, here, Option.map_none]
  | other kind elsewhere quiet _ =>
      have same : ((channel.withFlags irqPending suspended).remote.access layout).Private := kind
      rw [remoteStep_private kind, remoteStep_private same]
      rfl

end Channel

/-- Only `system_suspend()` parks the remote. -/
theorem Remote.next_not_parked (layout : Layout) (remote : Remote) (reply : Nat)
    (awake : ¬ Channel.RemoteWaits remote) : (remote.next layout reply).pc ≠ .parked := by
  have drained : forall other : Remote, other.drainLoop.pc ≠ .parked := by
    intro other
    unfold drainLoop
    split <;> simp only [ne_eq, reduceCtorEq, not_false_eq_true]
  unfold next
  cases at_pc : remote.pc with
  | suspend => exact absurd (Or.inl at_pc) awake
  | parked => exact absurd (Or.inr at_pc) awake
  | readAvail => exact drained _
  | send step =>
      cases step with
      | writeMsg done | writeAddr =>
          simp only [nextSend, fail]
          split <;> simp only [ne_eq, reduceCtorEq, not_false_eq_true]
      | writeAvail => simp only [nextSend, ne_eq, reduceCtorEq, not_false_eq_true]
      | kick => exact drained _
  | readHdr done =>
      simp only [fail]
      split_ifs <;> simp only [ne_eq, reduceCtorEq, not_false_eq_true]
  | readAddr | readBody done | writeUsed =>
      simp only [fail]
      split <;> simp only [ne_eq, reduceCtorEq, not_false_eq_true]
  | done | failed => simp only [at_pc, ne_eq, reduceCtorEq, not_false_eq_true]

theorem Channel.remoteStep_frame {layout : Layout} {channel next : Channel}
    (awake : ¬ RemoteWaits channel.remote) {reply : Option Nat}
    (moved : channel.remoteStep layout .freertos reply = some next) :
    next.remote.pc ≠ .parked ∧ next.irq.suspended = channel.irq.suspended := by
  have elsewhere : forall value, (channel.remote.next layout value).pc ≠ .parked :=
    fun value => channel.remote.next_not_parked layout value awake
  have left : channel.remote.fail.pc ≠ .parked := by
    simp only [Remote.fail, ne_eq, reduceCtorEq, not_false_eq_true]
  cases channel.remote.turn layout with
  | suspend at_pc here => exact absurd (Or.inl at_pc) awake
  | wait at_pc here => exact absurd (Or.inr at_pc) awake
  | read at_pc window offset here =>
      cases reply with
      | none =>
          simp only [remoteStep, here, Option.some.injEq] at moved
          exact moved ▸ ⟨left, rfl⟩
      | some value =>
          simp only [remoteStep, here, Option.some.injEq] at moved
          exact moved ▸ ⟨elsewhere _, rfl⟩
  | publish window offset value here elsewhere' quiet kicking =>
      cases reply with
      | none =>
          simp only [remoteStep, here, Option.some.injEq] at moved
          exact moved ▸ ⟨left, rfl⟩
      | some _ =>
          simp only [remoteStep, here, Option.some.injEq] at moved
          exact moved ▸ ⟨elsewhere _, rfl⟩
  | kick kicking here elsewhere' =>
      simp only [remoteStep, here, Option.some.injEq] at moved
      exact moved ▸ ⟨elsewhere _, rfl⟩
  | finish here => simp only [remoteStep, here, reduceCtorEq] at moved
  | other kind elsewhere' quiet _ =>
      rw [remoteStep_private kind] at moved
      cases reply with
      | none => exact Option.some.inj moved ▸ ⟨left, rfl⟩
      | some value => exact Option.some.inj moved ▸ ⟨elsewhere value, rfl⟩

/-! ## The task of the FreeRTOS port -/

/-- A channel whose remote runs as a FreeRTOS task, and whether a resume is
owed to it. -/
structure Task where
  channel : Channel
  owed : Bool
  deriving DecidableEq, Repr

namespace Task

def initial (config : Config) : Task where
  channel := Channel.initial config
  owed := false

/-- `vTaskSuspend()` of a parked task returns at its next step; a resume that
runs while the task is not inside `system_suspend()` is owed. -/
def owedAfter (task : Task) : Move -> Bool
  | .remote _ => if task.channel.remote.pc = .parked then false else task.owed
  | .remoteIsr =>
      if task.channel.irq.remoteIsr = .wake ∧ task.channel.remote.pc ≠ .parked then true
      else task.owed
  | _ => task.owed

def step (layout : Layout) (timestamps : Nat -> UInt64) (task : Task) (move : Move) :
    Option Task :=
  (task.channel.step layout timestamps .freertos move).map
    (fun next => { channel := next, owed := task.owedAfter move })

/-- The task is suspended: it does not run until it is resumed. -/
def Blocked (task : Task) : Prop :=
  task.channel.remote.pc = .parked ∧ task.channel.irq.suspended = true

/-- The task is suspended with messages left and no kick outstanding. -/
def LeftSuspended (task : Task) : Prop :=
  task.Blocked ∧ task.channel.remote.rxCount ≠ task.channel.h2rAvail ∧
    ¬ task.channel.ToRemoteUnderWay

/-- The bare-metal channel the task corresponds to: its flag is set while the
task is suspended, and when it runs with no resume owed. -/
def bareMetal (task : Task) : Channel :=
  task.channel.withFlags
    (if task.channel.remote.pc = .parked then task.channel.irq.suspended else !task.owed) false

/-- The FreeRTOS port does what the bare-metal port does. -/
structure Refines (layout : Layout) (timestamps : Nat -> UInt64) (task : Task) : Prop where
  /- A resume that has run since the last return makes the next suspend return. -/
  served : task.owed = true -> ¬ task.Blocked
  notLeft : ¬ task.LeftSuspended
  /- The bare-metal port can reach the same programs, counters and interrupts. -/
  reachable : Exists fun schedule =>
    Transition.run (Channel.step layout timestamps .generic) (Channel.initial layout.toConfig)
      schedule = some task.bareMetal

/-- The task does not call `system_suspend()` while a resume is owed. -/
def SuspendsUnowed (task : Task) : Move -> Prop
  | .remote _ => task.channel.remote.pc = .suspend -> task.owed = false
  | _ => True

/-- Along runs that meet the condition. -/
structure Tracked (layout : Layout) (timestamps : Nat -> UInt64) (task : Task) : Prop where
  parked : task.channel.remote.pc = .parked -> task.owed = false
  running : task.channel.remote.pc ≠ .parked -> task.channel.irq.suspended = false
  reachable : Exists fun schedule =>
    Transition.run (Channel.step layout timestamps .generic) (Channel.initial layout.toConfig)
      schedule = some task.bareMetal

variable {layout : Layout} {timestamps : Nat -> UInt64} {task next : Task}

theorem initial_tracked : (initial layout.toConfig).Tracked layout timestamps where
  parked := fun _ => rfl
  running := fun _ => rfl
  reachable := ⟨[], rfl⟩

/-- What is tracked implies the refinement; that the task is never left
suspended is inherited from the bare-metal port. -/
theorem Tracked.refines (tracked : task.Tracked layout timestamps) :
    task.Refines layout timestamps where
  served := by
    intro owed blocked
    exact Bool.false_ne_true ((tracked.parked blocked.1).symm.trans owed)
  notLeft := by
    rintro ⟨blocked, behind, idle⟩
    rcases tracked.reachable with ⟨schedule, reached⟩
    apply (Channel.run_informed reached).not_remoteLost
    exact {
      waits := Or.inr blocked.1
      flag := (if_pos blocked.1).trans blocked.2
      bit := Bool.eq_false_iff.mpr (fun bit => idle (Or.inr (Or.inl bit)))
      handler := by
        apply Classical.byContradiction
        exact fun serving => idle (Or.inr (Or.inr serving))
      kicking := fun kicking => idle (Or.inl kicking)
      behind := behind }
  reachable := tracked.reachable

/-- The bare-metal port follows with a few more steps. -/
theorem Tracked.follow (tracked : task.Tracked layout timestamps) {bareMetal : Channel}
    (moves : List Move)
    (follows : Transition.run (Channel.step layout timestamps .generic) task.bareMetal moves =
      some bareMetal) :
    Exists fun schedule =>
      Transition.run (Channel.step layout timestamps .generic)
        (Channel.initial layout.toConfig) schedule = some bareMetal := by
  rcases tracked.reachable with ⟨schedule, reached⟩
  exact ⟨schedule ++ moves, (Transition.run_append schedule moves).mpr ⟨_, reached, follows⟩⟩

theorem Tracked.hostMoves (tracked : task.Tracked layout timestamps) {reply : Option Nat}
    {channel : Channel}
    (moved : task.channel.hostStep layout timestamps reply = some channel) :
    { task with channel := channel }.Tracked layout timestamps := by
  rcases Channel.hostStep_frame moved with ⟨remote, suspended⟩
  refine ⟨?_, ?_, ?_⟩
  · rw [remote]
    exact tracked.parked
  · rw [remote, suspended]
    exact tracked.running
  · apply tracked.follow [.host reply]
    apply Transition.run_singleton
    show (task.bareMetal).hostStep layout timestamps reply = _
    rw [bareMetal, Channel.hostStep_withFlags, moved, Option.map_some, bareMetal, remote, suspended]

/-- Suspending with nothing owed, both ports wait. -/
theorem Tracked.suspends (tracked : task.Tracked layout timestamps)
    (at_pc : task.channel.remote.pc = .suspend) (unowed : task.owed = false)
    {reply : Option Nat} (moved : task.step layout timestamps (.remote reply) = some next) :
    next.Tracked layout timestamps := by
  have elsewhere : task.channel.remote.pc ≠ .parked := by
    simp only [at_pc, ne_eq, reduceCtorEq, not_false_eq_true]
  have here : task.channel.remote.access layout = .systemSuspend := by
    simp only [Remote.access, at_pc]
  have parks : task.channel.remote.next layout 0 = { task.channel.remote with pc := .parked } := by
    simp only [Remote.next, at_pc, if_true]
  simp only [step, Channel.step, Channel.remoteStep, here, Irq.systemSuspend, parks, owedAfter,
    if_neg elsewhere, Option.map_some, Option.some.injEq] at moved
  subst moved
  refine ⟨fun _ => unowed, fun other => absurd rfl other, ?_⟩
  apply tracked.follow [.remote reply]
  apply Transition.run_singleton
  simp only [Channel.step, Channel.remoteStep, bareMetal, Channel.withFlags, here,
    if_neg elsewhere, unowed, Irq.systemSuspend, Bool.not_false, if_true, parks]

/-- A resumed task returns at once; the bare-metal loop tests its flag once
more. -/
theorem Tracked.returns (tracked : task.Tracked layout timestamps)
    (at_pc : task.channel.remote.pc = .parked) {reply : Option Nat}
    (moved : task.step layout timestamps (.remote reply) = some next) :
    next.Tracked layout timestamps := by
  have here : task.channel.remote.access layout = .parked := by
    simp only [Remote.access, at_pc]
  have reads : task.channel.remote.next layout 1 =
      { task.channel.remote with pc := .readAvail } := by
    simp only [Remote.next, at_pc, Nat.one_ne_zero, if_false]
  cases resumed : task.channel.irq.suspended with
  | true =>
      simp only [step, Channel.step, Channel.remoteStep, here, Irq.parked, resumed, if_true,
        Option.map_none, reduceCtorEq] at moved
  | false =>
      simp only [step, Channel.step, Channel.remoteStep, here, Irq.parked, resumed,
        Bool.false_eq_true, if_false, reads, owedAfter, if_pos at_pc, Option.map_some,
        Option.some.injEq] at moved
      subst moved
      refine ⟨fun _ => rfl, fun _ => resumed, ?_⟩
      apply tracked.follow [.remote reply, .remote reply]
      simp only [Transition.run, Channel.step, Channel.remoteStep, bareMetal, Channel.withFlags,
        resumed, Irq.parked, Irq.systemSuspend, Remote.next, at_pc,
        Remote.access, Option.bind_some, if_true, Bool.false_eq_true, if_false, Nat.one_ne_zero,
        reduceCtorEq, Bool.not_false]

/-- While the task runs the ports take the same steps. -/
theorem Tracked.runs (tracked : task.Tracked layout timestamps)
    (awake : ¬ Channel.RemoteWaits task.channel.remote) {reply : Option Nat}
    (moved : task.step layout timestamps (.remote reply) = some next) :
    next.Tracked layout timestamps := by
  have elsewhere : task.channel.remote.pc ≠ .parked := fun at_pc => awake (Or.inr at_pc)
  rcases Option.map_eq_some_iff.mp moved with ⟨channel, performed, after⟩
  subst after
  rcases Channel.remoteStep_frame awake performed with ⟨notParked, suspended⟩
  refine ⟨fun at_pc => absurd at_pc notParked, fun _ => ?_, ?_⟩
  · exact suspended.trans (tracked.running elsewhere)
  · apply tracked.follow [.remote reply]
    apply Transition.run_singleton
    have same := Channel.remoteStep_withFlags layout task.channel awake reply (!task.owed) false
    rw [show task.channel.remoteStep layout .freertos reply = some channel from performed] at same
    simp only [bareMetal, if_neg elsewhere, if_neg notParked, owedAfter]
    exact same

/-- A resume clears the flag of the bare-metal port; it resumes the task, or is
owed to it. -/
theorem Tracked.handles (tracked : task.Tracked layout timestamps)
    (moved : task.step layout timestamps .remoteIsr = some next) :
    next.Tracked layout timestamps := by
  simp only [step, Channel.step, Option.map_some, Option.some.injEq] at moved
  subst moved
  refine ⟨?_, ?_, ?_⟩
  · intro at_pc
    have here : task.channel.remote.pc = .parked := at_pc
    simp only [owedAfter, here, ne_eq, not_true_eq_false, and_false, if_false]
    exact tracked.parked here
  · intro elsewhere
    have running := tracked.running elsewhere
    simp only [Irq.ipiIrqHandler]
    cases task.channel.irq.remoteIsr with
    | idle => cases task.channel.irq.toRemote <;> exact running
    | stopTimer | acknowledge => exact running
    | wake => rfl
  · apply tracked.follow [.remoteIsr]
    apply Transition.run_singleton
    simp only [Channel.step, bareMetal, Channel.withFlags, Irq.ipiIrqHandler_withFlags, owedAfter,
      Irq.ipiIrqHandler_suspended]
    by_cases at_pc : task.channel.remote.pc = .parked
    · simp only [at_pc, if_true, ne_eq, not_true_eq_false, and_false, if_false]
    · by_cases wakes : task.channel.irq.remoteIsr = .wake
      · simp only [at_pc, wakes, if_true, if_false, ne_eq, not_false_eq_true, and_self, Bool.not_true]
      · simp only [at_pc, wakes, if_false, false_and]

theorem step_tracked (tracked : task.Tracked layout timestamps) {move : Move}
    (unowed : task.SuspendsUnowed move) (moved : task.step layout timestamps move = some next) :
    next.Tracked layout timestamps := by
  cases move with
  | host reply =>
      rcases Option.map_eq_some_iff.mp moved with ⟨channel, performed, after⟩
      subst after
      exact tracked.hostMoves performed
  | remote reply =>
      by_cases awake : Channel.RemoteWaits task.channel.remote
      · rcases awake with at_pc | at_pc
        · exact tracked.suspends at_pc (unowed at_pc) moved
        · exact tracked.returns at_pc moved
      · exact tracked.runs awake moved
  | remoteIsr => exact tracked.handles moved
  | hostIsr =>
      simp only [step, Channel.step, Option.map_some, Option.some.injEq] at moved
      subst moved
      refine ⟨tracked.parked, ?_, ?_⟩
      · intro elsewhere
        rw [Irq.irqIsr_suspended]
        exact tracked.running elsewhere
      · apply tracked.follow [.hostIsr]
        apply Transition.run_singleton
        simp only [Channel.step, bareMetal, Channel.withFlags, Irq.irqIsr_withFlags, owedAfter,
          Irq.irqIsr_suspended]

/-- A task that suspends while a resume is owed is blocked. -/
theorem suspend_owed_blocks (at_pc : task.channel.remote.pc = .suspend) (owed : task.owed = true)
    (reply : Option Nat) : Exists fun next =>
      task.step layout timestamps (.remote reply) = some next ∧
        next.owed = true ∧ next.Blocked := by
  have here : task.channel.remote.access layout = .systemSuspend := by
    simp only [Remote.access, at_pc]
  have performed : task.step layout timestamps (.remote reply) =
      some {
        channel := { task.channel with
          remote := { task.channel.remote with pc := .parked }
          irq := { task.channel.irq with suspended := true } }
        owed := task.owed } := by
    simp only [step, Channel.step, Channel.remoteStep, here, Irq.systemSuspend, Remote.next, at_pc,
      if_true, owedAfter, reduceCtorEq, if_false, Option.map_some]
  exact ⟨_, performed, owed, rfl, rfl⟩

/-- The FreeRTOS port refines the bare-metal port throughout a run exactly when the task never
suspends while a resume is owed. The condition is about the state before a step, and the run is
any one: a resume from an interrupt handler that finds the task running is dropped by the kernel,
as its documentation says, and that is what is owed. -/
theorem freertos_refines_iff (layout : Layout) (timestamps : Nat -> UInt64)
    (schedule : List Move) :
    Transition.Always (Refines layout timestamps) (step layout timestamps)
      (initial layout.toConfig) schedule ↔
    Transition.Guarded SuspendsUnowed (step layout timestamps) (initial layout.toConfig)
      schedule := by
  refine Transition.always_iff_guarded (Tracked layout timestamps)
    (fun _ tracked => tracked.refines)
    (fun _ _ _ tracked unowed moved => step_tracked tracked unowed moved) ?_ schedule
    initial_tracked
  intro task move next _ moved refines
  cases move with
  | host reply | remoteIsr | hostIsr => trivial
  | remote reply =>
      intro at_pc
      cases owed : task.owed with
      | false => rfl
      | true =>
          rcases suspend_owed_blocks at_pc owed reply with ⟨blocked, suspends, stillOwed, stuck⟩
          have same : blocked = next := Option.some.inj (suspends.symm.trans moved)
          exact absurd (same ▸ stuck) (refines.served (same ▸ stillOwed))

/-- A program counter's steps whose accesses return the given bytes. -/
def replies (move : Option Nat -> Move) (bytes : List Nat) : List Move :=
  bytes.map (fun byte => move (some byte))

/-- The header and the body of message 0, as read. -/
def messageZero : List Nat :=
  [0, 0, 0, 0, 8, 0, 0, 0] ++ List.replicate 10 0

/-- One packet.  The host publishes it while the task waits, the task echoes
it, the host verifies the echo, publishes the shutdown message and kicks.  The
resume runs before the task suspends again. -/
def droppedResume : List Move :=
  (replies Move.host (List.replicate 119 0) ++ replies Move.remote [0]) ++
  (List.replicate 4 Move.remoteIsr ++
    replies Move.remote ([0, 0, 96] ++ messageZero ++ List.replicate 21 0)) ++
  (List.replicate 4 Move.hostIsr ++
    replies Move.host ([0, 0, 128] ++ messageZero ++ [0] ++ messageZero ++
      List.replicate 20 0)) ++
  (List.replicate 4 Move.remoteIsr ++ replies Move.remote [0])

/-- The resume is dropped: the task is left suspended although the shutdown
message is published, and no kick is outstanding. -/
theorem droppedResume_not_refines :
    (Exists fun task =>
      Transition.run (step smallLayout (fun _ => 0)) (initial smallLayout.toConfig)
        droppedResume = some task ∧ task.owed = true ∧ task.LeftSuspended) ∧
    ¬ Transition.Always (Refines smallLayout (fun _ => 0)) (step smallLayout (fun _ => 0))
      (initial smallLayout.toConfig) droppedResume := by
  have complete : (Transition.run (step smallLayout (fun _ => 0)) (initial smallLayout.toConfig)
      droppedResume).map (fun task => (task.owed, task.channel.remote.pc, task.channel.remote.rxCount,
        task.channel.h2rAvail, task.channel.host.pc, task.channel.irq)) =
      some (true, .parked, 1, 2, .done,
        { Irq.initial with irqPending := true, suspended := true, remoteNkicked := true }) := by
    decide +kernel
  rcases Option.map_eq_some_iff.mp complete with ⟨task, reached, ends⟩
  simp only [Prod.mk.injEq] at ends
  rcases ends with ⟨owed, remote, rxCount, h2rAvail, host, irq⟩
  have blocked : task.Blocked := ⟨remote, by rw [irq]⟩
  have left : task.LeftSuspended := by
    refine ⟨blocked, ?_, ?_⟩
    · rw [rxCount, h2rAvail]
      decide
    · simp only [Channel.ToRemoteUnderWay, Channel.HostKicking, host, irq, Irq.initial,
        reduceCtorEq, Bool.false_eq_true, ne_eq, not_true_eq_false, or_self, not_false_eq_true]
  exact ⟨⟨task, reached, owed, left⟩, fun always => (always.last reached).notLeft left⟩

end Task
end IrqShmem
end OpenAmpReference
