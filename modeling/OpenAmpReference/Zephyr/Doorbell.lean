import OpenAmpReference.Library.EventLoop
import OpenAmpReference.Library.Fairness
import OpenAmpReference.Zephyr.ShellSend

namespace OpenAmpReference
namespace Doorbell

/-!
# The two guests behind their doorbells

On each guest an interrupt handler raises a signal and the event loop of the
backend empties the virtqueue; messages are handled there, one after the
other.  The host's initialisation waits for the announcement of the remote's
endpoint, and its shell waits for echoes.  Both event loops have registered
their handlers, and a message is taken from the queue of a guest only when
its endpoint exists, since nothing is sent to it before.

The shell is the one of `ShellSend`; every step here is one of its steps or
none.
-/

open ShellSend (Returned Message Stage Command)

/-- Where the main thread of the host is -/
inductive HostMain
  | initVdev
  | takeEptSem
  | createEpt
  | done
  deriving DecidableEq, Repr

/-- Where the main thread of the remote is.  It initialises once the host's status says so, and
`main()` returns early when the endpoint cannot be announced. -/
inductive RemoteMain
  | initVdev
  | createEpt
  | failed
  | done
  deriving DecidableEq, Repr

/-- The guests, the announcement on its way to the host, the commands that the user is going to
type, and those that have returned. -/
structure System where
  hostMain : HostMain
  remoteMain : RemoteMain
  eptSem : Nat
  announcement : Bool
  host : EventLoop
  remote : EventLoop
  shell : ShellSend.World
  script : List (List UInt8 × Int)
  log : List Returned

inductive Actor
  | hostMain
  | hostInterrupt
  | hostLoop
  | shell
  | remoteMain
  | remoteInterrupt
  | remoteLoop
  deriving DecidableEq, Repr

/-- A step, with the status of the send that it may make, the announcement of the remote among
them.  The shell's timer may run out. -/
inductive Label
  | hostMain
  | hostInterrupt
  | hostLoop
  | shell (status : Int)
  | timeout
  | remoteMain (status : Int)
  | remoteInterrupt
  | remoteLoop (status : Int)
  deriving DecidableEq, Repr

def Label.actor : Label -> Actor
  | .hostMain => .hostMain
  | .hostInterrupt => .hostInterrupt
  | .hostLoop => .hostLoop
  | .shell _ | .timeout => .shell
  | .remoteMain _ => .remoteMain
  | .remoteInterrupt => .remoteInterrupt
  | .remoteLoop _ => .remoteLoop

namespace System

/-- Before `rpmsg_init_vdev()` on both guests -/
def initial (script : List (List UInt8 × Int)) : System where
  hostMain := .initVdev
  remoteMain := .initVdev
  eptSem := 0
  announcement := false
  host := EventLoop.asleep
  remote := EventLoop.asleep
  shell := ShellSend.World.initial
  script := script
  log := []

/-- The command that has returned between two states of the shell -/
def recorded (before after : ShellSend.World) : List Returned :=
  if before.command.isSome && after.command.isNone then after.last.toList else []

/-- The shell and the channels between the endpoints have gone on. -/
def after (system : System) (shell : ShellSend.World) : System :=
  { system with shell := shell, log := system.log ++ recorded system.shell shell }

def shellStep (system : System) (event : ShellSend.Event) : Option System :=
  (ShellSend.step system.shell event).map system.after

/-! ## The host -/

/-- `init_ivshmem_backend()` and `main()` of the host -/
def hostMainStep (system : System) : Option System :=
  match system.hostMain with
  | .initVdev => some { system with hostMain := .takeEptSem }
  | .takeEptSem =>
      if 0 < system.eptSem then
        some { system with hostMain := .createEpt, eptSem := system.eptSem - 1 }
      else none
  | .createEpt => { system with hostMain := .done }.shellStep .deviceReady
  | .done => none

/-- `ns_bind_cb()` -/
def nsBindCb (system : System) : System :=
  { system with announcement := false, eptSem := min (system.eptSem + 1) 1 }

/-- `ivshmem_event_loop_thread()` of the host.  A guest that has handed buffers back rings,
unless the virtqueue suppresses it. -/
def hostLoopStep (tells : Bool) (system : System) : Option System :=
  match system.host.place with
  | .polling | .woken => system.host.advance.map fun loop => { system with host := loop }
  | .draining found =>
      if system.announcement then some { system with host := system.host.finds }.nsBindCb
      else if system.shell.toHost = [] then
        some { system with
          host := system.host.rest
          remote := if tells && found then system.remote.ring else system.remote }
      else { system with host := system.host.finds }.shellStep .hostReceives

/-- The shell thread.  The user types the next command when the communication is ready and the
last one has returned. -/
def shellThreadStep (status : Int) (system : System) : Option System :=
  match system.shell.command with
  | none =>
      match system.script with
      | [] => none
      | (text, count) :: later =>
          if system.shell.ready then
            { system with script := later }.shellStep (.command text count)
          else none
  | some command =>
      match command.stage with
      | .send =>
          { system with
            remote := if status < 0 then system.remote else system.remote.ring }.shellStep
              (.sendReturns status)
      | .take => system.shellStep .semTake
      | .waiting => none
      | .granted => system.shellStep .wake

/-! ## The remote -/

/-- `init_ivshmem_backend()` and `main()` of the remote; the endpoint is announced, and
`rpmsg_create_ept()` returns the status of that. -/
def remoteMainStep (status : Int) (system : System) : Option System :=
  match system.remoteMain with
  | .initVdev =>
      if system.hostMain = .initVdev then none else some { system with remoteMain := .createEpt }
  | .createEpt =>
      if status ≠ 0 then some { system with remoteMain := .failed }
      else some { system with remoteMain := .done, announcement := true, host := system.host.ring }
  | .failed | .done => none

/-- `ivshmem_event_loop_thread()` of the remote -/
def remoteLoopStep (tells : Bool) (status : Int) (system : System) : Option System :=
  match system.remote.place with
  | .polling | .woken => system.remote.advance.map fun loop => { system with remote := loop }
  | .draining found =>
      if system.shell.toRemote = [] then
        some { system with
          remote := system.remote.rest
          host := if tells && found then system.host.ring else system.host }
      else
        { system with
          remote := system.remote.finds
          host := if status < 0 then system.host else system.host.ring }.shellStep
            (.remoteReceives status)

def step (tells : Bool) (system : System) : Label -> Option System
  | .hostMain => system.hostMainStep
  | .hostInterrupt => system.host.interrupt.map fun loop => { system with host := loop }
  | .hostLoop => system.hostLoopStep tells
  | .shell status => system.shellThreadStep status
  | .timeout => system.shellStep .timeout
  | .remoteMain status => system.remoteMainStep status
  | .remoteInterrupt => system.remote.interrupt.map fun loop => { system with remote := loop }
  | .remoteLoop status => system.remoteLoopStep tells status

/-! ## The steps -/

section Moves

variable {tells : Bool} {system next : System}

/-- Everything the guests can do -/
inductive Moves (tells : Bool) (system : System) : Label -> System -> Prop
  | initialises (at_main : system.hostMain = .initVdev) :
      Moves tells system .hostMain { system with hostMain := .takeEptSem }
  | passes (at_main : system.hostMain = .takeEptSem) (given : 0 < system.eptSem) :
      Moves tells system .hostMain
        { system with hostMain := .createEpt, eptSem := system.eptSem - 1 }
  | readies (at_main : system.hostMain = .createEpt) :
      Moves tells system .hostMain
        ({ system with hostMain := .done }.after { system.shell with ready := true })
  | hostInterrupt (loop : EventLoop) (moved : system.host.interrupt = some loop) :
      Moves tells system .hostInterrupt { system with host := loop }
  | hostAdvances (loop : EventLoop) (moved : system.host.advance = some loop) :
      Moves tells system .hostLoop { system with host := loop }
  | binds (found : Bool) (drains : system.host.place = .draining found)
      (announced : system.announcement = true) :
      Moves tells system .hostLoop { system with host := system.host.finds }.nsBindCb
  | hostRests (found : Bool) (drains : system.host.place = .draining found)
      (silent : system.announcement = false) (through : system.shell.toHost = []) :
      Moves tells system .hostLoop { system with
        host := system.host.rest
        remote := if tells && found then system.remote.ring else system.remote }
  | hostReceives (found : Bool) (message : Message) (rest : List Message)
      (drains : system.host.place = .draining found) (silent : system.announcement = false)
      (queue : system.shell.toHost = message :: rest) :
      Moves tells system .hostLoop ({ system with host := system.host.finds }.after
        ({ system.shell with toHost := rest }.endpointCb message))
  | types (status : Int) (text : List UInt8) (count : Int) (later : List (List UInt8 × Int))
      (idle : system.shell.command = none) (script : system.script = (text, count) :: later)
      (ready : system.shell.ready = true) :
      Moves tells system (.shell status) ({ system with script := later }.after
        (system.shell.cmdRpmsgIvshmemSend text count))
  | sends (status : Int) (command : Command) (runs : system.shell.command = some command)
      (at_stage : command.stage = .send) :
      Moves tells system (.shell status)
        ({ system with
          remote := if status < 0 then system.remote else system.remote.ring }.after
            (system.shell.sendReturned command status))
  | takes (status : Int) (command : Command) (runs : system.shell.command = some command)
      (at_stage : command.stage = .take) :
      Moves tells system (.shell status) (system.after (system.shell.kSemTake command))
  | wakes (status : Int) (command : Command) (runs : system.shell.command = some command)
      (at_stage : command.stage = .granted) :
      Moves tells system (.shell status) (system.after (system.shell.proceed command))
  | timesOut (command : Command) (runs : system.shell.command = some command)
      (at_stage : command.stage = .waiting) :
      Moves tells system .timeout (system.after (system.shell.returns command ShellSend.eAgain))
  | starts (status : Int) (at_main : system.remoteMain = .initVdev)
      (up : system.hostMain ≠ .initVdev) :
      Moves tells system (.remoteMain status) { system with remoteMain := .createEpt }
  | fails (status : Int) (at_main : system.remoteMain = .createEpt) (lost : status ≠ 0) :
      Moves tells system (.remoteMain status) { system with remoteMain := .failed }
  | announces (at_main : system.remoteMain = .createEpt) :
      Moves tells system (.remoteMain 0)
        { system with remoteMain := .done, announcement := true, host := system.host.ring }
  | remoteInterrupt (loop : EventLoop) (moved : system.remote.interrupt = some loop) :
      Moves tells system .remoteInterrupt { system with remote := loop }
  | remoteAdvances (status : Int) (loop : EventLoop) (moved : system.remote.advance = some loop) :
      Moves tells system (.remoteLoop status) { system with remote := loop }
  | remoteRests (status : Int) (found : Bool) (drains : system.remote.place = .draining found)
      (through : system.shell.toRemote = []) :
      Moves tells system (.remoteLoop status) { system with
        remote := system.remote.rest
        host := if tells && found then system.host.ring else system.host }
  | remoteReceives (status : Int) (found : Bool) (message : Message) (rest : List Message)
      (drains : system.remote.place = .draining found)
      (queue : system.shell.toRemote = message :: rest) :
      Moves tells system (.remoteLoop status)
        ({ system with
          remote := system.remote.finds
          host := if status < 0 then system.host else system.host.ring }.after
            ({ system.shell with toRemote := rest }.remoteEndpointCb message status))

theorem hostLoopStep_moves (moved : system.hostLoopStep tells = some next) :
    Moves tells system .hostLoop next := by
  have turns : system.host.advance.map (fun loop => { system with host := loop }) = some next ->
      Moves tells system .hostLoop next := by
    intro turned
    rcases Option.map_eq_some_iff.mp turned with ⟨loop, advanced, rfl⟩
    exact .hostAdvances loop advanced
  unfold hostLoopStep at moved
  cases drains : system.host.place with
  | polling | woken =>
      rw [drains] at moved
      exact turns moved
  | draining found =>
      rw [drains] at moved
      dsimp only at moved
      cases announced : system.announcement with
      | true =>
          rw [if_pos announced] at moved
          exact Option.some.inj moved ▸ .binds found drains announced
      | false =>
          rw [if_neg (announced ▸ Bool.false_ne_true)] at moved
          cases queue : system.shell.toHost with
          | nil =>
              rw [if_pos queue] at moved
              exact Option.some.inj moved ▸ .hostRests found drains announced queue
          | cons message rest =>
              rw [if_neg (queue ▸ List.cons_ne_nil message rest), shellStep,
                ShellSend.step] at moved
              simp only [queue, Option.map_some, Option.some.injEq] at moved
              exact moved ▸ .hostReceives found message rest drains announced queue

theorem shellThreadStep_moves {status : Int}
    (moved : system.shellThreadStep status = some next) :
    Moves tells system (.shell status) next := by
  unfold shellThreadStep at moved
  cases runs : system.shell.command with
  | none =>
      rw [runs] at moved
      cases script : system.script with
      | nil =>
          rw [script] at moved
          cases moved
      | cons entry later =>
          rcases entry with ⟨text, count⟩
          rw [script] at moved
          dsimp only at moved
          split at moved
          · rename_i ready
            simp only [shellStep, ShellSend.step, runs, Option.map_some, Option.some.injEq] at moved
            exact moved ▸ .types status text count later runs script ready
          · cases moved
  | some command =>
      rw [runs] at moved
      dsimp only at moved
      cases at_stage : command.stage with
      | send =>
          simp only [at_stage, shellStep, ShellSend.step, runs, if_true, Option.map_some,
            Option.some.injEq] at moved
          exact moved ▸ .sends status command runs at_stage
      | take =>
          simp only [at_stage, shellStep, ShellSend.step, runs, if_true, Option.map_some,
            Option.some.injEq] at moved
          exact moved ▸ .takes status command runs at_stage
      | waiting =>
          rw [at_stage] at moved
          cases moved
      | granted =>
          simp only [at_stage, shellStep, ShellSend.step, runs, if_true, Option.map_some,
            Option.some.injEq] at moved
          exact moved ▸ .wakes status command runs at_stage

theorem remoteLoopStep_moves {status : Int}
    (moved : system.remoteLoopStep tells status = some next) :
    Moves tells system (.remoteLoop status) next := by
  have turns : system.remote.advance.map (fun loop => { system with remote := loop }) = some next ->
      Moves tells system (.remoteLoop status) next := by
    intro turned
    rcases Option.map_eq_some_iff.mp turned with ⟨loop, advanced, rfl⟩
    exact .remoteAdvances status loop advanced
  unfold remoteLoopStep at moved
  cases drains : system.remote.place with
  | polling | woken =>
      rw [drains] at moved
      exact turns moved
  | draining found =>
      rw [drains] at moved
      dsimp only at moved
      cases queue : system.shell.toRemote with
      | nil =>
          rw [if_pos queue] at moved
          exact Option.some.inj moved ▸ .remoteRests status found drains queue
      | cons message rest =>
          rw [if_neg (queue ▸ List.cons_ne_nil message rest), shellStep, ShellSend.step] at moved
          simp only [queue, Option.map_some, Option.some.injEq] at moved
          exact moved ▸ .remoteReceives status found message rest drains queue

theorem step_moves {label : Label} (moved : system.step tells label = some next) :
    Moves tells system label next := by
  cases label with
  | hostLoop => exact hostLoopStep_moves moved
  | shell status => exact shellThreadStep_moves moved
  | remoteLoop status => exact remoteLoopStep_moves moved
  | hostInterrupt =>
      rcases Option.map_eq_some_iff.mp moved with ⟨loop, interrupted, rfl⟩
      exact .hostInterrupt loop interrupted
  | remoteInterrupt =>
      rcases Option.map_eq_some_iff.mp moved with ⟨loop, interrupted, rfl⟩
      exact .remoteInterrupt loop interrupted
  | timeout =>
      cases runs : system.shell.command with
      | none =>
          simp only [step, shellStep, ShellSend.step, runs, Option.map_none, reduceCtorEq] at moved
      | some command =>
          simp only [step, shellStep, ShellSend.step, runs] at moved
          split at moved
          · rename_i at_stage
            exact Option.some.inj moved ▸ .timesOut command runs at_stage
          · cases moved
  | hostMain =>
      cases at_main : system.hostMain with
      | initVdev =>
          simp only [step, hostMainStep, at_main, Option.some.injEq] at moved
          exact moved ▸ .initialises at_main
      | takeEptSem =>
          simp only [step, hostMainStep, at_main] at moved
          split at moved
          · rename_i given
            exact Option.some.inj moved ▸ .passes at_main given
          · cases moved
      | createEpt =>
          simp only [step, hostMainStep, at_main, shellStep, ShellSend.step, Option.map_some,
            Option.some.injEq] at moved
          exact moved ▸ .readies at_main
      | done => simp only [step, hostMainStep, at_main, reduceCtorEq] at moved
  | remoteMain status =>
      cases at_main : system.remoteMain with
      | initVdev =>
          simp only [step, remoteMainStep, at_main] at moved
          split at moved
          · cases moved
          · rename_i up
            exact Option.some.inj moved ▸ .starts status at_main up
      | createEpt =>
          simp only [step, remoteMainStep, at_main] at moved
          split at moved
          · rename_i lost
            exact Option.some.inj moved ▸ .fails status at_main lost
          · rename_i sent
            rw [Decidable.of_not_not sent]
            exact Option.some.inj moved ▸ .announces at_main
      | failed | done => simp only [step, remoteMainStep, at_main, reduceCtorEq] at moved

/-! ## What the shell does to the channels -/

/-- The shell leaves the channels alone. -/
structure SameChannels (before after : ShellSend.World) : Prop where
  toHost : after.toHost = before.toHost
  toRemote : after.toRemote = before.toRemote
  ready : after.ready = before.ready

theorem kSemGive_channels (world : ShellSend.World) : SameChannels world world.kSemGive := by
  unfold ShellSend.World.kSemGive
  split
  · exact ⟨rfl, rfl, rfl⟩
  · split <;> exact ⟨rfl, rfl, rfl⟩

theorem endpointCb_channels (world : ShellSend.World) (message : Message) :
    SameChannels world (world.endpointCb message) := by
  have given := kSemGive_channels { world with
    numberOfCompletedMsgs := world.numberOfCompletedMsgs + 1
    command := world.command.map fun command => Command.record command message.ticket }
  exact ⟨given.toHost, given.toRemote, given.ready⟩

theorem proceed_channels (world : ShellSend.World) (command : Command) :
    SameChannels world (world.proceed command) := by
  unfold ShellSend.World.proceed
  split <;> exact ⟨rfl, rfl, rfl⟩

theorem kSemTake_channels (world : ShellSend.World) (command : Command) :
    SameChannels world (world.kSemTake command) := by
  unfold ShellSend.World.kSemTake
  split
  · have went := proceed_channels { world with rxSem := world.rxSem - 1 } command
    exact ⟨went.toHost, went.toRemote, went.ready⟩
  · exact ⟨rfl, rfl, rfl⟩

theorem cmdRpmsgIvshmemSend_channels (world : ShellSend.World) (text : List UInt8) (count : Int) :
    SameChannels world (world.cmdRpmsgIvshmemSend text count) := by
  unfold ShellSend.World.cmdRpmsgIvshmemSend
  dsimp only
  split <;> exact ⟨rfl, rfl, rfl⟩

/-- A send adds its message, if it succeeds. -/
theorem sendReturned_channels (world : ShellSend.World) (command : Command) (status : Int) :
    (world.sendReturned command status).toHost = world.toHost ∧
      (world.sendReturned command status).ready = world.ready ∧
      (status < 0 -> (world.sendReturned command status).toRemote = world.toRemote) := by
  unfold ShellSend.World.sendReturned
  split
  · exact ⟨rfl, rfl, fun _ => rfl⟩
  · rename_i sent
    exact ⟨rfl, rfl, fun failed => absurd failed sent⟩

theorem remoteEndpointCb_channels (world : ShellSend.World) (message : Message) (status : Int) :
    (world.remoteEndpointCb message status).toRemote = world.toRemote ∧
      (world.remoteEndpointCb message status).ready = world.ready ∧
      (status < 0 -> (world.remoteEndpointCb message status).toHost = world.toHost) := by
  unfold ShellSend.World.remoteEndpointCb
  split
  · exact ⟨rfl, rfl, fun _ => rfl⟩
  · rename_i sent
    exact ⟨rfl, rfl, fun failed => absurd failed sent⟩

/-! ## Nobody sleeps over a message -/

/-- A guest with something in its queue is going to look at it. -/
structure Attended (system : System) : Prop where
  host : system.announcement = true ∨ system.shell.toHost ≠ [] -> system.host.Looks
  remote : system.shell.toRemote ≠ [] -> system.remote.Looks

theorem Attended.initially (script : List (List UInt8 × Int)) : (initial script).Attended where
  host := fun waits =>
    waits.elim (fun wrong => Bool.noConfusion wrong) (fun wrong => absurd rfl wrong)
  remote := fun wrong => absurd rfl wrong

/-- The shell has left the channels alone. -/
theorem Attended.kept (attended : system.Attended) {shell : ShellSend.World}
    (same : SameChannels system.shell shell) : (system.after shell).Attended where
  host := fun waits => attended.host (same.toHost ▸ waits)
  remote := fun waits => attended.remote (same.toRemote ▸ waits)

/-- A guest may be rung in vain. -/
theorem looks_told {loop : EventLoop} (looks : loop.Looks) (told : Prop) [Decidable told] :
    (if told then loop.ring else loop).Looks := by
  split
  · exact EventLoop.looks_ring loop
  · exact looks

theorem Moves.attended {label : Label} (attended : system.Attended)
    (moved : Moves tells system label next) : next.Attended := by
  cases moved with
  | initialises | passes | readies | starts | fails => exact ⟨attended.host, attended.remote⟩
  | hostInterrupt loop moved => exact ⟨fun _ => EventLoop.interrupt_looks moved, attended.remote⟩
  | hostAdvances loop moved => exact ⟨fun _ => EventLoop.advance_looks moved, attended.remote⟩
  | binds found drains announced => exact ⟨fun _ => EventLoop.looks_finds _, attended.remote⟩
  | hostRests found drains silent through =>
      refine ⟨fun waits => ?_, fun waits => looks_told (attended.remote waits) _⟩
      rcases waits with announced | occupied
      · exact Bool.noConfusion (silent.symm.trans announced)
      · exact absurd through occupied
  | hostReceives found message rest drains silent queue =>
      have same := endpointCb_channels { system.shell with toHost := rest } message
      exact ⟨fun _ => EventLoop.looks_finds _, fun waits => attended.remote (same.toRemote ▸ waits)⟩
  | types status text count later idle script ready =>
      have same := cmdRpmsgIvshmemSend_channels system.shell text count
      exact ⟨fun waits => attended.host (same.toHost ▸ waits),
        fun waits => attended.remote (same.toRemote ▸ waits)⟩
  | sends status command runs at_stage =>
      rcases sendReturned_channels system.shell command status with ⟨toHost, -, failed⟩
      refine ⟨fun waits => attended.host (toHost ▸ waits), fun waits => ?_⟩
      show EventLoop.Looks (if _ then _ else _)
      split
      · rename_i lost
        exact attended.remote (failed lost ▸ waits)
      · exact EventLoop.looks_ring _
  | takes status command runs at_stage => exact attended.kept (kSemTake_channels _ _)
  | wakes status command runs at_stage => exact attended.kept (proceed_channels _ _)
  | timesOut command runs at_stage => exact attended.kept ⟨rfl, rfl, rfl⟩
  | announces at_main => exact ⟨fun _ => EventLoop.looks_ring _, attended.remote⟩
  | remoteInterrupt loop moved => exact ⟨attended.host, fun _ => EventLoop.interrupt_looks moved⟩
  | remoteAdvances status loop moved =>
      exact ⟨attended.host, fun _ => EventLoop.advance_looks moved⟩
  | remoteRests status found drains through =>
      exact ⟨fun waits => looks_told (attended.host waits) _,
        fun occupied => absurd through occupied⟩
  | remoteReceives status found message rest drains queue =>
      rcases remoteEndpointCb_channels { system.shell with toRemote := rest } message status with
        ⟨-, -, failed⟩
      refine ⟨fun waits => ?_, fun _ => EventLoop.looks_finds _⟩
      show EventLoop.Looks (if _ then _ else _)
      split
      · rename_i lost
        exact attended.host (waits.imp_right (failed lost ▸ ·))
      · exact EventLoop.looks_ring _

/-! ## The announcement -/

/-- The host is ready only when the announcement of the remote has been bound: it was sent, and
`ns_bind_cb()`, which alone takes it, has taken it. -/
structure Booted (system : System) : Prop where
  early : system.hostMain = .initVdev -> system.remoteMain = .initVdev
  awaits : system.hostMain = .takeEptSem -> system.remoteMain = .done ->
    0 < system.eptSem ∨ system.announcement = true
  announced : system.announcement = true -> system.remoteMain = .done
  given : 0 < system.eptSem -> system.remoteMain = .done ∧ system.announcement = false
  bound : system.hostMain = .createEpt ∨ system.hostMain = .done ->
    system.remoteMain = .done ∧ system.announcement = false
  ready : system.shell.ready = true -> system.hostMain = .done
  isReady : system.hostMain = .done -> system.shell.ready = true

theorem Booted.initially (script : List (List UInt8 × Int)) : (initial script).Booted where
  early := fun _ => rfl
  awaits := HostMain.noConfusion
  announced := Bool.noConfusion
  given := fun wrong => absurd wrong (Nat.lt_irrefl 0)
  bound := fun wrong => wrong.elim HostMain.noConfusion HostMain.noConfusion
  ready := Bool.noConfusion
  isReady := HostMain.noConfusion

/-- The main threads stand still, and what the shell does leaves it as ready as it was. -/
theorem Booted.kept (booted : system.Booted) {host remote : EventLoop} {shell : ShellSend.World}
    {script : List (List UInt8 × Int)} {log : List Returned}
    (same : shell.ready = system.shell.ready) :
    Booted { system with
      host := host, remote := remote, shell := shell, script := script, log := log } :=
  { booted with
    ready := fun ready => booted.ready (same ▸ ready)
    isReady := fun done => same ▸ booted.isReady done }

/-- The main thread of the remote moves before it has announced the endpoint. -/
theorem Booted.unannounced (booted : system.Booted) {place : RemoteMain}
    (before : system.remoteMain ≠ .done) (early : system.hostMain = .initVdev -> place = .initVdev)
    (after : place ≠ .done) : Booted { system with remoteMain := place } :=
  { booted with
    early := early
    awaits := fun _ done => absurd done after
    announced := fun announced => absurd (booted.announced announced) before
    given := fun given => absurd (booted.given given).1 before
    bound := fun bound => absurd (booted.bound bound).1 before }

theorem Moves.booted {label : Label} (booted : system.Booted)
    (moved : Moves tells system label next) : next.Booted := by
  cases moved with
  | initialises at_main =>
      have early := booted.early at_main
      exact { booted with
        early := HostMain.noConfusion
        awaits := fun _ done => RemoteMain.noConfusion (early.symm.trans done)
        bound := fun wrong => wrong.elim HostMain.noConfusion HostMain.noConfusion
        ready := fun ready => HostMain.noConfusion (at_main.symm.trans (booted.ready ready))
        isReady := HostMain.noConfusion }
  | passes at_main given =>
      have taken := booted.given given
      exact { booted with
        early := HostMain.noConfusion
        awaits := HostMain.noConfusion
        given := fun _ => taken
        bound := fun _ => taken
        ready := fun ready => HostMain.noConfusion (at_main.symm.trans (booted.ready ready))
        isReady := HostMain.noConfusion }
  | readies at_main =>
      have taken := booted.bound (Or.inl at_main)
      exact { booted with
        early := HostMain.noConfusion
        awaits := HostMain.noConfusion
        bound := fun _ => taken
        ready := fun _ => rfl
        isReady := fun _ => rfl }
  | hostInterrupt | hostAdvances | hostRests | remoteInterrupt | remoteAdvances | remoteRests =>
      exact { booted with }
  | binds found drains announced =>
      have done := booted.announced announced
      exact { booted with
        awaits := fun _ _ => Or.inl (by
          show 0 < min (system.eptSem + 1) 1
          omega)
        announced := fun _ => done
        given := fun _ => ⟨done, rfl⟩
        bound := fun _ => ⟨done, rfl⟩ }
  | hostReceives found message rest drains silent queue =>
      exact booted.kept (endpointCb_channels _ _).ready
  | types status text count later idle script ready =>
      exact booted.kept (cmdRpmsgIvshmemSend_channels _ _ _).ready
  | sends status command runs at_stage =>
      exact booted.kept (sendReturned_channels _ _ _).2.1
  | takes status command runs at_stage => exact booted.kept (kSemTake_channels _ _).ready
  | wakes status command runs at_stage => exact booted.kept (proceed_channels _ _).ready
  | timesOut command runs at_stage => exact booted.kept rfl
  | starts status at_main up =>
      exact booted.unannounced (at_main ▸ RemoteMain.noConfusion) (fun wrong => absurd wrong up)
        RemoteMain.noConfusion
  | fails status at_main lost =>
      exact booted.unannounced (at_main ▸ RemoteMain.noConfusion)
        (fun wrong => RemoteMain.noConfusion (at_main.symm.trans (booted.early wrong)))
        RemoteMain.noConfusion
  | announces at_main =>
      exact { booted with
        early := fun wrong => RemoteMain.noConfusion (at_main.symm.trans (booted.early wrong))
        awaits := fun _ _ => Or.inr rfl
        announced := fun _ => rfl
        given := fun given => RemoteMain.noConfusion (at_main.symm.trans (booted.given given).1)
        bound := fun bound => RemoteMain.noConfusion (at_main.symm.trans (booted.bound bound).1) }
  | remoteReceives status found message rest drains queue =>
      exact booted.kept (remoteEndpointCb_channels _ _ _).2.1

/-! ## The shell goes on as `ShellSend` says -/

theorem Moves.shell {label : Label} (moved : Moves tells system label next) :
    next.shell = system.shell ∨
      Exists fun event => ShellSend.step system.shell event = some next.shell := by
  cases moved with
  | initialises | passes | hostInterrupt | hostAdvances | binds | hostRests | starts | fails |
    announces | remoteInterrupt | remoteAdvances | remoteRests => exact Or.inl rfl
  | readies => exact Or.inr ⟨.deviceReady, rfl⟩
  | hostReceives found message rest drains silent queue =>
      exact Or.inr ⟨.hostReceives, by rw [ShellSend.step, queue]; rfl⟩
  | types status text count later idle script ready =>
      exact Or.inr ⟨.command text count, by rw [ShellSend.step, idle]; rfl⟩
  | sends status command runs at_stage =>
      exact Or.inr ⟨.sendReturns status, by rw [ShellSend.step, runs]; exact if_pos at_stage⟩
  | takes status command runs at_stage =>
      exact Or.inr ⟨.semTake, by rw [ShellSend.step, runs]; exact if_pos at_stage⟩
  | wakes status command runs at_stage =>
      exact Or.inr ⟨.wake, by rw [ShellSend.step, runs]; exact if_pos at_stage⟩
  | timesOut command runs at_stage =>
      exact Or.inr ⟨.timeout, by rw [ShellSend.step, runs]; exact if_pos at_stage⟩
  | remoteReceives status found message rest drains queue =>
      exact Or.inr ⟨.remoteReceives status, by rw [ShellSend.step, queue]; rfl⟩

/-- A state of the shell that its own runs reach -/
def Reached (shell : ShellSend.World) : Prop :=
  Exists fun events => Transition.run ShellSend.step ShellSend.World.initial events = some shell

theorem Moves.reached {label : Label} (reached : Reached system.shell)
    (moved : Moves tells system label next) : Reached next.shell := by
  rcases moved.shell with stays | ⟨event, performed⟩
  · rw [stays]
    exact reached
  · rcases reached with ⟨events, before⟩
    exact ⟨events ++ [event],
      (Transition.run_append events [event]).mpr ⟨_, before, Transition.run_singleton performed⟩⟩

/-! ## Somebody can move -/

/-- Who could make a step -/
def Busy (system : System) : Actor -> Prop
  | .hostMain =>
      system.hostMain = .initVdev ∨ system.hostMain = .takeEptSem ∧ 0 < system.eptSem ∨
        system.hostMain = .createEpt
  | .hostInterrupt => system.host.bell = true
  | .hostLoop =>
      system.host.advance.isSome ∨ Exists fun found => system.host.place = .draining found
  | .shell =>
      match system.shell.command with
      | none => system.script ≠ [] ∧ system.shell.ready = true
      | some command => command.stage ≠ .waiting
  | .remoteMain =>
      system.remoteMain = .initVdev ∧ system.hostMain ≠ .initVdev ∨ system.remoteMain = .createEpt
  | .remoteInterrupt => system.remote.bell = true
  | .remoteLoop =>
      system.remote.advance.isSome ∨ Exists fun found => system.remote.place = .draining found

theorem hostLoopStep_some (tells : Bool) (busy : system.Busy .hostLoop) :
    Exists fun next => system.hostLoopStep tells = some next := by
  unfold hostLoopStep
  cases drains : system.host.place with
  | polling | woken =>
      rcases busy with turns | ⟨found, wrong⟩
      · rcases Option.isSome_iff_exists.mp turns with ⟨loop, advanced⟩
        exact ⟨_, by rw [advanced]; rfl⟩
      · cases drains.symm.trans wrong
  | draining found =>
      dsimp only
      cases announced : system.announcement with
      | true => exact ⟨_, rfl⟩
      | false =>
          cases queue : system.shell.toHost with
          | nil => exact ⟨_, rfl⟩
          | cons message rest =>
              simp only [shellStep, ShellSend.step, queue, reduceCtorEq, Bool.false_eq_true,
                if_false, Option.map_some]
              exact ⟨_, rfl⟩

theorem remoteLoopStep_some (tells : Bool) (status : Int) (busy : system.Busy .remoteLoop) :
    Exists fun next => system.remoteLoopStep tells status = some next := by
  unfold remoteLoopStep
  cases drains : system.remote.place with
  | polling | woken =>
      rcases busy with turns | ⟨found, wrong⟩
      · rcases Option.isSome_iff_exists.mp turns with ⟨loop, advanced⟩
        exact ⟨_, by rw [advanced]; rfl⟩
      · cases drains.symm.trans wrong
  | draining found =>
      dsimp only
      cases queue : system.shell.toRemote with
      | nil => exact ⟨_, rfl⟩
      | cons message rest =>
          simp only [shellStep, ShellSend.step, queue, reduceCtorEq, if_false, Option.map_some]
          exact ⟨_, rfl⟩

/-- Who is busy can move; the timer of the shell is not asked for. -/
theorem step_some (tells : Bool) {label : Label} (busy : system.Busy label.actor)
    (noTimeout : label ≠ .timeout) : Exists fun next => system.step tells label = some next := by
  cases label with
  | timeout => exact absurd rfl noTimeout
  | hostLoop => exact hostLoopStep_some tells busy
  | remoteLoop status => exact remoteLoopStep_some tells status busy
  | hostInterrupt =>
      have rings : system.host.bell = true := busy
      exact ⟨_, by rw [step, EventLoop.interrupt, if_pos rings]; rfl⟩
  | remoteInterrupt =>
      have rings : system.remote.bell = true := busy
      exact ⟨_, by rw [step, EventLoop.interrupt, if_pos rings]; rfl⟩
  | hostMain =>
      rcases busy with at_main | ⟨at_main, given⟩ | at_main
      · exact ⟨_, by rw [step, hostMainStep, at_main]⟩
      · exact ⟨_, by rw [step, hostMainStep, at_main]; exact if_pos given⟩
      · exact ⟨_, by rw [step, hostMainStep, at_main]; rfl⟩
  | remoteMain status =>
      rcases busy with ⟨at_main, up⟩ | at_main
      · exact ⟨_, by rw [step, remoteMainStep, at_main]; exact if_neg up⟩
      · show Exists fun next => system.remoteMainStep status = some next
        rw [remoteMainStep, at_main]
        dsimp only
        split
        · exact ⟨_, rfl⟩
        · exact ⟨_, rfl⟩
  | shell status =>
      show Exists fun next => system.shellThreadStep status = some next
      unfold shellThreadStep
      cases runs : system.shell.command with
      | none =>
          simp only [Label.actor, Busy, runs] at busy
          cases script : system.script with
          | nil => exact absurd script busy.1
          | cons entry later =>
              simp only [busy.2, if_true, shellStep, ShellSend.step, runs, Option.map_some]
              exact ⟨_, rfl⟩
      | some command =>
          simp only [Label.actor, Busy, runs] at busy
          cases at_stage : command.stage with
          | waiting => exact absurd at_stage busy
          | send | take | granted =>
              simp only [shellStep, ShellSend.step, runs, at_stage, if_true, Option.map_some]
              exact ⟨_, rfl⟩

/-- A loop that looks keeps its guest busy. -/
theorem host_busy (looks : system.host.Looks) : Exists fun who => system.Busy who := by
  rcases looks.goes with rings | turns | drains
  · exact ⟨.hostInterrupt, rings⟩
  · exact ⟨.hostLoop, Or.inl turns⟩
  · exact ⟨.hostLoop, Or.inr drains⟩

theorem remote_busy (looks : system.remote.Looks) : Exists fun who => system.Busy who := by
  rcases looks.goes with rings | turns | drains
  · exact ⟨.remoteInterrupt, rings⟩
  · exact ⟨.remoteLoop, Or.inl turns⟩
  · exact ⟨.remoteLoop, Or.inr drains⟩

/-- As long as something is under way, somebody can move. -/
theorem Attended.busy (attended : system.Attended)
    (under : system.announcement = true ∨ system.shell.inFlight ≠ []) :
    Exists fun who => system.Busy who := by
  rcases under with announced | occupied
  · exact host_busy (attended.host (Or.inl announced))
  · by_cases toHost : system.shell.toHost = []
    · apply remote_busy (attended.remote _)
      intro toRemote
      exact occupied (List.append_eq_nil_iff.mpr ⟨toHost, toRemote⟩)
    · exact host_busy (attended.host (Or.inr toHost))

end Moves

/-- Everybody has a step that asks for nothing. -/
theorem acted (who : Actor) : Exists fun label : Label => label.actor = who ∧ label ≠ .timeout := by
  cases who with
  | hostMain => exact ⟨.hostMain, rfl, Label.noConfusion⟩
  | hostInterrupt => exact ⟨.hostInterrupt, rfl, Label.noConfusion⟩
  | hostLoop => exact ⟨.hostLoop, rfl, Label.noConfusion⟩
  | shell => exact ⟨.shell 0, rfl, Label.noConfusion⟩
  | remoteMain => exact ⟨.remoteMain 0, rfl, Label.noConfusion⟩
  | remoteInterrupt => exact ⟨.remoteInterrupt, rfl, Label.noConfusion⟩
  | remoteLoop => exact ⟨.remoteLoop 0, rfl, Label.noConfusion⟩

/-! ## Whole runs -/

/-- What holds at any time: no guest sleeps over what is in its queue, the host is ready only
after the remote has announced itself and `ns_bind_cb()` has taken the announcement, and the
shell is one of `ShellSend`. -/
structure Sound (tells : Bool) (system : System) : Prop where
  attended : system.Attended
  bound : system.shell.ready = true -> system.remoteMain = .done ∧ system.announcement = false
  shell : Reached system.shell
  goesOn : system.announcement = true ∨ system.shell.inFlight ≠ [] ->
    Exists fun label => Exists fun next => system.step tells label = some next

/-- However the guests are scheduled, whatever sends fail (the remote's announcement among them)
and whatever timers run out, no message is left behind in a queue that nobody looks at.  The
schedule is any list of steps; nothing is asked of its fairness, nor of the suppression of the
notifications of returned buffers. -/
theorem doorbell_sound (tells : Bool) (script : List (List UInt8 × Int)) {performed : List Label}
    {system : System} (reached : Transition.run (step tells) (initial script) performed = some system) :
    system.Sound tells := by
  have attended : system.Attended :=
    Transition.run_invariant (fun _ _ _ attended moved => (step_moves moved).attended attended)
      (Attended.initially script) reached
  have booted : system.Booted :=
    Transition.run_invariant (fun _ _ _ booted moved => (step_moves moved).booted booted)
      (Booted.initially script) reached
  exact {
    attended := attended
    bound := fun ready => booted.bound (Or.inr (booted.ready ready))
    shell := Transition.run_invariant (fun _ _ _ before moved => (step_moves moved).reached before)
      ⟨[], rfl⟩ reached
    goesOn := by
      intro under
      rcases attended.busy under with ⟨who, busy⟩
      rcases acted who with ⟨label, mover, asked⟩
      exact ⟨label, step_some tells (mover ▸ busy) asked⟩ }

/-- The announcement of the remote is under way. -/
theorem announced_sound : System.Sound true
    { initial [] with
      hostMain := .takeEptSem
      remoteMain := .done
      announcement := true
      host := EventLoop.asleep.ring } := by
  have reached : Transition.run (step true) (initial [])
      [.hostMain, .remoteMain 0, .remoteMain 0] =
      some { initial [] with
        hostMain := .takeEptSem
        remoteMain := .done
        announcement := true
        host := EventLoop.asleep.ring } := rfl
  exact doorbell_sound true [] reached

end System
end Doorbell
end OpenAmpReference
