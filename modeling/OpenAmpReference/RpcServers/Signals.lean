import OpenAmpReference.Library.Transition

namespace OpenAmpReference
namespace RpcSignals

/-!
# Signals of the RPC daemons

Both daemons release the endpoint, the device and the platform on their main path, in
the unbind callback and in the handlers of the signals.  The exit handler destroys the
endpoint and sets neither of the flags that the service loop tests; the kill handler
releases everything and returns into the program that it has interrupted.  A signal
arrives between any two steps, also between those of a handler, and a signal is blocked
while its own handler runs.
-/

inductive Daemon
  | rpcDemod
  | linuxRpcDemod
  deriving DecidableEq, Repr

inductive Signal
  | sigterm
  | sigint
  | sighup
  deriving DecidableEq, Repr

/-- The handler that `app()` installs for `SIGTERM` and `SIGINT`, or that for `SIGHUP` -/
inductive Action
  | exitActionHandler
  | killActionHandler
  deriving DecidableEq, Repr

def Signal.action : Signal -> Action
  | Signal.sigterm => Action.exitActionHandler
  | Signal.sigint => Action.exitActionHandler
  | Signal.sighup => Action.killActionHandler

/-- Where a handler is: before the test of `terminate_rpc_app()`, after it, or before one
of the two releases of the kill handler -/
inductive Place
  | terminate
  | destroy
  | releaseVdev
  | cleanup
  deriving DecidableEq, Repr

structure Frame where
  signal : Signal
  place : Place
  deriving DecidableEq, Repr

/-- Where `main()` and `app()` are -/
inductive Stage
  | platformInit
  | createVdev
  | installTerm
  | installInt
  | installHup
  | createEpt
  | checkShbuf
  | poll
  | inPoll
  | handling
  | unbinding
  | test
  | terminate
  | destroy
  | releaseVdev
  | cleanup
  | done
  deriving DecidableEq, Repr

structure World where
  stage : Stage
  dead : Bool
  installed : List Signal
  platform : Bool
  rpdev : Bool
  eptCreated : Bool
  eptReleases : Nat
  vdevReleases : Nat
  platformReleases : Nat
  misused : Bool
  requestTermination : Bool
  eptDeleted : Bool
  errCnt : Nat
  frames : List Frame
  deriving DecidableEq, Repr

namespace World

def initial : World where
  stage := Stage.platformInit
  dead := false
  installed := []
  platform := false
  rpdev := false
  eptCreated := false
  eptReleases := 0
  vdevReleases := 0
  platformReleases := 0
  misused := false
  requestTermination := false
  eptDeleted := false
  errCnt := 0
  frames := []

/-! ## What is released -/

/-- The platform is used. -/
def usePlatform (world : World) : World :=
  { world with misused := world.misused || world.platformReleases != 0 }

/-- The rpmsg device is used. -/
def useVdev (world : World) : World :=
  { world with misused := world.misused || world.vdevReleases != 0 }

/-- The endpoint is used. -/
def useEpt (world : World) : World :=
  { world with misused := world.misused || world.eptReleases != 0 }

/-- `rpmsg_destroy_ept()`, which announces the end of the endpoint through its device -/
def rpmsgDestroyEpt (world : World) : World :=
  if world.eptCreated then { world.useVdev with eptReleases := world.eptReleases + 1 } else world

/-- `platform_release_rpmsg_vdev()` -/
def platformReleaseRpmsgVdev (world : World) : World :=
  { world.usePlatform with vdevReleases := world.vdevReleases + 1 }

/-- `platform_cleanup()` -/
def platformCleanup (world : World) : World :=
  { world with platformReleases := world.platformReleases + 1 }

/-! ## `main()` and `app()` -/

/-- The condition on which the service loop ends -/
def exits (daemon : Daemon) (world : World) : Bool :=
  (daemon == Daemon.rpcDemod && world.errCnt != 0) || world.eptDeleted ||
    world.requestTermination

/-- The next step, with the result of the call it makes, if it makes one -/
def proceed (daemon : Daemon) (world : World) (succeeds : Bool) : Option World :=
  match world.stage with
  | Stage.platformInit =>
      if succeeds then some { world with platform := true, stage := Stage.createVdev }
      else some { world with stage := Stage.cleanup }
  | Stage.createVdev =>
      if succeeds then some { world.usePlatform with rpdev := true, stage := Stage.installTerm }
      else some { world.usePlatform with stage := Stage.cleanup }
  | Stage.installTerm =>
      some { world with
        installed := Signal.sigterm :: world.installed, stage := Stage.installInt }
  | Stage.installInt =>
      some { world with installed := Signal.sigint :: world.installed, stage := Stage.installHup }
  | Stage.installHup =>
      some { world with installed := Signal.sighup :: world.installed, stage := Stage.createEpt }
  | Stage.createEpt =>
      if succeeds then
        match daemon with
        | Daemon.rpcDemod =>
            some { world.useVdev with eptCreated := true, stage := Stage.checkShbuf }
        | Daemon.linuxRpcDemod =>
            some { world.useVdev with eptCreated := true, stage := Stage.poll }
      else some { world.useVdev with stage := Stage.releaseVdev }
  | Stage.checkShbuf =>
      if succeeds then some { world.useVdev with stage := Stage.poll }
      else some { world.useVdev with stage := Stage.releaseVdev }
  | Stage.poll => some { world.usePlatform with stage := Stage.inPoll }
  | Stage.inPoll => some { world with stage := Stage.test }
  | Stage.handling => none
  | Stage.unbinding => some { world with eptDeleted := true, stage := Stage.inPoll }
  | Stage.test =>
      if world.exits daemon then some { world with stage := Stage.terminate }
      else some { world with stage := Stage.poll }
  | Stage.terminate =>
      if world.eptDeleted then some { world with stage := Stage.releaseVdev }
      else some { world with stage := Stage.destroy }
  | Stage.destroy => some { world.rpmsgDestroyEpt with stage := Stage.releaseVdev }
  | Stage.releaseVdev => some { world.platformReleaseRpmsgVdev with stage := Stage.cleanup }
  | Stage.cleanup => some { world.platformCleanup with stage := Stage.done }
  | Stage.done => none

/-- The endpoint is registered, so that its callbacks are called. -/
def registered (world : World) : Bool :=
  world.eptCreated && world.eptReleases == 0

/-! ## The handlers -/

/-- A signal arrives: its handler begins, or the process ends by default. -/
def arrives (world : World) (signal : Signal) : World :=
  if signal ∈ world.installed then
    { world with frames := { signal := signal, place := Place.terminate } :: world.frames }
  else { world with dead := true }

/-- What follows the call of `terminate_rpc_app()` -/
def afterTerminate (world : World) (signal : Signal) (rest : List Frame) : World :=
  match signal.action with
  | Action.exitActionHandler => { world with frames := rest }
  | Action.killActionHandler =>
      { world with frames := { signal := signal, place := Place.releaseVdev } :: rest }

/-- The next step of the handler that runs -/
def handle (world : World) (frame : Frame) (rest : List Frame) : World :=
  match frame.place with
  | Place.terminate =>
      if world.eptDeleted then world.afterTerminate frame.signal rest
      else { world with frames := { frame with place := Place.destroy } :: rest }
  | Place.destroy => world.rpmsgDestroyEpt.afterTerminate frame.signal rest
  | Place.releaseVdev =>
      if world.rpdev then
        { world.platformReleaseRpmsgVdev with
          frames := { frame with place := Place.cleanup } :: rest }
      else { world with frames := { frame with place := Place.cleanup } :: rest }
  | Place.cleanup =>
      if world.platform then { world.platformCleanup with frames := rest }
      else { world with frames := rest }

end World

inductive Event
  | main (succeeds : Bool)
  | message
  | reply
  | messageDone (failed terminates : Bool)
  | unbind
  | signal (signal : Signal)
  | handler
  deriving DecidableEq, Repr

/-- The main path, which waits for the handlers -/
def mainStep (daemon : Daemon) (world : World) (event : Event) : Option World :=
  match event with
  | Event.main succeeds => world.proceed daemon succeeds
  | Event.message =>
      if world.stage = Stage.inPoll ∧ world.registered = true then
        some { world.useEpt with stage := Stage.handling }
      else none
  | Event.reply => if world.stage = Stage.handling then some world.useEpt else none
  | Event.messageDone failed terminates =>
      if world.stage = Stage.handling then
        some { world with
          stage := Stage.inPoll
          errCnt := if failed then world.errCnt + 1 else world.errCnt
          requestTermination := terminates || world.requestTermination }
      else none
  | Event.unbind =>
      if world.stage = Stage.inPoll ∧ world.registered = true then
        some { world.rpmsgDestroyEpt with stage := Stage.unbinding }
      else none
  | _ => none

def step (daemon : Daemon) (world : World) (event : Event) : Option World :=
  if world.dead then none
  else
    match event with
    | Event.signal signal =>
        if signal ∈ world.frames.map Frame.signal then none else some (world.arrives signal)
    | Event.handler =>
        match world.frames with
        | [] => none
        | frame :: rest => some (world.handle frame rest)
    | _ => if world.frames = [] then mainStep daemon world event else none

namespace World

/-- Everything is released at most once and not used afterwards, and the service loop
notices at its test that the endpoint is destroyed. -/
structure Safe (daemon : Daemon) (world : World) : Prop where
  eptOnce : world.eptReleases ≤ 1
  vdevOnce : world.vdevReleases ≤ 1
  platformOnce : world.platformReleases ≤ 1
  unused : world.misused = false
  noticed : world.stage = Stage.test -> 0 < world.eptReleases -> world.exits daemon = true

/-- `app()` has returned without the endpoint being destroyed, and no handler runs. -/
def Abandoned (world : World) : Prop :=
  world.stage = Stage.releaseVdev ∧ world.eptReleases = 0 ∧ world.frames = []

/-- A signal that has a handler is not `SIGHUP`, and it arrives when there is no endpoint,
when the unbind callback has destroyed it, or when `app()` has abandoned it. -/
def Harmless (world : World) (event : Event) : Prop :=
  match event with
  | Event.signal signal => signal ∈ world.installed -> signal ≠ Signal.sighup ∧
      (world.eptCreated = false ∨ world.eptDeleted = true ∨ world.Abandoned)
  | _ => True

instance harmlessDecidable (world : World) : (event : Event) -> Decidable (Harmless world event)
  | Event.signal signal =>
      inferInstanceAs (Decidable (signal ∈ world.installed -> signal ≠ Signal.sighup ∧
        (world.eptCreated = false ∨ world.eptDeleted = true ∨
          world.stage = Stage.releaseVdev ∧ world.eptReleases = 0 ∧ world.frames = [])))
  | Event.main _ => isTrue trivial
  | Event.message => isTrue trivial
  | Event.reply => isTrue trivial
  | Event.messageDone _ _ => isTrue trivial
  | Event.unbind => isTrue trivial
  | Event.handler => isTrue trivial

/-! ## The main path -/

/-- The device and the platform are not released. -/
def Intact (world : World) : Prop :=
  world.vdevReleases = 0 ∧ world.platformReleases = 0

/-- What the main path has released where it is -/
def StageOk (world : World) : Prop :=
  match world.stage with
  | Stage.unbinding => Intact world ∧ world.eptReleases = 1
  | Stage.inPoll | Stage.test | Stage.terminate =>
      Intact world ∧ world.eptReleases = world.eptDeleted.toNat
  | Stage.releaseVdev => Intact world ∧ world.eptReleases ≤ 1
  | Stage.cleanup =>
      world.platformReleases = 0 ∧ world.vdevReleases ≤ 1 ∧ world.eptReleases ≤ 1
  | Stage.done =>
      world.platformReleases ≤ 1 ∧ world.vdevReleases ≤ 1 ∧ world.eptReleases ≤ 1
  | _ => Intact world ∧ world.eptReleases = 0 ∧ world.eptDeleted = false

structure Orderly (world : World) : Prop where
  unused : world.misused = false
  stage : StageOk world

variable {daemon : Daemon} {world next : World}

theorem Intact.vdev (intact : Intact world) : world.vdevReleases = 0 := intact.1

theorem Intact.platform (intact : Intact world) : world.platformReleases = 0 := intact.2

theorem usePlatform_eq (unreleased : world.platformReleases = 0) : world.usePlatform = world := by
  have same : (world.misused || world.platformReleases != 0) = world.misused := by
    rw [unreleased, bne_self_eq_false, Bool.or_false]
  rw [usePlatform, same]

theorem useVdev_eq (unreleased : world.vdevReleases = 0) : world.useVdev = world := by
  have same : (world.misused || world.vdevReleases != 0) = world.misused := by
    rw [unreleased, bne_self_eq_false, Bool.or_false]
  rw [useVdev, same]

theorem useEpt_eq (unreleased : world.eptReleases = 0) : world.useEpt = world := by
  have same : (world.misused || world.eptReleases != 0) = world.misused := by
    rw [unreleased, bne_self_eq_false, Bool.or_false]
  rw [useEpt, same]

/-- While the device is not released, an endpoint that exists is destroyed. -/
theorem rpmsgDestroyEpt_eq (unreleased : world.vdevReleases = 0) :
    world.rpmsgDestroyEpt =
      { world with eptReleases := world.eptReleases + world.eptCreated.toNat } := by
  unfold rpmsgDestroyEpt
  split
  · rename_i created
    have one : world.eptCreated.toNat = 1 := congrArg Bool.toNat created
    rw [useVdev_eq unreleased, one]
  · rename_i absent
    have zero : world.eptCreated.toNat = 0 := congrArg Bool.toNat (eq_false_of_ne_true absent)
    rw [zero, Nat.add_zero]

theorem registered_iff : world.registered = true ↔
    world.eptCreated = true ∧ world.eptReleases = 0 := by
  rw [registered, Bool.and_eq_true, beq_iff_eq]

theorem Orderly.bounds (orderly : Orderly world) : world.eptReleases ≤ 1 ∧
    world.vdevReleases ≤ 1 ∧ world.platformReleases ≤ 1 := by
  have stage := orderly.stage
  have flagged : world.eptReleases = world.eptDeleted.toNat -> world.eptReleases ≤ 1 :=
    fun same => Nat.le_trans (Nat.le_of_eq same) (Bool.toNat_le world.eptDeleted)
  have short : forall {count : Nat}, count = 0 -> count ≤ 1 := fun zero => by omega
  unfold StageOk at stage
  split at stage
  · exact ⟨Nat.le_of_eq stage.2, short stage.1.vdev, short stage.1.platform⟩
  · exact ⟨flagged stage.2, short stage.1.vdev, short stage.1.platform⟩
  · exact ⟨flagged stage.2, short stage.1.vdev, short stage.1.platform⟩
  · exact ⟨flagged stage.2, short stage.1.vdev, short stage.1.platform⟩
  · exact ⟨stage.2, short stage.1.vdev, short stage.1.platform⟩
  · exact ⟨stage.2.2, stage.2.1, short stage.1⟩
  · exact ⟨stage.2.2, stage.2.1, stage.1⟩
  · exact ⟨short stage.2.1, short stage.1.vdev, short stage.1.platform⟩

theorem Orderly.safe (orderly : Orderly world) : Safe daemon world where
  eptOnce := orderly.bounds.1
  vdevOnce := orderly.bounds.2.1
  platformOnce := orderly.bounds.2.2
  unused := orderly.unused
  noticed := by
    intro atTest released
    have stage := orderly.stage
    rw [StageOk, atTest] at stage
    cases flag : world.eptDeleted with
    | true => rw [exits, flag, Bool.or_true, Bool.true_or]
    | false =>
        rw [stage.2, flag] at released
        exact absurd released (Nat.lt_irrefl 0)

/-! What the main path does at each of its calls.  A call that fails leads on to the release of
what the calls before it have acquired. -/

section Proceed

variable {succeeds : Bool}

theorem Orderly.installs (orderly : Orderly world)
    (place : world.stage = .installTerm ∨ world.stage = .installInt ∨ world.stage = .installHup)
    (moved : World.proceed daemon world succeeds = some next) : Orderly next := by
  have stage := orderly.stage
  have unused := orderly.unused
  rcases place with place | place | place
  all_goals
    simp only [StageOk, place] at stage
    simp only [World.proceed, place] at moved
    cases moved
    exact { unused := unused, stage := stage }

theorem Orderly.initialises (orderly : Orderly world) (place : world.stage = .platformInit)
    (moved : World.proceed daemon world succeeds = some next) : Orderly next := by
  have stage := orderly.stage
  have unused := orderly.unused
  have bounds := orderly.bounds
  simp only [StageOk, place] at stage
  simp only [World.proceed, place] at moved
  split at moved
  · cases moved
    exact { unused := unused, stage := stage }
  · cases moved
    exact { unused := unused, stage := ⟨stage.1.platform, bounds.2.1, bounds.1⟩ }

theorem Orderly.createsVdev (orderly : Orderly world) (place : world.stage = .createVdev)
    (moved : World.proceed daemon world succeeds = some next) : Orderly next := by
  have stage := orderly.stage
  have unused := orderly.unused
  have bounds := orderly.bounds
  simp only [StageOk, place] at stage
  simp only [World.proceed, place] at moved
  rw [usePlatform_eq stage.1.platform] at moved
  split at moved
  · cases moved
    exact { unused := unused, stage := stage }
  · cases moved
    exact { unused := unused, stage := ⟨stage.1.platform, bounds.2.1, bounds.1⟩ }

theorem Orderly.createsEpt (orderly : Orderly world) (place : world.stage = .createEpt)
    (moved : World.proceed daemon world succeeds = some next) : Orderly next := by
  have stage := orderly.stage
  have unused := orderly.unused
  have bounds := orderly.bounds
  simp only [StageOk, place] at stage
  simp only [World.proceed, place] at moved
  rw [useVdev_eq stage.1.vdev] at moved
  split at moved
  · cases daemon with
    | rpcDemod =>
        cases moved
        exact { unused := unused, stage := stage }
    | linuxRpcDemod =>
        cases moved
        exact { unused := unused, stage := stage }
  · cases moved
    exact { unused := unused, stage := ⟨stage.1, bounds.1⟩ }

theorem Orderly.checksShbuf (orderly : Orderly world) (place : world.stage = .checkShbuf)
    (moved : World.proceed daemon world succeeds = some next) : Orderly next := by
  have stage := orderly.stage
  have unused := orderly.unused
  have bounds := orderly.bounds
  simp only [StageOk, place] at stage
  simp only [World.proceed, place] at moved
  rw [useVdev_eq stage.1.vdev] at moved
  split at moved
  · cases moved
    exact { unused := unused, stage := stage }
  · cases moved
    exact { unused := unused, stage := ⟨stage.1, bounds.1⟩ }

/-- The endpoint is there when `platform_poll()` is called. -/
theorem Orderly.polls (orderly : Orderly world) (place : world.stage = .poll)
    (moved : World.proceed daemon world succeeds = some next) : Orderly next := by
  have stage := orderly.stage
  have unused := orderly.unused
  simp only [StageOk, place] at stage
  simp only [World.proceed, place] at moved
  rw [usePlatform_eq stage.1.platform] at moved
  cases moved
  have flags : world.eptReleases = world.eptDeleted.toNat := by
    rw [stage.2.1, stage.2.2, Bool.toNat_false]
  exact { unused := unused, stage := ⟨stage.1, flags⟩ }

/-- The loop goes on only if the endpoint is there. -/
theorem Orderly.tests (orderly : Orderly world) (place : world.stage = .test)
    (moved : World.proceed daemon world succeeds = some next) : Orderly next := by
  have stage := orderly.stage
  have unused := orderly.unused
  simp only [StageOk, place] at stage
  simp only [World.proceed, place] at moved
  split at moved
  · cases moved
    exact { unused := unused, stage := stage }
  · rename_i stays
    cases moved
    have present : world.eptDeleted = false := by
      cases flag : world.eptDeleted with
      | true =>
          rw [exits, flag, Bool.or_true, Bool.true_or] at stays
          exact absurd rfl stays
      | false => rfl
    have zero : world.eptReleases = 0 := by rw [stage.2, present, Bool.toNat_false]
    exact { unused := unused, stage := ⟨stage.1, zero, present⟩ }

/-- The endpoint is destroyed here if no callback and no handler has done so. -/
theorem Orderly.terminates (orderly : Orderly world) (place : world.stage = .terminate)
    (moved : World.proceed daemon world succeeds = some next) : Orderly next := by
  have stage := orderly.stage
  have unused := orderly.unused
  have bounds := orderly.bounds
  simp only [StageOk, place] at stage
  simp only [World.proceed, place] at moved
  split at moved
  · cases moved
    exact { unused := unused, stage := ⟨stage.1, bounds.1⟩ }
  · rename_i present
    cases moved
    have absent := eq_false_of_ne_true present
    have zero : world.eptReleases = 0 := by rw [stage.2, absent, Bool.toNat_false]
    exact { unused := unused, stage := ⟨stage.1, zero, absent⟩ }

theorem Orderly.destroys (orderly : Orderly world) (place : world.stage = .destroy)
    (moved : World.proceed daemon world succeeds = some next) : Orderly next := by
  have stage := orderly.stage
  have unused := orderly.unused
  simp only [StageOk, place] at stage
  simp only [World.proceed, place] at moved
  rw [rpmsgDestroyEpt_eq stage.1.vdev, stage.2.1, Nat.zero_add] at moved
  cases moved
  exact { unused := unused, stage := ⟨stage.1, Bool.toNat_le world.eptCreated⟩ }

theorem Orderly.releasesVdev (orderly : Orderly world) (place : world.stage = .releaseVdev)
    (moved : World.proceed daemon world succeeds = some next) : Orderly next := by
  have stage := orderly.stage
  have unused := orderly.unused
  have bounds := orderly.bounds
  simp only [StageOk, place] at stage
  simp only [World.proceed, place] at moved
  rw [platformReleaseRpmsgVdev, usePlatform_eq stage.1.platform, stage.1.vdev] at moved
  cases moved
  exact { unused := unused, stage := ⟨stage.1.platform, Nat.le_refl 1, bounds.1⟩ }

theorem Orderly.cleansUp (orderly : Orderly world) (place : world.stage = .cleanup)
    (moved : World.proceed daemon world succeeds = some next) : Orderly next := by
  have stage := orderly.stage
  have unused := orderly.unused
  simp only [StageOk, place] at stage
  simp only [World.proceed, place] at moved
  rw [platformCleanup, stage.1] at moved
  cases moved
  exact { unused := unused, stage := ⟨Nat.le_refl 1, stage.2.1, stage.2.2⟩ }

theorem Orderly.proceed (orderly : Orderly world)
    (moved : World.proceed daemon world succeeds = some next) : Orderly next := by
  cases place : world.stage with
  | platformInit => exact orderly.initialises place moved
  | createVdev => exact orderly.createsVdev place moved
  | installTerm => exact orderly.installs (Or.inl place) moved
  | installInt => exact orderly.installs (Or.inr (Or.inl place)) moved
  | installHup => exact orderly.installs (Or.inr (Or.inr place)) moved
  | createEpt => exact orderly.createsEpt place moved
  | checkShbuf => exact orderly.checksShbuf place moved
  | poll => exact orderly.polls place moved
  | inPoll | unbinding =>
      have stage := orderly.stage
      simp only [StageOk, place] at stage
      simp only [World.proceed, place] at moved
      cases moved
      exact { unused := orderly.unused, stage := stage }
  | handling | done => simp only [World.proceed, place, reduceCtorEq] at moved
  | test => exact orderly.tests place moved
  | terminate => exact orderly.terminates place moved
  | destroy => exact orderly.destroys place moved
  | releaseVdev => exact orderly.releasesVdev place moved
  | cleanup => exact orderly.cleansUp place moved

end Proceed

theorem Orderly.mainStep (orderly : Orderly world) {event : Event}
    (moved : RpcSignals.mainStep daemon world event = some next) : Orderly next := by
  have stage := orderly.stage
  have unused := orderly.unused
  cases event with
  | main succeeds => exact orderly.proceed moved
  | message =>
      simp only [RpcSignals.mainStep, Option.ite_none_right_eq_some, Option.some.injEq,
        registered_iff] at moved
      rcases moved with ⟨⟨place, _, live⟩, done⟩
      rw [StageOk, place] at stage
      rw [useEpt_eq live] at done
      cases done
      have present : world.eptDeleted = false := by
        rw [← Bool.toNat_eq_zero, ← stage.2, live]
      exact { unused := unused, stage := ⟨stage.1, live, present⟩ }
  | reply =>
      simp only [RpcSignals.mainStep, Option.ite_none_right_eq_some, Option.some.injEq] at moved
      rcases moved with ⟨place, done⟩
      rw [StageOk, place] at stage
      rw [useEpt_eq stage.2.1] at done
      exact done ▸ orderly
  | messageDone failed terminates =>
      simp only [RpcSignals.mainStep, Option.ite_none_right_eq_some, Option.some.injEq] at moved
      rcases moved with ⟨place, done⟩
      rw [StageOk, place] at stage
      cases done
      have flags : world.eptReleases = world.eptDeleted.toNat := by
        rw [stage.2.1, stage.2.2, Bool.toNat_false]
      exact { unused := unused, stage := ⟨stage.1, flags⟩ }
  | unbind =>
      simp only [RpcSignals.mainStep, Option.ite_none_right_eq_some, Option.some.injEq,
        registered_iff] at moved
      rcases moved with ⟨⟨place, created, live⟩, done⟩
      rw [StageOk, place] at stage
      rw [rpmsgDestroyEpt_eq stage.1.vdev, created, live] at done
      cases done
      exact { unused := unused, stage := ⟨stage.1, rfl⟩ }
  | signal signal => exact nomatch moved
  | handler => exact nomatch moved

/-! ## The handlers -/

/-- Only the exit handler runs, and it finds nothing to destroy, or an endpoint that
`app()` has abandoned. -/
structure Ok (world : World) : Prop where
  orderly : Orderly world
  quiet : forall frame, frame ∈ world.frames -> frame.signal ≠ Signal.sighup ∧
    (frame.place = Place.terminate ∨ frame.place = Place.destroy ∧ world.eptDeleted = false)
  harmless : world.frames = [] ∨ world.eptCreated = false ∨ world.eptDeleted = true ∨
    world.stage = Stage.releaseVdev ∧ world.eptReleases = 0 ∧ world.frames.length = 1

/-- The main path does not depend on the handlers that run. -/
theorem Orderly.withFrames (orderly : Orderly world) (frames : List Frame) :
    Orderly { world with frames := frames } where
  unused := orderly.unused
  stage := orderly.stage

theorem ok_initial : Ok initial where
  orderly := { unused := rfl, stage := ⟨⟨rfl, rfl⟩, rfl, rfl⟩ }
  quiet := nofun
  harmless := Or.inl rfl

/-- The main path moves only while no handler runs. -/
theorem Ok.of_no_frames (orderly : Orderly world) (idle : world.frames = []) : Ok world where
  orderly := orderly
  quiet := by
    rw [idle]
    nofun
  harmless := Or.inl idle

theorem rpmsgDestroyEpt_frames : world.rpmsgDestroyEpt.frames = world.frames := by
  unfold rpmsgDestroyEpt
  split <;> rfl

theorem proceed_frames {succeeds : Bool}
    (moved : World.proceed daemon world succeeds = some next) : next.frames = world.frames := by
  unfold World.proceed at moved
  cases place : world.stage <;> cases daemon <;>
    simp only [place, reduceCtorEq, Option.some.injEq] at moved <;>
    (try split at moved) <;> cases moved <;> first | rfl | exact rpmsgDestroyEpt_frames

theorem mainStep_frames {event : Event}
    (moved : RpcSignals.mainStep daemon world event = some next) :
    next.frames = world.frames := by
  cases event with
  | main succeeds => exact proceed_frames moved
  | message =>
      simp only [RpcSignals.mainStep, Option.ite_none_right_eq_some, Option.some.injEq] at moved
      exact moved.2 ▸ rfl
  | reply =>
      simp only [RpcSignals.mainStep, Option.ite_none_right_eq_some, Option.some.injEq] at moved
      exact moved.2 ▸ rfl
  | messageDone failed terminates =>
      simp only [RpcSignals.mainStep, Option.ite_none_right_eq_some, Option.some.injEq] at moved
      exact moved.2 ▸ rfl
  | unbind =>
      simp only [RpcSignals.mainStep, Option.ite_none_right_eq_some, Option.some.injEq] at moved
      exact moved.2 ▸ rpmsgDestroyEpt_frames
  | signal signal => exact nomatch moved
  | handler => exact nomatch moved

theorem afterTerminate_of_exit {signal : Signal} (notHup : signal ≠ Signal.sighup)
    (rest : List Frame) : world.afterTerminate signal rest = { world with frames := rest } := by
  cases signal with
  | sigterm => rfl
  | sigint => rfl
  | sighup => exact absurd rfl notHup

theorem Ok.arrives (ok : Ok world) {signal : Signal}
    (harmless : Harmless world (Event.signal signal)) : Ok (world.arrives signal) := by
  unfold World.arrives
  split
  · rename_i handled
    rcases harmless handled with ⟨notHup, when⟩
    exact {
      orderly := ok.orderly.withFrames _
      quiet := List.forall_mem_cons.mpr ⟨⟨notHup, Or.inl rfl⟩, ok.quiet⟩
      harmless := by
        rcases when with absent | deleted | ⟨place, live, idle⟩
        · exact Or.inr (Or.inl absent)
        · exact Or.inr (Or.inr (Or.inl deleted))
        · exact Or.inr (Or.inr (Or.inr ⟨place, live, by rw [idle]; rfl⟩)) }
  · exact {
      orderly := { ok.orderly with }
      quiet := ok.quiet
      harmless := ok.harmless }

theorem Ok.handle (ok : Ok world) {frame : Frame} {rest : List Frame}
    (runs : world.frames = frame :: rest) : Ok (world.handle frame rest) := by
  have first := ok.quiet frame (by rw [runs]; exact List.mem_cons_self ..)
  have others : forall other, other ∈ rest -> other.signal ≠ Signal.sighup ∧
      (other.place = Place.terminate ∨
        other.place = Place.destroy ∧ world.eptDeleted = false) :=
    fun other listed => ok.quiet other (by rw [runs]; exact List.mem_cons_of_mem frame listed)
  have harmless := ok.harmless
  rw [runs] at harmless
  rcases first with ⟨notHup, atTest | ⟨atDestroy, present⟩⟩
  · rw [World.handle, atTest]
    simp only [afterTerminate_of_exit notHup]
    split
    · rename_i deleted
      exact {
        orderly := ok.orderly.withFrames _
        quiet := others
        harmless := Or.inr (Or.inr (Or.inl deleted)) }
    · rename_i present
      exact {
        orderly := ok.orderly.withFrames _
        quiet := List.forall_mem_cons.mpr
          ⟨⟨notHup, Or.inr ⟨rfl, eq_false_of_ne_true present⟩⟩, others⟩
        harmless := harmless.imp nofun id }
  · rw [World.handle, atDestroy]
    simp only [afterTerminate_of_exit notHup]
    rcases harmless with impossible | absent | deleted | ⟨place, live, alone⟩
    · exact nomatch impossible
    · have untouched : world.rpmsgDestroyEpt = world := by
        rw [rpmsgDestroyEpt, absent]
        rfl
      rw [untouched]
      exact {
        orderly := ok.orderly.withFrames _
        quiet := others
        harmless := Or.inr (Or.inl absent) }
    · exact nomatch deleted.symm.trans present
    · have stage := ok.orderly.stage
      rw [StageOk, place] at stage
      have last : rest = [] := List.eq_nil_of_length_eq_zero (Nat.succ.inj alone)
      rw [rpmsgDestroyEpt_eq stage.1.vdev, live, Nat.zero_add, last]
      refine Ok.of_no_frames ?_ rfl
      refine { unused := ok.orderly.unused, stage := ?_ }
      simp only [StageOk, place]
      exact ⟨stage.1, Bool.toNat_le world.eptCreated⟩

/-! ## Runs -/

theorem Ok.step {event : Event} (ok : Ok world) (harmless : Harmless world event)
    (moved : RpcSignals.step daemon world event = some next) : Ok next := by
  have alongside : (if world.frames = [] then RpcSignals.mainStep daemon world event else none) =
      some next -> Ok next := by
    intro moves
    rcases Option.ite_none_right_eq_some.mp moves with ⟨idle, stepped⟩
    exact Ok.of_no_frames (ok.orderly.mainStep stepped) ((mainStep_frames stepped).trans idle)
  unfold RpcSignals.step at moved
  rcases Option.ite_none_left_eq_some.mp moved with ⟨_, moves⟩
  cases event with
  | main succeeds => exact alongside moves
  | message => exact alongside moves
  | reply => exact alongside moves
  | messageDone failed terminates => exact alongside moves
  | unbind => exact alongside moves
  | signal signal =>
      rcases Option.ite_none_left_eq_some.mp moves with ⟨_, arrived⟩
      exact Option.some.inj arrived ▸ ok.arrives harmless
  | handler =>
      cases runs : world.frames with
      | nil => simp only [runs, reduceCtorEq] at moves
      | cons frame rest =>
          simp only [runs, Option.some.injEq] at moves
          exact moves ▸ ok.handle runs

open Transition

/-- In every run whose signals are all harmless, everything is released at most once and not used
afterwards, and the service loop notices the end of the endpoint. A signal may arrive between any
two statements, within the callbacks, within another handler, and after the clean-up; calls may
fail, and the conditions are on the state that a signal finds. -/
theorem safe_of_harmless (daemon : Daemon) (schedule : List Event)
    (harmless : Guarded Harmless (step daemon) initial schedule) :
    Always (Safe daemon) (step daemon) initial schedule :=
  always_of_guarded Ok (fun _ ok => ok.orderly.safe)
    (fun _ _ _ ok harmless moved => ok.step harmless moved) schedule ok_initial harmless

/-- The main path up to the service loop; the second daemon does not look for the shared
memory. -/
def starts (daemon : Daemon) : List Event :=
  List.replicate (if daemon = Daemon.rpcDemod then 8 else 7) (Event.main true)

/-- The other side goes away, then a signal arrives, and the daemon ends. -/
def leaves (daemon : Daemon) : List Event :=
  starts daemon ++ [Event.unbind, Event.main true, Event.signal Signal.sigterm, Event.handler] ++
    List.replicate 5 (Event.main true)

theorem leaves_safe :
    (run (step Daemon.rpcDemod) initial (leaves Daemon.rpcDemod)).map World.stage =
        some Stage.done ∧
      Always (Safe Daemon.rpcDemod) (step Daemon.rpcDemod) initial (leaves Daemon.rpcDemod) := by
  refine ⟨rfl, safe_of_harmless Daemon.rpcDemod (leaves Daemon.rpcDemod) ?_⟩
  decide

theorem Safe.not_unnoticed {schedule : List Event} {final : World}
    (always : Always (Safe daemon) (step daemon) initial schedule)
    (reached : run (step daemon) initial schedule = some final) :
    ¬ (final.stage = Stage.test ∧ 0 < final.eptReleases ∧ final.exits daemon = false) := by
  rintro ⟨atTest, released, stays⟩
  exact nomatch ((always.last reached).noticed atTest released).symm.trans stays

/-- A signal arrives in the service loop: the endpoint is destroyed, and the loop goes on. -/
def terminated (daemon : Daemon) : List Event :=
  starts daemon ++ [Event.signal Signal.sigterm, Event.handler, Event.handler, Event.main true]

theorem terminated_not_safe :
    ¬ Always (Safe Daemon.rpcDemod) (step Daemon.rpcDemod) initial (terminated Daemon.rpcDemod) ∧
      ¬ Always (Safe Daemon.linuxRpcDemod) (step Daemon.linuxRpcDemod) initial
        (terminated Daemon.linuxRpcDemod) := by
  constructor
  · intro always
    exact Safe.not_unnoticed always rfl (by decide)
  · intro always
    exact Safe.not_unnoticed always rfl (by decide)

end World
end RpcSignals
end OpenAmpReference
