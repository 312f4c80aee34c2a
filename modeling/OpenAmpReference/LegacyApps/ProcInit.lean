import OpenAmpReference.Library.Handles
import OpenAmpReference.Library.Transition

namespace OpenAmpReference
namespace LegacyApps
namespace ProcInit

/-!
# Initialising and removing a remoteproc on the Linux machines

`zynqmp_linux_r5_proc_init()`, in its two builds, and `linux_proc_init()` open
devices, look regions up, register one with the remoteproc and an interrupt handler
with libmetal, and jump to a label that undoes a part of this when a step fails.  The
remove operations close what the private data names.  A run calls both in any order
with any outcome of each step.  In the build with IPI the remove operation writes to a
register before it looks whether there is a device, so that it needs the region.
-/

/-! ## What the operations act on -/

/-- The open handles, the memory regions of the remoteproc, by the device they belong
to, the registered interrupt handlers, by their handle, and the private data. -/
structure Machine (Priv : Type) where
  handles : Handles
  mems : List Nat
  irqs : List Nat
  priv : Priv
  deriving DecidableEq

namespace Machine

variable {Priv : Type}

def opens (machine : Machine Priv) : Machine Priv :=
  { machine with handles := machine.handles.opens }

def close (machine : Machine Priv) (handle : Nat) : Machine Priv :=
  { machine with handles := machine.handles.close handle }

/-- Close a device unless the pointer is null. -/
def closeIfSet (machine : Machine Priv) : Option Nat -> Machine Priv
  | none => machine
  | some handle => machine.close handle

/-- A register of the region of a device is written. -/
def writeIo (machine : Machine Priv) (device : Option Nat) : Machine Priv :=
  { machine with handles := machine.handles.useIfSet device }

theorem writeIo_of_holds {machine : Machine Priv} {held : List Nat} {device : Nat}
    (holds : machine.handles.Holds held) (member : device ∈ held) :
    machine.writeIo (some device) = machine := by
  rw [writeIo, holds.useIfSet member]

@[simp] theorem closeIfSet_mems (machine : Machine Priv) (device : Option Nat) :
    (machine.closeIfSet device).mems = machine.mems := by
  cases device <;> rfl

@[simp] theorem closeIfSet_next (machine : Machine Priv) (device : Option Nat) :
    (machine.closeIfSet device).handles.next = machine.handles.next := by
  cases device <;> rfl

/-- `remoteproc_add_mem()` -/
def addMem (machine : Machine Priv) (device : Nat) : Machine Priv :=
  { machine with mems := machine.mems ++ [device] }

/-- `metal_irq_register()` -/
def irqRegister (machine : Machine Priv) (handle : Nat) : Machine Priv :=
  { machine with irqs := machine.irqs ++ [handle] }

/-- `metal_irq_unregister()` -/
def irqUnregister (machine : Machine Priv) (handle : Nat) : Machine Priv :=
  { machine with irqs := machine.irqs.erase handle }

end Machine

/-! ## The zynqmp machine -/

/-- The device pointers of `struct remoteproc_priv`, and the device whose region `ipi_io`
is. -/
structure ZynqmpPriv where
  ipiDev : Option Nat
  ipiIo : Option Nat
  shmDev : Option Nat
  shmPollDev : Option Nat
  deriving DecidableEq, Repr

/-- What succeeds in one call of `zynqmp_linux_r5_proc_init()`. -/
structure ZynqmpOutcome where
  shmOpens : Bool
  shmIo : Bool
  pollOpens : Bool
  pollIo : Bool
  ipiOpens : Bool
  ipiIo : Bool
  deriving DecidableEq, Repr

namespace Zynqmp

def setShmDev (machine : Machine ZynqmpPriv) (device : Nat) : Machine ZynqmpPriv :=
  { machine with priv := { machine.priv with shmDev := some device } }

def setShmPollDev (machine : Machine ZynqmpPriv) (device : Nat) : Machine ZynqmpPriv :=
  { machine with priv := { machine.priv with shmPollDev := some device } }

def setIpiDev (machine : Machine ZynqmpPriv) (device : Nat) : Machine ZynqmpPriv :=
  { machine with priv := { machine.priv with ipiDev := some device } }

def setIpiIo (machine : Machine ZynqmpPriv) (device : Option Nat) : Machine ZynqmpPriv :=
  { machine with priv := { machine.priv with ipiIo := device } }

/-- The two pointers that every call starts by clearing. -/
def clearDevs (machine : Machine ZynqmpPriv) : Machine ZynqmpPriv :=
  { machine with priv := { machine.priv with ipiDev := none, shmDev := none } }

/-- The labels; a call that returns NULL returns `false`. -/
def err1 (machine : Machine ZynqmpPriv) : Bool × Machine ZynqmpPriv :=
  (false, machine)

def err2 (machine : Machine ZynqmpPriv) : Bool × Machine ZynqmpPriv :=
  err1 (machine.closeIfSet machine.priv.shmDev)

def err3 (machine : Machine ZynqmpPriv) : Bool × Machine ZynqmpPriv :=
  err2 (machine.closeIfSet machine.priv.ipiDev)

/-- The poll device, under `RPMSG_NO_IPI` only; then the memory is registered. -/
def initPoll (machine : Machine ZynqmpPriv) (shm : Nat) (outcome : ZynqmpOutcome) :
    Bool × Machine ZynqmpPriv :=
  if outcome.pollOpens = false then err1 machine
  else
    let opened := setShmPollDev machine.opens machine.handles.next
    if outcome.pollIo = false then err2 opened
    else (true, (opened.writeIo (some machine.handles.next)).addMem shm)

/-- The memory is registered; then the IPI device, unless under `RPMSG_NO_IPI`. -/
def initIpi (machine : Machine ZynqmpPriv) (shm : Nat) (outcome : ZynqmpOutcome) :
    Bool × Machine ZynqmpPriv :=
  if outcome.ipiOpens = false then err2 (machine.addMem shm)
  else
    let opened := setIpiDev (machine.addMem shm).opens machine.handles.next
    if outcome.ipiIo = false then err3 (setIpiIo opened none)
    else
      let found := setIpiIo opened (some machine.handles.next)
      (true, (found.irqRegister machine.handles.next).writeIo found.priv.ipiIo)

/-- `zynqmp_linux_r5_proc_init()` -/
def init (noIpi : Bool) (machine : Machine ZynqmpPriv) (outcome : ZynqmpOutcome) :
    Bool × Machine ZynqmpPriv :=
  if outcome.shmOpens = false then err1 (clearDevs machine)
  else
    let opened := setShmDev (clearDevs machine).opens machine.handles.next
    if outcome.shmIo = false then err2 opened
    else if noIpi then initPoll opened machine.handles.next outcome
    else initIpi opened machine.handles.next outcome

/-- `zynqmp_linux_r5_proc_remove()`; the IPI is disabled before anything is tested. -/
def remove (noIpi : Bool) (machine : Machine ZynqmpPriv) : Machine ZynqmpPriv :=
  let disabled :=
    if noIpi then machine
    else
      let written := machine.writeIo machine.priv.ipiIo
      match written.priv.ipiDev with
      | none => written
      | some device => (written.irqUnregister device).close device
  disabled.closeIfSet disabled.priv.shmDev

end Zynqmp

/-! ## The generic Linux machine -/

/-- The handles of `struct remoteproc_priv`; a negative descriptor is `none`. -/
structure LinuxPriv where
  shmOldIo : Option Nat
  fd : Option Nat
  deriving DecidableEq, Repr

/-- What one `sk_unix_client()` meets. -/
inductive Connect
  | noSocket
  | refused
  | connected
  deriving DecidableEq, Repr

/-- What `sk_unix_server()` meets. -/
inductive Accept
  | noSocket
  | notBound
  | notAccepted
  | accepted
  deriving DecidableEq, Repr

/-- The path of the socket, and what opening it meets. -/
inductive EventOutcome
  | noPath
  | client (tries : Nat -> Connect)
  | server (outcome : Accept)

structure LinuxOutcome where
  shmOpens : Bool
  event : EventOutcome

namespace Linux

/-- `sk_unix_client()`: the socket is closed unless it is connected. -/
def skUnixClient (machine : Machine LinuxPriv) : Connect -> Option Nat × Machine LinuxPriv
  | .noSocket => (none, machine)
  | .refused => (none, machine.opens.close machine.handles.next)
  | .connected => (some machine.handles.next, machine.opens)

/-- `sk_unix_server()`: the listening socket is closed, the accepted one returned. -/
def skUnixServer (machine : Machine LinuxPriv) : Accept -> Option Nat × Machine LinuxPriv
  | .noSocket => (none, machine)
  | .notBound => (none, machine.opens.close machine.handles.next)
  | .notAccepted => (none, machine.opens.close machine.handles.next)
  | .accepted =>
      (some machine.opens.handles.next, machine.opens.opens.close machine.handles.next)

/-- The loop of `event_open()` from its `i`th turn on. -/
def connectLoop (tries : Nat -> Connect) :
    Nat -> Nat -> Machine LinuxPriv -> Option Nat × Machine LinuxPriv
  | 0, _, machine => (none, machine)
  | remaining + 1, i, machine =>
      match skUnixClient machine (tries i) with
      | (some fd, after) => (some fd, after)
      | (none, after) => connectLoop tries remaining (i + 1) after

/-- `event_open()` -/
def eventOpen (machine : Machine LinuxPriv) : EventOutcome -> Option Nat × Machine LinuxPriv
  | .noPath => (none, machine)
  | .client tries => connectLoop tries 100 0 machine
  | .server outcome => skUnixServer machine outcome

def setShmOldIo (machine : Machine LinuxPriv) (io : Option Nat) : Machine LinuxPriv :=
  { machine with priv := { machine.priv with shmOldIo := io } }

def setFd (machine : Machine LinuxPriv) (fd : Option Nat) : Machine LinuxPriv :=
  { machine with priv := { machine.priv with fd := fd } }

/-- What `linux_proc_init()` does with the result of `event_open()`. -/
def withFd : Option Nat × Machine LinuxPriv -> Bool × Machine LinuxPriv
  | (none, machine) => (false, setFd machine none)
  | (some fd, machine) => (true, (setFd machine (some fd)).irqRegister fd)

/-- `linux_proc_init()` -/
def init (machine : Machine LinuxPriv) (outcome : LinuxOutcome) : Bool × Machine LinuxPriv :=
  if outcome.shmOpens = false then (false, machine)
  else
    let opened := setShmOldIo machine.opens (some machine.handles.next)
    match outcome.event with
    | .noPath => (false, opened)
    | event => withFd (eventOpen opened event)

/-- `linux_proc_remove()` -/
def remove (machine : Machine LinuxPriv) : Machine LinuxPriv :=
  let closed :=
    match machine.priv.fd with
    | none => machine
    | some fd => (machine.irqUnregister fd).close fd
  match closed.priv.shmOldIo with
  | none => closed
  | some io => setShmOldIo (closed.close io) none

end Linux

/-! ## Runs over the same private data -/

/-- The operations of one machine.  `Balanced` says which outcomes of an init leave
nothing half done, `Inert` which ones change nothing at all, `Idle` that the remove
operation finds nothing to act on, and `removes` whether it knows of all that a successful
init has opened. -/
structure Port where
  Priv : Type
  Outcome : Type
  initial : Priv
  init : Machine Priv -> Outcome -> Bool × Machine Priv
  remove : Machine Priv -> Machine Priv
  Balanced : Outcome -> Prop
  Inert : Outcome -> Prop
  Idle : Priv -> Prop
  removes : Bool

/-- The machine, and what a run has to answer for: `outstanding` are the handles
opened by successful inits that no remove has followed, `kept` the regions registered
by successful inits. -/
structure World (port : Port) where
  machine : Machine port.Priv
  outstanding : List Nat
  kept : List Nat

inductive Call (port : Port)
  | init (outcome : port.Outcome)
  | remove

section Runs

variable {port : Port}

/-- Handle `0` is standard input; nothing else is open before the first call. -/
def started (port : Port) : World port where
  machine := {
    handles := Handles.initial 1
    mems := []
    irqs := []
    priv := port.initial }
  outstanding := []
  kept := []

/-- The handles opened and the regions registered between two machines. -/
def Machine.openedSince {Priv : Type} (after before : Machine Priv) : List Nat :=
  List.range' before.handles.next (after.handles.next - before.handles.next)

def Machine.registeredSince {Priv : Type} (after before : Machine Priv) : List Nat :=
  after.mems.drop before.mems.length

def step (world : World port) : Call port -> Option (World port)
  | .init outcome =>
      match port.init world.machine outcome with
      | (false, after) => some { world with machine := after }
      | (true, after) => some {
          machine := after
          outstanding := world.outstanding ++ after.openedSince world.machine
          kept := world.kept ++ after.registeredSince world.machine }
  | .remove => some {
      machine := port.remove world.machine
      outstanding := []
      kept := world.kept }

/-- Whatever has been opened has been closed exactly once, unless a successful init
has opened it and no remove has followed; only regions of successful inits and handlers
for what they have opened are registered, and nothing has been used or closed that was not
open. -/
structure AllOrNothing (world : World port) : Prop where
  unmisused : world.machine.handles.ledger.misused = false
  closedOnce : forall handle, handle ∈ world.machine.handles.ledger.acquired ->
    handle ∉ world.outstanding -> world.machine.handles.ledger.released.count handle = 1
  mems : forall region, region ∈ world.machine.mems -> region ∈ world.kept
  irqs : forall handle, handle ∈ world.machine.irqs -> handle ∈ world.outstanding

/-- An init only when no successful one is waiting for its remove, and with a balanced
outcome, or else an inert one; a remove only after a successful init that it can undo, or
when it finds nothing to act on, which never is so in the IPI build. -/
def Careful (world : World port) : Call port -> Prop
  | .init outcome =>
      (world.outstanding = [] ∧ port.Balanced outcome) ∨ port.Inert outcome
  | .remove =>
      (world.outstanding ≠ [] ∧ port.removes = true) ∨
        (world.outstanding = [] ∧ port.Idle world.machine.priv)

/-- Nothing is open and no handler is registered. -/
structure Settled (mems : List Nat) {Priv : Type} (machine : Machine Priv) : Prop where
  holds : machine.handles.Holds []
  irqs : machine.irqs = []
  mems_eq : machine.mems = mems

/-- What a successful init leaves behind on a settled machine. -/
structure SetUp (port : Port) (before after : Machine port.Priv) (held : List Nat) : Prop where
  holds : after.handles.Holds held
  new : forall handle, handle ∈ held -> before.handles.next ≤ handle
  later : before.handles.next ≤ after.handles.next
  irqs : forall handle, handle ∈ after.irqs -> handle ∈ held
  mems : Exists fun regions => after.mems = before.mems ++ regions ∧
    forall region, region ∈ regions -> region < after.handles.next
  undone : port.removes = true -> Settled after.mems (port.remove after)

/-- What a failed init can leave behind on a settled machine. -/
def LeavesBehind {Priv : Type} (before after : Machine Priv) : Prop :=
  (Exists fun handle => handle ∈ after.handles.ledger.acquired ∧
      after.handles.ledger.released.count handle = 0) ∨
    before.handles.next ∈ after.mems

theorem LeavesBehind.of_held {Priv : Type} {before after : Machine Priv} {held : List Nat}
    (holds : after.handles.Holds held) {handle : Nat} (member : handle ∈ held) :
    LeavesBehind before after :=
  have live := holds.live handle member
  Or.inl ⟨handle, live.1, List.count_eq_zero_of_not_mem live.2⟩

/-- What the operations of a machine have to satisfy. -/
structure Port.Lawful (port : Port) : Prop where
  fails : forall (before : Machine port.Priv) outcome after, Settled before.mems before ->
    port.Balanced outcome -> port.init before outcome = (false, after) ->
    Settled before.mems after ∧ before.handles.next ≤ after.handles.next
  succeeds : forall (before : Machine port.Priv) outcome after, Settled before.mems before ->
    port.init before outcome = (true, after) -> Exists fun held => SetUp port before after held
  leaves : forall (before : Machine port.Priv) outcome, Settled before.mems before ->
    ¬ port.Balanced outcome ->
    Exists fun after => port.init before outcome = (false, after) ∧ LeavesBehind before after
  keeps : forall machine : Machine port.Priv,
    (port.remove machine).handles.next = machine.handles.next
  inert : forall (machine : Machine port.Priv) outcome, port.Inert outcome ->
    port.init machine outcome = (false, machine)
  idles : forall machine : Machine port.Priv, port.Idle machine.priv ->
    port.remove machine = machine
  misuses : forall machine : Machine port.Priv, Settled machine.mems machine ->
    ¬ port.Idle machine.priv -> (port.remove machine).handles.ledger.misused = true

/-- What is open is outstanding, and a remove that knows of it closes it. -/
structure World.Ok (world : World port) : Prop where
  held : Exists fun held => world.machine.handles.Holds held ∧
    (forall handle, handle ∈ held -> handle ∈ world.outstanding) ∧
    (forall handle, handle ∈ world.machine.irqs -> handle ∈ held)
  mems : forall region, region ∈ world.machine.mems -> region ∈ world.kept
  kept_lt : forall region, region ∈ world.kept -> region < world.machine.handles.next
  undone : world.outstanding ≠ [] -> port.removes = true ->
    Settled world.machine.mems (port.remove world.machine)

theorem World.Ok.allOrNothing {world : World port} (ok : world.Ok) : AllOrNothing world := by
  rcases ok.held with ⟨held, holds, outstanding, irqs⟩
  refine ⟨holds.misused, ?_, ok.mems, fun handle member => outstanding handle (irqs handle member)⟩
  intro handle acquired settled
  exact holds.settled handle acquired (fun member => settled (outstanding handle member))

/-- With nothing outstanding the machine is settled. -/
theorem World.Ok.settled {world : World port} (ok : world.Ok) (none : world.outstanding = []) :
    Settled world.machine.mems world.machine := by
  rcases ok.held with ⟨held, holds, outstanding, irqs⟩
  have empty : held = [] := by
    apply List.eq_nil_iff_forall_not_mem.mpr
    intro handle member
    have out := outstanding handle member
    rw [none] at out
    exact List.not_mem_nil out
  subst empty
  exact ⟨holds, List.eq_nil_iff_forall_not_mem.mpr (fun handle member =>
    List.not_mem_nil (irqs handle member)), rfl⟩

/-- A settled machine with nothing outstanding. -/
theorem World.ok_of_settled {world : World port} {mems : List Nat}
    (settled : Settled mems world.machine) (none : world.outstanding = [])
    (kept : forall region, region ∈ mems -> region ∈ world.kept)
    (old : forall region, region ∈ world.kept -> region < world.machine.handles.next) :
    world.Ok where
  held := ⟨[], settled.holds, fun _ member => absurd member List.not_mem_nil,
    fun _ member => by rwa [settled.irqs] at member⟩
  mems := by
    rw [settled.mems_eq]
    exact kept
  kept_lt := old
  undone := fun some => absurd none some

theorem started_ok (port : Port) : (started port).Ok :=
  World.ok_of_settled ⟨Handles.initial_holds 1, rfl, rfl⟩ rfl
    (fun _ member => absurd member List.not_mem_nil)
    (fun _ member => absurd member List.not_mem_nil)

/-- A careful call of lawful operations keeps the invariant. -/
theorem Port.Lawful.step (lawful : port.Lawful) {world next : World port} {call : Call port}
    (ok : world.Ok) (careful : Careful world call) (moved : step world call = some next) :
    next.Ok := by
  cases call with
  | init outcome =>
      simp only [ProcInit.step] at moved
      rcases careful with ⟨none, balanced⟩ | inert
      case inr =>
        rw [lawful.inert world.machine outcome inert] at moved
        cases moved
        exact ok
      have settled := ok.settled none
      cases called : port.init world.machine outcome with
      | mk returned after =>
          cases returned with
          | false =>
              rw [called] at moved
              cases moved
              rcases lawful.fails _ _ _ settled balanced called with ⟨after, later⟩
              exact World.ok_of_settled after none ok.mems
                (fun region member => Nat.lt_of_lt_of_le (ok.kept_lt region member) later)
          | true =>
              rw [called] at moved
              cases moved
              rcases lawful.succeeds _ _ _ settled called with ⟨held, setUp⟩
              rcases setUp.mems with ⟨regions, appended, new⟩
              have registered : after.registeredSince world.machine = regions := by
                rw [Machine.registeredSince, appended, List.drop_left]
              refine ⟨⟨held, setUp.holds, ?_, setUp.irqs⟩, ?_, ?_, fun _ => setUp.undone⟩
              · intro handle member
                have lower := setUp.new handle member
                have upper := setUp.holds.lt_next member
                apply List.mem_append_right
                rw [Machine.openedSince, List.mem_range'_1]
                omega
              · intro region member
                change region ∈ world.kept ++ after.registeredSince world.machine
                rw [registered]
                rw [appended] at member
                rcases List.mem_append.mp member with earlier | new
                · exact List.mem_append_left _ (ok.mems region earlier)
                · exact List.mem_append_right _ new
              · intro region member
                change region ∈ world.kept ++ after.registeredSince world.machine at member
                rw [registered] at member
                rcases List.mem_append.mp member with earlier | added
                · exact Nat.lt_of_lt_of_le (ok.kept_lt region earlier) setUp.later
                · exact new region added
  | remove =>
      cases moved
      have old : forall region, region ∈ world.kept ->
          region < (port.remove world.machine).handles.next := by
        rw [lawful.keeps]
        exact ok.kept_lt
      rcases careful with ⟨waiting, removes⟩ | ⟨none, idle⟩
      · exact World.ok_of_settled (ok.undone waiting removes) rfl ok.mems old
      · have settled := ok.settled none
        have mems := ok.mems
        rw [← lawful.idles world.machine idle] at settled mems
        exact World.ok_of_settled settled rfl mems old

/-- An init that nothing outstanding precedes is all-or-nothing exactly for the balanced
outcomes. -/
theorem Port.Lawful.init_iff (lawful : port.Lawful) {world next : World port}
    {outcome : port.Outcome} (ok : world.Ok) (none : world.outstanding = [])
    (moved : ProcInit.step world (.init outcome) = some next) :
    AllOrNothing next ↔ port.Balanced outcome := by
  constructor
  · intro allOrNothing
    by_contra unbalanced
    rcases lawful.leaves _ _ (ok.settled none) unbalanced with ⟨after, called, left⟩
    simp only [ProcInit.step, called] at moved
    cases moved
    rcases left with ⟨handle, acquired, never⟩ | region
    · have once := allOrNothing.closedOnce handle acquired (by rw [none]; exact List.not_mem_nil)
      exact absurd (never.symm.trans once) Nat.zero_ne_one
    · exact Nat.lt_irrefl _ (ok.kept_lt _ (allOrNothing.mems _ region))
  · intro balanced
    have careful : Careful world (.init outcome) := Or.inl ⟨none, balanced⟩
    exact (lawful.step ok careful moved).allOrNothing

/-- A remove with nothing to remove is harmless only if the private data is idle. -/
theorem Port.Lawful.remove_iff (lawful : port.Lawful) {world next : World port} (ok : world.Ok)
    (none : world.outstanding = []) (moved : ProcInit.step world .remove = some next) :
    AllOrNothing next ↔ port.Idle world.machine.priv := by
  constructor
  · intro allOrNothing
    by_contra busy
    have misused := lawful.misuses world.machine (ok.settled none) busy
    cases moved
    exact Bool.noConfusion (misused.symm.trans allOrNothing.unmisused)
  · intro idle
    have careful : Careful world .remove := Or.inr ⟨none, idle⟩
    exact (lawful.step ok careful moved).allOrNothing

/-- In every run of careful calls the operations are all-or-nothing throughout. -/
theorem Port.Lawful.always (lawful : port.Lawful) (calls : List (Call port))
    (careful : Transition.Guarded Careful ProcInit.step (started port) calls) :
    Transition.Always AllOrNothing ProcInit.step (started port) calls :=
  Transition.always_of_guarded World.Ok (fun _ ok => ok.allOrNothing)
    (fun _ _ _ ok careful moved => lawful.step ok careful moved) calls (started_ok port) careful

end Runs

/-! ## The zynqmp machine is lawful -/

/-- The init fails before it has more than the shared memory open, or not at all. -/
def Zynqmp.Balanced (noIpi : Bool) (outcome : ZynqmpOutcome) : Prop :=
  outcome.shmOpens = false ∨ outcome.shmIo = false ∨
    if noIpi then outcome.pollOpens = true ∧ outcome.pollIo = true
    else outcome.ipiOpens = true ∧ outcome.ipiIo = true

def Port.zynqmp (noIpi : Bool) : Port where
  Priv := ZynqmpPriv
  Outcome := ZynqmpOutcome
  initial := { ipiDev := none, ipiIo := none, shmDev := none, shmPollDev := none }
  init := Zynqmp.init noIpi
  remove := Zynqmp.remove noIpi
  Balanced := Zynqmp.Balanced noIpi
  Inert := fun _ => False
  Idle := fun priv => noIpi = true ∧ priv.shmDev = none
  removes := !noIpi

namespace Zynqmp

variable {machine after : Machine ZynqmpPriv} {outcome : ZynqmpOutcome} {noIpi : Bool}

/-- The shared memory device is closed again if its region is missing. -/
theorem init_of_shmIo (opens : outcome.shmOpens = true) (missing : outcome.shmIo = false) :
    init noIpi machine outcome =
      (false, (setShmDev (clearDevs machine).opens machine.handles.next).close
        machine.handles.next) := by
  rw [init, if_neg (by rw [opens]; decide), if_pos missing]
  rfl

/-- With the shared memory open the rest depends on the build. -/
theorem init_of_shm (opens : outcome.shmOpens = true) (found : outcome.shmIo = true) :
    init noIpi machine outcome =
      if noIpi then
        initPoll (setShmDev (clearDevs machine).opens machine.handles.next) machine.handles.next
          outcome
      else
        initIpi (setShmDev (clearDevs machine).opens machine.handles.next) machine.handles.next
          outcome := by
  rw [init, if_neg (by rw [opens]; decide), if_neg (by rw [found]; decide)]

/-- The labels return NULL. -/
theorem initPoll_eq_true {shm : Nat} (called : initPoll machine shm outcome = (true, after)) :
    after = ((setShmPollDev machine.opens machine.handles.next).writeIo
      (some machine.handles.next)).addMem shm := by
  cases opens : outcome.pollOpens with
  | false =>
      rw [initPoll, if_pos opens] at called
      exact absurd (congrArg Prod.fst called) Bool.false_ne_true
  | true =>
      cases found : outcome.pollIo with
      | false =>
          rw [initPoll, if_neg (by rw [opens]; decide), if_pos found] at called
          exact absurd (congrArg Prod.fst called) Bool.false_ne_true
      | true =>
          rw [initPoll, if_neg (by rw [opens]; decide), if_neg (by rw [found]; decide)] at called
          exact (congrArg Prod.snd called).symm

theorem initIpi_eq_true {shm : Nat} (called : initIpi machine shm outcome = (true, after)) :
    after = ((setIpiIo (setIpiDev (machine.addMem shm).opens machine.handles.next)
      (some machine.handles.next)).irqRegister machine.handles.next).writeIo
        (some machine.handles.next) := by
  cases opens : outcome.ipiOpens with
  | false =>
      rw [initIpi, if_pos opens] at called
      exact absurd (congrArg Prod.fst called) Bool.false_ne_true
  | true =>
      cases found : outcome.ipiIo with
      | false =>
          rw [initIpi, if_neg (by rw [opens]; decide), if_pos found] at called
          exact absurd (congrArg Prod.fst called) Bool.false_ne_true
      | true =>
          rw [initIpi, if_neg (by rw [opens]; decide), if_neg (by rw [found]; decide)] at called
          exact (congrArg Prod.snd called).symm

theorem fails (settled : Settled machine.mems machine) (balanced : Balanced noIpi outcome)
    (called : init noIpi machine outcome = (false, after)) :
    Settled machine.mems after ∧ machine.handles.next ≤ after.handles.next := by
  cases opens : outcome.shmOpens with
  | false =>
      rw [init, if_pos opens] at called
      cases called
      exact ⟨⟨settled.holds, settled.irqs, rfl⟩, Nat.le_refl _⟩
  | true =>
      cases found : outcome.shmIo with
      | false =>
          rw [init_of_shmIo opens found] at called
          cases called
          exact ⟨⟨settled.holds.opens.close_head, settled.irqs, rfl⟩, Nat.le_succ _⟩
      | true =>
          rw [init_of_shm opens found] at called
          rw [Balanced, opens, found] at balanced
          simp only [reduceCtorEq, false_or] at balanced
          cases noIpi with
          | false =>
              rw [if_neg Bool.false_ne_true] at called balanced
              rw [initIpi, balanced.1, balanced.2] at called
              cases called
          | true =>
              rw [if_pos rfl] at called balanced
              rw [initPoll, balanced.1, balanced.2] at called
              cases called

/-- No label takes back the memory that has been registered. -/
theorem initIpi_leaves {shm : Nat}
    (missing : ¬ (outcome.ipiOpens = true ∧ outcome.ipiIo = true)) :
    Exists fun after => initIpi machine shm outcome = (false, after) ∧ shm ∈ after.mems := by
  have registered : shm ∈ (machine.addMem shm).mems :=
    List.mem_append_right _ (List.mem_singleton.mpr rfl)
  cases opens : outcome.ipiOpens with
  | false =>
      rw [initIpi, if_pos opens]
      refine ⟨_, rfl, ?_⟩
      rwa [Machine.closeIfSet_mems]
  | true =>
      have found : outcome.ipiIo = false := by
        rw [opens, and_iff_right rfl, Bool.not_eq_true] at missing
        exact missing
      rw [initIpi, if_neg (by rw [opens]; decide), if_pos found]
      refine ⟨_, rfl, ?_⟩
      rw [Machine.closeIfSet_mems, Machine.closeIfSet_mems]
      exact registered

/-- The labels close the shared memory device at most. -/
theorem initPoll_leaves {before : Machine ZynqmpPriv} {shm : Nat}
    (holds : machine.handles.Holds [shm]) (named : machine.priv.shmDev = some shm)
    (missing : ¬ (outcome.pollOpens = true ∧ outcome.pollIo = true)) :
    Exists fun after => initPoll machine shm outcome = (false, after) ∧
      LeavesBehind before after := by
  cases opens : outcome.pollOpens with
  | false =>
      rw [initPoll, if_pos opens]
      exact ⟨machine, rfl, LeavesBehind.of_held holds List.mem_cons_self⟩
  | true =>
      have found : outcome.pollIo = false := by
        rw [opens, and_iff_right rfl, Bool.not_eq_true] at missing
        exact missing
      rw [initPoll, if_neg (by rw [opens]; decide), if_pos found]
      have closes : err2 (setShmPollDev machine.opens machine.handles.next) =
          (false, (setShmPollDev machine.opens machine.handles.next).close shm) := by
        simp only [err2, err1, setShmPollDev, Machine.opens, named, Machine.closeIfSet]
      exact ⟨_, closes, LeavesBehind.of_held holds.opens.close_second List.mem_cons_self⟩

theorem leaves (settled : Settled machine.mems machine) (unbalanced : ¬ Balanced noIpi outcome) :
    Exists fun after => init noIpi machine outcome = (false, after) ∧
      LeavesBehind machine after := by
  rw [Balanced, not_or, not_or, Bool.not_eq_false, Bool.not_eq_false] at unbalanced
  rcases unbalanced with ⟨opens, found, missing⟩
  rw [init_of_shm opens found]
  cases noIpi with
  | false =>
      rw [if_neg Bool.false_ne_true] at missing ⊢
      rcases initIpi_leaves missing with ⟨after, called, registered⟩
      exact ⟨after, called, Or.inr registered⟩
  | true =>
      rw [if_pos rfl] at missing ⊢
      exact initPoll_leaves settled.holds.opens rfl missing

/-- With the IPI device open the registers are written and both devices closed. -/
theorem remove_of_holds {ipi shm : Nat} (holds : machine.handles.Holds [ipi, shm])
    (device : machine.priv.ipiDev = some ipi) (region : machine.priv.ipiIo = some ipi)
    (memory : machine.priv.shmDev = some shm) :
    remove false machine = ((machine.irqUnregister ipi).close ipi).close shm := by
  have written : machine.writeIo machine.priv.ipiIo = machine := by
    rw [region]
    exact Machine.writeIo_of_holds holds List.mem_cons_self
  simp only [remove, written, device, Bool.false_eq_true, if_false]
  simp only [Machine.irqUnregister, Machine.close, memory, Machine.closeIfSet]

/-- Two devices are open after a success: the shared memory, and the poll device or the
IPI device. -/
theorem succeeds (settled : Settled machine.mems machine)
    (called : init noIpi machine outcome = (true, after)) :
    Exists fun held => SetUp (Port.zynqmp noIpi) machine after held := by
  cases opens : outcome.shmOpens with
  | false =>
      rw [init, if_pos opens] at called
      cases called
  | true =>
      cases found : outcome.shmIo with
      | false =>
          rw [init_of_shmIo opens found] at called
          cases called
      | true =>
          rw [init_of_shm opens found] at called
          refine ⟨[machine.handles.next + 1, machine.handles.next], ?_⟩
          have both := settled.holds.opens.opens
          have new : forall handle, handle ∈ [machine.handles.next + 1, machine.handles.next] ->
              machine.handles.next ≤ handle := by
            simp only [List.forall_mem_cons]
            exact ⟨Nat.le_succ _, Nat.le_refl _, fun _ member => absurd member List.not_mem_nil⟩
          have memory : forall region, region ∈ [machine.handles.next] ->
              region < machine.handles.next + 2 := by
            rw [List.forall_mem_singleton]
            exact Nat.lt_add_of_pos_right (by decide)
          cases noIpi with
          | false =>
              rw [if_neg Bool.false_ne_true] at called
              rw [initIpi_eq_true called, Machine.writeIo_of_holds both List.mem_cons_self]
              have irqs : machine.irqs ++ [machine.handles.next + 1] =
                  [machine.handles.next + 1] := by
                rw [settled.irqs, List.nil_append]
              refine ⟨both, new, Nat.le_add_right _ 2, ?_, ⟨_, rfl, memory⟩, fun _ => ?_⟩
              · intro handle member
                change handle ∈ machine.irqs ++ [machine.handles.next + 1] at member
                rw [irqs] at member
                exact List.mem_cons.mpr (Or.inl (List.mem_singleton.mp member))
              · rw [show (Port.zynqmp false).remove _ = _ from remove_of_holds both rfl rfl rfl]
                refine ⟨both.close_head.close_head, ?_, rfl⟩
                change (machine.irqs ++ [machine.handles.next + 1]).erase
                  (machine.handles.next + 1) = []
                rw [irqs, List.erase_cons_head]
          | true =>
              rw [if_pos rfl] at called
              rw [initPoll_eq_true called]
              rw [Machine.writeIo_of_holds both List.mem_cons_self]
              refine ⟨both, new, Nat.le_add_right _ 2, ?_, ⟨_, rfl, memory⟩,
                fun removes => absurd removes Bool.false_ne_true⟩
              intro handle member
              change handle ∈ machine.irqs at member
              rw [settled.irqs] at member
              exact absurd member List.not_mem_nil

theorem closeIfSet_misused (misused : machine.handles.ledger.misused = true)
    (device : Option Nat) : (machine.closeIfSet device).handles.ledger.misused = true := by
  cases device with
  | none => exact misused
  | some device => exact Handles.close_misused misused device

theorem idles (idle : noIpi = true ∧ machine.priv.shmDev = none) :
    remove noIpi machine = machine := by
  rw [remove, if_pos idle.1, idle.2, Machine.closeIfSet]

/-- With no device open a register cannot be written, and a pointer that is left over is
closed again. -/
theorem misuses (settled : Settled machine.mems machine)
    (busy : ¬ (noIpi = true ∧ machine.priv.shmDev = none)) :
    (remove noIpi machine).handles.ledger.misused = true := by
  cases noIpi with
  | false =>
      have misused : (machine.writeIo machine.priv.ipiIo).handles.ledger.misused = true :=
        settled.holds.useIfSet_dead _
      simp only [remove, Bool.false_eq_true, if_false]
      cases (machine.writeIo machine.priv.ipiIo).priv.ipiDev with
      | none => exact closeIfSet_misused misused _
      | some device => exact closeIfSet_misused (Handles.close_misused misused device) _
  | true =>
      cases memory : machine.priv.shmDev with
      | none => exact absurd ⟨rfl, memory⟩ busy
      | some device =>
          rw [remove, if_pos rfl, memory]
          exact settled.holds.close_dead List.not_mem_nil

theorem keeps (noIpi : Bool) (machine : Machine ZynqmpPriv) :
    (remove noIpi machine).handles.next = machine.handles.next := by
  rw [remove, Machine.closeIfSet_next]
  cases noIpi with
  | false =>
      have written : (machine.writeIo machine.priv.ipiIo).handles.next = machine.handles.next :=
        machine.handles.useIfSet_next machine.priv.ipiIo
      simp only [Bool.false_eq_true, if_false]
      cases (machine.writeIo machine.priv.ipiIo).priv.ipiDev <;> exact written
  | true => rfl

theorem lawful (noIpi : Bool) : (Port.zynqmp noIpi).Lawful where
  fails := fun _ _ _ settled balanced called => fails settled balanced called
  leaves := fun _ _ settled unbalanced => leaves settled unbalanced
  keeps := keeps noIpi
  succeeds := fun _ _ _ settled called => succeeds settled called
  inert := fun _ _ never => never.elim
  idles := fun _ idle => idles idle
  misuses := fun _ settled busy => misuses settled busy

end Zynqmp

/-! ## The generic Linux machine is lawful -/

/-- One of the hundred attempts is connected, or the server's is accepted. -/
def EventOutcome.Opens : EventOutcome -> Prop
  | .noPath => False
  | .client tries => Exists fun i => i < 100 ∧ tries i = .connected
  | .server outcome => outcome = .accepted

def Port.linux : Port where
  Priv := LinuxPriv
  Outcome := LinuxOutcome
  initial := { shmOldIo := none, fd := some 0 }
  init := Linux.init
  remove := Linux.remove
  Balanced := fun outcome => outcome.shmOpens = false ∨ outcome.event.Opens
  Inert := fun outcome => outcome.shmOpens = false
  Idle := fun priv => priv.shmOldIo = none ∧ priv.fd = none
  removes := true

namespace Linux

variable {machine after : Machine LinuxPriv} {held : List Nat}

/-- Opening a socket keeps everything else: besides a returned descriptor nothing new
is open. -/
structure OpensOnly (before after : Machine LinuxPriv) (held : List Nat) (fd : Option Nat) :
    Prop where
  holds : after.handles.Holds (fd.toList ++ held)
  new : forall handle, fd = some handle -> before.handles.next ≤ handle
  later : before.handles.next ≤ after.handles.next
  irqs : after.irqs = before.irqs
  mems : after.mems = before.mems
  priv : after.priv = before.priv

theorem skUnixClient_opensOnly (holds : machine.handles.Holds held) (outcome : Connect) :
    OpensOnly machine (skUnixClient machine outcome).2 held (skUnixClient machine outcome).1 := by
  cases outcome with
  | noSocket => exact ⟨holds, nofun, Nat.le_refl _, rfl, rfl, rfl⟩
  | refused => exact ⟨holds.opens.close_head, nofun, Nat.le_succ _, rfl, rfl, rfl⟩
  | connected =>
      refine ⟨holds.opens, ?_, Nat.le_succ _, rfl, rfl, rfl⟩
      intro handle same
      exact Nat.le_of_eq (Option.some.inj same)

theorem skUnixServer_opensOnly (holds : machine.handles.Holds held) (outcome : Accept) :
    OpensOnly machine (skUnixServer machine outcome).2 held (skUnixServer machine outcome).1 := by
  cases outcome with
  | noSocket => exact ⟨holds, nofun, Nat.le_refl _, rfl, rfl, rfl⟩
  | notBound => exact ⟨holds.opens.close_head, nofun, Nat.le_succ _, rfl, rfl, rfl⟩
  | notAccepted => exact ⟨holds.opens.close_head, nofun, Nat.le_succ _, rfl, rfl, rfl⟩
  | accepted =>
      refine ⟨holds.opens.opens.close_second, ?_, Nat.le_add_right _ 2, rfl, rfl, rfl⟩
      intro handle same
      exact Nat.le_trans (Nat.le_succ _) (Nat.le_of_eq (Option.some.inj same))

/-- Every refused attempt has closed its socket before the next. -/
theorem connectLoop_opensOnly (tries : Nat -> Connect) (remaining i : Nat)
    (holds : machine.handles.Holds held) :
    OpensOnly machine (connectLoop tries remaining i machine).2 held
      (connectLoop tries remaining i machine).1 := by
  induction remaining generalizing i machine with
  | zero => exact ⟨holds, nofun, Nat.le_refl _, rfl, rfl, rfl⟩
  | succ remaining inductionHypothesis =>
      have first := skUnixClient_opensOnly holds (tries i)
      rw [connectLoop]
      cases tried : skUnixClient machine (tries i) with
      | mk fd next =>
          rw [tried] at first
          cases fd with
          | some fd => exact first
          | none =>
              have rest := inductionHypothesis (i + 1) first.holds
              exact ⟨rest.holds,
                fun handle same => Nat.le_trans first.later (rest.new handle same),
                Nat.le_trans first.later rest.later, rest.irqs.trans first.irqs,
                rest.mems.trans first.mems, rest.priv.trans first.priv⟩

/-- The loop ends with a descriptor if and only if one of its attempts is connected. -/
theorem connectLoop_isSome_iff (tries : Nat -> Connect) (remaining i : Nat)
    (machine : Machine LinuxPriv) :
    (connectLoop tries remaining i machine).1.isSome ↔
      Exists fun k => k < remaining ∧ tries (i + k) = .connected := by
  induction remaining generalizing i machine with
  | zero =>
      refine ⟨nofun, ?_⟩
      rintro ⟨k, small, _⟩
      exact absurd small (Nat.not_lt_zero k)
  | succ remaining inductionHypothesis =>
      rw [connectLoop]
      cases outcome : tries i with
      | connected => exact iff_of_true rfl ⟨0, Nat.succ_pos _, outcome⟩
      | noSocket | refused =>
          refine (inductionHypothesis (i + 1) _).trans ⟨?_, ?_⟩
          · rintro ⟨k, small, connected⟩
            exact ⟨k + 1, Nat.succ_lt_succ small, by rwa [Nat.add_right_comm] at connected⟩
          · rintro ⟨k, small, connected⟩
            cases k with
            | zero =>
                rw [Nat.add_zero, outcome] at connected
                cases connected
            | succ k => exact ⟨k, Nat.lt_of_succ_lt_succ small, by rwa [Nat.add_right_comm]⟩

theorem eventOpen_opensOnly (holds : machine.handles.Holds held) (event : EventOutcome) :
    OpensOnly machine (eventOpen machine event).2 held (eventOpen machine event).1 := by
  cases event with
  | noPath => exact ⟨holds, nofun, Nat.le_refl _, rfl, rfl, rfl⟩
  | client tries => exact connectLoop_opensOnly tries 100 0 holds
  | server outcome => exact skUnixServer_opensOnly holds outcome

theorem eventOpen_isSome_iff (event : EventOutcome) (machine : Machine LinuxPriv) :
    (eventOpen machine event).1.isSome ↔ event.Opens := by
  cases event with
  | noPath => exact ⟨nofun, False.elim⟩
  | client tries =>
      have loop := connectLoop_isSome_iff tries 100 0 machine
      simp only [Nat.zero_add] at loop
      exact loop
  | server outcome =>
      cases outcome with
      | accepted => exact iff_of_true rfl rfl
      | noSocket | notBound | notAccepted => exact ⟨nofun, nofun⟩

/-- With the shared memory open and a path given, the result is that of `event_open()`. -/
theorem init_of_path {outcome : LinuxOutcome} (opens : outcome.shmOpens = true)
    (path : outcome.event ≠ .noPath) :
    init machine outcome = withFd (eventOpen
      (setShmOldIo machine.opens (some machine.handles.next)) outcome.event) := by
  rw [init, if_neg (by rw [opens]; decide)]
  cases event : outcome.event with
  | noPath => exact absurd event path
  | client tries => rfl
  | server accept => rfl

theorem fails {outcome : LinuxOutcome} (settled : Settled machine.mems machine)
    (balanced : outcome.shmOpens = false ∨ outcome.event.Opens)
    (called : init machine outcome = (false, after)) :
    Settled machine.mems after ∧ machine.handles.next ≤ after.handles.next := by
  cases opens : outcome.shmOpens with
  | false =>
      rw [init, if_pos opens] at called
      cases called
      exact ⟨settled, Nat.le_refl _⟩
  | true =>
      have event : outcome.event.Opens := balanced.resolve_left (by rw [opens]; decide)
      have path : outcome.event ≠ .noPath := by
        intro missing
        rw [missing] at event
        exact event
      rw [init_of_path opens path] at called
      have opened := (eventOpen_isSome_iff outcome.event
        (setShmOldIo machine.opens (some machine.handles.next))).mpr event
      cases result : eventOpen (setShmOldIo machine.opens (some machine.handles.next))
          outcome.event with
      | mk fd next =>
          rw [result] at called opened
          cases fd with
          | none => cases opened
          | some fd => cases called

/-- Nothing closes the shared memory if the socket cannot be opened. -/
theorem leaves {outcome : LinuxOutcome} (settled : Settled machine.mems machine)
    (unbalanced : ¬ (outcome.shmOpens = false ∨ outcome.event.Opens)) :
    Exists fun after => init machine outcome = (false, after) ∧ LeavesBehind machine after := by
  rw [not_or, Bool.not_eq_false] at unbalanced
  rcases unbalanced with ⟨opens, unopened⟩
  have shmOpen : (setShmOldIo machine.opens (some machine.handles.next)).handles.Holds
      [machine.handles.next] := settled.holds.opens
  by_cases path : outcome.event = .noPath
  · rw [init, if_neg (by rw [opens]; decide), path]
    exact ⟨_, rfl, LeavesBehind.of_held shmOpen List.mem_cons_self⟩
  · rw [init_of_path opens path]
    have only := eventOpen_opensOnly shmOpen outcome.event
    have failed := mt (eventOpen_isSome_iff outcome.event
      (setShmOldIo machine.opens (some machine.handles.next))).mp unopened
    cases result : eventOpen (setShmOldIo machine.opens (some machine.handles.next))
        outcome.event with
    | mk fd next =>
        rw [result] at only failed
        cases fd with
        | none => exact ⟨_, rfl, LeavesBehind.of_held only.holds List.mem_cons_self⟩
        | some fd => exact absurd rfl failed

/-- The shared memory and the connected socket are open after a success, and the private
data names both. -/
theorem succeeds {outcome : LinuxOutcome} (settled : Settled machine.mems machine)
    (called : init machine outcome = (true, after)) :
    Exists fun held => SetUp Port.linux machine after held := by
  cases opens : outcome.shmOpens with
  | false =>
      rw [init, if_pos opens] at called
      cases called
  | true =>
      by_cases path : outcome.event = .noPath
      · rw [init, if_neg (by rw [opens]; decide), path] at called
        cases called
      · rw [init_of_path opens path] at called
        have shmOpen : (setShmOldIo machine.opens (some machine.handles.next)).handles.Holds
            [machine.handles.next] := settled.holds.opens
        have only := eventOpen_opensOnly shmOpen outcome.event
        cases result : eventOpen (setShmOldIo machine.opens (some machine.handles.next))
            outcome.event with
        | mk fd next =>
            rw [result] at called only
            cases fd with
            | none => cases called
            | some fd =>
                cases called
                have holds : next.handles.Holds [fd, machine.handles.next] := only.holds
                have irqs : next.irqs ++ [fd] = [fd] := by
                  rw [only.irqs]
                  change machine.irqs ++ [fd] = [fd]
                  rw [settled.irqs, List.nil_append]
                have shm : next.priv.shmOldIo = some machine.handles.next := by
                  rw [only.priv]
                  rfl
                refine ⟨[fd, machine.handles.next], holds, ?_, ?_, ?_, ⟨[], ?_, nofun⟩, fun _ => ?_⟩
                · simp only [List.forall_mem_cons]
                  exact ⟨Nat.le_of_succ_le (only.new fd rfl), Nat.le_refl _,
                    fun _ member => absurd member List.not_mem_nil⟩
                · exact Nat.le_of_succ_le only.later
                · intro handle member
                  change handle ∈ next.irqs ++ [fd] at member
                  rw [irqs] at member
                  exact List.mem_cons.mpr (Or.inl (List.mem_singleton.mp member))
                · rw [List.append_nil]
                  exact only.mems
                · change Settled next.mems (remove ((setFd next (some fd)).irqRegister fd))
                  simp only [remove, setFd, Machine.irqRegister, Machine.irqUnregister,
                    Machine.close, shm, irqs, List.erase_cons_head]
                  exact ⟨holds.close_head.close_head, rfl, rfl⟩

theorem idles (idle : machine.priv.shmOldIo = none ∧ machine.priv.fd = none) :
    remove machine = machine := by
  simp only [remove, idle.1, idle.2]

theorem misuses (settled : Settled machine.mems machine)
    (busy : ¬ (machine.priv.shmOldIo = none ∧ machine.priv.fd = none)) :
    (remove machine).handles.ledger.misused = true := by
  cases fd : machine.priv.fd with
  | none =>
      cases io : machine.priv.shmOldIo with
      | none => exact absurd ⟨io, fd⟩ busy
      | some io' =>
          simp only [remove, fd, io]
          exact settled.holds.close_dead List.not_mem_nil
  | some handle =>
      have misused : (machine.handles.close handle).ledger.misused = true :=
        settled.holds.close_dead List.not_mem_nil
      cases io : machine.priv.shmOldIo with
      | none =>
          simp only [remove, fd, Machine.irqUnregister, Machine.close, io]
          exact misused
      | some io' =>
          simp only [remove, fd, Machine.irqUnregister, Machine.close, io]
          exact Handles.close_misused misused io'

theorem keeps (machine : Machine LinuxPriv) :
    (remove machine).handles.next = machine.handles.next := by
  rcases machine with ⟨handles, mems, irqs, ⟨shmOldIo, fd⟩⟩
  cases shmOldIo <;> cases fd <;> rfl

theorem lawful : Port.linux.Lawful where
  fails := fun _ _ _ settled balanced called => fails settled balanced called
  leaves := fun _ _ settled unbalanced => leaves settled unbalanced
  keeps := keeps
  succeeds := fun _ _ _ settled called => succeeds settled called
  inert := fun _ _ fails => if_pos fails
  idles := fun _ idle => idles idle
  misuses := fun _ settled busy => misuses settled busy

end Linux

/-! ## All three builds -/

inductive Build
  | zynqmpIpi
  | zynqmpNoIpi
  | linux
  deriving DecidableEq, Repr

def Build.port : Build -> Port
  | .zynqmpIpi => Port.zynqmp false
  | .zynqmpNoIpi => Port.zynqmp true
  | .linux => Port.linux

theorem Build.lawful (build : Build) : build.port.Lawful := by
  cases build with
  | zynqmpIpi => exact Zynqmp.lawful false
  | zynqmpNoIpi => exact Zynqmp.lawful true
  | linux => exact Linux.lawful

/-- Every run of careful calls over the same private data is all-or-nothing, for the three
builds and every outcome of each step: a failed init has closed what it opened, and a
remove closes everything once and uses nothing that is closed.  The calls have to be
careful because the labels undo too little and a remove leaves its pointers behind. -/
theorem careful_allOrNothing (build : Build) (calls : List (Call build.port))
    (careful : Transition.Guarded Careful step (started build.port) calls) :
    Transition.Always AllOrNothing step (started build.port) calls :=
  build.lawful.always calls careful

/-- Which outcomes an init must have is exact: after a careful run with nothing
outstanding an init keeps the property for the balanced outcomes only. -/
theorem init_allOrNothing_iff (build : Build) {calls : List (Call build.port)}
    {world next : World build.port} {outcome : build.port.Outcome}
    (careful : Transition.Guarded Careful step (started build.port) calls)
    (reached : Transition.run step (started build.port) calls = some world)
    (none : world.outstanding = []) (moved : step world (.init outcome) = some next) :
    AllOrNothing next ↔ build.port.Balanced outcome := by
  have ok : world.Ok := Transition.guarded_run_invariant
    (fun _ _ _ ok careful moved => build.lawful.step ok careful moved) (started_ok build.port)
    careful reached
  exact build.lawful.init_iff ok none moved

/-- Nor is a remove with nothing outstanding harmless unless the private data is idle: in
the IPI build it never is. -/
theorem remove_allOrNothing_iff (build : Build) {calls : List (Call build.port)}
    {world next : World build.port}
    (careful : Transition.Guarded Careful step (started build.port) calls)
    (reached : Transition.run step (started build.port) calls = some world)
    (none : world.outstanding = []) (moved : step world .remove = some next) :
    AllOrNothing next ↔ build.port.Idle world.machine.priv := by
  have ok : world.Ok := Transition.guarded_run_invariant
    (fun _ _ _ ok careful moved => build.lawful.step ok careful moved) (started_ok build.port)
    careful reached
  exact build.lawful.remove_iff ok none moved

/-- Everything succeeds. -/
def ZynqmpOutcome.success : ZynqmpOutcome where
  shmOpens := true
  shmIo := true
  pollOpens := true
  pollIo := true
  ipiOpens := true
  ipiIo := true

/-- A failed open, a success, its remove, and a missing region. -/
theorem careful_zynqmpIpi :
    Transition.Always AllOrNothing step (started Build.zynqmpIpi.port)
      [.init { ZynqmpOutcome.success with shmOpens := false }, .init ZynqmpOutcome.success,
        .remove, .init { ZynqmpOutcome.success with shmIo := false }] :=
  careful_allOrNothing .zynqmpIpi _
    ⟨Or.inl ⟨rfl, Or.inl rfl⟩, Or.inl ⟨rfl, Or.inr (Or.inr ⟨rfl, rfl⟩)⟩,
      Or.inl ⟨by decide, rfl⟩, Or.inl ⟨rfl, Or.inr (Or.inl rfl)⟩, trivial⟩

/-- Without the IPI device the region stays registered, the poll device is never closed,
and without a path of the socket the shared memory stays open. -/
theorem not_allOrNothing :
    ¬ Transition.Always AllOrNothing step (started Build.zynqmpIpi.port)
        [.init { ZynqmpOutcome.success with ipiOpens := false }] ∧
      ¬ Transition.Always AllOrNothing step (started Build.zynqmpNoIpi.port)
        [.init ZynqmpOutcome.success, .remove] ∧
      ¬ Transition.Always AllOrNothing step (started Build.linux.port)
        [.init { shmOpens := true, event := .noPath }] := by
  refine ⟨?_, ?_, ?_⟩
  · intro always
    have left := (always.tail rfl).head.mems 1 (by decide)
    exact absurd left List.not_mem_nil
  · intro always
    have poll := ((always.tail rfl).tail rfl).head.closedOnce 2 (by decide) List.not_mem_nil
    exact absurd poll (by decide)
  · intro always
    have shm := (always.tail rfl).head.closedOnce 1 (by decide) List.not_mem_nil
    exact absurd shm (by decide)

end ProcInit
end LegacyApps
end OpenAmpReference
