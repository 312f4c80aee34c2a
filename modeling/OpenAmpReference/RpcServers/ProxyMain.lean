import OpenAmpReference.Library.Ledger
import OpenAmpReference.RpcServers.Signals

namespace OpenAmpReference
namespace ProxyMain

/-!
# What `main()` of `proxy_app.c` acquires and releases

About ten steps of the set-up share the label `error0`, and the normal exit falls through
to it after a clean-up of its own, which closes the endpoint under a second name.  The
buffers are released on the normal exit only.  Both signal handlers use `proxy`, from the
first `sigaction()` on and up to the end of the process: `main()` still has to return when
it has freed `proxy`, whose pointer then dangles.  A signal arrives between any two steps,
also between those of a handler, and a signal is blocked while its own handler runs.
-/

open RpcSignals (Signal Action)

inductive Resource
  | eptFd
  | rpmsgCharFd
  | proxy
  | rpc
  | rpcResponse
  deriving DecidableEq, Repr

/-- What `handle_rpc()` is asked for: `transfer` stands for a read and for a write. -/
inductive Request
  | openFile
  | closeFile (fd : Nat)
  | transfer (fd : Nat)
  | term
  | invalid
  deriving DecidableEq, Repr

/-- A pointer in `struct _proxy_data` -/
inductive Pointer
  | indeterminate
  | null
  | block
  deriving DecidableEq, Repr

/-- Where `main()` is; at `done` the process has ended, and no signal reaches it. -/
inductive Stage
  | installTerm
  | installInt
  | installHup
  | lookupChannel
  | bindRpmsgChrdev
  | ctrlChrdevFd
  | chrdevFd
  | createEpt
  | eptDevName
  | openEpt
  | mallocProxy
  | setFd
  | setActive
  | mallocRpc
  | mallocResponse
  | checkMalloc
  | initMsg
  | read
  | handle (request : Request)
  | respond
  | test
  | closeProxyFd
  | freeRpc
  | freeResponse
  | closeEpt
  | closeChar
  | freeProxy
  | returning
  | done
  deriving DecidableEq, Repr

/-- Where a handler is: the exit handler has one statement, the kill handler four. -/
inductive Place
  | clearActive
  | closeFd
  | freeRpc
  | freeResponse
  | freeProxy
  deriving DecidableEq, Repr

structure Frame where
  signal : Signal
  place : Place
  deriving DecidableEq, Repr

/-- The variables of the program; `proxy` says whether the pointer is set, and a
descriptor that is not there is `none`. -/
structure World where
  stage : Stage
  dead : Bool
  installed : List Signal
  ledger : Ledger Resource
  rpmsgCharFd : Option Nat
  eptFd : Option Nat
  proxy : Bool
  rpmsgProxyFd : Option Nat
  active : Bool
  rpc : Pointer
  rpcResponse : Pointer
  nullDereferenced : Bool
  frames : List Frame
  deriving DecidableEq, Repr

namespace World

def initial : World where
  stage := Stage.installTerm
  dead := false
  installed := []
  ledger := Ledger.empty
  rpmsgCharFd := none
  eptFd := none
  proxy := false
  rpmsgProxyFd := none
  active := false
  rpc := Pointer.indeterminate
  rpcResponse := Pointer.indeterminate
  nullDereferenced := false
  frames := []

/-! ## What is used and released -/

def acquires (world : World) (resource : Resource) : World :=
  { world with ledger := world.ledger.acquire resource }

def uses (world : World) (resource : Resource) : World :=
  { world with ledger := world.ledger.use resource }

def releases (world : World) (resource : Resource) : World :=
  { world with ledger := world.ledger.release resource }

/-- The resource that a descriptor stands for -/
def owner (world : World) (fd : Nat) : Option Resource :=
  if world.eptFd = some fd then some Resource.eptFd
  else if world.rpmsgCharFd = some fd then some Resource.rpmsgCharFd
  else none

/-- A read or a write on a descriptor -/
def usesFd (world : World) (fd : Nat) : World :=
  { world with
    ledger := match world.owner fd with
      | some resource => world.ledger.use resource
      | none => world.ledger }

/-- `close()` -/
def closes (world : World) (fd : Nat) : World :=
  { world with
    ledger := match world.owner fd with
      | some resource => world.ledger.release resource
      | none => world.ledger }

/-- `close()` of a descriptor that is there -/
def closesIfOpen (world : World) (fd : Option Nat) : World :=
  { world with
    ledger := match fd with
      | some fd => (world.closes fd).ledger
      | none => world.ledger }

/-- A read or a write on `proxy->rpmsg_proxy_fd` -/
def usesProxyFd (world : World) : World :=
  { world with
    ledger := match world.rpmsgProxyFd with
      | some fd => ((world.uses Resource.proxy).usesFd fd).ledger
      | none => world.ledger.misuse }

/-- `close(proxy->rpmsg_proxy_fd)` -/
def closesProxyFd (world : World) : World :=
  { world with
    ledger := match world.rpmsgProxyFd with
      | some fd => ((world.uses Resource.proxy).closes fd).ledger
      | none => world.ledger.misuse }

/-- `free()` of a pointer in `proxy` -/
def frees (world : World) (pointer : Pointer) (resource : Resource) : World :=
  { world with
    ledger := match pointer with
      | Pointer.indeterminate => world.ledger.misuse
      | Pointer.null => world.ledger.use Resource.proxy
      | Pointer.block => (world.ledger.use Resource.proxy).release resource }

/-! ## `main()` -/

/-- `malloc()` -/
def allocates (world : World) (resource : Resource) (succeeds : Bool) : World :=
  { world with ledger := if succeeds then world.ledger.acquire resource else world.ledger }

def Pointer.ofMalloc (succeeds : Bool) : Pointer :=
  if succeeds then Pointer.block else Pointer.null

/-- `handle_rpc()` up to the response -/
def handles (world : World) : Request -> World
  | Request.openFile =>
      { (world.uses Resource.proxy).uses Resource.rpc with stage := Stage.respond }
  | Request.closeFile fd =>
      { ((world.uses Resource.proxy).uses Resource.rpc).closes fd with stage := Stage.respond }
  | Request.transfer fd =>
      { ((world.uses Resource.proxy).uses Resource.rpc).usesFd fd with stage := Stage.respond }
  | Request.term =>
      { (world.uses Resource.proxy).uses Resource.rpc with active := false, stage := Stage.test }
  | Request.invalid =>
      { (world.uses Resource.proxy).uses Resource.rpc with stage := Stage.closeProxyFd }

/-- The next step, with the result of the call it makes, if it makes one.  In the service
loop `true` is a read that finds no message. -/
def proceed (world : World) (succeeds : Bool) : Option World :=
  match world.stage with
  | Stage.installTerm =>
      some { world with
        installed := Signal.sigterm :: world.installed, stage := Stage.installInt }
  | Stage.installInt =>
      some { world with installed := Signal.sigint :: world.installed, stage := Stage.installHup }
  | Stage.installHup =>
      some { world with
        installed := Signal.sighup :: world.installed, stage := Stage.lookupChannel }
  | Stage.lookupChannel =>
      some { world with stage := if succeeds then Stage.bindRpmsgChrdev else Stage.closeEpt }
  | Stage.bindRpmsgChrdev =>
      some { world with stage := if succeeds then Stage.ctrlChrdevFd else Stage.closeEpt }
  | Stage.ctrlChrdevFd => if succeeds then none else some { world with stage := Stage.chrdevFd }
  | Stage.chrdevFd => if succeeds then none else some { world with stage := Stage.closeEpt }
  | Stage.createEpt =>
      some { world.uses Resource.rpmsgCharFd with
        stage := if succeeds then Stage.eptDevName else Stage.closeEpt }
  | Stage.eptDevName =>
      some { world with stage := if succeeds then Stage.openEpt else Stage.closeEpt }
  | Stage.openEpt => if succeeds then none else some { world with stage := Stage.closeEpt }
  | Stage.mallocProxy =>
      some { world.allocates Resource.proxy succeeds with
        proxy := succeeds
        stage := if succeeds then Stage.setFd else Stage.closeEpt }
  | Stage.setFd =>
      some { world.uses Resource.proxy with
        rpmsgProxyFd := world.eptFd, stage := Stage.setActive }
  | Stage.setActive =>
      some { world.uses Resource.proxy with active := true, stage := Stage.mallocRpc }
  | Stage.mallocRpc =>
      some { (world.uses Resource.proxy).allocates Resource.rpc succeeds with
        rpc := Pointer.ofMalloc succeeds, stage := Stage.mallocResponse }
  | Stage.mallocResponse =>
      some { (world.uses Resource.proxy).allocates Resource.rpcResponse succeeds with
        rpcResponse := Pointer.ofMalloc succeeds, stage := Stage.checkMalloc }
  | Stage.checkMalloc =>
      some { world.uses Resource.proxy with
        stage := if world.rpc = Pointer.block ∧ world.rpcResponse = Pointer.block then
          Stage.initMsg else Stage.closeEpt }
  | Stage.initMsg =>
      some { world.usesProxyFd with stage := if succeeds then Stage.read else Stage.closeEpt }
  | Stage.read =>
      some { world.usesProxyFd.uses Resource.rpc with
        stage := if succeeds then Stage.test else Stage.closeProxyFd }
  | Stage.handle request => some (world.handles request)
  | Stage.respond =>
      some { world.usesProxyFd.uses Resource.rpcResponse with
        stage := if succeeds then Stage.test else Stage.closeProxyFd }
  | Stage.test =>
      some { world.uses Resource.proxy with
        stage := if world.active then Stage.read else Stage.closeProxyFd }
  | Stage.closeProxyFd => some { world.closesProxyFd with stage := Stage.freeRpc }
  | Stage.freeRpc =>
      some { world.frees world.rpc Resource.rpc with stage := Stage.freeResponse }
  | Stage.freeResponse =>
      some { world.frees world.rpcResponse Resource.rpcResponse with stage := Stage.closeEpt }
  | Stage.closeEpt => some { world.closesIfOpen world.eptFd with stage := Stage.closeChar }
  | Stage.closeChar =>
      some { world.closesIfOpen world.rpmsgCharFd with stage := Stage.freeProxy }
  | Stage.freeProxy =>
      if world.proxy then some { world.releases Resource.proxy with stage := Stage.returning }
      else some { world with stage := Stage.returning }
  | Stage.returning => some { world with stage := Stage.done }
  | Stage.done => none

/-- A descriptor is opened, one that is not in use. -/
def opened (world : World) (fd : Nat) : Option World :=
  if (world.owner fd).isSome then none
  else
    match world.stage with
    | Stage.ctrlChrdevFd | Stage.chrdevFd =>
        some { world.acquires Resource.rpmsgCharFd with
          rpmsgCharFd := some fd, stage := Stage.createEpt }
    | Stage.openEpt =>
        some { world.acquires Resource.eptFd with
          eptFd := some fd, stage := Stage.mallocProxy }
    | _ => none

/-- A message is read into the buffer. -/
def received (world : World) (request : Request) : Option World :=
  if world.stage = Stage.read then
    some { world.usesProxyFd.uses Resource.rpc with stage := Stage.handle request }
  else none

/-! ## The handlers -/

/-- A signal arrives: its handler begins, or the process ends by default. -/
def arrives (world : World) (signal : Signal) : World :=
  if signal ∈ world.installed then
    { world with
      frames := { signal := signal
                  place := match signal.action with
                    | Action.exitActionHandler => Place.clearActive
                    | Action.killActionHandler => Place.closeFd } :: world.frames }
  else { world with dead := true }

/-- The next step of the handler that runs; every one of them begins with `proxy->`, but
for the last `free()`. -/
def handlerStep (world : World) (frame : Frame) (rest : List Frame) : World :=
  if world.proxy = false then { world with dead := true, nullDereferenced := true }
  else
    match frame.place with
    | Place.clearActive => { world.uses Resource.proxy with active := false, frames := rest }
    | Place.closeFd =>
        { world.closesProxyFd with frames := { frame with place := Place.freeRpc } :: rest }
    | Place.freeRpc =>
        { world.frees world.rpc Resource.rpc with
          frames := { frame with place := Place.freeResponse } :: rest }
    | Place.freeResponse =>
        { world.frees world.rpcResponse Resource.rpcResponse with
          frames := { frame with place := Place.freeProxy } :: rest }
    | Place.freeProxy => { world.releases Resource.proxy with frames := rest }

end World

inductive Event
  | main (succeeds : Bool)
  | opens (fd : Nat)
  | receives (request : Request)
  | signal (signal : Signal)
  | handler
  deriving DecidableEq, Repr

/-- The main path, which waits for the handlers -/
def mainStep (world : World) (event : Event) : Option World :=
  match event with
  | Event.main succeeds => world.proceed succeeds
  | Event.opens fd => world.opened fd
  | Event.receives request => world.received request
  | _ => none

def step (world : World) (event : Event) : Option World :=
  if world.dead = true ∨ world.stage = Stage.done then none
  else
    match event with
    | Event.signal signal =>
        if signal ∈ world.frames.map Frame.signal then none else some (world.arrives signal)
    | Event.handler =>
        match world.frames with
        | [] => none
        | frame :: rest => some (world.handlerStep frame rest)
    | _ => if world.frames = [] then mainStep world event else none

namespace World

/-- Nothing is used or released once it has been released, no handler follows a null
pointer, and when `main()` returns everything that it has acquired is released exactly
once. -/
structure Disciplined (world : World) : Prop where
  unused : world.ledger.misused = false
  noNull : world.nullDereferenced = false
  settled : world.stage = Stage.done -> world.ledger.Settled

/-- A request that does not end the service loop and closes no descriptor of the program -/
def Proper (world : World) : Request -> Prop
  | Request.closeFile fd => world.owner fd = none
  | Request.invalid => False
  | Request.openFile | Request.transfer _ | Request.term => True

instance properDecidable (world : World) : (request : Request) -> Decidable (Proper world request)
  | Request.closeFile fd => inferInstanceAs (Decidable (world.owner fd = none))
  | Request.invalid => isFalse not_false
  | Request.openFile => isTrue trivial
  | Request.transfer _ => isTrue trivial
  | Request.term => isTrue trivial

/-- No signal that has a handler is `SIGHUP` or finds no `proxy`; the buffers are both
allocated or neither; the first message is sent; the service loop is not left, and no
request closes a descriptor of the program. -/
def Harmless (world : World) (event : Event) : Prop :=
  match event with
  | Event.main succeeds =>
      (world.stage = Stage.mallocResponse -> (succeeds = true ↔ world.rpc = Pointer.block)) ∧
        (world.stage = Stage.initMsg ∨ world.stage = Stage.read ∨ world.stage = Stage.respond ->
          succeeds = true) ∧
        (world.stage = Stage.test -> world.active = true)
  | Event.receives request => Proper world request
  | Event.signal signal => signal ∈ world.installed ->
      signal ≠ Signal.sighup ∧ world.proxy = true ∧ world.ledger.Live Resource.proxy
  | _ => True

instance harmlessDecidable (world : World) : (event : Event) -> Decidable (Harmless world event)
  | Event.main _ => inferInstanceAs (Decidable (_ ∧ _ ∧ _))
  | Event.receives request => properDecidable world request
  | Event.signal _ => inferInstanceAs (Decidable (_ -> _ ∧ _ ∧ _))
  | Event.opens _ => isTrue trivial
  | Event.handler => isTrue trivial

/-! ## The invariant -/

/-- The descriptors and `proxy`, as far as they are there -/
def held (char ept proxy : Bool) : List Resource :=
  (if proxy then [Resource.proxy] else []) ++ (if ept then [Resource.eptFd] else []) ++
    if char then [Resource.rpmsgCharFd] else []

/-- What is acquired and what is released of it -/
structure Holds (world : World) (char ept proxy : Bool) (payload released : List Resource) :
    Prop where
  acquired : world.ledger.acquired = payload ++ held char ept proxy
  released : world.ledger.released = released
  char : world.rpmsgCharFd.isSome = char
  ept : world.eptFd.isSome = ept
  proxy : world.proxy = proxy
  distinct : forall fd, world.eptFd = some fd -> world.rpmsgCharFd ≠ some fd

/-- The service loop can be entered. -/
structure Serving (world : World) : Prop where
  holds : Holds world true true true [Resource.rpcResponse, Resource.rpc] []
  proxyFd : world.rpmsgProxyFd = world.eptFd

/-- What is acquired and released where `main()` is -/
def StageOk (world : World) : Prop :=
  match world.stage with
  | Stage.createEpt | Stage.eptDevName | Stage.openEpt => Holds world true false false [] []
  | Stage.mallocProxy => Holds world true true false [] []
  | Stage.setFd => Holds world true true true [] []
  | Stage.setActive | Stage.mallocRpc =>
      Holds world true true true [] [] ∧ world.rpmsgProxyFd = world.eptFd
  | Stage.mallocResponse =>
      (Holds world true true true [] [] ∧ world.rpc = Pointer.null ∨
        Holds world true true true [Resource.rpc] [] ∧ world.rpc = Pointer.block) ∧
          world.rpmsgProxyFd = world.eptFd
  | Stage.checkMalloc =>
      Holds world true true true [] [] ∧ world.rpc = Pointer.null ∨
        Serving world ∧ world.rpc = Pointer.block ∧ world.rpcResponse = Pointer.block
  | Stage.handle request => Serving world ∧ Proper world request
  | Stage.initMsg | Stage.read | Stage.respond | Stage.test => Serving world
  | Stage.closeProxyFd | Stage.freeRpc | Stage.freeResponse => False
  | Stage.closeEpt => Exists fun char => Exists fun ept => Exists fun proxy =>
      Holds world char ept proxy [] []
  | Stage.closeChar => Exists fun char => Exists fun ept => Exists fun proxy =>
      Holds world char ept proxy [] (held false ept false)
  | Stage.freeProxy => Exists fun char => Exists fun ept => Exists fun proxy =>
      Holds world char ept proxy [] ((held char false false) ++ held false ept false)
  | Stage.returning | Stage.done => world.ledger.Settled
  | _ => Holds world false false false [] []

structure Orderly (world : World) : Prop where
  unused : world.ledger.misused = false
  noNull : world.nullDereferenced = false
  stage : StageOk world

variable {world next : World} {resource : Resource}

theorem Orderly.disciplined (orderly : Orderly world) : Disciplined world where
  unused := orderly.unused
  noNull := orderly.noNull
  settled := by
    intro returned
    have stage := orderly.stage
    rw [StageOk, returned] at stage
    exact stage

theorem orderly_initial : Orderly initial where
  unused := rfl
  noNull := rfl
  stage := {
    acquired := rfl
    released := rfl
    char := rfl
    ept := rfl
    proxy := rfl
    distinct := nofun }

/-! ## What is live -/

theorem uses_of_live (live : world.ledger.Live resource) : world.uses resource = world := by
  rw [uses, Ledger.use_of_live live]

theorem releases_of_live (live : world.ledger.Live resource) :
    world.releases resource = { world with
      ledger := { world.ledger with released := resource :: world.ledger.released } } := by
  rw [releases, Ledger.release_of_live live]

section Holds

variable {char ept proxy : Bool} {payload released : List Resource}

theorem Holds.live (holds : Holds world char ept proxy payload released)
    (member : resource ∈ payload ++ held char ept proxy) (kept : resource ∉ released) :
    world.ledger.Live resource :=
  ⟨holds.acquired ▸ member, holds.released ▸ kept⟩

theorem owner_eptFd {fd : Nat} (opened : world.eptFd = some fd) :
    world.owner fd = some Resource.eptFd :=
  if_pos opened

theorem owner_charFd {fd : Nat} (opened : world.rpmsgCharFd = some fd)
    (other : world.eptFd ≠ some fd) : world.owner fd = some Resource.rpmsgCharFd := by
  rw [owner, if_neg other, if_pos opened]

end Holds

theorem Serving.live (serving : Serving world) (resource : Resource) :
    world.ledger.Live resource := by
  refine serving.holds.live ?_ List.not_mem_nil
  cases resource <;> decide

theorem Serving.uses (serving : Serving world) (resource : Resource) :
    world.uses resource = world :=
  uses_of_live (serving.live resource)

theorem Serving.usesFd (serving : Serving world) (fd : Nat) : world.usesFd fd = world := by
  unfold World.usesFd
  split
  · exact serving.uses _
  · rfl

theorem Serving.usesProxyFd (serving : Serving world) : world.usesProxyFd = world := by
  unfold World.usesProxyFd
  split
  · rw [serving.uses, serving.usesFd]
  · rename_i unset
    have opened := serving.holds.ept
    rw [← serving.proxyFd, unset] at opened
    exact nomatch opened

/-! ## The main path -/

theorem Serving.moved (serving : Serving world) (stage : Stage) (active : Bool) :
    Serving { world with stage := stage, active := active } where
  holds := { serving.holds with }
  proxyFd := serving.proxyFd

theorem Holds.closesEpt {char ept proxy : Bool} (holds : Holds world char ept proxy [] []) :
    world.closesIfOpen world.eptFd =
      { world with ledger := { world.ledger with released := held false ept false } } := by
  cases opened : world.eptFd with
  | none =>
      have absent : held false ept false = world.ledger.released := by
        rw [← holds.ept, opened, holds.released]
        rfl
      rw [closesIfOpen, absent, ← opened]
  | some fd =>
      have present : ept = true := by rw [← holds.ept, opened, Option.isSome_some]
      subst present
      have live : world.ledger.Live Resource.eptFd :=
        holds.live (by cases char <;> cases proxy <;> decide) List.not_mem_nil
      rw [closesIfOpen, closes, owner_eptFd opened, ← opened]
      exact (releases_of_live live).trans (by rw [holds.released]; rfl)

theorem Holds.closesChar {char ept proxy : Bool}
    (holds : Holds world char ept proxy [] (held false ept false)) :
    world.closesIfOpen world.rpmsgCharFd = { world with
      ledger := { world.ledger with
        released := held char false false ++ held false ept false } } := by
  cases opened : world.rpmsgCharFd with
  | none =>
      have absent : held char false false ++ held false ept false = world.ledger.released := by
        rw [← holds.char, opened, holds.released]
        rfl
      rw [closesIfOpen, absent, ← opened]
  | some fd =>
      have present : char = true := by rw [← holds.char, opened, Option.isSome_some]
      subst present
      have live : world.ledger.Live Resource.rpmsgCharFd :=
        holds.live (by cases ept <;> cases proxy <;> decide) (by cases ept <;> decide)
      have other : world.eptFd ≠ some fd := fun same => holds.distinct fd same opened
      rw [closesIfOpen, closes, owner_charFd opened other, ← opened]
      exact (releases_of_live live).trans (by rw [holds.released]; rfl)

theorem Holds.settled {char ept proxy : Bool}
    (holds : Holds world char ept proxy []
      (held false false proxy ++ (held char false false ++ held false ept false))) :
    world.ledger.Settled := by
  rw [Ledger.Settled, holds.acquired, holds.released]
  cases char <;> cases ept <;> cases proxy <;> decide

theorem Orderly.handles (orderly : Orderly world) {request : Request}
    (place : world.stage = Stage.handle request) : Orderly (world.handles request) := by
  have stage := orderly.stage
  rw [StageOk, place] at stage
  rcases stage with ⟨serving, proper⟩
  have noNull := orderly.noNull
  have unused := orderly.unused
  cases request with
  | openFile =>
      rw [World.handles, serving.uses, serving.uses]
      exact { unused := unused, noNull := noNull, stage := serving.moved _ _ }
  | closeFile fd =>
      rw [World.handles, serving.uses, serving.uses, closes, show world.owner fd = none from proper]
      exact { unused := unused, noNull := noNull, stage := serving.moved _ _ }
  | transfer fd =>
      rw [World.handles, serving.uses, serving.uses, serving.usesFd]
      exact { unused := unused, noNull := noNull, stage := serving.moved _ _ }
  | term =>
      rw [World.handles, serving.uses, serving.uses]
      exact { unused := unused, noNull := noNull, stage := serving.moved _ _ }
  | invalid => exact proper.elim

theorem Orderly.installs (orderly : Orderly world) {succeeds : Bool}
    (place : world.stage = Stage.installTerm ∨ world.stage = Stage.installInt ∨
      world.stage = Stage.installHup)
    (moved : world.proceed succeeds = some next) : Orderly next := by
  have stage := orderly.stage
  unfold World.proceed at moved
  rcases place with place | place | place
  all_goals
    simp only [StageOk, place] at stage moved
    cases moved
    exact { unused := orderly.unused, noNull := orderly.noNull, stage := { stage with } }

theorem Orderly.looksUp (orderly : Orderly world) {succeeds : Bool}
    (place : world.stage = Stage.lookupChannel ∨ world.stage = Stage.bindRpmsgChrdev)
    (moved : world.proceed succeeds = some next) : Orderly next := by
  have stage := orderly.stage
  unfold World.proceed at moved
  rcases place with place | place
  all_goals
    simp only [StageOk, place] at stage moved
    cases moved
    cases succeeds with
    | true =>
        exact { unused := orderly.unused, noNull := orderly.noNull, stage := { stage with } }
    | false =>
        exact { unused := orderly.unused, noNull := orderly.noNull,
                stage := ⟨_, _, _, { stage with }⟩ }

/-- A descriptor that cannot be opened leads to the next try or to the clean-up. -/
theorem Orderly.opensNone (orderly : Orderly world) {succeeds : Bool}
    (place : world.stage = Stage.ctrlChrdevFd ∨ world.stage = Stage.chrdevFd ∨
      world.stage = Stage.openEpt)
    (moved : world.proceed succeeds = some next) : Orderly next := by
  have stage := orderly.stage
  unfold World.proceed at moved
  rcases place with place | place | place
  · simp only [StageOk, place, Option.ite_none_left_eq_some] at stage moved
    cases moved.2
    exact { unused := orderly.unused, noNull := orderly.noNull, stage := { stage with } }
  all_goals
    simp only [StageOk, place, Option.ite_none_left_eq_some] at stage moved
    cases moved.2
    exact { unused := orderly.unused, noNull := orderly.noNull,
            stage := ⟨_, _, _, { stage with }⟩ }

theorem Orderly.createsEpt (orderly : Orderly world) {succeeds : Bool}
    (place : world.stage = Stage.createEpt)
    (moved : world.proceed succeeds = some next) : Orderly next := by
  have stage := orderly.stage
  unfold World.proceed at moved
  simp only [StageOk, place] at stage moved
  rw [uses_of_live (stage.live (by decide) List.not_mem_nil)] at moved
  cases moved
  cases succeeds with
  | true => exact { unused := orderly.unused, noNull := orderly.noNull, stage := { stage with } }
  | false =>
      exact { unused := orderly.unused, noNull := orderly.noNull,
              stage := ⟨_, _, _, { stage with }⟩ }

theorem Orderly.namesEpt (orderly : Orderly world) {succeeds : Bool}
    (place : world.stage = Stage.eptDevName)
    (moved : world.proceed succeeds = some next) : Orderly next := by
  have stage := orderly.stage
  unfold World.proceed at moved
  simp only [StageOk, place] at stage moved
  cases moved
  cases succeeds with
  | true => exact { unused := orderly.unused, noNull := orderly.noNull, stage := { stage with } }
  | false =>
      exact { unused := orderly.unused, noNull := orderly.noNull,
              stage := ⟨_, _, _, { stage with }⟩ }

theorem Orderly.allocatesProxy (orderly : Orderly world) {succeeds : Bool}
    (place : world.stage = Stage.mallocProxy)
    (moved : world.proceed succeeds = some next) : Orderly next := by
  have stage := orderly.stage
  unfold World.proceed at moved
  simp only [StageOk, place] at stage moved
  cases moved
  cases succeeds with
  | true =>
      exact {
        unused := orderly.unused
        noNull := orderly.noNull
        stage := { stage with
          acquired := congrArg (fun list => Resource.proxy :: list) stage.acquired
          proxy := rfl } }
  | false =>
      exact { unused := orderly.unused, noNull := orderly.noNull, stage := ⟨_, _, _, { stage with
        proxy := rfl }⟩ }

theorem Orderly.setsFields (orderly : Orderly world) {succeeds : Bool}
    (place : world.stage = Stage.setFd ∨ world.stage = Stage.setActive)
    (moved : world.proceed succeeds = some next) : Orderly next := by
  have stage := orderly.stage
  unfold World.proceed at moved
  rcases place with place | place
  · simp only [StageOk, place] at stage moved
    rw [uses_of_live (stage.live (by decide) List.not_mem_nil)] at moved
    cases moved
    exact { unused := orderly.unused, noNull := orderly.noNull, stage := ⟨{ stage with }, rfl⟩ }
  · simp only [StageOk, place] at stage moved
    rw [uses_of_live (stage.1.live (by decide) List.not_mem_nil)] at moved
    cases moved
    exact { unused := orderly.unused, noNull := orderly.noNull,
            stage := ⟨{ stage.1 with }, stage.2⟩ }

theorem Orderly.allocatesRpc (orderly : Orderly world) {succeeds : Bool}
    (place : world.stage = Stage.mallocRpc)
    (moved : world.proceed succeeds = some next) : Orderly next := by
  have stage := orderly.stage
  unfold World.proceed at moved
  simp only [StageOk, place] at stage moved
  rw [uses_of_live (stage.1.live (by decide) List.not_mem_nil)] at moved
  cases moved
  cases succeeds with
  | true =>
      exact {
        unused := orderly.unused
        noNull := orderly.noNull
        stage := ⟨Or.inr ⟨{ stage.1 with
          acquired := congrArg (fun list => Resource.rpc :: list) stage.1.acquired }, rfl⟩,
          stage.2⟩ }
  | false =>
      exact { unused := orderly.unused, noNull := orderly.noNull,
              stage := ⟨Or.inl ⟨{ stage.1 with }, rfl⟩, stage.2⟩ }

/-- The second buffer is allocated exactly if the first one is: `error0` frees neither. -/
theorem Orderly.allocatesResponse (orderly : Orderly world) {succeeds : Bool}
    (place : world.stage = Stage.mallocResponse)
    (agree : succeeds = true ↔ world.rpc = Pointer.block)
    (moved : world.proceed succeeds = some next) : Orderly next := by
  have stage := orderly.stage
  unfold World.proceed at moved
  simp only [StageOk, place] at stage moved
  rcases stage with ⟨⟨holds, null⟩ | ⟨holds, block⟩, proxyFd⟩
  · rw [uses_of_live (holds.live (by decide) List.not_mem_nil)] at moved
    have failed : succeeds = false := by
      cases succeeds with
      | true => exact nomatch null.symm.trans (agree.mp rfl)
      | false => rfl
    subst failed
    cases moved
    exact { unused := orderly.unused, noNull := orderly.noNull,
            stage := Or.inl ⟨{ holds with }, null⟩ }
  · rw [uses_of_live (holds.live (by decide) List.not_mem_nil)] at moved
    have succeeded := agree.mpr block
    subst succeeded
    cases moved
    exact {
      unused := orderly.unused
      noNull := orderly.noNull
      stage := Or.inr ⟨{
        holds := { holds with
          acquired := congrArg (fun list => Resource.rpcResponse :: list) holds.acquired }
        proxyFd := proxyFd }, block, rfl⟩ }

theorem Orderly.checksMalloc (orderly : Orderly world) {succeeds : Bool}
    (place : world.stage = Stage.checkMalloc)
    (moved : world.proceed succeeds = some next) : Orderly next := by
  have stage := orderly.stage
  unfold World.proceed at moved
  simp only [StageOk, place] at stage moved
  rcases stage with ⟨holds, null⟩ | ⟨serving, block, response⟩
  · rw [uses_of_live (holds.live (by decide) List.not_mem_nil), null] at moved
    cases moved
    exact { unused := orderly.unused, noNull := orderly.noNull,
            stage := ⟨_, _, _, { holds with }⟩ }
  · rw [serving.uses, if_pos ⟨block, response⟩] at moved
    cases moved
    exact { unused := orderly.unused, noNull := orderly.noNull, stage := serving.moved _ _ }

/-- The first message is sent and the service loop goes on: nothing is acquired or
released in it. -/
theorem Orderly.serves (orderly : Orderly world) {succeeds : Bool}
    (place : world.stage = Stage.initMsg ∨ world.stage = Stage.read ∨
      world.stage = Stage.respond ∨ world.stage = Stage.test)
    (harmless : Harmless world (Event.main succeeds))
    (moved : world.proceed succeeds = some next) : Orderly next := by
  have stage := orderly.stage
  unfold World.proceed at moved
  rcases place with place | place | place | place
  · simp only [StageOk, place] at stage moved
    rw [stage.usesProxyFd, if_pos (harmless.2.1 (Or.inl place))] at moved
    cases moved
    exact { unused := orderly.unused, noNull := orderly.noNull, stage := stage.moved _ _ }
  · simp only [StageOk, place] at stage moved
    rw [stage.usesProxyFd, stage.uses, if_pos (harmless.2.1 (Or.inr (Or.inl place)))] at moved
    cases moved
    exact { unused := orderly.unused, noNull := orderly.noNull, stage := stage.moved _ _ }
  · simp only [StageOk, place] at stage moved
    rw [stage.usesProxyFd, stage.uses, if_pos (harmless.2.1 (Or.inr (Or.inr place)))] at moved
    cases moved
    exact { unused := orderly.unused, noNull := orderly.noNull, stage := stage.moved _ _ }
  · simp only [StageOk, place] at stage moved
    rw [stage.uses, if_pos (harmless.2.2 place)] at moved
    cases moved
    exact { unused := orderly.unused, noNull := orderly.noNull, stage := stage.moved _ _ }

/-- The descriptors are closed in turn, as far as they are open. -/
theorem Orderly.closesFds (orderly : Orderly world) {succeeds : Bool}
    (place : world.stage = Stage.closeEpt ∨ world.stage = Stage.closeChar)
    (moved : world.proceed succeeds = some next) : Orderly next := by
  have stage := orderly.stage
  unfold World.proceed at moved
  rcases place with place | place
  · simp only [StageOk, place] at stage moved
    rcases stage with ⟨char, ept, proxy, holds⟩
    rw [holds.closesEpt] at moved
    cases moved
    exact { unused := orderly.unused, noNull := orderly.noNull,
            stage := ⟨char, ept, proxy, { holds with released := rfl }⟩ }
  · simp only [StageOk, place] at stage moved
    rcases stage with ⟨char, ept, proxy, holds⟩
    rw [holds.closesChar] at moved
    cases moved
    exact { unused := orderly.unused, noNull := orderly.noNull,
            stage := ⟨char, ept, proxy, { holds with released := rfl }⟩ }

theorem Orderly.freesProxy (orderly : Orderly world) {succeeds : Bool}
    (place : world.stage = Stage.freeProxy)
    (moved : world.proceed succeeds = some next) : Orderly next := by
  have stage := orderly.stage
  unfold World.proceed at moved
  simp only [StageOk, place] at stage moved
  rcases stage with ⟨char, ept, proxy, holds⟩
  rw [holds.proxy] at moved
  cases proxy with
  | false =>
      cases moved
      exact { unused := orderly.unused, noNull := orderly.noNull, stage := holds.settled }
  | true =>
      have live : world.ledger.Live Resource.proxy :=
        holds.live (by cases char <;> cases ept <;> decide)
          (by cases char <;> cases ept <;> decide)
      rw [releases_of_live live] at moved
      cases moved
      have freed : Holds { world with ledger := { world.ledger with
          released := Resource.proxy :: world.ledger.released } } char ept true []
          (held false false true ++ (held char false false ++ held false ept false)) :=
        { holds with released := congrArg (fun list => Resource.proxy :: list) holds.released }
      exact { unused := orderly.unused, noNull := orderly.noNull, stage := freed.settled }

theorem Orderly.returns (orderly : Orderly world) {succeeds : Bool}
    (place : world.stage = Stage.returning)
    (moved : world.proceed succeeds = some next) : Orderly next := by
  have stage := orderly.stage
  unfold World.proceed at moved
  simp only [StageOk, place] at stage moved
  cases moved
  exact { unused := orderly.unused, noNull := orderly.noNull, stage := stage }

/-- A harmless step of the main path keeps what is acquired and what is released where it
is: one lemma for each part of `main()`. -/
theorem Orderly.proceed (orderly : Orderly world) {succeeds : Bool}
    (harmless : Harmless world (Event.main succeeds))
    (moved : world.proceed succeeds = some next) : Orderly next := by
  cases place : world.stage with
  | installTerm => exact orderly.installs (Or.inl place) moved
  | installInt => exact orderly.installs (Or.inr (Or.inl place)) moved
  | installHup => exact orderly.installs (Or.inr (Or.inr place)) moved
  | lookupChannel => exact orderly.looksUp (Or.inl place) moved
  | bindRpmsgChrdev => exact orderly.looksUp (Or.inr place) moved
  | ctrlChrdevFd => exact orderly.opensNone (Or.inl place) moved
  | chrdevFd => exact orderly.opensNone (Or.inr (Or.inl place)) moved
  | createEpt => exact orderly.createsEpt place moved
  | eptDevName => exact orderly.namesEpt place moved
  | openEpt => exact orderly.opensNone (Or.inr (Or.inr place)) moved
  | mallocProxy => exact orderly.allocatesProxy place moved
  | setFd => exact orderly.setsFields (Or.inl place) moved
  | setActive => exact orderly.setsFields (Or.inr place) moved
  | mallocRpc => exact orderly.allocatesRpc place moved
  | mallocResponse => exact orderly.allocatesResponse place (harmless.1 place) moved
  | checkMalloc => exact orderly.checksMalloc place moved
  | initMsg => exact orderly.serves (Or.inl place) harmless moved
  | read => exact orderly.serves (Or.inr (Or.inl place)) harmless moved
  | handle request =>
      simp only [World.proceed, place, Option.some.injEq] at moved
      exact moved ▸ orderly.handles place
  | respond => exact orderly.serves (Or.inr (Or.inr (Or.inl place))) harmless moved
  | test => exact orderly.serves (Or.inr (Or.inr (Or.inr place))) harmless moved
  | closeProxyFd | freeRpc | freeResponse =>
      have stage := orderly.stage
      simp only [StageOk, place] at stage
  | closeEpt => exact orderly.closesFds (Or.inl place) moved
  | closeChar => exact orderly.closesFds (Or.inr place) moved
  | freeProxy => exact orderly.freesProxy place moved
  | returning => exact orderly.returns place moved
  | done => simp only [World.proceed, place, reduceCtorEq] at moved

/-- A descriptor is new, and it is that of a character device or of the endpoint. -/
theorem opened_cases {fd : Nat} (moved : world.opened fd = some next) :
    world.owner fd = none ∧
      (((world.stage = Stage.ctrlChrdevFd ∨ world.stage = Stage.chrdevFd) ∧
          next = { world.acquires Resource.rpmsgCharFd with
            rpmsgCharFd := some fd, stage := Stage.createEpt }) ∨
        (world.stage = Stage.openEpt ∧
          next = { world.acquires Resource.eptFd with
            eptFd := some fd, stage := Stage.mallocProxy })) := by
  unfold World.opened at moved
  rcases Option.ite_none_left_eq_some.mp moved with ⟨foreign, moves⟩
  refine ⟨Option.not_isSome_iff_eq_none.mp foreign, ?_⟩
  split at moves
  · rename_i place
    exact Or.inl ⟨Or.inl place, (Option.some.inj moves).symm⟩
  · rename_i place
    exact Or.inl ⟨Or.inr place, (Option.some.inj moves).symm⟩
  · rename_i place
    exact Or.inr ⟨place, (Option.some.inj moves).symm⟩
  · exact nomatch moves

theorem Holds.opensChar (holds : Holds world false false false [] []) (fd : Nat) (stage : Stage) :
    Holds { world.acquires Resource.rpmsgCharFd with rpmsgCharFd := some fd, stage := stage }
      true false false [] [] :=
  { holds with
    acquired := congrArg (fun list => Resource.rpmsgCharFd :: list) holds.acquired
    char := rfl
    distinct := fun other opened => by
      have none := holds.ept
      rw [show world.eptFd = some other from opened] at none
      exact nomatch none }

theorem Holds.opensEpt (holds : Holds world true false false [] []) {fd : Nat}
    (foreign : world.owner fd = none) (stage : Stage) :
    Holds { world.acquires Resource.eptFd with eptFd := some fd, stage := stage }
      true true false [] [] :=
  { holds with
    acquired := congrArg (fun list => Resource.eptFd :: list) holds.acquired
    ept := rfl
    distinct := by
      rintro other ⟨⟩ opened
      have char : world.rpmsgCharFd = some fd := opened
      by_cases ept : world.eptFd = some fd
      · exact nomatch (owner_eptFd ept).symm.trans foreign
      · exact nomatch (owner_charFd char ept).symm.trans foreign }

theorem Orderly.opened (orderly : Orderly world) {fd : Nat}
    (moved : world.opened fd = some next) : Orderly next := by
  have stage := orderly.stage
  rcases opened_cases moved with ⟨foreign, ⟨place | place, rfl⟩ | ⟨place, rfl⟩⟩
  · simp only [StageOk, place] at stage
    exact { unused := orderly.unused, noNull := orderly.noNull, stage := stage.opensChar fd _ }
  · simp only [StageOk, place] at stage
    exact { unused := orderly.unused, noNull := orderly.noNull, stage := stage.opensChar fd _ }
  · simp only [StageOk, place] at stage
    exact { unused := orderly.unused, noNull := orderly.noNull,
            stage := stage.opensEpt foreign _ }

theorem Orderly.mainStep (orderly : Orderly world) {event : Event}
    (harmless : Harmless world event) (moved : ProxyMain.mainStep world event = some next) :
    Orderly next := by
  cases event with
  | main succeeds => exact orderly.proceed harmless moved
  | opens fd => exact orderly.opened moved
  | receives request =>
      simp only [ProxyMain.mainStep, received, Option.ite_none_right_eq_some,
        Option.some.injEq] at moved
      rcases moved with ⟨place, done⟩
      have stage := orderly.stage
      rw [StageOk, place] at stage
      rw [stage.usesProxyFd, stage.uses] at done
      cases done
      exact {
        unused := orderly.unused
        noNull := orderly.noNull
        stage := ⟨stage.moved _ _, by cases request <;> exact harmless⟩ }
  | signal signal => exact nomatch moved
  | handler => exact nomatch moved

/-! ## The handlers -/

/-- Where `main()` is does not depend on the handlers that run. -/
theorem StageOk.interrupted (ok : StageOk world) (frames : List Frame) (active dead : Bool) :
    StageOk { world with frames := frames, active := active, dead := dead } := by
  cases place : world.stage with
  | installTerm | installInt | installHup | lookupChannel | bindRpmsgChrdev | ctrlChrdevFd
  | chrdevFd | createEpt | eptDevName | openEpt | mallocProxy | setFd =>
      simp only [StageOk, place] at ok ⊢
      exact { ok with }
  | setActive | mallocRpc =>
      simp only [StageOk, place] at ok ⊢
      exact ⟨{ ok.1 with }, ok.2⟩
  | mallocResponse =>
      simp only [StageOk, place] at ok ⊢
      refine ⟨ok.1.imp ?_ ?_, ok.2⟩
      · exact fun failed => ⟨{ failed.1 with }, failed.2⟩
      · exact fun allocated => ⟨{ allocated.1 with }, allocated.2⟩
  | checkMalloc =>
      simp only [StageOk, place] at ok ⊢
      refine ok.imp ?_ ?_
      · exact fun failed => ⟨{ failed.1 with }, failed.2⟩
      · exact fun serving => ⟨{ serving.1 with holds := { serving.1.holds with } }, serving.2⟩
  | handle request =>
      simp only [StageOk, place] at ok ⊢
      refine ⟨{ ok.1 with holds := { ok.1.holds with } }, ?_⟩
      cases request <;> exact ok.2
  | initMsg | read | respond | test =>
      simp only [StageOk, place] at ok ⊢
      exact { ok with holds := { ok.holds with } }
  | closeProxyFd | freeRpc | freeResponse => simp only [StageOk, place] at ok
  | closeEpt | closeChar | freeProxy =>
      simp only [StageOk, place] at ok ⊢
      rcases ok with ⟨char, ept, proxy, holds⟩
      exact ⟨char, ept, proxy, { holds with }⟩
  | returning | done =>
      simp only [StageOk, place] at ok ⊢
      exact ok

/-- Only the exit handler runs, and it finds `proxy`. -/
structure Ok (world : World) : Prop where
  orderly : Orderly world
  quiet : forall frame, frame ∈ world.frames ->
    frame.place = Place.clearActive ∧ world.proxy = true ∧ world.ledger.Live Resource.proxy

/-- The main path moves only while no handler runs. -/
theorem Ok.of_no_frames (orderly : Orderly world) (idle : world.frames = []) : Ok world where
  orderly := orderly
  quiet := by
    rw [idle]
    nofun

theorem ok_initial : Ok initial :=
  Ok.of_no_frames orderly_initial rfl

/-- The main path runs no handler, and it follows no null pointer. -/
structure Apart (world next : World) : Prop where
  frames : next.frames = world.frames
  nullDereferenced : next.nullDereferenced = world.nullDereferenced

theorem proceed_apart {succeeds : Bool} (moved : world.proceed succeeds = some next) :
    Apart world next := by
  unfold World.proceed at moved
  cases place : world.stage with
  | handle request =>
      simp only [place, Option.some.injEq] at moved
      subst moved
      cases request <;> exact ⟨rfl, rfl⟩
  | ctrlChrdevFd | chrdevFd | openEpt =>
      simp only [place, Option.ite_none_left_eq_some, Option.some.injEq] at moved
      exact moved.2 ▸ ⟨rfl, rfl⟩
  | freeProxy =>
      simp only [place] at moved
      split at moved <;> cases moved <;> exact ⟨rfl, rfl⟩
  | done => simp only [place, reduceCtorEq] at moved
  | _ =>
      simp only [place, Option.some.injEq] at moved
      exact moved ▸ ⟨rfl, rfl⟩

theorem mainStep_apart {event : Event} (moved : ProxyMain.mainStep world event = some next) :
    Apart world next := by
  cases event with
  | main succeeds => exact proceed_apart moved
  | opens fd =>
      rcases opened_cases moved with ⟨_, ⟨_, rfl⟩ | ⟨_, rfl⟩⟩
      · exact ⟨rfl, rfl⟩
      · exact ⟨rfl, rfl⟩
  | receives request =>
      simp only [ProxyMain.mainStep, received, Option.ite_none_right_eq_some,
        Option.some.injEq] at moved
      exact moved.2 ▸ ⟨rfl, rfl⟩
  | signal signal => exact nomatch moved
  | handler => exact nomatch moved

theorem Ok.arrives (ok : Ok world) {signal : Signal}
    (harmless : Harmless world (Event.signal signal)) : Ok (world.arrives signal) := by
  unfold World.arrives
  split
  · rename_i handled
    rcases harmless handled with ⟨notHup, live⟩
    have exits : signal.action = Action.exitActionHandler := by
      cases signal with
      | sigterm => rfl
      | sigint => rfl
      | sighup => exact absurd rfl notHup
    exact {
      orderly := { ok.orderly with stage := ok.orderly.stage.interrupted _ _ _ }
      quiet := by
        rw [exits]
        exact List.forall_mem_cons.mpr ⟨⟨rfl, live⟩, ok.quiet⟩ }
  · exact {
      orderly := { ok.orderly with stage := ok.orderly.stage.interrupted _ _ _ }
      quiet := ok.quiet }

theorem Ok.handlerStep (ok : Ok world) {frame : Frame} {rest : List Frame}
    (runs : world.frames = frame :: rest) : Ok (world.handlerStep frame rest) := by
  rcases ok.quiet frame (by rw [runs]; exact List.mem_cons_self ..) with ⟨exits, present, live⟩
  have later : forall other, other ∈ rest ->
      other.place = Place.clearActive ∧ world.proxy = true ∧ world.ledger.Live Resource.proxy :=
    fun other listed => ok.quiet other (by rw [runs]; exact List.mem_cons_of_mem frame listed)
  rw [World.handlerStep, if_neg (by rw [present]; exact Bool.noConfusion), exits]
  simp only [uses_of_live live]
  exact {
    orderly := { ok.orderly with stage := ok.orderly.stage.interrupted _ _ _ }
    quiet := later }

/-! ## Runs -/

theorem Ok.step {event : Event} (ok : Ok world) (harmless : Harmless world event)
    (moved : ProxyMain.step world event = some next) : Ok next := by
  have alongside : (if world.frames = [] then ProxyMain.mainStep world event else none) =
      some next -> Ok next := by
    intro moves
    rcases Option.ite_none_right_eq_some.mp moves with ⟨idle, stepped⟩
    exact Ok.of_no_frames (ok.orderly.mainStep harmless stepped)
      ((mainStep_apart stepped).frames.trans idle)
  unfold ProxyMain.step at moved
  rcases Option.ite_none_left_eq_some.mp moved with ⟨_, moves⟩
  cases event with
  | main succeeds => exact alongside moves
  | opens fd => exact alongside moves
  | receives request => exact alongside moves
  | signal signal =>
      rcases Option.ite_none_left_eq_some.mp moves with ⟨_, arrived⟩
      exact Option.some.inj arrived ▸ ok.arrives harmless
  | handler =>
      cases runs : world.frames with
      | nil => simp only [runs, reduceCtorEq] at moves
      | cons frame rest =>
          simp only [runs, Option.some.injEq] at moves
          exact moves ▸ ok.handlerStep runs

end World
end ProxyMain
end OpenAmpReference
