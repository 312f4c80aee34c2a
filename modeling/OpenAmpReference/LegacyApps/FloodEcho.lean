import OpenAmpReference.LegacyApps.FloodPing
import OpenAmpReference.Library.Mailbox

namespace OpenAmpReference
namespace FloodEcho

/-!
# The flood test against its echo server

The server sends every message back from within its callback and tries again
for as long as there is no buffer.  Both directions have a bounded number of
buffers.  `platform_poll()` sleeps until a notification has arrived, empties
the queue and returns.  Where the virtqueues do not suppress it, a side that hands
buffers back tells the other one when its queue is empty; otherwise a second
buffer towards the server takes the place of that.

Here the endpoint and the memory of the test are created, and waiting for a
buffer of an announcement is not given up.
-/

open FloodPing (Config Stage)
open EchoPing (shutdownMsg sendLength)

/-- What travels: the messages of the endpoint, and the announcements of the name service. -/
inductive Item
  | created
  | message (bytes : List UInt8)
  | destroyed
  deriving DecidableEq, Repr

def Item.bytes : Item -> Option (List UInt8)
  | .message bytes => some bytes
  | _ => none

/-- The number of buffers for each direction, and whether a side that is owed buffers is told
that they have come back -/
structure Link where
  toServer : Nat
  toClient : Nat
  tells : Bool
  someToServer : 0 < toServer
  someToClient : 0 < toClient
  enough : tells = false -> 2 ≤ toServer

/-- Where the server is.  In `echoing` it is in the loop of `rpmsg_endpoint_cb()`, and in
`returning` the callback has returned and its buffer is still in use. -/
inductive ServerPc
  | createEpt
  | polling
  | echoing (bytes : List UInt8)
  | returning
  | destroyEpt
  | returned
  deriving DecidableEq, Repr

/-- `ready` is what `is_rpmsg_ept_ready()` returns, and `farewell` says that the client's
endpoint has been destroyed. -/
structure System where
  client : FloodPing.World
  ready : Bool
  farewell : Bool
  toServer : Mailbox Item
  toClient : Mailbox Item
  server : ServerPc
  shutdownReq : Bool

/-- Who moves.  The client gets memory, or a buffer, with such bytes in it. -/
inductive Label
  | client (old : ByteMemory)
  | server

inductive Party
  | client
  | server
  deriving DecidableEq, Repr

def Label.party : Label -> Party
  | .client _ => .client
  | .server => .server

namespace System

def initial : System where
  client := FloodPing.World.initial
  ready := false
  farewell := false
  toServer := Mailbox.empty
  toClient := Mailbox.empty
  server := .createEpt
  shutdownReq := false

/-! ## The client -/

/-- An item is handed to the name service or to the endpoint, if there is one. -/
def arrives (system : System) (old : ByteMemory) (item : Item) : System :=
  if system.client.lept then
    match item with
    | .created => { system with ready := true }
    | .message bytes => { system with client := system.client.deliver bytes old }
    | .destroyed => { system with client := system.client.rpmsgServiceUnbind }
  else system

/-- What follows when `platform_poll()` has returned. -/
def polled (config : Config) (system : System) : System :=
  if system.client.stage = .awaitReady then
    if system.ready then { system with client := FloodPing.World.ready config system.client }
    else system
  else { system with client := FloodPing.World.pollReturned config system.client }

/-- A step within `platform_poll()` of the client -/
def clientPolls (link : Link) (config : Config) (old : ByteMemory) (system : System) : Option System :=
  if system.toClient.draining then
    match system.toClient.queue with
    | item :: _ => some ({ system with toClient := system.toClient.take.giveBack }.arrives old item)
    | [] =>
        some ({ system with
          toClient := system.toClient.settle
          toServer := system.toServer.told link.tells system.toClient }.polled config)
  else if system.toClient.kicked then some { system with toClient := system.toClient.wake }
  else none

/-- `rpmsg_trysend()` of the client -/
def trySend (link : Link) (config : Config) (system : System) : System :=
  if system.toServer.used < link.toServer then
    { system with
      client := FloodPing.World.trySendReturned config system.client (sendLength system.client.s)
      toServer := system.toServer.post (.message system.client.message) }
  else
    { system with
      client := FloodPing.World.trySendReturned config system.client FloodPing.rpmsgErrNoBuff }

def clientStep (link : Link) (config : Config) (old : ByteMemory) (system : System) :
    Option System :=
  match system.client.stage with
  | .start =>
      some { system with
        client := system.client.createEpt 0
        toServer := system.toServer.post .created }
  | .awaitReady | .sendPolling | .waiting => system.clientPolls link config old
  | .allocate =>
      some { system with client := FloodPing.World.allocate config system.client (some old) }
  | .nextRound => some { system with client := FloodPing.World.nextRound config system.client }
  | .sending => some (system.trySend link config)
  | .ended =>
      if system.farewell then none
      else if system.toServer.used < link.toServer then
        some { system with farewell := true, toServer := system.toServer.post .destroyed }
      else some system
  | .failed | .undefined => none

/-! ## The server -/

/-- `(*(unsigned int *)data) == SHUTDOWN_MSG` -/
def isShutdown (bytes : List UInt8) : Bool :=
  (ByteMemory.writeBytes (fun _ => 0) 0 bytes).readWord 0 == shutdownMsg

/-- The server finds an item in its queue. -/
def serverReceives (system : System) : Item -> System
  | .created => { system with toServer := system.toServer.take.giveBack }
  | .destroyed => { system with toServer := system.toServer.take.giveBack, shutdownReq := true }
  | .message bytes =>
      if isShutdown bytes then
        { system with toServer := system.toServer.take, server := .returning, shutdownReq := true }
      else { system with toServer := system.toServer.take, server := .echoing bytes }

/-- A step within `platform_poll()` of the server, outside of the callback -/
def serverPolls (link : Link) (system : System) : Option System :=
  if system.toServer.draining then
    match system.toServer.queue with
    | item :: _ => some (system.serverReceives item)
    | [] =>
        some { system with
          toServer := system.toServer.settle
          toClient := system.toClient.told link.tells system.toServer
          server := if system.shutdownReq then .destroyEpt else .polling }
  else if system.toServer.kicked then some { system with toServer := system.toServer.wake }
  else none

def serverStep (link : Link) (system : System) : Option System :=
  match system.server with
  | .createEpt =>
      some { system with server := .polling, toClient := system.toClient.post .created }
  | .polling => system.serverPolls link
  | .echoing bytes =>
      if system.toClient.used < link.toClient then
        some { system with
          server := .returning
          toClient := system.toClient.post (.message bytes) }
      else some system
  | .returning => some { system with server := .polling, toServer := system.toServer.giveBack }
  | .destroyEpt =>
      some { system with
        server := .returned
        toClient :=
          if system.toClient.used < link.toClient then system.toClient.post .destroyed
          else system.toClient }
  | .returned => none

def step (link : Link) (config : Config) (system : System) : Label -> Option System
  | .client old => system.clientStep link config old
  | .server => system.serverStep link

/-! ## What is under way -/

def ServerPc.holds : ServerPc -> Nat
  | .echoing _ | .returning => 1
  | _ => 0

theorem ServerPc.holds_le (server : ServerPc) : ServerPc.holds server ≤ 1 := by
  cases server with
  | echoing | returning => exact Nat.le_refl 1
  | createEpt | polling | destroyEpt | returned => exact Nat.zero_le 1

def ServerPc.echoes : ServerPc -> List (List UInt8)
  | .echoing bytes => [bytes]
  | _ => []

/-- The messages that have been sent and have not come back, the oldest first. -/
def inFlight (system : System) : List (List UInt8) :=
  system.toClient.queue.filterMap Item.bytes ++ ServerPc.echoes system.server ++
    system.toServer.queue.filterMap Item.bytes

/-- The client is sending packages or waiting for their echoes. -/
def Exchanging (stage : Stage) : Prop :=
  stage = .sending ∨ stage = .sendPolling ∨ stage = .waiting

instance (stage : Stage) : Decidable (Exchanging stage) := inferInstanceAs (Decidable (_ ∨ _))

/-! ## The invariant -/

/-- What the client knows and waits for, with what it has sent and not got back. -/
structure ClientOk (config : Config) (world : FloodPing.World) (ready draining : Bool)
    (flight : List (List UInt8)) : Prop where
  ok : FloodPing.Ok config world
  clean : world.errCnt = 0
  present : world.eptDeleted = false
  carried : world.current.sent = world.current.received ++ flight
  quiet : ¬ Exchanging world.stage -> flight = []
  bound : world.stage ≠ .start -> world.stage ≠ .ended -> world.lept = true
  ret : world.stage ≠ .sending -> world.stage ≠ .sendPolling -> 0 ≤ world.ret
  drains : draining = true -> world.stage.polls
  asks : world.stage = .waiting -> draining = false -> world.rnum < config.numPkgs
  unbound : world.stage = .start ∨ world.stage = .awaitReady -> draining = false -> ready = false
  completed : world.stage = .ended -> world.completed = true
  defined : world.stage ≠ .failed ∧ world.stage ≠ .undefined

/-- What travels, and that nobody sleeps over it. -/
structure LinkOk (link : Link) (system : System) : Prop where
  serverBox : system.toServer.Attended
  clientBox : system.toClient.Attended
  held : system.toServer.held = ServerPc.holds system.server
  free : system.toClient.held = 0
  serverRoom : system.toServer.used ≤ link.toServer
  clientRoom : system.toClient.used ≤ link.toClient
  fresh : system.server = .createEpt -> system.toClient.used = 0
  early : system.client.stage = .start -> system.toServer.used = 0

/-- What wakes a client that has found no buffer: the buffers that come back, or the echoes. -/
def Promised (link : Link) (system : System) : Prop :=
  match link.tells with
  | true => system.toServer.owed = true ∨ link.toServer ≤ system.toServer.used
  | false => system.inFlight ≠ []

/-- A client that has found no buffer is woken; the announcement of the client is the first
thing that the server finds. -/
structure Promises (link : Link) (system : System) : Prop where
  refused : system.client.stage = .sendPolling -> system.toClient.draining = false ->
    system.toClient.kicked = true ∨ Promised link system
  ahead : .created ∉ system.toServer.queue.tail
  served : ServerPc.holds system.server ≠ 0 -> .created ∉ system.toServer.queue

/-- How the two sides announce themselves and part. -/
structure Announced (system : System) : Prop where
  created : system.server ≠ .createEpt -> system.ready = true ∨ .created ∈ system.toClient.queue
  destroyed : .destroyed ∈ system.toServer.queue -> system.farewell = true
  farewell : system.farewell = true -> system.client.stage = .ended ∧
    (system.shutdownReq = true ∨ .destroyed ∈ system.toServer.queue)
  shutdownReq : system.shutdownReq = true -> system.farewell = true
  serving : system.shutdownReq = true -> system.server = .polling ->
    system.toServer.draining = true
  leaving : system.server = .destroyEpt ∨ system.server = .returned -> system.shutdownReq = true
  starting : system.server = .createEpt -> system.shutdownReq = false
  staying : .destroyed ∈ system.toClient.queue -> system.server = .returned

structure Ok (link : Link) (config : Config) (system : System) : Prop where
  client : ClientOk config system.client system.ready system.toClient.draining system.inFlight
  promises : Promises link system
  link : LinkOk link system
  announced : Announced system

/-- The sizes of the packages are those the callback accepts. -/
def Fits (config : Config) : Prop := 16 ≤ config.txBufferSize ∧ config.txBufferSize ≤ 512

/-! ## The client on its own -/

section Client

variable {config : Config} {world : FloodPing.World} {ready draining : Bool}
  {flight : List (List UInt8)} {size count : Nat}

/-- The client is in the loop of `app()`, between two calls. -/
structure Running (world : FloodPing.World) (flight : List (List UInt8)) : Prop where
  clean : world.errCnt = 0
  present : world.eptDeleted = false
  carried : world.current.sent = world.current.received ++ flight
  lept : world.lept = true

theorem Running.sends (running : Running world flight)
    (ok : FloodPing.Ok config { world with stage := .sending }) :
    ClientOk config { world with stage := .sending } ready false flight where
  ok := ok
  clean := running.clean
  present := running.present
  carried := running.carried
  quiet := fun idle => absurd (Or.inl rfl) idle
  bound := fun _ _ => running.lept
  ret := fun sends => absurd rfl sends
  drains := Bool.noConfusion
  asks := Stage.noConfusion
  unbound := fun early => early.elim Stage.noConfusion Stage.noConfusion
  completed := Stage.noConfusion
  defined := ⟨Stage.noConfusion, Stage.noConfusion⟩

theorem Running.waits (running : Running world flight) (ret : 0 ≤ world.ret)
    (less : world.rnum < config.numPkgs)
    (ok : FloodPing.Ok config { world with stage := .waiting }) :
    ClientOk config { world with stage := .waiting } ready false flight where
  ok := ok
  clean := running.clean
  present := running.present
  carried := running.carried
  quiet := fun idle => absurd (Or.inr (Or.inr rfl)) idle
  bound := fun _ _ => running.lept
  ret := fun _ _ => ret
  drains := Bool.noConfusion
  asks := fun _ _ => less
  unbound := fun early => early.elim Stage.noConfusion Stage.noConfusion
  completed := Stage.noConfusion
  defined := ⟨Stage.noConfusion, Stage.noConfusion⟩

/-- Between two rounds, or before the first one -/
theorem Running.rests (running : Running world flight) (ret : 0 ≤ world.ret) (quiet : flight = [])
    (rest : world.stage = .allocate ∨ world.stage = .nextRound) (ok : FloodPing.Ok config world) :
    ClientOk config world ready false flight where
  ok := ok
  clean := running.clean
  present := running.present
  carried := running.carried
  quiet := fun _ => quiet
  bound := fun _ _ => running.lept
  ret := fun _ _ => ret
  drains := Bool.noConfusion
  asks := by rcases rest with at_stage | at_stage <;> rw [at_stage] <;> exact Stage.noConfusion
  unbound := by
    rcases rest with at_stage | at_stage <;> rw [at_stage] <;>
      exact fun early => early.elim Stage.noConfusion Stage.noConfusion
  completed := by rcases rest with at_stage | at_stage <;> rw [at_stage] <;> exact Stage.noConfusion
  defined := by rcases rest with at_stage | at_stage <;> rw [at_stage] <;> decide

/-- A round is over when all its echoes are back. -/
theorem Running.through (running : Running world flight)
    (inRound : FloodPing.InRound config world size config.numPkgs.toNat)
    (ended : ¬ world.rnum < config.numPkgs) : flight = [] := by
  have echoed := (FloodPing.Base.roundSound inRound running.clean ended).echoed
  have carried := running.carried
  rw [echoed] at carried
  exact List.self_eq_append_right.mp carried

/-- What follows the loop over the packages, when all of them have been sent -/
theorem Running.awaitEchoes (running : Running world flight) (ret : 0 ≤ world.ret)
    (base : FloodPing.Base config world)
    (inRound : FloodPing.InRound config world size config.numPkgs.toNat) :
    ClientOk config (FloodPing.World.awaitEchoes config world) ready false flight := by
  have ok := base.awaitEchoes (Or.inr (Or.inr inRound))
  unfold FloodPing.World.awaitEchoes at ok ⊢
  by_cases less : world.rnum < config.numPkgs
  · rw [if_pos ⟨less, running.clean, running.present⟩] at ok ⊢
    exact running.waits ret less ok
  · have fine : ¬ (world.errCnt ≠ 0 ∨ world.eptDeleted = true) := by
      rintro (errs | deleted)
      · exact errs running.clean
      · exact Bool.noConfusion (running.present.symm.trans deleted)
    rw [if_neg (fun waits => less waits.1), if_neg fine] at ok ⊢
    exact Running.rests { running with } ret (running.through inRound less) (Or.inr rfl) ok

theorem Running.nextPackage (running : Running world flight) (ret : 0 ≤ world.ret)
    (base : FloodPing.Base config world) (inRound : FloodPing.InRound config world size count) :
    ClientOk config (FloodPing.World.nextPackage config world count) ready false flight := by
  have ok := base.nextPackage inRound
  have bounded := inRound.bounded
  unfold FloodPing.World.nextPackage at ok ⊢
  by_cases more : (count : Int) < config.numPkgs
  · rw [if_pos more] at ok ⊢
    unfold FloodPing.World.trySend at ok ⊢
    rw [if_pos ⟨running.clean, running.present⟩] at ok ⊢
    exact Running.sends { running with } ok
  · rw [if_neg more]
    unfold FloodPing.World.afterPackages
    rw [if_neg (Int.not_lt.mpr ret)]
    have all : count = config.numPkgs.toNat := by omega
    rw [all] at inRound
    exact Running.awaitEchoes { running with } ret { base with } { inRound with }

namespace ClientOk

/-- While the client is within the loops, it is running. -/
theorem running (client : ClientOk config world ready draining flight)
    (started : world.stage ≠ .start) (going : world.stage ≠ .ended) : Running world flight where
  clean := client.clean
  present := client.present
  carried := client.carried
  lept := client.bound started going

/-- The client empties its queue only within `platform_poll()`. -/
theorem asleep (client : ClientOk config world ready draining flight)
    (busy : ¬ world.stage.polls) : draining = false := by
  cases draining with
  | false => rfl
  | true => exact absurd (client.drains rfl) busy

/-- Within `platform_poll()` there is an endpoint. -/
theorem lept_of_polls (client : ClientOk config world ready draining flight)
    (polls : world.stage.polls) : world.lept = true := by
  rcases polls with at_stage | at_stage | at_stage
  · exact client.bound (by rw [at_stage]; decide) (by rw [at_stage]; decide)
  · exact client.bound (by rw [at_stage]; decide) (by rw [at_stage]; decide)
  · exact client.bound (by rw [at_stage]; decide) (by rw [at_stage]; decide)

theorem createEpt (client : ClientOk config world ready false flight)
    (at_stage : world.stage = .start) : ClientOk config (world.createEpt 0) ready false flight where
  ok := client.ok.createEpt at_stage 0
  clean := client.clean
  present := client.present
  carried := client.carried
  quiet := fun _ => client.quiet (by rw [at_stage]; decide)
  bound := fun _ _ => rfl
  ret := fun _ _ => Int.le_refl 0
  drains := Bool.noConfusion
  asks := Stage.noConfusion
  unbound := fun _ still => client.unbound (Or.inl at_stage) still
  completed := Stage.noConfusion
  defined := ⟨Stage.noConfusion, Stage.noConfusion⟩

theorem bindsReady (client : ClientOk config world ready draining flight)
    (at_stage : world.stage = .awaitReady) (fits : Fits config) (anew : Bool) :
    ClientOk config (FloodPing.World.ready config world) anew false flight := by
  have ok := client.ok.ready at_stage
  have running := client.running (by rw [at_stage]; decide) (by rw [at_stage]; decide)
  have ret := client.ret (by rw [at_stage]; decide) (by rw [at_stage]; decide)
  have quiet := client.quiet (by rw [at_stage]; decide)
  have positive : ¬ config.txBufferSize ≤ 0 := by
    have lower := fits.1
    omega
  unfold FloodPing.World.ready at ok ⊢
  rw [if_neg positive] at ok ⊢
  exact Running.rests { running with } ret quiet (Or.inl rfl) ok

theorem allocates (client : ClientOk config world ready draining flight)
    (at_stage : world.stage = .allocate) (fits : Fits config) (old : ByteMemory) (anew : Bool) :
    ClientOk config (FloodPing.World.allocate config world (some old)) anew false flight := by
  have ok := client.ok.allocate at_stage (some old)
  have running := client.running (by rw [at_stage]; decide) (by rw [at_stage]; decide)
  have ret := client.ret (by rw [at_stage]; decide) (by rw [at_stage]; decide)
  have quiet := client.quiet (by rw [at_stage]; decide)
  have room : ¬ FloodPing.World.maxSize config < 0 := by
    have lower := fits.1
    rw [FloodPing.World.maxSize, EchoPing.World.maxSize_eq (by omega) config.txBufferSizeInt]
    omega
  simp only [FloodPing.World.allocate, if_neg room] at ok ⊢
  exact Running.rests { running with } ret quiet (Or.inr rfl) ok

/-- A round begins, or there is none left. -/
theorem nextRound (client : ClientOk config world ready draining flight)
    (at_stage : world.stage = .nextRound) (anew : Bool) :
    ClientOk config (FloodPing.World.nextRound config world) anew false flight := by
  have ok := client.ok.nextRound at_stage
  have running := client.running (by rw [at_stage]; decide) (by rw [at_stage]; decide)
  have ret := client.ret (by rw [at_stage]; decide) (by rw [at_stage]; decide)
  have quiet := client.quiet (by rw [at_stage]; decide)
  unfold FloodPing.World.nextRound at ok ⊢
  by_cases more : world.s ≤ FloodPing.World.maxSize config
  · rw [if_pos more] at ok ⊢
    unfold FloodPing.World.nextPackage at ok ⊢
    by_cases some : 0 < config.numPkgs
    · rw [if_pos some] at ok ⊢
      unfold FloodPing.World.trySend at ok ⊢
      rw [if_pos ⟨running.clean, running.present⟩] at ok ⊢
      exact Running.sends { running with carried := quiet.symm } ok
    · have fine : ¬ (world.errCnt ≠ 0 ∨ world.eptDeleted = true) := by
        rintro (errs | deleted)
        · exact errs running.clean
        · exact Bool.noConfusion (running.present.symm.trans deleted)
      rw [if_neg some] at ok ⊢
      unfold FloodPing.World.afterPackages at ok ⊢
      rw [if_neg (Int.not_lt.mpr ret)] at ok ⊢
      unfold FloodPing.World.awaitEchoes at ok ⊢
      rw [if_neg (fun waits => some waits.1), if_neg fine] at ok ⊢
      exact Running.rests { running with carried := quiet.symm } ret quiet (Or.inr rfl) ok
  · rw [if_neg more] at ok ⊢
    exact {
      ok := ok
      clean := running.clean
      present := running.present
      carried := running.carried
      quiet := fun _ => quiet
      bound := fun _ going => absurd rfl going
      ret := fun _ _ => ret
      drains := Bool.noConfusion
      asks := Stage.noConfusion
      unbound := fun early => early.elim Stage.noConfusion Stage.noConfusion
      completed := fun _ => rfl
      defined := ⟨Stage.noConfusion, Stage.noConfusion⟩ }

theorem sendLength_nonneg (client : ClientOk config world ready draining flight)
    (at_stage : world.stage = .sending) : 0 ≤ sendLength world.s := by
  have stage := client.ok.stage
  rw [FloodPing.StageOk, at_stage] at stage
  rcases stage with ⟨size, count, sending⟩
  have small := config.txBufferSizeInt
  have room := sending.inRound.room
  rw [sending.inRound.s, EchoPing.World.sendLength_eq (by omega : size + 16 < 2 ^ 31)]
  exact Int.natCast_nonneg _

theorem sendLength_ne (client : ClientOk config world ready draining flight)
    (at_stage : world.stage = .sending) : sendLength world.s ≠ FloodPing.rpmsgErrNoBuff := by
  intro refused
  have positive := client.sendLength_nonneg at_stage
  rw [refused] at positive
  exact absurd positive (by decide)

/-- A package is on its way. -/
theorem sends (client : ClientOk config world ready draining flight)
    (at_stage : world.stage = .sending) (anew : Bool) :
    ClientOk config (FloodPing.World.trySendReturned config world (sendLength world.s)) anew false
      (flight ++ [world.message]) := by
  have running := client.running (by rw [at_stage]; decide) (by rw [at_stage]; decide)
  have stage := client.ok.stage
  rw [FloodPing.StageOk, at_stage] at stage
  rcases stage with ⟨size, count, sending⟩
  have base := client.ok.base (by rw [at_stage]; decide)
  have positive := client.sendLength_nonneg at_stage
  have sent := client.sendLength_ne at_stage
  have carried : world.current.sent ++ [world.message] =
      world.current.received ++ (flight ++ [world.message]) := by
    rw [running.carried, List.append_assoc]
  have next := @Running.nextPackage config _ anew (flight ++ [world.message]) size (count + 1)
    (by exact { running with carried := carried }) positive (by exact { base with })
    (sending.sent (sendLength world.s))
  unfold FloodPing.World.trySendReturned
  rw [if_neg sent, if_neg (Int.not_lt.mpr positive), sending.i]
  exact next

/-- There is no buffer. -/
theorem refused (client : ClientOk config world ready draining flight)
    (at_stage : world.stage = .sending) (anew : Bool) :
    ClientOk config
      (FloodPing.World.trySendReturned config world FloodPing.rpmsgErrNoBuff) anew false flight := by
  have ok := client.ok.trySendReturned at_stage FloodPing.rpmsgErrNoBuff
  have running := client.running (by rw [at_stage]; decide) (by rw [at_stage]; decide)
  unfold FloodPing.World.trySendReturned at ok ⊢
  rw [if_pos rfl] at ok ⊢
  exact {
    ok := ok
    clean := running.clean
    present := running.present
    carried := running.carried
    quiet := fun idle => absurd (Or.inr (Or.inl rfl)) idle
    bound := fun _ _ => running.lept
    ret := fun _ polls => absurd rfl polls
    drains := Bool.noConfusion
    asks := Stage.noConfusion
    unbound := fun early => early.elim Stage.noConfusion Stage.noConfusion
    completed := Stage.noConfusion
    defined := ⟨Stage.noConfusion, Stage.noConfusion⟩ }

/-- The client has emptied its queue and goes on. -/
theorem pollReturned (client : ClientOk config world ready draining flight)
    (polls : world.stage = .sendPolling ∨ world.stage = .waiting) (anew : Bool) :
    ClientOk config (FloodPing.World.pollReturned config world) anew false flight := by
  have ok := client.ok.pollReturned
  unfold FloodPing.World.pollReturned at ok ⊢
  rcases polls with at_stage | at_stage
  · have running := client.running (by rw [at_stage]; decide) (by rw [at_stage]; decide)
    rw [if_pos at_stage] at ok ⊢
    unfold FloodPing.World.trySend at ok ⊢
    rw [if_pos ⟨running.clean, running.present⟩] at ok ⊢
    exact running.sends ok
  · have running := client.running (by rw [at_stage]; decide) (by rw [at_stage]; decide)
    have ret := client.ret (by rw [at_stage]; decide) (by rw [at_stage]; decide)
    have base := client.ok.base (by rw [at_stage]; decide)
    have stage := client.ok.stage
    rw [FloodPing.StageOk, at_stage] at stage
    rcases stage with ⟨size, inRound⟩
    rw [if_neg (by rw [at_stage]; decide), if_pos at_stage]
    exact running.awaitEchoes ret base inRound

/-- What is under way belongs to a round. -/
theorem inRound (client : ClientOk config world ready draining flight) (busy : flight ≠ []) :
    Exists fun size => Exists fun count => FloodPing.InRound config world size count := by
  have stage := client.ok.stage
  have exchanging : Exchanging world.stage := by
    by_contra idle
    exact busy (client.quiet idle)
  rcases exchanging with at_stage | at_stage | at_stage
  · rw [FloodPing.StageOk, at_stage] at stage
    rcases stage with ⟨size, count, sending⟩
    exact ⟨size, count, sending.inRound⟩
  · rw [FloodPing.StageOk, at_stage] at stage
    rcases stage with ⟨size, count, sending⟩
    exact ⟨size, count, sending.inRound⟩
  · rw [FloodPing.StageOk, at_stage] at stage
    rcases stage with ⟨size, inRound⟩
    exact ⟨size, _, inRound⟩

/-- The server takes no package for the shutdown word. -/
theorem noShutdown (client : ClientOk config world ready draining flight) {bytes : List UInt8}
    (member : bytes ∈ flight) : isShutdown bytes = false := by
  rcases client.inRound (List.ne_nil_of_mem member) with ⟨size, count, inRound⟩
  have sent : bytes ∈ world.current.sent := by
    rw [client.carried]
    exact List.mem_append_right _ member
  rcases List.getElem_of_mem sent with ⟨number, inside, same⟩
  have isPackage := inRound.packages number inside
  rw [same] at isPackage
  have counted := inRound.counted
  have bounded := inRound.bounded
  have small := config.numPkgsInt
  have numbered := isPackage.numField (fun _ => 0)
  rw [isShutdown, ByteMemory.readWord_of_readLong (by omega), numbered, beq_eq_false_iff_ne]
  unfold shutdownMsg
  omega

/-- The echo that comes next is counted. -/
theorem delivers {bytes : List UInt8}
    (client : ClientOk config world ready true (bytes :: flight)) (fits : Fits config)
    (old : ByteMemory) : ClientOk config (world.deliver bytes old) ready true flight := by
  have polls := client.drains rfl
  have next : FloodPing.NextEcho world bytes := by
    rw [FloodPing.NextEcho, client.carried, List.getElem?_append_right (Nat.le_refl _),
      Nat.sub_self]
    rfl
  have ok := client.ok.delivers polls (Or.inl next : _ ∨ FloodPing.Detected world bytes
    (old.writeBytes 0 bytes))
  rcases client.inRound (List.cons_ne_nil _ _) with ⟨size, count, inRound⟩
  rcases List.getElem?_eq_some_iff.mp next with ⟨inside, sent⟩
  have isPackage := inRound.packages _ inside
  rw [sent] at isPackage
  have small := config.numPkgsInt
  have counted := inRound.counted
  have bounded := inRound.bounded
  have room := inRound.room
  have upper := fits.2
  have arrives := FloodPing.deliver_package inRound isPackage (by omega)
    (by unfold FloodPing.sizeLimit; omega) old
  rw [arrives] at ok ⊢
  exact {
    ok := ok
    clean := client.clean
    present := client.present
    carried := by
      show world.current.sent = (world.current.received ++ [bytes]) ++ flight
      rw [client.carried, List.append_assoc]
      rfl
    quiet := fun idle => absurd (client.quiet idle) (List.cons_ne_nil _ _)
    bound := client.bound
    ret := client.ret
    drains := client.drains
    asks := fun _ asleep => Bool.noConfusion asleep
    unbound := fun _ asleep => Bool.noConfusion asleep
    completed := client.completed
    defined := client.defined }

end ClientOk

end Client

/-! ## Steps of the server -/

section Moves

variable {link : Link} {config : Config} {system next : System}

/-- Everything the server can do -/
inductive ServerMoves (link : Link) (system : System) : System -> Prop
  | creates (at_pc : system.server = .createEpt) :
      ServerMoves link system
        { system with server := .polling, toClient := system.toClient.post .created }
  | wakes (at_pc : system.server = .polling) (sleeps : system.toServer.draining = false)
      (rings : system.toServer.kicked = true) :
      ServerMoves link system { system with toServer := system.toServer.wake }
  | settles (at_pc : system.server = .polling) (drains : system.toServer.draining = true)
      (through : system.toServer.queue = []) :
      ServerMoves link system
        { system with
          toServer := system.toServer.settle
          toClient := system.toClient.told link.tells system.toServer
          server := if system.shutdownReq then .destroyEpt else .polling }
  | receives (item : Item) (rest : List Item) (at_pc : system.server = .polling)
      (drains : system.toServer.draining = true) (queue : system.toServer.queue = item :: rest) :
      ServerMoves link system (system.serverReceives item)
  | echoes (bytes : List UInt8) (at_pc : system.server = .echoing bytes)
      (room : system.toClient.used < link.toClient) :
      ServerMoves link system
        { system with server := .returning, toClient := system.toClient.post (.message bytes) }
  | waits (bytes : List UInt8) (at_pc : system.server = .echoing bytes)
      (full : ¬ system.toClient.used < link.toClient) : ServerMoves link system system
  | returns (at_pc : system.server = .returning) :
      ServerMoves link system
        { system with server := .polling, toServer := system.toServer.giveBack }
  | destroys (at_pc : system.server = .destroyEpt) :
      ServerMoves link system
        { system with
          server := .returned
          toClient :=
            if system.toClient.used < link.toClient then system.toClient.post .destroyed
            else system.toClient }

theorem serverStep_moves (moved : system.serverStep link = some next) :
    ServerMoves link system next := by
  cases at_pc : system.server with
  | createEpt =>
      simp only [serverStep, at_pc] at moved
      exact Option.some.inj moved ▸ .creates at_pc
  | polling =>
      rw [serverStep, at_pc] at moved
      simp only [serverPolls] at moved
      cases drains : system.toServer.draining with
      | true =>
          rw [if_pos drains] at moved
          cases queue : system.toServer.queue with
          | nil =>
              rw [queue] at moved
              exact Option.some.inj moved ▸ .settles at_pc drains queue
          | cons item rest =>
              rw [queue] at moved
              exact Option.some.inj moved ▸ .receives item rest at_pc drains queue
      | false =>
          rw [if_neg (by rw [drains]; decide)] at moved
          cases rings : system.toServer.kicked with
          | true =>
              rw [if_pos rings] at moved
              exact Option.some.inj moved ▸ .wakes at_pc drains rings
          | false =>
              rw [if_neg (by rw [rings]; decide)] at moved
              cases moved
  | echoing bytes =>
      simp only [serverStep, at_pc] at moved
      by_cases room : system.toClient.used < link.toClient
      · rw [if_pos room] at moved
        exact Option.some.inj moved ▸ .echoes bytes at_pc room
      · rw [if_neg room] at moved
        exact Option.some.inj moved ▸ .waits bytes at_pc room
  | returning =>
      simp only [serverStep, at_pc] at moved
      exact Option.some.inj moved ▸ .returns at_pc
  | destroyEpt =>
      simp only [serverStep, at_pc] at moved
      exact Option.some.inj moved ▸ .destroys at_pc
  | returned => simp only [serverStep, at_pc, reduceCtorEq] at moved

/-! ### What the server leaves of the invariant -/

theorem filterMap_created (items : List Item) :
    (items ++ [Item.created]).filterMap Item.bytes = items.filterMap Item.bytes := by
  rw [List.filterMap_append]
  exact List.append_nil _

theorem filterMap_destroyed (items : List Item) :
    (items ++ [Item.destroyed]).filterMap Item.bytes = items.filterMap Item.bytes := by
  rw [List.filterMap_append]
  exact List.append_nil _

/-- The server neither loses nor adds a message. -/
theorem ServerMoves.inFlight (client : ClientOk config system.client system.ready
    system.toClient.draining system.inFlight) (moved : ServerMoves link system next) :
    next.inFlight = system.inFlight := by
  cases moved with
  | creates at_pc =>
      simp only [System.inFlight, Mailbox.post, filterMap_created, at_pc, ServerPc.echoes]
  | wakes at_pc sleeps rings => rfl
  | settles at_pc drains through =>
      simp only [System.inFlight, Mailbox.told_queue, Mailbox.settle, at_pc]
      cases system.shutdownReq <;> rfl
  | receives item rest at_pc drains queue =>
      cases item with
      | created =>
          simp only [serverReceives, System.inFlight, Mailbox.take, Mailbox.giveBack, queue,
            List.tail_cons, List.filterMap_cons, Item.bytes]
      | destroyed =>
          simp only [serverReceives, System.inFlight, Mailbox.take, Mailbox.giveBack, queue,
            List.tail_cons, List.filterMap_cons, Item.bytes]
      | message bytes =>
          have member : bytes ∈ system.inFlight := by
            simp only [System.inFlight, queue, List.filterMap_cons, Item.bytes, List.mem_append,
              List.mem_cons, true_or, or_true]
          have package := client.noShutdown member
          simp only [serverReceives, package, Bool.false_eq_true, if_false, System.inFlight,
            Mailbox.take, queue, at_pc, List.tail_cons, List.filterMap_cons, Item.bytes,
            ServerPc.echoes, List.append_assoc, List.nil_append, List.singleton_append]
  | echoes bytes at_pc room =>
      simp only [System.inFlight, Mailbox.post, at_pc, ServerPc.echoes, List.filterMap_append,
        List.filterMap_cons, List.filterMap_nil, Item.bytes, List.append_nil]
  | waits bytes at_pc full => rfl
  | returns at_pc => simp only [System.inFlight, Mailbox.giveBack, at_pc, ServerPc.echoes]
  | destroys at_pc =>
      simp only [System.inFlight, at_pc, ServerPc.echoes]
      split
      · simp only [Mailbox.post, filterMap_destroyed]
      · rfl

/-- The server does not touch the client. -/
theorem ServerMoves.client (moved : ServerMoves link system next) :
    next.client = system.client ∧ next.ready = system.ready ∧
      next.farewell = system.farewell ∧
      next.toClient.draining = system.toClient.draining := by
  cases moved with
  | creates | wakes | echoes | waits | returns => exact ⟨rfl, rfl, rfl, rfl⟩
  | settles => exact ⟨rfl, rfl, rfl, Mailbox.told_draining _ _⟩
  | receives item =>
      cases item with
      | created | destroyed => exact ⟨rfl, rfl, rfl, rfl⟩
      | message bytes =>
          simp only [serverReceives]
          split <;> exact ⟨rfl, rfl, rfl, rfl⟩
  | destroys =>
      refine ⟨rfl, rfl, rfl, ?_⟩
      show Mailbox.draining (if _ then _ else _) = _
      split <;> rfl

theorem ServerMoves.clientOk (client : ClientOk config system.client system.ready
    system.toClient.draining system.inFlight) (moved : ServerMoves link system next) :
    ClientOk config next.client next.ready next.toClient.draining next.inFlight := by
  rcases moved.client with ⟨same, ready, -, draining⟩
  rw [same, ready, draining, moved.inFlight client]
  exact client

theorem LinkOk.serverSettles (ok : LinkOk link system) (at_pc : system.server = .polling)
    (through : system.toServer.queue = []) :
    LinkOk link { system with
      toServer := system.toServer.settle
      toClient := system.toClient.told link.tells system.toServer
      server := if system.shutdownReq then .destroyEpt else .polling } := by
  have free : system.toServer.held = 0 := by rw [ok.held, at_pc]; rfl
  exact {
    serverBox := Mailbox.Attended.settle through free
    clientBox := ok.clientBox.told link.tells system.toServer
    held := by
      show system.toServer.held = ServerPc.holds (if _ then _ else _)
      rw [free]
      split <;> rfl
    free := (Mailbox.told_held _ _).trans ok.free
    serverRoom := ok.serverRoom
    clientRoom := by
      show (system.toClient.told link.tells system.toServer).used ≤ _
      rw [Mailbox.told_used]
      exact ok.clientRoom
    fresh := by
      show (if _ then _ else _) = _ -> _
      split <;> exact ServerPc.noConfusion
    early := ok.early }

/-- The callback of the server keeps the buffer of a message until it has sent it back. -/
theorem LinkOk.serverHolds (ok : LinkOk link system) {item : Item} {rest : List Item}
    (at_pc : system.server = .polling) (drains : system.toServer.draining = true)
    (queue : system.toServer.queue = item :: rest) {server : ServerPc}
    (holds : ServerPc.holds server = 1) (asked : Bool) :
    LinkOk link { system with
      toServer := system.toServer.take, server := server, shutdownReq := asked } := by
  have free : system.toServer.held = 0 := by rw [ok.held, at_pc]; rfl
  have taken : system.toServer.take.used = system.toServer.used := Mailbox.used_take queue
  exact { ok with
    serverBox := Mailbox.Attended.of_draining drains
    held := by
      show system.toServer.held + 1 = ServerPc.holds server
      rw [free, holds]
    serverRoom := taken ▸ ok.serverRoom
    fresh := by
      rintro rfl
      cases holds
    early := fun at_stage => taken ▸ ok.early at_stage }

/-- An announcement is taken and its buffer given back at once. -/
theorem LinkOk.serverHears (ok : LinkOk link system) {item : Item} {rest : List Item}
    (drains : system.toServer.draining = true) (queue : system.toServer.queue = item :: rest)
    (asked : Bool) :
    LinkOk link { system with
      toServer := system.toServer.take.giveBack, shutdownReq := asked } := by
  have taken : system.toServer.take.used = system.toServer.used := Mailbox.used_take queue
  exact { ok with
    serverBox := Mailbox.Attended.of_draining drains
    held := by
      show system.toServer.held + 1 - 1 = ServerPc.holds system.server
      rw [Nat.add_sub_cancel, ok.held]
    serverRoom := Nat.le_trans Mailbox.used_giveBack_le (taken ▸ ok.serverRoom)
    early := fun at_stage =>
      Nat.le_zero.mp (Nat.le_trans Mailbox.used_giveBack_le
        (Nat.le_of_eq (taken ▸ ok.early at_stage))) }

theorem LinkOk.serverReceives (ok : LinkOk link system) {item : Item} {rest : List Item}
    (at_pc : system.server = .polling) (drains : system.toServer.draining = true)
    (queue : system.toServer.queue = item :: rest) :
    LinkOk link (system.serverReceives item) := by
  cases item with
  | created => exact ok.serverHears drains queue system.shutdownReq
  | destroyed => exact ok.serverHears drains queue true
  | message bytes =>
      simp only [System.serverReceives]
      split
      · exact ok.serverHolds at_pc drains queue rfl true
      · exact ok.serverHolds at_pc drains queue rfl system.shutdownReq

theorem LinkOk.serverReturns (ok : LinkOk link system) (at_pc : system.server = .returning) :
    LinkOk link { system with server := .polling, toServer := system.toServer.giveBack } := by
  have held : system.toServer.held = 1 := by rw [ok.held, at_pc]; rfl
  have drains := ok.serverBox.handled (by rw [held]; decide)
  exact { ok with
    serverBox := Mailbox.Attended.of_draining drains
    held := by
      show system.toServer.held - 1 = 0
      rw [held]
    serverRoom := Nat.le_trans Mailbox.used_giveBack_le ok.serverRoom
    fresh := ServerPc.noConfusion
    early := fun at_stage =>
      Nat.le_zero.mp (Nat.le_trans Mailbox.used_giveBack_le (Nat.le_of_eq (ok.early at_stage))) }

theorem ServerMoves.linkOk (ok : LinkOk link system) (moved : ServerMoves link system next) :
    LinkOk link next := by
  cases moved with
  | creates at_pc =>
      exact { ok with
        clientBox := ok.clientBox.post _
        held := by rw [ok.held, at_pc]; rfl
        clientRoom := by
          show (system.toClient.post _).used ≤ _
          rw [Mailbox.used_post, ok.fresh at_pc]
          exact link.someToClient
        fresh := ServerPc.noConfusion }
  | wakes at_pc sleeps rings =>
      exact { ok with serverBox := Mailbox.Attended.of_draining rfl }
  | settles at_pc drains through => exact ok.serverSettles at_pc through
  | receives item rest at_pc drains queue => exact ok.serverReceives at_pc drains queue
  | echoes bytes at_pc room =>
      exact { ok with
        clientBox := ok.clientBox.post _
        held := by
          show system.toServer.held = 1
          rw [ok.held, at_pc]
          rfl
        clientRoom := by
          show (system.toClient.post _).used ≤ _
          rw [Mailbox.used_post]
          exact room
        fresh := ServerPc.noConfusion }
  | waits bytes at_pc full => exact ok
  | returns at_pc => exact ok.serverReturns at_pc
  | destroys at_pc =>
      have held : system.toServer.held = 0 := by rw [ok.held, at_pc]; rfl
      split
      · rename_i room
        exact { ok with
          clientBox := ok.clientBox.post _
          held := held
          clientRoom := by
            show (system.toClient.post _).used ≤ _
            rw [Mailbox.used_post]
            exact room
          fresh := ServerPc.noConfusion }
      · exact { ok with held := held, fresh := ServerPc.noConfusion }

/-- The server takes neither a ring nor a buffer. -/
theorem ServerMoves.leaves (moved : ServerMoves link system next) :
    (system.toClient.kicked = true -> next.toClient.kicked = true) ∧
      next.toServer.used ≤ system.toServer.used := by
  cases moved with
  | creates | echoes => exact ⟨fun _ => rfl, Nat.le_refl _⟩
  | wakes | waits => exact ⟨id, Nat.le_refl _⟩
  | settles => exact ⟨Mailbox.kicked_told _ _, Nat.le_refl _⟩
  | receives item rest at_pc drains queue =>
      have taken : system.toServer.take.used = system.toServer.used := Mailbox.used_take queue
      have fewer : system.toServer.take.giveBack.used ≤ system.toServer.used :=
        Nat.le_trans Mailbox.used_giveBack_le (Nat.le_of_eq taken)
      cases item with
      | created | destroyed => exact ⟨id, fewer⟩
      | message bytes =>
          simp only [serverReceives]
          split <;> exact ⟨id, Nat.le_of_eq taken⟩
  | returns => exact ⟨id, Mailbox.used_giveBack_le⟩
  | destroys =>
      refine ⟨fun rings => ?_, Nat.le_refl _⟩
      show Mailbox.kicked (if _ then _ else _) = true
      split
      · rfl
      · exact rings

/-- The server takes what is first in its queue, if anything. -/
theorem ServerMoves.queue (moved : ServerMoves link system next) :
    next.toServer.queue = system.toServer.queue ∧
        (ServerPc.holds next.server ≠ 0 -> ServerPc.holds system.server ≠ 0) ∨
      next.toServer.queue = system.toServer.queue.tail := by
  cases moved with
  | creates | returns | destroys => exact Or.inl ⟨rfl, fun holds => absurd rfl holds⟩
  | wakes | waits => exact Or.inl ⟨rfl, id⟩
  | echoes bytes at_pc room => exact Or.inl ⟨rfl, fun _ => by rw [at_pc]; exact Nat.one_ne_zero⟩
  | settles at_pc drains through =>
      refine Or.inl ⟨rfl, fun holds => absurd ?_ holds⟩
      show ServerPc.holds (if _ then _ else _) = 0
      split <;> rfl
  | receives item rest at_pc drains queue =>
      apply Or.inr
      cases item with
      | created | destroyed => rfl
      | message bytes =>
          simp only [serverReceives]
          split <;> rfl

/-- What a client that has found no buffer relies on is kept. -/
theorem ServerMoves.promised (same : next.inFlight = system.inFlight)
    (moved : ServerMoves link system next) (promised : Promised link system) :
    next.toClient.kicked = true ∨ Promised link next := by
  unfold Promised at promised ⊢
  cases tells : link.tells with
  | false =>
      rw [tells] at promised
      exact Or.inr (same ▸ promised)
  | true =>
      rw [tells] at promised
      cases moved with
      | creates | echoes => exact Or.inl rfl
      | wakes | waits | destroys => exact Or.inr promised
      | settles at_pc drains through =>
          rcases promised with owes | full
          · exact Or.inl (Mailbox.told_kicked _ _ tells owes)
          · exact Or.inr (Or.inr full)
      | receives item rest at_pc drains queue =>
          have taken : system.toServer.take.used = system.toServer.used := Mailbox.used_take queue
          cases item with
          | created | destroyed => exact Or.inr (Or.inl rfl)
          | message bytes =>
              simp only [serverReceives]
              split <;> exact Or.inr (promised.imp_right (taken ▸ ·))
      | returns at_pc => exact Or.inr (Or.inl rfl)

theorem ServerMoves.promises (promises : Promises link system)
    (same : next.inFlight = system.inFlight) (moved : ServerMoves link system next) :
    Promises link next where
  refused := by
    intro at_stage asleep
    rcases moved.client with ⟨client, -, -, draining⟩
    rw [client] at at_stage
    rw [draining] at asleep
    rcases promises.refused at_stage asleep with rings | promised
    · exact Or.inl (moved.leaves.1 rings)
    · exact moved.promised same promised
  ahead := by
    rcases moved.queue with ⟨kept, -⟩ | shorter
    · rw [kept]
      exact promises.ahead
    · rw [shorter]
      exact fun member => promises.ahead (List.mem_of_mem_tail member)
  served := by
    intro holds
    rcases moved.queue with ⟨kept, held⟩ | shorter
    · rw [kept]
      exact promises.served (held holds)
    · rw [shorter]
      exact promises.ahead

/-! ### The announcements, move by move of the server -/

/-- As long as the server is there it has not announced its end. -/
theorem Announced.running (announced : Announced system) (here : system.server ≠ .returned) :
    .destroyed ∉ system.toClient.queue :=
  fun member => here (announced.staying member)

/-- The end of the client's endpoint stays in the queue when something else is taken from it. -/
theorem destroyed_behind {item : Item} {rest : List Item}
    (queue : system.toServer.queue = item :: rest) (other : item ≠ .destroyed)
    (member : .destroyed ∈ system.toServer.queue) : .destroyed ∈ system.toServer.queue.tail := by
  rw [queue] at member ⊢
  exact (List.mem_cons.mp member).resolve_left (Ne.symm other)

theorem Announced.serverCreates (announced : Announced system)
    (at_pc : system.server = .createEpt) :
    Announced { system with
      server := .polling, toClient := system.toClient.post .created } :=
  { announced with
    created := fun _ => Or.inr (List.mem_append_right _ (List.mem_singleton.mpr rfl))
    serving := fun asked _ => Bool.noConfusion ((announced.starting at_pc).symm.trans asked)
    leaving := fun left => left.elim ServerPc.noConfusion ServerPc.noConfusion
    starting := ServerPc.noConfusion
    staying := by
      intro member
      rcases List.mem_append.mp member with earlier | last
      · cases at_pc.symm.trans (announced.staying earlier)
      · cases List.mem_singleton.mp last }

/-- At the end of a poll the server leaves if it has been asked to. -/
theorem Announced.serverSettles (announced : Announced system)
    (at_pc : system.server = .polling) :
    Announced { system with
      toServer := system.toServer.settle
      toClient := system.toClient.told link.tells system.toServer
      server := if system.shutdownReq then .destroyEpt else .polling } := by
  have queue : (system.toClient.told link.tells system.toServer).queue = system.toClient.queue :=
    Mailbox.told_queue _ system.toServer
  have created := announced.created (by rw [at_pc]; exact ServerPc.noConfusion)
  have running := announced.running (by rw [at_pc]; exact ServerPc.noConfusion)
  by_cases asked : system.shutdownReq = true
  · rw [if_pos asked]
    exact { announced with
      created := fun _ => queue ▸ created
      serving := fun _ => ServerPc.noConfusion
      leaving := fun _ => asked
      starting := ServerPc.noConfusion
      staying := fun member => absurd (queue ▸ member) running }
  · rw [if_neg asked]
    exact { announced with
      created := fun _ => queue ▸ created
      serving := fun again => absurd again asked
      leaving := fun left => left.elim ServerPc.noConfusion ServerPc.noConfusion
      starting := ServerPc.noConfusion
      staying := fun member => absurd (queue ▸ member) running }

theorem Announced.serverTakesCreated (announced : Announced system) {rest : List Item}
    (drains : system.toServer.draining = true)
    (queue : system.toServer.queue = .created :: rest) :
    Announced (system.serverReceives .created) :=
  { announced with
    destroyed := fun member => announced.destroyed (List.mem_of_mem_tail member)
    farewell := fun parted =>
      ⟨(announced.farewell parted).1,
        (announced.farewell parted).2.imp_right (destroyed_behind queue Item.noConfusion)⟩
    serving := fun _ _ => drains }

/-- The end of the client's endpoint asks the server to leave. -/
theorem Announced.serverTakesDestroyed (announced : Announced system) {rest : List Item}
    (at_pc : system.server = .polling) (drains : system.toServer.draining = true)
    (queue : system.toServer.queue = .destroyed :: rest) :
    Announced (system.serverReceives .destroyed) := by
  have parted : system.farewell = true :=
    announced.destroyed (by rw [queue]; exact List.mem_cons_self)
  exact { announced with
    destroyed := fun _ => parted
    farewell := fun _ => ⟨(announced.farewell parted).1, Or.inl rfl⟩
    shutdownReq := fun _ => parted
    serving := fun _ _ => drains
    leaving := fun _ => rfl
    starting := fun fresh => ServerPc.noConfusion (at_pc.symm.trans fresh) }

theorem Announced.serverTakesMessage (announced : Announced system) {bytes : List UInt8}
    {rest : List Item} (at_pc : system.server = .polling)
    (queue : system.toServer.queue = .message bytes :: rest) (plain : isShutdown bytes = false) :
    Announced (system.serverReceives (.message bytes)) := by
  have running := announced.running (by rw [at_pc]; exact ServerPc.noConfusion)
  simp only [serverReceives, plain, Bool.false_eq_true, if_false]
  exact { announced with
    created := fun _ => announced.created (by rw [at_pc]; exact ServerPc.noConfusion)
    destroyed := fun member => announced.destroyed (List.mem_of_mem_tail member)
    farewell := fun parted =>
      ⟨(announced.farewell parted).1,
        (announced.farewell parted).2.imp_right (destroyed_behind queue Item.noConfusion)⟩
    serving := fun _ => ServerPc.noConfusion
    leaving := fun left => left.elim ServerPc.noConfusion ServerPc.noConfusion
    starting := ServerPc.noConfusion
    staying := fun member => absurd member running }

theorem Announced.serverEchoes (announced : Announced system) {bytes : List UInt8}
    (at_pc : system.server = .echoing bytes) :
    Announced { system with
      server := .returning, toClient := system.toClient.post (.message bytes) } :=
  { announced with
    created := fun _ =>
      (announced.created (by rw [at_pc]; exact ServerPc.noConfusion)).imp_right
        (List.mem_append_left _)
    serving := fun _ => ServerPc.noConfusion
    leaving := fun left => left.elim ServerPc.noConfusion ServerPc.noConfusion
    starting := ServerPc.noConfusion
    staying := by
      intro member
      rcases List.mem_append.mp member with earlier | last
      · cases at_pc.symm.trans (announced.staying earlier)
      · cases List.mem_singleton.mp last }

/-- The callback returns into a poll that is not over. -/
theorem Announced.serverReturns (announced : Announced system) (ok : LinkOk link system)
    (at_pc : system.server = .returning) :
    Announced { system with server := .polling, toServer := system.toServer.giveBack } := by
  have held : system.toServer.held = 1 := by rw [ok.held, at_pc]; rfl
  have drains := ok.serverBox.handled (by rw [held]; decide)
  exact { announced with
    created := fun _ => announced.created (by rw [at_pc]; exact ServerPc.noConfusion)
    serving := fun _ _ => drains
    leaving := fun left => left.elim ServerPc.noConfusion ServerPc.noConfusion
    starting := ServerPc.noConfusion
    staying := fun member => ServerPc.noConfusion (at_pc.symm.trans (announced.staying member)) }

/-- The server announces its end if there is a buffer for that. -/
theorem Announced.serverDestroys (announced : Announced system)
    (at_pc : system.server = .destroyEpt) :
    Announced { system with
      server := .returned
      toClient :=
        if system.toClient.used < link.toClient then system.toClient.post .destroyed
        else system.toClient } := by
  have created := announced.created (by rw [at_pc]; exact ServerPc.noConfusion)
  exact { announced with
    created := by
      intro _
      refine created.imp_right (fun member => ?_)
      show Item.created ∈ Mailbox.queue (if _ then _ else _)
      split
      · exact List.mem_append_left _ member
      · exact member
    serving := fun _ => ServerPc.noConfusion
    leaving := fun _ => announced.leaving (Or.inl at_pc)
    starting := ServerPc.noConfusion
    staying := fun _ => rfl }

theorem ServerMoves.announced (announced : Announced system) (ok : LinkOk link system)
    (client : ClientOk config system.client system.ready system.toClient.draining system.inFlight)
    (moved : ServerMoves link system next) : Announced next := by
  cases moved with
  | creates at_pc => exact announced.serverCreates at_pc
  | wakes at_pc sleeps rings => exact { announced with serving := fun _ _ => rfl }
  | settles at_pc drains through => exact announced.serverSettles at_pc
  | receives item rest at_pc drains queue =>
      cases item with
      | created => exact announced.serverTakesCreated drains queue
      | destroyed => exact announced.serverTakesDestroyed at_pc drains queue
      | message bytes =>
          have member : bytes ∈ system.inFlight := by
            simp only [System.inFlight, queue, List.filterMap_cons, Item.bytes, List.mem_append,
              List.mem_cons, true_or, or_true]
          exact announced.serverTakesMessage at_pc queue (client.noShutdown member)
  | echoes bytes at_pc room => exact announced.serverEchoes at_pc
  | waits bytes at_pc full => exact announced
  | returns at_pc => exact announced.serverReturns ok at_pc
  | destroys at_pc => exact announced.serverDestroys at_pc

/-! ## Steps of the client -/

/-- Everything the client can do -/
inductive ClientMoves (link : Link) (config : Config) (system : System) : System -> Prop
  | starts (at_stage : system.client.stage = .start) :
      ClientMoves link config system
        { system with
          client := system.client.createEpt 0
          toServer := system.toServer.post .created }
  | wakes (polls : system.client.stage.polls) (sleeps : system.toClient.draining = false)
      (rings : system.toClient.kicked = true) :
      ClientMoves link config system { system with toClient := system.toClient.wake }
  | receives (old : ByteMemory) (item : Item) (rest : List Item)
      (polls : system.client.stage.polls) (drains : system.toClient.draining = true)
      (queue : system.toClient.queue = item :: rest) :
      ClientMoves link config system
        ({ system with toClient := system.toClient.take.giveBack }.arrives old item)
  | settles (polls : system.client.stage.polls) (drains : system.toClient.draining = true)
      (through : system.toClient.queue = []) :
      ClientMoves link config system
        ({ system with
          toClient := system.toClient.settle
          toServer := system.toServer.told link.tells system.toClient }.polled config)
  | allocates (old : ByteMemory) (at_stage : system.client.stage = .allocate) :
      ClientMoves link config system
        { system with client := FloodPing.World.allocate config system.client (some old) }
  | nextRound (at_stage : system.client.stage = .nextRound) :
      ClientMoves link config system
        { system with client := FloodPing.World.nextRound config system.client }
  | sends (at_stage : system.client.stage = .sending)
      (room : system.toServer.used < link.toServer) :
      ClientMoves link config system
        { system with
          client :=
            FloodPing.World.trySendReturned config system.client (sendLength system.client.s)
          toServer := system.toServer.post (.message system.client.message) }
  | refused (at_stage : system.client.stage = .sending)
      (full : ¬ system.toServer.used < link.toServer) :
      ClientMoves link config system
        { system with
          client := FloodPing.World.trySendReturned config system.client FloodPing.rpmsgErrNoBuff }
  | parts (at_stage : system.client.stage = .ended) (stays : system.farewell = false)
      (room : system.toServer.used < link.toServer) :
      ClientMoves link config system
        { system with farewell := true, toServer := system.toServer.post .destroyed }
  | lingers (at_stage : system.client.stage = .ended)
      (full : ¬ system.toServer.used < link.toServer) : ClientMoves link config system system

theorem clientPolls_moves {old : ByteMemory} (polls : system.client.stage.polls)
    (moved : system.clientPolls link config old = some next) :
    ClientMoves link config system next := by
  unfold clientPolls at moved
  cases drains : system.toClient.draining with
  | true =>
      rw [if_pos drains] at moved
      cases queue : system.toClient.queue with
      | nil =>
          rw [queue] at moved
          exact Option.some.inj moved ▸ .settles polls drains queue
      | cons item rest =>
          rw [queue] at moved
          exact Option.some.inj moved ▸ .receives old item rest polls drains queue
  | false =>
      rw [if_neg (by rw [drains]; decide)] at moved
      cases rings : system.toClient.kicked with
      | true =>
          rw [if_pos rings] at moved
          exact Option.some.inj moved ▸ .wakes polls drains rings
      | false =>
          rw [if_neg (by rw [rings]; decide)] at moved
          cases moved

theorem clientStep_moves {old : ByteMemory}
    (moved : system.clientStep link config old = some next) :
    ClientMoves link config system next := by
  cases at_stage : system.client.stage with
  | start =>
      rw [clientStep, at_stage] at moved
      exact Option.some.inj moved ▸ .starts at_stage
  | awaitReady =>
      rw [clientStep, at_stage] at moved
      exact clientPolls_moves (Or.inl at_stage) moved
  | sendPolling =>
      rw [clientStep, at_stage] at moved
      exact clientPolls_moves (Or.inr (Or.inl at_stage)) moved
  | waiting =>
      rw [clientStep, at_stage] at moved
      exact clientPolls_moves (Or.inr (Or.inr at_stage)) moved
  | allocate =>
      rw [clientStep, at_stage] at moved
      exact Option.some.inj moved ▸ .allocates old at_stage
  | nextRound =>
      rw [clientStep, at_stage] at moved
      exact Option.some.inj moved ▸ .nextRound at_stage
  | sending =>
      rw [clientStep, at_stage] at moved
      have sent := Option.some.inj moved
      unfold trySend at sent
      by_cases room : system.toServer.used < link.toServer
      · rw [if_pos room] at sent
        exact sent ▸ .sends at_stage room
      · rw [if_neg room] at sent
        exact sent ▸ .refused at_stage room
  | ended =>
      rw [clientStep, at_stage] at moved
      cases parted : system.farewell with
      | true =>
          simp only [parted, if_true, reduceCtorEq] at moved
      | false =>
          simp only [parted, Bool.false_eq_true, if_false] at moved
          by_cases room : system.toServer.used < link.toServer
          · rw [if_pos room] at moved
            exact Option.some.inj moved ▸ .parts at_stage parted room
          · rw [if_neg room] at moved
            exact Option.some.inj moved ▸ .lingers at_stage room
  | failed | undefined =>
      rw [clientStep, at_stage] at moved
      cases moved

/-! ### What the client leaves of the invariant -/

/-- As long as the client polls, the server has not left. -/
theorem Ok.not_destroyed (ok : Ok link config system) (polls : system.client.stage.polls) :
    Item.destroyed ∉ system.toClient.queue := by
  intro member
  have returned := ok.announced.staying member
  have asked := ok.announced.leaving (Or.inr returned)
  have ended := (ok.announced.farewell (ok.announced.shutdownReq asked)).1
  rw [ended] at polls
  exact absurd polls (by decide)

/-- The client finds an item in its queue. -/
theorem Ok.receives (ok : Ok link config system) (fits : Fits config) (old : ByteMemory)
    {item : Item} {rest : List Item} (polls : system.client.stage.polls)
    (drains : system.toClient.draining = true) (queue : system.toClient.queue = item :: rest) :
    Exists fun client => Exists fun ready =>
      { system with toClient := system.toClient.take.giveBack }.arrives old item =
        { system with toClient := system.toClient.take.giveBack, client := client, ready := ready } ∧
      client.stage = system.client.stage ∧ client.s = system.client.s ∧ client.i = system.client.i ∧
      (system.ready = true ∨ item = .created -> ready = true) ∧
      ClientOk config client ready true
        { system with toClient := system.toClient.take.giveBack }.inFlight := by
  have client := ok.client
  have lept := client.lept_of_polls polls
  rw [drains] at client
  cases item with
  | created =>
      refine ⟨system.client, true, if_pos lept, rfl, rfl, rfl, fun _ => rfl, ?_⟩
      have same : { system with toClient := system.toClient.take.giveBack }.inFlight =
          system.inFlight := by
        simp only [System.inFlight, Mailbox.take, Mailbox.giveBack, queue, List.tail_cons,
          List.filterMap_cons, Item.bytes]
      rw [same]
      exact { client with unbound := fun _ asleep => Bool.noConfusion asleep }
  | message bytes =>
      refine ⟨system.client.deliver bytes old, system.ready, if_pos lept, ?_⟩
      have same : bytes :: { system with toClient := system.toClient.take.giveBack }.inFlight =
          system.inFlight := by
        simp only [System.inFlight, Mailbox.take, Mailbox.giveBack, queue, List.tail_cons,
          List.filterMap_cons, Item.bytes, List.cons_append]
      rw [← same] at client
      have kept : forall world : FloodPing.World,
          (world.deliver bytes old).stage = world.stage ∧ (world.deliver bytes old).s = world.s ∧
            (world.deliver bytes old).i = world.i := by
        intro world
        unfold FloodPing.World.deliver FloodPing.World.rpmsgEndpointCb
        split <;> exact ⟨rfl, rfl, rfl⟩
      refine ⟨(kept _).1, (kept _).2.1, (kept _).2.2, ?_, client.delivers fits old⟩
      exact fun already => already.resolve_right Item.noConfusion
  | destroyed =>
      exact absurd (by rw [queue]; exact List.mem_cons_self) (ok.not_destroyed polls)

/-- The client has emptied its queue. -/
theorem Ok.settles (ok : Ok link config system) (fits : Fits config)
    (polls : system.client.stage.polls) :
    ClientOk config
      ({ system with
        toClient := system.toClient.settle
        toServer := system.toServer.told link.tells system.toClient }.polled config).client
      system.ready false system.inFlight := by
  have client := ok.client
  unfold polled
  split
  · rename_i at_stage
    split
    · exact client.bindsReady at_stage fits system.ready
    · rename_i waits
      exact { client with
        drains := Bool.noConfusion
        asks := fun later => Stage.noConfusion (at_stage.symm.trans later)
        unbound := fun _ _ => Bool.not_eq_true _ ▸ waits }
  · rename_i bound
    exact client.pollReturned (polls.resolve_left bound) system.ready

/-- `platform_poll()` changes nothing but the client. -/
theorem polled_eq (system : System) :
    system.polled config = { system with client := (system.polled config).client } := by
  unfold polled
  split
  · split <;> rfl
  · rfl

theorem ClientMoves.clientOk (ok : Ok link config system) (fits : Fits config)
    (moved : ClientMoves link config system next) :
    ClientOk config next.client next.ready next.toClient.draining next.inFlight := by
  have client := ok.client
  cases moved with
  | starts at_stage =>
      have asleep := client.asleep (by rw [at_stage]; decide)
      have same : { system with
          client := system.client.createEpt 0
          toServer := system.toServer.post .created }.inFlight = system.inFlight := by
        simp only [System.inFlight, Mailbox.post, filterMap_created]
      rw [asleep] at client
      rw [same]
      show ClientOk config _ _ system.toClient.draining _
      rw [asleep]
      exact client.createEpt at_stage
  | wakes polls sleeps rings =>
      exact { client with
        drains := fun _ => polls
        asks := fun _ asleep => Bool.noConfusion asleep
        unbound := fun _ asleep => Bool.noConfusion asleep }
  | receives old item rest polls drains queue =>
      rcases ok.receives fits old polls drains queue with ⟨after, ready, same, -, -, -, -, received⟩
      rw [same]
      show ClientOk config after ready system.toClient.draining _
      rw [drains]
      exact received
  | settles polls drains through =>
      have settled := ok.settles fits polls
      rw [polled_eq]
      have same : System.inFlight { system with
          client := ({ system with
            toClient := system.toClient.settle
            toServer := system.toServer.told link.tells system.toClient }.polled config).client
          toClient := system.toClient.settle
          toServer := system.toServer.told link.tells system.toClient } = system.inFlight := by
        simp only [System.inFlight, Mailbox.told_queue, Mailbox.settle]
      rw [same]
      exact settled
  | allocates old at_stage =>
      have asleep := client.asleep (by rw [at_stage]; decide)
      show ClientOk config _ _ system.toClient.draining _
      rw [asleep]
      exact client.allocates at_stage fits old system.ready
  | nextRound at_stage =>
      have asleep := client.asleep (by rw [at_stage]; decide)
      show ClientOk config _ _ system.toClient.draining _
      rw [asleep]
      exact client.nextRound at_stage system.ready
  | sends at_stage room =>
      have asleep := client.asleep (by rw [at_stage]; decide)
      have same : { system with
          client :=
            FloodPing.World.trySendReturned config system.client (sendLength system.client.s)
          toServer := system.toServer.post (.message system.client.message) }.inFlight =
            system.inFlight ++ [system.client.message] := by
        simp only [System.inFlight, Mailbox.post, List.filterMap_append, List.filterMap_cons,
          List.filterMap_nil, Item.bytes, List.append_assoc]
      rw [same]
      show ClientOk config _ _ system.toClient.draining _
      rw [asleep]
      exact client.sends at_stage system.ready
  | refused at_stage full =>
      have asleep := client.asleep (by rw [at_stage]; decide)
      show ClientOk config _ _ system.toClient.draining _
      rw [asleep]
      exact client.refused at_stage system.ready
  | parts at_stage stays room =>
      have same : { system with
          farewell := true
          toServer := system.toServer.post .destroyed }.inFlight = system.inFlight := by
        simp only [System.inFlight, Mailbox.post, filterMap_destroyed]
      rw [same]
      exact client
  | lingers at_stage full => exact client

/-- The loops of `app()` leave the client neither at its start nor waiting for a buffer. -/
def Onward (stage : Stage) : Prop := stage ≠ .start ∧ stage ≠ .sendPolling

instance (stage : Stage) : Decidable (Onward stage) := inferInstanceAs (Decidable (_ ∧ _))

theorem awaitEchoes_onward (world : FloodPing.World) :
    Onward (FloodPing.World.awaitEchoes config world).stage := by
  unfold FloodPing.World.awaitEchoes
  split
  · exact ⟨Stage.noConfusion, Stage.noConfusion⟩
  · split <;> exact ⟨Stage.noConfusion, Stage.noConfusion⟩

theorem afterPackages_onward (world : FloodPing.World) :
    Onward (FloodPing.World.afterPackages config world).stage := by
  unfold FloodPing.World.afterPackages
  split
  · exact ⟨Stage.noConfusion, Stage.noConfusion⟩
  · exact awaitEchoes_onward world

theorem trySend_onward (world : FloodPing.World) :
    Onward (FloodPing.World.trySend config world).stage := by
  unfold FloodPing.World.trySend
  split
  · exact ⟨Stage.noConfusion, Stage.noConfusion⟩
  · exact afterPackages_onward world

theorem nextPackage_onward (world : FloodPing.World) (i : Int) :
    Onward (FloodPing.World.nextPackage config world i).stage := by
  unfold FloodPing.World.nextPackage
  split
  · exact trySend_onward _
  · exact afterPackages_onward _

theorem nextRound_onward (world : FloodPing.World) :
    Onward (FloodPing.World.nextRound config world).stage := by
  unfold FloodPing.World.nextRound
  split
  · exact nextPackage_onward _ _
  · exact ⟨Stage.noConfusion, Stage.noConfusion⟩

theorem trySendReturned_onward (world : FloodPing.World) {status : Int}
    (sent : status ≠ FloodPing.rpmsgErrNoBuff) :
    Onward (FloodPing.World.trySendReturned config world status).stage := by
  unfold FloodPing.World.trySendReturned
  rw [if_neg sent]
  split
  · exact afterPackages_onward _
  · exact nextPackage_onward _ _

theorem polled_onward (system : System) (polls : system.client.stage.polls) :
    Onward (system.polled config).client.stage := by
  unfold polled
  split
  · rename_i at_stage
    split
    · unfold FloodPing.World.ready
      split <;> exact ⟨Stage.noConfusion, Stage.noConfusion⟩
    · rw [at_stage]
      decide
  · rename_i bound
    unfold FloodPing.World.pollReturned
    dsimp only
    split
    · exact trySend_onward _
    · rename_i elsewhere
      rw [if_pos ((polls.resolve_left bound).resolve_left elsewhere)]
      exact awaitEchoes_onward _

/-- The client has gone on without a message. -/
theorem LinkOk.onward (ok : LinkOk link system) {client : FloodPing.World}
    (onward : Onward client.stage) : LinkOk link { system with client := client } :=
  { ok with early := fun at_stage => absurd at_stage onward.1 }

/-- The client has sent something. -/
theorem LinkOk.posts (ok : LinkOk link system) {client : FloodPing.World}
    (onward : Onward client.stage) (room : system.toServer.used < link.toServer) (item : Item)
    (farewell : Bool) :
    LinkOk link { system with
      client := client, farewell := farewell, toServer := system.toServer.post item } :=
  { ok with
    serverBox := ok.serverBox.post item
    held := ok.held
    serverRoom := by
      show (system.toServer.post item).used ≤ _
      rw [Mailbox.used_post]
      exact room
    early := fun at_stage => absurd at_stage onward.1 }

theorem ClientMoves.linkOk (ok : Ok link config system) (fits : Fits config)
    (moved : ClientMoves link config system next) : LinkOk link next := by
  have known := ok.link
  cases moved with
  | starts at_stage =>
      have room : system.toServer.used < link.toServer := by
        rw [known.early at_stage]
        exact link.someToServer
      exact known.posts (show Onward .awaitReady by decide) room .created system.farewell
  | wakes polls sleeps rings =>
      exact { known with clientBox := Mailbox.Attended.of_draining rfl }
  | receives old item rest polls drains queue =>
      rcases ok.receives fits old polls drains queue with ⟨after, ready, same, stage, -⟩
      have taken : system.toClient.take.used = system.toClient.used := Mailbox.used_take queue
      have fewer : system.toClient.take.giveBack.used ≤ system.toClient.used :=
        Nat.le_trans Mailbox.used_giveBack_le (Nat.le_of_eq taken)
      rw [same]
      exact { known with
        clientBox := Mailbox.Attended.of_draining drains
        free := by
          show system.toClient.held + 1 - 1 = 0
          rw [known.free]
        clientRoom := Nat.le_trans fewer known.clientRoom
        fresh := fun at_pc => Nat.le_zero.mp (known.fresh at_pc ▸ fewer)
        early := fun at_stage => known.early (stage.symm.trans at_stage) }
  | settles polls drains through =>
      have onward := @polled_onward config
        { system with
          toClient := system.toClient.settle
          toServer := system.toServer.told link.tells system.toClient } polls
      rw [polled_eq]
      exact { known with
        serverBox := known.serverBox.told link.tells system.toClient
        clientBox := Mailbox.Attended.settle through known.free
        held := (Mailbox.told_held _ _).trans known.held
        serverRoom := by
          show (system.toServer.told link.tells system.toClient).used ≤ _
          rw [Mailbox.told_used]
          exact known.serverRoom
        early := fun at_stage => absurd at_stage onward.1 }
  | allocates old at_stage =>
      apply known.onward
      unfold FloodPing.World.allocate
      dsimp only
      split <;> exact ⟨Stage.noConfusion, Stage.noConfusion⟩
  | nextRound at_stage => exact known.onward (nextRound_onward _)
  | sends at_stage room =>
      exact known.posts (trySendReturned_onward _ (ok.client.sendLength_ne at_stage)) room _
        system.farewell
  | refused at_stage full =>
      exact { known with early := Stage.noConfusion }
  | parts at_stage stays room =>
      exact known.posts (by rw [at_stage]; decide) room .destroyed true
  | lingers at_stage full => exact known

/-- As long as the client goes on, it has not taken leave. -/
theorem Announced.staying_ (announced : Announced system) (going : system.client.stage ≠ .ended) :
    system.farewell = false ∧ system.shutdownReq = false ∧
      Item.destroyed ∉ system.toServer.queue := by
  have stays : system.farewell = false := by
    cases parted : system.farewell with
    | false => rfl
    | true => exact absurd (announced.farewell parted).1 going
  refine ⟨stays, ?_, ?_⟩
  · cases asked : system.shutdownReq with
    | false => rfl
    | true => exact Bool.noConfusion (stays.symm.trans (announced.shutdownReq asked))
  · exact fun member => Bool.noConfusion (stays.symm.trans (announced.destroyed member))

/-- A step of a client that has not ended -/
theorem Announced.going (announced : Announced system) (going : system.client.stage ≠ .ended)
    {client : FloodPing.World} {ready : Bool} {toServer toClient : Mailbox Item}
    (created : system.ready = true ∨ .created ∈ system.toClient.queue ->
      ready = true ∨ .created ∈ toClient.queue)
    (destroyed : .destroyed ∈ toServer.queue -> .destroyed ∈ system.toServer.queue)
    (staying : .destroyed ∈ toClient.queue -> .destroyed ∈ system.toClient.queue) :
    Announced { system with
      client := client, ready := ready, toServer := toServer, toClient := toClient } := by
  rcases announced.staying_ going with ⟨stays, unasked, quiet⟩
  exact {
    created := fun up => created (announced.created up)
    destroyed := fun member => absurd (destroyed member) quiet
    farewell := fun parted => Bool.noConfusion (stays.symm.trans parted)
    shutdownReq := fun asked => Bool.noConfusion (unasked.symm.trans asked)
    serving := fun asked => Bool.noConfusion (unasked.symm.trans asked)
    leaving := announced.leaving
    starting := announced.starting
    staying := fun member => announced.staying (staying member) }

theorem bytes_inFlight {bytes : List UInt8} (member : .message bytes ∈ system.toServer.queue) :
    system.inFlight ≠ [] := by
  intro nothing
  have found : bytes ∈ system.toServer.queue.filterMap Item.bytes :=
    List.mem_filterMap.mpr ⟨_, member, rfl⟩
  rw [(List.append_eq_nil_iff.mp nothing).2] at found
  exact absurd found List.not_mem_nil

/-- Two buffers in use towards the server mean that a message is under way. -/
theorem Ok.inFlight_of_used (ok : Ok link config system) (going : system.client.stage ≠ .ended)
    (two : 2 ≤ system.toServer.used) : system.inFlight ≠ [] := by
  have noFarewell := (ok.announced.staying_ going).2.2
  have message : forall item, item ∈ system.toServer.queue -> item ≠ .created ->
      system.inFlight ≠ [] := by
    intro item member other
    cases item with
    | created => exact absurd rfl other
    | destroyed => exact absurd member noFarewell
    | message bytes => exact bytes_inFlight member
  unfold Mailbox.used at two
  rw [ok.link.held] at two
  by_cases holds : ServerPc.holds system.server = 0
  · cases queue : system.toServer.queue with
    | nil =>
        rw [queue, holds] at two
        exact absurd two (by decide)
    | cons first rest =>
        cases rest with
        | nil =>
            rw [queue, holds, List.length_singleton] at two
            exact absurd two (by decide)
        | cons second more =>
            have ahead := ok.promises.ahead
            rw [queue] at ahead message
            apply message second (List.mem_cons_of_mem _ List.mem_cons_self)
            rintro rfl
            exact ahead List.mem_cons_self
  · have one := ServerPc.holds_le system.server
    have served := ok.promises.served holds
    cases queue : system.toServer.queue with
    | nil =>
        rw [queue, List.length_nil] at two
        omega
    | cons first rest =>
        rw [queue] at served message
        apply message first List.mem_cons_self
        rintro rfl
        exact served List.mem_cons_self

/-- The client leaves its announcement ahead of everything else. -/
theorem Promises.posts (promises : Promises link system) {client : FloodPing.World}
    (onward : client.stage ≠ .sendPolling) (farewell : Bool) {item : Item}
    (first : system.toServer.queue = [] ∧ ServerPc.holds system.server = 0 ∨ item ≠ .created) :
    Promises link { system with
      client := client, farewell := farewell, toServer := system.toServer.post item } where
  refused := fun at_stage => absurd at_stage onward
  ahead := by
    show Item.created ∉ (system.toServer.queue ++ [item]).tail
    cases queue : system.toServer.queue with
    | nil => exact List.not_mem_nil
    | cons item rest =>
        have ahead := promises.ahead
        rw [queue] at ahead first
        intro member
        rcases List.mem_append.mp member with earlier | last
        · exact ahead earlier
        · rcases first with ⟨empty, -⟩ | other
          · cases empty
          · exact other (List.mem_singleton.mp last).symm
  served := by
    intro holds member
    rcases List.mem_append.mp member with earlier | last
    · exact promises.served holds earlier
    · rcases first with ⟨-, free⟩ | other
      · exact holds free
      · exact other (List.mem_singleton.mp last).symm

theorem ClientMoves.promises (ok : Ok link config system) (fits : Fits config)
    (moved : ClientMoves link config system next) : Promises link next := by
  have known := ok.promises
  cases moved with
  | starts at_stage =>
      have unused := ok.link.early at_stage
      rw [Mailbox.used, Nat.add_eq_zero_iff, List.length_eq_zero_iff, ok.link.held] at unused
      exact known.posts (show Stage.awaitReady ≠ .sendPolling by decide) system.farewell
        (Or.inl unused)
  | wakes polls sleeps rings =>
      exact { known with refused := fun _ asleep => Bool.noConfusion asleep }
  | receives old item rest polls drains queue =>
      rcases ok.receives fits old polls drains queue with ⟨after, ready, same, stage, -⟩
      rw [same]
      exact { known with refused := fun _ asleep => Bool.noConfusion (drains.symm.trans asleep) }
  | settles polls drains through =>
      have onward := @polled_onward config
        { system with
          toClient := system.toClient.settle
          toServer := system.toServer.told link.tells system.toClient } polls
      have queue : (system.toServer.told link.tells system.toClient).queue =
          system.toServer.queue := Mailbox.told_queue _ _
      rw [polled_eq]
      exact {
        refused := fun at_stage => absurd at_stage onward.2
        ahead := queue ▸ known.ahead
        served := queue ▸ known.served }
  | allocates old at_stage =>
      refine { known with refused := fun waits => absurd waits ?_ }
      show (FloodPing.World.allocate config system.client (some old)).stage ≠ .sendPolling
      unfold FloodPing.World.allocate
      dsimp only
      split <;> exact Stage.noConfusion
  | nextRound at_stage =>
      exact { known with refused := fun waits => absurd waits (nextRound_onward _).2 }
  | sends at_stage room =>
      exact known.posts (trySendReturned_onward _ (ok.client.sendLength_ne at_stage)).2
        system.farewell (Or.inr Item.noConfusion)
  | refused at_stage full =>
      refine { known with refused := fun _ _ => Or.inr ?_ }
      unfold Promised
      cases tells : link.tells with
      | true => exact Or.inr (Nat.not_lt.mp full)
      | false =>
          have two := link.enough tells
          exact ok.inFlight_of_used (by rw [at_stage]; decide) (by omega)
  | parts at_stage stays room =>
      exact known.posts (by rw [at_stage]; decide) true (Or.inr Item.noConfusion)
  | lingers at_stage full => exact known

theorem ClientMoves.announced (ok : Ok link config system) (fits : Fits config)
    (moved : ClientMoves link config system next) : Announced next := by
  have known := ok.announced
  have only : forall item : Item, item ≠ .destroyed ->
      Item.destroyed ∈ system.toServer.queue ++ [item] ->
        Item.destroyed ∈ system.toServer.queue := by
    intro item other member
    exact (List.mem_append.mp member).resolve_right
      (fun last => other (List.mem_singleton.mp last).symm)
  cases moved with
  | starts at_stage =>
      exact known.going (by rw [at_stage]; decide) id (only _ Item.noConfusion) id
  | wakes polls sleeps rings => exact { known with }
  | receives old item rest polls drains queue =>
      have going : system.client.stage ≠ .ended := by
        intro ended
        rw [ended] at polls
        exact absurd polls (by decide)
      rcases ok.receives fits old polls drains queue with ⟨after, ready, same, -, -, -, bound, -⟩
      rw [same]
      refine known.going going ?_ id List.mem_of_mem_tail
      intro created
      rcases created with already | member
      · exact Or.inl (bound (Or.inl already))
      · rw [queue] at member
        rcases List.mem_cons.mp member with first | later
        · exact Or.inl (bound (Or.inr first.symm))
        · refine Or.inr ?_
          show Item.created ∈ system.toClient.queue.tail
          rw [queue]
          exact later
  | settles polls drains through =>
      have going : system.client.stage ≠ .ended := by
        intro ended
        rw [ended] at polls
        exact absurd polls (by decide)
      have queue :
          (system.toServer.told link.tells system.toClient).queue = system.toServer.queue :=
        Mailbox.told_queue _ system.toClient
      rw [polled_eq]
      exact known.going going id (fun member => queue ▸ member) id
  | allocates old at_stage => exact known.going (by rw [at_stage]; decide) id id id
  | nextRound at_stage => exact known.going (by rw [at_stage]; decide) id id id
  | sends at_stage room =>
      exact known.going (by rw [at_stage]; decide) id (only _ Item.noConfusion) id
  | refused at_stage full => exact known.going (by rw [at_stage]; decide) id id id
  | parts at_stage stays room =>
      exact { known with
        destroyed := fun _ => rfl
        farewell := fun _ =>
          ⟨at_stage, Or.inr (List.mem_append_right _ (List.mem_singleton.mpr rfl))⟩
        shutdownReq := fun _ => rfl }
  | lingers at_stage full => exact known

theorem Ok.step {label : Label} (ok : Ok link config system) (fits : Fits config)
    (moved : System.step link config system label = some next) : Ok link config next := by
  cases label with
  | client old =>
      have moves := clientStep_moves moved
      exact ⟨moves.clientOk ok fits, moves.promises ok fits, moves.linkOk ok fits,
        moves.announced ok fits⟩
  | server =>
      have moves := serverStep_moves moved
      exact ⟨moves.clientOk ok.client, moves.promises ok.promises (moves.inFlight ok.client),
        moves.linkOk ok.link, moves.announced ok.announced ok.link ok.client⟩

theorem Ok.initially : Ok link config initial where
  client := {
    ok := FloodPing.ok_initial
    clean := rfl
    present := rfl
    carried := rfl
    quiet := fun _ => rfl
    bound := fun started => absurd rfl started
    ret := fun _ _ => Int.le_refl 0
    drains := Bool.noConfusion
    asks := Stage.noConfusion
    unbound := fun _ _ => rfl
    completed := Stage.noConfusion
    defined := ⟨Stage.noConfusion, Stage.noConfusion⟩ }
  link := {
    serverBox := Mailbox.Attended.initially
    clientBox := Mailbox.Attended.initially
    held := rfl
    free := rfl
    serverRoom := Nat.zero_le _
    clientRoom := Nat.zero_le _
    fresh := fun _ => rfl
    early := fun _ => rfl }
  promises := {
    refused := Stage.noConfusion
    ahead := List.not_mem_nil
    served := fun _ => List.not_mem_nil }
  announced := {
    created := fun up => absurd rfl up
    destroyed := fun member => absurd member List.not_mem_nil
    farewell := Bool.noConfusion
    shutdownReq := Bool.noConfusion
    serving := Bool.noConfusion
    leaving := fun left => left.elim ServerPc.noConfusion ServerPc.noConfusion
    starting := fun _ => rfl
    staying := fun member => absurd member List.not_mem_nil }

end Moves

end System

end FloodEcho
end OpenAmpReference
