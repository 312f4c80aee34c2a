import OpenAmpReference.LegacyApps.EchoPing
import OpenAmpReference.Library.Ledger

namespace OpenAmpReference
namespace NocopyPing

open EchoPing (asInt asSize sizeofPayload payloadMinSize fillPayload)
open EchoPing.World (corrupted)
open Transition

/-!
# The ping programs that hold their receive buffers

The callback holds the buffer of a message and records it in `rcv_msg`, which has no mark
for being empty; `app()` checks the recorded message and releases its buffer once the
number that was received is high enough.  The program in `tests/msg` also stops to wait
when it has counted an error, keeps a transmit buffer for good, and takes and discards
another one after every thirteenth message.  The library may call the callbacks within
every one of its functions.
-/

/-- The program in `examples/nocopy_echo`, and the one in `tests/msg` -/
inductive Program
  | nocopyEcho
  | tests
  deriving DecidableEq, Repr

/-- `MAX_NB_TX_BUFF` counts the buffers that the second program takes at first. -/
inductive Stage
  | start
  | awaitReady
  | reserving
  | getTx
  | transmit
  | discard
  | releaseTx
  | polling
  | ended
  | fault
  deriving DecidableEq, Repr

/-- The program is inside the library, after the creation of its endpoint. -/
def Stage.listens : Stage -> Bool
  | Stage.start | Stage.ended | Stage.fault => false
  | _ => true

/-- A receive buffer, and which call of `rpmsg_hold_rx_buffer()` holds it -/
structure Hold where
  buffer : Nat
  ticket : Nat
  deriving DecidableEq, Repr

/-- `struct rpmsg_rcv_msg`, whose endpoint is always `lept` -/
structure RcvMsg where
  payload : Hold
  len : Nat
  deriving DecidableEq, Repr

/-- `num_payloads`, from a `max_size` of 32 bits without a sign -/
def numPayloads (txBufferSize : Int) : Int :=
  asInt (asSize ((asSize (txBufferSize - sizeofPayload) % 2 ^ 32 : Nat) - payloadMinSize + 1))

structure World where
  stage : Stage
  lept : Bool
  eptDeleted : Bool
  ret : Int
  i : Int
  size : Int
  numPayloads : Int
  expectRnum : Int
  rnum : Int
  errCnt : Int
  lost : Option Nat
  rcvMsg : Option RcvMsg
  buffers : Nat -> ByteMemory
  ledger : Ledger Hold
  sent : List (List UInt8)

namespace World

def initial (buffers : Nat -> ByteMemory) : World where
  stage := Stage.start
  lept := false
  eptDeleted := false
  ret := 0
  i := 0
  size := 0
  numPayloads := 0
  expectRnum := 0
  rnum := 0
  errCnt := 0
  lost := none
  rcvMsg := none
  buffers := buffers
  ledger := Ledger.empty
  sent := []

/-! ## The callbacks -/

/-- `rpmsg_endpoint_cb()` -/
def rpmsgEndpointCb (world : World) (data len : Nat) : World :=
  let hold : Hold := { buffer := data, ticket := world.ledger.acquired.length }
  { world with
    ledger := world.ledger.acquire hold
    rcvMsg := some { payload := hold, len := len }
    rnum := asInt (((world.buffers data).readLong 0 + 1) % 2 ^ 64) }

/-- `rpmsg_service_unbind()` -/
def rpmsgServiceUnbind (world : World) : World :=
  { world with lept := false, eptDeleted := true }

/-- `rpmsg_name_service_bind_cb()`, with the result of `rpmsg_create_ept()` -/
def rpmsgNameServiceBindCb (world : World) (status : Int) : World :=
  { world with lept := decide (status = 0) }

/-! ## `app()` -/

/-- The end of `app()` after the loop -/
def quit (program : Program) (world : World) : World :=
  { world with
    stage := Stage.ended
    lept := false
    ret := match program with
      | Program.nocopyEcho => 0
      | Program.tests => if world.errCnt ≠ 0 then -1 else 0 }

/-- A failed call of the library in the loop -/
def giveUp (program : Program) (world : World) : World :=
  match program with
  | Program.nocopyEcho => world.quit program
  | Program.tests => { world with errCnt := world.errCnt + 1 }.quit program

/-- The test of the `for` loop -/
def nextPayload (program : Program) (world : World) (i size : Int) : World :=
  if i < world.numPayloads then { world with stage := Stage.getTx, i := i, size := size }
  else { world with i := i, size := size }.quit program

def createEpt (world : World) (status : Int) : World :=
  if status ≠ 0 then { world with stage := Stage.ended, ret := status }
  else { world with stage := Stage.awaitReady, lept := true }

/-- The endpoint is ready, with the result of `rpmsg_get_tx_buffer_size()`. -/
def ready (program : Program) (world : World) (txBufferSize : Int) : World :=
  if txBufferSize ≤ 0 then { world with stage := Stage.ended, lept := false, ret := -1 }
  else
    match program with
    | Program.nocopyEcho =>
        { world with numPayloads := NocopyPing.numPayloads txBufferSize }.nextPayload program 0
          payloadMinSize
    | Program.tests =>
        { world with
          stage := Stage.reserving, numPayloads := NocopyPing.numPayloads txBufferSize }

/-- The first of ten transmit buffers is kept, the others are given back. -/
def reserves (world : World) (lost : Option Nat) (released : Bool) : World :=
  if released then { world with lost := lost }.nextPayload Program.tests 0 payloadMinSize
  else { world with stage := Stage.ended, lost := lost, ret := -1 }

/-- `rpmsg_get_tx_payload_buffer()` has returned a buffer that can be used. -/
def usable (program : Program) (world : World) (buffer : Option Nat) : Prop :=
  buffer ≠ none ∧ ¬ (program = Program.tests ∧ buffer = world.lost)

instance (program : Program) (world : World) (buffer : Option Nat) :
    Decidable (usable program world buffer) :=
  inferInstanceAs (Decidable (_ ∧ _))

def getTx (program : Program) (world : World) (buffer : Option Nat) : World :=
  if usable program world buffer then { world with stage := Stage.transmit }
  else world.giveUp program

/-- What is sent as `i_payload` -/
def message (world : World) : List UInt8 :=
  (fillPayload (fun _ => 0) world.i world.size).readBytes 0
    (sizeofPayload + asSize world.size)

def waitsForEcho (world : World) : World :=
  { world with stage := Stage.polling, expectRnum := world.expectRnum + 1 }

/-- `rpmsg_send_nocopy()` returns. -/
def sendReturned (program : Program) (world : World) (status : Int) : World :=
  if status < 0 then world.giveUp program
  else
    let sent := { world with sent := world.sent ++ [world.message] }
    if program = Program.tests ∧ world.i % 13 = 0 then { sent with stage := Stage.discard }
    else sent.waitsForEcho

/-- An unused buffer is taken, to be discarded. -/
def discards (program : Program) (world : World) (buffer : Option Nat) : World :=
  if usable program world buffer then { world with stage := Stage.releaseTx }
  else world.giveUp program

/-- `rpmsg_release_tx_buffer()` returns. -/
def releaseTxReturned (program : Program) (world : World) (status : Int) : World :=
  if status < 0 then world.giveUp program else world.waitsForEcho

/-- The condition of the inner loop -/
def waits (program : Program) (world : World) : Bool :=
  match program with
  | Program.nocopyEcho => world.rnum < world.expectRnum && !world.eptDeleted
  | Program.tests => world.rnum < world.expectRnum && world.errCnt == 0 && !world.eptDeleted

/-- The message in the buffer is not the one that is expected. -/
def invalid (payload : ByteMemory) (expNum : Nat) : Bool :=
  payload.readLong 0 != expNum || payload.readLong 8 == 0 ||
    corrupted payload (payload.readLong 8)

/-- `rpmsg_check_rcv_msg()`, and what the loop makes of its result -/
def rpmsgCheckRcvMsg (world : World) (expNum : Nat) : World :=
  match world.rcvMsg with
  | none => { world with ledger := world.ledger.misuse, stage := Stage.fault }
  | some msg =>
      { world with
        ledger := world.ledger.release msg.payload
        errCnt := if invalid (world.buffers msg.payload.buffer) expNum then world.errCnt + 1
          else world.errCnt }

/-- `platform_poll()` returns in the inner loop. -/
def polled (program : Program) (world : World) : World :=
  if world.waits program then world
  else if world.eptDeleted then world.quit program
  else
    let checked := world.rpmsgCheckRcvMsg (asSize (world.expectRnum - 1) % 2 ^ 32)
    if checked.stage = Stage.fault then checked
    else checked.nextPayload program (world.i + 1) (world.size + 1)

/-- The buffer is the program's, and not one that the peer may fill. -/
def Keeps (world : World) (buffer : Nat) : Prop :=
  Exists fun hold => hold ∈ world.ledger.acquired ∧ hold ∉ world.ledger.released ∧
    hold.buffer = buffer

instance (world : World) (buffer : Nat) : Decidable (Keeps world buffer) :=
  inferInstanceAs (Decidable (Exists fun hold => hold ∈ world.ledger.acquired ∧ _))

end World

inductive Event
  | createEpt (status : Int)
  | ready (txBufferSize : Int)
  | reserves (lost : Option Nat) (released : Bool)
  | getTx (buffer : Option Nat)
  | sendReturns (status : Int)
  | releaseTxReturns (status : Int)
  | pollReturns
  | fills (buffer : Nat) (contents : ByteMemory)
  | receives (buffer len : Nat)
  | unbinds
  | binds (status : Int)

open World in
def step (program : Program) (world : World) (event : Event) : Option World :=
  match event with
  | Event.createEpt status =>
      if world.stage = Stage.start then some (world.createEpt status) else none
  | Event.ready txBufferSize =>
      if world.stage = Stage.awaitReady ∧ world.lept = true then
        some (world.ready program txBufferSize)
      else none
  | Event.reserves lost released =>
      if world.stage = Stage.reserving then some (world.reserves lost released) else none
  | Event.getTx buffer =>
      if world.stage = Stage.getTx then some (world.getTx program buffer)
      else if world.stage = Stage.discard then some (world.discards program buffer)
      else none
  | Event.sendReturns status =>
      if world.stage = Stage.transmit then some (world.sendReturned program status) else none
  | Event.releaseTxReturns status =>
      if world.stage = Stage.releaseTx then some (world.releaseTxReturned program status)
      else none
  | Event.pollReturns =>
      if world.stage = Stage.polling then some (world.polled program) else none
  | Event.fills buffer contents =>
      if Keeps world buffer then none
      else some { world with buffers := Function.update world.buffers buffer contents }
  | Event.receives buffer len =>
      if world.stage.listens = true ∧ world.lept = true ∧ ¬ Keeps world buffer then
        some (world.rpmsgEndpointCb buffer len)
      else none
  | Event.unbinds =>
      if world.stage.listens = true ∧ world.lept = true then some world.rpmsgServiceUnbind
      else none
  | Event.binds status =>
      if world.stage.listens = true ∧ world.lept = false then
        some (world.rpmsgNameServiceBindCb status)
      else none

namespace World

/-- Every buffer is released at most once and only while it is held, and a buffer that is
held and not released is the one that `rcv_msg` records, so that there is at most one. -/
structure Owned (world : World) : Prop where
  once : world.ledger.released.Nodup
  unmisused : world.ledger.misused = false
  recorded : forall hold, world.ledger.Live hold -> world.rcvMsg.map RcvMsg.payload = some hold

/-- No buffer is held: no message has come in since the last check. -/
def Idle (world : World) : Prop :=
  forall hold, hold ∈ world.ledger.acquired -> hold ∈ world.ledger.released

instance (world : World) : Decidable world.Idle :=
  inferInstanceAs (Decidable (forall hold, hold ∈ world.ledger.acquired -> _))

/-- A message comes in only after the check of the one before it, and as long as none has
come in since the last check, the inner loop goes on. -/
def Alternating (program : Program) (world : World) (event : Event) : Prop :=
  match event with
  | Event.receives _ _ => world.Idle
  | Event.pollReturns =>
      world.Idle -> world.waits program = true ∨ world.eptDeleted = true
  | _ => True

instance (program : Program) (world : World) :
    (event : Event) -> Decidable (Alternating program world event)
  | Event.receives _ _ => inferInstanceAs (Decidable world.Idle)
  | Event.pollReturns => inferInstanceAs (Decidable (_ -> _))
  | Event.createEpt _ | Event.ready _ | Event.reserves _ _ | Event.getTx _
  | Event.sendReturns _ | Event.releaseTxReturns _ | Event.fills _ _ | Event.unbinds
  | Event.binds _ => isTrue trivial

/-! ## What a step does to the buffers -/

variable {program : Program} {world next : World}

/-- No buffer is held, released or recorded. -/
structure Kept (world next : World) : Prop where
  ledger : next.ledger = world.ledger
  rcvMsg : next.rcvMsg = world.rcvMsg

theorem quit_kept : Kept world (world.quit program) where
  ledger := rfl
  rcvMsg := rfl

theorem giveUp_kept : Kept world (world.giveUp program) := by
  cases program <;> exact ⟨rfl, rfl⟩

theorem nextPayload_kept (i size : Int) : Kept world (world.nextPayload program i size) := by
  unfold World.nextPayload
  split <;> exact ⟨rfl, rfl⟩

theorem createEpt_kept (status : Int) : Kept world (world.createEpt status) := by
  unfold World.createEpt
  split <;> exact ⟨rfl, rfl⟩

theorem ready_kept (txBufferSize : Int) : Kept world (world.ready program txBufferSize) := by
  unfold World.ready
  split
  · exact ⟨rfl, rfl⟩
  · cases program with
    | nocopyEcho =>
        have started := @nextPayload_kept Program.nocopyEcho
          { world with numPayloads := NocopyPing.numPayloads txBufferSize } 0 payloadMinSize
        exact ⟨started.ledger, started.rcvMsg⟩
    | tests => exact ⟨rfl, rfl⟩

theorem reserves_kept (lost : Option Nat) (released : Bool) :
    Kept world (world.reserves lost released) := by
  unfold World.reserves
  split
  · have started := @nextPayload_kept Program.tests { world with lost := lost } 0 payloadMinSize
    exact ⟨started.ledger, started.rcvMsg⟩
  · exact ⟨rfl, rfl⟩

theorem getTx_kept (buffer : Option Nat) : Kept world (world.getTx program buffer) := by
  unfold World.getTx
  split
  · exact ⟨rfl, rfl⟩
  · exact giveUp_kept

theorem discards_kept (buffer : Option Nat) : Kept world (world.discards program buffer) := by
  unfold World.discards
  split
  · exact ⟨rfl, rfl⟩
  · exact giveUp_kept

theorem sendReturned_kept (status : Int) : Kept world (world.sendReturned program status) := by
  unfold World.sendReturned
  split
  · exact giveUp_kept
  · dsimp only
    split <;> exact ⟨rfl, rfl⟩

theorem releaseTxReturned_kept (status : Int) :
    Kept world (world.releaseTxReturned program status) := by
  unfold World.releaseTxReturned
  split
  · exact giveUp_kept
  · exact ⟨rfl, rfl⟩

/-- The end of a poll changes nothing about the buffers, or it checks the recorded one. -/
theorem polled_cases :
    ((world.waits program = true ∨ world.eptDeleted = true) ∧ Kept world (world.polled program)) ∨
      (world.waits program = false ∧ world.eptDeleted = false ∧ Exists fun expNum =>
        Kept (world.rpmsgCheckRcvMsg expNum) (world.polled program)) := by
  unfold World.polled
  by_cases waiting : world.waits program = true
  · rw [if_pos waiting]
    exact Or.inl ⟨Or.inl waiting, rfl, rfl⟩
  · rw [if_neg waiting]
    by_cases deleted : world.eptDeleted = true
    · rw [if_pos deleted]
      exact Or.inl ⟨Or.inr deleted, quit_kept⟩
    · rw [if_neg deleted]
      refine Or.inr ⟨eq_false_of_ne_true waiting, eq_false_of_ne_true deleted,
        asSize (world.expectRnum - 1) % 2 ^ 32, ?_⟩
      dsimp only
      split
      · exact ⟨rfl, rfl⟩
      · exact nextPayload_kept _ _

/-- Only the callback and the check touch the buffers. -/
theorem step_cases {event : Event} (moved : step program world event = some next) :
    (Alternating program world event ∧ Kept world next) ∨
      (Exists fun buffer => Exists fun len => event = Event.receives buffer len ∧
        next = world.rpmsgEndpointCb buffer len) ∨
      (event = Event.pollReturns ∧ world.waits program = false ∧ world.eptDeleted = false ∧
        Exists fun expNum => Kept (world.rpmsgCheckRcvMsg expNum) next) := by
  cases event with
  | createEpt status =>
      rcases Option.ite_none_right_eq_some.mp moved with ⟨_, ⟨⟩⟩
      exact Or.inl ⟨trivial, createEpt_kept status⟩
  | ready txBufferSize =>
      rcases Option.ite_none_right_eq_some.mp moved with ⟨_, ⟨⟩⟩
      exact Or.inl ⟨trivial, ready_kept txBufferSize⟩
  | reserves lost released =>
      rcases Option.ite_none_right_eq_some.mp moved with ⟨_, ⟨⟩⟩
      exact Or.inl ⟨trivial, reserves_kept lost released⟩
  | getTx buffer =>
      simp only [step] at moved
      split at moved
      · cases moved
        exact Or.inl ⟨trivial, getTx_kept buffer⟩
      · rcases Option.ite_none_right_eq_some.mp moved with ⟨_, ⟨⟩⟩
        exact Or.inl ⟨trivial, discards_kept buffer⟩
  | sendReturns status =>
      rcases Option.ite_none_right_eq_some.mp moved with ⟨_, ⟨⟩⟩
      exact Or.inl ⟨trivial, sendReturned_kept status⟩
  | releaseTxReturns status =>
      rcases Option.ite_none_right_eq_some.mp moved with ⟨_, ⟨⟩⟩
      exact Or.inl ⟨trivial, releaseTxReturned_kept status⟩
  | pollReturns =>
      rcases Option.ite_none_right_eq_some.mp moved with ⟨_, ⟨⟩⟩
      rcases @polled_cases program world with ⟨goesOn, kept⟩ | checked
      · exact Or.inl ⟨fun _ => goesOn, kept⟩
      · exact Or.inr (Or.inr ⟨rfl, checked⟩)
  | fills buffer contents =>
      rcases Option.ite_none_left_eq_some.mp moved with ⟨_, ⟨⟩⟩
      exact Or.inl ⟨trivial, rfl, rfl⟩
  | receives buffer len =>
      rcases Option.ite_none_right_eq_some.mp moved with ⟨_, ⟨⟩⟩
      exact Or.inr (Or.inl ⟨buffer, len, rfl, rfl⟩)
  | unbinds =>
      rcases Option.ite_none_right_eq_some.mp moved with ⟨_, ⟨⟩⟩
      exact Or.inl ⟨trivial, rfl, rfl⟩
  | binds status =>
      rcases Option.ite_none_right_eq_some.mp moved with ⟨_, ⟨⟩⟩
      exact Or.inl ⟨trivial, rfl, rfl⟩

/-! ## The invariant -/

/-- The tickets are those of the calls that held a buffer. -/
structure Sound (world : World) : Prop where
  owned : Owned world
  tickets : forall hold, hold ∈ world.ledger.acquired ->
    hold.ticket < world.ledger.acquired.length
  known : forall hold, hold ∈ world.ledger.released -> hold ∈ world.ledger.acquired

theorem sound_initial (buffers : Nat -> ByteMemory) : Sound (initial buffers) where
  owned := {
    once := List.nodup_nil
    unmisused := rfl
    recorded := fun _ live => nomatch live.1 }
  tickets := nofun
  known := nofun

theorem Owned.kept (owned : Owned world) (kept : Kept world next) : Owned next where
  once := kept.ledger ▸ owned.once
  unmisused := kept.ledger ▸ owned.unmisused
  recorded := by
    rw [kept.ledger, kept.rcvMsg]
    exact owned.recorded

theorem Kept.symm (kept : Kept world next) : Kept next world where
  ledger := kept.ledger.symm
  rcvMsg := kept.rcvMsg.symm

theorem Sound.kept (sound : Sound world) (kept : Kept world next) : Sound next where
  owned := sound.owned.kept kept
  tickets := kept.ledger ▸ sound.tickets
  known := kept.ledger ▸ sound.known

theorem not_idle_iff : ¬ world.Idle ↔ Exists fun hold => world.ledger.Live hold := by
  simp only [Idle, Ledger.Live, not_forall, exists_prop]

/-- The callback of a message holds its buffer under a new ticket. -/
theorem Sound.fresh (sound : Sound world) (data : Nat) :
    { buffer := data, ticket := world.ledger.acquired.length } ∉ world.ledger.acquired :=
  fun member => Nat.lt_irrefl _ (sound.tickets _ member)

theorem Sound.receives (sound : Sound world) (idle : world.Idle) (data len : Nat) :
    Sound (world.rpmsgEndpointCb data len) where
  owned := {
    once := sound.owned.once
    unmisused := sound.owned.unmisused
    recorded := by
      intro hold live
      rcases List.mem_cons.mp live.1 with rfl | earlier
      · rfl
      · exact absurd (idle hold earlier) live.2 }
  tickets := by
    intro hold member
    rcases List.mem_cons.mp member with rfl | earlier
    · exact Nat.lt_succ_self _
    · exact Nat.lt_succ_of_lt (sound.tickets hold earlier)
  known := fun hold member => List.mem_cons_of_mem _ (sound.known hold member)

theorem Sound.checks (sound : Sound world) (busy : ¬ world.Idle) (expNum : Nat) :
    Sound (world.rpmsgCheckRcvMsg expNum) := by
  rcases not_idle_iff.mp busy with ⟨hold, live⟩
  rcases Option.map_eq_some_iff.mp (sound.owned.recorded hold live) with ⟨msg, recorded, rfl⟩
  simp only [World.rpmsgCheckRcvMsg, recorded, Ledger.release_of_live live]
  exact {
    owned := {
      once := List.nodup_cons.mpr ⟨live.2, sound.owned.once⟩
      unmisused := sound.owned.unmisused
      recorded := by
        rintro other ⟨acquired, kept⟩
        rw [List.mem_cons, not_or] at kept
        have only := sound.owned.recorded other ⟨acquired, kept.2⟩
        rw [recorded] at only
        exact absurd (Option.some.inj only).symm kept.1 }
    tickets := sound.tickets
    known := by
      intro other member
      rcases List.mem_cons.mp member with rfl | earlier
      · exact live.1
      · exact sound.known other earlier }

theorem Sound.step {event : Event} (sound : Sound world)
    (alternating : Alternating program world event)
    (moved : NocopyPing.step program world event = some next) : Sound next := by
  rcases step_cases moved with ⟨_, kept⟩ | ⟨buffer, len, rfl, rfl⟩ |
    ⟨rfl, ended, alive, expNum, kept⟩
  · exact sound.kept kept
  · exact sound.receives alternating buffer len
  · refine (sound.checks (fun idle => ?_) expNum).kept kept
    rcases alternating idle with waiting | deleted
    · exact nomatch waiting.symm.trans ended
    · exact nomatch deleted.symm.trans alive

/-! ## The condition is needed -/

theorem Sound.idle_of_receives (sound : Sound world) {data len : Nat}
    (owned : Owned (world.rpmsgEndpointCb data len)) : world.Idle := by
  by_contra busy
  rcases not_idle_iff.mp busy with ⟨hold, live⟩
  have recorded := owned.recorded hold ⟨List.mem_cons_of_mem _ live.1, live.2⟩
  have same := Option.some.inj recorded
  subst same
  exact sound.fresh data live.1

/-- Without a new message the check releases a buffer for the second time, or none. -/
theorem not_owned_of_check (idle : world.Idle) (expNum : Nat) :
    ¬ Owned (world.rpmsgCheckRcvMsg expNum) := by
  intro owned
  have unmisused := owned.unmisused
  unfold World.rpmsgCheckRcvMsg at unmisused
  split at unmisused
  · exact nomatch unmisused
  · rename_i msg recorded
    have dead : ¬ world.ledger.Live msg.payload := fun live => live.2 (idle _ live.1)
    exact nomatch (Ledger.release_of_dead dead).symm.trans unmisused

theorem Sound.alternating {event : Event} (sound : Sound world)
    (moved : NocopyPing.step program world event = some next) (owned : Owned next) :
    Alternating program world event := by
  rcases step_cases moved with ⟨met, _⟩ | ⟨buffer, len, rfl, rfl⟩ | ⟨rfl, _, _, expNum, kept⟩
  · exact met
  · exact sound.idle_of_receives owned
  · exact fun idle => absurd (owned.kept kept.symm) (not_owned_of_check idle expNum)

/-! ## Runs -/

/-- The buffers are owned throughout exactly if messages and checks alternate. Both programs are
covered, for every contents of the buffers and every outcome of the calls. The condition is on
the state before a step and on the test of the program's own loop: it asks when a message comes,
not what becomes of its buffer. -/
theorem owned_iff_alternating (program : Program) (buffers : Nat -> ByteMemory)
    (schedule : List Event) :
    Always Owned (NocopyPing.step program) (initial buffers) schedule ↔
      Guarded (Alternating program) (NocopyPing.step program) (initial buffers) schedule :=
  always_iff_guarded Sound (fun _ sound => sound.owned)
    (fun _ _ _ sound alternating moved => sound.step alternating moved)
    (fun _ _ _ sound moved owned => sound.alternating moved owned) schedule
    (sound_initial buffers)

/-- The memory of a payload with that number and no data -/
def numbered (num : Nat) : ByteMemory :=
  ByteMemory.writeLong (fun _ => 0) 0 num

/-- The first payload is sent, and its echo is awaited. -/
def firstSent : Program -> List Event
  | Program.nocopyEcho =>
      [Event.createEpt 0, Event.ready 32, Event.getTx (some 0), Event.sendReturns 0]
  | Program.tests =>
      [Event.createEpt 0, Event.ready 32, Event.reserves (some 9) true, Event.getTx (some 0),
        Event.sendReturns 0, Event.getTx (some 1), Event.releaseTxReturns 0]

/-- A message is received and checked, and nothing is received after the next payload. -/
def onceReceived : List Event :=
  [Event.receives 0 17, Event.pollReturns, Event.getTx (some 0), Event.sendReturns 0,
    Event.pollReturns]

/-- Two messages in one poll make the program forget the buffer of the first one.  After a
number that is too high, or in the second program after an error, the next check releases
the same buffer again. -/
theorem not_owned :
    ¬ Always Owned (NocopyPing.step Program.nocopyEcho) (initial fun _ => numbered 0)
        (firstSent Program.nocopyEcho ++ [Event.receives 0 17, Event.receives 1 17]) ∧
      ¬ Always Owned (NocopyPing.step Program.nocopyEcho) (initial fun _ => numbered 1)
        (firstSent Program.nocopyEcho ++ onceReceived) ∧
      ¬ Always Owned (NocopyPing.step Program.tests) (initial fun _ => numbered 0)
        (firstSent Program.tests ++ onceReceived) := by
  refine ⟨?_, ?_, ?_⟩
  · intro always
    have forgotten := (always.last rfl).recorded { buffer := 0, ticket := 0 } (by decide)
    exact nomatch forgotten
  · intro always
    exact absurd (always.last rfl).unmisused (by decide)
  · intro always
    exact absurd (always.last rfl).unmisused (by decide)

end World
end NocopyPing
end OpenAmpReference
