import Mathlib.Algebra.BigOperators.Intervals
import OpenAmpReference.Library.ByteMemory
import OpenAmpReference.Library.Transition

namespace OpenAmpReference
namespace Sessions

/-!
# The services that are started again and again

Under FreeRTOS the echo and the matrix service run in a loop that creates the
virtio device, runs the service until it is told to stop, and releases the
device.  `shutdown_req` is set by the callbacks and is never cleared, so it
outlives the session in which it was set.
-/

/-- `SHUTDOWN_MSG` -/
def shutdownMsg : Nat := 0xEF56A55A

/-! ## What the services compute -/

/-- `MAX_SIZE` -/
def maxSize : Nat := 6

structure Matrix where
  size : Nat
  elements : Nat -> Nat -> Nat

namespace Matrix

/-- The layout of a `matrix` in memory: the size, and the elements row by row. -/
def read (memory : ByteMemory) (address : Nat) : Matrix where
  size := memory.readWord address
  elements := fun i j => memory.readWord (address + 4 + 4 * (maxSize * i + j))

def bytes (matrix : Matrix) : List UInt8 :=
  ByteMemory.bytesOfWord matrix.size ++
    (List.range (maxSize * maxSize)).flatMap fun place =>
      ByteMemory.bytesOfWord (matrix.elements (place / maxSize) (place % maxSize))

/-- `r->elements[i][j]` after the first rounds of the innermost loop -/
def accumulate (m n : Matrix) (i j : Nat) : Nat -> Nat
  | 0 => 0
  | k + 1 => (accumulate m n i j k + m.elements i k * n.elements k j % 2 ^ 32) % 2 ^ 32

/-- `Matrix_Multiply()` -/
def multiply (m n : Matrix) : Matrix where
  size := m.size
  elements := fun i j => if i < m.size ∧ j < n.size then accumulate m n i j m.size else 0

theorem accumulate_eq (m n : Matrix) (i j rounds : Nat) :
    accumulate m n i j rounds =
      (∑ k ∈ Finset.range rounds, m.elements i k * n.elements k j) % 2 ^ 32 := by
  induction rounds with
  | zero => rfl
  | succ rounds inductionHypothesis =>
      rw [accumulate, inductionHypothesis, Finset.sum_range_succ, Nat.add_mod]
      simp only [Nat.mod_mod]
      rw [← Nat.add_mod]

/-- The loops compute the product modulo `2 ^ 32`. -/
theorem multiply_elements {m n : Matrix} {i j : Nat} (row : i < m.size) (column : j < n.size) :
    (multiply m n).elements i j =
      (∑ k ∈ Finset.range m.size, m.elements i k * n.elements k j) % 2 ^ 32 := by
  simp only [multiply, if_pos (And.intro row column), accumulate_eq]

/-- `sizeof(matrix)` -/
def byteCount : Nat := 4 + 4 * (maxSize * maxSize)

theorem bytes_length (matrix : Matrix) : matrix.bytes.length = byteCount := by
  rfl

end Matrix

inductive Service
  | echo
  | matrix
  deriving DecidableEq, Repr

namespace Service

/-- The callback can take the message: two whole matrices of at most the maximal size. -/
def wellFormed : Service -> ByteMemory -> Nat -> Bool
  | echo, _, _ => true
  | matrix, memory, len =>
      len == 2 * Matrix.byteCount && decide ((Matrix.read memory 0).size ≤ maxSize) &&
        decide ((Matrix.read memory Matrix.byteCount).size ≤ maxSize)

/-- What is sent back for a message. -/
def reply : Service -> ByteMemory -> Nat -> List UInt8
  | echo, memory, len => memory.readBytes 0 len
  | matrix, memory, _ =>
      ((Matrix.read memory 0).multiply (Matrix.read memory Matrix.byteCount)).bytes

end Service

/-! ## The loop of `rpmsg_listen_task()` -/

/-- Where the task is.  A message that the callback cannot take leaves its
behaviour undefined. -/
inductive Phase
  | createVdev
  | createEpt
  | poll
  | destroyEpt
  | releaseVdev
  | deleted
  | undefined
  deriving DecidableEq, Repr

/-- A well-formed message, with the session it was delivered in. -/
structure Delivery where
  session : Nat
  memory : ByteMemory
  len : Nat

/-- A call of `rpmsg_send()`, with the session whose endpoint it was made on. -/
structure Reply where
  endpoint : Option Nat
  bytes : List UInt8
  deriving DecidableEq, Repr

/-- The task, with a record of the messages and of the requests to stop. -/
structure World where
  shutdownReq : Bool
  lept : Option Nat
  phase : Phase
  session : Nat
  stopReceived : Bool
  earlierStop : Bool
  delivered : List Delivery
  replies : List Reply

namespace World

def initial : World where
  shutdownReq := false
  lept := none
  phase := Phase.createVdev
  session := 0
  stopReceived := false
  earlierStop := false
  delivered := []
  replies := []

/-- `rpmsg_endpoint_cb()` of a service.  The result of `rpmsg_send()` is only printed. -/
def rpmsgEndpointCb (service : Service) (world : World) (memory : ByteMemory) (len : Nat) :
    World :=
  if memory.readWord 0 = shutdownMsg then { world with shutdownReq := true }
  else if service.wellFormed memory len then
    { world with
      replies := world.replies ++
        [{ endpoint := world.lept, bytes := service.reply memory len }] }
  else { world with phase := Phase.undefined }

/-- A message that is delivered while the task polls. -/
def deliver (service : Service) (world : World) (memory : ByteMemory) (len : Nat) : World :=
  let recorded :=
    if memory.readWord 0 = shutdownMsg then { world with stopReceived := true }
    else if service.wellFormed memory len then
      { world with
        delivered := world.delivered ++
          [{ session := world.session, memory := memory, len := len }] }
    else world
  rpmsgEndpointCb service recorded memory len

/-- `rpmsg_service_unbind()` -/
def rpmsgServiceUnbind (world : World) : World :=
  { world with shutdownReq := true, stopReceived := true }

/-- A new session, with a device of its own. -/
def vdevCreated (world : World) (ok : Bool) : World :=
  if ok then
    { world with
      phase := Phase.createEpt
      session := world.session + 1
      stopReceived := false
      earlierStop := world.earlierStop || world.stopReceived }
  else { world with phase := Phase.deleted }

def eptCreated (world : World) (ok : Bool) : World :=
  if ok then { world with phase := Phase.poll, lept := some world.session }
  else { world with phase := Phase.releaseVdev }

/-- `platform_poll()` returns, and the loop is left if a shutdown is requested. -/
def polled (world : World) : World :=
  if world.shutdownReq then { world with phase := Phase.destroyEpt } else world

end World

inductive Event
  | vdevCreated (ok : Bool)
  | eptCreated (ok : Bool)
  | deliver (memory : ByteMemory) (len : Nat)
  | unbind
  | pollReturns
  | eptDestroyed
  | vdevReleased

open World in
def step (service : Service) (world : World) (event : Event) : Option World :=
  match event, world.phase with
  | Event.vdevCreated ok, Phase.createVdev => some (world.vdevCreated ok)
  | Event.eptCreated ok, Phase.createEpt => some (world.eptCreated ok)
  | Event.deliver memory len, Phase.poll => some (deliver service world memory len)
  | Event.unbind, Phase.poll => some world.rpmsgServiceUnbind
  | Event.pollReturns, Phase.poll => some world.polled
  | Event.eptDestroyed, Phase.destroyEpt =>
      some { world with phase := Phase.releaseVdev, lept := none }
  | Event.vdevReleased, Phase.releaseVdev => some { world with phase := Phase.createVdev }
  | _, _ => none

namespace World

/-- The loop is left only after a request to stop in the same session, and every
message is answered on the endpoint of its session. -/
structure Survives (service : Service) (world : World) : Prop where
  leaves : world.phase = Phase.destroyEpt -> world.stopReceived = true
  answers : world.replies = world.delivered.map fun message =>
    { endpoint := some message.session, bytes := service.reply message.memory message.len }
  alive : world.phase = Phase.poll -> world.lept = some world.session

/-- If an earlier session was told to stop, so has this one been when its poll returns. -/
def StopsAfresh (world : World) (event : Event) : Prop :=
  match event with
  | Event.pollReturns => world.earlierStop = true -> world.stopReceived = true
  | _ => True

instance stopsAfreshDecidable (world : World) :
    (event : Event) -> Decidable (StopsAfresh world event)
  | Event.pollReturns =>
      inferInstanceAs (Decidable (world.earlierStop = true -> world.stopReceived = true))
  | Event.vdevCreated _ | Event.eptCreated _ | Event.deliver _ _ | Event.unbind
  | Event.eptDestroyed | Event.vdevReleased => isTrue trivial

/-- The flag remembers the stops of all sessions. -/
structure Remembers (service : Service) (world : World) : Prop where
  survives : Survives service world
  remembered : world.shutdownReq = (world.earlierStop || world.stopReceived)

theorem remembers_initial (service : Service) : Remembers service initial where
  survives := { leaves := nofun, answers := rfl, alive := nofun }
  remembered := rfl

section Steps

variable {service : Service} {world next : World}

theorem step_pollReturns (moved : step service world Event.pollReturns = some next) :
    world.phase = Phase.poll ∧ next = world.polled := by
  cases place : world.phase with
  | poll =>
      simp only [step, place, Option.some.injEq] at moved
      exact ⟨rfl, moved.symm⟩
  | createVdev | createEpt | destroyEpt | releaseVdev | deleted | undefined =>
      simp only [step, place, reduceCtorEq] at moved

/-- A step that keeps the record, to a phase where nothing has to be shown. -/
theorem Remembers.goto (remembers : Remembers service world) {phase : Phase} (lept : Option Nat)
    (leaves : phase = Phase.destroyEpt -> world.stopReceived = true)
    (alive : phase = Phase.poll -> lept = some world.session) :
    Remembers service { world with phase := phase, lept := lept } where
  survives := { leaves := leaves, answers := remembers.survives.answers, alive := alive }
  remembered := remembers.remembered

theorem Remembers.stop (remembers : Remembers service world) :
    Remembers service world.rpmsgServiceUnbind where
  survives := { leaves := fun _ => rfl, answers := remembers.survives.answers,
                alive := remembers.survives.alive }
  remembered := (Bool.or_true _).symm

theorem Remembers.delivers (remembers : Remembers service world)
    (atPoll : world.phase = Phase.poll) (memory : ByteMemory) (len : Nat) :
    Remembers service (deliver service world memory len) := by
  unfold deliver rpmsgEndpointCb
  by_cases shutdown : memory.readWord 0 = shutdownMsg
  · simp only [if_pos shutdown]
    exact remembers.stop
  · by_cases proper : service.wellFormed memory len = true
    · simp only [if_neg shutdown, if_pos proper]
      refine { survives := { remembers.survives with answers := ?_ },
               remembered := remembers.remembered }
      rw [List.map_append, remembers.survives.answers, remembers.survives.alive atPoll]
      rfl
    · simp only [if_neg shutdown, if_neg proper]
      exact remembers.goto world.lept nofun nofun

/-- The loop is left when any session so far has been told to stop. -/
theorem polled_phase (remembers : Remembers service world) (atPoll : world.phase = Phase.poll) :
    world.polled.phase = Phase.destroyEpt ↔
      world.earlierStop = true ∨ world.stopReceived = true := by
  unfold polled
  rw [remembers.remembered, ← Bool.or_eq_true]
  split
  · simp only [true_iff]
    assumption
  · simp only [atPoll, reduceCtorEq, false_iff]
    assumption

theorem Remembers.polls (remembers : Remembers service world) (atPoll : world.phase = Phase.poll)
    (afresh : world.earlierStop = true -> world.stopReceived = true) :
    Remembers service world.polled := by
  have leaves := (polled_phase remembers atPoll).mp
  unfold polled at leaves ⊢
  split
  · rename_i requested
    rw [if_pos requested] at leaves
    exact remembers.goto world.lept (fun _ => (leaves rfl).elim afresh id) nofun
  · exact remembers

/-- Every step keeps the record if a poll that returns finds a stop of its own session. -/
theorem Remembers.step (remembers : Remembers service world) {event : Event}
    (afresh : StopsAfresh world event) (moved : Sessions.step service world event = some next) :
    Remembers service next := by
  cases event with
  | vdevCreated ok =>
      cases place : world.phase with
      | createVdev =>
          simp only [Sessions.step, place, Option.some.injEq] at moved
          cases moved
          cases ok with
          | false => exact remembers.goto world.lept nofun nofun
          | true =>
              exact {
                survives := { leaves := nofun, answers := remembers.survives.answers,
                              alive := nofun }
                remembered := remembers.remembered.trans (Bool.or_false _).symm }
      | createEpt | poll | destroyEpt | releaseVdev | deleted | undefined =>
          simp only [Sessions.step, place, reduceCtorEq] at moved
  | eptCreated ok =>
      cases place : world.phase with
      | createEpt =>
          simp only [Sessions.step, place, Option.some.injEq] at moved
          cases moved
          cases ok with
          | false => exact remembers.goto world.lept nofun nofun
          | true => exact remembers.goto (some world.session) nofun fun _ => rfl
      | createVdev | poll | destroyEpt | releaseVdev | deleted | undefined =>
          simp only [Sessions.step, place, reduceCtorEq] at moved
  | deliver memory len =>
      cases place : world.phase with
      | poll =>
          simp only [Sessions.step, place, Option.some.injEq] at moved
          exact moved ▸ remembers.delivers place memory len
      | createVdev | createEpt | destroyEpt | releaseVdev | deleted | undefined =>
          simp only [Sessions.step, place, reduceCtorEq] at moved
  | unbind =>
      cases place : world.phase with
      | poll =>
          simp only [Sessions.step, place, Option.some.injEq] at moved
          exact moved ▸ remembers.stop
      | createVdev | createEpt | destroyEpt | releaseVdev | deleted | undefined =>
          simp only [Sessions.step, place, reduceCtorEq] at moved
  | pollReturns =>
      rcases step_pollReturns moved with ⟨place, rfl⟩
      exact remembers.polls place afresh
  | eptDestroyed =>
      cases place : world.phase with
      | destroyEpt =>
          simp only [Sessions.step, place, Option.some.injEq] at moved
          exact moved ▸ remembers.goto none nofun nofun
      | createVdev | createEpt | poll | releaseVdev | deleted | undefined =>
          simp only [Sessions.step, place, reduceCtorEq] at moved
  | vdevReleased =>
      cases place : world.phase with
      | releaseVdev =>
          simp only [Sessions.step, place, Option.some.injEq] at moved
          exact moved ▸ remembers.goto world.lept nofun nofun
      | createVdev | createEpt | poll | destroyEpt | deleted | undefined =>
          simp only [Sessions.step, place, reduceCtorEq] at moved

/-- A poll after which the service has survived found a stop of its own session. -/
theorem Remembers.stopsAfresh (remembers : Remembers service world) {event : Event}
    (moved : Sessions.step service world event = some next) (survives : Survives service next) :
    StopsAfresh world event := by
  cases event with
  | pollReturns =>
      rcases step_pollReturns moved with ⟨place, rfl⟩
      intro earlier
      have left := (polled_phase remembers place).mpr (Or.inl earlier)
      have stopped := survives.leaves left
      unfold polled at stopped
      split at stopped <;> exact stopped
  | vdevCreated | eptCreated | deliver | unbind | eptDestroyed | vdevReleased => trivial

end Steps

open Transition

/-- A service survives its restarts exactly as long as no poll returns in a session that has not
been told to stop after an earlier one has. The sessions are any number, each with any messages;
the condition looks at nothing but the requests to stop, as `shutdown_req` is the one variable
that the next session finds as it was. -/
theorem survives_iff_stopsAfresh (service : Service) (schedule : List Event) :
    Always (Survives service) (step service) initial schedule ↔
      Guarded StopsAfresh (step service) initial schedule :=
  always_iff_guarded (Remembers service) (fun _ remembers => remembers.survives)
    (fun _ _ _ remembers => remembers.step) (fun _ _ _ remembers => remembers.stopsAfresh)
    schedule (remembers_initial service)

/-- The shutdown word in a buffer. -/
def shutdownBuffer : ByteMemory :=
  ByteMemory.writeWord (fun _ => 0) 0 shutdownMsg

/-- The first session is told to stop, and the second one only polls. -/
def restarted : List Event :=
  [Event.vdevCreated true, Event.eptCreated true, Event.deliver shutdownBuffer 4,
   Event.pollReturns, Event.eptDestroyed, Event.vdevReleased,
   Event.vdevCreated true, Event.eptCreated true, Event.pollReturns]

/-- The second session leaves its loop after one poll that brought nothing. -/
theorem restarted_leaves (service : Service) :
    (run (step service) initial restarted).map
        (fun world => (world.session, world.phase, world.stopReceived)) =
      some (2, Phase.destroyEpt, false) := by
  cases service <;> decide

theorem not_survives_of_left {service : Service} {schedule : List Event} {session : Nat}
    (ran : (run (step service) initial schedule).map
        (fun world => (world.session, world.phase, world.stopReceived)) =
      some (session, Phase.destroyEpt, false)) :
    ¬ Always (Survives service) (step service) initial schedule := by
  intro always
  rcases Option.map_eq_some_iff.mp ran with ⟨final, reached, summary⟩
  cases final
  cases summary
  exact nomatch (always.last reached).leaves rfl

/-- Neither service survives its first restart. -/
theorem restart_not_survived :
    ¬ Always (Survives Service.echo) (step Service.echo) initial restarted ∧
      ¬ Always (Survives Service.matrix) (step Service.matrix) initial restarted :=
  ⟨not_survives_of_left (restarted_leaves Service.echo),
    not_survives_of_left (restarted_leaves Service.matrix)⟩

end World
end Sessions
end OpenAmpReference
