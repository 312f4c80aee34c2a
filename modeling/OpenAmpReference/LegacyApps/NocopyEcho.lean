import Mathlib.Logic.Function.Basic
import OpenAmpReference.Library.ByteMemory
import OpenAmpReference.Library.LinkedHeap
import OpenAmpReference.Library.Transition

namespace OpenAmpReference
namespace NocopyEcho

open LinkedHeap

/-!
# The echo servers that hold their receive buffers

The callback holds the receive buffer of a message and puts a node for it into
`rpmsg_list`; the loop of `app()` sends the data back out of the buffer, releases
it, and frees the node.  The server in `tests/msg` also takes and discards a
transmit buffer from time to time, and leaves the loop when this fails.

The model keeps a record of what has been accepted, held, sent, released,
allocated and freed, which the servers do not read.
-/

/-- `SHUTDOWN_MSG` -/
def shutdownMsg : Nat := 0xEF56A55A

/-- `struct rpmsg_rcv_msg`, with the number of the message instead of the link. -/
structure RcvMsg where
  data : Nat
  len : Nat
  ticket : Nat
  deriving DecidableEq, Repr

/-- The contents of a message, with its number. -/
structure Message where
  ticket : Nat
  bytes : List UInt8
  deriving DecidableEq, Repr

/-- Where `app()` is.  The calls of the library are places of their own, as the
callback may run inside them. -/
inductive Pc where
  | poll
  | drain
  | send (message : RcvMsg)
  | release
  | getTx
  | releaseTx
  | dequeue
  | returned
  | fault
  deriving DecidableEq, Repr

/-- The library may call the endpoint's callbacks. -/
def Pc.listening : Pc -> Bool
  | poll => true
  | send _ => true
  | getTx => true
  | _ => false

structure World where
  heap : Heap RcvMsg
  rpmsgList : Option Nat
  buffers : Nat -> ByteMemory
  held : List Nat
  shutdownReq : Bool
  i : Nat
  lost : Option Nat
  pc : Pc
  probeFailed : Bool
  accepted : List Message
  echoed : List Message
  holds : List RcvMsg
  releases : List RcvMsg
  allocations : List Nat
  frees : List Nat

namespace World

/-- The server before its first poll. -/
def initial (buffers : Nat -> ByteMemory) (i : Nat) (lost : Option Nat) : World where
  heap := ∅
  rpmsgList := none
  buffers := buffers
  held := []
  shutdownReq := false
  i := i
  lost := lost
  pc := Pc.poll
  probeFailed := false
  accepted := []
  echoed := []
  holds := []
  releases := []
  allocations := []
  frees := []

/-- What the buffer of a node holds. -/
def messageOf (buffers : Nat -> ByteMemory) (message : RcvMsg) : Message where
  ticket := message.ticket
  bytes := (buffers message.data).readBytes 0 message.len

/-- `rpmsg_endpoint_cb()`, where `node` is the result of the allocation -/
def rpmsgEndpointCb (world : World) (data len : Nat) (node : Option Nat) : World :=
  if (world.buffers data).readWord 0 = shutdownMsg then { world with shutdownReq := true }
  else
    match node with
    | none => world
    | some address =>
        let message : RcvMsg := { data := data, len := len, ticket := world.accepted.length }
        match append world.heap world.rpmsgList address message with
        | none => { world with pc := Pc.fault }
        | some (heap, list) =>
            { world with
              heap := heap
              rpmsgList := list
              held := world.held ++ [data]
              accepted := world.accepted ++ [messageOf world.buffers message]
              holds := world.holds ++ [message]
              allocations := world.allocations ++ [address] }

/-- The library puts a message into a buffer that is not held and calls the callback. -/
def deliver (world : World) (data : Nat) (payload : List UInt8) (node : Option Nat) : World :=
  let written := (world.buffers data).writeBytes 0 payload
  { world with buffers := Function.update world.buffers data written }.rpmsgEndpointCb
    data payload.length node

/-- `rpmsg_service_unbind()` -/
def rpmsgServiceUnbind (world : World) : World :=
  { world with shutdownReq := true }

/-- `platform_poll()` returns. -/
def polled (world : World) : World :=
  { world with pc := if world.shutdownReq then Pc.returned else Pc.drain }

/-- `while (rpmsg_list)`, and the arguments of `rpmsg_send()` -/
def drain (world : World) : World :=
  match world.rpmsgList with
  | none => { world with pc := Pc.poll }
  | some first =>
      match world.heap.lookup first with
      | none => { world with pc := Pc.fault }
      | some cell => { world with pc := Pc.send cell.value }

/-- `rpmsg_send()` returns. -/
def sendReturned (world : World) (message : RcvMsg) (ok : Bool) : World :=
  if ok then
    { world with
      echoed := world.echoed ++ [messageOf world.buffers message]
      pc := Pc.release }
  else { world with pc := Pc.returned }

/-- `rpmsg_release_rx_buffer()`, and whether a transmit buffer is taken next -/
def releaseRx (probes : Nat -> Bool) (world : World) : World :=
  match world.rpmsgList.bind world.heap.lookup with
  | none => { world with pc := Pc.fault }
  | some cell =>
      { world with
        held := world.held.erase cell.value.data
        releases := world.releases ++ [cell.value]
        i := world.i + 1
        pc := if probes world.i then Pc.getTx else Pc.dequeue }

/-- The `break` of a probe that fails -/
def leaveDrain (world : World) : World :=
  { world with pc := Pc.poll, probeFailed := true }

/-- `rpmsg_get_tx_payload_buffer()` returns. -/
def gotTx (world : World) (buffer : Option Nat) : World :=
  if buffer = none ∨ buffer = world.lost then world.leaveDrain
  else { world with pc := Pc.releaseTx }

/-- `rpmsg_release_tx_buffer()` returns. -/
def releasedTx (world : World) (ok : Bool) : World :=
  if ok then { world with pc := Pc.dequeue } else world.leaveDrain

/-- The node is unlinked and freed. -/
def dequeueNode (world : World) : World :=
  match LinkedHeap.dequeue world.heap world.rpmsgList with
  | none => { world with pc := Pc.fault }
  | some (heap, list) =>
      { world with
        heap := heap
        rpmsgList := list
        frees := world.frees ++ world.rpmsgList.toList
        pc := Pc.drain }

end World

/-- The next thing that happens: the server moves on by itself, or a call of the
library delivers something or returns. -/
inductive Event where
  | advance
  | deliver (data : Nat) (payload : List UInt8) (node : Option Nat)
  | unbind
  | pollReturns
  | sendReturns (ok : Bool)
  | txBuffer (buffer : Option Nat)
  | txReleased (ok : Bool)
  deriving DecidableEq, Repr

/-- The allocator does not return a live node. -/
def Fresh (heap : Heap RcvMsg) (node : Option Nat) : Prop :=
  forall address, node = some address -> address ∉ heap

instance freshDecidable (heap : Heap RcvMsg) : (node : Option Nat) -> Decidable (Fresh heap node)
  | none => isTrue fun _ none => nomatch none
  | some place =>
      decidable_of_iff (place ∉ heap.keys)
        ⟨fun absent _ same => Option.some.inj same ▸ absent, fun fresh => fresh place rfl⟩

open World in
/-- One step of a server, where `probes` says for which `i` it takes a transmit buffer. -/
def step (probes : Nat -> Bool) (world : World) (event : Event) : Option World :=
  match event, world.pc with
  | Event.deliver data payload node, pc =>
      if pc.listening ∧ data ∉ world.held ∧ Fresh world.heap node then
        some (world.deliver data payload node)
      else none
  | Event.unbind, pc => if pc.listening then some world.rpmsgServiceUnbind else none
  | Event.pollReturns, Pc.poll => some world.polled
  | Event.advance, Pc.drain => some world.drain
  | Event.sendReturns ok, Pc.send message => some (world.sendReturned message ok)
  | Event.advance, Pc.release => some (releaseRx probes world)
  | Event.txBuffer buffer, Pc.getTx => some (world.gotTx buffer)
  | Event.txReleased ok, Pc.releaseTx => some (world.releasedTx ok)
  | Event.advance, Pc.dequeue => some world.dequeueNode
  | _, _ => none

open World in
/-- The server moves on by itself at three places. -/
theorem step_advance {probes : Nat -> Bool} {world next : World}
    (moved : step probes world Event.advance = some next) :
    (world.pc = Pc.drain ∧ next = world.drain) ∨
      (world.pc = Pc.release ∧ next = releaseRx probes world) ∨
      (world.pc = Pc.dequeue ∧ next = world.dequeueNode) := by
  cases place : world.pc with
  | drain =>
      simp only [step, place, Option.some.injEq] at moved
      exact Or.inl ⟨rfl, moved.symm⟩
  | release =>
      simp only [step, place, Option.some.injEq] at moved
      exact Or.inr (Or.inl ⟨rfl, moved.symm⟩)
  | dequeue =>
      simp only [step, place, Option.some.injEq] at moved
      exact Or.inr (Or.inr ⟨rfl, moved.symm⟩)
  | poll | send | getTx | releaseTx | returned | fault =>
      simp only [step, place, reduceCtorEq] at moved

/-- `examples/nocopy_echo` -/
def nocopyEcho : World -> Event -> Option World :=
  step fun _ => false

/-- `tests/msg`, where a transmit buffer is taken every 13 messages -/
def testNocopyEcho : World -> Event -> Option World :=
  step fun i => i % 13 == 0

end NocopyEcho
end OpenAmpReference
