import OpenAmpReference.Library.Transition
import OpenAmpReference.Library.ByteMemory
import Mathlib.Logic.Function.Basic
import Mathlib.Data.List.Basic

namespace OpenAmpReference
namespace Zephyr

/-!
# A responder thread and its single-slot mailboxes

The tty and the raw service of `rpmsg_multi_services` have the same shape.  A
receive callback holds the transport's buffer, records it in the slot of the
endpoint and gives a semaphore that counts to one.  The responder takes the
semaphore, answers what the slots record, releases the buffers and clears every
slot.  The threads are cooperative, so a callback runs in one step; the
responder may be descheduled inside `rpmsg_send()`, and each of its statements
that touches a slot is a step.  What the two services do differently is
collected in `Service`.
-/

/-- A receive buffer of the virtqueue and what the transport has put there. -/
structure RxBuffer where
  address : Nat
  bytes : List UInt8
  deriving DecidableEq, Repr

/-- `struct rpmsg_rcv_msg`; a null `data` is `none`. -/
structure RcvMsg where
  data : Option RxBuffer
  len : Nat
  src : UInt32
  deriving DecidableEq, Repr

/-- A message as the transport hands it to a receive callback. -/
structure Message where
  data : RxBuffer
  src : UInt32
  deriving DecidableEq, Repr

/-- What a responder passes to `rpmsg_sendto()`, or without a destination to
`rpmsg_send()`. -/
structure Reply where
  dest : Option UInt32
  bytes : List UInt8
  deriving DecidableEq, Repr

/-- The statements that set up the endpoints of a service. -/
inductive Setup
  | setPriv (ept : Nat)
  | createEpt (ept : Nat)
  deriving DecidableEq, Repr

def Setup.ept : Setup -> Nat
  | .setPriv ept => ept
  | .createEpt ept => ept

/-- What distinguishes the tty from the raw service. -/
structure Service where
  /- `MAX_TTY_EPT`, `MAX_RAW_EPT` -/
  maxEpt : Nat
  setup : List Setup
  /- The endpoint that `new_service_cb()` creates. -/
  newService : Option Nat
  /- Where in the reply the received data starts. -/
  dataOffset : Nat
  /- What `snprintf()` writes before the data. -/
  label : Nat -> List UInt8
  /- Whether the callback records the sender and the reply goes to it. -/
  repliesToSource : Bool
  label_length : forall ept, (label ept).length = dataOffset
  setup_lt : forall statement, statement ∈ setup -> statement.ept < maxEpt
  newService_lt : forall ept, newService = some ept -> ept < maxEpt

def asciis (characters : List Char) : List UInt8 :=
  characters.map (fun character => UInt8.ofNat character.toNat)

/-- `snprintf(tx_buff, 8, "TTY %d: ", i)`, without the terminating NUL. -/
def ttyLabel (i : Nat) : List UInt8 :=
  (asciis (['T', 'T', 'Y', ' '] ++ Nat.toDigits 10 i ++ [':', ' '])).take 7

/-- `snprintf(buff, 18, "from ept 0x%04x: ", raw_ept[i].addr)`, without the
terminating NUL. -/
def rawLabel (addr : UInt32) : List UInt8 :=
  (asciis (['f', 'r', 'o', 'm', ' ', 'e', 'p', 't', ' ', '0', 'x'] ++
    List.leftpad 4 '0' (Nat.toDigits 16 addr.toNat) ++ [':', ' '])).take 17

theorem ttyLabel_length (i : Nat) : (ttyLabel i).length = 7 := by
  have digits : 0 < (Nat.toDigits 10 i).length := Nat.length_toDigits_pos
  simp only [ttyLabel, asciis, List.length_take, List.length_map, List.length_append,
    List.length_cons, List.length_nil]
  omega

theorem rawLabel_length (addr : UInt32) : (rawLabel addr).length = 17 := by
  have padded : 4 ≤ (List.leftpad 4 '0' (Nat.toDigits 16 addr.toNat)).length := by
    simp only [List.leftpad, List.length_append, List.length_replicate]
    omega
  simp only [rawLabel, asciis, List.length_take, List.length_map, List.length_append,
    List.length_cons, List.length_nil]
  omega

/-- `app_rpmsg_tty()`, `rpmsg_recv_tty_callback()` and `new_service_cb()`. -/
def Service.tty : Service where
  maxEpt := 2
  setup := [.setPriv 0, .createEpt 0]
  newService := some 1
  dataOffset := 7
  label := ttyLabel
  repliesToSource := false
  label_length := ttyLabel_length
  setup_lt := by decide
  newService_lt := by
    intro ept named
    cases named
    decide

/-- `app_rpmsg_raw()` and `rpmsg_recv_raw_callback()`; the transport chooses the
address of the first endpoint, the second asks for `0x1`. -/
def Service.raw (addr : UInt32) : Service where
  maxEpt := 2
  setup := [.setPriv 0, .createEpt 0, .createEpt 1, .setPriv 1]
  newService := none
  dataOffset := 17
  label := fun i => rawLabel (if i = 0 then addr else 0x1)
  repliesToSource := true
  label_length := fun _ => rawLabel_length _
  setup_lt := by decide
  newService_lt := by
    intro ept named
    cases named

/-- One endpoint of a service.  `received`, `released` and `sent` are the
history of the transport's calls and of the responder's. -/
structure Endpoint where
  created : Bool
  /- `ept.priv` points to the slot. -/
  priv : Bool
  slot : RcvMsg
  held : List RxBuffer
  received : List Message
  released : List RxBuffer
  sent : List Reply
  deriving DecidableEq, Repr

/-- Before the responder's statements on endpoint `i`. -/
inductive Pc
  | start
  | setup (rest : List Setup)
  | wait
  | check (i : Nat)
  | reply (i : Nat)
  | release (i : Nat)
  | clearLen (i : Nat)
  | clearData (i : Nat)
  deriving DecidableEq, Repr

/-- A service at run time.  `fault` records an access outside the objects of
the program: through an unset pointer, or past the end of `tx_buff`. -/
structure Responder where
  pc : Pc
  sem : Bool
  txBuff : ByteMemory
  ept : Nat -> Endpoint
  fault : Bool

inductive Event
  | receive (ept : Nat) (message : Message)
  | newService
  | run
  deriving DecidableEq, Repr

namespace Endpoint

def initial : Endpoint where
  created := false
  priv := false
  slot := { data := none, len := 0, src := 0 }
  held := []
  received := []
  released := []
  sent := []

/-- `rpmsg_hold_rx_buffer()` and the recording of the message. -/
def record (service : Service) (endpoint : Endpoint) (message : Message) : Endpoint :=
  { endpoint with
    held := endpoint.held ++ [message.data]
    received := endpoint.received ++ [message]
    slot := {
      data := some message.data
      len := message.data.bytes.length
      src := if service.repliesToSource then message.src else endpoint.slot.src } }

/-- `rpmsg_release_rx_buffer()` -/
def releaseRxBuffer (endpoint : Endpoint) (data : RxBuffer) : Endpoint :=
  { endpoint with
    held := endpoint.held.erase data
    released := endpoint.released ++ [data] }

end Endpoint

namespace Responder

/-- All semaphores have been given once when the services start. -/
def initial (txBuff : ByteMemory) : Responder where
  pc := .start
  sem := true
  txBuff := txBuff
  ept := fun _ => Endpoint.initial
  fault := false

def update (responder : Responder) (i : Nat) (endpoint : Endpoint) : Responder :=
  { responder with ept := Function.update responder.ept i endpoint }

@[simp] theorem update_pc (responder : Responder) (i : Nat) (endpoint : Endpoint) :
    (responder.update i endpoint).pc = responder.pc := rfl

@[simp] theorem update_ept (responder : Responder) (i : Nat) (endpoint : Endpoint) :
    (responder.update i endpoint).ept i = endpoint :=
  Function.update_self _ _ _

/-- `rpmsg_recv_tty_callback()`, `rpmsg_recv_raw_callback()` -/
def recvCallback (service : Service) (responder : Responder) (i : Nat) (message : Message) :
    Responder :=
  if (responder.ept i).priv then
    { responder.update i ((responder.ept i).record service message) with sem := true }
  else
    { responder with fault := true }

/-- The size of `tx_buff` and of `buff`. -/
def txBuffSize : Nat := 512

/-- The label and its NUL, then the data over the NUL. -/
def compose (service : Service) (txBuff : ByteMemory) (i : Nat) (data : RxBuffer) (len : Nat) :
    ByteMemory :=
  (txBuff.writeBytes 0 (service.label i ++ [0])).writeBytes service.dataOffset (data.bytes.take len)

/-- The reply is one byte longer than the label and the data. -/
def replyLength (service : Service) (len : Nat) : Nat :=
  len + (service.dataOffset + 1)

variable (accepts : Nat -> Bool)

/-- `snprintf()`, `memcpy()` and `rpmsg_send()`.  Its result is not checked: a
reply that the transport does not accept is dropped. -/
def sendReply (service : Service) (responder : Responder) (i : Nat) : Responder :=
  match (responder.ept i).slot.data with
  | none => { responder with fault := true }
  | some data =>
      if txBuffSize < replyLength service (responder.ept i).slot.len then
        { responder with fault := true }
      else
        { responder.update i
            { responder.ept i with
              sent := (responder.ept i).sent ++
                if accepts (replyLength service (responder.ept i).slot.len) then
                  [{ dest := if service.repliesToSource then some (responder.ept i).slot.src else none
                     bytes := (compose service responder.txBuff i data
                       (responder.ept i).slot.len).readBytes 0 (replyLength service (responder.ept i).slot.len) }]
                else [] } with
          pc := .release i
          txBuff := compose service responder.txBuff i data (responder.ept i).slot.len }

/-- One step of the responder thread; `none` while it is blocked. -/
def runStep (service : Service) (responder : Responder) : Option Responder :=
  match responder.pc with
  | .start =>
      if responder.sem then
        some { responder with sem := false, pc := .setup service.setup }
      else none
  | .setup (.setPriv i :: rest) =>
      some { responder.update i { responder.ept i with priv := true } with pc := .setup rest }
  | .setup (.createEpt i :: rest) =>
      some { responder.update i { responder.ept i with created := true } with pc := .setup rest }
  | .setup [] => some { responder with pc := .wait }
  | .wait =>
      if responder.sem then
        some { responder with sem := false, pc := .check 0 }
      else none
  | .check i =>
      if (responder.ept i).slot.len ≠ 0 then some { responder with pc := .reply i }
      else some { responder with pc := .clearLen i }
  | .reply i => some (responder.sendReply accepts service i)
  | .release i =>
      match (responder.ept i).slot.data with
      | none => some { responder with fault := true }
      | some data =>
          some { responder.update i ((responder.ept i).releaseRxBuffer data) with pc := .clearLen i }
  | .clearLen i =>
      some { responder.update i
          { responder.ept i with slot := { (responder.ept i).slot with len := 0 } } with
        pc := .clearData i }
  | .clearData i =>
      some { responder.update i
          { responder.ept i with slot := { (responder.ept i).slot with data := none } } with
        pc := if i + 1 < service.maxEpt then .check (i + 1) else .wait }

def step (service : Service) (responder : Responder) : Event -> Option Responder
  | .receive i message =>
      if (responder.ept i).created then some (responder.recvCallback service i message) else none
  | .newService =>
      match service.newService with
      | none => none
      | some i =>
          if (responder.ept i).created then none
          else some (responder.update i { responder.ept i with priv := true, created := true })
  | .run => responder.runStep accepts service

end Responder
end Zephyr
end OpenAmpReference
