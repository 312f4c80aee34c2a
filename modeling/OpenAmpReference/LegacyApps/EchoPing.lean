import Mathlib.Algebra.Group.Int.Defs
import OpenAmpReference.Library.ByteMemory
import OpenAmpReference.Library.Transition

namespace OpenAmpReference
namespace EchoPing

/-!
# The echo test

The ping side sends payloads of growing size and waits for the echo of each one before
it goes on; the echo side sends back all that it receives, unless the first word is the
shutdown word.  A step is a call of one of the two programs, a callback within
`platform_poll()`, or the end of such a poll; the channel is a queue in each direction.
Integers are 32 bits wide, `unsigned long` and `size_t` 64 bits, little-endian.
-/

/-- A conversion to `size_t` or to `unsigned long` -/
def asSize (value : Int) : Nat :=
  (value % 2 ^ 64).toNat

/-- A conversion to `int` -/
def asInt (value : Nat) : Int :=
  if value % 2 ^ 32 < 2 ^ 31 then (value % 2 ^ 32 : Nat) else (value % 2 ^ 32 : Nat) - 2 ^ 32

/-- `sizeof(struct _payload)`, which is also `2 * sizeof(unsigned long)` -/
def sizeofPayload : Nat := 16

def payloadMinSize : Int := 1

def shutdownMsg : Nat := 0xEF56A55A

/-- What fills the data of a payload -/
def marker : UInt8 := 0xA5

/-- `max_size` after `max_size -= sizeof(struct _payload)` -/
def maxSize (txBufferSize : Int) : Int :=
  asInt (asSize (txBufferSize - sizeofPayload))

def numPayloads (txBufferSize : Int) : Int :=
  maxSize txBufferSize - payloadMinSize + 1

/-- The size of `i_payload`, as `metal_allocate_memory()` takes it in an `unsigned int` -/
def payloadMemory (txBufferSize : Int) : Nat :=
  asSize (sizeofPayload + maxSize txBufferSize) % 2 ^ 32

/-- The length that is passed to `rpmsg_send()` for so many bytes of data -/
def sendLength (size : Int) : Int :=
  asInt (asSize (sizeofPayload + asSize size))

/-- `i_payload` before it is sent -/
def fillPayload (memory : ByteMemory) (i size : Int) : ByteMemory :=
  ((memory.writeLong 0 (asSize i)).writeLong 8 (asSize size)).writeBytes 16
    (List.replicate (asSize size) marker)

inductive Stage
  | start
  | allocate
  | awaitReady
  | sending
  | polling
  | ended
  | failed
  deriving DecidableEq, Repr

inductive ServerStage
  | starting
  | serving
  | stopped
  deriving DecidableEq, Repr

structure World where
  stage : Stage
  lept : Bool
  eptDeleted : Bool
  ret : Int
  i : Int
  size : Int
  expectRnum : Int
  rnum : Int
  errCnt : Int
  iPayload : ByteMemory
  allocated : Nat
  sent : List (List UInt8)
  echoed : List (List UInt8)
  toServer : List (List UInt8)
  toPing : List (List UInt8)
  server : ServerStage
  shutdownReq : Bool
  shutdownMessages : List (List UInt8)

namespace World

def initial : World where
  stage := Stage.start
  lept := false
  eptDeleted := false
  ret := 0
  i := 0
  size := 0
  expectRnum := 0
  rnum := 0
  errCnt := 0
  iPayload := fun _ => 0
  allocated := 0
  sent := []
  echoed := []
  toServer := []
  toPing := []
  server := ServerStage.starting
  shutdownReq := false
  shutdownMessages := []

/-! ## The ping side -/

/-- The start of `app()`, with the result of `rpmsg_create_ept()` -/
def createEpt (txBufferSize : Int) (world : World) (status : Int) : World :=
  if status ≠ 0 then { world with stage := Stage.failed, ret := status }
  else if txBufferSize ≤ 0 then { world with stage := Stage.failed, ret := status }
  else { world with stage := Stage.allocate, lept := true, ret := status }

/-- The result of `metal_allocate_memory()` -/
def allocate (txBufferSize : Int) (world : World) (memory : Option ByteMemory) : World :=
  match memory with
  | none => { world with stage := Stage.failed, lept := false }
  | some contents =>
      { world with
        stage := Stage.awaitReady
        iPayload := contents
        allocated := payloadMemory txBufferSize }

/-- The end of `app()` after the loop -/
def quit (world : World) : World :=
  { world with stage := Stage.ended, lept := false }

/-- The test of the `for` loop, and its body up to `rpmsg_send()` -/
def nextPayload (txBufferSize : Int) (world : World) (i size : Int) : World :=
  if i < numPayloads txBufferSize then
    { world with
      stage := Stage.sending
      i := i
      size := size
      iPayload := fillPayload world.iPayload i size }
  else { world with i := i, size := size }.quit

/-- The bytes that `rpmsg_send()` takes -/
def message (world : World) : List UInt8 :=
  world.iPayload.readBytes 0 (sendLength world.size).toNat

/-- `rpmsg_send()` returns. -/
def sendReturned (world : World) (status : Int) : World :=
  if status < 0 then { world with ret := status }.quit
  else
    { world with
      stage := Stage.polling
      ret := status
      sent := world.sent ++ [world.message]
      toServer := world.toServer ++ [world.message]
      expectRnum := world.expectRnum + 1 }

/-- The condition of the inner loop -/
def waits (world : World) : Bool :=
  world.rnum < world.expectRnum && world.errCnt == 0 && !world.eptDeleted

/-- Whether a byte of the received data is not the marker -/
def corrupted (data : ByteMemory) (size : Nat) : Bool :=
  (List.range (asInt size).toNat).any fun i => data (16 + i) != marker

/-- `rpmsg_endpoint_cb()` of the ping side -/
def pingEndpointCb (world : World) (data : ByteMemory) : World :=
  if data.readLong 8 = 0 then { world with errCnt := world.errCnt + 1 }
  else
    { world with
      errCnt := if corrupted data (data.readLong 8) then world.errCnt + 1 else world.errCnt
      rnum := asInt ((data.readLong 0 + 1) % 2 ^ 64) }

/-- A message is handed to the endpoint, if there is still one. -/
def deliver (world : World) (bytes : List UInt8) (buffer : ByteMemory) : World :=
  if world.lept then
    { world with echoed := world.echoed ++ [bytes] }.pingEndpointCb (buffer.writeBytes 0 bytes)
  else world

/-- `rpmsg_service_unbind()` of the ping side -/
def unbind (world : World) : World :=
  { world with lept := false, eptDeleted := true }

/-! ## The echo side -/

/-- `rpmsg_endpoint_cb()` of the echo side -/
def echoEndpointCb (world : World) (data : ByteMemory) (length : Nat) (status : Int) : World :=
  if data.readWord 0 = shutdownMsg then
    { world with
      shutdownReq := true
      shutdownMessages := world.shutdownMessages ++ [data.readBytes 0 length] }
  else if status < 0 then world
  else { world with toPing := world.toPing ++ [data.readBytes 0 length] }

/-- A message is handed to the endpoint of the echo side, if there is one. -/
def serverReceives (world : World) (bytes : List UInt8) (buffer : ByteMemory)
    (status : Int) : World :=
  if world.server = ServerStage.serving then
    world.echoEndpointCb (buffer.writeBytes 0 bytes) bytes.length status
  else world

end World

inductive Event
  | createEpt (status : Int)
  | allocate (memory : Option ByteMemory)
  | ready
  | sendReturns (status : Int)
  | deliver (buffer : ByteMemory)
  | unbind
  | pollReturns
  | serverCreateEpt (status : Int)
  | serverReceives (buffer : ByteMemory) (status : Int)
  | serverUnbind
  | serverPollReturns

/-- The ping side is in `platform_poll()`. -/
def Stage.polls (stage : Stage) : Prop :=
  stage = Stage.awaitReady ∨ stage = Stage.polling

instance (stage : Stage) : Decidable stage.polls :=
  inferInstanceAs (Decidable (_ ∨ _))

open World in
/-- A send succeeds only through an endpoint that is not destroyed. -/
def step (txBufferSize : Int) (world : World) (event : Event) : Option World :=
  match event with
  | Event.createEpt status =>
      if world.stage = Stage.start then some (createEpt txBufferSize world status) else none
  | Event.allocate memory =>
      if world.stage = Stage.allocate then some (allocate txBufferSize world memory) else none
  | Event.ready =>
      if world.stage = Stage.awaitReady ∧ world.lept = true then
        some (nextPayload txBufferSize world 0 payloadMinSize)
      else none
  | Event.sendReturns status =>
      if world.stage = Stage.sending ∧ (status < 0 ∨ world.lept = true) then
        some (world.sendReturned status)
      else none
  | Event.deliver buffer =>
      match world.toPing with
      | [] => none
      | bytes :: rest =>
          if world.stage.polls then some ({ world with toPing := rest }.deliver bytes buffer)
          else none
  | Event.unbind =>
      if world.stage.polls ∧ world.lept = true then some world.unbind else none
  | Event.pollReturns =>
      if world.stage = Stage.polling then
        if world.waits then some world
        else some (nextPayload txBufferSize world (world.i + 1) (world.size + 1))
      else if world.stage = Stage.awaitReady then some world
      else none
  | Event.serverCreateEpt status =>
      if world.server = ServerStage.starting then
        some { world with
          server := if status = 0 then ServerStage.serving else ServerStage.stopped }
      else none
  | Event.serverReceives buffer status =>
      match world.toServer with
      | [] => none
      | bytes :: rest => some ({ world with toServer := rest }.serverReceives bytes buffer status)
  | Event.serverUnbind => some { world with shutdownReq := true }
  | Event.serverPollReturns =>
      if world.server = ServerStage.serving ∧ world.shutdownReq = true then
        some { world with server := ServerStage.stopped }
      else some world

namespace World

/-- What holds of the test in every state: at most one payload is in flight, each one
fits the transmit buffer and `i_payload`, none is taken for the shutdown word, and if the
loop has ended without an unbind and without a failure of `rpmsg_send()`, payloads of all
sizes have been sent and echoed. -/
structure Sound (txBufferSize : Int) (world : World) : Prop where
  oneInFlight : (world.toServer ++ world.toPing).length ≤ 1
  fits : forall bytes, bytes ∈ world.sent ->
    (bytes.length : Int) ≤ txBufferSize ∧ bytes.length ≤ world.allocated
  noShutdown : world.shutdownMessages = []
  complete : world.stage = Stage.ended -> world.eptDeleted = false -> 0 ≤ world.ret ->
    world.sent.map List.length =
        (List.range (txBufferSize - sizeofPayload).toNat).map (fun i => sizeofPayload + (i + 1)) ∧
      world.echoed = world.sent ∧ world.rnum = world.expectRnum ∧ world.errCnt = 0

/-! ## The arithmetic of the sizes -/

variable {txBufferSize : Int}

theorem maxSize_eq (positive : 0 < txBufferSize) (bounded : txBufferSize < 2 ^ 31) :
    maxSize txBufferSize = txBufferSize - 16 := by
  unfold maxSize asInt asSize sizeofPayload
  omega

theorem numPayloads_eq (positive : 0 < txBufferSize) (bounded : txBufferSize < 2 ^ 31) :
    numPayloads txBufferSize = txBufferSize - 16 := by
  rw [numPayloads, maxSize_eq positive bounded, payloadMinSize, Int.sub_add_cancel]

theorem payloadMemory_eq (positive : 0 < txBufferSize) (bounded : txBufferSize < 2 ^ 31) :
    (payloadMemory txBufferSize : Int) = txBufferSize := by
  rw [payloadMemory, maxSize_eq positive bounded]
  unfold asSize sizeofPayload
  omega

theorem asSize_of_nat {value : Nat} (small : value < 2 ^ 64) : asSize value = value := by
  unfold asSize
  omega

theorem asInt_of_small {value : Nat} (small : value < 2 ^ 31) : asInt value = value := by
  unfold asInt
  omega

theorem sendLength_eq {size : Nat} (small : size + 16 < 2 ^ 31) :
    sendLength size = (size + 16 : Nat) := by
  rw [sendLength, asSize_of_nat (by omega), sizeofPayload]
  unfold asInt asSize
  omega

/-! ## Payloads -/

/-- The payload of that number: its header and its data, wherever it is received. -/
structure IsPayload (number : Nat) (bytes : List UInt8) : Prop where
  small : number + 17 < 2 ^ 31
  length : bytes.length = sizeofPayload + (number + 1)
  num : forall buffer : ByteMemory, (buffer.writeBytes 0 bytes).readLong 0 = number
  size : forall buffer : ByteMemory, (buffer.writeBytes 0 bytes).readLong 8 = number + 1
  marked : forall (buffer : ByteMemory) (i : Nat), i < number + 1 ->
    buffer.writeBytes 0 bytes (16 + i) = marker

theorem fillPayload_num (memory : ByteMemory) {number size : Nat} (small : number < 2 ^ 64) :
    (fillPayload memory number size).readLong 0 = number := by
  have header : forall i, i < 8 -> fillPayload memory number size (0 + i) =
      memory.writeLong 0 (asSize number) (0 + i) := by
    intro i inside
    rw [fillPayload, ByteMemory.writeBytes_outside _ _ (Or.inl (by omega)),
      ByteMemory.writeLong_of_disjoint _ _ (Or.inl (by omega))]
  rw [ByteMemory.readLong_congr header, ByteMemory.readLong_writeLong_same, asSize_of_nat small,
    Nat.mod_eq_of_lt small]

theorem fillPayload_size (memory : ByteMemory) {number size : Nat} (small : size < 2 ^ 64) :
    (fillPayload memory number size).readLong 8 = size := by
  have header : forall i, i < 8 -> fillPayload memory number size (8 + i) =
      (memory.writeLong 0 (asSize number)).writeLong 8 (asSize size) (8 + i) := by
    intro i inside
    rw [fillPayload, ByteMemory.writeBytes_outside _ _ (Or.inl (by omega))]
  rw [ByteMemory.readLong_congr header, ByteMemory.readLong_writeLong_same, asSize_of_nat small,
    Nat.mod_eq_of_lt small]

theorem fillPayload_data (memory : ByteMemory) {number size i : Nat} (small : size < 2 ^ 64)
    (inside : i < size) : fillPayload memory number size (16 + i) = marker := by
  have within : i < (List.replicate (asSize size) marker).length := by
    rw [List.length_replicate, asSize_of_nat small]
    exact inside
  rw [fillPayload, ByteMemory.writeBytes_inside _ _ _ _ within, List.getElem_replicate]

/-- What is sent is the payload of the number and the size that were filled in. -/
theorem isPayload_fill (memory : ByteMemory) {number : Nat} (small : number + 17 < 2 ^ 31) :
    IsPayload number ((fillPayload memory number (number + 1 : Nat)).readBytes 0
      (sizeofPayload + (number + 1))) where
  small := small
  length := ByteMemory.readBytes_length _ _ _
  num := by
    intro buffer
    rw [ByteMemory.readLong_carried _ _ _ (by rw [sizeofPayload]; omega)]
    exact fillPayload_num memory (by omega)
  size := by
    intro buffer
    rw [ByteMemory.readLong_carried _ _ _ (by rw [sizeofPayload]; omega)]
    exact fillPayload_size memory (by omega)
  marked := by
    intro buffer i inside
    have within : 16 + i < sizeofPayload + (number + 1) := Nat.add_lt_add_left inside 16
    rw [ByteMemory.carried _ _ _ within]
    exact fillPayload_data memory (by omega) inside

variable {world : World} {number : Nat} {bytes : List UInt8}

/-- The ping side finds no error in a payload, and counts it. -/
theorem IsPayload.pingEndpointCb (payload : IsPayload number bytes) (buffer : ByteMemory) :
    world.pingEndpointCb (buffer.writeBytes 0 bytes) = { world with rnum := number + 1 } := by
  have small := payload.small
  have clean : corrupted (buffer.writeBytes 0 bytes) (number + 1) = false := by
    rw [corrupted, asInt_of_small (by omega), List.any_eq_false]
    intro i inside
    rw [payload.marked buffer i (List.mem_range.mp inside), bne_self_eq_false]
    exact Bool.false_ne_true
  have counted : asInt ((number + 1) % 2 ^ 64) = number + 1 := by
    rw [Nat.mod_eq_of_lt (by omega), asInt_of_small (by omega), Int.natCast_succ]
  simp only [World.pingEndpointCb, payload.size, payload.num, Nat.add_one_ne_zero, if_false, clean,
    Bool.false_eq_true, counted]

/-- The first word of a payload is its number. -/
theorem IsPayload.word (payload : IsPayload number bytes) (buffer : ByteMemory) :
    (buffer.writeBytes 0 bytes).readWord 0 = number := by
  have small := payload.small
  rw [ByteMemory.readWord_of_readLong (by rw [payload.num]; omega), payload.num]

theorem IsPayload.noShutdown (payload : IsPayload number bytes) : number ≠ shutdownMsg := by
  have small := payload.small
  rw [shutdownMsg]
  omega

/-- The echo side does not take a payload for the shutdown word; it sends it back, if it
can. -/
theorem IsPayload.serverReceives (payload : IsPayload number bytes) (buffer : ByteMemory)
    (status : Int) : world.serverReceives bytes buffer status = world ∨
      world.serverReceives bytes buffer status =
        { world with toPing := world.toPing ++ [bytes] } := by
  unfold World.serverReceives echoEndpointCb
  rw [payload.word, if_neg payload.noShutdown, ByteMemory.readBytes_writeBytes_same]
  split
  · split
    · exact Or.inl rfl
    · exact Or.inr rfl
  · exact Or.inl rfl

/-! ## The invariant -/

/-- The lengths of the first payloads -/
def lengths (count : Nat) : List Nat :=
  (List.range count).map fun i => sizeofPayload + (i + 1)

/-- The payload that was sent last is on its way to the echo side or back, or its echo has
arrived, or it is lost. -/
inductive Flight (world : World) (number : Nat) (earlier : List (List UInt8))
    (payload : List UInt8) : Prop
  | outbound (toServer : world.toServer = [payload]) (toPing : world.toPing = [])
      (echoed : world.echoed = earlier) (rnum : world.rnum = number)
  | inbound (toServer : world.toServer = []) (toPing : world.toPing = [payload])
      (echoed : world.echoed = earlier) (rnum : world.rnum = number)
  | echoed (toServer : world.toServer = []) (toPing : world.toPing = [])
      (echoed : world.echoed = earlier ++ [payload]) (rnum : world.rnum = number + 1)
  | lost (toServer : world.toServer = []) (toPing : world.toPing = [])
      (echoed : world.echoed = earlier) (rnum : world.rnum = number)

/-- Nothing is sent yet. -/
structure Fresh (world : World) : Prop where
  sent : world.sent = []
  echoed : world.echoed = []
  toServer : world.toServer = []
  toPing : world.toPing = []
  expectRnum : world.expectRnum = 0
  rnum : world.rnum = 0

/-- The loop is at the payload of that number. -/
structure InLoop (txBufferSize : Int) (world : World) (number : Nat) : Prop where
  i : world.i = number
  size : world.size = (number + 1 : Nat)
  room : number + 17 ≤ txBufferSize
  allocated : (world.allocated : Int) = txBufferSize
  endpoint : world.lept = !world.eptDeleted

/-- The payload is filled in, and all earlier ones are echoed unless the endpoint is
destroyed. -/
structure Sending (txBufferSize : Int) (world : World) (number : Nat) : Prop where
  inLoop : InLoop txBufferSize world number
  expectRnum : world.expectRnum = number
  lengths : world.sent.map List.length = lengths number
  filled : IsPayload number world.message
  answered : world.lept = true -> world.toServer = [] ∧ world.toPing = [] ∧
    world.echoed = world.sent ∧ world.rnum = number

/-- The payload is sent. -/
structure Polling (txBufferSize : Int) (world : World) (number : Nat)
    (earlier : List (List UInt8)) (payload : List UInt8) : Prop where
  inLoop : InLoop txBufferSize world number
  expectRnum : world.expectRnum = number + 1
  sent : world.sent = earlier ++ [payload]
  lengths : earlier.map List.length = lengths number
  isPayload : IsPayload number payload
  flight : world.lept = true -> Flight world number earlier payload

/-- What the end of the loop says of a test that went well -/
def Complete (txBufferSize : Int) (world : World) : Prop :=
  world.eptDeleted = false -> 0 ≤ world.ret ->
    world.sent.map List.length = lengths (txBufferSize - sizeofPayload).toNat ∧
      world.echoed = world.sent ∧ world.rnum = world.expectRnum ∧ world.errCnt = 0

def StageOk (txBufferSize : Int) (world : World) : Prop :=
  match world.stage with
  | Stage.start => Fresh world ∧ world.eptDeleted = false
  | Stage.allocate => Fresh world ∧ world.eptDeleted = false ∧ world.lept = true
  | Stage.awaitReady => Fresh world ∧ world.lept = !world.eptDeleted ∧
      (world.allocated : Int) = txBufferSize
  | Stage.sending => Exists fun number => Sending txBufferSize world number
  | Stage.polling => Exists fun number => Exists fun earlier => Exists fun payload =>
      Polling txBufferSize world number earlier payload
  | Stage.ended => Complete txBufferSize world
  | Stage.failed => True

structure Ok (txBufferSize : Int) (world : World) : Prop where
  oneInFlight : (world.toServer ++ world.toPing).length ≤ 1
  payloads : forall bytes, bytes ∈ world.toServer ++ world.toPing ->
    Exists fun number => IsPayload number bytes
  fits : forall bytes, bytes ∈ world.sent ->
    (bytes.length : Int) ≤ txBufferSize ∧ bytes.length ≤ world.allocated
  noShutdown : world.shutdownMessages = []
  noError : world.errCnt = 0
  stage : StageOk txBufferSize world

theorem Ok.sound (ok : Ok txBufferSize world) : Sound txBufferSize world where
  oneInFlight := ok.oneInFlight
  fits := ok.fits
  noShutdown := ok.noShutdown
  complete := by
    intro ended
    have stage := ok.stage
    rw [StageOk, ended] at stage
    exact stage

theorem ok_initial : Ok txBufferSize initial where
  oneInFlight := Nat.zero_le 1
  payloads := nofun
  fits := nofun
  noShutdown := rfl
  noError := rfl
  stage := by
    refine ⟨?_, rfl⟩
    exact { sent := rfl, echoed := rfl, toServer := rfl, toPing := rfl, expectRnum := rfl,
            rnum := rfl }

theorem lengths_succ (count : Nat) :
    lengths (count + 1) = lengths count ++ [sizeofPayload + (count + 1)] := by
  rw [lengths, List.range_succ, List.map_append, List.map_singleton, lengths]

/-! ## The loop -/

/-- The channels and the counters when the loop comes to its next payload -/
theorem Ok.nextPayload (ok : Ok txBufferSize world) (positive : 0 < txBufferSize)
    (bounded : txBufferSize < 2 ^ 31) {count : Nat}
    (room : count = 0 ∨ count + 16 ≤ txBufferSize)
    (allocated : (world.allocated : Int) = txBufferSize)
    (endpoint : world.lept = !world.eptDeleted) (expectRnum : world.expectRnum = count)
    (lengths : world.sent.map List.length = lengths count)
    (answered : world.lept = true -> world.toServer = [] ∧ world.toPing = [] ∧
      world.echoed = world.sent ∧ world.rnum = count) :
    Ok txBufferSize (nextPayload txBufferSize world count (count + 1 : Nat)) := by
  unfold World.nextPayload
  rw [numPayloads_eq positive bounded]
  split
  · rename_i more
    have length := sendLength_eq (by omega : count + 1 + 16 < 2 ^ 31)
    refine { ok with stage := ⟨count, ?_⟩ }
    refine { inLoop := ?_, expectRnum := expectRnum, lengths := lengths, filled := ?_,
             answered := answered }
    · exact { i := rfl, size := rfl, room := by omega, allocated := allocated,
              endpoint := endpoint }
    · have filled := isPayload_fill world.iPayload (by omega : count + 17 < 2 ^ 31)
      rw [message]
      simp only [length, Int.toNat_natCast]
      rw [Nat.add_comm (count + 1) 16]
      exact filled
  · rename_i done
    have all : (txBufferSize - sizeofPayload).toNat = count := by
      rw [sizeofPayload]
      omega
    refine { ok with stage := ?_ }
    intro present _
    have alive : world.lept = true := endpoint.trans (congrArg not present)
    rcases answered alive with ⟨_, _, echoed, rnum⟩
    rw [all]
    exact ⟨lengths, echoed, rnum.trans expectRnum.symm, ok.noError⟩

/-! ## The steps of the ping side -/

theorem Ok.createEpt (ok : Ok txBufferSize world) (atStart : world.stage = Stage.start)
    (status : Int) : Ok txBufferSize (World.createEpt txBufferSize world status) := by
  have stage := ok.stage
  rw [StageOk, atStart] at stage
  unfold World.createEpt
  split
  · exact { ok with stage := trivial }
  · split
    · exact { ok with stage := trivial }
    · exact { ok with stage := ⟨{ stage.1 with }, stage.2, rfl⟩ }

theorem Ok.allocate (ok : Ok txBufferSize world) (positive : 0 < txBufferSize)
    (bounded : txBufferSize < 2 ^ 31) (atAllocate : world.stage = Stage.allocate)
    (memory : Option ByteMemory) : Ok txBufferSize (World.allocate txBufferSize world memory) := by
  have stage := ok.stage
  rw [StageOk, atAllocate] at stage
  rcases stage with ⟨fresh, present, alive⟩
  cases memory with
  | none => exact { ok with stage := trivial }
  | some contents =>
      have endpoint : world.lept = !world.eptDeleted := by rw [alive, present, Bool.not_false]
      have nothing : forall bytes, bytes ∈ world.sent -> (bytes.length : Int) ≤ txBufferSize ∧
          bytes.length ≤ payloadMemory txBufferSize := by
        rw [fresh.sent]
        nofun
      exact { ok with
        fits := nothing
        stage := ⟨{ fresh with }, endpoint, payloadMemory_eq positive bounded⟩ }

theorem Ok.ready (ok : Ok txBufferSize world) (positive : 0 < txBufferSize)
    (bounded : txBufferSize < 2 ^ 31) (awaits : world.stage = Stage.awaitReady) :
    Ok txBufferSize (World.nextPayload txBufferSize world 0 payloadMinSize) := by
  have stage := ok.stage
  rw [StageOk, awaits] at stage
  rcases stage with ⟨fresh, endpoint, allocated⟩
  refine @Ok.nextPayload _ _ ok positive bounded 0 (Or.inl rfl) allocated endpoint
    fresh.expectRnum ?_ ?_
  · rw [fresh.sent]
    rfl
  · intro _
    exact ⟨fresh.toServer, fresh.toPing, fresh.echoed.trans fresh.sent.symm, fresh.rnum⟩

theorem Ok.sends (ok : Ok txBufferSize world) (atSend : world.stage = Stage.sending)
    {status : Int} (endpoint : status < 0 ∨ world.lept = true) :
    Ok txBufferSize (world.sendReturned status) := by
  have stage := ok.stage
  rw [StageOk, atSend] at stage
  rcases stage with ⟨number, sending⟩
  unfold sendReturned
  split
  · rename_i failed
    exact { ok with stage := fun _ succeeded => absurd failed (Int.not_lt.mpr succeeded) }
  · rename_i succeeded
    have alive := endpoint.resolve_left succeeded
    rcases sending.answered alive with ⟨toServer, toPing, echoed, rnum⟩
    have outbound : world.toServer ++ [world.message] = [world.message] := by
      rw [toServer, List.nil_append]
    have channels : (world.toServer ++ [world.message]) ++ world.toPing = [world.message] := by
      rw [outbound, toPing, List.append_nil]
    have length := sending.filled.length
    have room := sending.inLoop.room
    have allocated := sending.inLoop.allocated
    rw [sizeofPayload] at length
    exact {
      oneInFlight := Nat.le_of_eq (congrArg List.length channels)
      payloads := by
        intro bytes flying
        cases List.mem_singleton.mp (channels ▸ flying)
        exact ⟨number, sending.filled⟩
      fits := by
        intro bytes listed
        rcases List.mem_append.mp listed with before | last
        · exact ok.fits bytes before
        · cases List.mem_singleton.mp last
          show (world.message.length : Int) ≤ txBufferSize ∧
            world.message.length ≤ world.allocated
          omega
      noShutdown := ok.noShutdown
      noError := ok.noError
      stage := by
        refine ⟨number, world.sent, world.message, ?_⟩
        exact {
          inLoop := { sending.inLoop with }
          expectRnum := congrArg (fun count => count + 1) sending.expectRnum
          sent := rfl
          lengths := sending.lengths
          isPayload := sending.filled
          flight := fun _ => Flight.outbound outbound toPing echoed rnum } }

theorem Ok.pollReturns (ok : Ok txBufferSize world) (positive : 0 < txBufferSize)
    (bounded : txBufferSize < 2 ^ 31) (polls : world.stage = Stage.polling)
    (goesOn : ¬ world.waits = true) :
    Ok txBufferSize (World.nextPayload txBufferSize world (world.i + 1) (world.size + 1)) := by
  have stage := ok.stage
  rw [StageOk, polls] at stage
  rcases stage with ⟨number, earlier, payload, polling⟩
  have room := polling.inLoop.room
  have next := @Ok.nextPayload _ _ ok positive bounded (number + 1) (Or.inr (by omega))
    polling.inLoop.allocated polling.inLoop.endpoint polling.expectRnum ?_ ?_
  · rw [polling.inLoop.i, polling.inLoop.size]
    exact next
  · rw [polling.sent, List.map_append, polling.lengths, lengths_succ, List.map_singleton,
      polling.isPayload.length]
  · intro alive
    have present : world.eptDeleted = false := by
      rw [← Bool.not_eq_true', ← polling.inLoop.endpoint]
      exact alive
    have behind : ¬ world.rnum < world.expectRnum := by
      intro less
      simp only [waits, less, decide_true, ok.noError, beq_self_eq_true, present, Bool.and_self,
        Bool.not_false, not_true_eq_false] at goesOn
    rw [polling.expectRnum] at behind
    cases polling.flight alive with
    | outbound toServer toPing echoed rnum => omega
    | inbound toServer toPing echoed rnum => omega
    | echoed toServer toPing echoed rnum =>
        exact ⟨toServer, toPing, echoed.trans polling.sent.symm, rnum⟩
    | lost toServer toPing echoed rnum => omega

theorem Ok.unbind (ok : Ok txBufferSize world) (polls : world.stage.polls) :
    Ok txBufferSize world.unbind := by
  have stage := ok.stage
  rcases polls with awaits | polling
  · rw [StageOk, awaits] at stage
    refine { ok with stage := ?_ }
    rw [StageOk, World.unbind, awaits]
    exact ⟨{ stage.1 with }, rfl, stage.2.2⟩
  · rw [StageOk, polling] at stage
    rcases stage with ⟨number, earlier, payload, polls⟩
    refine { ok with stage := ?_ }
    rw [StageOk, World.unbind, polling]
    refine ⟨number, earlier, payload, ?_⟩
    exact { polls with inLoop := { polls.inLoop with endpoint := rfl }, flight := nofun }

/-- The only payload in flight is the one that arrives. -/
theorem Ok.alone (ok : Ok txBufferSize world) {rest : List (List UInt8)}
    (arrives : world.toPing = bytes :: rest) : world.toServer = [] ∧ rest = [] := by
  have one := ok.oneInFlight
  rw [arrives, List.length_append, List.length_cons] at one
  exact ⟨List.eq_nil_of_length_eq_zero (by omega), List.eq_nil_of_length_eq_zero (by omega)⟩

/-- The payload in flight is taken out of its queue. -/
theorem Ok.taken (ok : Ok txBufferSize world) (toServer : world.toServer = [])
    {echoed : List (List UInt8)} {rnum : Int}
    (stage : StageOk txBufferSize
      { world with toPing := [], echoed := echoed, rnum := rnum }) :
    Ok txBufferSize { world with toPing := [], echoed := echoed, rnum := rnum } := by
  have nothing : world.toServer ++ [] = [] := by rw [toServer, List.append_nil]
  exact {
    oneInFlight := Nat.le_succ_of_le (Nat.le_of_eq (congrArg List.length nothing))
    payloads := fun bytes flying => nomatch nothing ▸ flying
    fits := ok.fits
    noShutdown := ok.noShutdown
    noError := ok.noError
    stage := stage }

theorem Ok.delivers (ok : Ok txBufferSize world) {rest : List (List UInt8)}
    (arrives : world.toPing = bytes :: rest) (polls : world.stage.polls) (buffer : ByteMemory) :
    Ok txBufferSize ({ world with toPing := rest }.deliver bytes buffer) := by
  rcases ok.alone arrives with ⟨toServer, rfl⟩
  have stage := ok.stage
  rcases polls with awaits | atPolling
  · rw [StageOk, awaits] at stage
    exact nomatch arrives.symm.trans stage.1.toPing
  · rw [StageOk, atPolling] at stage
    rcases stage with ⟨number, earlier, payload, polling⟩
    unfold deliver
    split
    · rename_i alive
      cases polling.flight alive with
      | outbound _ toPing _ _ => exact nomatch arrives.symm.trans toPing
      | echoed _ toPing _ _ => exact nomatch arrives.symm.trans toPing
      | lost _ toPing _ _ => exact nomatch arrives.symm.trans toPing
      | inbound _ toPing echoed _ =>
          cases arrives.symm.trans toPing
          rw [polling.isPayload.pingEndpointCb]
          refine ok.taken toServer ?_
          rw [StageOk, atPolling]
          refine ⟨number, earlier, bytes, ?_⟩
          exact {
            inLoop := { polling.inLoop with }
            expectRnum := polling.expectRnum
            sent := polling.sent
            lengths := polling.lengths
            isPayload := polling.isPayload
            flight := fun _ =>
              Flight.echoed toServer rfl (congrArg (fun l => l ++ [bytes]) echoed) rfl }
    · rename_i destroyed
      refine ok.taken toServer ?_
      rw [StageOk, atPolling]
      refine ⟨number, earlier, payload, ?_⟩
      exact { polling with
        inLoop := { polling.inLoop with }
        flight := fun alive => absurd alive destroyed }

/-! ## The steps of the echo side -/

/-- A payload that leaves the queue to the echo side is lost, or it is sent back. -/
theorem Ok.serverReceives (ok : Ok txBufferSize world) {rest : List (List UInt8)}
    (arrives : world.toServer = bytes :: rest) (buffer : ByteMemory) (status : Int) :
    Ok txBufferSize ({ world with toServer := rest }.serverReceives bytes buffer status) := by
  have one := ok.oneInFlight
  rw [arrives, List.cons_append, List.length_cons, List.length_append] at one
  have alone : rest = [] := List.eq_nil_of_length_eq_zero (by omega)
  have toPing : world.toPing = [] := List.eq_nil_of_length_eq_zero (by omega)
  subst alone
  rcases ok.payloads bytes (by rw [arrives]; exact List.mem_cons_self ..) with ⟨number, payload⟩
  have channels : Exists fun back : List (List UInt8) => (back = [] ∨ back = [bytes]) ∧
      { world with toServer := [] }.serverReceives bytes buffer status =
        { world with toServer := [], toPing := back } := by
    rcases @IsPayload.serverReceives { world with toServer := [] } _ _ payload buffer status with
      kept | sentBack
    · exact ⟨[], Or.inl rfl, by rw [kept, ← toPing]⟩
    · refine ⟨[bytes], Or.inr rfl, ?_⟩
      rw [sentBack]
      simp only [toPing, List.nil_append]
  rcases channels with ⟨back, backOr, done⟩
  have short : back.length ≤ 1 := by
    rcases backOr with rfl | rfl
    · exact Nat.zero_le 1
    · exact Nat.le_refl 1
  rw [done]
  exact {
    oneInFlight := short
    payloads := by
      intro other flying
      rcases backOr with rfl | rfl
      · exact nomatch flying
      · cases List.mem_singleton.mp flying
        exact ⟨number, payload⟩
    fits := ok.fits
    noShutdown := ok.noShutdown
    noError := ok.noError
    stage := by
      have stage := ok.stage
      have notFresh : ¬ Fresh world := fun fresh => nomatch arrives.symm.trans fresh.toServer
      cases place : world.stage with
      | start =>
          rw [StageOk, place] at stage
          exact absurd stage.1 notFresh
      | allocate =>
          rw [StageOk, place] at stage
          exact absurd stage.1 notFresh
      | awaitReady =>
          rw [StageOk, place] at stage
          exact absurd stage.1 notFresh
      | sending =>
          simp only [StageOk, place] at stage ⊢
          rcases stage with ⟨current, sending⟩
          refine ⟨current, { sending with inLoop := { sending.inLoop with }, answered := ?_ }⟩
          exact fun alive => nomatch arrives.symm.trans (sending.answered alive).1
      | polling =>
          simp only [StageOk, place] at stage ⊢
          rcases stage with ⟨current, earlier, last, polling⟩
          refine ⟨current, earlier, last,
            { polling with inLoop := { polling.inLoop with }, flight := ?_ }⟩
          intro alive
          cases polling.flight alive with
          | outbound toServer _ echoed rnum =>
              cases arrives.symm.trans toServer
              rcases backOr with rfl | rfl
              · exact Flight.lost rfl rfl echoed rnum
              · exact Flight.inbound rfl rfl echoed rnum
          | inbound toServer _ _ _ => exact nomatch arrives.symm.trans toServer
          | echoed toServer _ _ _ => exact nomatch arrives.symm.trans toServer
          | lost toServer _ _ _ => exact nomatch arrives.symm.trans toServer
      | ended =>
          simp only [StageOk, place] at stage ⊢
          exact stage
      | failed => simp only [StageOk] }

/-- What happens on the echo side besides does not concern the ping side. -/
theorem Ok.server (ok : Ok txBufferSize world) (server : ServerStage) (shutdownReq : Bool) :
    Ok txBufferSize { world with server := server, shutdownReq := shutdownReq } where
  oneInFlight := ok.oneInFlight
  payloads := ok.payloads
  fits := ok.fits
  noShutdown := ok.noShutdown
  noError := ok.noError
  stage := by
    have stage := ok.stage
    cases place : world.stage with
    | start =>
        simp only [StageOk, place] at stage ⊢
        exact ⟨{ stage.1 with }, stage.2⟩
    | allocate =>
        simp only [StageOk, place] at stage ⊢
        exact ⟨{ stage.1 with }, stage.2⟩
    | awaitReady =>
        simp only [StageOk, place] at stage ⊢
        exact ⟨{ stage.1 with }, stage.2⟩
    | sending =>
        simp only [StageOk, place] at stage ⊢
        rcases stage with ⟨number, sending⟩
        exact ⟨number, { sending with inLoop := { sending.inLoop with } }⟩
    | polling =>
        simp only [StageOk, place] at stage ⊢
        rcases stage with ⟨number, earlier, payload, polling⟩
        refine ⟨number, earlier, payload, { polling with
          inLoop := { polling.inLoop with }
          flight := fun alive => ?_ }⟩
        cases polling.flight alive with
        | outbound toServer toPing echoed rnum =>
            exact Flight.outbound toServer toPing echoed rnum
        | inbound toServer toPing echoed rnum => exact Flight.inbound toServer toPing echoed rnum
        | echoed toServer toPing echoed rnum => exact Flight.echoed toServer toPing echoed rnum
        | lost toServer toPing echoed rnum => exact Flight.lost toServer toPing echoed rnum
    | ended =>
        simp only [StageOk, place] at stage ⊢
        exact stage
    | failed => simp only [StageOk]

/-! ## Runs -/

theorem Ok.step {next : World} {event : Event} (ok : Ok txBufferSize world)
    (positive : 0 < txBufferSize) (bounded : txBufferSize < 2 ^ 31)
    (moved : EchoPing.step txBufferSize world event = some next) : Ok txBufferSize next := by
  cases event with
  | createEpt status =>
      simp only [EchoPing.step, Option.ite_none_right_eq_some, Option.some.injEq] at moved
      exact moved.2 ▸ ok.createEpt moved.1 status
  | allocate memory =>
      simp only [EchoPing.step, Option.ite_none_right_eq_some, Option.some.injEq] at moved
      exact moved.2 ▸ ok.allocate positive bounded moved.1 memory
  | ready =>
      simp only [EchoPing.step, Option.ite_none_right_eq_some, Option.some.injEq] at moved
      exact moved.2 ▸ ok.ready positive bounded moved.1.1
  | sendReturns status =>
      simp only [EchoPing.step, Option.ite_none_right_eq_some, Option.some.injEq] at moved
      exact moved.2 ▸ ok.sends moved.1.1 moved.1.2
  | deliver buffer =>
      cases arrives : world.toPing with
      | nil => simp only [EchoPing.step, arrives, reduceCtorEq] at moved
      | cons bytes rest =>
          simp only [EchoPing.step, arrives, Option.ite_none_right_eq_some,
            Option.some.injEq] at moved
          exact moved.2 ▸ ok.delivers arrives moved.1 buffer
  | unbind =>
      simp only [EchoPing.step, Option.ite_none_right_eq_some, Option.some.injEq] at moved
      exact moved.2 ▸ ok.unbind moved.1.1
  | pollReturns =>
      simp only [EchoPing.step] at moved
      split at moved
      · rename_i polls
        split at moved
        · exact Option.some.inj moved ▸ ok
        · rename_i goesOn
          exact Option.some.inj moved ▸ ok.pollReturns positive bounded polls goesOn
      · split at moved
        · exact Option.some.inj moved ▸ ok
        · exact nomatch moved
  | serverCreateEpt status =>
      simp only [EchoPing.step, Option.ite_none_right_eq_some, Option.some.injEq] at moved
      exact moved.2 ▸ ok.server _ world.shutdownReq
  | serverReceives buffer status =>
      cases arrives : world.toServer with
      | nil => simp only [EchoPing.step, arrives, reduceCtorEq] at moved
      | cons bytes rest =>
          simp only [EchoPing.step, arrives, Option.some.injEq] at moved
          exact moved ▸ ok.serverReceives arrives buffer status
  | serverUnbind =>
      cases moved
      exact ok.server world.server true
  | serverPollReturns =>
      simp only [EchoPing.step] at moved
      split at moved
      · cases moved
        exact ok.server ServerStage.stopped world.shutdownReq
      · exact Option.some.inj moved ▸ ok

open Transition

/-! ## The test can be completed -/

/-- The ping side is about to send a payload, and both endpoints are there. -/
structure Able (txBufferSize : Int) (world : World) (number : Nat) : Prop where
  atSend : world.stage = Stage.sending
  alive : world.lept = true
  serving : world.server = ServerStage.serving
  sending : Sending txBufferSize world number

theorem Ok.able (ok : Ok txBufferSize world) (atSend : world.stage = Stage.sending)
    (alive : world.lept = true) (serving : world.server = ServerStage.serving) :
    Exists fun number : Nat => Able txBufferSize world number ∧ world.i = number := by
  have stage := ok.stage
  rw [StageOk, atSend] at stage
  rcases stage with ⟨number, sending⟩
  exact ⟨number, ⟨atSend, alive, serving, sending⟩, sending.inLoop.i⟩

/-- A payload that is sent, echoed and delivered -/
def round : List Event :=
  [Event.sendReturns 0, Event.serverReceives (fun _ => 0) 0, Event.deliver (fun _ => 0),
    Event.pollReturns]

theorem IsPayload.echoes (payload : IsPayload number bytes) (buffer : ByteMemory)
    (serving : world.server = ServerStage.serving) :
    world.serverReceives bytes buffer 0 = { world with toPing := world.toPing ++ [bytes] } := by
  rw [World.serverReceives, if_pos serving, echoEndpointCb, payload.word,
    if_neg payload.noShutdown, if_neg (by decide), ByteMemory.readBytes_writeBytes_same]

/-- After a round the ping side comes to its next payload. -/
theorem Able.round (able : Able txBufferSize world number) : Exists fun echoed : World =>
    run (step txBufferSize) world EchoPing.World.round =
        some (nextPayload txBufferSize echoed (world.i + 1) (world.size + 1)) ∧
      echoed.lept = true ∧ echoed.server = ServerStage.serving ∧
      echoed.eptDeleted = world.eptDeleted ∧ echoed.ret = 0 := by
  rcases able.sending.answered able.alive with ⟨toServer, toPing, _, _⟩
  have payload := able.sending.filled
  let sent : World := { world with
    stage := Stage.polling
    ret := 0
    sent := world.sent ++ [world.message]
    toServer := [world.message]
    expectRnum := world.expectRnum + 1 }
  have sends : step txBufferSize world (Event.sendReturns 0) = some sent := by
    simp only [step, able.atSend, able.alive, or_true, and_self, if_true, sendReturned,
      Int.lt_irrefl, if_false, toServer, List.nil_append, sent]
  let sentBack : World := { sent with toServer := [], toPing := [world.message] }
  have answers : step txBufferSize sent (Event.serverReceives (fun _ => 0) 0) = some sentBack := by
    have echoes := @IsPayload.echoes { sent with toServer := [] } number world.message payload
      (fun _ => 0) able.serving
    have atFront : { sent with toServer := [] }.toPing ++ [world.message] = [world.message] := by
      show world.toPing ++ [world.message] = [world.message]
      rw [toPing, List.nil_append]
    rw [atFront] at echoes
    exact congrArg some echoes
  let echoed : World := { sentBack with
    toPing := []
    echoed := world.echoed ++ [world.message]
    rnum := number + 1 }
  have delivers : step txBufferSize sentBack (Event.deliver (fun _ => 0)) = some echoed := by
    show (if Stage.polling.polls then
      some ({ sentBack with toPing := [] }.deliver world.message fun _ => 0) else none) = _
    have polls : Stage.polling.polls := Or.inr rfl
    have alive : { sentBack with toPing := [] }.lept = true := able.alive
    rw [if_pos polls, World.deliver, if_pos alive, payload.pingEndpointCb]
  have returns : step txBufferSize echoed Event.pollReturns =
      some (nextPayload txBufferSize echoed (world.i + 1) (world.size + 1)) := by
    have answered : echoed.waits = false := by
      have count : echoed.expectRnum = number + 1 :=
        congrArg (fun count => count + 1) able.sending.expectRnum
      rw [waits, count, decide_eq_false (Int.lt_irrefl _), Bool.false_and, Bool.false_and]
    show (if echoed.waits then some echoed else _) = _
    rw [answered]
    rfl
  refine ⟨echoed, ?_, able.alive, able.serving, rfl, rfl⟩
  rw [EchoPing.World.round, run_cons, sends, Option.bind_some, run_cons, answers,
    Option.bind_some, run_cons, delivers, Option.bind_some, run_cons, returns, Option.bind_some,
    run_nil]

theorem Ok.run (ok : Ok txBufferSize world) (positive : 0 < txBufferSize)
    (bounded : txBufferSize < 2 ^ 31) {schedule : List Event} {final : World}
    (reached : Transition.run (EchoPing.step txBufferSize) world schedule = some final) :
    Ok txBufferSize final :=
  run_invariant (fun _ _ _ ok moved => ok.step positive bounded moved) ok reached

/-- The test has ended, and nothing went wrong. -/
structure Finished (world : World) : Prop where
  ended : world.stage = Stage.ended
  present : world.eptDeleted = false
  succeeded : 0 ≤ world.ret

/-- The rounds for the payloads that remain -/
theorem Able.completes (positive : 0 < txBufferSize) (bounded : txBufferSize < 2 ^ 31)
    {remaining : Nat} (able : Able txBufferSize world number) (ok : Ok txBufferSize world)
    (present : world.eptDeleted = false) (remains : txBufferSize = number + 17 + remaining) :
    Exists fun schedule => Exists fun final =>
      run (step txBufferSize) world schedule = some final ∧ Finished final := by
  induction remaining generalizing world number with
  | zero =>
      rcases able.round with ⟨echoed, returned, _, _, kept, ret⟩
      have done : ¬ world.i + 1 < numPayloads txBufferSize := by
        rw [numPayloads_eq positive bounded, able.sending.inLoop.i]
        omega
      rw [nextPayload, if_neg done] at returned
      exact ⟨_, _, returned, rfl, kept.trans present, Int.le_of_eq ret.symm⟩
  | succ remaining inductionHypothesis =>
      rcases able.round with ⟨echoed, returned, alive, serving, kept, _⟩
      have more : world.i + 1 < numPayloads txBufferSize := by
        rw [numPayloads_eq positive bounded, able.sending.inLoop.i]
        omega
      rw [nextPayload, if_pos more] at returned
      have nextOk := ok.run positive bounded returned
      rcases nextOk.able rfl alive serving with ⟨next, nextAble, counted⟩
      have following : (next : Int) = number + 1 := by
        rw [← counted, ← able.sending.inLoop.i]
      rcases inductionHypothesis nextAble nextOk (kept.trans present) (by omega) with
        ⟨schedule, final, reached, finished⟩
      exact ⟨EchoPing.World.round ++ schedule, final,
        (run_append _ _).mpr ⟨_, returned, reached⟩, finished⟩

/-- Whatever memory is allocated, some run goes through the whole test. -/
theorem completes (positive : 0 < txBufferSize) (bounded : txBufferSize < 2 ^ 31)
    (memory : ByteMemory) : Exists fun schedule => Exists fun final =>
      run (step txBufferSize) initial schedule = some final ∧ Finished final := by
  let ready : World := { initial with
    stage := Stage.awaitReady
    lept := true
    server := ServerStage.serving
    iPayload := memory
    allocated := payloadMemory txBufferSize }
  let opening : List Event := [Event.serverCreateEpt 0, Event.createEpt 0,
    Event.allocate (some memory), Event.ready]
  have opened : run (step txBufferSize) initial opening =
      some (nextPayload txBufferSize ready 0 payloadMinSize) := by
    have room : ¬ txBufferSize ≤ 0 := Int.not_le.mpr positive
    simp [opening, ready, run_cons, step, World.createEpt, World.allocate, initial, room]
  by_cases more : 0 < numPayloads txBufferSize
  · rw [nextPayload, if_pos more] at opened
    have firstOk := ok_initial.run positive bounded opened
    rcases firstOk.able rfl rfl rfl with ⟨number, able, counted⟩
    have first : (0 : Int) = number := counted
    rw [numPayloads_eq positive bounded] at more
    rcases @Able.completes _ _ _ positive bounded (txBufferSize - 17).toNat able firstOk rfl
      (by omega) with ⟨schedule, final, reached, finished⟩
    exact ⟨opening ++ schedule, final, (run_append _ _).mpr ⟨_, opened, reached⟩, finished⟩
  · rw [nextPayload, if_neg more] at opened
    exact ⟨opening, _, opened, rfl, rfl, Int.le_refl 0⟩

/-- For every size of the transmit buffer, the test is sound in every state of every run. The
size is one that `rpmsg_get_tx_buffer_size()` can return: positive, and an `int`. Sends may fail
and the endpoint may be destroyed at any time; the sizes are computed with the conversions of the
source. -/
theorem always_sound (positive : 0 < txBufferSize) (bounded : txBufferSize < 2 ^ 31)
    (schedule : List Event) :
    Always (Sound txBufferSize) (step txBufferSize) initial schedule :=
  always_of_invariant (Ok txBufferSize) (fun _ ok => ok.sound)
    (fun _ _ _ ok moved => ok.step positive bounded moved) schedule ok_initial

/-- A run through the whole test with the smallest buffer that holds a payload -/
def smallestTest : List Event :=
  [Event.serverCreateEpt 0, Event.createEpt 0, Event.allocate (some fun _ => 0),
    Event.pollReturns, Event.ready, Event.sendReturns 0, Event.pollReturns,
    Event.serverReceives (fun _ => 0) 0, Event.deliver (fun _ => 0), Event.pollReturns]

theorem smallest_test_sound :
    (run (step 17) initial smallestTest).map World.stage = some Stage.ended ∧
      Always (Sound 17) (step 17) initial smallestTest :=
  ⟨rfl, always_sound (by decide) (by decide) smallestTest⟩

end World
end EchoPing
end OpenAmpReference
