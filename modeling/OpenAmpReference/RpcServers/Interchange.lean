import OpenAmpReference.RpcServers.ProxyApp
import OpenAmpReference.RpcServers.RpcDemod

namespace OpenAmpReference
namespace RpcServers

/-!
# Can one server stand in for the other?

Both servers are given the same stream of requests over the same files.  They
differ in the count of every read, since `rpc_demod.c` tests for the standard
input the wrong way round; in the size of their buffers; and in when they stop,
since only `rpc_demod.c` serves what arrives behind a request to terminate in
the same poll.
-/

open RpcDemod (Arrival Residue)

/-- The most that one response can carry in the buffer of `proxy_app.c`. -/
def maxReadSize : Nat := 496

/-- A request that the remote may make: a whole header, a file name that ends in the
message, no more to write than the message brings, and no more to read than a
response can carry. -/
def WellFormedFor (message : List UInt8) : Option SyscallId -> Prop
  | some .openSyscallId => 0 ∈ message.drop headerSize
  | some .writeSyscallId =>
      0 ≤ (intField2 (plain message)).toInt ∧
        headerSize + (intField2 (plain message)).toNat ≤ message.length
  | some .readSyscallId =>
      0 ≤ (intField2 (plain message)).toInt ∧ (intField2 (plain message)).toNat ≤ maxReadSize
  | some .closeSyscallId | some .termSyscallId | none => True

instance (message : List UInt8) : DecidablePred (WellFormedFor message) := fun id =>
  match id with
  | some .openSyscallId => inferInstanceAs (Decidable (0 ∈ message.drop headerSize))
  | some .writeSyscallId =>
      inferInstanceAs (Decidable (0 ≤ (intField2 (plain message)).toInt ∧
        headerSize + (intField2 (plain message)).toNat ≤ message.length))
  | some .readSyscallId =>
      inferInstanceAs (Decidable (0 ≤ (intField2 (plain message)).toInt ∧
        (intField2 (plain message)).toNat ≤ maxReadSize))
  | some .closeSyscallId | some .termSyscallId | none => isTrue trivial

structure WellFormed (message : List UInt8) : Prop where
  header : headerSize ≤ message.length
  fields : WellFormedFor message (SyscallId.ofNumber (sysId (plain message)))

instance : DecidablePred WellFormed := fun message =>
  decidable_of_iff (headerSize ≤ message.length ∧
      WellFormedFor message (SyscallId.ofNumber (sysId (plain message))))
    ⟨fun both => ⟨both.1, both.2⟩, fun wellFormed => ⟨wellFormed.header, wellFormed.fields⟩⟩

/-- The two servers do the same with the request: it is no read, and what it holds
lies in the part of the message that `proxy_app.c` receives. -/
structure Portable (message : List UInt8) : Prop where
  notRead : SyscallId.ofNumber (sysId (plain message)) ≠ some .readSyscallId
  received : SelfContained (message.take ProxyApp.rpcBuffSize)

/-- All requests up to the one at which the servers stop are portable, and nothing
arrives behind that one in the same poll. -/
def Orderly {Fs : Type} (os : HostOs Fs) : Fs -> List Arrival -> Prop
  | _, [] => True
  | fs, arrival :: rest =>
      let outcome := carryOut os fs (callOf ProxyApp.readCount (plain arrival.message))
      Portable arrival.message ∧
        if outcome.stops then arrival.lastInPoll = true ∨ rest = []
        else Orderly os outcome.fs rest

/-- The same calls, the same responses, and as many requests served. -/
structure SameService (first second : List Exchange) : Prop where
  calls : first.filterMap Exchange.call = second.filterMap Exchange.call
  responses : first.filterMap Exchange.response = second.filterMap Exchange.response
  served : first.length = second.length

/-- The stream as `proxy_app.c` reads it. -/
def messages (stream : List Arrival) : List ProxyApp.Received :=
  stream.map (fun arrival => .message arrival.message)

/-- Whatever the stacks and the buffers held, the servers do the same with the
stream. -/
def Interchangeable {Fs : Type} (os : HostOs Fs) (fs : Fs) (stream : List Arrival) : Prop :=
  forall (residue : Nat -> Residue) (rpc rpcResponse : ByteMemory),
    SameService ((RpcDemod.service os residue).run (RpcDemod.initial fs) stream)
      ((ProxyApp.service os).run (ProxyApp.initial fs rpc rpcResponse) (messages stream))

theorem SameService.tail {exchange : Exchange} {first second : List Exchange}
    (same : SameService (exchange :: first) (exchange :: second)) : SameService first second := by
  refine ⟨?_, ?_, Nat.succ.inj same.served⟩
  · have calls := same.calls
    rw [List.filterMap_cons, List.filterMap_cons] at calls
    cases issued : exchange.call with
    | none => rwa [issued] at calls
    | some call =>
        rw [issued] at calls
        exact (List.cons.inj calls).2
  · have responses := same.responses
    rw [List.filterMap_cons, List.filterMap_cons] at responses
    cases sent : exchange.response with
    | none => rwa [sent] at responses
    | some response =>
        rw [sent] at responses
        exact (List.cons.inj responses).2

/-- When either both first requests issue a call or none does, the calls are equal. -/
theorem SameService.head {one two : Option SysCall} {sentOne sentTwo : Option (List UInt8)}
    {first second : List Exchange}
    (same : SameService (⟨one, sentOne⟩ :: first) (⟨two, sentTwo⟩ :: second))
    (both : one = none ↔ two = none) : one = two := by
  have calls := same.calls
  rw [List.filterMap_cons, List.filterMap_cons] at calls
  cases one with
  | none => exact (both.mp rfl).symm
  | some call =>
      cases two with
      | none => cases both.mpr rfl
      | some other => exact congrArg some (List.cons.inj calls).1

/-! ## One request -/

section Request

variable {message : List UInt8}

/-- Nothing but the count of a read tells the servers apart. -/
theorem callOf_readCount {rpc : ByteMemory}
    (notRead : SyscallId.ofNumber (sysId rpc) ≠ some .readSyscallId)
    (first second : BitVec 32 -> BitVec 32 -> Nat) : callOf first rpc = callOf second rpc := by
  unfold callOf
  cases known : SyscallId.ofNumber (sysId rpc) with
  | none => rfl
  | some id =>
      cases id with
      | readSyscallId => exact absurd known notRead
      | openSyscallId | closeSyscallId | writeSyscallId | termSyscallId => rfl

/-- What a server has received is as the message has it. -/
theorem received_byte (memory : ByteMemory) {size place : Nat}
    (inside : place < (message.take size).length) :
    memory.writeBytes 0 (message.take size) place = plain message place := by
  have whole : place < message.length :=
    Nat.lt_of_lt_of_le inside (List.length_take_le' size message)
  rw [plain_inside memory inside, plain_getElem inside, List.getElem_take, plain_getElem whole]

/-- A message leaves what lies behind the buffer. -/
theorem received_beyond (memory : ByteMemory) (message : List UInt8) {size place : Nat}
    (beyond : size ≤ place) : memory.writeBytes 0 (message.take size) place = memory place := by
  have shorter := List.length_take_le size message
  exact ByteMemory.writeBytes_outside memory _ (Or.inr (by omega))

/-- The header of a request lies in what a server has received. -/
theorem WellFormed.received_field (wellFormed : WellFormed message) (memory : ByteMemory)
    {size place : Nat} (large : headerSize ≤ size) (field : place + 4 ≤ headerSize) :
    (memory.writeBytes 0 (message.take size)).readInt place = (plain message).readInt place := by
  have long : headerSize ≤ (message.take size).length := by
    rw [List.length_take]
    exact Nat.le_min.mpr ⟨large, wellFormed.header⟩
  exact ByteMemory.readInt_congr (fun i small => received_byte memory (by omega))

theorem WellFormed.selfContained (wellFormed : WellFormed message) : SelfContained message := by
  have header : 16 ≤ message.length := wellFormed.header
  have fields := wellFormed.fields
  unfold SelfContained
  cases known : SyscallId.ofNumber (sysId (plain message)) with
  | none => trivial
  | some id =>
      rw [known] at fields
      cases id with
      | openSyscallId => exact fields
      | closeSyscallId => exact Nat.le_trans (by decide) header
      | readSyscallId =>
          exact ⟨Nat.le_trans (by decide) header, Or.inr (Nat.le_trans (by decide) header)⟩
      | writeSyscallId => exact ⟨Nat.le_trans (by decide) header, Or.inr fields.2⟩
      | termSyscallId => trivial

/-- Both servers make the call of a portable request, whatever lay in their
buffers. -/
theorem Portable.callOf_received (portable : Portable message) (wellFormed : WellFormed message)
    (readCount : BitVec 32 -> BitVec 32 -> Nat) (memory : ByteMemory) {size : Nat}
    (large : ProxyApp.rpcBuffSize ≤ size) :
    callOf readCount (memory.writeBytes 0 (message.take size)) =
      callOf ProxyApp.readCount (plain message) := by
  have long : headerSize ≤ (message.take ProxyApp.rpcBuffSize).length := by
    rw [List.length_take]
    exact Nat.le_min.mpr ⟨by decide, wellFormed.header⟩
  have received : forall buffer : ByteMemory,
      callOf readCount (buffer.writeBytes 0 (message.take ProxyApp.rpcBuffSize)) =
        callOf readCount (plain (message.take ProxyApp.rpcBuffSize)) :=
    fun buffer => callOf_congr (Nat.lt_of_lt_of_le (by decide) long) portable.received
      (Or.inl (Nat.le_trans (by decide) long)) buffer
  have once := ByteMemory.writeBytes_take memory 0 ProxyApp.rpcBuffSize (message.take size)
  rw [List.take_take, Nat.min_eq_left large] at once
  have twice := ByteMemory.writeBytes_take (fun _ => 0) 0 ProxyApp.rpcBuffSize message
  calc callOf readCount (memory.writeBytes 0 (message.take size))
      = callOf readCount (plain (message.take ProxyApp.rpcBuffSize)) := by
        rw [← once]
        exact received _
    _ = callOf readCount (plain message) := by
        rw [← received (plain message)]
        exact congrArg (callOf readCount) twice
    _ = callOf ProxyApp.readCount (plain message) := callOf_readCount portable.notRead _ _

/-! ## The two counts of a read -/

variable {fd size : BitVec 32}

theorem demod_readCount (nonneg : 0 ≤ size.toInt) (small : size.toNat ≤ maxReadSize) :
    RpcDemod.readCount fd size = if fd = 0 then size.toNat else 1008 := by
  have signed : size.toInt < 1008 := by
    have bound : size.toNat ≤ 496 := small
    rw [BitVec.toInt_eq_toNat_cond]
    split <;> omega
  by_cases standardInput : fd = 0
  · rw [RpcDemod.readCount, RpcDemod.bytesToRead, if_pos ⟨standardInput, signed⟩,
      if_pos standardInput, sizeT_of_nonneg nonneg]
  · rw [RpcDemod.readCount, RpcDemod.bytesToRead, if_neg (fun both => standardInput both.1),
      if_neg standardInput]
    rfl

theorem proxy_readCount (nonneg : 0 ≤ size.toInt) :
    ProxyApp.readCount fd size = if fd = 0 then 512 else size.toNat := by
  rw [ProxyApp.readCount, sizeT_of_nonneg nonneg]

/-- No read of a size that a response can carry has the same count in both
servers. -/
theorem readCounts_ne (nonneg : 0 ≤ size.toInt) (small : size.toNat ≤ maxReadSize) :
    RpcDemod.readCount fd size ≠ ProxyApp.readCount fd size := by
  have bound : size.toNat ≤ 496 := small
  rw [demod_readCount nonneg small, proxy_readCount nonneg]
  split <;> omega

/-- The count of a read that a request asks `rpc_demod.c` for. -/
theorem WellFormed.readCount_lt (wellFormed : WellFormed message) (memory : ByteMemory)
    {bound : Nat} (large : headerSize ≤ bound)
    (read : SyscallId.ofNumber (sysId (memory.writeBytes 0 (message.take bound))) =
      some .readSyscallId) :
    RpcDemod.readCount (intField1 (memory.writeBytes 0 (message.take bound)))
      (intField2 (memory.writeBytes 0 (message.take bound))) < 2 ^ 31 := by
  have sameId : sysId (memory.writeBytes 0 (message.take bound)) = sysId (plain message) :=
    wellFormed.received_field memory large (by decide)
  have sameSize : intField2 (memory.writeBytes 0 (message.take bound)) =
      intField2 (plain message) :=
    wellFormed.received_field memory large (by decide)
  have fields := wellFormed.fields
  rw [← sameId, read] at fields
  have small : (intField2 (plain message)).toNat ≤ 496 := fields.2
  rw [sameSize, demod_readCount fields.1 fields.2]
  split <;> omega

/-- Whether a buffer asks for a call at all depends on the id. -/
theorem callOf_eq_none_congr {first second : ByteMemory} (same : sysId first = sysId second)
    (firstCount secondCount : BitVec 32 -> BitVec 32 -> Nat) :
    callOf firstCount first = none ↔ callOf secondCount second = none := by
  unfold callOf
  rw [same]
  cases SyscallId.ofNumber (sysId second) with
  | none => exact Iff.rfl
  | some id => cases id <;> simp only [reduceCtorEq]

/-- A request for which `rpc_demod.c` makes the call that `proxy_app.c` makes over
zeros and the one it makes over ones is portable. -/
theorem WellFormed.portable (wellFormed : WellFormed message) {stack zero one : ByteMemory}
    (zeros : forall place, ProxyApp.rpcBuffSize ≤ place -> zero place = 0)
    (ones : forall place, ProxyApp.rpcBuffSize ≤ place -> one place = 1)
    (sameZero : callOf RpcDemod.readCount
        (stack.writeBytes 0 (message.take RpcDemod.rpcBuffSize)) =
      callOf ProxyApp.readCount (zero.writeBytes 0 (message.take ProxyApp.rpcBuffSize)))
    (sameOne : callOf RpcDemod.readCount
        (stack.writeBytes 0 (message.take RpcDemod.rpcBuffSize)) =
      callOf ProxyApp.readCount (one.writeBytes 0 (message.take ProxyApp.rpcBuffSize))) :
    Portable message := by
  constructor
  · intro read
    have inDemod : forall place, place + 4 ≤ headerSize ->
        (stack.writeBytes 0 (message.take RpcDemod.rpcBuffSize)).readInt place =
          (plain message).readInt place :=
      fun _ field => wellFormed.received_field stack (by decide) field
    have inProxy : forall place, place + 4 ≤ headerSize ->
        (zero.writeBytes 0 (message.take ProxyApp.rpcBuffSize)).readInt place =
          (plain message).readInt place :=
      fun _ field => wellFormed.received_field zero (by decide) field
    have fields := wellFormed.fields
    rw [read] at fields
    unfold sysId at read
    simp only [callOf, sysId, intField1, intField2, inDemod _ (by decide : 0 + 4 ≤ headerSize),
      inDemod _ (by decide : 4 + 4 ≤ headerSize), inDemod _ (by decide : 8 + 4 ≤ headerSize),
      inProxy _ (by decide : 0 + 4 ≤ headerSize), inProxy _ (by decide : 4 + 4 ≤ headerSize),
      inProxy _ (by decide : 8 + 4 ≤ headerSize), read, Option.some.injEq,
      SysCall.readFile.injEq, true_and] at sameZero
    exact readCounts_ne fields.1 fields.2 sameZero
  · rcases Nat.le_total message.length ProxyApp.rpcBuffSize with short | long
    · rw [List.take_of_length_le short]
      exact wellFormed.selfContained
    · have full : (message.take ProxyApp.rpcBuffSize).length = ProxyApp.rpcBuffSize := by
        rw [List.length_take]
        exact Nat.min_eq_left long
      by_contra notSelfContained
      rw [← full] at zeros ones
      have differ := callOf_ne (fun _ _ _ => ProxyApp.readCount_inj)
        (by rw [full]; decide) notSelfContained ones
      rw [writeBytes_eq_plain zero zeros] at sameZero
      exact differ (sameOne.symm.trans sameZero)

end Request

/-! ## Streams -/

section Streams

variable {Fs : Type} {os : HostOs Fs} {fs : Fs} {demod : RpcDemod.Demod Fs}

/-- The proxy is about to serve the next request over the files. -/
structure Ready (fs : Fs) (proxy : ProxyApp.Proxy Fs) : Prop where
  fs : proxy.fs = fs
  active : proxy.active = true
  exited : proxy.exited = false

theorem Ready.serving {proxy : ProxyApp.Proxy Fs} (ready : Ready fs proxy) :
    (ProxyApp.service os).serving proxy = true := by
  simp only [ProxyApp.service, ready.active, ready.exited, Bool.not_false, Bool.and_self]

/-- A request is carried out by the proxy. -/
theorem Ready.serve {proxy : ProxyApp.Proxy Fs} (ready : Ready fs proxy) (os : HostOs Fs)
    {message : List UInt8}
    (wellFormed : WellFormed message) {outcome : Outcome Fs}
    (carried : carryOut os fs (callOf ProxyApp.readCount
      (proxy.rpc.writeBytes 0 (message.take ProxyApp.rpcBuffSize))) = outcome) :
    ((ProxyApp.service os).serve proxy (.message message)).2 = outcome.exchange ∧
      (outcome.stops = false ->
        Ready outcome.fs ((ProxyApp.service os).serve proxy (.message message)).1) ∧
      (outcome.stops = true -> (ProxyApp.service os).serving
        ((ProxyApp.service os).serve proxy (.message message)).1 = false) ∧
      ((ProxyApp.service os).serve proxy (.message message)).1.rpc =
        proxy.rpc.writeBytes 0 (message.take ProxyApp.rpcBuffSize) := by
  have served := ProxyApp.serve_message proxy os ready.active
    (Nat.lt_of_lt_of_le (by decide) wellFormed.header)
  rw [ready.fs] at served
  rcases served with ⟨files, exchange, serving, rpc⟩
  rw [ProxyApp.Proxy.receive, carried] at files exchange serving
  refine ⟨exchange, ?_, ?_, rpc⟩
  · intro goesOn
    rw [goesOn] at serving
    have both := Bool.and_eq_true_iff.mp serving
    exact ⟨files, both.1, (Bool.not_eq_true' _).mp both.2⟩
  · intro stops
    rwa [stops] at serving

/-- A request is carried out by `rpc_demod.c`. -/
theorem demod_serve (os : HostOs Fs) (running : RpcDemod.Running demod) (files : demod.fs = fs)
    (residue : Nat -> Residue) {arrival : Arrival} (wellFormed : WellFormed arrival.message)
    {outcome : Outcome Fs}
    (carried : carryOut os fs (callOf RpcDemod.readCount
      ((residue demod.callbacks).buf.writeBytes 0 (arrival.message.take RpcDemod.rpcBuffSize))) =
      outcome) :
    ((RpcDemod.service os residue).serve demod arrival).2 = outcome.exchange ∧
      (outcome.stops = false ->
        RpcDemod.Running ((RpcDemod.service os residue).serve demod arrival).1 ∧
          ((RpcDemod.service os residue).serve demod arrival).1.fs = outcome.fs) ∧
      (outcome.stops = true -> (RpcDemod.service os residue).serving
        ((RpcDemod.service os residue).serve demod arrival).1 = !arrival.lastInPoll) := by
  have served := RpcDemod.serve_follows os running residue arrival wellFormed.header rfl
    (wellFormed.readCount_lt _ (by decide))
  rw [files] at served
  rw [carried] at served
  exact ⟨served.1, served.2.1, fun stops => congrArg Bool.not (served.2.2 stops)⟩

theorem demod_serving (running : RpcDemod.Running demod) (residue : Nat -> Residue) :
    (RpcDemod.service os residue).serving demod = true := by
  simp only [RpcDemod.service, running.exited, Bool.not_false]

/-- On an orderly stream the servers do the same. -/
theorem run_eq_of_orderly (residue : Nat -> Residue) {stream : List Arrival}
    {proxy : ProxyApp.Proxy Fs} (orderly : Orderly os fs stream)
    (wellFormed : forall arrival, arrival ∈ stream -> WellFormed arrival.message)
    (running : RpcDemod.Running demod) (files : demod.fs = fs) (ready : Ready fs proxy) :
    (RpcDemod.service os residue).run demod stream =
      (ProxyApp.service os).run proxy (messages stream) := by
  induction stream generalizing fs demod proxy with
  | nil => rfl
  | cons arrival rest inductionHypothesis =>
      have wellFormedHere := wellFormed arrival List.mem_cons_self
      rcases orderly with ⟨portable, continues⟩
      rcases demod_serve os running files residue wellFormedHere
        (congrArg (carryOut os fs) (portable.callOf_received wellFormedHere _ _ (by decide))) with
        ⟨demodExchange, demodGoesOn, demodStops⟩
      rcases ready.serve os wellFormedHere
        (congrArg (carryOut os fs) (portable.callOf_received wellFormedHere _ _ le_rfl)) with
        ⟨proxyExchange, proxyGoesOn, proxyStops, _⟩
      rw [messages, List.map_cons, Service.run_of_serving (demod_serving running residue),
        Service.run_of_serving ready.serving, demodExchange, proxyExchange]
      refine congrArg _ ?_
      cases stops : (carryOut os fs
          (callOf ProxyApp.readCount (plain arrival.message))).stops with
      | false =>
          rw [stops, if_neg Bool.false_ne_true] at continues
          exact inductionHypothesis continues
            (fun later member => wellFormed later (List.mem_cons_of_mem _ member))
            (demodGoesOn stops).1 (demodGoesOn stops).2 (proxyGoesOn stops)
      | true =>
          rw [stops, if_pos rfl] at continues
          rw [Service.run_of_stopped (proxyStops stops)]
          rcases continues with lastInPoll | nothing
          · exact Service.run_of_stopped ((demodStops stops).trans (by rw [lastInPoll]; rfl)) _
          · rw [nothing, Service.run_nil]

/-- Servers that do the same over zeros and over ones are given an orderly stream. -/
theorem orderly_of_sameService (residue : Nat -> Residue) {stream : List Arrival}
    {zero one : ProxyApp.Proxy Fs}
    (zeros : forall place, ProxyApp.rpcBuffSize ≤ place -> zero.rpc place = 0)
    (ones : forall place, ProxyApp.rpcBuffSize ≤ place -> one.rpc place = 1)
    (wellFormed : forall arrival, arrival ∈ stream -> WellFormed arrival.message)
    (running : RpcDemod.Running demod) (files : demod.fs = fs) (zeroReady : Ready fs zero)
    (oneReady : Ready fs one)
    (sameZero : SameService ((RpcDemod.service os residue).run demod stream)
      ((ProxyApp.service os).run zero (messages stream)))
    (sameOne : SameService ((RpcDemod.service os residue).run demod stream)
      ((ProxyApp.service os).run one (messages stream))) : Orderly os fs stream := by
  induction stream generalizing fs demod zero one with
  | nil => trivial
  | cons arrival rest inductionHypothesis =>
      have wellFormedHere := wellFormed arrival List.mem_cons_self
      rw [messages, List.map_cons, Service.run_of_serving (demod_serving running residue),
        Service.run_of_serving zeroReady.serving] at sameZero
      rw [messages, List.map_cons, Service.run_of_serving (demod_serving running residue),
        Service.run_of_serving oneReady.serving] at sameOne
      have sameHead : forall {proxy : ProxyApp.Proxy Fs} {later : List Exchange},
          Ready fs proxy ->
          SameService (((RpcDemod.service os residue).serve demod arrival).2 ::
              (RpcDemod.service os residue).run
                ((RpcDemod.service os residue).serve demod arrival).1 rest)
            (((ProxyApp.service os).serve proxy (.message arrival.message)).2 :: later) ->
          callOf RpcDemod.readCount ((residue demod.callbacks).buf.writeBytes 0
              (arrival.message.take RpcDemod.rpcBuffSize)) =
            callOf ProxyApp.readCount
              (proxy.rpc.writeBytes 0 (arrival.message.take ProxyApp.rpcBuffSize)) := by
        intro proxy later ready same
        have demodCall := (demod_serve os running files residue wellFormedHere rfl).1
        have proxyCall := (ready.serve os wellFormedHere rfl).1
        rw [ProxyApp.carryOut_exchange] at demodCall proxyCall
        rw [demodCall, proxyCall] at same
        have sameId := (wellFormedHere.received_field (residue demod.callbacks).buf
            (by decide : headerSize ≤ RpcDemod.rpcBuffSize) (by decide : 0 + 4 ≤ headerSize)).trans
          (wellFormedHere.received_field proxy.rpc
            (by decide : headerSize ≤ ProxyApp.rpcBuffSize) (by decide : 0 + 4 ≤ headerSize)).symm
        exact same.head (callOf_eq_none_congr sameId _ _)
      have portable := wellFormedHere.portable zeros ones (sameHead zeroReady sameZero)
        (sameHead oneReady sameOne)
      have call : forall proxy : ProxyApp.Proxy Fs,
          carryOut os fs (callOf ProxyApp.readCount
              (proxy.rpc.writeBytes 0 (arrival.message.take ProxyApp.rpcBuffSize))) =
            carryOut os fs (callOf ProxyApp.readCount (plain arrival.message)) :=
        fun proxy => congrArg (carryOut os fs)
          (portable.callOf_received wellFormedHere _ proxy.rpc le_rfl)
      rcases demod_serve os running files residue wellFormedHere
        (congrArg (carryOut os fs) (portable.callOf_received wellFormedHere _ _ (by decide))) with
        ⟨demodExchange, demodGoesOn, demodStops⟩
      rcases zeroReady.serve os wellFormedHere (call zero) with
        ⟨zeroExchange, zeroGoesOn, zeroStops, zeroRpc⟩
      rcases oneReady.serve os wellFormedHere (call one) with
        ⟨oneExchange, oneGoesOn, _, oneRpc⟩
      rw [demodExchange, zeroExchange] at sameZero
      rw [demodExchange, oneExchange] at sameOne
      refine ⟨portable, ?_⟩
      cases stops : (carryOut os fs
          (callOf ProxyApp.readCount (plain arrival.message))).stops with
      | false =>
          rw [if_neg Bool.false_ne_true]
          refine inductionHypothesis ?_ ?_
            (fun later member => wellFormed later (List.mem_cons_of_mem _ member))
            (demodGoesOn stops).1 (demodGoesOn stops).2 (zeroGoesOn stops) (oneGoesOn stops)
            sameZero.tail sameOne.tail
          · intro place beyond
            rw [zeroRpc, received_beyond _ _ beyond]
            exact zeros place beyond
          · intro place beyond
            rw [oneRpc, received_beyond _ _ beyond]
            exact ones place beyond
      | true =>
          rw [if_pos rfl]
          have served := sameZero.tail.served
          rw [Service.run_of_stopped (zeroStops stops)] at served
          cases last : arrival.lastInPoll with
          | true => exact Or.inl rfl
          | false =>
              cases rest with
              | nil => exact Or.inr rfl
              | cons next more =>
                  have serving := (demodStops stops).trans (congrArg Bool.not last)
                  rw [Service.run_of_serving serving] at served
                  cases served

/-- The servers are interchangeable on a stream of well-formed requests exactly when the stream
is orderly. A well-formed request has its header, and what it states of itself agrees with its
length and with the buffers; of others the servers read what they have not received, and there is
nothing to compare. The operating system answers in any way, the same for both servers. -/
theorem interchangeable_iff_orderly (os : HostOs Fs) (fs : Fs) (stream : List Arrival)
    (wellFormed : forall arrival, arrival ∈ stream -> WellFormed arrival.message) :
    Interchangeable os fs stream ↔ Orderly os fs stream := by
  have running : RpcDemod.Running (RpcDemod.initial fs) := ⟨rfl, rfl, rfl⟩
  have ready : forall rpc rpcResponse, Ready fs (ProxyApp.initial fs rpc rpcResponse) :=
    fun _ _ => ⟨rfl, rfl, rfl⟩
  constructor
  · intro same
    exact orderly_of_sameService (fun _ => ⟨fun _ => 0, fun _ => 0⟩)
      (fun _ _ => rfl) (fun _ _ => rfl) wellFormed running rfl
      (ready (fun _ => 0) (fun _ => 0)) (ready (fun _ => 1) (fun _ => 0)) (same _ _ _) (same _ _ _)
  · intro orderly residue rpc rpcResponse
    rw [run_eq_of_orderly residue orderly wellFormed running rfl (ready rpc rpcResponse)]
    exact ⟨rfl, rfl, rfl⟩

end Streams

/-- Descriptor 3 is closed, and the servers are told to stop. -/
def closeTerm : List Arrival :=
  [{ message := [2, 0, 0, 0, 3, 0, 0, 0, 0, 0, 0, 0, 0, 0, 0, 0], lastInPoll := false },
    { message := [6, 0, 0, 0, 0, 0, 0, 0, 0, 0, 0, 0, 0, 0, 0, 0], lastInPoll := true }]

theorem closeTerm_interchangeable : Interchangeable HostOs.queue [] closeTerm := by
  refine (interchangeable_iff_orderly HostOs.queue [] closeTerm ?_).mpr ?_
  · decide
  · exact ⟨⟨by decide, by decide⟩, ⟨by decide, by decide⟩, Or.inl rfl⟩

/-- A read of ten bytes from descriptor 3 -/
def readTen : List UInt8 :=
  [4, 0, 0, 0, 3, 0, 0, 0, 10, 0, 0, 0, 0, 0, 0, 0]

/-- One server reads 1008 bytes and the other ten. -/
theorem readTen_not_interchangeable :
    WellFormed readTen ∧
      ¬ Interchangeable HostOs.queue [] [{ message := readTen, lastInPoll := true }] := by
  refine ⟨by decide, ?_⟩
  intro same
  have calls := (same (fun _ => ⟨fun _ => 0, fun _ => 0⟩) (fun _ => 0) (fun _ => 0)).calls
  exact absurd calls (by decide)

end RpcServers
end OpenAmpReference
