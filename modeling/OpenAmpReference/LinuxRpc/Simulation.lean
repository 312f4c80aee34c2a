import OpenAmpReference.LinuxRpc.Matching
import OpenAmpReference.LinuxRpc.Server

namespace OpenAmpReference
namespace LinuxRpc

/-!
# Remote file access simulates local access

A request in range reaches its handler with the caller's arguments, and the
response brings the answer of the system call back into the caller's
variables, whatever the stacks and the receive buffers held before.  Along a
run whose sends all succeed, the server's file system and the outcomes of the
calls are therefore those of the same calls made locally.
-/

variable {Fs : Type}

/-! ## A request arrives as it was made -/

theorem toNat_of_nonneg {value : BitVec 32} (nonneg : 0 ≤ value.toInt) :
    value.toInt.toNat = value.toNat := by
  rw [BitVec.toInt_eq_toNat_cond] at nonneg ⊢
  have bound := value.isLt
  split at nonneg <;> split <;> omega

section Requests

variable (stack residue : ByteMemory)

/-- The receive buffer of the server. -/
def Call.received (call : Call) : ByteMemory :=
  residue.writeBytes 0 (call.payload stack)

theorem open_received (filename : List UInt8) (flags mode : BitVec 32)
    (short : filename.length < maxFileNameLen) (noNul : 0 ∉ filename) :
    ((Call.rpmsgOpen filename flags mode).received stack residue).cString 0 pathMax = filename ∧
      ((Call.rpmsgOpen filename flags mode).received stack residue).readInt 12 = flags ∧
      ((Call.rpmsgOpen filename flags mode).received stack residue).readInt 16 = mode := by
  have small : filename.length < 10 := short
  have stored : (filename ++ [0]).length = filename.length + 1 := List.length_append
  refine ⟨?_, ?_, ?_⟩
  · apply ByteMemory.cString_eq _ noNul (Nat.lt_trans small (by decide))
    rw [Call.received, Call.payload, Call.payloadSize,
      ByteMemory.readBytes_carried _ _ _ (by omega), Call.request, ← stored]
    exact ByteMemory.readBytes_writeBytes_same _ _ _
  · rw [Call.received, Call.payload, Call.payloadSize,
      ByteMemory.readInt_carried _ _ _ (by decide), Call.request,
      ByteMemory.readInt_writeBytes_of_disjoint _ _ (by omega),
      ByteMemory.readInt_writeInt_of_disjoint _ _ (by decide), ByteMemory.readInt_writeInt_same]
  · rw [Call.received, Call.payload, Call.payloadSize,
      ByteMemory.readInt_carried _ _ _ (by decide), Call.request,
      ByteMemory.readInt_writeBytes_of_disjoint _ _ (by omega), ByteMemory.readInt_writeInt_same]

theorem read_received (fd : BitVec 32) (buffer : Option ByteMemory) (buflen : BitVec 32) :
    ((Call.rpmsgRead fd buffer buflen).received stack residue).readInt 0 = fd ∧
      ((Call.rpmsgRead fd buffer buflen).received stack residue).readInt 4 = buflen := by
  constructor
  · rw [Call.received, Call.payload, Call.payloadSize,
      ByteMemory.readInt_carried _ _ _ (by decide), Call.request,
      ByteMemory.readInt_writeInt_of_disjoint _ _ (by decide), ByteMemory.readInt_writeInt_same]
  · rw [Call.received, Call.payload, Call.payloadSize,
      ByteMemory.readInt_carried _ _ _ (by decide), Call.request, ByteMemory.readInt_writeInt_same]

theorem write_received (fd : BitVec 32) (ptr : ByteMemory) {len : BitVec 32} (nonneg : 0 ≤ len.toInt)
    (fits : len.toInt < maxStringLen) :
    ((Call.rpmsgWrite fd ptr len).received stack residue).readInt 0 = fd ∧
      ((Call.rpmsgWrite fd ptr len).received stack residue).readInt 4 = len ∧
      ((Call.rpmsgWrite fd ptr len).received stack residue).readBytes 8 len.toNat =
        ptr.readBytes 0 len.toNat := by
  have value := toNat_of_nonneg nonneg
  have small : len.toInt < 300 := fits
  have copied : (ptr.readBytes 0 (len.toInt + 1).toNat).length = len.toNat + 1 := by
    rw [ByteMemory.readBytes_length]
    omega
  refine ⟨?_, ?_, ?_⟩
  · rw [Call.received, Call.payload, Call.payloadSize,
      ByteMemory.readInt_carried _ _ _ (by decide), Call.request,
      ByteMemory.readInt_writeInt_of_disjoint _ _ (by decide),
      ByteMemory.readInt_writeBytes_of_disjoint _ _ (Or.inl (by decide)),
      ByteMemory.readInt_writeInt_same]
  · rw [Call.received, Call.payload, Call.payloadSize,
      ByteMemory.readInt_carried _ _ _ (by decide), Call.request, ByteMemory.readInt_writeInt_same]
  · rw [Call.received, Call.payload, Call.payloadSize,
      ByteMemory.readBytes_carried _ _ _ (by omega), Call.request,
      ByteMemory.readBytes_writeInt_of_disjoint _ _ (by omega)]
    have whole := ByteMemory.readBytes_writeBytes_same (stack.writeInt 0 fd) 8
      (ptr.readBytes 0 (len.toInt + 1).toNat)
    rw [copied] at whole
    rw [← ByteMemory.readBytes_take _ 8 (Nat.le_succ len.toNat), whole]
    exact ByteMemory.readBytes_take ptr 0 (by omega)

theorem close_received (fd : BitVec 32) :
    ((Call.rpmsgClose fd).received stack residue).readInt 0 = fd := by
  rw [Call.received, Call.payload, Call.payloadSize,
    ByteMemory.readInt_carried _ _ _ (by decide), Call.request, ByteMemory.readInt_writeInt_same]

end Requests

/-! ## A response brings the answer back -/

section Responses

variable (client : Client) (ticket : Nat) (stack residue : ByteMemory)

/-- A response of one integer. -/
theorem int_delivered (value : BitVec 32) :
    (residue.writeBytes 0 (intPayload stack value)).readInt 0 = value := by
  rw [intPayload, ByteMemory.readInt_carried _ _ _ (by decide), ByteMemory.readInt_writeInt_same]

/-- A response to a read, of a count and the bytes read. -/
theorem read_delivered (value : BitVec 32) {data : List UInt8} (fits : data.length ≤ maxStringLen) :
    (residue.writeBytes 0 (bufPayload stack data value)).readInt 0 = value ∧
      ((residue.writeBytes 0 (bufPayload stack data value)).readBytes 4 maxStringLen).take
        data.length = data := by
  have small : data.length ≤ 300 := fits
  constructor
  · rw [bufPayload, ByteMemory.readInt_carried _ _ _ (by decide), ByteMemory.readInt_writeInt_same]
  · rw [bufPayload, ByteMemory.readBytes_carried _ _ _ (by decide),
      ByteMemory.readBytes_take _ _ fits,
      ByteMemory.readBytes_writeInt_of_disjoint _ _ (by omega)]
    exact ByteMemory.readBytes_writeBytes_same stack 4 data

/-- What is copied into a buffer is found at its start. -/
theorem copyBuf_prefix {buffer received : ByteMemory} {data : List UInt8}
    (positive : 0 < (received.readInt 0).toInt) (fits : data.length ≤ maxStringLen)
    (holds : (received.readBytes 4 maxStringLen).take data.length = data) :
    (Client.copyBuf buffer received).readBytes 0 data.length = data := by
  have whole := ByteMemory.readBytes_writeBytes_same buffer 0 (received.readBytes 4 maxStringLen)
  rw [ByteMemory.readBytes_length] at whole
  rw [Client.copyBuf, if_pos positive, ← ByteMemory.readBytes_take _ 0 fits, whole, holds]

/-- The answer of a read, as its callback leaves it. -/
theorem read_outcome {fd buflen : BitVec 32} {buffer : Option ByteMemory} {answer : Answer}
    (fits : answer.data.length ≤ maxStringLen)
    (result : (answer.value = -1 ∧ answer.data = []) ∨
      answer.value = BitVec.ofNat 64 answer.data.length) :
    (client.callback (Response.delivery
      { ticket := ticket, id := .readId, status := rpmsgRpcOk
        payload := bufPayload stack answer.data answer.int }
      residue)).outcome (.rpmsgRead fd buffer buflen) = ⟨answer.value.toInt, answer.data⟩ := by
  have small : answer.data.length ≤ 300 := fits
  rcases read_delivered stack residue answer.int fits with ⟨value, holds⟩
  have kept : answer.int.toInt = answer.value.toInt :=
    Answer.int_toInt (Nat.lt_of_le_of_lt small (by decide)) (result.imp And.left id)
  simp only [Client.callback, Response.delivery, rpmsgRpcOk, ne_eq, not_true_eq_false, if_false,
    Client.outcome, value, kept]
  congr 1
  rcases result with ⟨failed, none⟩ | counted
  · rw [failed, none]
    rfl
  · have length : answer.value.toInt = answer.data.length := by
      rw [counted]
      exact Answer.toInt_ofNat (by omega)
    rw [length, Int.toNat_natCast]
    by_cases empty : answer.data = []
    · rw [empty]
      rfl
    · have positive : 0 < answer.data.length := List.length_pos_of_ne_nil empty
      exact copyBuf_prefix (by rw [value, kept, length]; omega) fits holds

end Responses

/-! ## One request -/

/-- A handler makes the caller's system call, and the response to it leaves the
local outcome with the client. -/
theorem demod_handles (os : ServerOs Fs) (fs : Fs) {call : Call} (inRange : call.InRange)
    (requestStack residue stack : ByteMemory) :
    Exists fun payload =>
      os.demod.handle fs call.id (call.received requestStack residue) stack =
        ((localCall os.toFileSystem fs call).1, some (rpmsgRpcOk, payload)) ∧
      forall (client : Client) ticket responseResidue,
        (client.callback (Response.delivery
          { ticket := ticket, id := call.id, status := rpmsgRpcOk, payload := payload }
          responseResidue)).outcome call = (localCall os.toFileSystem fs call).2 := by
  cases call with
  | rpmsgOpen filename flags mode =>
      rcases open_received requestStack residue filename flags mode inRange.1 inRange.2 with
        ⟨name, flagsRead, modeRead⟩
      refine ⟨intPayload stack (os.perform fs (.openFile filename flags mode)).2.int, ?_, ?_⟩
      · simp only [ServerOs.demod, Call.id, ServerOs.rpmsgHandleOpen, name, flagsRead, modeRead]
        rfl
      · intro client ticket responseResidue
        have value := int_delivered stack responseResidue
          (os.perform fs (.openFile filename flags mode)).2.int
        simp only [Client.callback, Response.delivery, Call.id, rpmsgRpcOk, ne_eq,
          not_true_eq_false, if_false, Client.outcome, value]
        rfl
  | rpmsgClose fd =>
      have fdRead := close_received requestStack residue fd
      refine ⟨intPayload stack (os.perform fs (.closeFile fd)).2.int, ?_, fun _ _ _ => rfl⟩
      simp only [ServerOs.demod, Call.id, ServerOs.rpmsgHandleClose, fdRead]
      rfl
  | rpmsgWrite fd ptr len =>
      rcases write_received requestStack residue fd ptr inRange.1 inRange.2 with
        ⟨fdRead, lenRead, bytes⟩
      have value := toNat_of_nonneg inRange.1
      have small : len.toInt < 300 := inRange.2
      rw [← value] at bytes
      refine ⟨intPayload stack
        (os.perform fs (.writeFile fd (ptr.readBytes 0 len.toInt.toNat))).2.int, ?_, ?_⟩
      · simp only [ServerOs.demod, Call.id, ServerOs.rpmsgHandleWrite, fdRead, lenRead, ← value,
          bytes]
        rfl
      · intro client ticket responseResidue
        have delivered := int_delivered stack responseResidue
          (os.perform fs (.writeFile fd (ptr.readBytes 0 len.toInt.toNat))).2.int
        have kept : (os.perform fs (.writeFile fd (ptr.readBytes 0 len.toInt.toNat))).2.int.toInt =
            (os.perform fs (.writeFile fd (ptr.readBytes 0 len.toInt.toNat))).2.value.toInt := by
          rcases os.write_answer fs fd (ptr.readBytes 0 len.toInt.toNat) with
            failed | ⟨count, within, counted⟩
          · exact Answer.int_toInt (show 0 < 2 ^ 31 by decide) (Or.inl failed)
          · rw [ByteMemory.readBytes_length] at within
            exact Answer.int_toInt (by omega) (Or.inr counted)
        simp only [Client.callback, Response.delivery, Call.id, rpmsgRpcOk, ne_eq,
          not_true_eq_false, if_false, Client.outcome, delivered, kept]
        rfl
  | rpmsgRead fd buffer buflen =>
      rcases inRange with ⟨notStdin, _, positive, small⟩
      rcases read_received requestStack residue fd buffer buflen with ⟨fdRead, buflenRead⟩
      have value : buflen.toInt.toNat = buflen.toNat := toNat_of_nonneg (by omega)
      have answered := os.read_answer fs fd buflen.toInt.toNat
      refine ⟨bufPayload stack (os.perform fs (.readFile fd buflen.toInt.toNat)).2.data
        (os.perform fs (.readFile fd buflen.toInt.toNat)).2.int, ?_, ?_⟩
      · simp only [ServerOs.demod, Call.id, ServerOs.rpmsgHandleRead, fdRead, buflenRead,
          if_neg notStdin, ← value]
        rfl
      · intro client ticket responseResidue
        refine read_outcome client ticket stack responseResidue ?_ (answered.imp_right And.left)
        rcases answered with ⟨_, none⟩ | ⟨_, within⟩
        · rw [none]
          exact Nat.zero_le _
        · exact Nat.le_trans within (Int.toNat_le.mpr small)
  | rpmsgInput buffer buflen => exact absurd inRange not_false

/-! ## Runs -/

theorem localRun_append (os : FileSystem Fs) (fs : Fs) (calls : List Call) (call : Call) :
    localRun os fs (calls ++ [call]) =
      ((localCall os (localRun os fs calls).1 call).1,
        (localRun os fs calls).2 ++ [(localCall os (localRun os fs calls).1 call).2]) := by
  induction calls generalizing fs with
  | nil => rfl
  | cons first rest inductionHypothesis =>
      simp only [List.cons_append, localRun, inductionHypothesis]

/-- The outcome of a call does not depend on where the caller is. -/
theorem outcome_withPc (client : Client) (pc : Pc) (waitResp : Bool) (call : Call) :
    ({ client with pc := pc, waitResp := waitResp } : Client).outcome call =
      client.outcome call := by
  cases call <;> rfl

/-- The calls that a schedule makes. -/
def callsOf (schedule : List Event) : List Call :=
  schedule.filterMap (fun event =>
    match event with
    | .call call _ => some call
    | .client | .send _ | .serve _ _ | .deliver _ => none)

/-- The call in progress. -/
def Pc.current : Pc -> List Call
  | .idle => []
  | .prepared call _ | .sending call _ | .inSend call | .waiting call => [call]

theorem Call.InRange.not_rejected {call : Call} (inRange : call.InRange) : ¬ call.Rejected := by
  cases call with
  | rpmsgOpen | rpmsgWrite | rpmsgClose => exact not_false
  | rpmsgRead fd buffer buflen =>
      rintro (noBuffer | empty)
      · exact absurd inRange.2.1 (Option.not_isSome_iff_eq_none.mpr (Option.isNone_iff_eq_none.mp noBuffer))
      · have positive := inRange.2.2.1
        rw [empty] at positive
        exact absurd positive (by decide)
  | rpmsgInput buffer buflen => exact absurd inRange not_false

namespace World

def calls (world : World Fs) : List Call :=
  world.returned.map Returned.call

def outcomes (world : World Fs) : List Outcome :=
  world.returned.map (fun returned => returned.client.outcome returned.call)

/-- Calls are in range, and the transport accepts every request. -/
def Proper (_world : World Fs) : Event -> Prop
  | .call call _ => call.InRange
  | .send accepted => accepted = true
  | .client | .serve _ _ | .deliver _ => True

instance (world : World Fs) : DecidablePred world.Proper := fun event =>
  match event with
  | .call call _ => inferInstanceAs (Decidable call.InRange)
  | .send accepted => inferInstanceAs (Decidable (accepted = true))
  | .client | .serve _ _ | .deliver _ => isTrue trivial

variable (os : ServerOs Fs) (fs : Fs)

/-- The file system after the calls that have returned. -/
def before (world : World Fs) : Fs :=
  (localRun os.toFileSystem fs world.calls).1

/-- The request is on the way, its response is on the way, or the response has
been delivered. -/
inductive Progress (world : World Fs) (call : Call) : Prop
  | requested (request : Request) (stack : ByteMemory)
      (queue : world.requests = [request]) (payload : request.payload = call.payload stack)
      (server : world.server = world.before os fs)
  | responded (response : Response) (queue : world.responses = [response])
      (noRequest : world.requests = [])
      (server : world.server = (localCall os.toFileSystem (world.before os fs) call).1)
      (brings : forall (client : Client) residue,
        (client.callback (response.delivery residue)).outcome call =
          (localCall os.toFileSystem (world.before os fs) call).2)
  | delivered (noRequest : world.requests = []) (noResponse : world.responses = [])
      (flag : world.client.waitResp = false)
      (server : world.server = (localCall os.toFileSystem (world.before os fs) call).1)
      (outcome : world.client.outcome call =
        (localCall os.toFileSystem (world.before os fs) call).2)

/-- The run so far agrees with the same calls made locally. -/
structure Agrees (world : World Fs) : Prop where
  ok : world.Ok
  history : (localRun os.toFileSystem fs world.calls).2 = world.outcomes
  quiet : world.client.pc = .idle -> world.server = world.before os fs
  prepared : forall call payload,
    world.client.pc = .prepared call payload ∨ world.client.pc = .sending call payload ->
      call.InRange ∧ (Exists fun stack => payload = call.payload stack) ∧
        world.server = world.before os fs
  exchange : forall call, world.client.pc = .inSend call ∨ world.client.pc = .waiting call ->
    call.InRange ∧ world.Progress os fs call

variable {os fs} {world next : World Fs}

theorem initial_agrees (os : ServerOs Fs) (fs : Fs) : (initial fs).Agrees os fs where
  ok := initial_ok fs
  history := rfl
  quiet := fun _ => rfl
  prepared := by
    intro call payload at_pc
    rcases at_pc with wrong | wrong <;> cases wrong
  exchange := by
    intro call at_pc
    rcases at_pc with wrong | wrong <;> cases wrong

theorem Agrees.calls_ (agrees : world.Agrees os fs) {call : Call} (stack : ByteMemory)
    (at_pc : world.client.pc = .idle) (inRange : call.InRange)
    (ok : Ok { world with client := world.client.start call stack, ticket := world.ticket + 1 }) :
    Agrees os fs
      { world with client := world.client.start call stack, ticket := world.ticket + 1 } := by
  have started := start_pc world.client call stack
  refine ⟨ok, agrees.history, ?_, ?_, ?_⟩
  · intro idle
    cases started.symm.trans idle
  · intro other payload preparing
    rcases preparing with here | here
    · cases started.symm.trans here
      exact ⟨inRange, ⟨stack, rfl⟩, agrees.quiet at_pc⟩
    · cases started.symm.trans here
  · intro other at_exchange
    rcases at_exchange with wrong | wrong <;> cases started.symm.trans wrong

/-- A call that returns has its outcome, and the file system has followed. -/
theorem Agrees.returns (agrees : world.Agrees os fs) {call : Call}
    (at_pc : world.client.pc = .waiting call) (flag : world.client.waitResp = false)
    (ok : (world.return_ call false).Ok) : (world.return_ call false).Agrees os fs := by
  have quiet : world.Quiet := by
    rcases agrees.ok.exchange call (Or.inr at_pc) with pending | answered
    · cases flag.symm.trans pending.flag
    · exact answered.quiet
  have done : world.server = (localCall os.toFileSystem (world.before os fs) call).1 ∧
      world.client.outcome call = (localCall os.toFileSystem (world.before os fs) call).2 := by
    rcases (agrees.exchange call (Or.inr at_pc)).2 with
      ⟨request, stack, queue, _, _⟩ | ⟨response, queue, _, _, _⟩ | ⟨_, _, _, server, outcome⟩
    · cases queue.symm.trans quiet.requests
    · cases queue.symm.trans quiet.responses
    · exact ⟨server, outcome⟩
  have made : (world.return_ call false).calls = world.calls ++ [call] := by
    simp only [calls, return_, List.map_append, List.map_cons, List.map_nil]
  refine ⟨ok, ?_, ?_, ?_, ?_⟩
  · rw [made, localRun_append, agrees.history]
    simp only [outcomes, return_, List.map_append, List.map_cons, List.map_nil, done.2]
    rfl
  · intro _
    rw [before, made, localRun_append]
    exact done.1
  · intro other payload preparing
    rcases preparing with wrong | wrong <;> cases wrong
  · intro other at_exchange
    rcases at_exchange with wrong | wrong <;> cases wrong

theorem Agrees.clients (agrees : world.Agrees os fs) (moved : world.clientStep = some next) :
    next.Agrees os fs := by
  have ok := agrees.ok.clients moved
  cases at_pc : world.client.pc with
  | idle | sending call payload => simp only [clientStep, at_pc, reduceCtorEq] at moved
  | prepared call payload =>
      simp only [clientStep, at_pc, Option.some.injEq] at moved
      subst moved
      refine ⟨ok, agrees.history, ?_, ?_, ?_⟩
      · intro idle
        cases idle
      · intro other same preparing
        rcases preparing with wrong | here
        · cases wrong
        · cases here
          exact agrees.prepared call payload (Or.inl at_pc)
      · intro other at_exchange
        rcases at_exchange with wrong | wrong <;> cases wrong
  | inSend call =>
      simp only [clientStep, at_pc, Option.some.injEq] at moved
      subst moved
      refine ⟨ok, agrees.history, ?_, ?_, ?_⟩
      · intro idle
        cases idle
      · intro other payload preparing
        rcases preparing with wrong | wrong <;> cases wrong
      · intro other at_exchange
        rcases at_exchange with wrong | here
        · cases wrong
        · cases here
          rcases agrees.exchange call (Or.inl at_pc) with ⟨inRange, progress⟩
          refine ⟨inRange, ?_⟩
          rcases progress with ⟨request, stack, queue, payload, server⟩ |
            ⟨response, queue, noRequest, server, brings⟩ |
            ⟨noRequest, noResponse, flag, server, outcome⟩
          · exact .requested request stack queue payload server
          · exact .responded response queue noRequest server brings
          · exact .delivered noRequest noResponse flag server
              ((outcome_withPc world.client (.waiting call) world.client.waitResp call).trans
                outcome)
  | waiting call =>
      simp only [clientStep, at_pc] at moved
      cases flag : world.client.waitResp with
      | true =>
          rw [flag, if_pos rfl] at moved
          exact Option.some.inj moved ▸ agrees
      | false =>
          rw [flag, if_neg Bool.false_ne_true] at moved
          have after := Option.some.inj moved
          subst after
          exact agrees.returns at_pc flag ok

theorem Agrees.sends (agrees : world.Agrees os fs) {call : Call} {payload : List UInt8}
    (at_pc : world.client.pc = .sending call payload) :
    (world.sendSucceeds call payload).Agrees os fs := by
  rcases agrees.prepared call payload (Or.inr at_pc) with ⟨inRange, ⟨stack, made⟩, server⟩
  have quiet := (agrees.ok.sending call payload at_pc).1
  refine ⟨agrees.ok.sends at_pc, agrees.history, nofun, ?_, ?_⟩
  · intro other same preparing
    rcases preparing with wrong | wrong <;> cases wrong
  · intro other at_exchange
    rcases at_exchange with here | wrong
    · cases here
      refine ⟨inRange, .requested { ticket := world.ticket, id := call.id, payload := payload }
        stack ?_ made server⟩
      simp only [sendSucceeds, quiet.requests, List.nil_append]
    · cases wrong

/-- A queue in use means that the current call is in its exchange. -/
theorem Agrees.exchanging (agrees : world.Agrees os fs) (busy : ¬ world.Quiet) :
    Exists fun call => (world.client.pc = .inSend call ∨ world.client.pc = .waiting call) ∧
      world.Pending call ∧ call.InRange ∧ world.Progress os fs call := by
  rcases agrees.ok.exchanging busy with ⟨call, at_pc, pending⟩
  exact ⟨call, at_pc, pending, agrees.exchange call at_pc⟩

/-- A step of the channel or the server within the exchange of a call. -/
theorem Agrees.exchanges (agrees : world.Agrees os fs) (call : Call) (ok : next.Ok)
    (returned : next.returned = world.returned)
    (at_pc : next.client.pc = .inSend call ∨ next.client.pc = .waiting call)
    (inRange : call.InRange) (progress : next.Progress os fs call) : next.Agrees os fs := by
  refine ⟨ok, ?_, ?_, ?_, ?_⟩
  · have history := agrees.history
    rw [calls, outcomes] at history ⊢
    rwa [returned]
  · intro idle
    rcases at_pc with wrong | wrong <;> cases idle.symm.trans wrong
  · intro other payload preparing
    rcases preparing with here | here <;> rcases at_pc with wrong | wrong <;>
      cases here.symm.trans wrong
  · intro other where_
    have same : other = call := by
      rcases at_pc with here | here <;> rcases where_ with there | there <;>
        cases here.symm.trans there <;> rfl
    exact same ▸ ⟨inRange, progress⟩

theorem Agrees.serves (agrees : world.Agrees os fs) {residue stack : ByteMemory}
    (moved : world.step os.demod (.serve residue stack) = some next) : next.Agrees os fs := by
  have ok := agrees.ok.serves moved
  cases waiting : world.requests with
  | nil => simp only [step, waiting, reduceCtorEq] at moved
  | cons request rest =>
      rcases agrees.exchanging (fun quiet => by cases waiting.symm.trans quiet.requests) with
        ⟨call, at_pc, pending, inRange, progress⟩
      rcases progress with ⟨sent, requestStack, queue, payload, server⟩ |
        ⟨response, _, noRequest, _, _⟩ | ⟨noRequest, _, _, _, _⟩
      · cases waiting.symm.trans queue
        have noResponse : world.responses = [] := by
          have one := pending.one
          rw [queue, List.length_singleton] at one
          exact List.eq_nil_of_length_eq_zero (by omega)
        have id := (pending.requests request (by rw [queue]; exact List.mem_cons_self)).2
        rcases demod_handles os (world.before os fs) inRange requestStack residue stack with
          ⟨answer, handled, brings⟩
        simp only [step, queue, id, payload, server, Option.some.injEq] at moved
        rw [Call.received] at handled
        rw [handled] at moved
        simp only [noResponse, Option.toList_some, List.map_cons, List.map_nil,
          List.nil_append] at moved
        subst moved
        exact agrees.exchanges call ok rfl at_pc inRange
          (.responded _ rfl rfl rfl (fun client _ => brings client request.ticket _))
      · cases waiting.symm.trans noRequest
      · cases waiting.symm.trans noRequest

theorem Agrees.delivers (agrees : world.Agrees os fs) {residue : ByteMemory}
    (moved : world.step os.demod (.deliver residue) = some next) : next.Agrees os fs := by
  have ok := agrees.ok.delivers moved
  cases waiting : world.responses with
  | nil => simp only [step, waiting, reduceCtorEq] at moved
  | cons response rest =>
      rcases agrees.exchanging (fun quiet => by cases waiting.symm.trans quiet.responses) with
        ⟨call, at_pc, pending, inRange, progress⟩
      simp only [step, waiting, Option.some.injEq] at moved
      subst moved
      rcases progress with ⟨sent, requestStack, queue, _, _⟩ |
        ⟨known, queue, noRequest, server, brings⟩ | ⟨_, noResponse, _, _, _⟩
      · have one := pending.one
        rw [queue, waiting, List.length_singleton, List.length_cons] at one
        omega
      · cases waiting.symm.trans queue
        refine agrees.exchanges call ok rfl ?_ inRange
          (.delivered noRequest rfl (callback_waitResp world.client _) server (brings world.client residue))
        rw [callback_pc]
        exact at_pc
      · cases waiting.symm.trans noResponse

theorem Agrees.step (agrees : world.Agrees os fs) {event : Event} (proper : world.Proper event)
    (moved : world.step os.demod event = some next) : next.Agrees os fs := by
  cases event with
  | call call stack =>
      cases at_pc : world.client.pc with
      | idle =>
          simp only [World.step, at_pc] at moved
          split at moved
          next rejected => exact Option.some.inj moved ▸ agrees
          next accepted =>
            exact Option.some.inj moved ▸
              agrees.calls_ stack at_pc proper (agrees.ok.calls stack at_pc)
      | prepared | sending | inSend | waiting =>
          simp only [World.step, at_pc, reduceCtorEq] at moved
  | client => exact agrees.clients moved
  | send accepted =>
      cases at_pc : world.client.pc with
      | sending call payload =>
          have accepts : accepted = true := proper
          simp only [World.step, at_pc, accepts, if_true, Option.some.injEq] at moved
          exact moved ▸ agrees.sends at_pc
      | idle | prepared | inSend | waiting =>
          simp only [World.step, at_pc, reduceCtorEq] at moved
  | serve residue stack => exact agrees.serves moved
  | deliver residue => exact agrees.delivers moved

/-! ## Every call can return -/

/-- Some steps other than calls bring the caller back to rest. -/
def Completes (os : ServerOs Fs) (world : World Fs) : Prop :=
  Exists fun more => Exists fun final =>
    callsOf more = [] ∧ Transition.Guarded Proper (step os.demod) world more ∧
      Transition.run (step os.demod) world more = some final ∧ final.client.pc = .idle

theorem Completes.after (event : Event) (completes : next.Completes os)
    (notCall : callsOf [event] = []) (proper : world.Proper event)
    (moved : world.step os.demod event = some next) : world.Completes os := by
  rcases completes with ⟨more, final, noCall, guarded, reached, idle⟩
  refine ⟨event :: more, final, ?_, ?_, Transition.run_cons_eq_some.mpr ⟨next, moved, reached⟩,
    idle⟩
  · rw [← List.singleton_append, callsOf, List.filterMap_append]
    exact (congrArg₂ List.append notCall noCall : _ = [] ++ [])
  · rw [Transition.Guarded, moved]
    exact ⟨proper, guarded⟩

/-- A call whose response has been delivered returns at its next test. -/
theorem completes_delivered {call : Call} (at_pc : world.client.pc = .waiting call)
    (flag : world.client.waitResp = false) : world.Completes os := by
  have moved : world.step os.demod .client = some (world.return_ call false) := by
    simp only [World.step, clientStep, at_pc, flag, Bool.false_eq_true, if_false]
  exact Completes.after .client ⟨[], world.return_ call false, rfl, trivial, rfl, rfl⟩ rfl trivial moved

/-- A response on the way can be delivered. -/
theorem completes_responded {call : Call} (at_pc : world.client.pc = .waiting call)
    {response : Response} (queue : world.responses = [response]) : world.Completes os := by
  cases moved : world.step os.demod (.deliver (fun _ => 0)) with
  | none => simp only [World.step, queue, reduceCtorEq] at moved
  | some next =>
      refine Completes.after (.deliver (fun _ => 0)) ?_ rfl trivial moved
      simp only [World.step, queue, Option.some.injEq] at moved
      rw [← moved]
      exact completes_delivered ((callback_pc _ _).trans at_pc) (callback_waitResp _ _)

/-- The call that waits can be served, answered and return. -/
theorem Agrees.completes_waiting (agrees : world.Agrees os fs) {call : Call}
    (at_pc : world.client.pc = .waiting call) : world.Completes os := by
  rcases (agrees.exchange call (Or.inr at_pc)).2 with
    ⟨request, stack, queue, _, _⟩ | ⟨response, queue, _, _, _⟩ | ⟨_, _, flag, _, _⟩
  · cases moved : world.step os.demod (.serve (fun _ => 0) (fun _ => 0)) with
    | none => simp only [World.step, queue, reduceCtorEq] at moved
    | some next =>
        have nextAgrees := agrees.serves moved
        have caller : next.client.pc = .waiting call := by
          simp only [World.step, queue, Option.some.injEq] at moved
          rw [← moved]
          exact at_pc
        refine Completes.after (.serve (fun _ => 0) (fun _ => 0)) ?_ rfl trivial moved
        rcases (nextAgrees.exchange call (Or.inr caller)).2 with
          ⟨_, _, another, _, _⟩ | ⟨response, answer, _, _, _⟩ | ⟨_, _, flag, _, _⟩
        · simp only [World.step, queue, Option.some.injEq] at moved
          rw [← moved] at another
          cases another
        · exact completes_responded caller answer
        · exact completes_delivered caller flag
  · exact completes_responded at_pc queue
  · exact completes_delivered at_pc flag

theorem Agrees.completes (agrees : world.Agrees os fs) : world.Completes os := by
  have inSend : forall {other : World Fs} {call : Call}, other.Agrees os fs ->
      other.client.pc = .inSend call -> other.Completes os := by
    intro other call otherAgrees at_pc
    have moved : other.step os.demod .client =
        some { other with client := { other.client with pc := .waiting call } } := by
      simp only [World.step, clientStep, at_pc]
    exact Completes.after .client ((otherAgrees.clients moved).completes_waiting rfl) rfl trivial moved
  have sending : forall {other : World Fs} {call : Call} {payload : List UInt8},
      other.Agrees os fs -> other.client.pc = .sending call payload -> other.Completes os := by
    intro other call payload otherAgrees at_pc
    have moved : other.step os.demod (.send true) = some (other.sendSucceeds call payload) := by
      simp only [World.step, at_pc, if_true]
    exact Completes.after (.send true) (inSend (otherAgrees.sends at_pc) rfl) rfl rfl moved
  cases at_pc : world.client.pc with
  | idle => exact ⟨[], world, rfl, trivial, rfl, at_pc⟩
  | prepared call payload =>
      have moved : world.step os.demod .client = some { world with
          client := { world.client with pc := .sending call payload, waitResp := true } } := by
        simp only [World.step, clientStep, at_pc]
      exact Completes.after .client (sending (agrees.clients moved) rfl) rfl trivial moved
  | sending call payload => exact sending agrees at_pc
  | inSend call => exact inSend agrees at_pc
  | waiting call => exact agrees.completes_waiting at_pc

/-! ## The calls of a run -/

/-- The calls that have returned and the one in progress. -/
def made (world : World Fs) : List Call :=
  world.calls ++ world.client.pc.current

theorem callback_made (world : World Fs) (delivery : Delivery) (responses : List Response)
    (outstanding : List Nat) (delivered : List Delivery) :
    made { world with
      client := world.client.callback delivery
      responses := responses
      outstanding := outstanding
      delivered := delivered } = world.made := by
  rw [made, made, callback_pc]
  rfl

theorem return_made (world : World Fs) {call : Call} (sendFailed : Bool)
    (at_pc : world.client.pc.current = [call]) :
    (world.return_ call sendFailed).made = world.made := by
  rw [made, made, at_pc, calls, return_, List.map_append]
  exact List.append_nil _

/-- A step adds the call it starts. -/
theorem step_made {event : Event} (proper : world.Proper event)
    (moved : world.step os.demod event = some next) :
    next.made = world.made ++ callsOf [event] := by
  cases event with
  | call call stack =>
      cases at_pc : world.client.pc with
      | idle =>
          have accepted : ¬ call.Rejected := Call.InRange.not_rejected proper
          simp only [World.step, at_pc, if_neg accepted, Option.some.injEq] at moved
          rw [← moved, made, made, start_pc, at_pc]
          exact congrArg (· ++ [call]) (List.append_nil world.calls).symm
      | prepared | sending | inSend | waiting =>
          simp only [World.step, at_pc, reduceCtorEq] at moved
  | client =>
      rw [show callsOf [Event.client] = [] from rfl, List.append_nil]
      cases at_pc : world.client.pc with
      | idle | sending call payload =>
          simp only [World.step, clientStep, at_pc, reduceCtorEq] at moved
      | prepared call payload | inSend call =>
          simp only [World.step, clientStep, at_pc, Option.some.injEq] at moved
          rw [← moved, made, made, at_pc]
          rfl
      | waiting call =>
          simp only [World.step, clientStep, at_pc] at moved
          split at moved
          next waits => rw [Option.some.inj moved]
          next answered =>
            rw [← Option.some.inj moved]
            exact return_made world false (by rw [at_pc, Pc.current])
  | send accepted =>
      cases at_pc : world.client.pc with
      | sending call payload =>
          have accepts : accepted = true := proper
          simp only [World.step, at_pc, accepts, if_true, Option.some.injEq] at moved
          rw [← moved, made, made, at_pc]
          exact (List.append_nil _).symm
      | idle | prepared | inSend | waiting =>
          simp only [World.step, at_pc, reduceCtorEq] at moved
  | serve residue stack =>
      cases waiting : world.requests with
      | nil => simp only [World.step, waiting, reduceCtorEq] at moved
      | cons request rest =>
          simp only [World.step, waiting, Option.some.injEq] at moved
          rw [← moved]
          exact (List.append_nil _).symm
  | deliver residue =>
      cases waiting : world.responses with
      | nil => simp only [World.step, waiting, reduceCtorEq] at moved
      | cons response rest =>
          simp only [World.step, waiting, Option.some.injEq] at moved
          rw [← moved, callback_made]
          exact (List.append_nil _).symm

theorem run_made {schedule : List Event} {final : World Fs}
    (guarded : Transition.Guarded Proper (step os.demod) world schedule)
    (reached : Transition.run (step os.demod) world schedule = some final) :
    final.made = world.made ++ callsOf schedule := by
  induction schedule generalizing world with
  | nil => rw [Option.some.inj reached, show callsOf [] = [] from rfl, List.append_nil]
  | cons event rest inductionHypothesis =>
      rcases Transition.run_cons_eq_some.mp reached with ⟨next, moved, later⟩
      rcases guarded.cons moved with ⟨proper, laterGuarded⟩
      have splits : callsOf (event :: rest) = callsOf [event] ++ callsOf rest := by
        rw [← List.singleton_append, callsOf, List.filterMap_append]
        rfl
      rw [inductionHypothesis laterGuarded later, step_made proper moved, splits,
        List.append_assoc]

/-! ## The simulation -/

/-- Remote calls simulate local ones. When the caller is at rest, the files and the outcomes are
those of the calls made locally, and from every state that a run reaches the current call can
return. The calls have to be in range because the structures have fixed fields, and every send
has to be accepted because a refused request is never carried out; the server, what its stack and
the receive buffers hold, and when it answers are arbitrary. -/
theorem remote_simulates_local (os : ServerOs Fs) (fs : Fs) {schedule : List Event}
    {world : World Fs}
    (guarded : Transition.Guarded Proper (step os.demod) (initial fs) schedule)
    (reached : Transition.run (step os.demod) (initial fs) schedule = some world) :
    world.Completes os ∧
      (world.client.pc = .idle ->
        localRun os.toFileSystem fs (callsOf schedule) = (world.server, world.outcomes)) := by
  have agrees : world.Agrees os fs :=
    Transition.guarded_run_invariant (fun _ _ _ agrees proper moved => agrees.step proper moved)
      (initial_agrees os fs) guarded reached
  refine ⟨agrees.completes, ?_⟩
  intro idle
  have calls : world.calls = callsOf schedule := by
    have made_ := run_made guarded reached
    rw [made, idle, Pc.current, List.append_nil] at made_
    exact made_
  rw [← calls]
  exact Prod.ext (agrees.quiet idle).symm agrees.history

/-- A server over a single file; its user types nothing. -/
def queueOs : ServerOs (List UInt8) where
  toFileSystem := FileSystem.queue
  scanf := fun contents => (contents, [])

/-- A call, with the steps up to its return. -/
def exchangeOf (call : Call) : List Event :=
  [.call call (fun _ => 0), .client, .send true, .serve (fun _ => 0) (fun _ => 0),
    .deliver (fun _ => 0), .client, .client]

/-- The file `a` is opened, three bytes are written to it and two read, and descriptor 3 is
closed. -/
def fileSession : List Event :=
  exchangeOf (.rpmsgOpen [97] 0 0) ++ exchangeOf (.rpmsgWrite 3 (fun k => 104 + UInt8.ofNat k) 3) ++
    exchangeOf (.rpmsgRead 3 (some fun _ => 0) 2) ++ exchangeOf (.rpmsgClose 3)

theorem fileSession_simulated :
    Exists fun world : World (List UInt8) =>
      Transition.run (step queueOs.demod) (initial []) fileSession = some world ∧
        world.Completes queueOs ∧
        localRun FileSystem.queue [] (callsOf fileSession) = (world.server, world.outcomes) := by
  have guarded : Transition.Guarded Proper (step queueOs.demod) (initial []) fileSession := by
    decide
  have simulated := remote_simulates_local queueOs [] guarded rfl
  exact ⟨_, rfl, simulated.1, simulated.2 rfl⟩

end World
end LinuxRpc
end OpenAmpReference
