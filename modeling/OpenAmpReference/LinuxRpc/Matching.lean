import OpenAmpReference.LinuxRpc.Client

namespace OpenAmpReference
namespace LinuxRpc

/-!
# Requests and responses match

While a call is in its send or waits, either its request is on the way and the
flag is set, or its response has been delivered and the flag is clear.  There
is one way to leave this picture: `rpmsg_close()` waits although its send has
failed, and nothing will clear its flag.
-/

/-- The result of a call that has returned. -/
def Returned.result (returned : Returned) : Option (BitVec 32) :=
  returned.client.result returned.call.id

/-- The result was set by the response to this call; when the send failed it is
zero, for a call that has a result. -/
def Returned.Exposes (returned : Returned) (delivered : List Delivery) : Prop :=
  if returned.sendFailed then returned.result = some 0
  else Exists fun delivery => delivery ∈ delivered ∧ delivery.ticket = returned.ticket ∧
    delivery.id = returned.call.id ∧ returned.result = delivery.result

namespace World

variable {S : Type}

structure Matched (world : World S) : Prop where
  oneOutstanding : world.outstanding.length ≤ 1
  /- A call that waits has its own request accepted and not answered yet. -/
  waits : forall call, world.client.pc = .waiting call -> world.client.waitResp = true ->
    world.ticket ∈ world.outstanding
  exposes : forall returned, returned ∈ world.returned -> returned.Exposes world.delivered

/-- No send of `rpmsg_close()` fails. -/
def CloseSent (world : World S) : Event -> Prop
  | .send false => forall fd payload, world.client.pc ≠ .sending (.rpmsgClose fd) payload
  | _ => True

/-- The request of the current call or its response is on the way, or lost. -/
structure Pending (world : World S) (call : Call) : Prop where
  flag : world.client.waitResp = true
  outstanding : world.outstanding = [world.ticket]
  one : world.requests.length + world.responses.length ≤ 1
  requests : forall request, request ∈ world.requests ->
    request.ticket = world.ticket ∧ request.id = call.id
  responses : forall response, response ∈ world.responses ->
    response.ticket = world.ticket ∧ response.id = call.id

/-- Nothing is on the way. -/
structure Quiet (world : World S) : Prop where
  outstanding : world.outstanding = []
  requests : world.requests = []
  responses : world.responses = []

/-- The response to the current call has been delivered. -/
structure Answered (world : World S) (call : Call) : Prop where
  quiet : world.Quiet
  flag : world.client.waitResp = false
  result : Exists fun delivery => delivery ∈ world.delivered ∧
    delivery.ticket = world.ticket ∧ delivery.id = call.id ∧
    world.client.result call.id = delivery.result

/-- The call has reset the result it will expose if its send fails. -/
def Reset (world : World S) (call : Call) : Prop :=
  call.id = .openId ∨ call.id = .closeId ∨ world.client.result call.id = some 0

/-- What holds along runs in which no send of `rpmsg_close()` fails. -/
structure Ok (world : World S) : Prop where
  returned : forall returned, returned ∈ world.returned -> returned.Exposes world.delivered
  quiet : world.client.pc = .idle -> world.Quiet
  prepared : forall call payload, world.client.pc = .prepared call payload ->
    world.Quiet ∧ world.Reset call
  sending : forall call payload, world.client.pc = .sending call payload ->
    world.Quiet ∧ world.Reset call ∧ world.client.waitResp = true
  exchange : forall call, world.client.pc = .inSend call ∨ world.client.pc = .waiting call ->
    world.Pending call ∨ world.Answered call

theorem initial_ok (server : S) : (initial server).Ok where
  returned := fun _ member => nomatch member
  quiet := fun _ => ⟨rfl, rfl, rfl⟩
  prepared := nofun
  sending := nofun
  exchange := by
    intro call at_pc
    rcases at_pc with wrong | wrong <;> cases wrong

variable {world next : World S}

/-- Where the caller is tells how many requests are outstanding. -/
theorem Ok.oneOutstanding (ok : world.Ok) : world.outstanding.length ≤ 1 := by
  have quiet : world.Quiet -> world.outstanding.length ≤ 1 := fun quiet => by
    rw [quiet.outstanding]
    exact Nat.zero_le 1
  cases at_pc : world.client.pc with
  | idle => exact quiet (ok.quiet at_pc)
  | prepared call payload => exact quiet (ok.prepared call payload at_pc).1
  | sending call payload => exact quiet (ok.sending call payload at_pc).1
  | inSend call =>
      rcases ok.exchange call (Or.inl at_pc) with pending | answered
      · rw [pending.outstanding]
        exact Nat.le_refl 1
      · exact quiet answered.quiet
  | waiting call =>
      rcases ok.exchange call (Or.inr at_pc) with pending | answered
      · rw [pending.outstanding]
        exact Nat.le_refl 1
      · exact quiet answered.quiet

theorem Ok.matched (ok : world.Ok) : world.Matched where
  oneOutstanding := ok.oneOutstanding
  waits := by
    intro call at_pc flag
    rcases ok.exchange call (Or.inr at_pc) with pending | answered
    · rw [pending.outstanding]
      exact List.mem_singleton.mpr rfl
    · cases flag.symm.trans answered.flag
  exposes := ok.returned

/-- Only the response of the current call can be delivered. -/
theorem Ok.exchanging (ok : world.Ok) (busy : ¬ world.Quiet) :
    Exists fun call => (world.client.pc = .inSend call ∨ world.client.pc = .waiting call) ∧
      world.Pending call := by
  cases at_pc : world.client.pc with
  | idle => exact absurd (ok.quiet at_pc) busy
  | prepared call payload => exact absurd (ok.prepared call payload at_pc).1 busy
  | sending call payload => exact absurd (ok.sending call payload at_pc).1 busy
  | inSend call =>
      rcases ok.exchange call (Or.inl at_pc) with pending | answered
      · exact ⟨call, Or.inl rfl, pending⟩
      · exact absurd answered.quiet busy
  | waiting call =>
      rcases ok.exchange call (Or.inr at_pc) with pending | answered
      · exact ⟨call, Or.inr rfl, pending⟩
      · exact absurd answered.quiet busy

/-- A step that keeps the caller inside its exchange. -/
theorem Ok.exchanges (ok : world.Ok) (call : Call) (delivered : List Delivery)
    (more : forall delivery, delivery ∈ world.delivered -> delivery ∈ delivered)
    (after : next.delivered = delivered) (returned : next.returned = world.returned)
    (at_pc : next.client.pc = .inSend call ∨ next.client.pc = .waiting call)
    (exchange : next.Pending call ∨ next.Answered call) : next.Ok := by
  refine ⟨?_, ?_, ?_, ?_, ?_⟩
  · intro earlier member
    rw [returned] at member
    have exposes := ok.returned earlier member
    rw [after]
    unfold Returned.Exposes at exposes ⊢
    split
    next failed => rwa [if_pos failed] at exposes
    next sent =>
      rw [if_neg sent] at exposes
      rcases exposes with ⟨delivery, known, matches_⟩
      exact ⟨delivery, more delivery known, matches_⟩
  · intro idle
    rcases at_pc with wrong | wrong <;> cases idle.symm.trans wrong
  · intro other payload prepared
    rcases at_pc with wrong | wrong <;> cases prepared.symm.trans wrong
  · intro other payload sending
    rcases at_pc with wrong | wrong <;> cases sending.symm.trans wrong
  · intro other where_
    have same : other = call := by
      rcases at_pc with here | here <;> rcases where_ with there | there <;>
        cases here.symm.trans there <;> rfl
    exact same ▸ exchange

/-! ## The callbacks -/

/-- A callback sets the result it stands for, clears the flag and leaves the
caller where it is. -/
structure Delivered (client called : Client) (delivery : Delivery) : Prop where
  result : called.result delivery.id = delivery.result
  pc : called.pc = client.pc
  waitResp : called.waitResp = false

theorem callback_delivered (client : Client) (delivery : Delivery) :
    Delivered client (client.callback delivery) delivery := by
  rcases delivery with ⟨ticket, id, status, data⟩
  cases id with
  | openId | closeId | writeId => exact { result := rfl, pc := rfl, waitResp := rfl }
  | readId | inputId =>
      by_cases failed : status ≠ 0
      · simp only [Client.callback, if_pos failed]
        exact {
          result := by simp only [Client.result, Delivery.result, if_pos failed]
          pc := rfl
          waitResp := rfl }
      · simp only [Client.callback, if_neg failed]
        exact {
          result := by simp only [Client.result, Delivery.result, if_neg failed]
          pc := rfl
          waitResp := rfl }

theorem callback_result (client : Client) (delivery : Delivery) :
    (client.callback delivery).result delivery.id = delivery.result :=
  (callback_delivered client delivery).result

theorem callback_pc (client : Client) (delivery : Delivery) :
    (client.callback delivery).pc = client.pc :=
  (callback_delivered client delivery).pc

theorem callback_waitResp (client : Client) (delivery : Delivery) :
    (client.callback delivery).waitResp = false :=
  (callback_delivered client delivery).waitResp

/-- A call resets its result before it sends. -/
theorem start_reset (client : Client) (call : Call) (stack : ByteMemory) :
    call.id = .openId ∨ call.id = .closeId ∨
      (client.start call stack).result call.id = some 0 := by
  cases call with
  | rpmsgOpen filename flags mode => exact Or.inl rfl
  | rpmsgClose fd => exact Or.inr (Or.inl rfl)
  | rpmsgRead fd buffer buflen | rpmsgWrite fd ptr len | rpmsgInput buffer buflen =>
      exact Or.inr (Or.inr rfl)

theorem start_pc (client : Client) (call : Call) (stack : ByteMemory) :
    (client.start call stack).pc = .prepared call (call.payload stack) := by
  cases call <;> rfl

/-! ## The steps -/

theorem Ok.calls (ok : world.Ok) {call : Call} (stack : ByteMemory)
    (at_pc : world.client.pc = .idle) :
    Ok { world with client := world.client.start call stack, ticket := world.ticket + 1 } := by
  have quiet := ok.quiet at_pc
  have started := start_pc world.client call stack
  refine ⟨ok.returned, ?_, ?_, ?_, ?_⟩
  · intro idle
    cases started.symm.trans idle
  · intro other payload prepared
    cases started.symm.trans prepared
    exact ⟨⟨quiet.outstanding, quiet.requests, quiet.responses⟩, start_reset world.client call stack⟩
  · intro other payload sending
    cases started.symm.trans sending
  · intro other at_exchange
    rcases at_exchange with wrong | wrong <;> cases started.symm.trans wrong

/-- The caller returns with nothing on the way, and what it exposes is as
claimed. -/
theorem Ok.returns (ok : world.Ok) {call : Call} {sendFailed : Bool} (quiet : world.Quiet)
    (exposes : Returned.Exposes
      { ticket := world.ticket, call := call, sendFailed := sendFailed, client := world.client }
      world.delivered) :
    (world.return_ call sendFailed).Ok := by
  refine ⟨?_, fun _ => ⟨quiet.outstanding, quiet.requests, quiet.responses⟩, nofun, nofun, ?_⟩
  · intro returned member
    rcases List.mem_append.mp member with earlier | now
    · exact ok.returned returned earlier
    · rw [List.mem_singleton.mp now]
      exact exposes
  · intro other at_exchange
    rcases at_exchange with wrong | wrong <;> cases wrong

theorem Ok.clients (ok : world.Ok) (moved : world.clientStep = some next) : next.Ok := by
  cases at_pc : world.client.pc with
  | idle | sending call payload => simp only [clientStep, at_pc, reduceCtorEq] at moved
  | prepared call payload =>
      simp only [clientStep, at_pc, Option.some.injEq] at moved
      subst moved
      rcases ok.prepared call payload at_pc with ⟨quiet, reset⟩
      refine ⟨ok.returned, nofun, nofun, ?_, ?_⟩
      · intro other same sending
        cases sending
        exact ⟨⟨quiet.outstanding, quiet.requests, quiet.responses⟩, reset, rfl⟩
      · intro other at_exchange
        rcases at_exchange with wrong | wrong <;> cases wrong
  | inSend call =>
      simp only [clientStep, at_pc, Option.some.injEq] at moved
      subst moved
      refine ok.exchanges call world.delivered (fun _ known => known) rfl rfl (Or.inr rfl) ?_
      rcases ok.exchange call (Or.inl at_pc) with pending | answered
      · exact Or.inl ⟨pending.flag, pending.outstanding, pending.one, pending.requests,
          pending.responses⟩
      · exact Or.inr ⟨⟨answered.quiet.outstanding, answered.quiet.requests,
          answered.quiet.responses⟩, answered.flag, answered.result⟩
  | waiting call =>
      simp only [clientStep, at_pc] at moved
      cases flag : world.client.waitResp with
      | true =>
          rw [flag, if_pos rfl] at moved
          exact Option.some.inj moved ▸ ok
      | false =>
          rw [flag, if_neg Bool.false_ne_true] at moved
          rw [← Option.some.inj moved]
          rcases ok.exchange call (Or.inr at_pc) with pending | answered
          · cases flag.symm.trans pending.flag
          · apply ok.returns answered.quiet
            exact answered.result

/-- The transport accepts the request. -/
theorem Ok.sends (ok : world.Ok) {call : Call} {payload : List UInt8}
    (at_pc : world.client.pc = .sending call payload) : (world.sendSucceeds call payload).Ok := by
  rcases ok.sending call payload at_pc with ⟨quiet, _, flag⟩
  refine ok.exchanges call world.delivered (fun _ known => known) rfl rfl (Or.inl rfl) (Or.inl ?_)
  refine ⟨flag, ?_, ?_, ?_, ?_⟩
  · simp only [sendSucceeds, quiet.outstanding, List.nil_append]
  · simp only [sendSucceeds, quiet.requests, quiet.responses, List.nil_append,
      List.length_singleton, List.length_nil, Nat.le_refl]
  · intro request member
    simp only [sendSucceeds, quiet.requests, List.nil_append, List.mem_singleton] at member
    subst member
    exact ⟨rfl, rfl⟩
  · intro response member
    simp only [sendSucceeds, quiet.responses, List.not_mem_nil] at member

/-- A failed send is retried, or the call returns zero. -/
theorem Ok.fails (ok : world.Ok) {call : Call} {payload : List UInt8}
    (at_pc : world.client.pc = .sending call payload)
    (closeSent : forall fd payload, world.client.pc ≠ .sending (.rpmsgClose fd) payload) :
    (world.sendFails call).Ok := by
  rcases ok.sending call payload at_pc with ⟨quiet, reset, _⟩
  cases call with
  | rpmsgOpen filename flags mode => exact ok
  | rpmsgClose fd => exact absurd at_pc (closeSent fd payload)
  | rpmsgRead fd buffer buflen | rpmsgWrite fd ptr len | rpmsgInput buffer buflen =>
      refine ok.returns quiet ?_
      rcases reset with wrong | wrong | zero
      · cases wrong
      · cases wrong
      · exact zero

theorem Ok.serves (ok : world.Ok) {server : Server S} {residue stack : ByteMemory}
    (moved : world.step server (.serve residue stack) = some next) : next.Ok := by
  cases waiting : world.requests with
  | nil => simp only [step, waiting, reduceCtorEq] at moved
  | cons request rest =>
      rcases ok.exchanging (fun quiet => by cases waiting.symm.trans quiet.requests) with
        ⟨call, at_pc, pending⟩
      simp only [step, waiting, Option.some.injEq] at moved
      subst moved
      have one := pending.one
      rw [waiting, List.length_cons] at one
      have noMore : rest = [] := List.eq_nil_of_length_eq_zero (by omega)
      have noResponse : world.responses = [] := List.eq_nil_of_length_eq_zero (by omega)
      have own := pending.requests request (by rw [waiting]; exact List.mem_cons_self)
      refine ok.exchanges call world.delivered (fun _ known => known) rfl rfl at_pc (Or.inl ?_)
      refine ⟨pending.flag, pending.outstanding, ?_, ?_, ?_⟩
      · rw [noMore, noResponse, List.nil_append, List.length_nil, Nat.zero_add, List.length_map]
        exact Option.length_toList_le
      · intro other member
        simp only [noMore, List.not_mem_nil] at member
      · intro response member
        simp only [noResponse, List.nil_append, List.mem_map] at member
        rcases member with ⟨answer, _, made⟩
        subst made
        exact own

theorem Ok.delivers (ok : world.Ok) {server : Server S} {residue : ByteMemory}
    (moved : world.step server (.deliver residue) = some next) : next.Ok := by
  cases waiting : world.responses with
  | nil => simp only [step, waiting, reduceCtorEq] at moved
  | cons response rest =>
      rcases ok.exchanging (fun quiet => by cases waiting.symm.trans quiet.responses) with
        ⟨call, at_pc, pending⟩
      simp only [step, waiting, Option.some.injEq] at moved
      subst moved
      have one := pending.one
      rw [waiting, List.length_cons] at one
      have noMore : rest = [] := List.eq_nil_of_length_eq_zero (by omega)
      have noRequest : world.requests = [] := List.eq_nil_of_length_eq_zero (by omega)
      rcases pending.responses response (by rw [waiting]; exact List.mem_cons_self) with
        ⟨ticket, id⟩
      refine ok.exchanges call _ (fun _ known => List.mem_append_left _ known) rfl rfl ?_
        (Or.inr ?_)
      · rw [callback_pc]
        exact at_pc
      · refine ⟨⟨?_, noRequest, noMore⟩, callback_waitResp _ _, ?_⟩
        · rw [pending.outstanding, ticket]
          exact List.erase_cons_head _ _
        · refine ⟨_, List.mem_append_right _ (List.mem_singleton.mpr rfl), ticket, id, ?_⟩
          rw [← id]
          exact callback_result _ _

theorem Ok.step (ok : world.Ok) {server : Server S} {event : Event}
    (closeSent : world.CloseSent event) (moved : world.step server event = some next) :
    next.Ok := by
  cases event with
  | call call stack =>
      cases at_pc : world.client.pc with
      | idle =>
          simp only [World.step, at_pc] at moved
          split at moved
          next rejected => exact Option.some.inj moved ▸ ok
          next accepted => exact Option.some.inj moved ▸ ok.calls stack at_pc
      | prepared | sending | inSend | waiting =>
          simp only [World.step, at_pc, reduceCtorEq] at moved
  | client => exact ok.clients moved
  | send accepted =>
      cases at_pc : world.client.pc with
      | sending call payload =>
          simp only [World.step, at_pc] at moved
          cases accepted with
          | true => exact Option.some.inj moved ▸ ok.sends at_pc
          | false => exact Option.some.inj moved ▸ ok.fails at_pc closeSent
      | idle | prepared | inSend | waiting =>
          simp only [World.step, at_pc, reduceCtorEq] at moved
  | serve residue stack => exact ok.serves moved
  | deliver residue => exact ok.delivers moved

/-- A close that waits after its send has failed has nothing outstanding. -/
theorem Ok.closeSent (ok : world.Ok) {server : Server S} {event : Event}
    (moved : world.step server event = some next) (matched : next.Matched) :
    world.CloseSent event := by
  cases event with
  | call call stack => trivial
  | client => trivial
  | serve residue stack => trivial
  | deliver residue => trivial
  | send accepted =>
      cases accepted with
      | true => trivial
      | false =>
          intro fd payload at_pc
          rcases ok.sending _ payload at_pc with ⟨quiet, _, flag⟩
          simp only [World.step, at_pc, Bool.false_eq_true, if_false, Option.some.injEq] at moved
          subst moved
          have waits := matched.waits _ rfl flag
          simp only [sendFails, quiet.outstanding, List.not_mem_nil] at waits

/-- Requests and responses match throughout a run exactly when no send of `rpmsg_close()` fails
in it. The server is any one, and may leave requests without a response; the other calls test the
status of their send, so that only this one waits for a response that cannot come. -/
theorem matched_iff_closeSent (server : Server S) (start : S) (schedule : List Event) :
    Transition.Always Matched (step server) (initial start) schedule ↔
      Transition.Guarded CloseSent (step server) (initial start) schedule :=
  Transition.always_iff_guarded Ok (fun _ ok => ok.matched)
    (fun _ _ _ ok closeSent moved => ok.step closeSent moved)
    (fun _ _ _ ok moved matched => ok.closeSent moved matched) schedule (initial_ok start)

/-- A server that answers nothing. -/
def silentServer : Server Unit where
  handle := fun _ _ _ _ => ((), none)

/-- The send of a first `rpmsg_close(3)` fails. -/
def closeNotSent : List Event :=
  [.call (.rpmsgClose 3) (fun _ => 0), .client, .send false]

/-- The call waits although nothing is outstanding. -/
theorem closeNotSent_not_matched :
    ¬ Transition.Always Matched (step silentServer) (initial ()) closeNotSent := by
  intro always
  exact List.not_mem_nil ((always.last rfl).waits _ rfl rfl)

end World
end LinuxRpc
end OpenAmpReference
