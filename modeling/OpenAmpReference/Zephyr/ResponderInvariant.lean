import OpenAmpReference.Zephyr.Responder
import Mathlib.Data.List.Forall2

namespace OpenAmpReference
namespace Zephyr

/-!
# When a responder serves its endpoints

At each point the messages received on an endpoint are those answered, in
order, and at most one more, which its slot records.  A slot that the responder
has released, or has found empty, is cleared next: what a callback stores there
in between is lost.  The condition `Orderly` excludes this and the other ways
to lose or to leak a message; every step that does not meet it leads to a
state in which the service is not served.
-/

/-- How far the responder is with an endpoint. -/
inductive Stage
  | elsewhere
  | replying
  | releasing
  | clearing
  | cleared
  deriving DecidableEq, Repr

def Pc.stage (i : Nat) : Pc -> Stage
  | .reply j => if j = i then .replying else .elsewhere
  | .release j => if j = i then .releasing else .elsewhere
  | .clearLen j => if j = i then .clearing else .elsewhere
  | .clearData j => if j = i then .cleared else .elsewhere
  | .start | .setup _ | .wait | .check _ => .elsewhere

/-- The responder tests the endpoint's slot before it blocks again. -/
def Pc.Reaches (i : Nat) : Pc -> Prop
  | .start | .setup _ => True
  | .wait => False
  | .check j | .reply j | .release j => j ≤ i
  | .clearLen j | .clearData j => j < i

/-- The reply to a message: the label, the data and one more byte. -/
structure Service.Answers (service : Service) (i : Nat) (message : Message) (reply : Reply) :
    Prop where
  dest : reply.dest = if service.repliesToSource then some message.src else none
  bytes : Exists fun last => reply.bytes = service.label i ++ message.data.bytes ++ [last]

namespace Endpoint

/-- The buffer that the slot records: the responder takes a slot of length
zero for empty, and has done with the slot it is about to clear. -/
def recorded (endpoint : Endpoint) : Stage -> List RxBuffer
  | .clearing | .cleared => []
  | .elsewhere | .replying | .releasing =>
      if endpoint.slot.len = 0 then [] else endpoint.slot.data.toList

/-- The recorded buffer, until its message is answered. -/
def unanswered (endpoint : Endpoint) : Stage -> List RxBuffer
  | .releasing => []
  | stage => endpoint.recorded stage

/-- All of the received messages but the recorded one are answered. -/
def AnsweredInOrder (service : Service) (i : Nat) (stage : Stage) (endpoint : Endpoint) : Prop :=
  Exists fun answered => Exists fun pending =>
    endpoint.received = answered ++ pending ∧
      pending.map Message.data = endpoint.unanswered stage ∧
      List.Forall₂ (service.Answers i) answered endpoint.sent

/-- An endpoint along orderly runs. -/
structure Ok (service : Service) (i : Nat) (stage : Stage) (endpoint : Endpoint) : Prop where
  answered : Exists fun answered => Exists fun pending =>
    endpoint.received = answered ++ pending ∧
      pending.map Message.data = endpoint.unanswered stage ∧
      List.Forall₂ (service.Answers i) answered endpoint.sent ∧
      forall message, message ∈ pending -> service.repliesToSource = true ->
        message.src = endpoint.slot.src
  releasedOnce : endpoint.received.map Message.data =
    endpoint.released ++ endpoint.recorded stage
  held : endpoint.held = endpoint.recorded stage
  slot : endpoint.slot.len ≠ 0 -> Exists fun data =>
    endpoint.slot.data = some data ∧ data.bytes.length = endpoint.slot.len
  busy : stage = .replying ∨ stage = .releasing -> endpoint.slot.len ≠ 0
  cleared : stage = .cleared -> endpoint.slot.len = 0

/-- The messages without an answer are counted by the slot. -/
theorem AnsweredInOrder.count {service : Service} {i : Nat} {stage : Stage} {endpoint : Endpoint}
    (answered : endpoint.AnsweredInOrder service i stage) :
    endpoint.received.length = endpoint.sent.length + (endpoint.unanswered stage).length := by
  rcases answered with ⟨answered, pending, received, waiting, sent⟩
  rw [received, List.length_append, sent.length_eq, ← waiting, List.length_map]

theorem recorded_empty {endpoint : Endpoint} (stage : Stage) (empty : endpoint.slot.len = 0) :
    endpoint.recorded stage = [] := by
  cases stage <;> simp only [recorded, empty, if_true]

theorem unanswered_empty {endpoint : Endpoint} (stage : Stage) (empty : endpoint.slot.len = 0) :
    endpoint.unanswered stage = [] := by
  cases stage <;> simp only [unanswered, recorded_empty _ empty]

theorem record_recorded (service : Service) (endpoint : Endpoint) {message : Message}
    (arrived : message.data.bytes ≠ []) :
    (endpoint.record service message).recorded .elsewhere = [message.data] := by
  have counted : message.data.bytes.length ≠ 0 :=
    fun none => arrived (List.eq_nil_of_length_eq_zero none)
  exact if_neg counted

end Endpoint

namespace Responder

variable (accepts : Nat -> Bool) {service : Service} {responder next : Responder}

/-- The property of the service: every message is answered once and in order,
every held buffer is recorded or has been released once, and the responder is
not blocked while a message is recorded. -/
structure Serves (service : Service) (responder : Responder) : Prop where
  noFault : responder.fault = false
  answered : forall i,
    (responder.ept i).AnsweredInOrder service i (responder.pc.stage i)
  releasedOnce : forall i, (responder.ept i).received.map Message.data =
    (responder.ept i).released ++ (responder.ept i).recorded (responder.pc.stage i)
  heldRecorded : forall i,
    (responder.ept i).held = (responder.ept i).recorded (responder.pc.stage i)
  awake : responder.pc = .wait -> responder.sem = false ->
    forall i, (responder.ept i).recorded .elsewhere = []

/-- A message arrives for an empty slot that is set and that the responder is
not about to clear, it is not empty, and its reply fits; and no message waits
for the responder's first `k_sem_take()` of the loop without a token. -/
def Orderly (service : Service) (responder : Responder) : Event -> Prop
  | .receive i message =>
      (responder.ept i).priv = true ∧ message.data.bytes ≠ [] ∧
        (responder.ept i).slot.len = 0 ∧
        responder.pc.stage i ≠ .clearing ∧ responder.pc.stage i ≠ .cleared
  | .newService => True
  | .run =>
      match responder.pc with
      | .setup [] => responder.sem = true ∨
          forall i, i < service.maxEpt -> (responder.ept i).slot.len = 0
      | .reply i =>
          replyLength service (responder.ept i).slot.len ≤ txBuffSize ∧
            accepts (replyLength service (responder.ept i).slot.len) = true
      | _ => True

/-- What holds along orderly runs. -/
structure Ok (service : Service) (responder : Responder) : Prop where
  noFault : responder.fault = false
  endpoint : forall i, (responder.ept i).Ok service i (responder.pc.stage i)
  created_lt : forall i, (responder.ept i).created = true -> i < service.maxEpt
  recorded_lt : forall i, (responder.ept i).slot.len ≠ 0 -> i < service.maxEpt
  setup_lt : forall rest, responder.pc = .setup rest ->
    forall statement, statement ∈ rest -> statement.ept < service.maxEpt
  attended : forall i, (responder.ept i).slot.len ≠ 0 -> responder.pc.stage i ≠ .clearing ->
    responder.sem = true ∨ responder.pc.Reaches i

theorem initial_ok (service : Service) (txBuff : ByteMemory) : (initial txBuff).Ok service where
  noFault := rfl
  endpoint := fun i => {
    answered := ⟨[], [], rfl, rfl, List.Forall₂.nil, fun _ member => nomatch member⟩
    releasedOnce := rfl
    held := rfl
    slot := fun recorded => absurd rfl recorded
    busy := fun busy => by rcases busy with busy | busy <;> cases busy
    cleared := fun _ => rfl }
  created_lt := fun _ created => nomatch created
  recorded_lt := fun _ recorded => absurd rfl recorded
  setup_lt := fun _ at_pc => nomatch at_pc
  attended := fun _ recorded => absurd rfl recorded

theorem Ok.serves (ok : responder.Ok service) : responder.Serves service where
  noFault := ok.noFault
  answered := by
    intro i
    rcases (ok.endpoint i).answered with ⟨answered, pending, received, waiting, sent, _⟩
    exact ⟨answered, pending, received, waiting, sent⟩
  releasedOnce := fun i => (ok.endpoint i).releasedOnce
  heldRecorded := fun i => (ok.endpoint i).held
  awake := by
    intro at_pc taken i
    apply Endpoint.recorded_empty
    apply Classical.byContradiction
    intro recorded
    have attended := ok.attended i recorded (by rw [at_pc]; exact Stage.noConfusion)
    rw [at_pc, taken] at attended
    rcases attended with given | reaches
    · cases given
    · exact reaches

/-- What the updated endpoint and all others have, every endpoint has. -/
theorem update_forall (property : Nat -> Endpoint -> Prop) {j : Nat} {endpoint : Endpoint}
    (here : property j endpoint)
    (elsewhere : forall i, i ≠ j -> property i (responder.ept i)) (i : Nat) :
    property i ((responder.update j endpoint).ept i) := by
  by_cases same : i = j
  · subst same
    simpa only [update, Function.update_self] using here
  · simpa only [update, Function.update_of_ne same] using elsewhere i same

/-- One endpoint changes, and the responder moves on; the others see no
difference. -/
theorem Ok.changes (ok : responder.Ok service) {j : Nat} {endpoint : Endpoint} {pc : Pc}
    {sem : Bool} (txBuff : ByteMemory)
    (elsewhere : forall i, i ≠ j -> pc.stage i = responder.pc.stage i)
    (here : endpoint.Ok service j (pc.stage j))
    (created : endpoint.created = true -> j < service.maxEpt)
    (recorded : endpoint.slot.len ≠ 0 -> j < service.maxEpt)
    (setup : forall rest, pc = .setup rest ->
      forall statement, statement ∈ rest -> statement.ept < service.maxEpt)
    (attendedElsewhere : forall i, i ≠ j -> (responder.ept i).slot.len ≠ 0 ->
      responder.sem = true ∨ responder.pc.Reaches i -> sem = true ∨ pc.Reaches i)
    (attendedHere : endpoint.slot.len ≠ 0 -> pc.stage j ≠ .clearing ->
      sem = true ∨ pc.Reaches j) :
    Ok service { responder.update j endpoint with pc := pc, sem := sem, txBuff := txBuff } where
  noFault := ok.noFault
  endpoint := by
    apply update_forall (fun i changed => changed.Ok service i (pc.stage i)) here
    intro i other
    rw [elsewhere i other]
    exact ok.endpoint i
  created_lt :=
    update_forall (fun i changed => changed.created = true -> i < service.maxEpt)
      created (fun i _ => ok.created_lt i)
  recorded_lt :=
    update_forall (fun i changed => changed.slot.len ≠ 0 -> i < service.maxEpt)
      recorded (fun i _ => ok.recorded_lt i)
  setup_lt := setup
  attended := by
    apply update_forall (fun i changed => changed.slot.len ≠ 0 ->
      pc.stage i ≠ .clearing -> sem = true ∨ pc.Reaches i) attendedHere
    intro i other waiting stage
    rw [elsewhere i other] at stage
    exact attendedElsewhere i other waiting (ok.attended i waiting stage)

/-- The responder moves on without touching an endpoint. -/
theorem Ok.goto (ok : responder.Ok service) {pc : Pc} {sem : Bool}
    (stages : forall i, (responder.ept i).Ok service i (pc.stage i))
    (setup : forall rest, pc = .setup rest ->
      forall statement, statement ∈ rest -> statement.ept < service.maxEpt)
    (attended : forall i, (responder.ept i).slot.len ≠ 0 -> pc.stage i ≠ .clearing ->
      sem = true ∨ pc.Reaches i) :
    Ok service { responder with pc := pc, sem := sem } :=
  ⟨ok.noFault, stages, ok.created_lt, ok.recorded_lt, setup, attended⟩

/-- A step on endpoint `i` does not concern the stage of another. -/
theorem stage_of_ne {i j : Nat} (other : i ≠ j) :
    Pc.stage i (.reply j) = .elsewhere ∧ Pc.stage i (.release j) = .elsewhere ∧
      Pc.stage i (.clearLen j) = .elsewhere ∧ Pc.stage i (.clearData j) = .elsewhere := by
  have reversed : j ≠ i := fun same => other same.symm
  simp only [Pc.stage, if_neg reversed, and_self]

/-- Nothing about an endpoint changes between two stages in which its slot
counts, nor for an empty slot. -/
theorem Ok.elsewhere (ok : responder.Ok service) {i : Nat}
    (at_stage : responder.pc.stage i = .elsewhere) : (responder.ept i).Ok service i .elsewhere :=
  at_stage ▸ ok.endpoint i

/-! ## The receive callbacks -/

theorem Ok.receives (ok : responder.Ok service) {i : Nat} {message : Message}
    (created : (responder.ept i).created = true)
    (orderly : responder.Orderly accepts service (.receive i message)) :
    Ok service (responder.recvCallback service i message) := by
  rcases orderly with ⟨priv, data, empty, notClearing, notCleared⟩
  have arrived : message.data.bytes.length ≠ 0 :=
    fun none => data (List.eq_nil_of_length_eq_zero none)
  have stage : responder.pc.stage i = .elsewhere := by
    have busy := (ok.endpoint i).busy
    cases at_stage : responder.pc.stage i with
    | elsewhere => rfl
    | replying => exact absurd empty (busy (Or.inl at_stage))
    | releasing => exact absurd empty (busy (Or.inr at_stage))
    | clearing => exact absurd at_stage notClearing
    | cleared => exact absurd at_stage notCleared
  have endpoint := ok.elsewhere stage
  have none := Endpoint.recorded_empty .elsewhere empty
  rw [recvCallback, if_pos priv]
  refine ok.changes responder.txBuff (fun _ _ => rfl) ?_ (fun _ => ok.created_lt i created)
    (fun _ => ok.created_lt i created) ok.setup_lt (fun _ _ _ _ => Or.inl rfl)
    (fun _ _ => Or.inl rfl)
  have recorded := Endpoint.record_recorded service (responder.ept i) data
  rw [update_pc, stage]
  refine ⟨?_, ?_, ?_, fun _ => ⟨_, rfl, rfl⟩, fun _ => arrived, fun cleared => nomatch cleared⟩
  · rcases endpoint.answered with ⟨answered, pending, received, waiting, sent, _⟩
    have nothing : pending = [] := by
      rw [Endpoint.unanswered_empty .elsewhere empty] at waiting
      exact List.map_eq_nil_iff.mp waiting
    refine ⟨answered, [message], ?_, recorded.symm, sent, ?_⟩
    · simp only [Endpoint.record, received, nothing, List.append_nil]
    · intro pendingMessage member toSource
      rw [List.mem_singleton.mp member]
      simp only [Endpoint.record, toSource, if_true]
  · rw [recorded]
    have released := endpoint.releasedOnce
    rw [none, List.append_nil] at released
    simp only [Endpoint.record, List.map_append, released, List.map_cons, List.map_nil]
  · rw [recorded]
    simp only [Endpoint.record, endpoint.held, none, List.nil_append]

/-- The callback keeps the service only of an orderly message. -/
theorem Ok.receive_orderly (ok : responder.Ok service) {i : Nat} {message : Message}
    (serves : (responder.recvCallback service i message).Serves service) :
    responder.Orderly accepts service (.receive i message) := by
  cases priv : (responder.ept i).priv with
  | false =>
      have fault := serves.noFault
      simp only [recvCallback, priv, Bool.false_eq_true, if_false] at fault
      cases fault
  | true =>
      have held := serves.heldRecorded i
      rw [recvCallback, if_pos priv] at held
      change ((responder.update i _).ept i).held =
        ((responder.update i _).ept i).recorded (responder.pc.stage i) at held
      rw [update_ept] at held
      have before := (ok.endpoint i).held
      have slot := (ok.endpoint i).slot
      refine ⟨priv, ?_⟩
      cases at_stage : responder.pc.stage i with
      | clearing | cleared =>
          rw [at_stage] at held
          exact absurd held (List.append_ne_nil_of_right_ne_nil _ (List.cons_ne_nil _ _))
      | elsewhere | replying | releasing =>
          rw [at_stage] at held before
          have arrived : message.data.bytes ≠ [] := by
            intro none
            have empty : ((responder.ept i).record service message).slot.len = 0 := by
              simp only [Endpoint.record, none, List.length_nil]
            rw [Endpoint.recorded_empty _ empty] at held
            exact absurd held (List.append_ne_nil_of_right_ne_nil _ (List.cons_ne_nil _ _))
          refine ⟨arrived, ?_, Stage.noConfusion, Stage.noConfusion⟩
          apply Classical.byContradiction
          intro recorded
          rcases slot recorded with ⟨data, stored, _⟩
          have one := held.trans (Endpoint.record_recorded service (responder.ept i) arrived)
          have lengths := congrArg List.length one
          simp only [Endpoint.record, before, Endpoint.recorded, if_neg recorded, stored,
            Option.toList_some, List.length_append, List.length_singleton] at lengths
          cases lengths

/-! ## The responder's loop -/

/-- Replying to, releasing or clearing endpoint `j` does not concern the
others, which are reached before as after. -/
theorem Ok.serving (ok : responder.Ok service) {j : Nat} {endpoint : Endpoint} {pc : Pc}
    (txBuff : ByteMemory)
    (before : forall i, i ≠ j -> responder.pc.stage i = .elsewhere)
    (after : forall i, i ≠ j -> pc.stage i = .elsewhere)
    (here : endpoint.Ok service j (pc.stage j))
    (created : endpoint.created = (responder.ept j).created)
    (recorded : endpoint.slot.len ≠ 0 -> (responder.ept j).slot.len ≠ 0)
    (setup : forall rest, pc ≠ .setup rest)
    (reaches : forall i, i < service.maxEpt -> i ≠ j -> responder.pc.Reaches i -> pc.Reaches i)
    (attended : endpoint.slot.len ≠ 0 -> pc.stage j ≠ .clearing ->
      responder.sem = true ∨ pc.Reaches j) :
    Ok service { responder.update j endpoint with pc := pc, txBuff := txBuff } := by
  refine ok.changes txBuff (fun i other => (after i other).trans (before i other).symm) here
    (fun made => ok.created_lt j (created ▸ made)) (fun waiting => ok.recorded_lt j (recorded waiting))
    (fun rest at_setup => absurd at_setup (setup rest)) ?_ attended
  intro i other waiting earlier
  rcases earlier with given | reached
  · exact Or.inl given
  · exact Or.inr (reaches i (ok.recorded_lt i waiting) other reached)

/-- The reply that is sent answers the recorded message; its last byte is what `tx_buff`
has behind the data. -/
theorem compose_answers (service : Service) (txBuff : ByteMemory) (i : Nat) (data : RxBuffer) :
    (compose service txBuff i data data.bytes.length).readBytes 0
        (replyLength service data.bytes.length) =
      service.label i ++ data.bytes ++ [compose service txBuff i data data.bytes.length
        (service.dataOffset + data.bytes.length)] := by
  have label := service.label_length i
  have split : replyLength service data.bytes.length =
      (service.dataOffset + data.bytes.length) + 1 := by
    rw [replyLength, ← Nat.add_assoc, Nat.add_comm data.bytes.length]
  have last : forall memory : ByteMemory, forall place : Nat,
      memory.readBytes place 1 = [memory place] := fun _ _ => rfl
  rw [split, ByteMemory.readBytes_add, ByteMemory.readBytes_add, last, Nat.zero_add,
    Nat.zero_add]
  refine congrArg₂ _ (congrArg₂ _ ?_ ?_) rfl
  · have whole := ByteMemory.readBytes_writeBytes_same txBuff 0 (service.label i ++ [0])
    rw [List.length_append, label, List.length_singleton, ByteMemory.readBytes_add] at whole
    rw [compose, ByteMemory.readBytes_writeBytes_of_disjoint _ _
      (Or.inl (Nat.le_of_eq (Nat.zero_add _)))]
    exact (List.append_inj whole (by rw [ByteMemory.readBytes_length, label])).1
  · rw [compose, List.take_length]
    exact ByteMemory.readBytes_writeBytes_same _ _ _

theorem Ok.replies (ok : responder.Ok service) {j : Nat} (at_pc : responder.pc = .reply j)
    (fits : replyLength service (responder.ept j).slot.len ≤ txBuffSize)
    (accepted : accepts (replyLength service (responder.ept j).slot.len) = true) :
    Ok service (responder.sendReply accepts service j) := by
  have stage : responder.pc.stage j = .replying := by rw [at_pc, Pc.stage, if_pos rfl]
  have endpoint := ok.endpoint j
  rw [stage] at endpoint
  have busy := endpoint.busy (Or.inl rfl)
  rcases endpoint.slot busy with ⟨data, stored, counted⟩
  rcases endpoint.answered with ⟨answered, pending, received, waiting, sent, source⟩
  have recorded : (responder.ept j).recorded .replying = [data] := by
    rw [Endpoint.recorded, if_neg busy, stored, Option.toList_some]
  have one : pending.map Message.data = [data] := waiting.trans recorded
  rcases List.map_eq_singleton_iff.mp one with ⟨message, only, carried⟩
  subst only
  subst carried
  simp only [sendReply, stored, if_neg (Nat.not_lt.mpr fits), accepted, if_true]
  refine ok.serving _ ?_ ?_ ?_ rfl id (fun _ => Pc.noConfusion) ?_ ?_
  · intro i other
    rw [at_pc]
    exact (stage_of_ne other).1
  · intro i other
    exact (stage_of_ne other).2.1
  · rw [Pc.stage, if_pos rfl]
    refine ⟨?_, ?_, ?_, endpoint.slot, fun _ => busy, fun cleared => nomatch cleared⟩
    · refine ⟨answered ++ [message], [], ?_, rfl, ?_, fun _ member => nomatch member⟩
      · rw [received, List.append_nil]
      · refine List.rel_append sent (List.Forall₂.cons ?_ List.Forall₂.nil)
        rw [← counted]
        refine ⟨?_, _, compose_answers service responder.txBuff j message.data⟩
        split
        next toSource => rw [source message (List.mem_singleton.mpr rfl) toSource]
        next => rfl
    · rw [endpoint.releasedOnce]
      rfl
    · exact endpoint.held
  · rw [at_pc]
    exact fun _ _ _ reached => reached
  · rw [at_pc] at *
    intro _ _
    exact Or.inr (Nat.le_refl j)

theorem Ok.releases (ok : responder.Ok service) {j : Nat} (at_pc : responder.pc = .release j) :
    Exists fun data => (responder.ept j).slot.data = some data ∧
      Ok service { responder.update j ((responder.ept j).releaseRxBuffer data) with
        pc := .clearLen j } := by
  have stage : responder.pc.stage j = .releasing := by rw [at_pc, Pc.stage, if_pos rfl]
  have endpoint := ok.endpoint j
  rw [stage] at endpoint
  have busy := endpoint.busy (Or.inr rfl)
  rcases endpoint.slot busy with ⟨data, stored, counted⟩
  have recorded : (responder.ept j).recorded .releasing = [data] := by
    rw [Endpoint.recorded, if_neg busy, stored, Option.toList_some]
  refine ⟨data, stored, ?_⟩
  refine ok.serving responder.txBuff ?_ ?_ ?_ rfl id (fun _ => Pc.noConfusion) ?_ ?_
  · intro i other
    rw [at_pc]
    exact (stage_of_ne other).2.1
  · intro i other
    exact (stage_of_ne other).2.2.1
  · rw [Pc.stage, if_pos rfl]
    refine ⟨endpoint.answered, ?_, ?_, endpoint.slot, ?_, fun cleared => nomatch cleared⟩
    · have released := endpoint.releasedOnce
      rw [recorded] at released
      exact released.trans (List.append_nil _).symm
    · have held := endpoint.held
      rw [recorded] at held
      simp only [Endpoint.releaseRxBuffer, held, List.erase_cons_head]
      rfl
    · intro serving
      rcases serving with wrong | wrong <;> cases wrong
  · rw [at_pc]
    exact fun i _ other reached => Nat.lt_of_le_of_ne reached (Ne.symm other)
  · intro _ clearing
    exact absurd (by rw [Pc.stage, if_pos rfl]) clearing

theorem Ok.clearsLen (ok : responder.Ok service) {j : Nat} (at_pc : responder.pc = .clearLen j) :
    Ok service { responder.update j
        { responder.ept j with slot := { (responder.ept j).slot with len := 0 } } with
      pc := .clearData j } := by
  have stage : responder.pc.stage j = .clearing := by rw [at_pc, Pc.stage, if_pos rfl]
  have endpoint := ok.endpoint j
  rw [stage] at endpoint
  refine ok.serving responder.txBuff ?_ ?_ ?_ rfl (fun waiting => absurd rfl waiting)
    (fun _ => Pc.noConfusion) ?_ (fun waiting => absurd rfl waiting)
  · intro i other
    rw [at_pc]
    exact (stage_of_ne other).2.2.1
  · intro i other
    exact (stage_of_ne other).2.2.2
  · rw [Pc.stage, if_pos rfl]
    refine ⟨endpoint.answered, endpoint.releasedOnce, endpoint.held,
      fun waiting => absurd rfl waiting, ?_, fun _ => rfl⟩
    intro serving
    rcases serving with wrong | wrong <;> cases wrong
  · rw [at_pc]
    exact fun _ _ _ reached => reached

theorem Ok.clearsData (ok : responder.Ok service) {j : Nat}
    (at_pc : responder.pc = .clearData j) :
    Ok service { responder.update j
        { responder.ept j with slot := { (responder.ept j).slot with data := none } } with
      pc := if j + 1 < service.maxEpt then .check (j + 1) else .wait } := by
  have stage : responder.pc.stage j = .cleared := by rw [at_pc, Pc.stage, if_pos rfl]
  have endpoint := ok.endpoint j
  rw [stage] at endpoint
  have empty := endpoint.cleared rfl
  have quiet : forall i,
      Pc.stage i (if j + 1 < service.maxEpt then .check (j + 1) else .wait) = .elsewhere := by
    intro i
    split <;> rfl
  refine ok.serving responder.txBuff ?_ (fun i _ => quiet i) ?_ rfl id ?_ ?_
    (fun waiting => absurd empty waiting)
  · intro i other
    rw [at_pc]
    exact (stage_of_ne other).2.2.2
  · rw [quiet]
    have none : Endpoint.recorded { responder.ept j with
        slot := { (responder.ept j).slot with data := none } } .elsewhere = [] :=
      Endpoint.recorded_empty .elsewhere empty
    refine ⟨?_, ?_, ?_, fun waiting => absurd empty waiting, ?_, fun cleared => nomatch cleared⟩
    · rcases endpoint.answered with ⟨answered, pending, received, waiting, sent⟩
      exact ⟨answered, pending, received, waiting.trans none.symm, sent⟩
    · exact endpoint.releasedOnce.trans (congrArg _ none.symm)
    · exact endpoint.held.trans none.symm
    · intro serving
      rcases serving with wrong | wrong <;> cases wrong
  · intro rest
    split <;> exact Pc.noConfusion
  · rw [at_pc]
    intro i within other reached
    have later : j + 1 ≤ i := reached
    rw [if_pos (Nat.lt_of_le_of_lt later within)]
    exact later

/-- A statement of the setup touches neither slots nor buffers. -/
theorem Ok.setsUp (ok : responder.Ok service) {statement : Setup} {rest : List Setup}
    (at_pc : responder.pc = .setup (statement :: rest)) {endpoint : Endpoint}
    (same : endpoint.Ok service statement.ept .elsewhere) :
    Ok service { responder.update statement.ept endpoint with pc := .setup rest } := by
  have bounded := ok.setup_lt _ at_pc
  have within := bounded statement List.mem_cons_self
  refine ok.changes responder.txBuff ?_ same (fun _ => within) (fun _ => within) ?_
    (fun _ _ _ _ => Or.inr trivial) (fun _ _ => Or.inr trivial)
  · intro i _
    rw [at_pc]
    rfl
  · intro remaining at_setup later member
    cases at_setup
    exact bounded later (List.mem_cons_of_mem _ member)

/-- Outside of the set-up nothing is asked of its statements. -/
theorem noSetup {pc : Pc} (elsewhere : forall rest, pc ≠ Pc.setup rest) :
    forall rest, pc = .setup rest ->
      forall statement, statement ∈ rest -> statement.ept < service.maxEpt :=
  fun rest at_setup => absurd at_setup (elsewhere rest)

theorem Ok.starts (ok : responder.Ok service) (at_pc : responder.pc = .start)
    (moved : responder.runStep accepts service = some next) : next.Ok service := by
  have quiet : forall i, responder.pc.stage i = .elsewhere := fun i => by rw [at_pc]; rfl
  cases given : responder.sem with
  | false => simp only [runStep, at_pc, given, Bool.false_eq_true, if_false, reduceCtorEq] at moved
  | true =>
      simp only [runStep, at_pc, given, if_true, Option.some.injEq] at moved
      subst moved
      refine ok.goto (fun i => ok.elsewhere (quiet i)) ?_ (fun _ _ _ => Or.inr trivial)
      intro rest at_setup
      cases at_setup
      exact service.setup_lt

/-- The set-up ends with the semaphore given, or with nothing received. -/
theorem Ok.setupStep (ok : responder.Ok service) {rest : List Setup}
    (at_pc : responder.pc = .setup rest) (orderly : responder.Orderly accepts service .run)
    (moved : responder.runStep accepts service = some next) : next.Ok service := by
  have quiet : forall i, responder.pc.stage i = .elsewhere := fun i => by rw [at_pc]; rfl
  cases rest with
  | nil =>
      simp only [runStep, at_pc, Option.some.injEq] at moved
      subst moved
      refine ok.goto (fun i => ok.elsewhere (quiet i)) (noSetup (fun _ => Pc.noConfusion)) ?_
      intro i waiting _
      simp only [Orderly, at_pc] at orderly
      rcases orderly with given | empty
      · exact Or.inl given
      · exact absurd (empty i (ok.recorded_lt i waiting)) waiting
  | cons statement rest =>
      cases statement with
      | setPriv i | createEpt i =>
          simp only [runStep, at_pc, Option.some.injEq] at moved
          subst moved
          have same := ok.elsewhere (quiet i)
          exact ok.setsUp at_pc
            ⟨same.answered, same.releasedOnce, same.held, same.slot, same.busy, same.cleared⟩

theorem Ok.waits (ok : responder.Ok service) (at_pc : responder.pc = .wait)
    (moved : responder.runStep accepts service = some next) : next.Ok service := by
  have quiet : forall i, responder.pc.stage i = .elsewhere := fun i => by rw [at_pc]; rfl
  cases given : responder.sem with
  | false => simp only [runStep, at_pc, given, Bool.false_eq_true, if_false, reduceCtorEq] at moved
  | true =>
      simp only [runStep, at_pc, given, if_true, Option.some.injEq] at moved
      subst moved
      exact ok.goto (fun i => ok.elsewhere (quiet i)) (noSetup (fun _ => Pc.noConfusion))
        (fun i _ _ => Or.inr (Nat.zero_le i))

/-- An empty slot is passed over; what is waiting lies behind it, or has given the semaphore. -/
theorem Ok.passes (ok : responder.Ok service) {j : Nat} (at_pc : responder.pc = .check j)
    (empty : (responder.ept j).slot.len = 0)
    (reached : forall i, (responder.ept i).slot.len ≠ 0 -> responder.sem = true ∨ j ≤ i)
    (moved : responder.runStep accepts service = some next) : next.Ok service := by
  have quiet : forall i, responder.pc.stage i = .elsewhere := fun i => by rw [at_pc]; rfl
  have same : (responder.ept j).Ok service j .elsewhere := ok.elsewhere (quiet j)
  simp only [runStep, at_pc, empty, ne_eq, not_true_eq_false, if_false, Option.some.injEq] at moved
  subst moved
  refine ok.goto ?_ (noSetup (fun _ => Pc.noConfusion)) ?_
  · intro i
    by_cases here : i = j
    · subst here
      have none := Endpoint.recorded_empty .elsewhere empty
      have released := same.releasedOnce
      have held := same.held
      rw [none] at released held
      rw [Pc.stage, if_pos rfl]
      refine ⟨?_, released, held, same.slot, ?_, Stage.noConfusion⟩
      · rcases same.answered with ⟨answered, pending, received, waiting, sent⟩
        exact ⟨answered, pending, received, waiting.trans none, sent⟩
      · intro serving
        rcases serving with wrong | wrong <;> cases wrong
    · rw [(stage_of_ne here).2.2.1]
      exact ok.elsewhere (quiet i)
  · intro i waiting _
    rcases reached i waiting with given | later
    · exact Or.inl given
    · refine Or.inr (Nat.lt_of_le_of_ne later ?_)
      intro here
      subst here
      exact waiting empty

theorem Ok.checks (ok : responder.Ok service) {j : Nat} (at_pc : responder.pc = .check j)
    (moved : responder.runStep accepts service = some next) : next.Ok service := by
  have quiet : forall i, responder.pc.stage i = .elsewhere := fun i => by rw [at_pc]; rfl
  have reached : forall i, (responder.ept i).slot.len ≠ 0 -> responder.sem = true ∨ j ≤ i := by
    intro i waiting
    have attended := ok.attended i waiting (by rw [quiet]; exact Stage.noConfusion)
    rw [at_pc] at attended
    exact attended
  by_cases empty : (responder.ept j).slot.len = 0
  · exact ok.passes accepts at_pc empty reached moved
  · have same : (responder.ept j).Ok service j .elsewhere := ok.elsewhere (quiet j)
    simp only [runStep, at_pc, ne_eq, empty, not_false_eq_true, if_true, Option.some.injEq]
      at moved
    subst moved
    refine ok.goto ?_ (noSetup (fun _ => Pc.noConfusion)) (fun i waiting _ => reached i waiting)
    intro i
    by_cases here : i = j
    · subst here
      rw [Pc.stage, if_pos rfl]
      exact ⟨same.answered, same.releasedOnce, same.held, same.slot, fun _ => empty,
        Stage.noConfusion⟩
    · rw [(stage_of_ne here).1]
      exact ok.elsewhere (quiet i)

/-- Every step of the responder that meets the condition keeps the invariant. -/
theorem Ok.runs (ok : responder.Ok service) (orderly : responder.Orderly accepts service .run)
    (moved : responder.runStep accepts service = some next) : next.Ok service := by
  cases at_pc : responder.pc with
  | start => exact ok.starts accepts at_pc moved
  | setup rest => exact ok.setupStep accepts at_pc orderly moved
  | wait => exact ok.waits accepts at_pc moved
  | check j => exact ok.checks accepts at_pc moved
  | reply j =>
      simp only [runStep, at_pc, Option.some.injEq] at moved
      simp only [Orderly, at_pc] at orderly
      exact moved ▸ ok.replies accepts at_pc orderly.1 orderly.2
  | release j =>
      rcases ok.releases at_pc with ⟨data, stored, released⟩
      simp only [runStep, at_pc, stored, Option.some.injEq] at moved
      exact moved ▸ released
  | clearLen j =>
      simp only [runStep, at_pc, Option.some.injEq] at moved
      exact moved ▸ ok.clearsLen at_pc
  | clearData j =>
      simp only [runStep, at_pc, Option.some.injEq] at moved
      exact moved ▸ ok.clearsData at_pc

/-- The reply keeps the service only if it fits and is accepted: else the
message would stay unanswered. -/
theorem Ok.reply_orderly (ok : responder.Ok service) {j : Nat} (at_pc : responder.pc = .reply j)
    (serves : (responder.sendReply accepts service j).Serves service) :
    replyLength service (responder.ept j).slot.len ≤ txBuffSize ∧
      accepts (replyLength service (responder.ept j).slot.len) = true := by
  have stage : responder.pc.stage j = .replying := by rw [at_pc, Pc.stage, if_pos rfl]
  have endpoint := ok.endpoint j
  rw [stage] at endpoint
  have busy := endpoint.busy (Or.inl rfl)
  rcases endpoint.slot busy with ⟨data, stored, _⟩
  have fits : replyLength service (responder.ept j).slot.len ≤ txBuffSize := by
    apply Nat.le_of_not_lt
    intro tooLong
    have fault := serves.noFault
    simp only [sendReply, stored, if_pos tooLong] at fault
    cases fault
  refine ⟨fits, ?_⟩
  cases accepted : accepts (replyLength service (responder.ept j).slot.len) with
  | true => rfl
  | false =>
      have dropped : responder.sendReply accepts service j =
          { responder.update j (responder.ept j) with
            pc := .release j
            txBuff := compose service responder.txBuff j data (responder.ept j).slot.len } := by
        simp only [sendReply, stored, if_neg (Nat.not_lt.mpr fits), accepted, Bool.false_eq_true,
          if_false, List.append_nil]
      rw [dropped] at serves
      have after := serves.answered j
      change ((responder.update j _).ept j).AnsweredInOrder service j (Pc.stage j (.release j))
        at after
      rw [update_ept, Pc.stage, if_pos rfl] at after
      have before := ok.serves.answered j
      rw [stage] at before
      have one : ((responder.ept j).unanswered .replying).length = 1 := by
        have recorded : (responder.ept j).recorded .replying = [data] := by
          rw [Endpoint.recorded, if_neg busy, stored, Option.toList_some]
        exact congrArg List.length recorded
      have counts := before.count.symm.trans after.count
      rw [one] at counts
      exact absurd counts (Nat.succ_ne_self _)

/-- Each step that keeps the service meets the condition. -/
theorem Ok.orderly (ok : responder.Ok service) {event : Event}
    (moved : responder.step accepts service event = some next) (serves : next.Serves service) :
    responder.Orderly accepts service event := by
  cases event with
  | receive i message =>
      simp only [step, Option.ite_none_right_eq_some, Option.some.injEq] at moved
      rcases moved with ⟨_, after⟩
      subst after
      exact ok.receive_orderly accepts serves
  | newService => trivial
  | run =>
      cases at_pc : responder.pc with
      | reply j =>
          simp only [step, runStep, at_pc, Option.some.injEq] at moved
          subst moved
          simp only [Orderly, at_pc]
          exact ok.reply_orderly accepts at_pc serves
      | setup rest =>
          cases rest with
          | cons statement rest => simp only [Orderly, at_pc]
          | nil =>
              simp only [step, runStep, at_pc, Option.some.injEq] at moved
              subst moved
              simp only [Orderly, at_pc]
              cases given : responder.sem with
              | true => exact Or.inl rfl
              | false =>
                  refine Or.inr (fun i _ => ?_)
                  apply Classical.byContradiction
                  intro waiting
                  rcases (ok.endpoint i).slot waiting with ⟨data, stored, _⟩
                  have none := serves.awake rfl given i
                  rw [Endpoint.recorded, if_neg waiting, stored] at none
                  cases none
      | start | wait | check j | release j | clearLen j | clearData j =>
          simp only [Orderly, at_pc]

/-- `new_service_cb()` sets the slot of the endpoint before it exists. -/
theorem Ok.binds (ok : responder.Ok service) {i : Nat} (named : service.newService = some i) :
    Ok service (responder.update i { responder.ept i with priv := true, created := true }) := by
  have within := service.newService_lt i named
  have endpoint := ok.endpoint i
  exact ok.changes responder.txBuff (fun _ _ => rfl)
    ⟨endpoint.answered, endpoint.releasedOnce, endpoint.held, endpoint.slot, endpoint.busy,
      endpoint.cleared⟩
    (fun _ => within) (fun _ => within) ok.setup_lt (fun _ _ _ earlier => earlier)
    (fun waiting stage => ok.attended i waiting stage)

theorem Ok.step (ok : responder.Ok service) {event : Event}
    (orderly : responder.Orderly accepts service event)
    (moved : responder.step accepts service event = some next) : next.Ok service := by
  cases event with
  | receive i message =>
      simp only [Responder.step, Option.ite_none_right_eq_some, Option.some.injEq] at moved
      rcases moved with ⟨created, after⟩
      exact after ▸ ok.receives accepts created orderly
  | newService =>
      cases named : service.newService with
      | none => simp only [Responder.step, named, reduceCtorEq] at moved
      | some i =>
          simp only [Responder.step, named, Option.ite_none_left_eq_some, Option.some.injEq] at moved
          exact moved.2 ▸ ok.binds named
  | run => exact ok.runs accepts orderly moved

end Responder
end Zephyr
end OpenAmpReference
