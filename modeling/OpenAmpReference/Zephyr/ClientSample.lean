import OpenAmpReference.Library.ByteMemory

namespace OpenAmpReference
namespace Zephyr

/-!
# The client-sample responder

This service copies each message into one static buffer of twenty bytes and
answers a hundred times.  A message that arrives before the previous one is
sent back takes its place.
-/

/-- Before the statements of `app_rpmsg_client_sample()`. -/
inductive ClientPc
  | start
  | create
  | wait
  | send
  | destroy
  | done
  deriving DecidableEq, Repr

/-- The client-sample service at run time.  `received` holds the messages that
arrive before the last answer. -/
structure ClientSample where
  pc : ClientPc
  sem : Bool
  msgCnt : Nat
  rxCsMsg : ByteMemory
  len : Nat
  created : Bool
  received : List (List UInt8)
  sent : List (List UInt8)
  fault : Bool

inductive ClientEvent
  | receive (data : List UInt8)
  | run
  deriving DecidableEq, Repr

namespace ClientSample

def initial : ClientSample where
  pc := .start
  sem := true
  msgCnt := 0
  rxCsMsg := fun _ => 0
  len := 0
  created := false
  received := []
  sent := []
  fault := false

/-- The size of `rx_cs_msg`. -/
def rxCsMsgSize : Nat := 20

/-- The number of answers. -/
def maxMsgCnt : Nat := 100

/-- The message in `cs_msg` -/
def csMsg (client : ClientSample) : List UInt8 :=
  client.rxCsMsg.readBytes 0 client.len

/-- `rpmsg_recv_cs_callback()` -/
def recvCsCallback (client : ClientSample) (data : List UInt8) : ClientSample :=
  if rxCsMsgSize < data.length then { client with fault := true }
  else
    { client with
      rxCsMsg := client.rxCsMsg.writeBytes 0 data
      len := data.length
      sem := true
      received := if client.pc = .destroy then client.received else client.received ++ [data] }

variable (accepts : Nat -> Bool)

/-- One step of `app_rpmsg_client_sample()`; `none` while it is blocked. -/
def runStep (client : ClientSample) : Option ClientSample :=
  match client.pc with
  | .start => if client.sem then some { client with sem := false, pc := .create } else none
  | .create => some { client with created := true, pc := .wait }
  | .wait =>
      if client.sem then
        some { client with sem := false, msgCnt := client.msgCnt + 1, pc := .send }
      else none
  | .send =>
      some { client with
        sent := client.sent ++ if accepts client.len then [client.csMsg] else []
        pc := if client.msgCnt < maxMsgCnt then .wait else .destroy }
  | .destroy => some { client with created := false, pc := .done }
  | .done => none

def step (client : ClientSample) : ClientEvent -> Option ClientSample
  | .receive data => if client.created then some (client.recvCsCallback data) else none
  | .run => client.runStep accepts

/-! ## When the service answers every message -/

/-- The messages that the responder has still to send back: the one it has
counted, and one more if the semaphore makes it take another. -/
def pending (client : ClientSample) : List (List UInt8) :=
  match client.pc with
  | .wait => if client.sem ∧ client.msgCnt < maxMsgCnt then [client.csMsg] else []
  | .send =>
      client.csMsg :: if client.sem ∧ client.msgCnt < maxMsgCnt then [client.csMsg] else []
  | .start | .create | .destroy | .done => []

structure Serves (client : ClientSample) : Prop where
  noFault : client.fault = false
  answered : client.received = client.sent ++ client.pending

/-- A message fits, and it arrives after the previous one has been sent back;
an equal message may arrive while the responder is about to send.  What the
responder sends is accepted. -/
def Orderly (client : ClientSample) : ClientEvent -> Prop
  | .receive data =>
      data.length ≤ rxCsMsgSize ∧
        match client.pc with
        | .wait => client.sem = false
        | .send => client.sem = false ∧ client.msgCnt < maxMsgCnt ∧ data = client.csMsg
        | .start | .create | .destroy | .done => True
  | .run => client.pc = .send -> accepts client.len = true

/-- What holds along orderly runs. -/
structure Ok (client : ClientSample) : Prop where
  noFault : client.fault = false
  answered : client.received = client.sent ++ client.pending
  created : client.created = true ->
    client.pc = .wait ∨ client.pc = .send ∨ client.pc = .destroy
  notStarted : client.pc = .start ∨ client.pc = .create -> client.msgCnt = 0
  taken : client.pc = .create -> client.sem = false
  counted : client.pc = .wait -> client.msgCnt < maxMsgCnt
  last : client.pc = .send -> client.msgCnt = maxMsgCnt -> client.sem = false
  bounded : client.msgCnt ≤ maxMsgCnt

variable {client next : ClientSample}

theorem initial_ok : initial.Ok where
  noFault := rfl
  answered := rfl
  created := nofun
  notStarted := fun _ => rfl
  taken := nofun
  counted := nofun
  last := nofun
  bounded := Nat.zero_le _

theorem Ok.serves (ok : client.Ok) : client.Serves :=
  ⟨ok.noFault, ok.answered⟩

/-- What the callback has copied is what arrived. -/
theorem recvCsCallback_csMsg (client : ClientSample) {data : List UInt8}
    (fits : data.length ≤ rxCsMsgSize) : (client.recvCsCallback data).csMsg = data := by
  rw [recvCsCallback, if_neg (Nat.not_lt.mpr fits)]
  exact ByteMemory.readBytes_writeBytes_same client.rxCsMsg 0 data

theorem recvCsCallback_fields (client : ClientSample) {data : List UInt8}
    (fits : data.length ≤ rxCsMsgSize) :
    (client.recvCsCallback data).pc = client.pc ∧ (client.recvCsCallback data).sem = true ∧
      (client.recvCsCallback data).msgCnt = client.msgCnt ∧
      (client.recvCsCallback data).sent = client.sent := by
  rw [recvCsCallback, if_neg (Nat.not_lt.mpr fits)]
  exact ⟨rfl, rfl, rfl, rfl⟩

theorem recvCsCallback_pending (client : ClientSample) {data : List UInt8}
    (fits : data.length ≤ rxCsMsgSize) :
    (client.recvCsCallback data).pending =
      match client.pc with
      | .wait => if client.msgCnt < maxMsgCnt then [data] else []
      | .send => data :: if client.msgCnt < maxMsgCnt then [data] else []
      | .start | .create | .destroy | .done => [] := by
  rcases client.recvCsCallback_fields fits with ⟨pc, sem, msgCnt, _⟩
  rw [pending, client.recvCsCallback_csMsg fits, pc, sem, msgCnt]
  simp only [true_and]

theorem recvCsCallback_received (client : ClientSample) {data : List UInt8}
    (fits : data.length ≤ rxCsMsgSize) : (client.recvCsCallback data).received =
      if client.pc = .destroy then client.received else client.received ++ [data] := by
  rw [recvCsCallback, if_neg (Nat.not_lt.mpr fits)]

/-- A callback changes only what is received and what is pending. -/
theorem Ok.records (ok : client.Ok) {data : List UInt8} (created : client.created = true)
    (fits : data.length ≤ rxCsMsgSize)
    (answered : (client.recvCsCallback data).received =
      client.sent ++ (client.recvCsCallback data).pending)
    (notLast : client.pc = .send -> client.msgCnt ≠ maxMsgCnt) :
    (client.recvCsCallback data).Ok := by
  rw [recvCsCallback, if_neg (Nat.not_lt.mpr fits)] at answered ⊢
  refine ⟨ok.noFault, answered, ok.created, ok.notStarted, ?_, ok.counted,
    fun at_pc all => absurd all (notLast at_pc), ok.bounded⟩
  intro at_pc
  have creating : client.pc = .create := at_pc
  rcases ok.created created with wrong | wrong | wrong <;> cases creating.symm.trans wrong

theorem Ok.receives (ok : client.Ok) {data : List UInt8} (created : client.created = true)
    (orderly : client.Orderly accepts (.receive data)) : (client.recvCsCallback data).Ok := by
  rcases orderly with ⟨fits, quiet⟩
  have answered := ok.answered
  apply ok.records created fits
  · rw [client.recvCsCallback_received fits, client.recvCsCallback_pending fits, answered]
    rcases ok.created created with at_pc | at_pc | at_pc
    · simp only [at_pc] at quiet
      simp only [pending, at_pc, quiet, ok.counted at_pc, Bool.false_eq_true, false_and, if_false,
        if_true, reduceCtorEq, List.append_nil]
    · simp only [at_pc] at quiet
      simp only [pending, at_pc, quiet, Bool.false_eq_true, false_and, if_false,
        if_true, reduceCtorEq, List.append_assoc, List.singleton_append]
    · simp only [pending, at_pc, if_true]
  · intro at_pc all
    simp only [at_pc] at quiet
    exact absurd all (Nat.ne_of_lt quiet.2.1)

/-- A message that keeps the service is orderly. -/
theorem Ok.receive_orderly (ok : client.Ok) {data : List UInt8}
    (serves : (client.recvCsCallback data).Serves) :
    client.Orderly accepts (.receive data) := by
  have fits : data.length ≤ rxCsMsgSize := by
    apply Nat.le_of_not_lt
    intro tooLong
    have fault := serves.noFault
    rw [recvCsCallback, if_pos tooLong] at fault
    cases fault
  refine ⟨fits, ?_⟩
  have before := ok.answered
  have after := serves.answered
  rw [client.recvCsCallback_received fits, client.recvCsCallback_pending fits,
    (client.recvCsCallback_fields fits).2.2.2] at after
  cases at_pc : client.pc with
  | start | create | destroy | done => trivial
  | wait =>
      have counted := ok.counted at_pc
      simp only [at_pc, reduceCtorEq, if_false, counted, if_true] at after
      cases given : client.sem with
      | false => rfl
      | true =>
          simp only [pending, at_pc, given, counted, and_self, if_true] at before
          rw [before, List.append_assoc] at after
          cases List.append_cancel_left after
  | send =>
      simp only [at_pc, reduceCtorEq, if_false] at after
      rw [before, pending, at_pc, List.append_assoc] at after
      have same := List.append_cancel_left after
      cases given : client.sem with
      | true =>
          have counted : client.msgCnt < maxMsgCnt := by
            apply Nat.lt_of_le_of_ne ok.bounded
            intro all
            cases given.symm.trans (ok.last at_pc all)
          simp only [given, counted, and_self, if_true] at same
          cases same
      | false =>
          simp only [given, Bool.false_eq_true, false_and, if_false] at same
          by_cases counted : client.msgCnt < maxMsgCnt
          · rw [if_pos counted] at same
            exact ⟨rfl, counted, (List.cons.inj same).1.symm⟩
          · rw [if_neg counted] at same
            cases same

theorem Ok.runs (ok : client.Ok) (orderly : client.Orderly accepts .run)
    (moved : client.runStep accepts = some next) : next.Ok := by
  have answered := ok.answered
  cases at_pc : client.pc with
  | start =>
      simp only [runStep, at_pc, Option.ite_none_right_eq_some, Option.some.injEq] at moved
      rcases moved with ⟨_, after⟩
      subst after
      simp only [pending, at_pc] at answered
      refine ⟨ok.noFault, answered, ?_, fun _ => ok.notStarted (Or.inl at_pc), fun _ => rfl,
        nofun, nofun, ok.bounded⟩
      intro created
      rcases ok.created created with wrong | wrong | wrong <;> cases at_pc.symm.trans wrong
  | create =>
      simp only [runStep, at_pc, Option.some.injEq] at moved
      subst moved
      simp only [pending, at_pc] at answered
      have first := ok.notStarted (Or.inr at_pc)
      refine ⟨ok.noFault, ?_, fun _ => Or.inl rfl, ?_, nofun, ?_,
        nofun, ok.bounded⟩
      · simp only [pending, ok.taken at_pc, Bool.false_eq_true, false_and, if_false]
        exact answered
      · intro wrong
        rcases wrong with wrong | wrong <;> cases wrong
      · intro _
        rw [first]
        decide
  | wait =>
      simp only [runStep, at_pc, Option.ite_none_right_eq_some, Option.some.injEq] at moved
      rcases moved with ⟨given, after⟩
      subst after
      have counted := ok.counted at_pc
      simp only [pending, at_pc, given, counted, and_self, if_true] at answered
      refine ⟨ok.noFault, ?_, fun _ => Or.inr (Or.inl rfl), ?_, nofun,
        nofun, fun _ _ => rfl, counted⟩
      · simp only [pending, Bool.false_eq_true, false_and, if_false]
        exact answered
      · intro wrong
        rcases wrong with wrong | wrong <;> cases wrong
  | send =>
      simp only [runStep, at_pc, Option.some.injEq] at moved
      subst moved
      rw [orderly at_pc, if_pos rfl]
      simp only [pending, at_pc] at answered
      by_cases counted : client.msgCnt < maxMsgCnt
      · rw [if_pos counted]
        refine ⟨ok.noFault, ?_, fun _ => Or.inl rfl, ?_, nofun,
          fun _ => counted, nofun, ok.bounded⟩
        · rw [answered, pending, List.append_assoc]
          rfl
        · intro wrong
          rcases wrong with wrong | wrong <;> cases wrong
      · rw [if_neg counted]
        refine ⟨ok.noFault, ?_, fun _ => Or.inr (Or.inr rfl), ?_, nofun,
          nofun, nofun, ok.bounded⟩
        · rw [answered, pending, List.append_nil]
          simp only [counted, and_false, if_false]
        · intro wrong
          rcases wrong with wrong | wrong <;> cases wrong
  | destroy =>
      simp only [runStep, at_pc, Option.some.injEq] at moved
      subst moved
      simp only [pending, at_pc] at answered
      refine ⟨ok.noFault, answered, nofun, ?_, nofun,
        nofun, nofun, ok.bounded⟩
      intro wrong
      rcases wrong with wrong | wrong <;> cases wrong
  | done => simp only [runStep, at_pc, reduceCtorEq] at moved

theorem Ok.step (ok : client.Ok) {event : ClientEvent} (orderly : client.Orderly accepts event)
    (moved : client.step accepts event = some next) : next.Ok := by
  cases event with
  | receive data =>
      simp only [ClientSample.step, Option.ite_none_right_eq_some, Option.some.injEq] at moved
      exact moved.2 ▸ ok.receives accepts moved.1 orderly
  | run => exact ok.runs accepts orderly moved

/-- Each step that keeps the service meets the condition. -/
theorem Ok.orderly (ok : client.Ok) {event : ClientEvent}
    (moved : client.step accepts event = some next) (serves : next.Serves) :
    client.Orderly accepts event := by
  cases event with
  | receive data =>
      simp only [ClientSample.step, Option.ite_none_right_eq_some, Option.some.injEq] at moved
      exact ok.receive_orderly accepts (moved.2 ▸ serves)
  | run =>
      intro at_pc
      cases accepted : accepts client.len with
      | true => rfl
      | false =>
          simp only [ClientSample.step, runStep, at_pc, Option.some.injEq, accepted,
            Bool.false_eq_true, if_false, List.append_nil] at moved
          have before := ok.answered
          have after := serves.answered
          subst moved
          rw [before] at after
          have same := List.append_cancel_left after
          by_cases counted : client.msgCnt < maxMsgCnt <;> cases given : client.sem <;>
            simp only [pending, at_pc, counted, given, if_true, if_false, and_true, and_false,
              Bool.false_eq_true] at same <;> cases same

end ClientSample
end Zephyr
end OpenAmpReference
