import OpenAmpReference.LegacyApps.MatrixRounds

namespace OpenAmpReference
namespace MatrixRounds

/-!
# Every round gets its product

In every state that the demonstration reaches the results the host has accepted
are the products of the requests, in their order, and at most one message is
under way.  What a failed send can do is exactly known: it is harmless, or it
leaves one of the two programs waiting for ever.
-/

open MatrixMultiply
open Sessions (maxSize)
open Workload (Digits)

/-! ## The states that can be reached -/

def Arrival.payload? : Arrival -> Option (List UInt8)
  | message data => some data
  | announced | destroyed => none

/-- The messages of a queue without the announcements. -/
def messages (queue : List Arrival) : List (List UInt8) := queue.filterMap Arrival.payload?

@[simp] theorem messages_nil : messages [] = [] := rfl

@[simp] theorem messages_announced (queue : List Arrival) :
    messages (.announced :: queue) = messages queue := rfl

@[simp] theorem messages_message (data : List UInt8) (queue : List Arrival) :
    messages (.message data :: queue) = data :: messages queue := rfl

@[simp] theorem messages_destroyed (queue : List Arrival) :
    messages (.destroyed :: queue) = messages queue := rfl

@[simp] theorem messages_append (first second : List Arrival) :
    messages (first ++ second) = messages first ++ messages second :=
  List.filterMap_append

theorem nonempty_of_messages {queue : List Arrival} (waits : messages queue ≠ []) : queue ≠ [] := by
  intro empty
  rw [empty] at waits
  exact waits rfl

/-- The endpoint of the host exists. -/
def HostPc.bound : HostPc -> Bool
  | .waitReady | .generate | .send | .polling | .destroyEpt => true
  | .createEpt | .returned | .failed | .fault => false

/-- The remote has announced itself to the host. -/
def HostPc.started : HostPc -> Bool
  | .generate | .send | .polling | .destroyEpt | .returned => true
  | .createEpt | .waitReady | .failed | .fault => false

/-- So many results have been accepted, for as many requests. -/
structure Answered (asked : List (Matrix × Matrix)) (taken : List Matrix) (count : Nat) :
    Prop where
  products : List.Forall₂ IsProduct asked taken
  taken : taken.length = count

/-- All but the last request have been answered. -/
def Asked (operands : Matrix × Matrix) (asked : List (Matrix × Matrix)) (taken : List Matrix)
    (count : Nat) : Prop :=
  Exists fun earlier => asked = earlier ++ [operands] ∧ Answered earlier taken count

theorem Asked.answered {operands : Matrix × Matrix} {asked : List (Matrix × Matrix)}
    {taken : List Matrix} {count : Nat} (pending : Asked operands asked taken count)
    {result : Matrix} (proper : IsProduct operands result) :
    Answered asked (taken ++ [result]) (count + 1) := by
  rcases pending with ⟨earlier, rfl, answered⟩
  constructor
  · exact List.rel_append answered.products (List.Forall₂.cons proper List.Forall₂.nil)
  · rw [List.length_append, answered.taken, List.length_singleton]

theorem Answered.prefix_products {asked : List (Matrix × Matrix)} {taken : List Matrix}
    {count : Nat} (answered : Answered asked taken count) :
    List.Forall₂ IsProduct (asked.take taken.length) taken := by
  rw [← answered.products.length_eq, List.take_length]
  exact answered.products

theorem Asked.prefix_products {operands : Matrix × Matrix} {asked : List (Matrix × Matrix)}
    {taken : List Matrix} {count : Nat} (pending : Asked operands asked taken count) :
    List.Forall₂ IsProduct (asked.take taken.length) taken := by
  rcases pending with ⟨earlier, rfl, answered⟩
  rw [← answered.products.length_eq, List.take_left]
  exact answered.products

theorem Asked.length {operands : Matrix × Matrix} {asked : List (Matrix × Matrix)}
    {taken : List Matrix} {count : Nat} (pending : Asked operands asked taken count) :
    asked.length = taken.length + 1 := by
  rcases pending with ⟨earlier, rfl, answered⟩
  rw [List.length_append, answered.products.length_eq, List.length_singleton]

/-- The matrices of the round and the product the host expects. -/
structure Prepared (operands : Matrix × Matrix) (eMatrix : Matrix) : Prop where
  left : Digits operands.1
  right : Digits operands.2
  expected : eMatrix = product operands.1 operands.2

/-- No message is under way. -/
def Silent (toHost toRemote : List Arrival) : Prop :=
  messages toHost = [] ∧ messages toRemote = []

/-- The request is under way, or its answer, or neither. -/
def UnderWay (operands : Matrix × Matrix) (toHost toRemote : List Arrival) : Prop :=
  messages toHost = [] ∧ messages toRemote = [request operands.1 operands.2] ∨
    messages toHost = [(product operands.1 operands.2).bytes] ∧ messages toRemote = [] ∨
    Silent toHost toRemote

theorem Silent.asks {toHost toRemote : List Arrival} (silent : Silent toHost toRemote)
    (operands : Matrix × Matrix) :
    UnderWay operands toHost (toRemote ++ [.message (request operands.1 operands.2)]) := by
  refine Or.inl ⟨silent.1, ?_⟩
  rw [messages_append, silent.2]
  rfl

theorem Silent.answers {toHost toRemote : List Arrival} (silent : Silent toHost toRemote)
    (operands : Matrix × Matrix) :
    UnderWay operands (toHost ++ [.message (product operands.1 operands.2).bytes]) toRemote := by
  refine Or.inr (Or.inl ⟨?_, silent.2⟩)
  rw [messages_append, silent.1]
  rfl

theorem Silent.single {toHost toRemote : List Arrival} (silent : Silent toHost toRemote) :
    (messages toHost).length + (messages toRemote).length ≤ 1 := by
  rw [silent.1, silent.2]
  exact Nat.zero_le 1

theorem UnderWay.single {operands : Matrix × Matrix} {toHost toRemote : List Arrival}
    (underWay : UnderWay operands toHost toRemote) :
    (messages toHost).length + (messages toRemote).length ≤ 1 := by
  rcases underWay with asked | answered | silent
  · rw [asked.1, asked.2]
    exact Nat.le_refl 1
  · rw [answered.1, answered.2]
    exact Nat.le_refl 1
  · exact silent.single

/-- What is under way in a round, and what has been done so far. -/
def Phase (app : HostApp) (toHost toRemote : List Arrival) : Prop :=
  match app.pc with
  | .createEpt | .waitReady | .failed => app.asked = [] ∧ app.taken = [] ∧ Silent toHost toRemote
  | .generate => app.c < rounds ∧ Answered app.asked app.taken app.c ∧ Silent toHost toRemote
  | .send =>
      app.c < rounds ∧ Prepared app.operands app.host.eMatrix ∧
        app.host.resultReturned = false ∧ Answered app.asked app.taken app.c ∧
        Silent toHost toRemote
  | .polling =>
      app.c < rounds ∧ Prepared app.operands app.host.eMatrix ∧
        (app.host.resultReturned = true ∧ Answered app.asked app.taken (app.c + 1) ∧
            Silent toHost toRemote ∨
          app.host.resultReturned = false ∧ Asked app.operands app.asked app.taken app.c ∧
            UnderWay app.operands toHost toRemote)
  | .destroyEpt | .returned =>
      Answered app.asked app.taken app.c ∧ (app.c = rounds ∨ app.refused = true) ∧
        Silent toHost toRemote
  | .fault => False

/-- The remote answers a request with the product. -/
theorem RemoteApp.receive_request (remote : RemoteApp) {m n : Matrix} (left : Digits m)
    (right : Digits n) (sends : Bool) :
    remote.receive sends (.message (request m n)) =
      (remote, if sends then [.message (product m n).bytes] else []) := by
  have rows : m.size.toNat ≤ maxSize := by
    rw [left.size]
    decide
  have columns : n.size.toNat ≤ maxSize := by
    rw [right.size]
    decide
  have answers := Remote.rpmsgEndpointCb_answers
    { shutdownReq := remote.shutdownReq, sent := [] } (request_length m n)
    (holds_first m n) (holds_second m n) rows columns
  simp only [RemoteApp.receive, answers, List.nil_append, List.map_cons, List.map_nil]

namespace System

/-- What holds in every state that is reached, whatever goes out or does not. -/
structure Sound (world : System) : Prop where
  noError : world.left.host.errCnt = 0
  kept : world.left.eptDeleted = false
  bound : world.left.lept = world.left.pc.bound
  serves : world.right.pc ≠ .fault
  running : world.right.shutdownReq = false ->
    world.right.pc ≠ .destroyEpt ∧ world.right.pc ≠ .returned
  stopped : world.right.shutdownReq = true ∨ .destroyed ∈ world.toRight ∨
    .destroyed ∈ world.toLeft -> world.left.pc = .returned
  told : world.left.ready = true ∨ .announced ∈ world.toLeft ->
    world.right.pc ≠ .createEpt ∧ world.right.pc ≠ .failed
  started : world.left.pc.started = true -> world.left.ready = true
  announces : world.left.ready = true ∨ .announced ∈ world.toLeft ∨
    world.right.pc = .createEpt ∨ world.right.pc = .failed
  phase : Phase world.left world.toLeft world.toRight

/-- A program waits for what has not gone out. -/
def Lost (world : System) : Prop :=
  world.left.pc = .failed ∨ world.right.pc = .failed ∨
    (world.left.pc = .polling ∧ world.left.host.resultReturned = false ∧
      Silent world.toLeft world.toRight) ∨
    (world.left.pc = .returned ∧ world.right.shutdownReq = false ∧ .destroyed ∉ world.toRight)

/-- An announcement or a result does not go out that somebody waits for. -/
def Fails (world : System) : Duplex.Label -> Prop
  | .left sends =>
      sends = false ∧ (world.left.pc = .createEpt ∨ world.left.pc = .destroyEpt)
  | .right sends =>
      sends = false ∧ (world.right.pc = .createEpt ∨
        world.right.pc = .polling ∧
          Exists fun data => world.toRight.head? = some (.message data))

theorem sound_initial (work : Workload) (eMatrix : Matrix) : (initial work eMatrix).Sound where
  noError := rfl
  kept := rfl
  bound := rfl
  serves := RemotePc.noConfusion
  running := fun _ => ⟨RemotePc.noConfusion, RemotePc.noConfusion⟩
  stopped := by simp [initial, RemoteApp.initial]
  told := by simp [initial, HostApp.initial]
  started := Bool.noConfusion
  announces := Or.inr (Or.inr (Or.inl rfl))
  phase := ⟨rfl, rfl, rfl, rfl⟩

abbrev Follows (world next : System) (fails : Prop) : Prop :=
  Fairness.Follows Sound Lost world next fails

/-! ## Steps of the host -/

section Host

variable {rand : Nat -> Nat} {host after : HostApp} {remote : RemoteApp}
  {toHost toRemote sent : List Arrival}

theorem Sound.opened (sound : Sound ⟨host, remote, toHost, toRemote⟩)
    (bound : host.pc.bound = true) : host.lept = true :=
  sound.bound.trans bound

theorem bound_of_polls (sound : Sound ⟨host, remote, toHost, toRemote⟩)
    (polls : host.polls = true) : host.lept = true := by
  rw [sound.bound]
  cases at_pc : host.pc <;> simp_all [HostApp.polls, HostPc.bound]

theorem Sound.host_announced (sound : Sound ⟨host, remote, .announced :: toHost, toRemote⟩)
    (polls : host.polls = true) :
    Follows ⟨host, remote, .announced :: toHost, toRemote⟩
      ⟨host.receive .announced, remote, toHost, toRemote⟩ False where
  sound :=
    have ready : (host.receive .announced).ready = true := by
      rw [HostApp.receive, bound_of_polls sound polls, Bool.or_true]
    have seen := sound.told (Or.inr List.mem_cons_self)
    { sound with
      stopped := fun stop =>
        sound.stopped (stop.imp_right (Or.imp_right (List.mem_cons_of_mem _)))
      told := fun _ => seen
      started := fun _ => ready
      announces := Or.inl ready
      phase := sound.phase }
  lost := by
    rw [or_false]
    exact Iff.rfl

/-- The host accepts the product of its matrices. -/
theorem rpmsgEndpointCb_product {host : Host} {m n : Matrix} (noError : host.errCnt = 0)
    (expected : host.eMatrix = product m n) :
    host.rpmsgEndpointCb (product m n).bytes = { host with resultReturned := true } := by
  have equal : Host.compareRows (Matrix.ofBytes (product m n).bytes) host.eMatrix
      (List.range maxSize) host.errCnt = 0 := by
    rw [noError, expected]
    exact (Host.compareRows_zero _ _).mpr fun i j row column =>
      Matrix.ofBytes_bytes_elements _ row column
  simp only [Host.rpmsgEndpointCb, (product m n).bytes_length, equal, ne_eq, not_true_eq_false,
    if_false, ← noError]

theorem Sound.host_message {data : List UInt8}
    (sound : Sound ⟨host, remote, .message data :: toHost, toRemote⟩)
    (polls : host.polls = true) :
    Follows ⟨host, remote, .message data :: toHost, toRemote⟩
      ⟨host.receive (.message data), remote, toHost, toRemote⟩ False := by
  have lept := bound_of_polls sound polls
  have phase := sound.phase
  cases at_pc : host.pc with
  | waitReady =>
      simp only [Phase, at_pc, Silent, messages_message, reduceCtorEq, false_and,
        and_false] at phase
  | polling =>
      simp only [Phase, at_pc, Silent, UnderWay, messages_message, reduceCtorEq, false_and,
        and_false, false_or, or_false, List.cons.injEq] at phase
      rcases phase with ⟨inside, prepared, waiting, pending, ⟨rfl, quiet⟩, silent⟩
      have accepted := rpmsgEndpointCb_product sound.noError prepared.expected
      have received : host.receive (.message (product host.operands.1 host.operands.2).bytes) =
          { host with
            host := { host.host with resultReturned := true }
            taken := host.taken ++
              [Matrix.ofBytes (product host.operands.1 host.operands.2).bytes] } := by
        have noError : host.host.errCnt = 0 := sound.noError
        simp only [HostApp.receive, lept, if_true, HostApp.rpmsgEndpointCb, accepted, noError]
      have answered := pending.answered (isProduct_of_digits prepared.left prepared.right)
      rw [received]
      constructor
      · exact
          { sound with
            stopped := fun stop =>
              sound.stopped (stop.imp_right (Or.imp_right (List.mem_cons_of_mem _)))
            told := fun seen => sound.told (seen.imp_right (List.mem_cons_of_mem _))
            announces := by
              rcases sound.announces with ready | seen | before
              · exact Or.inl ready
              · exact Or.inr (Or.inl (by simpa using seen))
              · exact Or.inr (Or.inr before)
            phase := by
              simp only [Phase, at_pc]
              exact ⟨inside, prepared, Or.inl ⟨trivial, answered, quiet, silent⟩⟩ }
      · simp [Lost, at_pc, Silent]
  | createEpt | generate | send | destroyEpt | returned | failed | fault =>
      simp [HostApp.polls, at_pc] at polls

theorem Sound.host_destroyed (sound : Sound ⟨host, remote, .destroyed :: toHost, toRemote⟩)
    (polls : host.polls = true) : False := by
  have ended : host.pc = .returned := sound.stopped (Or.inr (Or.inr List.mem_cons_self))
  simp [HostApp.polls, ended] at polls

/-- The endpoint is created, or the call fails. -/
theorem Sound.host_creates {sends : Bool} (sound : Sound ⟨host, remote, toHost, toRemote⟩)
    (at_pc : host.pc = .createEpt) (went : host.proceed rand sends = some (after, sent)) :
    Follows ⟨host, remote, toHost, toRemote⟩ ⟨after, remote, toHost, toRemote ++ sent⟩
      (sends = false) := by
  have phase := sound.phase
  have stopped := sound.stopped
  simp only [Phase, at_pc, Silent] at phase
  simp only [at_pc, reduceCtorEq, imp_false, not_or] at stopped
  cases sends with
  | true =>
      simp only [HostApp.proceed, at_pc, if_true, Option.some.injEq, Prod.mk.injEq] at went
      rcases went with ⟨rfl, rfl⟩
      constructor
      · exact
          { sound with
            bound := rfl
            stopped := by simp [stopped]
            started := Bool.noConfusion
            phase := by simpa [Phase, Silent] using phase }
      · simp [Lost, at_pc]
  | false =>
      simp only [HostApp.proceed, at_pc, Bool.false_eq_true, if_false, Option.some.injEq,
        Prod.mk.injEq] at went
      rcases went with ⟨rfl, rfl⟩
      rw [List.append_nil]
      constructor
      · exact
          { sound with
            bound := by
              rw [sound.bound, at_pc]
              rfl
            stopped := by simp [stopped]
            started := Bool.noConfusion
            phase := phase }
      · simp [Lost]

theorem Sound.host_waits {sends : Bool} (sound : Sound ⟨host, remote, toHost, toRemote⟩)
    (at_pc : host.pc = .waitReady) (went : host.proceed rand sends = some (after, sent)) :
    Follows ⟨host, remote, toHost, toRemote⟩ ⟨after, remote, toHost, toRemote ++ sent⟩ False := by
  have phase := sound.phase
  have stopped := sound.stopped
  have lept : host.lept = true := sound.opened (by rw [at_pc]; rfl)
  simp only [Phase, at_pc] at phase
  simp only [at_pc, reduceCtorEq, imp_false, not_or] at stopped
  by_cases ready : host.ready = true
  · have first : 0 < rounds := by decide
    simp only [HostApp.proceed, at_pc, HostApp.polled, ready, if_true, HostApp.nextRound,
      if_pos first, Option.some.injEq, Prod.mk.injEq] at went
    rcases went with ⟨rfl, rfl⟩
    rw [List.append_nil]
    constructor
    · exact
        { sound with
          noError := rfl
          bound := lept
          stopped := by simp [stopped]
          started := fun _ => ready
          phase := by
            simp only [Phase, HostApp.clearErrors, phase.1, phase.2.1]
            exact ⟨first, ⟨List.Forall₂.nil, rfl⟩, phase.2.2⟩ }
    · simp [Lost, at_pc]
  · simp only [HostApp.proceed, at_pc, HostApp.polled, if_neg ready, Option.some.injEq,
      Prod.mk.injEq] at went
    rcases went with ⟨rfl, rfl⟩
    rw [List.append_nil]
    exact Fairness.Follows.same sound

theorem Sound.host_polls {sends : Bool} (sound : Sound ⟨host, remote, toHost, toRemote⟩)
    (at_pc : host.pc = .polling) (went : host.proceed rand sends = some (after, sent)) :
    Follows ⟨host, remote, toHost, toRemote⟩ ⟨after, remote, toHost, toRemote ++ sent⟩ False := by
  have phase := sound.phase
  have stopped := sound.stopped
  have lept : host.lept = true := sound.opened (by rw [at_pc]; rfl)
  have noError : host.host.errCnt = 0 := sound.noError
  have kept : host.eptDeleted = false := sound.kept
  simp only [Phase, at_pc] at phase
  simp only [at_pc, reduceCtorEq, imp_false, not_or] at stopped
  rcases phase with ⟨inside, prepared, ⟨returned, answered, silent⟩ | ⟨waiting, pending, underWay⟩⟩
  · have ready : host.ready = true := sound.started (by rw [at_pc]; rfl)
    simp only [HostApp.proceed, at_pc, HostApp.polled, returned, noError, Bool.true_eq_false,
      false_and, if_false, ne_eq, not_true_eq_false, Option.some.injEq, Prod.mk.injEq] at went
    rcases went with ⟨rfl, rfl⟩
    rw [List.append_nil]
    by_cases more : host.c + 1 < rounds
    · rw [HostApp.nextRound, if_pos more]
      constructor
      · exact
          { sound with
            bound := lept
            stopped := by simp [stopped]
            started := fun _ => ready
            phase := ⟨more, answered, silent⟩ }
      · simp [Lost, at_pc, returned]
    · rw [HostApp.nextRound, if_neg more]
      have last : host.c + 1 = rounds := by omega
      constructor
      · exact
          { sound with
            bound := lept
            stopped := by simp [stopped]
            started := fun _ => ready
            phase := ⟨answered, Or.inl last, silent⟩ }
      · simp [Lost, at_pc, returned]
  · simp only [HostApp.proceed, at_pc, HostApp.polled, waiting, noError, kept, and_self, if_true,
      Option.some.injEq, Prod.mk.injEq] at went
    rcases went with ⟨rfl, rfl⟩
    rw [List.append_nil]
    exact Fairness.Follows.same sound

/-- The matrices of the round are drawn, and neither loop runs into a fault. -/
theorem generate_eq (host : HostApp) (rand : Nat -> Nat) :
    Exists fun work : Workload => Exists fun eMatrix =>
      host.generate rand =
        { host with
          work := work
          host := { host.host with eMatrix := eMatrix, resultReturned := false }
          pc := .send } ∧ Prepared (work.matrices 0, work.matrices 1) eMatrix := by
  rcases Workload.generateMatrices_digits rand numMatrix host.work with ⟨work, drawn, digits⟩
  have left := digits 0 (by decide)
  have right := digits 1 (by decide)
  have rows : (work.matrices 0).size.toNat ≤ maxSize := by
    rw [left.size]
    decide
  have columns : (work.matrices 1).size.toNat ≤ maxSize := by
    rw [right.size]
    decide
  have multiplied : matrixMultiply (work.matrices 0) (work.matrices 1) =
      Except.ok (product (work.matrices 0) (work.matrices 1)) :=
    multiplyLoops_eq (Operand.holds_ofMatrix _) (Operand.holds_ofMatrix _) rows columns
  refine ⟨work, product (work.matrices 0) (work.matrices 1), ?_, left, right, rfl⟩
  simp only [HostApp.generate, drawn, multiplied]

theorem Sound.host_generates {sends : Bool} (sound : Sound ⟨host, remote, toHost, toRemote⟩)
    (at_pc : host.pc = .generate) (went : host.proceed rand sends = some (after, sent)) :
    Follows ⟨host, remote, toHost, toRemote⟩ ⟨after, remote, toHost, toRemote ++ sent⟩ False := by
  have phase := sound.phase
  have stopped := sound.stopped
  have lept : host.lept = true := sound.opened (by rw [at_pc]; rfl)
  have ready : host.ready = true := sound.started (by rw [at_pc]; rfl)
  simp only [Phase, at_pc] at phase
  simp only [at_pc, reduceCtorEq, imp_false, not_or] at stopped
  rcases generate_eq host rand with ⟨work, eMatrix, generated, prepared⟩
  simp only [HostApp.proceed, at_pc, generated, Option.some.injEq, Prod.mk.injEq] at went
  rcases went with ⟨rfl, rfl⟩
  rw [List.append_nil]
  constructor
  · exact
      { sound with
        bound := lept
        stopped := by simp [stopped]
        started := fun _ => ready
        phase := ⟨phase.1, prepared, rfl, phase.2⟩ }
  · simp [Lost, at_pc]

theorem Sound.host_sends {sends : Bool} (sound : Sound ⟨host, remote, toHost, toRemote⟩)
    (at_pc : host.pc = .send) (went : host.proceed rand sends = some (after, sent)) :
    Follows ⟨host, remote, toHost, toRemote⟩ ⟨after, remote, toHost, toRemote ++ sent⟩ False := by
  have phase := sound.phase
  have stopped := sound.stopped
  have ready : host.ready = true := sound.started (by rw [at_pc]; rfl)
  have lept : host.lept = true := sound.opened (by rw [at_pc]; rfl)
  simp only [Phase, at_pc] at phase
  simp only [at_pc, reduceCtorEq, imp_false, not_or] at stopped
  cases sends with
  | true =>
      simp only [HostApp.proceed, at_pc, HostApp.send, lept, Bool.and_self, if_true,
        Option.some.injEq, Prod.mk.injEq] at went
      rcases went with ⟨rfl, rfl⟩
      rcases phase with ⟨inside, prepared, waiting, answered, silent⟩
      constructor
      · exact
          { sound with
            bound := rfl
            stopped := by simp [stopped]
            started := fun _ => ready
            phase := ⟨inside, prepared, Or.inr ⟨waiting, ⟨_, rfl, answered⟩, silent.asks _⟩⟩ }
      · simp [Lost, at_pc, Silent]
  | false =>
      simp only [HostApp.proceed, at_pc, HostApp.send, Bool.false_and, Bool.false_eq_true, if_false,
        Option.some.injEq, Prod.mk.injEq] at went
      rcases went with ⟨rfl, rfl⟩
      rw [List.append_nil]
      constructor
      · exact
          { sound with
            bound := lept
            stopped := by simp [stopped]
            started := fun _ => ready
            phase := ⟨phase.2.2.2.1, Or.inr rfl, phase.2.2.2.2⟩ }
      · simp [Lost, at_pc]

theorem Sound.host_leaves {sends : Bool} (sound : Sound ⟨host, remote, toHost, toRemote⟩)
    (at_pc : host.pc = .destroyEpt) (went : host.proceed rand sends = some (after, sent)) :
    Follows ⟨host, remote, toHost, toRemote⟩ ⟨after, remote, toHost, toRemote ++ sent⟩
      (sends = false) := by
  have phase := sound.phase
  have stopped := sound.stopped
  have ready : host.ready = true := sound.started (by rw [at_pc]; rfl)
  have lept : host.lept = true := sound.opened (by rw [at_pc]; rfl)
  simp only [Phase, at_pc] at phase
  simp only [at_pc, reduceCtorEq, imp_false, not_or] at stopped
  simp only [HostApp.proceed, at_pc, lept, Bool.and_true, Option.some.injEq, Prod.mk.injEq] at went
  rcases went with ⟨rfl, rfl⟩
  constructor
  · exact
      { sound with
        bound := rfl
        stopped := fun _ => rfl
        started := fun _ => ready
        phase := by cases sends <;> simpa [Phase, Silent] using phase }
  · cases sends with
    | true => simp [Lost, at_pc]
    | false => simp [Lost, at_pc, stopped]

end Host

/-! ## Steps of the remote -/

section Remote

variable {host : HostApp} {remote after : RemoteApp} {toHost toRemote sent : List Arrival}

theorem Sound.remote_announced (sound : Sound ⟨host, remote, toHost, .announced :: toRemote⟩)
    (sends : Bool) :
    Follows ⟨host, remote, toHost, .announced :: toRemote⟩
      ⟨host, (remote.receive sends .announced).1, toHost ++ (remote.receive sends .announced).2,
        toRemote⟩ False := by
  show Follows _ ⟨host, remote, toHost ++ [], toRemote⟩ False
  rw [List.append_nil]
  constructor
  · exact
      { sound with
        stopped := fun stop => sound.stopped
          (stop.imp_right (Or.imp_left (List.mem_cons_of_mem _)))
        phase := sound.phase }
  · simp [Lost, Silent]

theorem Sound.remote_message {data : List UInt8}
    (sound : Sound ⟨host, remote, toHost, .message data :: toRemote⟩) (sends : Bool) :
    Follows ⟨host, remote, toHost, .message data :: toRemote⟩
      ⟨host, (remote.receive sends (.message data)).1,
        toHost ++ (remote.receive sends (.message data)).2, toRemote⟩ (sends = false) := by
  have phase := sound.phase
  cases at_pc : host.pc with
  | polling =>
      simp only [Phase, at_pc, Silent, UnderWay, messages_message, reduceCtorEq, and_false,
        false_or, or_false, List.cons.injEq] at phase
      rcases phase with ⟨inside, prepared, waiting, pending, empty, rfl, quiet⟩
      have silent : Silent toHost toRemote := ⟨empty, quiet⟩
      have received := remote.receive_request prepared.left prepared.right sends
      rw [received]
      have stopped := sound.stopped
      simp only [at_pc, reduceCtorEq, imp_false, not_or] at stopped
      simp only [List.mem_cons, reduceCtorEq, false_or] at stopped
      cases sends with
      | true =>
          constructor
          · exact
              { sound with
                stopped := by simp [stopped]
                told := by simpa using sound.told
                announces := by simpa using sound.announces
                phase := by
                  simp only [Phase, at_pc]
                  exact ⟨inside, prepared, Or.inr ⟨waiting, pending, silent.answers _⟩⟩ }
          · simp [Lost, at_pc, Silent]
      | false =>
          simp only [Bool.false_eq_true, if_false, List.append_nil]
          constructor
          · exact
              { sound with
                stopped := by simp [stopped]
                phase := by
                  simp only [Phase, at_pc]
                  exact ⟨inside, prepared, Or.inr ⟨waiting, pending, Or.inr (Or.inr silent)⟩⟩ }
          · simp [Lost, at_pc, waiting, silent]
  | createEpt | waitReady | generate | send | destroyEpt | returned | failed | fault =>
      simp [Phase, at_pc, Silent] at phase

theorem Sound.remote_destroyed (sound : Sound ⟨host, remote, toHost, .destroyed :: toRemote⟩)
    (polls : remote.pc = .polling) (sends : Bool) :
    Follows ⟨host, remote, toHost, .destroyed :: toRemote⟩
      ⟨host, (remote.receive sends .destroyed).1, toHost ++ (remote.receive sends .destroyed).2,
        toRemote⟩ False := by
  have ended : host.pc = .returned := sound.stopped (Or.inr (Or.inl List.mem_cons_self))
  show Follows _ ⟨host, { remote with shutdownReq := true }, toHost ++ [], toRemote⟩ False
  rw [List.append_nil]
  constructor
  · exact
      { sound with
        running := fun running => Bool.noConfusion running
        stopped := fun _ => ended
        phase := sound.phase }
  · simp [Lost, ended, polls]

theorem Sound.remote_creates {sends : Bool} (sound : Sound ⟨host, remote, toHost, toRemote⟩)
    (at_pc : remote.pc = .createEpt) (went : remote.proceed sends = some (after, sent)) :
    Follows ⟨host, remote, toHost, toRemote⟩ ⟨host, after, toHost ++ sent, toRemote⟩
      (sends = false) := by
  have told := sound.told
  simp only [at_pc, ne_eq, not_true_eq_false, false_and, imp_false, not_or] at told
  cases sends with
  | true =>
      simp only [RemoteApp.proceed, at_pc, if_true, Option.some.injEq, Prod.mk.injEq] at went
      rcases went with ⟨rfl, rfl⟩
      constructor
      · exact
          { sound with
            serves := RemotePc.noConfusion
            running := fun _ => ⟨RemotePc.noConfusion, RemotePc.noConfusion⟩
            stopped := fun stop => sound.stopped (by simpa using stop)
            told := fun _ => ⟨RemotePc.noConfusion, RemotePc.noConfusion⟩
            announces := Or.inr (Or.inl (List.mem_append_right _ List.mem_cons_self))
            phase := by simpa [Phase, Silent, UnderWay] using sound.phase }
      · simp [Lost, at_pc, Silent]
  | false =>
      simp only [RemoteApp.proceed, at_pc, Bool.false_eq_true, if_false, Option.some.injEq,
        Prod.mk.injEq] at went
      rcases went with ⟨rfl, rfl⟩
      rw [List.append_nil]
      constructor
      · exact
          { sound with
            serves := RemotePc.noConfusion
            running := fun _ => ⟨RemotePc.noConfusion, RemotePc.noConfusion⟩
            told := by simp [told]
            announces := Or.inr (Or.inr (Or.inr rfl)) }
      · simp [Lost]

theorem Sound.remote_polls {sends : Bool} (sound : Sound ⟨host, remote, toHost, toRemote⟩)
    (at_pc : remote.pc = .polling) (went : remote.proceed sends = some (after, sent)) :
    Follows ⟨host, remote, toHost, toRemote⟩ ⟨host, after, toHost ++ sent, toRemote⟩ False := by
  by_cases stop : remote.shutdownReq = true
  · simp only [RemoteApp.proceed, at_pc, stop, if_true, Option.some.injEq, Prod.mk.injEq] at went
    rcases went with ⟨rfl, rfl⟩
    rw [List.append_nil]
    have announces := sound.announces
    simp only [at_pc, reduceCtorEq, or_self, or_false] at announces
    constructor
    · exact
        { sound with
          serves := RemotePc.noConfusion
          running := fun running => Bool.noConfusion running
          stopped := fun _ => sound.stopped (Or.inl stop)
          told := fun _ => ⟨RemotePc.noConfusion, RemotePc.noConfusion⟩
          announces := announces.imp_right Or.inl }
    · simp [Lost, at_pc, stop]
  · simp only [RemoteApp.proceed, at_pc, if_neg stop, Option.some.injEq, Prod.mk.injEq] at went
    rcases went with ⟨rfl, rfl⟩
    rw [List.append_nil]
    exact Fairness.Follows.same sound

theorem Sound.remote_leaves {sends : Bool} (sound : Sound ⟨host, remote, toHost, toRemote⟩)
    (at_pc : remote.pc = .destroyEpt) (went : remote.proceed sends = some (after, sent)) :
    Follows ⟨host, remote, toHost, toRemote⟩ ⟨host, after, toHost ++ sent, toRemote⟩ False := by
  have stop : remote.shutdownReq = true := by
    by_contra running
    exact (sound.running (Bool.eq_false_iff.mpr running)).1 at_pc
  have ended : host.pc = .returned := sound.stopped (Or.inl stop)
  have announces := sound.announces
  simp only [at_pc, reduceCtorEq, or_self, or_false] at announces
  have quiet : messages sent = [] ∧ .announced ∉ sent := by
    simp only [RemoteApp.proceed, at_pc, Option.some.injEq, Prod.mk.injEq] at went
    rw [← went.2]
    cases sends <;> simp
  simp only [RemoteApp.proceed, at_pc, Option.some.injEq, Prod.mk.injEq] at went
  rcases went with ⟨rfl, -⟩
  constructor
  · exact
      { sound with
        serves := RemotePc.noConfusion
        running := fun running => Bool.noConfusion (running.symm.trans stop)
        stopped := fun _ => ended
        told := fun _ => ⟨RemotePc.noConfusion, RemotePc.noConfusion⟩
        announces := by
          rcases announces with ready | seen
          · exact Or.inl ready
          · exact Or.inr (Or.inl (List.mem_append_left _ seen))
        phase := by
          have phase := sound.phase
          simpa only [Phase, ended, Silent, messages_append, quiet.1, List.append_nil] using phase }
  · simp [Lost, at_pc, ended, stop]

end Remote

variable {world next : System} {label : Duplex.Label} {rand : Nat -> Nat}

/-- Every step keeps what is known, and what has not gone out is lost for ever. -/
theorem Sound.step (sound : Sound world) (moved : MatrixRounds.step rand world label = some next) :
    Follows world next (Fails world label) := by
  cases Duplex.moves_of_step moved with
  | leftReceives sends host remote arrival toHost toRemote polls =>
      have quiet : False ↔ Fails ⟨host, remote, arrival :: toHost, toRemote⟩ (.left sends) := by
        cases at_pc : host.pc <;> simp_all [HostApp.program, HostApp.polls, Fails]
      apply Fairness.Follows.congr _ quiet
      show Follows _
        ⟨host.receive arrival, remote, toHost, toRemote ++ host.answers sends arrival⟩ False
      cases arrival with
      | announced =>
          rw [HostApp.answers, List.append_nil]
          exact sound.host_announced polls
      | message data =>
          rw [HostApp.answers, List.append_nil]
          exact sound.host_message polls
      | destroyed => exact absurd polls (fun polls => sound.host_destroyed polls)
  | leftProceeds sends host after remote toHost toRemote sent free went =>
      cases at_pc : host.pc with
      | createEpt => exact (sound.host_creates at_pc went).congr (by simp [Fails, at_pc])
      | waitReady => exact (sound.host_waits at_pc went).congr (by simp [Fails, at_pc])
      | generate => exact (sound.host_generates at_pc went).congr (by simp [Fails, at_pc])
      | send => exact (sound.host_sends at_pc went).congr (by simp [Fails, at_pc])
      | polling => exact (sound.host_polls at_pc went).congr (by simp [Fails, at_pc])
      | destroyEpt => exact (sound.host_leaves at_pc went).congr (by simp [Fails, at_pc])
      | returned | failed | fault => simp [HostApp.program, HostApp.proceed, at_pc] at went
  | rightReceives sends host remote arrival toHost toRemote polls =>
      have at_pc : remote.pc = .polling := beq_iff_eq.mp polls
      cases arrival with
      | announced => exact (sound.remote_announced sends).congr (by simp [Fails, at_pc])
      | message data => exact (sound.remote_message sends).congr (by simp [Fails, at_pc])
      | destroyed => exact (sound.remote_destroyed at_pc sends).congr (by simp [Fails, at_pc])
  | rightProceeds sends host remote after toHost sent toRemote free went =>
      cases at_pc : remote.pc with
      | createEpt => exact (sound.remote_creates at_pc went).congr (by simp [Fails, at_pc])
      | polling =>
          have empty := free (beq_iff_eq.mpr at_pc)
          exact (sound.remote_polls at_pc went).congr (by simp [Fails, at_pc, empty])
      | destroyEpt => exact (sound.remote_leaves at_pc went).congr (by simp [Fails, at_pc])
      | returned | failed | fault => simp [RemoteApp.program, RemoteApp.proceed, at_pc] at went

/-! ## Whole runs -/

/-- Both programs have come to the end of `app()`. -/
def Completed (world : System) : Prop :=
  world.left.pc = .returned ∧ world.right.pc = .returned

/-- Both programs have returned from `app()`, be it that they could not create their
endpoints. -/
def Ended (world : System) : Prop :=
  world.left.Returned ∧ world.right.Returned

/-- The mover's endpoint cannot be created, and its `app()` returns. -/
def CreateFails (world : System) : Duplex.Label -> Prop
  | .left sends => sends = false ∧ world.left.pc = .createEpt
  | .right sends => sends = false ∧ world.right.pc = .createEpt

/-- One program does not come to its end while the other one has no endpoint. -/
theorem Ended.cases (ended : Ended world) (sound : Sound world) :
    Completed world ∨ world.left.pc = .failed ∧ world.right.pc = .failed := by
  rcases ended with ⟨host | host, remote | remote⟩
  · exact Or.inl ⟨host, remote⟩
  · have ready := sound.started (by rw [host]; rfl)
    exact absurd remote (sound.told (Or.inl ready)).2
  · have stop : world.right.shutdownReq = true := by
      by_contra running
      exact (sound.running (Bool.eq_false_iff.mpr running)).2 remote
    have returned := sound.stopped (Or.inl stop)
    exact HostPc.noConfusion (host.symm.trans returned)
  · exact Or.inr ⟨host, remote⟩

theorem Lost.not_ended (lost : Lost world) (sound : Sound world) : ¬ Completed world := by
  rintro ⟨host, remote⟩
  rcases lost with failed | failed | ⟨polls, -⟩ | ⟨-, running, -⟩
  · rw [host] at failed
    cases failed
  · rw [remote] at failed
    cases failed
  · rw [host] at polls
    cases polls
  · exact (sound.running running).2 remote

/-- As long as the host has not returned, a remote that has announced itself polls. -/
theorem Sound.remote_serves (sound : Sound world) (ready : world.left.ready = true)
    (busy : world.left.pc ≠ .returned) : world.right.pc = .polling := by
  have told := sound.told (Or.inl ready)
  have running : world.right.shutdownReq = false := by
    by_contra stop
    exact busy (sound.stopped (Or.inl (Bool.eq_true_of_not_eq_false stop)))
  have open_ := sound.running running
  cases at_pc : world.right.pc with
  | polling => rfl
  | createEpt => exact absurd at_pc told.1
  | failed => exact absurd at_pc told.2
  | destroyEpt => exact absurd at_pc open_.1
  | returned => exact absurd at_pc open_.2
  | fault => exact absurd at_pc sound.serves

/-- Unless something is lost, one of the programs has something to do until both have
returned. -/
theorem Sound.somebody (sound : Sound world) (kept : ¬ Lost world) (running : ¬ Completed world) :
    Exists fun who => Duplex.Busy (HostApp.program rand) RemoteApp.program HostApp.Works
      RemoteApp.Works world who := by
  have opened : world.right.pc ≠ .failed := fun failed => kept (Or.inr (Or.inl failed))
  cases at_pc : world.left.pc with
  | createEpt | generate | send | destroyEpt =>
      exact ⟨.left, Or.inr (by rw [HostApp.Works, at_pc]; trivial)⟩
  | waitReady =>
      rcases sound.announces with ready | seen | creates | failed
      · exact ⟨.left, Or.inr (by rw [HostApp.Works, at_pc]; exact ready)⟩
      · refine ⟨.left, Or.inl ⟨?_, List.ne_nil_of_mem seen⟩⟩
        simp [HostApp.program, HostApp.polls, at_pc]
      · exact ⟨.right, Or.inr (by rw [RemoteApp.Works, creates]; trivial)⟩
      · exact absurd failed opened
  | polling =>
      have phase := sound.phase
      simp only [Phase, at_pc] at phase
      rcases phase.2.2 with ⟨returned, -⟩ | ⟨waiting, -, asked | answered | silent⟩
      · refine ⟨.left, Or.inr ?_⟩
        rw [HostApp.Works, at_pc]
        exact fun waits => Bool.noConfusion (waits.1.symm.trans returned)
      · have ready := sound.started (by rw [at_pc]; rfl)
        have serves := sound.remote_serves ready (by rw [at_pc]; exact HostPc.noConfusion)
        have waits : messages world.toRight ≠ [] := by
          rw [asked.2]
          exact List.cons_ne_nil _ _
        exact ⟨.right, Or.inl ⟨beq_iff_eq.mpr serves, nonempty_of_messages waits⟩⟩
      · have waits : messages world.toLeft ≠ [] := by
          rw [answered.1]
          exact List.cons_ne_nil _ _
        refine ⟨.left, Or.inl ⟨?_, nonempty_of_messages waits⟩⟩
        simp [HostApp.program, HostApp.polls, at_pc]
      · exact absurd (Or.inr (Or.inr (Or.inl ⟨at_pc, waiting, silent⟩))) kept
  | returned =>
      have stops : world.right.shutdownReq = true ∨ .destroyed ∈ world.toRight := by
        by_contra waits
        rw [not_or] at waits
        exact kept (Or.inr (Or.inr (Or.inr ⟨at_pc, Bool.eq_false_iff.mpr waits.1, waits.2⟩)))
      cases serves : world.right.pc with
      | createEpt | destroyEpt => exact ⟨.right, Or.inr (by rw [RemoteApp.Works, serves]; trivial)⟩
      | polling =>
          rcases stops with stop | told
          · exact ⟨.right, Or.inr (by rw [RemoteApp.Works, serves]; exact stop)⟩
          · exact ⟨.right, Or.inl ⟨beq_iff_eq.mpr serves, List.ne_nil_of_mem told⟩⟩
      | returned => exact absurd ⟨at_pc, serves⟩ running
      | failed => exact absurd serves opened
      | fault => exact absurd serves sound.serves
  | failed => exact absurd (Or.inl at_pc) kept
  | fault =>
      have phase := sound.phase
      simp only [Phase, at_pc] at phase

theorem initial_kept (work : Workload) (eMatrix : Matrix) : ¬ Lost (initial work eMatrix) := by
  simp [Lost, initial, HostApp.initial, RemoteApp.initial]

/-- A call that fails to send is a step all the same. -/
theorem Fails.moves (fails : Fails world label) (rand : Nat -> Nat) :
    Exists fun next => MatrixRounds.step rand world label = some next := by
  cases label with
  | left sends =>
      rcases fails with ⟨-, at_pc | at_pc⟩
      all_goals
        cases queue : world.toLeft <;>
          simp [MatrixRounds.step, Duplex.step, Duplex.Program.step, queue, HostApp.program,
            HostApp.polls, HostApp.proceed, at_pc]
  | right sends =>
      rcases fails with ⟨-, at_pc | ⟨at_pc, data, first⟩⟩
      · cases queue : world.toRight <;>
          simp [MatrixRounds.step, Duplex.step, Duplex.Program.step, queue, RemoteApp.program,
            RemoteApp.proceed, at_pc]
      · cases queue : world.toRight with
        | nil => simp [queue] at first
        | cons arrival rest =>
            simp [MatrixRounds.step, Duplex.step, Duplex.Program.step, queue, RemoteApp.program,
              at_pc]

theorem Completed.stays (ended : Completed world)
    (moved : MatrixRounds.step rand world label = some next) : Completed next := by
  have still : MatrixRounds.step rand world label = none :=
    Duplex.step_stopped (HostApp.stopped_of_returned (Or.inl ended.1) rand)
      (RemoteApp.stopped_of_returned (Or.inl ended.2)) label
  rw [still] at moved
  cases moved

/-- The early return of the host comes from a step that cannot create its endpoint. -/
theorem host_createFails (moved : MatrixRounds.step rand world label = some next)
    (failed : next.left.pc = .failed) :
    world.left.pc = .failed ∨ label.side = .left ∧ CreateFails world label := by
  cases Duplex.moves_of_step moved with
  | leftReceives sends host remote arrival toHost toRemote polls =>
      exact Or.inl ((host.receive_frame arrival).1.symm.trans failed)
  | leftProceeds sends host after remote toHost toRemote sent free went =>
      exact Or.inr ⟨rfl, HostApp.createEpt_of_failed went failed⟩
  | rightReceives | rightProceeds => exact Or.inl failed

theorem remote_createFails (moved : MatrixRounds.step rand world label = some next)
    (failed : next.right.pc = .failed) :
    world.right.pc = .failed ∨ label.side = .right ∧ CreateFails world label := by
  cases Duplex.moves_of_step moved with
  | leftReceives | leftProceeds => exact Or.inl failed
  | rightReceives sends host remote arrival toHost toRemote polls =>
      by_contra neither
      rw [not_or] at neither
      exact RemoteApp.receive_created neither.1 sends arrival failed
  | rightProceeds sends host remote after toHost sent toRemote free went =>
      exact Or.inr ⟨rfl, RemoteApp.createEpt_of_failed went failed⟩

theorem CreateFails.fails (fails : CreateFails world label) : Fails world label := by
  cases label with
  | left sends => exact ⟨fails.1, Or.inl fails.2⟩
  | right sends => exact ⟨fails.1, Or.inl fails.2⟩

/-- A program that cannot create its endpoint has returned. -/
theorem failed_of_createFails (fails : CreateFails world label)
    (moved : MatrixRounds.step rand world label = some next) :
    match label.side with
    | .left => next.left.pc = .failed
    | .right => next.right.pc = .failed := by
  cases Duplex.moves_of_step moved with
  | leftReceives sends host remote arrival toHost toRemote polls =>
      have at_pc : host.pc = .createEpt := fails.2
      simp [HostApp.program, HostApp.polls, at_pc] at polls
  | leftProceeds sends host after remote toHost toRemote sent free went =>
      have at_pc : host.pc = .createEpt := fails.2
      have lost : sends = false := fails.1
      simp only [HostApp.program, HostApp.proceed, at_pc, lost, Bool.false_eq_true, if_false,
        Option.some.injEq, Prod.mk.injEq] at went
      exact congrArg HostApp.pc went.1.symm
  | rightReceives sends host remote arrival toHost toRemote polls =>
      have at_pc : remote.pc = .createEpt := fails.2
      simp [RemoteApp.program, at_pc] at polls
  | rightProceeds sends host remote after toHost sent toRemote free went =>
      have at_pc : remote.pc = .createEpt := fails.2
      have lost : sends = false := fails.1
      simp only [RemoteApp.program, RemoteApp.proceed, at_pc, lost, Bool.false_eq_true, if_false,
        Option.some.injEq, Prod.mk.injEq] at went
      exact congrArg RemoteApp.pc went.1.symm

theorem fated (rand : Nat -> Nat) :
    Fairness.Fated (MatrixRounds.step rand) Sound Lost Completed Fails where
  follows := fun _ _ _ sound moved => sound.step moved
  moves := fun _ _ fails => fails.moves rand
  stays := fun _ _ _ ended moved => ended.stays moved
  apart := fun _ sound lost => lost.not_ended sound

/-- As long as nothing is lost, fair schedules end. -/
theorem ranked (rand : Nat -> Nat) : Fairness.Ranked (MatrixRounds.step rand) Duplex.Label.side
    (fun world label => ¬ Fails world label) (fun world => Sound world ∧ ¬ Lost world) Completed
    (Duplex.rank HostApp.rank RemoteApp.rank 1 3)
    (Duplex.Busy (HostApp.program rand) RemoteApp.program HostApp.Works RemoteApp.Works) :=
  Duplex.ranked (HostApp.paced rand) RemoteApp.paced
    (fun _ _ _ before works moved => (fated rand).preserved before works moved)
    (fun _ before running => before.1.somebody before.2 running)

end System

theorem sound_of_run {rand : Nat -> Nat} {work : Workload} {eMatrix : Matrix}
    {performed : List Duplex.Label} {world : System}
    (reached : Transition.run (step rand) (System.initial work eMatrix) performed = some world) :
    world.Sound :=
  Transition.run_invariant (fun _ _ _ before moved => (before.step moved).sound)
    (System.sound_initial work eMatrix) reached

section Runs

variable (rand : Nat -> Nat) (work : Workload) (eMatrix : Matrix)

/-- The state before step number `n` of an endless schedule. -/
abbrev stateAt (schedule : Nat -> Duplex.Label) (n : Nat) : System :=
  Fairness.trace (step rand) (System.initial work eMatrix) schedule n

/-- One of the programs cannot create its endpoint. -/
def Uncreated (schedule : Nat -> Duplex.Label) (who : Duplex.Side) : Prop :=
  Exists fun n => (schedule n).side = who ∧
    (stateAt rand work eMatrix schedule n).CreateFails (schedule n)

variable {rand work eMatrix} {schedule : Nat -> Duplex.Label}

/-- Two programs that have returned early could not create their endpoints. -/
theorem uncreated_of_failed {n : Nat}
    (failed : (stateAt rand work eMatrix schedule n).left.pc = .failed ∧
      (stateAt rand work eMatrix schedule n).right.pc = .failed) (who : Duplex.Side) :
    Uncreated rand work eMatrix schedule who := by
  cases who with
  | left =>
      exact Fairness.trace_caused (fun _ _ _ => System.host_createFails) HostPc.noConfusion failed.1
  | right =>
      exact Fairness.trace_caused (fun _ _ _ => System.remote_createFails) RemotePc.noConfusion
        failed.2

theorem ended_of_uncreated
    (uncreated : forall who, Uncreated rand work eMatrix schedule who) :
    Exists fun n => (stateAt rand work eMatrix schedule n).Ended := by
  have after : forall {who n}, (schedule n).side = who ->
      (stateAt rand work eMatrix schedule n).CreateFails (schedule n) ->
        match who with
        | .left => (stateAt rand work eMatrix schedule (n + 1)).left.pc = .failed
        | .right => (stateAt rand work eMatrix schedule (n + 1)).right.pc = .failed := by
    rintro who n rfl fails
    rcases (System.CreateFails.fails fails).moves rand with ⟨next, moved⟩
    rw [stateAt, Fairness.trace_of_some moved]
    exact System.failed_of_createFails fails moved
  rcases uncreated .left with ⟨first, host, hostFails⟩
  rcases uncreated .right with ⟨second, remote, remoteFails⟩
  have hostLater :
      (stateAt rand work eMatrix schedule (first + 1 + (second + 1))).left.pc = .failed :=
    Fairness.trace_stays (fun _ _ _ (before : HostApp.pc _ = .failed) moved => by
      rw [Duplex.step_leftStopped (HostApp.stopped_of_returned (Or.inr before) rand) moved]
      exact before) (after host hostFails) (second + 1)
  have remoteLater :
      (stateAt rand work eMatrix schedule (second + 1 + (first + 1))).right.pc = .failed :=
    Fairness.trace_stays (fun _ _ _ (before : RemoteApp.pc _ = .failed) moved => by
      rw [Duplex.step_rightStopped (RemoteApp.stopped_of_returned (Or.inr before)) moved]
      exact before) (after remote remoteFails) (first + 1)
  rw [Nat.add_comm] at remoteLater
  exact ⟨_, Or.inr hostLater, Or.inr remoteLater⟩

variable (rand work eMatrix)

/-- Whatever `rand()` returns, a fair schedule brings both programs back from `app()` in two
cases only.  Either every announcement, except the last one of the remote, and every result
goes out: one that does not leaves a program polling for ever, while a refused request only
ends the rounds.  Or neither can announce its endpoint, and both return at once.  A program
that is never scheduled does not return, so the schedule has to be fair. -/
theorem demo_ends_iff (schedule : Nat -> Duplex.Label)
    (fair : Fairness.Fair Duplex.Label.side schedule) :
    (Exists fun n => (stateAt rand work eMatrix schedule n).Ended) ↔
      (forall n, ¬ (stateAt rand work eMatrix schedule n).Fails (schedule n)) ∨
        forall who, Uncreated rand work eMatrix schedule who := by
  have completed := (System.fated rand).reaches_iff (System.ranked rand)
    ⟨System.sound_initial work eMatrix, System.initial_kept work eMatrix⟩ fair
  constructor
  · rintro ⟨n, ended⟩
    have sound : (stateAt rand work eMatrix schedule n).Sound :=
      (System.fated rand).trace_keeps (System.sound_initial work eMatrix) n
    rcases ended.cases sound with complete | failed
    · exact Or.inl (completed.mp ⟨n, complete⟩)
    · exact Or.inr (uncreated_of_failed failed)
  · rintro (sent | uncreated)
    · rcases completed.mpr sent with ⟨n, complete⟩
      exact ⟨n, Or.inl complete.1, Or.inl complete.2⟩
    · exact ended_of_uncreated uncreated

end Runs

/-- What the demonstration shows: neither program runs into a fault or an error, at most one
message is under way, every accepted result is the product over the integers of the request
in its place, a host at the end of `app()` has had all its requests answered, 200 of them
unless one has been refused, and one that could not create its endpoint has asked nothing. -/
structure Faithful (world : System) : Prop where
  noError : world.left.host.errCnt = 0
  noFault : world.left.pc ≠ .fault ∧ world.right.pc ≠ .fault
  oneUnderWay : (messages world.toLeft).length + (messages world.toRight).length ≤ 1
  products : List.Forall₂ IsProduct (world.left.asked.take world.left.taken.length)
    world.left.taken
  answered : world.left.asked.length ≤ world.left.taken.length + 1
  complete : world.left.pc = .returned ->
    world.left.asked.length = world.left.taken.length ∧
      (world.left.taken.length = rounds ∨ world.left.refused = true)
  early : world.left.pc = .failed -> world.left.asked = [] ∧ world.left.taken = []

/-- Without an endpoint nothing has been asked. -/
theorem System.Sound.early {world : System} (sound : world.Sound)
    (failed : world.left.pc = .failed) : world.left.asked = [] ∧ world.left.taken = [] := by
  have phase := sound.phase
  simp only [Phase, failed] at phase
  exact ⟨phase.1, phase.2.1⟩

/-- Between two requests. -/
theorem System.Sound.faithful_of_answered {world : System} {count : Nat} (sound : world.Sound)
    (noFault : world.left.pc ≠ .fault)
    (answered : Answered world.left.asked world.left.taken count)
    (silent : Silent world.toLeft world.toRight)
    (complete : world.left.pc = .returned ->
      world.left.taken.length = rounds ∨ world.left.refused = true) : Faithful world where
  early := sound.early
  noError := sound.noError
  noFault := ⟨noFault, sound.serves⟩
  oneUnderWay := silent.single
  products := answered.prefix_products
  answered := by
    rw [answered.products.length_eq]
    exact Nat.le_succ _
  complete := fun returned => ⟨answered.products.length_eq, complete returned⟩

/-- After a request. -/
theorem System.Sound.faithful_of_asked {world : System} (sound : world.Sound)
    (polls : world.left.pc = .polling)
    (pending : Asked world.left.operands world.left.asked world.left.taken world.left.c)
    (underWay : UnderWay world.left.operands world.toLeft world.toRight) : Faithful world where
  early := sound.early
  noError := sound.noError
  noFault := ⟨by rw [polls]; exact HostPc.noConfusion, sound.serves⟩
  oneUnderWay := underWay.single
  products := pending.prefix_products
  answered := Nat.le_of_eq pending.length
  complete := by
    intro returned
    rw [polls] at returned
    cases returned

theorem System.Sound.faithful {world : System} (sound : world.Sound) : Faithful world := by
  have noFault : world.left.pc ≠ .fault := by
    intro fault
    have phase := sound.phase
    simp only [Phase, fault] at phase
  have phase := sound.phase
  cases at_pc : world.left.pc with
  | createEpt | waitReady | failed =>
      simp only [Phase, at_pc] at phase
      have answered : Answered world.left.asked world.left.taken 0 := by
        rw [phase.1, phase.2.1]
        exact ⟨List.Forall₂.nil, rfl⟩
      exact sound.faithful_of_answered noFault answered phase.2.2 (by simp [at_pc])
  | generate =>
      simp only [Phase, at_pc] at phase
      exact sound.faithful_of_answered noFault phase.2.1 phase.2.2 (by simp [at_pc])
  | send =>
      simp only [Phase, at_pc] at phase
      exact sound.faithful_of_answered noFault phase.2.2.2.1 phase.2.2.2.2 (by simp [at_pc])
  | polling =>
      simp only [Phase, at_pc] at phase
      rcases phase.2.2 with ⟨-, answered, silent⟩ | ⟨-, pending, underWay⟩
      · exact sound.faithful_of_answered noFault answered silent (by simp [at_pc])
      · exact sound.faithful_of_asked at_pc pending underWay
  | destroyEpt | returned =>
      simp only [Phase, at_pc] at phase
      have complete := phase.2.1
      rw [← phase.1.taken] at complete
      exact sound.faithful_of_answered noFault phase.1 phase.2.2 (fun _ => complete)
  | fault => exact absurd at_pc noFault

/-- In every state the demonstration reaches, whatever goes out or does not, it is faithful. The
numbers that `rand()` returns are arbitrary, and so is what the matrices held before. No fairness
is asked for; a host that polls for ever has no result that is wrong. -/
theorem demo_faithful {rand : Nat -> Nat} {work : Workload} {eMatrix : Matrix}
    {performed : List Duplex.Label} {world : System}
    (reached : Transition.run (step rand) (System.initial work eMatrix) performed = some world) :
    Faithful world :=
  (sound_of_run reached).faithful

/-! ## When everything goes out -/

theorem HostApp.polled_refused (app : HostApp) : app.polled.refused = app.refused := by
  unfold HostApp.polled
  split
  · split <;> rfl
  · split
    · rfl
    · split <;> rfl
  · rfl

theorem HostApp.generate_refused (app : HostApp) (rand : Nat -> Nat) :
    (app.generate rand).refused = app.refused := by
  unfold HostApp.generate
  split
  · rfl
  · split <;> rfl

/-- A request is refused only by a failed send. -/
theorem refused_kept {world next : System} {label : Duplex.Label} {rand : Nat -> Nat}
    (sound : world.Sound) (sends : label.sends = true) (fresh : world.left.refused = false)
    (moved : step rand world label = some next) : next.left.refused = false := by
  cases Duplex.moves_of_step moved with
  | leftReceives goes host remote arrival toHost toRemote polls =>
      exact (host.receive_frame arrival).2.2.trans fresh
  | leftProceeds goes host after remote toHost toRemote sent free went =>
      have goes_ : goes = true := sends
      subst goes
      cases at_pc : host.pc with
      | createEpt | destroyEpt =>
          simp only [HostApp.program, HostApp.proceed, at_pc, if_true, Option.some.injEq,
            Prod.mk.injEq] at went
          rw [← went.1]
          exact fresh
      | waitReady | polling =>
          simp only [HostApp.program, HostApp.proceed, at_pc, Option.some.injEq,
            Prod.mk.injEq] at went
          rw [← went.1]
          exact host.polled_refused.trans fresh
      | generate =>
          simp only [HostApp.program, HostApp.proceed, at_pc, Option.some.injEq,
            Prod.mk.injEq] at went
          rw [← went.1]
          exact (host.generate_refused rand).trans fresh
      | send =>
          have lept : host.lept = true := sound.opened (by rw [at_pc]; rfl)
          simp only [HostApp.program, HostApp.proceed, at_pc, HostApp.send, lept,
            Bool.and_self, if_true, Option.some.injEq, Prod.mk.injEq] at went
          rw [← went.1]
          exact fresh
      | returned | failed | fault =>
          simp only [HostApp.program, HostApp.proceed, at_pc, reduceCtorEq] at went
  | rightReceives | rightProceeds => exact fresh

theorem not_fails_of_sends {world : System} {label : Duplex.Label} (sends : label.sends = true) :
    ¬ world.Fails label := by
  intro fails
  cases label with
  | left goes => exact Bool.noConfusion (fails.1.symm.trans sends)
  | right goes => exact Bool.noConfusion (fails.1.symm.trans sends)

/-- When everything goes out, the host ends with all its results. -/
theorem all_rounds (rand : Nat -> Nat) (work : Workload) (eMatrix : Matrix)
    {schedule : Nat -> Duplex.Label} (sends : forall n, (schedule n).sends = true) {n : Nat}
    (ended : (stateAt rand work eMatrix schedule n).Completed)
    (faithful : Faithful (stateAt rand work eMatrix schedule n)) :
    (stateAt rand work eMatrix schedule n).left.taken.length = rounds := by
  have fresh : (stateAt rand work eMatrix schedule n).Sound ∧
      (stateAt rand work eMatrix schedule n).left.refused = false :=
    @Fairness.trace_invariant _ _ (step rand) _ schedule (fun _ label => label.sends = true)
      (fun world => world.Sound ∧ world.left.refused = false)
      (fun _ _ _ before goes moved =>
        ⟨(before.1.step moved).sound, refused_kept before.1 goes before.2 moved⟩)
      ⟨System.sound_initial work eMatrix, rfl⟩ sends n
  rcases (faithful.complete ended.1).2 with all | refused
  · exact all
  · exact Bool.noConfusion (fresh.2.symm.trans refused)

def zeros : Matrix where
  size := 0
  elements := fun _ _ => 0

/-- The numbers drawn count upwards, and the two programs move in turn. -/
def counting (n : Nat) : System :=
  stateAt id { drawn := 0, matrices := fun _ => zeros } zeros Duplex.alternating n

theorem counting_ends : Exists fun n => (counting n).Ended :=
  (demo_ends_iff _ _ _ Duplex.alternating Duplex.alternating_fair).mpr
    (Or.inl fun n => not_fails_of_sends (Duplex.alternating_sends n))

theorem counting_products :
    Exists fun n => (counting n).Completed ∧ (counting n).left.taken.length = 200 ∧
      Faithful (counting n) := by
  rcases (System.ranked id).reaches
      ⟨System.sound_initial { drawn := 0, matrices := fun _ => zeros } zeros,
        System.initial_kept _ _⟩
      (fun n => not_fails_of_sends (Duplex.alternating_sends n)) Duplex.alternating_fair with
    ⟨n, ended⟩
  rcases Fairness.trace_reached (step id)
      (System.initial { drawn := 0, matrices := fun _ => zeros } zeros) Duplex.alternating n with
    ⟨performed, reached⟩
  have faithful := demo_faithful reached
  exact ⟨n, ended, all_rounds _ _ _ Duplex.alternating_sends ended faithful, faithful⟩

end MatrixRounds
end OpenAmpReference
