import OpenAmpReference.Library.Fairness
import OpenAmpReference.LinuxRpc.Simulation

namespace OpenAmpReference
namespace LinuxRpc

/-!
# A program over the remote calls

A program chooses its next call from what the earlier ones have left it.  It
runs against the server while the transport may refuse a request, the server
may take its time and a callback may come at any moment.  The question is
whether it comes to its end, and whether it can tell that its files are remote.
-/

/-- A program that makes finitely many calls, none with a null or an empty buffer. -/
structure Program where
  next : List Outcome -> Option Call
  bound : Nat
  ends : forall seen, bound ≤ seen.length -> next seen = none
  proper : forall seen call, next seen = some call -> ¬ call.Rejected

/-- The program made locally, with at most `n` calls. -/
def Program.played {Fs : Type} (program : Program) (os : FileSystem Fs) (fs : Fs) :
    Nat -> Fs × List Outcome
  | 0 => (fs, [])
  | n + 1 =>
      let before := program.played os fs n
      match program.next before.2 with
      | none => before
      | some call =>
          let done := localCall os before.1 call
          (done.1, before.2 ++ [done.2])

section Played

variable {Fs : Type} (program : Program) (os : FileSystem Fs) (fs : Fs)

theorem Program.played_bounded (n : Nat) :
    (program.played os fs n).2.length ≤ program.bound := by
  induction n with
  | zero => exact Nat.zero_le _
  | succ n inductionHypothesis =>
      rw [Program.played]
      split
      next done => exact inductionHypothesis
      next call chosen =>
        rw [List.length_append, List.length_singleton]
        apply Nat.lt_of_not_le
        intro past
        cases chosen.symm.trans (program.ends _ past)

/-- Once it has ended, the local run stays as it is. -/
theorem Program.played_done {n : Nat} (done : program.next (program.played os fs n).2 = none)
    (more : Nat) : program.played os fs (n + more) = program.played os fs n := by
  induction more with
  | zero => rfl
  | succ more inductionHypothesis =>
      rw [← Nat.add_assoc, Program.played, inductionHypothesis, done]

end Played

/-- What a call has ahead of it. -/
def Pc.price : Pc -> Nat
  | .idle => 7
  | .prepared _ _ => 6
  | .sending _ _ => 5
  | .inSend _ => 1
  | .waiting _ => 0

/-- Who moves.  At a send, `refused` says that the transport has no room for the request;
`accept` is the transport taking it. -/
inductive Move
  | caller (stack : ByteMemory) (refused : Bool)
  | accept
  | serve (residue stack : ByteMemory)
  | deliver (residue : ByteMemory)

inductive Mover
  | caller
  | transport
  | server
  | channel
  deriving DecidableEq

def Move.mover : Move -> Mover
  | .caller _ _ => .caller
  | .accept => .transport
  | .serve _ _ => .server
  | .deliver _ => .channel

/-- A server that answers every request -/
def Server.Answers {S : Type} (server : Server S) : Prop :=
  forall state id request stack, (server.handle state id request stack).2.isSome

namespace World

variable {S : Type}

/-- The next statement of the caller. -/
def callerStep (server : Server S) (program : Program) (world : World S) (stack : ByteMemory)
    (refused : Bool) : Option (World S) :=
  match world.client.pc with
  | .idle =>
      match program.next world.outcomes with
      | none => none
      | some call => world.step server (.call call stack)
  | .sending _ _ => if refused then world.step server (.send false) else none
  | .prepared _ _ | .inSend _ | .waiting _ => world.step server .client

/-- One step of a program and its server. -/
def move (server : Server S) (program : Program) (world : World S) : Move -> Option (World S)
  | .caller stack refused => world.callerStep server program stack refused
  | .accept => world.step server (.send true)
  | .serve residue stack => world.step server (.serve residue stack)
  | .deliver residue => world.step server (.deliver residue)

/-- The program has made its last call, and that call has returned. -/
def Finished (program : Program) (world : World S) : Prop :=
  world.client.pc = .idle ∧ program.next world.outcomes = none

/-- The move refuses the request of an `rpmsg_close()`. -/
def CloseRefused (world : World S) (move : Move) : Prop :=
  Exists fun fd => Exists fun payload => Exists fun stack =>
    world.client.pc = .sending (.rpmsgClose fd) payload ∧ move = .caller stack true

/-- The move refuses a request other than that of an `rpmsg_open()`. -/
def Lost (world : World S) (move : Move) : Prop :=
  Exists fun call => Exists fun payload => Exists fun stack =>
    world.client.pc = .sending call payload ∧ call.id ≠ .openId ∧ move = .caller stack true

/-! ## The program's place -/

section Moves

variable {server : Server S} {program : Program} {world next : World S}

/-- What a move does.  Only a send that fails, an answer and a return change more than where
the caller is. -/
inductive Moves (server : Server S) (program : Program) (world : World S) : Move -> World S -> Prop
  | begins (call : Call) (stack : ByteMemory) (refused : Bool) (idle : world.client.pc = .idle)
      (chosen : program.next world.outcomes = some call) :
      Moves server program world (.caller stack refused) { world with
        client := world.client.start call stack
        ticket := world.ticket + 1 }
  | sets (call : Call) (payload : List UInt8) (stack : ByteMemory) (refused : Bool)
      (at_pc : world.client.pc = .prepared call payload) :
      Moves server program world (.caller stack refused) { world with
        client := { world.client with pc := .sending call payload, waitResp := true } }
  | leavesSend (call : Call) (stack : ByteMemory) (refused : Bool)
      (at_pc : world.client.pc = .inSend call) :
      Moves server program world (.caller stack refused) { world with
        client := { world.client with pc := .waiting call } }
  | polls (call : Call) (stack : ByteMemory) (refused : Bool)
      (at_pc : world.client.pc = .waiting call) (flag : world.client.waitResp = true) :
      Moves server program world (.caller stack refused) world
  | returns (call : Call) (stack : ByteMemory) (refused : Bool)
      (at_pc : world.client.pc = .waiting call) (flag : world.client.waitResp = false) :
      Moves server program world (.caller stack refused) (world.return_ call false)
  | refuses (call : Call) (payload : List UInt8) (stack : ByteMemory)
      (at_pc : world.client.pc = .sending call payload) :
      Moves server program world (.caller stack true) (world.sendFails call)
  | accepts (call : Call) (payload : List UInt8)
      (at_pc : world.client.pc = .sending call payload) :
      Moves server program world .accept (world.sendSucceeds call payload)
  | serves (residue stack : ByteMemory) (request : Request) (rest : List Request)
      (queue : world.requests = request :: rest) :
      Moves server program world (.serve residue stack) { world with
        server := (server.handle world.server request.id
          (residue.writeBytes 0 request.payload) stack).1
        requests := rest
        responses := world.responses ++
          (server.handle world.server request.id
            (residue.writeBytes 0 request.payload) stack).2.toList.map (fun (status, payload) =>
              { ticket := request.ticket, id := request.id, status := status,
                payload := payload }) }
  | delivers (residue : ByteMemory) (response : Response) (rest : List Response)
      (queue : world.responses = response :: rest) :
      Moves server program world (.deliver residue) { world with
        client := world.client.callback (response.delivery residue)
        responses := rest
        outstanding := world.outstanding.erase response.ticket
        delivered := world.delivered ++ [response.delivery residue] }

theorem move_moves {label : Move} (moved : world.move server program label = some next) :
    Moves server program world label next := by
  cases label with
  | accept =>
      cases at_pc : world.client.pc with
      | sending call payload =>
          simp only [move, step, at_pc, if_true, Option.some.injEq] at moved
          exact moved ▸ .accepts call payload at_pc
      | idle | prepared | inSend | waiting => simp only [move, step, at_pc, reduceCtorEq] at moved
  | serve residue stack =>
      cases queue : world.requests with
      | nil => simp only [move, step, queue, reduceCtorEq] at moved
      | cons request rest =>
          simp only [move, step, queue, Option.some.injEq] at moved
          exact moved ▸ .serves residue stack request rest queue
  | deliver residue =>
      cases queue : world.responses with
      | nil => simp only [move, step, queue, reduceCtorEq] at moved
      | cons response rest =>
          simp only [move, step, queue, Option.some.injEq] at moved
          exact moved ▸ .delivers residue response rest queue
  | caller stack refused =>
      cases at_pc : world.client.pc with
      | idle =>
          cases chosen : program.next world.outcomes with
          | none => simp only [move, callerStep, at_pc, chosen, reduceCtorEq] at moved
          | some call =>
              simp only [move, callerStep, at_pc, chosen, step, if_neg (program.proper _ _ chosen),
                Option.some.injEq] at moved
              exact moved ▸ .begins call stack refused at_pc chosen
      | prepared call payload =>
          simp only [move, callerStep, at_pc, step, clientStep, Option.some.injEq] at moved
          exact moved ▸ .sets call payload stack refused at_pc
      | inSend call =>
          simp only [move, callerStep, at_pc, step, clientStep, Option.some.injEq] at moved
          exact moved ▸ .leavesSend call stack refused at_pc
      | waiting call =>
          cases flag : world.client.waitResp with
          | true =>
              simp only [move, callerStep, at_pc, step, clientStep, flag, if_true,
                Option.some.injEq] at moved
              exact moved ▸ .polls call stack refused at_pc flag
          | false =>
              simp only [move, callerStep, at_pc, step, clientStep, flag, Bool.false_eq_true,
                if_false, Option.some.injEq] at moved
              exact moved ▸ .returns call stack refused at_pc flag
      | sending call payload =>
          cases refused with
          | false =>
              simp only [move, callerStep, at_pc, Bool.false_eq_true, if_false,
                reduceCtorEq] at moved
          | true =>
              simp only [move, callerStep, at_pc, if_true, step, Bool.false_eq_true, if_false,
                Option.some.injEq] at moved
              exact moved ▸ .refuses call payload stack at_pc

/-! ## What a session keeps -/

/-- The program at its place, with its request or the response on the way while it waits. -/
structure InSession (program : Program) (world : World S) : Prop where
  ok : world.Ok
  chosen : forall call, call ∈ world.client.pc.current -> program.next world.outcomes = some call
  onTheWay : forall call, world.client.pc = .inSend call ∨ world.client.pc = .waiting call ->
    world.client.waitResp = true -> world.requests.length + world.responses.length = 1

/-- The caller waits for a response to a request that was never sent. -/
structure Stuck (world : World S) : Prop where
  waits : Exists fun call => world.client.pc = .waiting call
  flag : world.client.waitResp = true
  noRequest : world.requests = []
  noResponse : world.responses = []

theorem InSession.initially (program : Program) (start : S) :
    (initial start).InSession program where
  ok := initial_ok start
  chosen := fun _ member => absurd member List.not_mem_nil
  onTheWay := by
    intro call at_pc
    rcases at_pc with wrong | wrong <;> cases wrong

/-- Every move is a step of the client, the server or the channel; a refused open changes
nothing. -/
theorem move_step {label : Move} (moved : world.move server program label = some next) :
    Exists fun event => world.step server event = some next ∧
      (¬ world.CloseRefused label -> world.CloseSent event) ∧
      (¬ world.Lost label ->
        (forall call, program.next world.outcomes = some call -> call.InRange) ->
          next = world ∨ world.Proper event) := by
  cases label with
  | accept => exact ⟨.send true, moved, fun _ => trivial, fun _ _ => Or.inr rfl⟩
  | serve residue stack =>
      exact ⟨.serve residue stack, moved, fun _ => trivial, fun _ _ => Or.inr trivial⟩
  | deliver residue =>
      exact ⟨.deliver residue, moved, fun _ => trivial, fun _ _ => Or.inr trivial⟩
  | caller stack refused =>
      cases at_pc : world.client.pc with
      | idle =>
          cases chosen : program.next world.outcomes with
          | none => simp only [move, callerStep, at_pc, chosen, reduceCtorEq] at moved
          | some call =>
              simp only [move, callerStep, at_pc, chosen] at moved
              exact ⟨.call call stack, moved, fun _ => trivial,
                fun _ inRange => Or.inr (inRange call rfl)⟩
      | prepared | inSend | waiting =>
          simp only [move, callerStep, at_pc] at moved
          exact ⟨.client, moved, fun _ => trivial, fun _ _ => Or.inr trivial⟩
      | sending call payload =>
          cases refused with
          | false =>
              simp only [move, callerStep, at_pc, Bool.false_eq_true, if_false,
                reduceCtorEq] at moved
          | true =>
              simp only [move, callerStep, at_pc, if_true] at moved
              refine ⟨.send false, moved,
                fun kept fd other closing => kept ⟨fd, other, stack, closing, rfl⟩, ?_⟩
              intro kept _
              apply Or.inl
              simp only [step, at_pc, Bool.false_eq_true, if_false, Option.some.injEq] at moved
              cases call with
              | rpmsgOpen filename flags mode => exact moved.symm
              | rpmsgRead | rpmsgWrite | rpmsgClose | rpmsgInput =>
                  exact absurd ⟨_, payload, stack, at_pc, FuncId.noConfusion, rfl⟩ kept

theorem Ok.move (ok : world.Ok) {label : Move}
    (moved : world.move server program label = some next) (kept : ¬ world.CloseRefused label) :
    next.Ok := by
  rcases move_step moved with ⟨event, performed, sent, _⟩
  exact ok.step (sent kept) performed

/-- A return leaves the caller at rest. -/
theorem InSession.rests {call : Call} {sendFailed : Bool}
    (ok : (world.return_ call sendFailed).Ok) :
    (world.return_ call sendFailed).InSession program where
  ok := ok
  chosen := fun _ member => absurd member List.not_mem_nil
  onTheWay := by
    intro other at_pc
    rcases at_pc with wrong | wrong <;> cases wrong

theorem InSession.move (answers : server.Answers) (session : world.InSession program)
    {label : Move} (moved : world.move server program label = some next)
    (kept : ¬ world.CloseRefused label) : next.InSession program := by
  have ok := session.ok.move moved kept
  cases move_moves moved with
  | begins call stack refused idle chosen =>
      have started := start_pc world.client call stack
      exact {
        ok := ok
        chosen := by
          intro other member
          rw [started, Pc.current, List.mem_singleton] at member
          exact member ▸ chosen
        onTheWay := by
          intro other at_pc
          rcases at_pc with wrong | wrong <;> cases started.symm.trans wrong }
  | sets call payload stack refused at_pc =>
      exact {
        ok := ok
        chosen := fun other member => session.chosen other (by rw [at_pc]; exact member)
        onTheWay := by
          intro other at_pc
          rcases at_pc with wrong | wrong <;> cases wrong }
  | leavesSend call stack refused at_pc =>
      exact {
        ok := ok
        chosen := fun other member => session.chosen other (by rw [at_pc]; exact member)
        onTheWay := fun _ _ => session.onTheWay call (Or.inl at_pc) }
  | polls call stack refused at_pc flag => exact session
  | returns call stack refused at_pc flag => exact .rests ok
  | refuses call payload stack at_pc =>
      cases call with
      | rpmsgOpen filename flags mode => exact session
      | rpmsgClose fd => exact absurd ⟨fd, payload, stack, at_pc, rfl⟩ kept
      | rpmsgRead | rpmsgWrite | rpmsgInput => exact .rests ok
  | accepts call payload at_pc =>
      rcases session.ok.sending call payload at_pc with ⟨quiet, _, _⟩
      exact {
        ok := ok
        chosen := fun other member => session.chosen other (by rw [at_pc]; exact member)
        onTheWay := by
          intro _ _ _
          simp only [sendSucceeds, quiet.requests, quiet.responses, List.nil_append,
            List.length_singleton, List.length_nil] }
  | serves residue stack request rest queue =>
      have one : forall call, world.client.pc = .inSend call ∨ world.client.pc = .waiting call ->
          world.client.waitResp = true -> rest.length + world.responses.length = 0 := by
        intro call at_pc flag
        have before := session.onTheWay call at_pc flag
        rw [queue, List.length_cons] at before
        omega
      exact {
        ok := ok
        chosen := session.chosen
        onTheWay := by
          intro call at_pc flag
          have before := one call at_pc flag
          have gives := answers world.server request.id (residue.writeBytes 0 request.payload) stack
          rw [Option.isSome_iff_exists] at gives
          rcases gives with ⟨answer, answered⟩
          simp only [answered, Option.toList_some, List.map_cons, List.map_nil, List.length_append,
            List.length_singleton]
          omega }
  | delivers residue response rest queue =>
      have at_rest := callback_pc world.client (response.delivery residue)
      exact {
        ok := ok
        chosen := by
          intro other member
          rw [at_rest] at member
          exact session.chosen other member
        onTheWay := by
          intro call _ flag
          exact Bool.noConfusion ((callback_waitResp _ _).symm.trans flag) }

/-- A refused close leaves the caller stuck. -/
theorem Ok.sticks (ok : world.Ok) {label : Move} (refused : world.CloseRefused label) :
    Exists fun next => world.move server program label = some next ∧ next.Stuck := by
  rcases refused with ⟨fd, payload, stack, at_pc, rfl⟩
  rcases ok.sending _ payload at_pc with ⟨quiet, _, flag⟩
  refine ⟨world.sendFails (.rpmsgClose fd), ?_, ?_⟩
  · simp only [World.move, callerStep, at_pc, if_true, World.step, Bool.false_eq_true, if_false]
  · exact {
      waits := ⟨.rpmsgClose fd, rfl⟩
      flag := flag
      noRequest := quiet.requests
      noResponse := quiet.responses }

/-- It stays stuck. -/
theorem Stuck.stays (stuck : world.Stuck) {label : Move}
    (moved : world.move server program label = some next) : next.Stuck := by
  rcases stuck.waits with ⟨call, at_pc⟩
  cases move_moves moved with
  | polls other stack refused at_pc flag => exact stuck
  | begins other stack refused idle chosen => cases at_pc.symm.trans idle
  | sets other payload stack refused there => cases at_pc.symm.trans there
  | leavesSend other stack refused there => cases at_pc.symm.trans there
  | returns other stack refused there flag => cases stuck.flag.symm.trans flag
  | refuses other payload stack there => cases at_pc.symm.trans there
  | accepts other payload there => cases at_pc.symm.trans there
  | serves residue stack request rest queue => cases stuck.noRequest.symm.trans queue
  | delivers residue response rest queue => cases stuck.noResponse.symm.trans queue

/-- A program that has ended stays as it is. -/
theorem Finished.stays (finished : world.Finished program) {label : Move}
    (moved : world.move server program label = some next) : next.Finished program := by
  rcases finished with ⟨idle, done⟩
  cases move_moves moved with
  | polls other stack refused there flag => cases idle.symm.trans there
  | begins other stack refused idle chosen => cases done.symm.trans chosen
  | sets other payload stack refused there => cases idle.symm.trans there
  | leavesSend other stack refused there => cases idle.symm.trans there
  | returns other stack refused there flag => cases idle.symm.trans there
  | refuses other payload stack there => cases idle.symm.trans there
  | accepts other payload there => cases idle.symm.trans there
  | serves residue stack request rest queue => exact ⟨idle, done⟩
  | delivers residue response rest queue => exact ⟨(callback_pc _ _).trans idle, done⟩

/-! ## The rank -/

/-- Each call is worth more than what it has ahead of it once it has begun. -/
def rank (program : Program) (world : World S) : Nat :=
  8 * (program.bound - world.outcomes.length) + world.client.pc.price +
    2 * world.requests.length + world.responses.length

def Busy (program : Program) (world : World S) : Mover -> Prop
  | .caller =>
      match world.client.pc with
      | .idle => (program.next world.outcomes).isSome
      | .prepared _ _ | .inSend _ => True
      | .waiting _ => world.client.waitResp = false
      | .sending _ _ => False
  | .transport => Exists fun call => Exists fun payload => world.client.pc = .sending call payload
  | .server => world.requests ≠ []
  | .channel => world.responses ≠ []

theorem InSession.room (session : world.InSession program) {call : Call}
    (current : call ∈ world.client.pc.current) : world.outcomes.length < program.bound := by
  apply Nat.lt_of_not_le
  intro past
  cases (session.chosen call current).symm.trans (program.ends _ past)

theorem return_outcomes (world : World S) (call : Call) (sendFailed : Bool) :
    (world.return_ call sendFailed).outcomes.length = world.outcomes.length + 1 := by
  rw [outcomes, outcomes, List.length_map, List.length_map, return_, List.length_append,
    List.length_singleton]

/-- A call that returns makes room for a whole call. -/
theorem return_rank (session : world.InSession program) {call : Call} (sendFailed : Bool)
    (current : call ∈ world.client.pc.current) :
    (world.return_ call sendFailed).rank program < world.rank program := by
  have room := session.room current
  have counted := return_outcomes world call sendFailed
  simp only [rank, counted]
  simp only [return_, Pc.price]
  omega

/-- A move lowers the rank, or leaves everything as it is: the caller polls, or tries again to
send the request of an open. -/
theorem Moves.lowers (session : world.InSession program) {label : Move}
    (moved : Moves server program world label next) (kept : ¬ world.CloseRefused label) :
    next.rank program < world.rank program ∨
      next = world ∧ ¬ world.Busy program label.mover := by
  cases moved with
  | begins call stack refused idle chosen =>
      apply Or.inl
      simp only [rank, start_pc, idle, Pc.price]
      exact Nat.add_lt_add_right (Nat.add_lt_add_right (Nat.lt_succ_self _) _) _
  | sets call payload stack refused at_pc =>
      apply Or.inl
      simp only [rank, at_pc, Pc.price]
      exact Nat.add_lt_add_right (Nat.add_lt_add_right (Nat.lt_succ_self _) _) _
  | leavesSend call stack refused at_pc =>
      apply Or.inl
      simp only [rank, at_pc, Pc.price]
      exact Nat.add_lt_add_right (Nat.add_lt_add_right (Nat.lt_succ_self _) _) _
  | polls call stack refused at_pc flag =>
      refine Or.inr ⟨rfl, ?_⟩
      simp only [Move.mover, Busy, at_pc, flag, reduceCtorEq, not_false_eq_true]
  | returns call stack refused at_pc flag =>
      exact Or.inl (return_rank session false (by rw [at_pc]; exact List.mem_singleton.mpr rfl))
  | refuses call payload stack at_pc =>
      have current : call ∈ world.client.pc.current := by
        rw [at_pc]
        exact List.mem_singleton.mpr rfl
      cases call with
      | rpmsgOpen filename flags mode =>
          refine Or.inr ⟨rfl, ?_⟩
          simp only [Move.mover, Busy, at_pc, not_false_eq_true]
      | rpmsgClose fd => exact absurd ⟨fd, payload, stack, at_pc, rfl⟩ kept
      | rpmsgRead | rpmsgWrite | rpmsgInput => exact Or.inl (return_rank session true current)
  | accepts call payload at_pc =>
      apply Or.inl
      have same : (world.sendSucceeds call payload).outcomes = world.outcomes := rfl
      simp only [rank, same]
      simp only [sendSucceeds, at_pc, Pc.price, List.length_append, List.length_singleton]
      omega
  | serves residue stack request rest queue =>
      apply Or.inl
      have few := @Option.length_toList_le _ (server.handle world.server request.id
        (residue.writeBytes 0 request.payload) stack).2
      simp only [rank, queue, outcomes, List.length_append, List.length_map, List.length_cons]
      omega
  | delivers residue response rest queue =>
      apply Or.inl
      have at_rest := callback_pc world.client (response.delivery residue)
      simp only [rank, queue, at_rest, outcomes, List.length_cons]
      omega

/-- Who is busy can move. -/
theorem busy_moves {label : Move} (busy : world.Busy program label.mover) :
    Exists fun next => world.move server program label = some next := by
  cases label with
  | accept =>
      rcases busy with ⟨call, payload, at_pc⟩
      exact ⟨_, by rw [move, step, at_pc]; rfl⟩
  | serve residue stack =>
      cases queue : world.requests with
      | nil => exact absurd queue busy
      | cons request rest => exact ⟨_, by rw [move, step, queue]⟩
  | deliver residue =>
      cases queue : world.responses with
      | nil => exact absurd queue busy
      | cons response rest => exact ⟨_, by rw [move, step, queue]⟩
  | caller stack refused =>
      cases at_pc : world.client.pc with
      | idle =>
          simp only [Move.mover, Busy, at_pc, Option.isSome_iff_exists] at busy
          rcases busy with ⟨call, chosen⟩
          refine ⟨{ world with
            client := world.client.start call stack
            ticket := world.ticket + 1 }, ?_⟩
          simp only [move, callerStep, at_pc, chosen, step, if_neg (program.proper _ _ chosen)]
      | prepared | inSend => exact ⟨_, by rw [move, callerStep, at_pc, step, clientStep, at_pc]⟩
      | waiting call =>
          simp only [Move.mover, Busy, at_pc] at busy
          refine ⟨world.return_ call false, ?_⟩
          simp only [move, callerStep, at_pc, step, clientStep, busy, Bool.false_eq_true, if_false]
      | sending call payload => simp only [Move.mover, Busy, at_pc] at busy

theorem InSession.somebody (session : world.InSession program)
    (short : ¬ world.Finished program) : Exists fun who => world.Busy program who := by
  cases at_pc : world.client.pc with
  | idle =>
      refine ⟨.caller, ?_⟩
      simp only [Busy, at_pc, Option.isSome_iff_ne_none, ne_eq]
      exact fun done => short ⟨at_pc, done⟩
  | prepared | inSend =>
      refine ⟨.caller, ?_⟩
      simp only [Busy, at_pc]
  | sending call payload => exact ⟨.transport, call, payload, at_pc⟩
  | waiting call =>
      cases flag : world.client.waitResp with
      | false =>
          refine ⟨.caller, ?_⟩
          simp only [Busy, at_pc, flag]
      | true =>
          have one := session.onTheWay call (Or.inr at_pc) flag
          cases queue : world.requests with
          | cons request rest =>
              refine ⟨.server, ?_⟩
              simp only [Busy, queue, ne_eq, reduceCtorEq, not_false_eq_true]
          | nil =>
              refine ⟨.channel, ?_⟩
              intro empty
              rw [queue, empty] at one
              exact absurd one (by decide)

/-- As long as no close is refused, the program comes to its end. -/
theorem ranked (answers : server.Answers) :
    Fairness.Ranked (move server program) Move.mover (fun world label => ¬ world.CloseRefused label)
      (InSession program) (Finished program) (rank program) (Busy program) :=
  .descending (fun _ _ _ session kept moved => session.move answers moved kept)
    (fun _ _ _ session kept moved => (move_moves moved).lowers session kept)
    (fun _ _ _ _ busy => busy_moves busy) (fun _ session short => session.somebody short)

end Moves

/-! ## Programs return -/

/-- Refused closes apart, the session goes on; after one the caller is stuck. -/
theorem trace_session {server : Server S} (answers : server.Answers) (program : Program) (start : S)
    (schedule : Nat -> Move) (n : Nat) :
    (Fairness.trace (move server program) (initial start) schedule n).InSession program ∨
      (Fairness.trace (move server program) (initial start) schedule n).Stuck := by
  have preserved : forall (world : World S) label next, world.InSession program ∨ world.Stuck ->
      True -> world.move server program label = some next ->
        next.InSession program ∨ next.Stuck := by
    intro world label next before _ moved
    rcases before with session | stuck
    · by_cases refused : world.CloseRefused label
      · rcases session.ok.sticks refused with ⟨after, performed, stuck⟩
        cases moved.symm.trans performed
        exact Or.inr stuck
      · exact Or.inl (session.move answers moved refused)
    · exact Or.inr (stuck.stays moved)
  exact Fairness.trace_invariant preserved (Or.inl (InSession.initially program start))
    (fun _ => trivial) n

/-- Against a server that answers, a program comes to its end exactly if no send of an
`rpmsg_close()` is refused; the others may be.  The program is any one that makes finitely many
calls, each chosen from what the earlier ones have returned, and none that `rpmsg_read()` or
`rpmsg_input()` would reject for a null or an empty buffer: both are fields of `Program`, the
first because a program without end never comes to it, the second because a rejected call is
no exchange.  Fairness is needed because a party that never acts holds up the others. -/
theorem returns_iff_close_taken (server : Server S) (answers : server.Answers)
    (program : Program) (start : S) (schedule : Nat -> Move)
    (fair : Fairness.Fair Move.mover schedule) :
    (Exists fun n =>
        (Fairness.trace (move server program) (initial start) schedule n).Finished program) ↔
      forall n, ¬ (Fairness.trace (move server program) (initial start) schedule n).CloseRefused
        (schedule n) := by
  constructor
  · rintro ⟨n, finished⟩ m refused
    have session : (Fairness.trace (move server program) (initial start) schedule m).InSession
        program := by
      rcases trace_session answers program start schedule m with session | stuck
      · exact session
      · rcases refused with ⟨fd, payload, stack, at_pc, _⟩
        rcases stuck.waits with ⟨call, waits⟩
        cases at_pc.symm.trans waits
    have stuck : (Fairness.trace (move server program) (initial start) schedule (m + 1)).Stuck := by
      rcases session.ok.sticks refused with ⟨next, moved, stuck⟩
      rw [Fairness.trace_of_some moved]
      exact stuck
    have stuckLater := Fairness.trace_stays (fun _ _ _ before moved => Stuck.stays before moved)
      stuck n
    have finishedLater := Fairness.trace_stays
      (fun _ _ _ before moved => Finished.stays before moved) finished (m + 1)
    rw [Nat.add_comm] at finishedLater
    rcases stuckLater.waits with ⟨call, waits⟩
    cases finishedLater.1.symm.trans waits
  · intro taken
    exact (ranked answers).reaches (InSession.initially program start) taken fair

/-! ## Programs see local files -/

section Follows

variable {Fs : Type} {os : ServerOs Fs} {fs : Fs} {program : Program} {world next : World Fs}

/-- The calls that have returned are the first ones of the program made locally. -/
structure Follows (os : ServerOs Fs) (fs : Fs) (program : Program) (world : World Fs) : Prop where
  agrees : world.Agrees os fs
  session : world.InSession program
  local_ : program.played os.toFileSystem fs world.outcomes.length =
    (world.before os fs, world.outcomes)

theorem Follows.initially (os : ServerOs Fs) (fs : Fs) (program : Program) :
    (initial fs).Follows os fs program where
  agrees := initial_agrees os fs
  session := InSession.initially program fs
  local_ := rfl

theorem demod_answers (os : ServerOs Fs) : os.demod.Answers := fun _ _ _ _ => rfl

/-- The next call of the program is in range if those of the local run are. -/
theorem Follows.inRange (follows : world.Follows os fs program)
    (inRange : forall n call, program.next (program.played os.toFileSystem fs n).2 = some call ->
      call.InRange)
    (call : Call) (chosen : program.next world.outcomes = some call) : call.InRange := by
  apply inRange world.outcomes.length call
  rw [follows.local_]
  exact chosen

/-- Unless a call returns, its place in the program is as before. -/
theorem Follows.same (follows : world.Follows os fs program)
    (returned : next.returned = world.returned) :
    program.played os.toFileSystem fs next.outcomes.length =
      (next.before os fs, next.outcomes) := by
  have outcomes_ : next.outcomes = world.outcomes := by rw [outcomes, outcomes, returned]
  have before_ : next.before os fs = world.before os fs := by
    rw [before, before, calls, calls, returned]
  rw [outcomes_, before_]
  exact follows.local_

/-- A call that returns is the next one of the local run, with its outcome. -/
theorem Follows.returns (follows : world.Follows os fs program) {call : Call}
    (current : call ∈ world.client.pc.current)
    (agrees : (world.return_ call false).Agrees os fs) :
    program.played os.toFileSystem fs (world.return_ call false).outcomes.length =
      ((world.return_ call false).before os fs, (world.return_ call false).outcomes) := by
  have made : (world.return_ call false).calls = world.calls ++ [call] := by
    simp only [calls, return_, List.map_append, List.map_cons, List.map_nil]
  have chosen := follows.session.chosen call current
  have after : (world.return_ call false).before os fs =
      (localCall os.toFileSystem (world.before os fs) call).1 := by
    rw [before, made, localRun_append]
    rfl
  have grown : (world.return_ call false).outcomes =
      world.outcomes ++ [(localCall os.toFileSystem (world.before os fs) call).2] := by
    rw [← agrees.history, made, localRun_append, follows.agrees.history]
    rfl
  rw [return_outcomes, Program.played, follows.local_]
  simp only [chosen]
  rw [after, grown]

theorem Follows.move (follows : world.Follows os fs program)
    (inRange : forall n call, program.next (program.played os.toFileSystem fs n).2 = some call ->
      call.InRange)
    {label : Move} (sent : ¬ world.Lost label)
    (moved : world.move os.demod program label = some next) : next.Follows os fs program := by
  have closeSent : ¬ world.CloseRefused label := by
    rintro ⟨fd, payload, stack, at_pc, refused⟩
    exact sent ⟨_, payload, stack, at_pc, FuncId.noConfusion, refused⟩
  have session := follows.session.move (demod_answers os) moved closeSent
  rcases move_step moved with ⟨event, performed, _, proper⟩
  rcases proper sent (follows.inRange inRange) with same | proper
  · rw [same]
    exact follows
  · have agrees := follows.agrees.step proper performed
    refine ⟨agrees, session, ?_⟩
    cases move_moves moved with
    | returns call stack refused at_pc flag =>
        apply follows.returns _ agrees
        rw [at_pc]
        exact List.mem_singleton.mpr rfl
    | refuses call payload stack at_pc =>
        cases call with
        | rpmsgOpen filename flags mode => exact follows.local_
        | rpmsgRead | rpmsgWrite | rpmsgClose | rpmsgInput =>
            exact absurd ⟨_, payload, stack, at_pc, FuncId.noConfusion, rfl⟩ sent
    | begins | sets | leavesSend | polls | accepts | serves | delivers => exact follows.same rfl

theorem Follows.final (follows : world.Follows os fs program) (finished : world.Finished program) :
    (world.server, world.outcomes) = program.played os.toFileSystem fs program.bound := by
  have few := program.played_bounded os.toFileSystem fs world.outcomes.length
  have done : program.next (program.played os.toFileSystem fs world.outcomes.length).2 = none := by
    rw [follows.local_]
    exact finished.2
  have last := program.played_done os.toFileSystem fs done (program.bound - world.outcomes.length)
  rw [follows.local_] at few
  rw [Nat.add_sub_cancel' few, follows.local_] at last
  rw [last, follows.agrees.quiet finished.1]

end Follows

/-- A program whose calls are in range comes to its end if no request but that of an open is
refused, and then its files and all it has seen are those of the same program made locally.
The program makes finitely many calls, none of them rejected (`Program`); only those that the
local program makes have to be in range, since the remote one makes no others.  A refused open
is tried again, and every other refused request is lost for good. -/
theorem program_transparent {Fs : Type} (os : ServerOs Fs) (fs : Fs) (program : Program)
    (inRange : forall n call, program.next (program.played os.toFileSystem fs n).2 = some call ->
      call.InRange)
    (schedule : Nat -> Move) (fair : Fairness.Fair Move.mover schedule)
    (sent : forall n, ¬ (Fairness.trace (move os.demod program) (initial fs) schedule n).Lost
      (schedule n)) :
    Exists fun n =>
      let world := Fairness.trace (move os.demod program) (initial fs) schedule n
      world.Finished program ∧
        (world.server, world.outcomes) = program.played os.toFileSystem fs program.bound := by
  have closeSent : forall n,
      ¬ (Fairness.trace (move os.demod program) (initial fs) schedule n).CloseRefused
        (schedule n) := by
    rintro n ⟨fd, payload, stack, at_pc, refused⟩
    exact sent n ⟨_, payload, stack, at_pc, FuncId.noConfusion, refused⟩
  rcases (ranked (demod_answers os)).reaches (InSession.initially program fs) closeSent fair with
    ⟨n, finished⟩
  have follows : (Fairness.trace (move os.demod program) (initial fs) schedule n).Follows os fs
      program :=
    Fairness.trace_invariant (fun _ _ _ before sent moved => Follows.move before inRange sent moved)
      (Follows.initially os fs program) sent n
  exact ⟨n, finished, follows.final finished⟩

/-! ## Programs of the demo -/

/-- The file `remote.file` and the text that `app()` writes to it. -/
def fname : List UInt8 := "remote.file".toUTF8.toList

def wbuff : ByteMemory :=
  ByteMemory.writeBytes (fun _ => 0) 0
    ("This is a test string being written to file..".toUTF8.toList ++ [0])

/-- `file_d` after an open -/
def fileD (opened : Outcome) : BitVec 32 := BitVec.ofInt 32 opened.result

/-- The calls of `app()` up to its loop: a file is created, written and closed, then opened
again, read and closed. -/
def fileDemo (rbuff : ByteMemory) : Program where
  next
    | [] => some (.rpmsgOpen fname 1089 384)
    | [opened] => some (.rpmsgWrite (fileD opened) wbuff 45)
    | [opened, _] => some (.rpmsgClose (fileD opened))
    | [_, _, _] => some (.rpmsgOpen fname 0 384)
    | [_, _, _, opened] => some (.rpmsgRead (fileD opened) (some rbuff) 300)
    | [_, _, _, opened, _] => some (.rpmsgClose (fileD opened))
    | _ => none
  bound := 6
  ends := by
    intro seen enough
    split <;> first | rfl | exact absurd enough (by simp)
  proper := by
    intro seen call chosen
    split at chosen <;> cases chosen <;> simp [Call.Rejected]

/-- A file with a short name is created, written and closed. -/
def noteDemo : Program where
  next
    | [] => some (.rpmsgOpen [97] 1089 384)
    | [opened] => some (.rpmsgWrite (fileD opened) wbuff 45)
    | [opened, _] => some (.rpmsgClose (fileD opened))
    | _ => none
  bound := 3
  ends := by
    intro seen enough
    split <;> first | rfl | exact absurd enough (by simp)
  proper := by
    intro seen call chosen
    split at chosen <;> cases chosen <;> simp [Call.Rejected]

/-- Everybody in turn, and every request is taken. -/
def willing : Nat -> Move :=
  Fairness.cycle (.caller (fun _ => 0) false)
    [.accept, .serve (fun _ => 0) (fun _ => 0), .deliver (fun _ => 0)]

theorem willing_fair : Fairness.Fair Move.mover willing := by
  apply Fairness.cycle_fair
  intro who
  cases who with
  | caller => exact ⟨_, List.mem_cons_self, rfl⟩
  | transport => exact ⟨.accept, by simp, rfl⟩
  | server => exact ⟨.serve (fun _ => 0) (fun _ => 0), by simp, rfl⟩
  | channel => exact ⟨.deliver (fun _ => 0), by simp, rfl⟩

theorem willing_takes (n : Nat) (stack : ByteMemory) : willing n ≠ .caller stack true := by
  intro refuses
  have turn := Fairness.cycle_mem (Move.caller (fun _ => 0) false)
    [.accept, .serve (fun _ => 0) (fun _ => 0), .deliver (fun _ => 0)] n
  rw [show Fairness.cycle _ _ n = willing n from rfl, refuses] at turn
  simp at turn

/-- The file part of `app()` ends. -/
theorem fileDemo_returns : Exists fun n =>
    (Fairness.trace (move queueOs.demod (fileDemo fun _ => 0)) (initial []) willing n).Finished
      (fileDemo fun _ => 0) := by
  apply (returns_iff_close_taken queueOs.demod (demod_answers queueOs) (fileDemo fun _ => 0) []
    willing willing_fair).mpr
  rintro n ⟨fd, payload, stack, _, refused⟩
  exact willing_takes n stack refused

theorem noteDemo_inRange (n : Nat) (call : Call)
    (chosen : noteDemo.next (noteDemo.played queueOs.toFileSystem [] n).2 = some call) :
    call.InRange := by
  revert chosen
  generalize (noteDemo.played queueOs.toFileSystem [] n).2 = seen
  intro chosen
  unfold noteDemo at chosen
  dsimp only at chosen
  split at chosen
  · cases chosen
    decide
  · cases chosen
    exact ⟨by decide, by decide⟩
  · cases chosen
    trivial
  · cases chosen

/-- Seen from the program, the files are local. -/
theorem noteDemo_transparent : Exists fun n =>
    let world := Fairness.trace (move queueOs.demod noteDemo) (initial []) willing n
    world.Finished noteDemo ∧
      (world.server, world.outcomes) =
        noteDemo.played queueOs.toFileSystem [] noteDemo.bound := by
  apply program_transparent queueOs [] noteDemo noteDemo_inRange willing willing_fair
  rintro n ⟨call, payload, stack, _, _, refused⟩
  exact willing_takes n stack refused

end World
end LinuxRpc
end OpenAmpReference
