import Mathlib.Data.List.Nodup
import OpenAmpReference.Library.Transition

namespace OpenAmpReference
namespace ShellSend

/-!
# The shell command of the shared memory sample

The command sends a message and waits on a semaphore that the endpoint's callback
gives, as often as it is told.  The semaphore does not say whose echo has arrived, and
it outlives the command, so an echo that comes after the timeout is taken for the
answer to the first message of the next command.
-/

/-- A message on its way, with its number. -/
structure Message where
  ticket : Nat
  text : List UInt8
  deriving DecidableEq, Repr

/-- A message that a command has sent, and whether its echo has arrived since. -/
structure Exchange where
  ticket : Nat
  answered : Bool
  deriving DecidableEq, Repr

/-- Where the command is in the body of its loop. -/
inductive Stage
  | send
  | take
  | waiting
  | granted
  deriving DecidableEq, Repr

/-- A command that runs: its count, what is left of it, the number of its first message,
and what it has sent, the last message first. -/
structure Command where
  stage : Stage
  text : List UInt8
  count : Int
  noofMessages : Int
  first : Nat
  exchanges : List Exchange
  deriving DecidableEq, Repr

/-- The record of an echo that arrives. -/
def Command.record (command : Command) (ticket : Nat) : Command :=
  match command.exchanges with
  | [] => command
  | exchange :: earlier =>
      if exchange.ticket = ticket then
        { command with exchanges := { exchange with answered := true } :: earlier }
      else command

/-- A command that has returned. -/
structure Returned where
  count : Int
  ret : Int
  exchanges : List Exchange
  deriving DecidableEq, Repr

/-- `-ENODEV` -/
def eNodev : Int := -19

/-- `-EAGAIN`, the result of `k_sem_take()` after the timeout -/
def eAgain : Int := -11

structure World where
  ready : Bool
  rxSem : Nat
  numberOfCompletedMsgs : Nat
  command : Option Command
  last : Option Returned
  toRemote : List Message
  toHost : List Message
  nextTicket : Nat
  deriving DecidableEq, Repr

namespace World

def initial : World where
  ready := false
  rxSem := 0
  numberOfCompletedMsgs := 0
  command := none
  last := none
  toRemote := []
  toHost := []
  nextTicket := 0

/-- The command returns to the shell. -/
def returns (world : World) (command : Command) (ret : Int) : World :=
  { world with
    command := none
    last := some { count := command.count, ret := ret, exchanges := command.exchanges } }

/-- The beginning of `cmd_rpmsg_ivshmem_send()` -/
def cmdRpmsgIvshmemSend (world : World) (text : List UInt8) (count : Int) : World :=
  let command : Command :=
    { stage := Stage.send, text := text, count := count, noofMessages := count
      first := world.nextTicket, exchanges := [] }
  if world.ready then { world with numberOfCompletedMsgs := 0, command := some command }
  else world.returns command eNodev

/-- `rpmsg_send()` returns. -/
def sendReturned (world : World) (command : Command) (status : Int) : World :=
  if status < 0 then world.returns command status
  else
    { world with
      command := some { command with
        stage := Stage.take
        exchanges := { ticket := world.nextTicket, answered := false } :: command.exchanges }
      toRemote := world.toRemote ++ [{ ticket := world.nextTicket, text := command.text }]
      nextTicket := world.nextTicket + 1 }

/-- The end of the body of the loop -/
def proceed (world : World) (command : Command) : World :=
  if command.noofMessages - 1 = 0 then
    world.returns { command with noofMessages := command.noofMessages - 1 } 0
  else
    { world with
      command := some { command with
        stage := Stage.send
        noofMessages := command.noofMessages - 1 } }

/-- `k_sem_take()` -/
def kSemTake (world : World) (command : Command) : World :=
  if 0 < world.rxSem then { world with rxSem := world.rxSem - 1 }.proceed command
  else { world with command := some { command with stage := Stage.waiting } }

/-- `k_sem_give()`: a thread that waits goes on, or else the semaphore counts to its limit. -/
def kSemGive (world : World) : World :=
  match world.command with
  | none => { world with rxSem := min (world.rxSem + 1) 1 }
  | some command =>
      if command.stage = Stage.waiting then
        { world with command := some { command with stage := Stage.granted } }
      else { world with rxSem := min (world.rxSem + 1) 1 }

/-- `endpoint_cb()` of the host -/
def endpointCb (world : World) (message : Message) : World :=
  let counted := { world with
    numberOfCompletedMsgs := world.numberOfCompletedMsgs + 1
    command := world.command.map fun command => Command.record command message.ticket }
  counted.kSemGive

/-- `endpoint_cb()` of the remote, which sends the message back -/
def remoteEndpointCb (world : World) (message : Message) (status : Int) : World :=
  if status < 0 then world else { world with toHost := world.toHost ++ [message] }

end World

inductive Event
  | deviceReady
  | command (text : List UInt8) (count : Int)
  | sendReturns (status : Int)
  | semTake
  | timeout
  | wake
  | remoteReceives (status : Int)
  | hostReceives
  deriving DecidableEq, Repr

open World in
def step (world : World) (event : Event) : Option World :=
  match event with
  | Event.deviceReady => some { world with ready := true }
  | Event.command text count =>
      match world.command with
      | none => some (world.cmdRpmsgIvshmemSend text count)
      | some _ => none
  | Event.sendReturns status =>
      match world.command with
      | some command =>
          if command.stage = Stage.send then some (world.sendReturned command status) else none
      | none => none
  | Event.semTake =>
      match world.command with
      | some command =>
          if command.stage = Stage.take then some (world.kSemTake command) else none
      | none => none
  | Event.timeout =>
      match world.command with
      | some command =>
          if command.stage = Stage.waiting then some (world.returns command eAgain) else none
      | none => none
  | Event.wake =>
      match world.command with
      | some command =>
          if command.stage = Stage.granted then some (world.proceed command) else none
      | none => none
  | Event.remoteReceives status =>
      match world.toRemote with
      | [] => none
      | message :: rest =>
          some ({ world with toRemote := rest }.remoteEndpointCb message status)
  | Event.hostReceives =>
      match world.toHost with
      | [] => none
      | message :: rest => some ({ world with toHost := rest }.endpointCb message)

namespace World

/-- What a command has done agrees with its count: it sends nothing unless the count is
positive, and it returns zero only after that many messages, all answered. -/
structure Honest (world : World) : Prop where
  running : forall command, world.command = some command -> command.count ≤ 0 ->
    command.exchanges = []
  returned : forall done, world.last = some done -> done.count ≤ 0 -> done.exchanges = []
  answered : forall done, world.last = some done -> done.ret = 0 ->
    done.exchanges.length = done.count ∧
      forall exchange, exchange ∈ done.exchanges -> exchange.answered = true

/-- A command starts with the semaphore at zero, it sends only if its count is positive,
and no echo of an earlier command arrives while it runs. -/
def Punctual (world : World) (event : Event) : Prop :=
  match event with
  | Event.command _ _ => world.ready = true -> world.rxSem = 0
  | Event.sendReturns status => 0 ≤ status ->
      forall command, world.command = some command -> 0 < command.count
  | Event.hostReceives => forall command, world.command = some command ->
      forall message, world.toHost.head? = some message -> command.first ≤ message.ticket
  | _ => True

/-! ## The invariant -/

/-- The messages on their way, from the oldest one. -/
def inFlight (world : World) : List Message :=
  world.toHost ++ world.toRemote

/-- The command has sent a message last whose echo has arrived, or not; it has no other
message on its way. -/
structure Awaits (world : World) (command : Command) (answered : Bool) (ticket : Nat)
    (earlier : List Exchange) : Prop where
  exchanges : command.exchanges = { ticket := ticket, answered := answered } :: earlier
  earlierAnswered : forall exchange, exchange ∈ earlier -> exchange.answered = true
  onlyLast : forall message, message ∈ world.inFlight -> command.first ≤ message.ticket ->
    message.ticket = ticket ∧ answered = false
  counted : command.exchanges.length + command.noofMessages = command.count + 1

/-- All messages of the command are answered, and none is on its way. -/
structure Settled (world : World) (command : Command) : Prop where
  semEmpty : world.rxSem = 0
  allAnswered : forall exchange, exchange ∈ command.exchanges -> exchange.answered = true
  noneInFlight : forall message, message ∈ world.inFlight -> ¬ command.first ≤ message.ticket
  counted : command.exchanges.length + command.noofMessages = command.count

/-- The semaphore tells whether the echo of the last message has arrived. -/
def StageOk (world : World) (command : Command) : Prop :=
  match command.stage with
  | Stage.send => Settled world command
  | Stage.take => Exists fun answered => Exists fun ticket => Exists fun earlier =>
      Awaits world command answered ticket earlier ∧ world.rxSem = answered.toNat
  | Stage.waiting => Exists fun ticket => Exists fun earlier =>
      Awaits world command false ticket earlier ∧ world.rxSem = 0
  | Stage.granted => Exists fun ticket => Exists fun earlier =>
      Awaits world command true ticket earlier ∧ world.rxSem = 0

structure Ok (world : World) : Prop where
  honest : Honest world
  distinct : (world.inFlight.map Message.ticket).Nodup
  below : forall message, message ∈ world.inFlight -> message.ticket < world.nextTicket
  stage : forall command, world.command = some command -> StageOk world command

theorem ok_initial : Ok initial where
  honest := { running := nofun, returned := nofun, answered := nofun }
  distinct := List.nodup_nil
  below := nofun
  stage := nofun

/-! ## The ends of a command -/

variable {world : World} {command : Command}

/-- A command returns with what it has sent. -/
theorem Ok.returns (ok : Ok world) (runs : world.command = some command) {rxSem : Nat}
    {noofMessages ret : Int}
    (complete : ret = 0 -> command.exchanges.length = command.count ∧
      forall exchange, exchange ∈ command.exchanges -> exchange.answered = true) :
    Ok ({ world with rxSem := rxSem }.returns { command with noofMessages := noofMessages }
      ret) where
  honest := {
    running := nofun
    returned := by
      rintro done last nothing
      cases last
      exact ok.honest.running command runs nothing
    answered := by
      rintro done last zero
      cases last
      exact complete zero }
  distinct := ok.distinct
  below := ok.below
  stage := nofun

/-- A command that goes on as it is expected to. -/
theorem Ok.continues (ok : Ok world) {rxSem : Nat} {later : Command}
    (honest : later.count ≤ 0 -> later.exchanges = [])
    (stage : StageOk { world with rxSem := rxSem, command := some later } later) :
    Ok { world with rxSem := rxSem, command := some later } where
  honest := {
    running := fun _ runs => Option.some.inj runs ▸ honest
    returned := ok.honest.returned
    answered := ok.honest.answered }
  distinct := ok.distinct
  below := ok.below
  stage := fun _ runs => Option.some.inj runs ▸ stage

/-! ## The steps of the command -/

theorem Ok.starts (ok : Ok world) (text : List UInt8) (count : Int)
    (semEmpty : world.ready = true -> world.rxSem = 0) :
    Ok (world.cmdRpmsgIvshmemSend text count) := by
  unfold cmdRpmsgIvshmemSend
  split
  · rename_i ready
    exact {
      honest := {
        running := fun _ runs _ => Option.some.inj runs ▸ rfl
        returned := ok.honest.returned
        answered := ok.honest.answered }
      distinct := ok.distinct
      below := ok.below
      stage := by
        intro command runs
        cases runs
        exact {
          semEmpty := semEmpty ready
          allAnswered := nofun
          noneInFlight := fun message sent => Nat.not_le.mpr (ok.below message sent)
          counted := Int.zero_add count } }
  · exact {
      honest := {
        running := nofun
        returned := fun _ last _ => Option.some.inj last ▸ rfl
        answered := by
          intro done last zero
          cases last
          exact absurd zero (by decide : eNodev ≠ 0) }
      distinct := ok.distinct
      below := ok.below
      stage := nofun }

theorem Ok.sends (ok : Ok world) (runs : world.command = some command)
    (atSend : command.stage = Stage.send) (status : Int)
    (positive : 0 ≤ status -> 0 < command.count) : Ok (world.sendReturned command status) := by
  have settled : Settled world command := by
    have stage := ok.stage command runs
    rw [StageOk, atSend] at stage
    exact stage
  unfold sendReturned
  split
  · rename_i failed
    exact ok.returns runs fun zero => absurd zero (Int.ne_of_lt failed)
  · rename_i succeeded
    have count := positive (Int.not_lt.mp succeeded)
    have grown : forall message, message ∈ world.toHost ++ (world.toRemote ++
        [{ ticket := world.nextTicket, text := command.text }]) ->
          message ∈ world.inFlight ∨ message.ticket = world.nextTicket := by
      intro message sent
      rw [← List.append_assoc, List.mem_append, List.mem_singleton] at sent
      exact sent.imp id (congrArg Message.ticket)
    exact {
      honest := {
        running := by
          intro later runs' nothing
          cases runs'
          exact absurd count (Int.not_lt.mpr nothing)
        returned := ok.honest.returned
        answered := ok.honest.answered }
      distinct := by
        rw [inFlight, ← List.append_assoc, List.map_append]
        refine List.nodup_append.mpr ⟨ok.distinct, List.nodup_singleton _, ?_⟩
        intro ticket before other last same
        rcases List.mem_map.mp before with ⟨message, sent, rfl⟩
        cases List.mem_singleton.mp last
        exact Nat.ne_of_lt (ok.below message sent) same
      below := by
        intro message sent
        rcases grown message sent with before | last
        · exact Nat.lt_succ_of_lt (ok.below message before)
        · exact last ▸ Nat.lt_succ_self _
      stage := by
        intro later runs'
        cases runs'
        refine ⟨false, world.nextTicket, command.exchanges, ?_, settled.semEmpty⟩
        exact {
          exchanges := rfl
          earlierAnswered := settled.allAnswered
          onlyLast := by
            intro message sent own
            rcases grown message sent with before | last
            · exact absurd own (settled.noneInFlight message before)
            · exact ⟨last, rfl⟩
          counted := by
            have counted := settled.counted
            simp only [List.length_cons]
            omega } }

/-- The loop goes on once the last message is answered. -/
theorem Ok.proceeds (ok : Ok world) {rxSem : Nat} {ticket : Nat} {earlier : List Exchange}
    (runs : world.command = some command) (awaits : Awaits world command true ticket earlier)
    (semEmpty : rxSem = 0) : Ok ({ world with rxSem := rxSem }.proceed command) := by
  have answered : forall exchange, exchange ∈ command.exchanges -> exchange.answered = true := by
    intro exchange listed
    rw [awaits.exchanges] at listed
    rcases List.mem_cons.mp listed with rfl | before
    · rfl
    · exact awaits.earlierAnswered exchange before
  have counted := awaits.counted
  unfold proceed
  split
  · rename_i finished
    refine ok.returns runs fun _ => ⟨?_, answered⟩
    omega
  · refine ok.continues (fun nothing => ok.honest.running command runs nothing) ?_
    exact {
      semEmpty := semEmpty
      allAnswered := answered
      noneInFlight := fun message sent own => nomatch (awaits.onlyLast message sent own).2
      counted := by
        have rest : (command.exchanges.length : Int) + (command.noofMessages - 1) =
            command.count := by
          omega
        exact rest }

theorem Ok.takes (ok : Ok world) (runs : world.command = some command)
    (atTake : command.stage = Stage.take) : Ok (world.kSemTake command) := by
  have stage := ok.stage command runs
  rw [StageOk, atTake] at stage
  rcases stage with ⟨answered, ticket, earlier, awaits, sem⟩
  cases answered with
  | true =>
      rw [kSemTake, sem, if_pos (by decide)]
      exact ok.proceeds runs awaits rfl
  | false =>
      rw [kSemTake, sem, if_neg (by decide)]
      refine ok.continues (fun nothing => ok.honest.running command runs nothing) ?_
      refine ⟨ticket, earlier, ?_, rfl⟩
      exact {
        exchanges := awaits.exchanges
        earlierAnswered := awaits.earlierAnswered
        onlyLast := awaits.onlyLast
        counted := awaits.counted }

theorem Ok.wakes (ok : Ok world) (runs : world.command = some command)
    (isGranted : command.stage = Stage.granted) : Ok (world.proceed command) := by
  have stage := ok.stage command runs
  rw [StageOk, isGranted] at stage
  rcases stage with ⟨ticket, earlier, awaits, sem⟩
  exact ok.proceeds runs awaits sem

/-! ## The channels -/

/-- Fewer messages are on their way. -/
theorem StageOk.forget {fewer : World} (stage : StageOk world command)
    (sem : fewer.rxSem = world.rxSem)
    (sub : forall message, message ∈ fewer.inFlight -> message ∈ world.inFlight) :
    StageOk fewer command := by
  have keeps : forall {answered : Bool} {ticket : Nat} {earlier : List Exchange},
      Awaits world command answered ticket earlier ->
        Awaits fewer command answered ticket earlier := by
    intro answered ticket earlier awaits
    exact { awaits with onlyLast := fun message sent => awaits.onlyLast message (sub message sent) }
  unfold StageOk at stage ⊢
  split at stage
  · exact { stage with
      semEmpty := sem.trans stage.semEmpty
      noneInFlight := fun message sent => stage.noneInFlight message (sub message sent) }
  · rcases stage with ⟨answered, ticket, earlier, awaits, given⟩
    exact ⟨answered, ticket, earlier, keeps awaits, sem.trans given⟩
  · rcases stage with ⟨ticket, earlier, awaits, given⟩
    exact ⟨ticket, earlier, keeps awaits, sem.trans given⟩
  · rcases stage with ⟨ticket, earlier, awaits, given⟩
    exact ⟨ticket, earlier, keeps awaits, sem.trans given⟩

/-- The remote sends a message back, or loses it. -/
theorem Ok.remoteReceives (ok : Ok world) {message : Message} {rest : List Message}
    (arrives : world.toRemote = message :: rest) (status : Int) :
    Ok ({ world with toRemote := rest }.remoteEndpointCb message status) := by
  have sub : List.Sublist ({ world with toRemote := rest }.remoteEndpointCb message status).inFlight
      world.inFlight := by
    unfold remoteEndpointCb inFlight
    rw [arrives]
    split
    · exact List.Sublist.append_left (List.sublist_cons_self message rest) world.toHost
    · rw [List.append_assoc]
      exact List.Sublist.refl _
  have same : ({ world with toRemote := rest }.remoteEndpointCb message status).command =
        world.command ∧
      ({ world with toRemote := rest }.remoteEndpointCb message status).last = world.last ∧
      ({ world with toRemote := rest }.remoteEndpointCb message status).rxSem = world.rxSem ∧
      ({ world with toRemote := rest }.remoteEndpointCb message status).nextTicket =
        world.nextTicket := by
    unfold remoteEndpointCb
    split <;> exact ⟨rfl, rfl, rfl, rfl⟩
  exact {
    honest := {
      running := fun command runs => ok.honest.running command (same.1 ▸ runs)
      returned := fun done last => ok.honest.returned done (same.2.1 ▸ last)
      answered := fun done last => ok.honest.answered done (same.2.1 ▸ last) }
    distinct := (sub.map Message.ticket).nodup ok.distinct
    below := fun message sent =>
      Nat.lt_of_lt_of_eq (ok.below message (sub.subset sent)) same.2.2.2.symm
    stage := fun command runs =>
      (ok.stage command (same.1 ▸ runs)).forget same.2.2.1 fun _ sent => sub.subset sent }

theorem record_last {ticket : Nat} {answered : Bool} {earlier : List Exchange}
    (exchanges : command.exchanges = { ticket := ticket, answered := answered } :: earlier) :
    command.record ticket =
      { command with exchanges := { ticket := ticket, answered := true } :: earlier } := by
  simp only [Command.record, exchanges, if_true]

/-- The echo of the last message answers it. -/
theorem Awaits.answer {ticket : Nat} {earlier : List Exchange} {message : Message}
    {rest : List Message} (awaits : Awaits world command false ticket earlier)
    (distinct : (world.inFlight.map Message.ticket).Nodup)
    (arrives : world.toHost = message :: rest) (isLast : message.ticket = ticket) (later : World)
    (remain : later.inFlight = rest ++ world.toRemote) (stage : Stage) :
    Awaits later { command with
      stage := stage
      exchanges := { ticket := ticket, answered := true } :: earlier } true ticket earlier where
  exchanges := rfl
  earlierAnswered := awaits.earlierAnswered
  onlyLast := by
    intro other sent own
    rw [remain] at sent
    have before : world.inFlight = message :: (rest ++ world.toRemote) := by
      rw [inFlight, arrives, List.cons_append]
    rw [before, List.map_cons] at distinct
    have same := (awaits.onlyLast other (before ▸ List.mem_cons_of_mem _ sent) own).1
    have twice : message.ticket ∈ (rest ++ world.toRemote).map Message.ticket :=
      List.mem_map.mpr ⟨other, sent, same.trans isLast.symm⟩
    exact absurd twice (List.nodup_cons.mp distinct).1
  counted := by
    have counted := awaits.counted
    rw [awaits.exchanges] at counted
    exact counted

/-- The echo of the last message arrives while the command takes the semaphore, which counts
then, or while it waits. -/
theorem Ok.answers (ok : Ok world) (runs : world.command = some command) {ticket : Nat}
    {earlier : List Exchange} {message : Message} {rest : List Message}
    (awaits : Awaits world command false ticket earlier)
    (arrives : world.toHost = message :: rest) (isLast : message.ticket = ticket)
    {stage : Stage} {rxSem completed : Nat}
    (goes : stage = Stage.take ∧ rxSem = 1 ∨ stage = Stage.granted ∧ rxSem = 0) :
    Ok { world with
      toHost := rest
      numberOfCompletedMsgs := completed
      rxSem := rxSem
      command := some { command with
        stage := stage
        exchanges := { ticket := ticket, answered := true } :: earlier } } := by
  have before : world.inFlight = message :: (rest ++ world.toRemote) := by
    rw [inFlight, arrives, List.cons_append]
  have distinct := ok.distinct
  rw [before, List.map_cons] at distinct
  exact {
    honest := {
      running := by
        intro later runs' nothing
        cases runs'
        exact nomatch awaits.exchanges.symm.trans (ok.honest.running command runs nothing)
      returned := ok.honest.returned
      answered := ok.honest.answered }
    distinct := (List.nodup_cons.mp distinct).2
    below := fun other sent => ok.below other (before ▸ List.mem_cons_of_mem _ sent)
    stage := by
      intro later runs'
      cases runs'
      have answered := awaits.answer ok.distinct arrives isLast
      rcases goes with ⟨rfl, rfl⟩ | ⟨rfl, rfl⟩
      · exact ⟨true, ticket, earlier, answered _ rfl Stage.take, rfl⟩
      · exact ⟨ticket, earlier, answered _ rfl Stage.granted, rfl⟩ }

/-- The host takes an echo that is not from an earlier command. -/
theorem Ok.hostReceives (ok : Ok world) {message : Message} {rest : List Message}
    (arrives : world.toHost = message :: rest)
    (own : forall command, world.command = some command -> command.first ≤ message.ticket) :
    Ok ({ world with toHost := rest }.endpointCb message) := by
  have before : world.inFlight = message :: (rest ++ world.toRemote) := by
    rw [inFlight, arrives, List.cons_append]
  have first : message ∈ world.inFlight := before ▸ List.mem_cons_self ..
  cases runs : world.command with
  | none =>
      have distinct := ok.distinct
      rw [before, List.map_cons] at distinct
      simp only [endpointCb, Option.map_none, kSemGive]
      exact {
        honest := { running := nofun, returned := ok.honest.returned,
                    answered := ok.honest.answered }
        distinct := (List.nodup_cons.mp distinct).2
        below := fun other sent => ok.below other (before ▸ List.mem_cons_of_mem _ sent)
        stage := nofun }
  | some command =>
      have stage := ok.stage command runs
      have ours := own command runs
      unfold StageOk at stage
      split at stage
      · exact absurd ours (stage.noneInFlight message first)
      · rename_i atTake
        rcases stage with ⟨answered, ticket, earlier, awaits, sem⟩
        rcases awaits.onlyLast message first ours with ⟨isLast, rfl⟩
        have done : { world with toHost := rest, command := some command }.endpointCb message =
            { world with
              toHost := rest
              numberOfCompletedMsgs := world.numberOfCompletedMsgs + 1
              rxSem := 1
              command := some { command with
                stage := Stage.take
                exchanges := { ticket := ticket, answered := true } :: earlier } } := by
          simp only [endpointCb, Option.map_some, kSemGive, isLast, record_last awaits.exchanges,
            atTake, reduceCtorEq, if_false, sem]
          rfl
        exact done ▸ ok.answers runs awaits arrives isLast (Or.inl ⟨rfl, rfl⟩)
      · rename_i isWaiting
        rcases stage with ⟨ticket, earlier, awaits, sem⟩
        have isLast := (awaits.onlyLast message first ours).1
        have done : { world with toHost := rest, command := some command }.endpointCb message =
            { world with
              toHost := rest
              numberOfCompletedMsgs := world.numberOfCompletedMsgs + 1
              rxSem := 0
              command := some { command with
                stage := Stage.granted
                exchanges := { ticket := ticket, answered := true } :: earlier } } := by
          simp only [endpointCb, Option.map_some, kSemGive, isLast, record_last awaits.exchanges,
            isWaiting, if_true, sem]
        exact done ▸ ok.answers runs awaits arrives isLast (Or.inr ⟨rfl, rfl⟩)
      · rename_i isGranted
        rcases stage with ⟨ticket, earlier, awaits, _⟩
        exact nomatch (awaits.onlyLast message first ours).2

/-! ## Runs -/

theorem Ok.step {next : World} {event : Event} (ok : Ok world) (punctual : Punctual world event)
    (moved : ShellSend.step world event = some next) : Ok next := by
  cases event with
  | deviceReady =>
      cases moved
      exact {
        honest := { running := ok.honest.running, returned := ok.honest.returned,
                    answered := ok.honest.answered }
        distinct := ok.distinct
        below := ok.below
        stage := fun command runs => (ok.stage command runs).forget rfl fun _ sent => sent }
  | command text count =>
      cases runs : world.command with
      | none =>
          simp only [ShellSend.step, runs, Option.some.injEq] at moved
          exact moved ▸ ok.starts text count punctual
      | some command => simp only [ShellSend.step, runs, reduceCtorEq] at moved
  | sendReturns status =>
      cases runs : world.command with
      | none => simp only [ShellSend.step, runs, reduceCtorEq] at moved
      | some command =>
          simp only [ShellSend.step, runs, Option.ite_none_right_eq_some,
            Option.some.injEq] at moved
          exact moved.2 ▸ ok.sends runs moved.1 status fun sent => punctual sent command runs
  | semTake =>
      cases runs : world.command with
      | none => simp only [ShellSend.step, runs, reduceCtorEq] at moved
      | some command =>
          simp only [ShellSend.step, runs, Option.ite_none_right_eq_some,
            Option.some.injEq] at moved
          exact moved.2 ▸ ok.takes runs moved.1
  | timeout =>
      cases runs : world.command with
      | none => simp only [ShellSend.step, runs, reduceCtorEq] at moved
      | some command =>
          simp only [ShellSend.step, runs, Option.ite_none_right_eq_some,
            Option.some.injEq] at moved
          exact moved.2 ▸ ok.returns runs fun zero => absurd zero (by decide : eAgain ≠ 0)
  | wake =>
      cases runs : world.command with
      | none => simp only [ShellSend.step, runs, reduceCtorEq] at moved
      | some command =>
          simp only [ShellSend.step, runs, Option.ite_none_right_eq_some,
            Option.some.injEq] at moved
          exact moved.2 ▸ ok.wakes runs moved.1
  | remoteReceives status =>
      cases arrives : world.toRemote with
      | nil => simp only [ShellSend.step, arrives, reduceCtorEq] at moved
      | cons message rest =>
          simp only [ShellSend.step, arrives, Option.some.injEq] at moved
          exact moved ▸ ok.remoteReceives arrives status
  | hostReceives =>
      cases arrives : world.toHost with
      | nil => simp only [ShellSend.step, arrives, reduceCtorEq] at moved
      | cons message rest =>
          simp only [ShellSend.step, arrives, Option.some.injEq] at moved
          refine moved ▸ ok.hostReceives arrives fun command runs => ?_
          exact punctual command runs message (by rw [arrives, List.head?_cons])

open Transition

/-- In every run whose steps are punctual, every command is honest in every state. The remote may
answer late or fail to, timers run out at any time, and the user may type any count. Punctual is
asked of the state before a step: the command does not clear the semaphore, nor does it look at
which message an echo belongs to. -/
theorem honest_of_punctual (schedule : List Event)
    (punctual : Guarded Punctual step initial schedule) : Always Honest step initial schedule :=
  always_of_guarded Ok (fun _ ok => ok.honest)
    (fun _ _ _ ok punctual moved => ok.step punctual moved) schedule ok_initial punctual

/-- A message that is echoed in time -/
def echoed : List Event :=
  [Event.deviceReady, Event.command [] 1, Event.sendReturns 0, Event.remoteReceives 0,
    Event.hostReceives, Event.semTake]

theorem echoed_honest : Always Honest step initial echoed := by
  refine honest_of_punctual echoed ?_
  refine ⟨trivial, fun _ => rfl, ?_, trivial, ?_, trivial, trivial⟩
  · rintro _ command runs
    cases runs
    decide
  · rintro command runs message arrives
    cases runs
    cases arrives
    decide

/-- The echo of the first command arrives while the second one runs: the second command
returns zero with its message not answered. -/
def lateEcho : List Event :=
  [Event.deviceReady, Event.command [] 1, Event.sendReturns 0, Event.semTake, Event.timeout,
    Event.command [] 1, Event.sendReturns 0, Event.remoteReceives 0, Event.hostReceives,
    Event.semTake]

theorem late_echo_not_honest : ¬ Always Honest step initial lateEcho := by
  intro always
  have reached : (run step initial lateEcho).isSome = true := by decide
  have last : (run step initial lateEcho).bind World.last =
      some { count := 1, ret := 0, exchanges := [{ ticket := 1, answered := false }] } := by
    decide
  rcases Option.isSome_iff_exists.mp reached with ⟨final, ended⟩
  rw [ended, Option.bind_some] at last
  have answered := ((always.last ended).answered _ last rfl).2 _ (List.mem_singleton_self _)
  exact absurd answered Bool.false_ne_true

end World
end ShellSend
end OpenAmpReference
