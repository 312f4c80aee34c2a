import OpenAmpReference.Zephyr.Doorbell

namespace OpenAmpReference
namespace Doorbell

/-!
# Commands come to their end

As long as sends succeed and the timer of the shell does not run out, a
command has at most one message under way and every wait of the shell ends
with the echo of its own message.
-/

open ShellSend (Returned Message Stage Command)

/-- Sends succeed, and timers do not run out. -/
def Works : Label -> Prop
  | .shell status | .remoteLoop status => 0 ≤ status
  | .remoteMain status => status = 0
  | .timeout => False
  | .hostMain | .hostInterrupt | .hostLoop | .remoteInterrupt => True

/-- The messages that a command has under way, counting its echo in the semaphore -/
def expected : Stage -> Nat
  | .take | .waiting => 1
  | .send | .granted => 0

/-- The command has as much under way as its place says. -/
structure Flow (world : ShellSend.World) : Prop where
  idle : world.command = none -> world.inFlight = [] ∧ world.rxSem = 0
  expects : forall command, world.command = some command ->
    world.inFlight.length + world.rxSem = expected command.stage
  sem : forall command, world.command = some command -> command.stage ≠ .take -> world.rxSem = 0
  own : forall command, world.command = some command -> command.first ≤ world.nextTicket ∧
    forall message, message ∈ world.inFlight -> command.first ≤ message.ticket
  positive : forall command, world.command = some command ->
    1 ≤ command.noofMessages ∧ 0 < command.count

namespace Flow

variable {world : ShellSend.World} {command : Command}

theorem initially : Flow ShellSend.World.initial where
  idle := fun _ => ⟨rfl, rfl⟩
  expects := fun _ runs => by cases runs
  sem := fun _ runs => by cases runs
  own := fun _ runs => by cases runs
  positive := fun _ runs => by cases runs

/-- Nothing is under way between two messages. -/
theorem rests (flow : Flow world) (runs : world.command = some command)
    (expectsNone : expected command.stage = 0) : world.inFlight = [] ∧ world.rxSem = 0 := by
  have expects := flow.expects command runs
  rw [expectsNone, Nat.add_eq_zero_iff, List.length_eq_zero_iff] at expects
  exact expects

/-- The end of the body of the loop, with nothing under way. -/
theorem proceeds (empty : world.inFlight = []) (sem : world.rxSem = 0)
    (first : command.first ≤ world.nextTicket) (positive : 0 < command.count)
    (left : 1 ≤ command.noofMessages) : Flow (world.proceed command) := by
  unfold ShellSend.World.proceed
  split
  · exact {
      idle := fun _ => ⟨empty, sem⟩
      expects := fun _ runs => by cases runs
      sem := fun _ runs => by cases runs
      own := fun _ runs => by cases runs
      positive := fun _ runs => by cases runs }
  · rename_i more
    exact {
      idle := fun stops => by cases stops
      expects := by
        intro later runs
        cases runs
        show world.inFlight.length + world.rxSem = 0
        rw [empty, sem]
        rfl
      sem := fun _ _ _ => sem
      own := by
        intro later runs
        cases runs
        refine ⟨first, fun message member => ?_⟩
        have nothing : message ∈ world.inFlight := member
        rw [empty] at nothing
        exact absurd nothing List.not_mem_nil
      positive := by
        intro later runs
        cases runs
        refine ⟨?_, positive⟩
        show 1 ≤ command.noofMessages - 1
        omega }

theorem types (flow : Flow world) (runs : world.command = none) (ready : world.ready = true)
    (text : List UInt8) {count : Int} (positive : 0 < count) :
    Flow (world.cmdRpmsgIvshmemSend text count) := by
  rcases flow.idle runs with ⟨empty, sem⟩
  unfold ShellSend.World.cmdRpmsgIvshmemSend
  dsimp only
  rw [if_pos ready]
  exact {
    idle := fun stops => by cases stops
    expects := by
      intro command runs
      cases runs
      show world.inFlight.length + world.rxSem = 0
      rw [empty, sem]
      rfl
    sem := fun _ _ _ => sem
    own := by
      intro command runs
      cases runs
      refine ⟨Nat.le_refl _, fun message member => ?_⟩
      have nothing : message ∈ world.inFlight := member
      rw [empty] at nothing
      exact absurd nothing List.not_mem_nil
    positive := by
      intro command runs
      cases runs
      exact ⟨positive, positive⟩ }

theorem sends (flow : Flow world) (runs : world.command = some command)
    (at_stage : command.stage = .send) {status : Int} (sent : 0 ≤ status) :
    Flow (world.sendReturned command status) := by
  rcases flow.rests runs (by rw [at_stage]; rfl) with ⟨empty, sem⟩
  rcases List.append_eq_nil_iff.mp empty with ⟨toHost, toRemote⟩
  unfold ShellSend.World.sendReturned
  rw [if_neg (Int.not_lt.mpr sent)]
  exact {
    idle := fun stops => by cases stops
    expects := by
      intro later runs
      cases runs
      show (world.toHost ++ (world.toRemote ++ [_])).length + world.rxSem = 1
      rw [toHost, toRemote, sem]
      rfl
    sem := fun _ _ _ => sem
    own := by
      intro later again
      cases again
      have first := (flow.own command runs).1
      refine ⟨Nat.le_succ_of_le first, fun message member => ?_⟩
      have last : message ∈ world.toHost ++ (world.toRemote ++
        [{ ticket := world.nextTicket, text := command.text }]) := member
      rw [toHost, toRemote] at last
      rw [List.mem_singleton.mp last]
      exact first
    positive := by
      intro later again
      cases again
      exact flow.positive command runs }

theorem takes (flow : Flow world) (runs : world.command = some command)
    (at_stage : command.stage = .take) : Flow (world.kSemTake command) := by
  have expects := flow.expects command runs
  rw [at_stage] at expects
  have one : world.inFlight.length + world.rxSem = 1 := expects
  rcases flow.positive command runs with ⟨left, positive⟩
  unfold ShellSend.World.kSemTake
  split
  · rename_i given
    apply proceeds
    · show world.inFlight = []
      exact List.eq_nil_of_length_eq_zero (by omega)
    · show world.rxSem - 1 = 0
      omega
    · exact (flow.own command runs).1
    · exact positive
    · exact left
  · rename_i waits
    have empty : world.rxSem = 0 := by omega
    exact {
      idle := fun stops => by cases stops
      expects := by
        intro later again
        cases again
        exact one
      sem := fun _ _ _ => empty
      own := by
        intro later again
        cases again
        exact flow.own command runs
      positive := by
        intro later again
        cases again
        exact ⟨left, positive⟩ }

theorem wakes (flow : Flow world) (runs : world.command = some command)
    (at_stage : command.stage = .granted) : Flow (world.proceed command) := by
  rcases flow.rests runs (by rw [at_stage]; rfl) with ⟨empty, sem⟩
  rcases flow.positive command runs with ⟨left, positive⟩
  exact proceeds empty sem (flow.own command runs).1 positive left

/-- The remote sends a message back. -/
theorem remoteReceives (flow : Flow world) {message : Message} {rest : List Message}
    (queue : world.toRemote = message :: rest) {status : Int} (sent : 0 ≤ status) :
    Flow ({ world with toRemote := rest }.remoteEndpointCb message status) := by
  have same : (world.toHost ++ [message]) ++ rest = world.inFlight := by
    rw [ShellSend.World.inFlight, queue, List.append_assoc]
    rfl
  unfold ShellSend.World.remoteEndpointCb
  rw [if_neg (Int.not_lt.mpr sent)]
  exact {
    idle := by
      intro stops
      show (world.toHost ++ [message]) ++ rest = [] ∧ _
      rw [same]
      exact flow.idle stops
    expects := by
      intro command runs
      show ((world.toHost ++ [message]) ++ rest).length + _ = _
      rw [same]
      exact flow.expects command runs
    sem := flow.sem
    own := by
      intro command runs
      refine ⟨(flow.own command runs).1, fun other member => (flow.own command runs).2 other ?_⟩
      rw [← same]
      exact member
    positive := flow.positive }

/-- An echo arrives for a command that takes the semaphore or waits for it. -/
theorem awaited (flow : Flow world) {message : Message} {rest : List Message}
    (queue : world.toHost = message :: rest) :
    Exists fun command => world.command = some command ∧ rest = [] ∧ world.toRemote = [] ∧
      world.rxSem = 0 ∧ command.first ≤ message.ticket ∧
      (command.stage = .take ∨ command.stage = .waiting) := by
  have flight : world.inFlight = message :: (rest ++ world.toRemote) := by
    rw [ShellSend.World.inFlight, queue, List.cons_append]
  cases runs : world.command with
  | none =>
      have empty := (flow.idle runs).1
      rw [flight] at empty
      cases empty
  | some command =>
      have expects := flow.expects command runs
      have own := (flow.own command runs).2 message (by rw [flight]; exact List.mem_cons_self)
      rw [flight, List.length_cons, List.length_append] at expects
      cases at_stage : command.stage with
      | send | granted =>
          rw [at_stage] at expects
          have nothing : rest.length + world.toRemote.length + 1 + world.rxSem = 0 := expects
          omega
      | take | waiting =>
          rw [at_stage] at expects
          have one : rest.length + world.toRemote.length + 1 + world.rxSem = 1 := expects
          refine ⟨command, rfl, List.eq_nil_of_length_eq_zero (by omega),
            List.eq_nil_of_length_eq_zero (by omega), by omega, own, ?_⟩
          rw [at_stage]
          decide

theorem record_kept (command : Command) (ticket : Nat) :
    (command.record ticket).stage = command.stage ∧
      (command.record ticket).noofMessages = command.noofMessages ∧
      (command.record ticket).count = command.count ∧
      (command.record ticket).first = command.first := by
  unfold Command.record
  split
  · exact ⟨rfl, rfl, rfl, rfl⟩
  · split <;> exact ⟨rfl, rfl, rfl, rfl⟩

/-- The echo wakes the command, or is there when it comes to wait. -/
theorem endpointCb_eq {message : Message} {rest : List Message}
    (runs : world.command = some command) (sem : world.rxSem = 0)
    (waits : command.stage = .take ∨ command.stage = .waiting) :
    Exists fun later : Command => Exists fun rxSem =>
      { world with toHost := rest }.endpointCb message =
        { world with
          toHost := rest
          numberOfCompletedMsgs := world.numberOfCompletedMsgs + 1
          rxSem := rxSem
          command := some later } ∧
      later.noofMessages = command.noofMessages ∧ later.count = command.count ∧
      later.first = command.first ∧
      (command.stage = .take ∧ later.stage = .take ∧ rxSem = 1 ∨
        command.stage = .waiting ∧ later.stage = .granted ∧ rxSem = 0) := by
  rcases record_kept command message.ticket with ⟨stage, noofMessages, count, first⟩
  rcases waits with at_take | at_wait
  · refine ⟨command.record message.ticket, 1, ?_, noofMessages, count, first,
      Or.inl ⟨at_take, stage.trans at_take, rfl⟩⟩
    have elsewhere : ¬ (command.record message.ticket).stage = .waiting := by
      rw [stage, at_take]
      decide
    simp only [ShellSend.World.endpointCb, runs, Option.map_some, ShellSend.World.kSemGive,
      elsewhere, if_false, sem]
    rfl
  · refine ⟨{ command.record message.ticket with stage := .granted }, 0, ?_, noofMessages, count,
      first, Or.inr ⟨at_wait, rfl, rfl⟩⟩
    have here : (command.record message.ticket).stage = .waiting := stage.trans at_wait
    simp only [ShellSend.World.endpointCb, runs, Option.map_some, ShellSend.World.kSemGive, here,
      if_true, sem]

theorem hostReceives (flow : Flow world) {message : Message} {rest : List Message}
    (queue : world.toHost = message :: rest) :
    Flow ({ world with toHost := rest }.endpointCb message) := by
  rcases flow.awaited queue with ⟨command, runs, empty, toRemote, sem, -, waits⟩
  rcases @endpointCb_eq world command message rest runs sem waits with
    ⟨later, rxSem, same, noofMessages, count, first, goes⟩
  have flight : rest ++ world.toRemote = [] := by rw [empty, toRemote]; rfl
  rw [same]
  exact {
    idle := fun stops => by cases stops
    expects := by
      intro other again
      cases again
      show (rest ++ world.toRemote).length + rxSem = expected later.stage
      rw [flight]
      rcases goes with ⟨-, at_take, given⟩ | ⟨-, granted, given⟩
      · rw [at_take, given]
        rfl
      · rw [granted, given]
        rfl
    sem := by
      intro other again elsewhere
      cases again
      rcases goes with ⟨-, at_take, -⟩ | ⟨-, -, given⟩
      · exact absurd at_take elsewhere
      · exact given
    own := by
      intro other again
      cases again
      refine ⟨first ▸ (flow.own command runs).1, fun message member => ?_⟩
      have nothing : message ∈ rest ++ world.toRemote := member
      rw [flight] at nothing
      exact absurd nothing List.not_mem_nil
    positive := by
      intro other again
      cases again
      rw [noofMessages, count]
      exact flow.positive command runs }

/-- Whatever happens then is punctual. -/
theorem punctual (flow : Flow world) {event : ShellSend.Event} {next : ShellSend.World}
    (performed : ShellSend.step world event = some next) : world.Punctual event := by
  cases event with
  | command text count =>
      cases runs : world.command with
      | none => exact fun _ => (flow.idle runs).2
      | some command => simp only [ShellSend.step, runs, reduceCtorEq] at performed
  | sendReturns status => exact fun _ command runs => (flow.positive command runs).2
  | hostReceives =>
      intro command runs message first
      apply (flow.own command runs).2
      exact List.mem_append_left _ (List.mem_of_head? first)
  | deviceReady | semTake | timeout | wake | remoteReceives => trivial

end Flow

namespace System

/-- A command that has returned zero after the echoes of all its messages -/
structure Served (done : Returned) : Prop where
  ret : done.ret = 0
  counted : done.exchanges.length = done.count
  answered : forall exchange, exchange ∈ done.exchanges -> exchange.answered = true

/-- The counts of the commands: those that have returned, the one that runs, those to come. -/
def counts (system : System) : List Int :=
  system.log.map Returned.count ++ (system.shell.command.toList.map Command.count ++
    system.script.map Prod.snd)

/-- What holds as long as everything works. -/
structure Serving (script : List (List UInt8 × Int)) (system : System) : Prop where
  attended : system.Attended
  booted : system.Booted
  announces : system.remoteMain ≠ .failed
  ok : system.shell.Ok
  flow : Flow system.shell
  positive : forall entry, entry ∈ system.script -> 0 < entry.2
  log : forall done, done ∈ system.log -> Served done
  account : system.counts = script.map Prod.snd

theorem Serving.initially {script : List (List UInt8 × Int)}
    (positive : forall entry, entry ∈ script -> 0 < entry.2) : (initial script).Serving script where
  attended := Attended.initially script
  booted := Booted.initially script
  announces := RemoteMain.noConfusion
  ok := ShellSend.World.ok_initial
  flow := Flow.initially
  positive := positive
  log := fun _ member => absurd member List.not_mem_nil
  account := rfl

section Moves

variable {tells : Bool} {system next : System} {script : List (List UInt8 × Int)}

theorem Moves.shellOk {label : Label} (serving : system.Serving script)
    (moved : Moves tells system label next) : next.shell.Ok := by
  rcases moved.shell with stays | ⟨event, performed⟩
  · rw [stays]
    exact serving.ok
  · exact serving.ok.step (serving.flow.punctual performed) performed

theorem Moves.flow {label : Label} (serving : system.Serving script) (works : Works label)
    (moved : Moves tells system label next) : Flow next.shell := by
  have flow := serving.flow
  cases moved with
  | initialises | passes | hostInterrupt | hostAdvances | binds | hostRests | starts | fails |
    announces | remoteInterrupt | remoteAdvances | remoteRests => exact flow
  | readies at_main => exact ⟨flow.idle, flow.expects, flow.sem, flow.own, flow.positive⟩
  | hostReceives found message rest drains silent queue => exact flow.hostReceives queue
  | types status text count later idle entries ready =>
      apply flow.types idle ready text
      exact serving.positive (text, count) (by rw [entries]; exact List.mem_cons_self)
  | sends status command runs at_stage => exact flow.sends runs at_stage works
  | takes status command runs at_stage => exact flow.takes runs at_stage
  | wakes status command runs at_stage => exact flow.wakes runs at_stage
  | timesOut command runs at_stage => exact absurd works not_false
  | remoteReceives status found message rest drains queue => exact flow.remoteReceives queue works

/-- What the end of the body of the loop leaves: a command that goes on, or one that has
returned zero. -/
theorem proceed_ends (world : ShellSend.World) (command : Command) :
    (Exists fun later : Command => (world.proceed command).command = some later ∧
        later.count = command.count) ∨
      (Exists fun done : Returned => (world.proceed command).command = none ∧
        (world.proceed command).last = some done ∧ done.count = command.count ∧ done.ret = 0) := by
  unfold ShellSend.World.proceed
  split
  · exact Or.inr ⟨_, rfl, rfl, rfl, rfl⟩
  · exact Or.inl ⟨_, rfl, rfl⟩

theorem kSemTake_ends (world : ShellSend.World) (command : Command) :
    (Exists fun later : Command => (world.kSemTake command).command = some later ∧
        later.count = command.count) ∨
      (Exists fun done : Returned => (world.kSemTake command).command = none ∧
        (world.kSemTake command).last = some done ∧ done.count = command.count ∧ done.ret = 0) := by
  unfold ShellSend.World.kSemTake
  split
  · exact proceed_ends _ command
  · exact Or.inl ⟨_, rfl, rfl⟩

/-- A command that goes on, or returns zero, is accounted for. -/
theorem after_accounts {shell : ShellSend.World} {command : Command}
    (runs : system.shell.command = some command) (ok : shell.Ok)
    (log : forall done, done ∈ system.log -> Served done)
    (ends : (Exists fun later : Command => shell.command = some later ∧
        later.count = command.count) ∨
      (Exists fun done : Returned => shell.command = none ∧ shell.last = some done ∧
        done.count = command.count ∧ done.ret = 0)) :
    (system.after shell).counts = system.counts ∧
      forall done, done ∈ (system.after shell).log -> Served done := by
  rcases ends with ⟨later, goes, count⟩ | ⟨done, stops, last, count, ret⟩
  · have nothing : recorded system.shell shell = [] := by
      simp only [recorded, runs, goes, Option.isSome_some, Option.isNone_some, Bool.and_false,
        Bool.false_eq_true, if_false]
    constructor
    · simp only [counts, after, nothing, List.append_nil, runs, goes, Option.toList_some,
        List.map_singleton, count]
    · intro done member
      simp only [after, nothing, List.append_nil] at member
      exact log done member
  · have one : recorded system.shell shell = [done] := by
      simp only [recorded, runs, stops, last, Option.isSome_some, Option.isNone_none, Bool.and_self,
        if_true, Option.toList_some]
    constructor
    · simp only [counts, after, one, runs, stops, List.map_append, List.map_singleton, count,
        Option.toList_some, Option.toList_none, List.map_nil, List.nil_append, List.append_assoc]
    · intro other member
      simp only [after, one] at member
      rcases List.mem_append.mp member with earlier | now
      · exact log other earlier
      · rw [List.mem_singleton.mp now]
        rcases ok.honest.answered done last ret with ⟨counted, answered⟩
        exact ⟨ret, counted, answered⟩

/-- As long as the command stays, nothing returns. -/
theorem same_accounts {shell : ShellSend.World}
    (same : shell.command.map Command.count = system.shell.command.map Command.count)
    (log : forall done, done ∈ system.log -> Served done) :
    (system.after shell).counts = system.counts ∧
      forall done, done ∈ (system.after shell).log -> Served done := by
  have nothing : recorded system.shell shell = [] := by
    unfold recorded
    cases runs : shell.command with
    | some command => simp only [Option.isNone_some, Bool.and_false, Bool.false_eq_true, if_false]
    | none =>
        rw [runs, Option.map_none] at same
        rw [Option.map_eq_none_iff.mp same.symm]
        rfl
  constructor
  · simp only [counts, after, nothing, List.append_nil, ← Option.toList_map, same]
  · intro done member
    simp only [after, nothing, List.append_nil] at member
    exact log done member

theorem Moves.accounts {label : Label} (serving : system.Serving script) (works : Works label)
    (moved : Moves tells system label next) :
    next.counts = system.counts ∧ forall done, done ∈ next.log -> Served done := by
  have shellOk := moved.shellOk serving
  cases moved with
  | initialises | passes | hostInterrupt | hostAdvances | binds | hostRests | starts | fails |
    announces | remoteInterrupt | remoteAdvances | remoteRests => exact ⟨rfl, serving.log⟩
  | readies at_main => exact @same_accounts { system with hostMain := .done } _ rfl serving.log
  | hostReceives found message rest drains silent queue =>
      rcases serving.flow.awaited queue with ⟨command, runs, -, -, sem, -, waits⟩
      rcases @Flow.endpointCb_eq system.shell command message rest runs sem waits with
        ⟨later, rxSem, same, -, count, -, -⟩
      apply @same_accounts { system with host := system.host.finds } _ _ serving.log
      rw [same, runs, Option.map_some, Option.map_some, count]
  | types status text count later idle entries ready =>
      have runs : (system.shell.cmdRpmsgIvshmemSend text count).command.map Command.count =
          some count := by
        unfold ShellSend.World.cmdRpmsgIvshmemSend
        dsimp only
        rw [if_pos ready]
        rfl
      have nothing : recorded system.shell (system.shell.cmdRpmsgIvshmemSend text count) = [] := by
        rw [recorded, idle]
        rfl
      constructor
      · simp only [counts, after, nothing, List.append_nil, ← Option.toList_map, runs, idle,
          entries, Option.toList_none, Option.toList_some, List.map_cons, List.singleton_append]
        rfl
      · intro done member
        simp only [after, nothing, List.append_nil] at member
        exact serving.log done member
  | sends status command runs at_stage =>
      apply @same_accounts { system with
        remote := if status < 0 then system.remote else system.remote.ring } _ _ serving.log
      have sent : ¬ status < 0 := Int.not_lt.mpr works
      simp only [ShellSend.World.sendReturned, if_neg sent, runs, Option.map_some]
  | takes status command runs at_stage =>
      exact after_accounts runs shellOk serving.log (kSemTake_ends _ _)
  | wakes status command runs at_stage =>
      exact after_accounts runs shellOk serving.log (proceed_ends _ _)
  | timesOut command runs at_stage => exact absurd works not_false
  | remoteReceives status found message rest drains queue =>
      apply @same_accounts { system with
        remote := system.remote.finds
        host := if status < 0 then system.host else system.host.ring } _ _ serving.log
      unfold ShellSend.World.remoteEndpointCb
      split <;> rfl

theorem Moves.positive {label : Label} (serving : system.Serving script)
    (moved : Moves tells system label next) :
    forall entry, entry ∈ next.script -> 0 < entry.2 := by
  cases moved with
  | types status text count later idle entries ready =>
      intro entry member
      exact serving.positive entry (by rw [entries]; exact List.mem_cons_of_mem _ member)
  | initialises | passes | readies | hostInterrupt | hostAdvances | binds | hostRests |
    hostReceives | sends | takes | wakes | timesOut | starts | fails | announces |
    remoteInterrupt | remoteAdvances | remoteRests | remoteReceives => exact serving.positive

theorem Moves.announced {label : Label} (serving : system.Serving script) (works : Works label)
    (moved : Moves tells system label next) : next.remoteMain ≠ .failed := by
  cases moved with
  | fails status at_main lost => exact absurd works lost
  | starts | announces => exact RemoteMain.noConfusion
  | initialises | passes | readies | hostInterrupt | hostAdvances | binds | hostRests |
    hostReceives | types | sends | takes | wakes | timesOut | remoteInterrupt | remoteAdvances |
    remoteRests | remoteReceives => exact serving.announces

theorem Serving.step {label : Label} (serving : system.Serving script) (works : Works label)
    (moved : system.step tells label = some next) : next.Serving script := by
  have moves := step_moves moved
  rcases moves.accounts serving works with ⟨account, log⟩
  exact {
    attended := moves.attended serving.attended
    booted := moves.booted serving.booted
    announces := moves.announced serving works
    ok := moves.shellOk serving
    flow := moves.flow serving works
    positive := moves.positive serving
    log := log
    account := account.trans serving.account }

/-! ## The rank -/

/-- What a message costs on its way to the host, and on its way there and back. -/
def echoPrice : Nat := 7

def messagePrice : Nat := 18

/-- What the command has still to do, where a message has the price of its way. -/
def shellLeft (world : ShellSend.World) : Nat :=
  match world.command with
  | none => 0
  | some command =>
      30 * command.noofMessages.toNat +
        match command.stage with
        | .send => 26
        | .take => 2
        | .waiting => 1
        | .granted => 0

def scriptLeft : List (List UInt8 × Int) -> Nat
  | [] => 0
  | (_, count) :: later => 30 * count.toNat + 30 + scriptLeft later

def bootLeft (system : System) : Nat :=
  (match system.hostMain with
    | .initVdev => 3
    | .takeEptSem => 2
    | .createEpt => 1
    | .done => 0) +
  (match system.remoteMain with
    | .initVdev => 13
    | .createEpt => 12
    | .failed | .done => 0) +
  7 * system.announcement.toNat

def rank (system : System) : Nat :=
  system.bootLeft + scriptLeft system.script + shellLeft system.shell +
    echoPrice * system.shell.toHost.length + messagePrice * system.shell.toRemote.length +
    system.host.weight + system.remote.weight

theorem proceed_left {world : ShellSend.World} {command : Command}
    (left : 1 ≤ command.noofMessages) :
    shellLeft (world.proceed command) < 30 * command.noofMessages.toNat := by
  unfold ShellSend.World.proceed
  split
  · show 0 < 30 * command.noofMessages.toNat
    omega
  · show 30 * (command.noofMessages - 1).toNat + 26 < 30 * command.noofMessages.toNat
    omega

/-- A loop that may be rung once more has paid for it. -/
theorem told_weight (loop : EventLoop) (tells found : Bool) :
    (if tells && found then loop.ring else loop).weight ≤ loop.weight + 4 * found.toNat := by
  split
  · rename_i both
    rw [(Bool.and_eq_true_iff.mp both).2]
    exact EventLoop.weight_ring loop
  · exact Nat.le_add_right _ _

/-- An echo does not give the command more to do. -/
theorem endpointCb_left {world : ShellSend.World} (flow : Flow world) {message : Message}
    {rest : List Message} (queue : world.toHost = message :: rest) :
    shellLeft ({ world with toHost := rest }.endpointCb message) ≤ shellLeft world := by
  rcases flow.awaited queue with ⟨command, runs, -, -, sem, -, waits⟩
  rcases @Flow.endpointCb_eq world command message rest runs sem waits with
    ⟨later, rxSem, same, noofMessages, -, -, goes⟩
  rw [same]
  simp only [shellLeft, runs, noofMessages]
  rcases goes with ⟨at_take, stays, -⟩ | ⟨at_wait, granted, -⟩
  · rw [at_take, stays]
  · rw [at_wait, granted]
    exact Nat.le_succ _

theorem kSemTake_left {world : ShellSend.World} {command : Command}
    (runs : world.command = some command) (at_stage : command.stage = .take)
    (left : 1 ≤ command.noofMessages) :
    shellLeft (world.kSemTake command) < shellLeft world := by
  have here : shellLeft world = 30 * command.noofMessages.toNat + 2 := by
    simp only [shellLeft, runs, at_stage]
  rw [here]
  unfold ShellSend.World.kSemTake
  split
  · exact Nat.lt_add_right 2 (proceed_left left)
  · exact Nat.lt_succ_self (30 * command.noofMessages.toNat + 1)

/-! Each move lowers the rank: the main threads and the loops by their own part of it, the shell
and the endpoints by the price of the message that goes on. -/

theorem Moves.announces_rank (at_main : system.remoteMain = .createEpt) :
    rank { system with remoteMain := .done, announcement := true, host := system.host.ring } <
      system.rank := by
  have rings := EventLoop.weight_ring system.host
  simp only [rank, bootLeft, at_main, Bool.toNat_true]
  omega

/-- The announcement pays for the look at the queue that finds it. -/
theorem Moves.binds_rank {found : Bool} (drains : system.host.place = .draining found)
    (announced : system.announcement = true) :
    rank { system with host := system.host.finds }.nsBindCb < system.rank := by
  have finds := EventLoop.weight_finds drains
  simp only [rank, bootLeft, nsBindCb, announced, Bool.toNat_true, Bool.toNat_false]
  omega

/-- A loop that has found something has paid for ringing the other guest. -/
theorem Moves.hostRests_rank (tells : Bool) {found : Bool}
    (drains : system.host.place = .draining found) :
    rank { system with
      host := system.host.rest
      remote := if tells && found then system.remote.ring else system.remote } < system.rank := by
  have rests := EventLoop.weight_rest drains
  have told := told_weight system.remote tells found
  simp only [rank, bootLeft]
  omega

theorem Moves.remoteRests_rank (tells : Bool) {found : Bool}
    (drains : system.remote.place = .draining found) :
    rank { system with
      remote := system.remote.rest
      host := if tells && found then system.host.ring else system.host } < system.rank := by
  have rests := EventLoop.weight_rest drains
  have told := told_weight system.host tells found
  simp only [rank, bootLeft]
  omega

/-- The echo leaves the channel, and the command has no more to do than before. -/
theorem Moves.hostReceives_rank (flow : Flow system.shell) {found : Bool} {message : Message}
    {rest : List Message} (drains : system.host.place = .draining found)
    (queue : system.shell.toHost = message :: rest) :
    rank ({ system with host := system.host.finds }.after
      ({ system.shell with toHost := rest }.endpointCb message)) < system.rank := by
  have finds := EventLoop.weight_finds drains
  have left := endpointCb_left flow queue
  have same := endpointCb_channels { system.shell with toHost := rest } message
  have toHost : system.shell.toHost.length = rest.length + 1 := by rw [queue, List.length_cons]
  simp only [rank, bootLeft, after, same.toHost, same.toRemote, toHost, echoPrice]
  omega

/-- The command that begins is the next one of the script. -/
theorem Moves.types_rank {text : List UInt8} {count : Int} {later : List (List UInt8 × Int)}
    (idle : system.shell.command = none) (entries : system.script = (text, count) :: later)
    (ready : system.shell.ready = true) :
    rank ({ system with script := later }.after
      (system.shell.cmdRpmsgIvshmemSend text count)) < system.rank := by
  have same := cmdRpmsgIvshmemSend_channels system.shell text count
  have before : shellLeft system.shell = 0 := by simp only [shellLeft, idle]
  have begun : shellLeft (system.shell.cmdRpmsgIvshmemSend text count) =
      30 * count.toNat + 26 := by
    unfold ShellSend.World.cmdRpmsgIvshmemSend
    dsimp only
    rw [if_pos ready]
    rfl
  simp only [rank, bootLeft, after, same.toHost, same.toRemote, before, begun, entries, scriptLeft]
  omega

/-- The command pays for its message, on its way there and back, and for the doorbell. -/
theorem Moves.sends_rank {status : Int} {command : Command}
    (runs : system.shell.command = some command) (at_stage : command.stage = .send)
    (sent : ¬ status < 0) :
    rank ({ system with
      remote := if status < 0 then system.remote else system.remote.ring }.after
        (system.shell.sendReturned command status)) < system.rank := by
  have rings := EventLoop.weight_ring system.remote
  have before : shellLeft system.shell = 30 * command.noofMessages.toNat + 26 := by
    simp only [shellLeft, runs, at_stage]
  have waits : shellLeft (system.shell.sendReturned command status) =
      30 * command.noofMessages.toNat + 2 := by
    rw [ShellSend.World.sendReturned, if_neg sent]
    rfl
  have toRemote : (system.shell.sendReturned command status).toRemote.length =
      system.shell.toRemote.length + 1 := by
    rw [ShellSend.World.sendReturned, if_neg sent, List.length_append, List.length_singleton]
  have toHost := (sendReturned_channels system.shell command status).1
  simp only [rank, bootLeft, after, before, waits, toHost, toRemote, if_neg sent, messagePrice]
  omega

theorem Moves.takes_rank (flow : Flow system.shell) {command : Command}
    (runs : system.shell.command = some command) (at_stage : command.stage = .take) :
    rank (system.after (system.shell.kSemTake command)) < system.rank := by
  have less := kSemTake_left runs at_stage (flow.positive command runs).1
  have same := kSemTake_channels system.shell command
  simp only [rank, bootLeft, after, same.toHost, same.toRemote]
  omega

theorem Moves.wakes_rank (flow : Flow system.shell) {command : Command}
    (runs : system.shell.command = some command) (at_stage : command.stage = .granted) :
    rank (system.after (system.shell.proceed command)) < system.rank := by
  have less := @proceed_left system.shell command (flow.positive command runs).1
  have before : shellLeft system.shell = 30 * command.noofMessages.toNat := by
    simp only [shellLeft, runs, at_stage, Nat.add_zero]
  have same := proceed_channels system.shell command
  simp only [rank, bootLeft, after, same.toHost, same.toRemote, before]
  omega

/-- The message becomes its echo, which costs less. -/
theorem Moves.remoteReceives_rank {status : Int} {found : Bool} {message : Message}
    {rest : List Message} (drains : system.remote.place = .draining found)
    (queue : system.shell.toRemote = message :: rest) (sent : ¬ status < 0) :
    rank ({ system with
      remote := system.remote.finds
      host := if status < 0 then system.host else system.host.ring }.after
        ({ system.shell with toRemote := rest }.remoteEndpointCb message status)) <
      system.rank := by
  have finds := EventLoop.weight_finds drains
  have rings := EventLoop.weight_ring system.host
  have toRemote : system.shell.toRemote.length = rest.length + 1 := by
    rw [queue, List.length_cons]
  have left :
      shellLeft ({ system.shell with toRemote := rest }.remoteEndpointCb message status) =
        shellLeft system.shell := by
    unfold ShellSend.World.remoteEndpointCb
    split <;> rfl
  have toHost : ({ system.shell with toRemote := rest }.remoteEndpointCb message status).toHost =
      system.shell.toHost ++ [message] := by
    rw [ShellSend.World.remoteEndpointCb, if_neg sent]
  have fewer := (remoteEndpointCb_channels { system.shell with toRemote := rest } message status).1
  simp only [rank, bootLeft, after, if_neg sent, left, toHost, fewer, toRemote, List.length_append,
    List.length_singleton, echoPrice, messagePrice]
  omega

theorem Moves.rank_lt {label : Label} (serving : system.Serving script) (works : Works label)
    (moved : Moves tells system label next) : next.rank < system.rank := by
  cases moved with
  | initialises at_main | passes at_main given =>
      simp only [rank, bootLeft, at_main]
      omega
  | readies at_main =>
      simp only [rank, bootLeft, at_main, after, shellLeft]
      omega
  | starts status at_main up =>
      simp only [rank, bootLeft, at_main]
      omega
  | fails status at_main lost => exact absurd works lost
  | announces at_main => exact Moves.announces_rank at_main
  | hostInterrupt loop moved | remoteInterrupt loop moved =>
      have less := EventLoop.interrupt_weight moved
      simp only [rank, bootLeft]
      omega
  | hostAdvances loop moved | remoteAdvances status loop moved =>
      have less := EventLoop.advance_weight moved
      simp only [rank, bootLeft]
      omega
  | binds found drains announced => exact Moves.binds_rank drains announced
  | hostRests found drains silent through => exact Moves.hostRests_rank tells drains
  | remoteRests status found drains through => exact Moves.remoteRests_rank tells drains
  | hostReceives found message rest drains silent queue =>
      exact Moves.hostReceives_rank serving.flow drains queue
  | types status text count later idle entries ready => exact Moves.types_rank idle entries ready
  | sends status command runs at_stage =>
      exact Moves.sends_rank runs at_stage (Int.not_lt.mpr works)
  | takes status command runs at_stage => exact Moves.takes_rank serving.flow runs at_stage
  | wakes status command runs at_stage => exact Moves.wakes_rank serving.flow runs at_stage
  | timesOut command runs at_stage => exact absurd works not_false
  | remoteReceives status found message rest drains queue =>
      exact Moves.remoteReceives_rank drains queue (Int.not_lt.mpr works)

/-! ## Nobody waits for ever -/

/-- All commands have returned. -/
def Finished (system : System) : Prop :=
  system.script = [] ∧ system.shell.command = none

theorem Serving.somebody (serving : system.Serving script) (short : ¬ system.Finished) :
    Exists fun who => system.Busy who := by
  have booted := serving.booted
  cases at_main : system.hostMain with
  | initVdev => exact ⟨.hostMain, Or.inl at_main⟩
  | createEpt => exact ⟨.hostMain, Or.inr (Or.inr at_main)⟩
  | takeEptSem =>
      cases there : system.remoteMain with
      | initVdev =>
          refine ⟨.remoteMain, Or.inl ⟨there, ?_⟩⟩
          rw [at_main]
          exact HostMain.noConfusion
      | createEpt => exact ⟨.remoteMain, Or.inr there⟩
      | failed => exact absurd there serving.announces
      | done =>
          rcases booted.awaits at_main there with given | announced
          · exact ⟨.hostMain, Or.inr (Or.inl ⟨at_main, given⟩)⟩
          · exact serving.attended.busy (Or.inl announced)
  | done =>
      cases runs : system.shell.command with
      | none =>
          refine ⟨.shell, ?_⟩
          simp only [Busy, runs]
          exact ⟨fun empty => short ⟨empty, runs⟩, booted.isReady at_main⟩
      | some command =>
          by_cases waits : command.stage = .waiting
          · apply serving.attended.busy
            refine Or.inr (fun empty => ?_)
            have expects := serving.flow.expects command runs
            have sem := serving.flow.sem command runs (by rw [waits]; decide)
            rw [empty, sem, waits] at expects
            exact absurd expects (by decide)
          · refine ⟨.shell, ?_⟩
            simp only [Busy, runs]
            exact waits

theorem ranked (tells : Bool) (script : List (List UInt8 × Int)) :
    Fairness.Ranked (step tells) Label.actor (fun _ label => Works label) (Serving script) Finished
      rank Busy :=
  .descending (fun _ _ _ serving works moved => serving.step works moved)
    (fun _ _ _ serving works moved => Or.inl ((step_moves moved).rank_lt serving works))
    (fun _ label _ works busy =>
      step_some tells busy (fun timer => by rw [timer] at works; exact works))
    (fun _ serving short => serving.somebody short)

end Moves

/-! ## Commands return -/

/-- As long as sends succeed and no timer runs out, the communication is set up and every command
returns zero after as many echoes as it was asked for, in every fair schedule. The script is any
list of commands with positive counts: one of zero or less is not refused, and its loop counts
down past zero. A send that fails, that of the announcement too, ends a command or leaves the
host waiting for the remote. -/
theorem commands_served (tells : Bool) (script : List (List UInt8 × Int))
    (positive : forall entry, entry ∈ script -> 0 < entry.2) (schedule : Nat -> Label)
    (works : forall n, Works (schedule n)) (fair : Fairness.Fair Label.actor schedule) :
    Exists fun n =>
      let system := Fairness.trace (step tells) (initial script) schedule n
      system.Finished ∧ system.log.map Returned.count = script.map Prod.snd ∧
        forall done, done ∈ system.log -> Served done := by
  have ranked := ranked tells script
  rcases ranked.reaches (Serving.initially positive) works fair with ⟨n, finished⟩
  have serving : (Fairness.trace (step tells) (initial script) schedule n).Serving script :=
    Fairness.trace_invariant ranked.preserved (Serving.initially positive) works n
  have account := serving.account
  rw [counts, finished.1, finished.2] at account
  simp only [Option.toList_none, List.map_nil, List.append_nil] at account
  exact ⟨n, finished, account, serving.log⟩

/-- Everybody in turn -/
def everybody : Nat -> Label :=
  Fairness.cycle .hostMain
    [.hostInterrupt, .hostLoop, .shell 0, .remoteMain 0, .remoteInterrupt, .remoteLoop 0]

theorem everybody_fair : Fairness.Fair Label.actor everybody := by
  apply Fairness.cycle_fair
  intro who
  cases who with
  | hostMain => exact ⟨.hostMain, by decide, rfl⟩
  | hostInterrupt => exact ⟨.hostInterrupt, by decide, rfl⟩
  | hostLoop => exact ⟨.hostLoop, by decide, rfl⟩
  | shell => exact ⟨.shell 0, by decide, rfl⟩
  | remoteMain => exact ⟨.remoteMain 0, by decide, rfl⟩
  | remoteInterrupt => exact ⟨.remoteInterrupt, by decide, rfl⟩
  | remoteLoop => exact ⟨.remoteLoop 0, by decide, rfl⟩

theorem everybody_works (n : Nat) : Works (everybody n) := by
  have all : forall label, label ∈ [Label.hostMain, .hostInterrupt, .hostLoop, .shell 0,
      .remoteMain 0, .remoteInterrupt, .remoteLoop 0] -> Works label := by
    intro label member
    cases label with
    | hostMain | hostInterrupt | hostLoop | remoteInterrupt => trivial
    | timeout => exact absurd member (by decide)
    | shell status | remoteLoop status =>
        simp only [List.mem_cons, reduceCtorEq, Label.shell.injEq, Label.remoteLoop.injEq,
          List.not_mem_nil, false_or, or_false] at member
        exact Int.le_of_eq member.symm
    | remoteMain status =>
        simp only [List.mem_cons, reduceCtorEq, Label.remoteMain.injEq, List.not_mem_nil,
          false_or, or_false] at member
        exact member
  exact all _ (Fairness.cycle_mem _ _ n)

/-- A command of two messages, and one of three -/
def twoCommands : List (List UInt8 × Int) := [([104, 105], 2), ([111, 107], 3)]

theorem twoCommands_served : Exists fun n =>
    let system := Fairness.trace (step true) (initial twoCommands) everybody n
    system.Finished ∧ system.log.map Returned.count = [2, 3] ∧
      forall done, done ∈ system.log -> Served done :=
  commands_served true twoCommands (by decide) everybody everybody_works everybody_fair

end System
end Doorbell
end OpenAmpReference
