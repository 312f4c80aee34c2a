import OpenAmpReference.LegacyApps.MatrixService

namespace OpenAmpReference
namespace MatMulDemo

/-!
# The matrix demonstration under Linux

The demonstration writes its two matrices to the endpoint's device and reads
without blocking until it has got a whole matrix, which it prints.  After the
last round it asks the remote to stop with a message.

The remote is the one of the other demonstration.  Its announcements go to the
kernel and are not read from the device.
-/

open MatrixMultiply MatrixRounds
open Sessions (maxSize shutdownMsg)
open Workload (Digits)

/-- Where the program is from the first round on. -/
inductive Pc
  | generate
  | write
  | reading
  | print
  | sendShutdown
  | close
  | returned
  | fault
  deriving DecidableEq, Repr

/-- `asked` records the requests that have been written, and `printed` the results. -/
structure Demo where
  pc : Pc
  i : Nat
  ntimes : Int
  work : Workload
  rMatrix : Matrix
  asked : List (Matrix × Matrix)
  printed : List Matrix

namespace Demo

/-- The `for` loop from its condition on -/
def nextRound (demo : Demo) (i : Nat) : Demo :=
  { demo with i := i, pc := if i < demo.ntimes then .generate else .sendShutdown }

/-- The program before its first round, with anything in its arrays. -/
def initial (ntimes : Int) (work : Workload) (rMatrix : Matrix) : Demo :=
  nextRound
    { pc := .generate
      i := 0
      ntimes := ntimes
      work := work
      rMatrix := rMatrix
      asked := []
      printed := [] } 0

/-- The two matrices of the round. -/
def operands (demo : Demo) : Matrix × Matrix :=
  (demo.work.matrices 0, demo.work.matrices 1)

/-- `read()`, which copies no more than a matrix; a shorter message is read and dropped. -/
def read (demo : Demo) : Arrival -> Demo
  | .message data =>
      if Matrix.byteCount ≤ data.length then
        { demo with rMatrix := Matrix.ofBytes (data.take Matrix.byteCount), pc := .print }
      else demo
  | .announced | .destroyed => demo

/-- The message of `send_shutdown()` -/
def shutdownBytes : List UInt8 := ByteMemory.bytesOfWord shutdownMsg

def generate (rand : Nat -> Nat) (demo : Demo) : Demo :=
  match demo.work.generateMatrices rand numMatrix maxSize with
  | .error _ => { demo with pc := .fault }
  | .ok work => { demo with work := work, pc := .write }

/-- `write()`, after which the program reads whether it has failed or not. -/
def write (sends : Bool) (demo : Demo) : Demo × List Arrival :=
  if sends then
    ({ demo with asked := demo.asked ++ [demo.operands], pc := .reading },
      [.message (request demo.operands.1 demo.operands.2)])
  else ({ demo with pc := .reading }, [])

/-- `matrix_print()`, which goes as far as the matrix says. -/
def print (demo : Demo) : Demo :=
  if demo.rMatrix.size.toNat ≤ maxSize then
    { demo with printed := demo.printed ++ [demo.rMatrix] }.nextRound (demo.i + 1)
  else { demo with pc := .fault }

def proceed (rand : Nat -> Nat) (sends : Bool) (demo : Demo) : Option (Demo × List Arrival) :=
  match demo.pc with
  | .generate => some (demo.generate rand, [])
  | .write => some (demo.write sends)
  | .reading => some (demo, [])
  | .print => some (demo.print, [])
  | .sendShutdown =>
      some ({ demo with pc := .close }, if sends then [.message shutdownBytes] else [])
  | .close => some ({ demo with pc := .returned }, [])
  | .returned | .fault => none

/-- `mat_mul_demo.c` -/
def program (rand : Nat -> Nat) : Duplex.Program Demo Arrival Arrival where
  polls := fun demo => demo.pc == .reading
  receive := fun _ demo arrival => (demo.read arrival, [])
  proceed := proceed rand

theorem stopped_of_returned {demo : Demo} (returned : demo.pc = .returned) (rand : Nat -> Nat) :
    (program rand).Stopped demo where
  blind := by
    show (demo.pc == .reading) = false
    rw [returned]
    rfl
  still := by
    intro sends
    show demo.proceed rand sends = none
    rw [proceed, returned]

/-! ## Its pace -/

/-- The rounds that are left, the current one included. -/
def left (demo : Demo) : Nat := demo.ntimes.toNat - demo.i

def rank (demo : Demo) : Nat :=
  match demo.pc with
  | .generate => 16 * demo.left + 12
  | .write => 16 * demo.left + 11
  | .reading => 16 * demo.left + 7
  | .print => 16 * demo.left + 6
  | .sendShutdown => 5
  | .close => 1
  | .returned | .fault => 0

def Works (demo : Demo) : Prop :=
  match demo.pc with
  | .generate | .write | .print | .sendShutdown | .close => True
  | .reading | .returned | .fault => False

theorem read_rank {demo : Demo} (reads : demo.pc = .reading) (arrival : Arrival) :
    (demo.read arrival).rank < demo.rank + 1 := by
  cases arrival with
  | announced | destroyed => exact Nat.lt_succ_self _
  | message data =>
      by_cases whole : Matrix.byteCount ≤ data.length
      · have before : demo.rank = 16 * demo.left + 7 := by rw [rank, reads]
        rw [before, read, if_pos whole]
        show 16 * demo.left + 6 < _
        omega
      · rw [read, if_neg whole]
        exact Nat.lt_succ_self _

theorem generate_rank {demo : Demo} (rand : Nat -> Nat) :
    (demo.generate rand).rank ≤ 16 * demo.left + 11 := by
  unfold generate
  split
  · exact Nat.zero_le _
  · exact Nat.le_refl _

theorem print_rank {demo : Demo} (prints : demo.pc = .print) : demo.print.rank < demo.rank := by
  have before : demo.rank = 16 * demo.left + 6 := by rw [rank, prints]
  rw [before]
  unfold print
  split
  · by_cases more : ((demo.i + 1 : Nat) : Int) < demo.ntimes
    · rw [nextRound, if_pos more]
      show 16 * (demo.ntimes.toNat - (demo.i + 1)) + 12 < 16 * (demo.ntimes.toNat - demo.i) + 6
      omega
    · rw [nextRound, if_neg more]
      show 5 < _
      omega
  · show 0 < _
    omega

/-- For each request the program pays what the remote needs to answer it. -/
theorem paced (rand : Nat -> Nat) : (program rand).Paced rank Works 1 3 where
  receives := fun _ _ arrival reads => read_rank (beq_iff_eq.mp reads) arrival
  proceeds := by
    intro sends demo works
    cases at_pc : demo.pc with
    | generate =>
        have lower := demo.generate_rank rand
        have before : demo.rank = 16 * demo.left + 12 := by rw [rank, at_pc]
        refine ⟨demo.generate rand, [], by simp only [program, proceed, at_pc], ?_⟩
        rw [List.length_nil]
        omega
    | write =>
        have before : demo.rank = 16 * demo.left + 11 := by rw [rank, at_pc]
        refine ⟨(demo.write sends).1, (demo.write sends).2,
          by simp only [program, proceed, at_pc], ?_⟩
        rw [before]
        cases sends with
        | true =>
            show 16 * demo.left + 7 + 3 * 1 < _
            omega
        | false =>
            show 16 * demo.left + 7 + 3 * 0 < _
            omega
    | print =>
        exact ⟨demo.print, [], by simp only [program, proceed, at_pc], print_rank at_pc⟩
    | sendShutdown =>
        refine ⟨{ demo with pc := .close }, if sends then [.message shutdownBytes] else [],
          by simp only [program, proceed, at_pc], ?_⟩
        cases sends <;> simp [rank, at_pc]
    | close =>
        exact ⟨{ demo with pc := .returned }, [], by simp only [program, proceed, at_pc],
          by simp [rank, at_pc]⟩
    | reading | returned | fault => simp only [Works, at_pc] at works
  rests := by
    intro sends demo after sent idle went
    cases at_pc : demo.pc with
    | generate | write | print | sendShutdown | close =>
        simp only [Works, at_pc, not_true_eq_false] at idle
    | reading =>
        simp only [program, proceed, at_pc, Option.some.injEq, Prod.mk.injEq] at went
        exact ⟨went.1.symm, went.2.symm⟩
    | returned | fault => simp only [program, proceed, at_pc, reduceCtorEq] at went

end Demo

/-! ## The system -/

abbrev System := Duplex.World Demo RemoteApp Arrival Arrival

/-- The remote has announced itself to the kernel. -/
def System.initial (ntimes : Int) (work : Workload) (rMatrix : Matrix) : System where
  left := Demo.initial ntimes work rMatrix
  right := { pc := .polling, shutdownReq := false }
  toLeft := []
  toRight := []

def step (rand : Nat -> Nat) : System -> Duplex.Label -> Option System :=
  Duplex.step (Demo.program rand) RemoteApp.program

/-! ## The states that can be reached -/

/-- What is under way in a round, and what has been done so far. -/
def Phase (demo : Demo) (toDemo toRemote : List Arrival) : Prop :=
  match demo.pc with
  | .generate =>
      demo.i < demo.ntimes ∧ Answered demo.asked demo.printed demo.i ∧ Silent toDemo toRemote
  | .write =>
      demo.i < demo.ntimes ∧ Digits demo.operands.1 ∧ Digits demo.operands.2 ∧
        Answered demo.asked demo.printed demo.i ∧ Silent toDemo toRemote
  | .reading =>
      demo.i < demo.ntimes ∧ Digits demo.operands.1 ∧ Digits demo.operands.2 ∧
        (Asked demo.operands demo.asked demo.printed demo.i ∧
            UnderWay demo.operands toDemo toRemote ∨
          Answered demo.asked demo.printed demo.i ∧ Silent toDemo toRemote)
  | .print =>
      demo.i < demo.ntimes ∧ IsProduct demo.operands demo.rMatrix ∧
        Asked demo.operands demo.asked demo.printed demo.i ∧ Silent toDemo toRemote
  | .sendShutdown =>
      Answered demo.asked demo.printed demo.ntimes.toNat ∧ Silent toDemo toRemote
  | .close | .returned =>
      Answered demo.asked demo.printed demo.ntimes.toNat ∧ messages toDemo = [] ∧
        (messages toRemote = [Demo.shutdownBytes] ∨ messages toRemote = [])
  | .fault => False

/-- The rounds are over. -/
def Pc.finished : Pc -> Bool
  | .close | .returned => true
  | .generate | .write | .reading | .print | .sendShutdown | .fault => false

namespace System

/-- What holds in every state that is reached, whatever goes out or does not. -/
structure Sound (world : System) : Prop where
  serving : world.right.pc = .polling ∨ world.right.pc = .destroyEpt ∨
    world.right.pc = .returned
  running : world.right.shutdownReq = false -> world.right.pc = .polling
  stopped : world.right.shutdownReq = true ->
    world.left.pc.finished = true ∧ messages world.toRight = []
  bound : .destroyed ∉ world.toRight
  phase : Phase world.left world.toLeft world.toRight

/-- A program waits for what has not gone out. -/
def Lost (world : System) : Prop :=
  (world.left.pc = .reading ∧ Silent world.toLeft world.toRight) ∨
    (world.left.pc.finished = true ∧ world.right.shutdownReq = false ∧ messages world.toRight = [])

/-- A message of the demonstration or a result does not go out. -/
def Fails (world : System) : Duplex.Label -> Prop
  | .left sends => sends = false ∧ (world.left.pc = .write ∨ world.left.pc = .sendShutdown)
  | .right sends =>
      sends = false ∧ world.right.pc = .polling ∧
        Exists fun data => world.toRight.head? = some (.message data) ∧ ¬ Remote.Shutdown data

theorem nextRound_phase (demo : Demo) {i : Nat} {toDemo toRemote : List Arrival}
    (within : i ≤ demo.ntimes.toNat) (answered : Answered demo.asked demo.printed i)
    (silent : Silent toDemo toRemote) : Phase (demo.nextRound i) toDemo toRemote := by
  by_cases more : (i : Int) < demo.ntimes
  · rw [Demo.nextRound, if_pos more]
    exact ⟨more, answered, silent⟩
  · rw [Demo.nextRound, if_neg more]
    have last : i = demo.ntimes.toNat := by omega
    exact ⟨last ▸ answered, silent⟩

theorem nextRound_kept (demo : Demo) (i : Nat) (remote : RemoteApp)
    (toDemo toRemote : List Arrival) : ¬ Lost ⟨demo.nextRound i, remote, toDemo, toRemote⟩ := by
  by_cases more : (i : Int) < demo.ntimes
  · rw [Demo.nextRound, if_pos more]
    simp [Lost, Pc.finished]
  · rw [Demo.nextRound, if_neg more]
    simp [Lost, Pc.finished]

theorem sound_initial (ntimes : Int) (work : Workload) (rMatrix : Matrix) :
    (initial ntimes work rMatrix).Sound where
  serving := Or.inl rfl
  running := fun _ => rfl
  stopped := Bool.noConfusion
  bound := List.not_mem_nil
  phase := nextRound_phase _ (Nat.zero_le _) ⟨List.Forall₂.nil, rfl⟩ ⟨rfl, rfl⟩

abbrev Follows (world next : System) (fails : Prop) : Prop :=
  Fairness.Follows Sound Lost world next fails

/-! ## Steps of the demonstration -/

section Left

variable {rand : Nat -> Nat} {demo after : Demo} {remote : RemoteApp}
  {toDemo toRemote sent : List Arrival}

/-- As long as the rounds are not over the remote has not been stopped. -/
theorem Sound.not_stopped {world : System} (sound : Sound world)
    (goes : world.left.pc.finished = false) : ¬ world.right.shutdownReq = true :=
  fun stop => Bool.noConfusion (goes.symm.trans (sound.stopped stop).1)

/-- A step of the demonstration that sends nothing. -/
theorem Sound.demo_moves (sound : Sound ⟨demo, remote, toDemo, toRemote⟩) {left : List Arrival}
    (goes : demo.pc.finished = false) (phase : Phase after left toRemote) :
    Sound ⟨after, remote, left, toRemote⟩ :=
  { sound with
    stopped := fun stop => absurd stop (sound.not_stopped goes)
    phase := phase }

theorem Sound.demo_reads {arrival : Arrival}
    (sound : Sound ⟨demo, remote, arrival :: toDemo, toRemote⟩) (at_pc : demo.pc = .reading) :
    Follows ⟨demo, remote, arrival :: toDemo, toRemote⟩
      ⟨demo.read arrival, remote, toDemo, toRemote⟩ False := by
  have phase := sound.phase
  have goes : demo.pc.finished = false := by
    rw [at_pc]
    rfl
  cases arrival with
  | announced | destroyed =>
      exact ⟨sound.demo_moves goes phase, by rw [or_false]; exact Iff.rfl⟩
  | message data =>
      simp only [Phase, at_pc, Silent, UnderWay, messages_message, reduceCtorEq, false_and,
        and_false, false_or, or_false, List.cons.injEq] at phase
      rcases phase with ⟨inside, left, right, pending, ⟨rfl, quiet⟩, silent⟩
      have length := (product demo.operands.1 demo.operands.2).bytes_length
      have taken : demo.read (.message (product demo.operands.1 demo.operands.2).bytes) =
          { demo with
            rMatrix := Matrix.ofBytes (product demo.operands.1 demo.operands.2).bytes
            pc := .print } := by
        rw [Demo.read, if_pos (Nat.le_of_eq length.symm), ← length, List.take_length]
      rw [taken]
      constructor
      · exact sound.demo_moves goes
          ⟨inside, isProduct_of_digits left right, pending, quiet, silent⟩
      · simp [Lost, at_pc, Silent, Pc.finished]

theorem Sound.demo_generates {sends : Bool} (sound : Sound ⟨demo, remote, toDemo, toRemote⟩)
    (at_pc : demo.pc = .generate) (went : demo.proceed rand sends = some (after, sent)) :
    Follows ⟨demo, remote, toDemo, toRemote⟩ ⟨after, remote, toDemo, toRemote ++ sent⟩ False := by
  have phase := sound.phase
  simp only [Phase, at_pc] at phase
  rcases Workload.generateMatrices_digits rand numMatrix demo.work with ⟨work, drawn, digits⟩
  simp only [Demo.proceed, at_pc, Demo.generate, drawn, Option.some.injEq, Prod.mk.injEq] at went
  rcases went with ⟨rfl, rfl⟩
  rw [List.append_nil]
  constructor
  · exact sound.demo_moves (by rw [at_pc]; rfl)
      ⟨phase.1, digits 0 (by decide), digits 1 (by decide), phase.2⟩
  · simp [Lost, at_pc, Pc.finished]

theorem Sound.demo_writes {sends : Bool} (sound : Sound ⟨demo, remote, toDemo, toRemote⟩)
    (at_pc : demo.pc = .write) (went : demo.proceed rand sends = some (after, sent)) :
    Follows ⟨demo, remote, toDemo, toRemote⟩ ⟨after, remote, toDemo, toRemote ++ sent⟩
      (sends = false) := by
  have phase := sound.phase
  have running : ¬ remote.shutdownReq = true := sound.not_stopped (by rw [at_pc]; rfl)
  simp only [Phase, at_pc] at phase
  rcases phase with ⟨inside, left, right, answered, silent⟩
  cases sends with
  | true =>
      simp only [Demo.proceed, at_pc, Demo.write, if_true, Option.some.injEq,
        Prod.mk.injEq] at went
      rcases went with ⟨rfl, rfl⟩
      constructor
      · exact
          { sound with
            stopped := fun stop => absurd stop running
            bound := by simpa using sound.bound
            phase := ⟨inside, left, right, Or.inl ⟨⟨_, rfl, answered⟩, silent.asks _⟩⟩ }
      · simp [Lost, at_pc, Pc.finished, Silent]
  | false =>
      simp only [Demo.proceed, at_pc, Demo.write, Bool.false_eq_true, if_false,
        Option.some.injEq, Prod.mk.injEq] at went
      rcases went with ⟨rfl, rfl⟩
      rw [List.append_nil]
      constructor
      · exact sound.demo_moves (by rw [at_pc]; rfl)
          ⟨inside, left, right, Or.inr ⟨answered, silent⟩⟩
      · simp [Lost, silent]

theorem Sound.demo_prints {sends : Bool} (sound : Sound ⟨demo, remote, toDemo, toRemote⟩)
    (at_pc : demo.pc = .print) (went : demo.proceed rand sends = some (after, sent)) :
    Follows ⟨demo, remote, toDemo, toRemote⟩ ⟨after, remote, toDemo, toRemote ++ sent⟩ False := by
  have phase := sound.phase
  simp only [Phase, at_pc] at phase
  rcases phase with ⟨inside, proper, pending, silent⟩
  have fits : demo.rMatrix.size.toNat ≤ maxSize := by
    rw [proper.size]
    decide
  simp only [Demo.proceed, at_pc, Demo.print, if_pos fits, Option.some.injEq,
    Prod.mk.injEq] at went
  rcases went with ⟨rfl, rfl⟩
  rw [List.append_nil]
  constructor
  · exact sound.demo_moves (by rw [at_pc]; rfl)
      (nextRound_phase _ (by show demo.i + 1 ≤ demo.ntimes.toNat; omega)
        (pending.answered proper) silent)
  · have kept := nextRound_kept { demo with printed := demo.printed ++ [demo.rMatrix] }
      (demo.i + 1) remote toDemo toRemote
    exact ⟨fun lost => absurd lost kept, by simp [Lost, at_pc, Pc.finished]⟩

theorem Sound.demo_stops {sends : Bool} (sound : Sound ⟨demo, remote, toDemo, toRemote⟩)
    (at_pc : demo.pc = .sendShutdown) (went : demo.proceed rand sends = some (after, sent)) :
    Follows ⟨demo, remote, toDemo, toRemote⟩ ⟨after, remote, toDemo, toRemote ++ sent⟩
      (sends = false) := by
  have phase := sound.phase
  have running : ¬ remote.shutdownReq = true := sound.not_stopped (by rw [at_pc]; rfl)
  simp only [Phase, at_pc] at phase
  rcases phase with ⟨answered, silent⟩
  simp only [Demo.proceed, at_pc, Option.some.injEq, Prod.mk.injEq] at went
  rcases went with ⟨rfl, rfl⟩
  cases sends with
  | true =>
      have told : messages (toRemote ++ [.message Demo.shutdownBytes]) = [Demo.shutdownBytes] := by
        rw [messages_append, silent.2]
        rfl
      constructor
      · exact
          { sound with
            stopped := fun stop => absurd stop running
            bound := by simpa using sound.bound
            phase := ⟨answered, silent.1, Or.inl told⟩ }
      · simp [Lost, at_pc, Pc.finished]
  | false =>
      simp only [Bool.false_eq_true, if_false, List.append_nil]
      constructor
      · exact sound.demo_moves (by rw [at_pc]; rfl) ⟨answered, silent.1, Or.inr silent.2⟩
      · simp [Lost, Pc.finished, silent.2, Bool.eq_false_iff.mpr running]

theorem Sound.demo_closes {sends : Bool} (sound : Sound ⟨demo, remote, toDemo, toRemote⟩)
    (at_pc : demo.pc = .close) (went : demo.proceed rand sends = some (after, sent)) :
    Follows ⟨demo, remote, toDemo, toRemote⟩ ⟨after, remote, toDemo, toRemote ++ sent⟩ False := by
  have phase := sound.phase
  simp only [Phase, at_pc] at phase
  simp only [Demo.proceed, at_pc, Option.some.injEq, Prod.mk.injEq] at went
  rcases went with ⟨rfl, rfl⟩
  rw [List.append_nil]
  constructor
  · exact
      { sound with
        stopped := fun stop => ⟨rfl, (sound.stopped stop).2⟩
        phase := phase }
  · simp [Lost, at_pc, Pc.finished]

end Left

/-! ## Steps of the remote -/

section Right

variable {demo : Demo} {remote after : RemoteApp} {toDemo toRemote sent : List Arrival}

/-- A request is not taken for the request to stop. -/
theorem request_plain {m : Matrix} (digits : Digits m) (n : Matrix) :
    ¬ Remote.Shutdown (request m n) := by
  rintro ⟨-, stop⟩
  have inside : 0 < (m.words ++ n.words).length := by
    rw [List.length_append, Matrix.words_length]
    exact Nat.lt_of_lt_of_le (by decide) (Nat.le_add_right _ _)
  have first : Message.word (request m n) 0 = m.size := Message.word_bytesOfWords _ inside
  rw [first, digits.size] at stop
  exact absurd stop (by decide)

/-- The remote can be asked to stop. -/
theorem shutdown_bytes : Remote.Shutdown Demo.shutdownBytes := by
  constructor
  · exact Nat.le_refl 4
  · decide

theorem Sound.remote_announced (sound : Sound ⟨demo, remote, toDemo, .announced :: toRemote⟩)
    (sends : Bool) :
    Follows ⟨demo, remote, toDemo, .announced :: toRemote⟩
      ⟨demo, (remote.receive sends .announced).1, toDemo ++ (remote.receive sends .announced).2,
        toRemote⟩ False := by
  show Follows _ ⟨demo, remote, toDemo ++ [], toRemote⟩ False
  rw [List.append_nil]
  constructor
  · exact
      { sound with
        bound := fun told => sound.bound (List.mem_cons_of_mem _ told)
        phase := sound.phase }
  · simp [Lost, Silent]

theorem Sound.remote_message {data : List UInt8}
    (sound : Sound ⟨demo, remote, toDemo, .message data :: toRemote⟩) (sends : Bool) :
    Follows ⟨demo, remote, toDemo, .message data :: toRemote⟩
      ⟨demo, (remote.receive sends (.message data)).1,
        toDemo ++ (remote.receive sends (.message data)).2, toRemote⟩
      (sends = false ∧ ¬ Remote.Shutdown data) := by
  have phase := sound.phase
  have bound : .destroyed ∉ toRemote := fun told => sound.bound (List.mem_cons_of_mem _ told)
  cases demo_pc : demo.pc with
  | reading =>
      have running := sound.not_stopped (by rw [demo_pc]; rfl)
      simp only [Phase, demo_pc, Silent, UnderWay, messages_message, reduceCtorEq, and_false,
        or_false, List.cons.injEq] at phase
      rcases phase with ⟨inside, left, right, pending, empty, rfl, quiet⟩
      have silent : Silent toDemo toRemote := ⟨empty, quiet⟩
      have plain := request_plain left demo.operands.2
      rw [remote.receive_request left right sends]
      cases sends with
      | true =>
          constructor
          · exact
              { sound with
                stopped := fun stop => absurd stop running
                bound := bound
                phase := by
                  simp only [Phase, demo_pc]
                  exact ⟨inside, left, right, Or.inl ⟨pending, silent.answers _⟩⟩ }
          · simp [Lost, demo_pc, Silent, Pc.finished]
      | false =>
          simp only [Bool.false_eq_true, if_false, List.append_nil]
          constructor
          · exact
              { sound with
                stopped := fun stop => absurd stop running
                bound := bound
                phase := by
                  simp only [Phase, demo_pc]
                  exact ⟨inside, left, right, Or.inl ⟨pending, Or.inr (Or.inr silent)⟩⟩ }
          · simp [Lost, demo_pc, silent, plain]
  | close | returned =>
      simp only [Phase, demo_pc, messages_message, reduceCtorEq, or_false, List.cons.injEq] at phase
      rcases phase with ⟨answered, silent, rfl, quiet⟩
      have stops := Remote.rpmsgEndpointCb_shutdown
        { shutdownReq := remote.shutdownReq, sent := [] } shutdown_bytes
      have received : remote.receive sends (.message Demo.shutdownBytes) =
          ({ remote with shutdownReq := true }, []) := by
        cases sends <;> simp only [RemoteApp.receive, stops] <;> rfl
      rw [received, List.append_nil]
      constructor
      · exact
          { sound with
            running := fun running => Bool.noConfusion running
            stopped := fun _ => ⟨by rw [demo_pc]; rfl, quiet⟩
            bound := bound
            phase := by
              simp only [Phase, demo_pc]
              exact ⟨answered, silent, Or.inr quiet⟩ }
      · simp [Lost, demo_pc, shutdown_bytes]
  | generate | write | print | sendShutdown | fault =>
      simp [Phase, demo_pc, Silent] at phase

theorem Sound.remote_polls {sends : Bool} (sound : Sound ⟨demo, remote, toDemo, toRemote⟩)
    (at_pc : remote.pc = .polling) (went : remote.proceed sends = some (after, sent)) :
    Follows ⟨demo, remote, toDemo, toRemote⟩ ⟨demo, after, toDemo ++ sent, toRemote⟩ False := by
  by_cases stop : remote.shutdownReq = true
  · simp only [RemoteApp.proceed, at_pc, stop, if_true, Option.some.injEq, Prod.mk.injEq] at went
    rcases went with ⟨rfl, rfl⟩
    rw [List.append_nil]
    constructor
    · exact
        { sound with
          serving := Or.inr (Or.inl rfl)
          running := fun running => Bool.noConfusion running
          stopped := fun _ => sound.stopped stop }
    · simp [Lost, stop]
  · simp only [RemoteApp.proceed, at_pc, if_neg stop, Option.some.injEq, Prod.mk.injEq] at went
    rcases went with ⟨rfl, rfl⟩
    rw [List.append_nil]
    exact Fairness.Follows.same sound

/-- After the rounds an announcement more changes nothing. -/
theorem Phase.finished (phase : Phase demo toDemo toRemote) (finished : demo.pc.finished = true)
    (quiet : messages sent = []) : Phase demo (toDemo ++ sent) toRemote := by
  cases at_pc : demo.pc with
  | close | returned =>
      simp only [Phase, at_pc, messages_append, quiet, List.append_nil] at phase ⊢
      exact phase
  | generate | write | reading | print | sendShutdown | fault =>
      rw [at_pc] at finished
      cases finished

theorem Sound.remote_leaves {sends : Bool} (sound : Sound ⟨demo, remote, toDemo, toRemote⟩)
    (at_pc : remote.pc = .destroyEpt) (went : remote.proceed sends = some (after, sent)) :
    Follows ⟨demo, remote, toDemo, toRemote⟩ ⟨demo, after, toDemo ++ sent, toRemote⟩ False := by
  have stop : remote.shutdownReq = true := by
    by_contra running
    have polls := sound.running (Bool.eq_false_iff.mpr running)
    rw [at_pc] at polls
    cases polls
  have finished : demo.pc.finished = true := (sound.stopped stop).1
  have quiet : messages sent = [] := by
    simp only [RemoteApp.proceed, at_pc, Option.some.injEq, Prod.mk.injEq] at went
    rw [← went.2]
    cases sends <;> rfl
  simp only [RemoteApp.proceed, at_pc, Option.some.injEq, Prod.mk.injEq] at went
  rcases went with ⟨rfl, -⟩
  constructor
  · exact
      { sound with
        serving := Or.inr (Or.inr rfl)
        running := fun running => Bool.noConfusion (running.symm.trans stop)
        phase := Phase.finished sound.phase finished quiet }
  · have reads : demo.pc ≠ .reading := by
      intro reads
      rw [reads] at finished
      cases finished
    simp [Lost, stop, reads]

end Right

variable {world next : System} {label : Duplex.Label} {rand : Nat -> Nat}

/-- Every step keeps what is known, and what has not gone out is lost for ever. -/
theorem Sound.step (sound : Sound world) (moved : MatMulDemo.step rand world label = some next) :
    Follows world next (Fails world label) := by
  cases Duplex.moves_of_step moved with
  | leftReceives sends demo remote arrival toDemo toRemote reads =>
      have at_pc : demo.pc = .reading := beq_iff_eq.mp reads
      show Follows _ ⟨demo.read arrival, remote, toDemo, toRemote ++ []⟩ _
      rw [List.append_nil]
      exact (sound.demo_reads at_pc).congr (by simp [Fails, at_pc])
  | leftProceeds sends demo after remote toDemo toRemote sent free went =>
      cases at_pc : demo.pc with
      | generate => exact (sound.demo_generates at_pc went).congr (by simp [Fails, at_pc])
      | write => exact (sound.demo_writes at_pc went).congr (by simp [Fails, at_pc])
      | reading =>
          simp only [Demo.program, Demo.proceed, at_pc, Option.some.injEq, Prod.mk.injEq] at went
          rcases went with ⟨rfl, rfl⟩
          rw [List.append_nil]
          exact (Fairness.Follows.same sound).congr (by simp [Fails, at_pc])
      | print => exact (sound.demo_prints at_pc went).congr (by simp [Fails, at_pc])
      | sendShutdown => exact (sound.demo_stops at_pc went).congr (by simp [Fails, at_pc])
      | close => exact (sound.demo_closes at_pc went).congr (by simp [Fails, at_pc])
      | returned | fault => simp only [Demo.program, Demo.proceed, at_pc, reduceCtorEq] at went
  | rightReceives sends demo remote arrival toDemo toRemote polls =>
      have at_pc : remote.pc = .polling := beq_iff_eq.mp polls
      cases arrival with
      | announced => exact (sound.remote_announced sends).congr (by simp [Fails])
      | message data => exact (sound.remote_message sends).congr (by simp [Fails, at_pc])
      | destroyed => exact absurd List.mem_cons_self sound.bound
  | rightProceeds sends demo remote after toDemo sent toRemote free went =>
      have serving : remote.pc = .polling ∨ remote.pc = .destroyEpt ∨ remote.pc = .returned :=
        sound.serving
      rcases serving with at_pc | at_pc | at_pc
      · have empty := free (beq_iff_eq.mpr at_pc)
        exact (sound.remote_polls at_pc went).congr (by simp [Fails, empty])
      · exact (sound.remote_leaves at_pc went).congr (by simp [Fails, at_pc])
      · simp only [RemoteApp.program, RemoteApp.proceed, at_pc, reduceCtorEq] at went

/-! ## Whole runs -/

/-- Both programs have come to their end. -/
def Ended (world : System) : Prop :=
  world.left.pc = .returned ∧ world.right.pc = .returned

theorem Lost.not_ended (lost : Lost world) (sound : Sound world) : ¬ Ended world := by
  rintro ⟨demo, remote⟩
  rcases lost with ⟨reads, -⟩ | ⟨-, running, -⟩
  · rw [demo] at reads
    cases reads
  · have polls := sound.running running
    rw [remote] at polls
    cases polls

theorem Ended.stays (ended : Ended world)
    (moved : MatMulDemo.step rand world label = some next) : Ended next := by
  have still : MatMulDemo.step rand world label = none :=
    Duplex.step_stopped (Demo.stopped_of_returned ended.1 rand)
      (RemoteApp.stopped_of_returned (Or.inl ended.2)) label
  rw [still] at moved
  cases moved

/-- A call that fails to send is a step all the same. -/
theorem Fails.moves (fails : Fails world label) (rand : Nat -> Nat) :
    Exists fun next => MatMulDemo.step rand world label = some next := by
  cases label with
  | left sends =>
      rcases fails with ⟨-, at_pc | at_pc⟩
      all_goals
        cases queue : world.toLeft <;>
          simp [MatMulDemo.step, Duplex.step, Duplex.Program.step, queue, Demo.program,
            Demo.proceed, at_pc]
  | right sends =>
      rcases fails with ⟨-, at_pc, data, first, -⟩
      cases queue : world.toRight with
      | nil => simp [queue] at first
      | cons arrival rest =>
          simp [MatMulDemo.step, Duplex.step, Duplex.Program.step, queue, RemoteApp.program, at_pc]

theorem fated (rand : Nat -> Nat) :
    Fairness.Fated (MatMulDemo.step rand) Sound Lost Ended Fails where
  follows := fun _ _ _ sound moved => sound.step moved
  moves := fun _ _ fails => fails.moves rand
  stays := fun _ _ _ ended moved => ended.stays moved
  apart := fun _ sound lost => lost.not_ended sound

/-- A remote that has not returned has something to do if it has been asked to stop or has a
message. -/
theorem Sound.remote_busy (sound : Sound world) (running : world.right.pc ≠ .returned)
    (asked : world.right.shutdownReq = true ∨ messages world.toRight ≠ []) :
    RemoteApp.program.Busy RemoteApp.Works world.right world.toRight := by
  rcases sound.serving with polls | leaves | returned
  · rcases asked with stop | waits
    · exact Or.inr (by rw [RemoteApp.Works, polls]; exact stop)
    · exact Or.inl ⟨beq_iff_eq.mpr polls, nonempty_of_messages waits⟩
  · exact Or.inr (by rw [RemoteApp.Works, leaves]; trivial)
  · exact absurd returned running

theorem Sound.somebody (sound : Sound world) (kept : ¬ Lost world) (running : ¬ Ended world) :
    Exists fun who => Duplex.Busy (Demo.program rand) RemoteApp.program Demo.Works
      RemoteApp.Works world who := by
  have phase := sound.phase
  cases at_pc : world.left.pc with
  | generate | write | print | sendShutdown | close =>
      exact ⟨.left, Or.inr (by rw [Demo.Works, at_pc]; trivial)⟩
  | reading =>
      simp only [Phase, at_pc] at phase
      rcases phase.2.2.2 with ⟨-, asked | answered | silent⟩ | ⟨-, silent⟩
      · have serves : world.right.pc ≠ .returned := by
          intro returned
          have running := sound.not_stopped (by rw [at_pc]; rfl)
          have polls := sound.running (Bool.eq_false_iff.mpr running)
          rw [returned] at polls
          cases polls
        have waits : messages world.toRight ≠ [] := by
          rw [asked.2]
          exact List.cons_ne_nil _ _
        exact ⟨.right, sound.remote_busy serves (Or.inr waits)⟩
      · have waits : messages world.toLeft ≠ [] := by
          rw [answered.1]
          exact List.cons_ne_nil _ _
        exact ⟨.left, Or.inl ⟨beq_iff_eq.mpr at_pc, nonempty_of_messages waits⟩⟩
      · exact absurd (Or.inl ⟨at_pc, silent⟩) kept
      · exact absurd (Or.inl ⟨at_pc, silent⟩) kept
  | returned =>
      have finished : world.left.pc.finished = true := by
        rw [at_pc]
        rfl
      have asked : world.right.shutdownReq = true ∨ messages world.toRight ≠ [] := by
        by_contra waits
        rw [not_or, not_not] at waits
        exact kept (Or.inr ⟨finished, Bool.eq_false_iff.mpr waits.1, waits.2⟩)
      exact ⟨.right, sound.remote_busy (fun returned => running ⟨at_pc, returned⟩) asked⟩
  | fault => simp only [Phase, at_pc] at phase

theorem ranked (rand : Nat -> Nat) : Fairness.Ranked (MatMulDemo.step rand) Duplex.Label.side
    (fun world label => ¬ Fails world label) (fun world => Sound world ∧ ¬ Lost world) Ended
    (Duplex.rank Demo.rank RemoteApp.rank 1 3)
    (Duplex.Busy (Demo.program rand) RemoteApp.program Demo.Works RemoteApp.Works) :=
  Duplex.ranked (Demo.paced rand) RemoteApp.paced
    (fun _ _ _ before works moved => (fated rand).preserved before works moved)
    (fun _ before running => before.1.somebody before.2 running)

theorem initial_kept (ntimes : Int) (work : Workload) (rMatrix : Matrix) :
    ¬ Lost (initial ntimes work rMatrix) :=
  nextRound_kept _ _ _ _ _

end System

/-! ### The number of rounds -/

theorem Demo.proceed_ntimes {rand : Nat -> Nat} {sends : Bool} {demo after : Demo}
    {sent : List Arrival} (went : demo.proceed rand sends = some (after, sent)) :
    after.ntimes = demo.ntimes := by
  cases at_pc : demo.pc with
  | generate =>
      simp only [Demo.proceed, at_pc, Demo.generate, Option.some.injEq, Prod.mk.injEq] at went
      rw [← went.1]
      split <;> rfl
  | write =>
      simp only [Demo.proceed, at_pc, Demo.write, Option.some.injEq] at went
      cases sends with
      | true => exact congrArg (fun moved => moved.1.ntimes) went.symm
      | false => exact congrArg (fun moved => moved.1.ntimes) went.symm
  | print =>
      simp only [Demo.proceed, at_pc, Demo.print, Option.some.injEq, Prod.mk.injEq] at went
      rw [← went.1]
      split <;> rfl
  | reading | sendShutdown | close =>
      simp only [Demo.proceed, at_pc, Option.some.injEq, Prod.mk.injEq] at went
      rw [← went.1]
  | returned | fault => simp only [Demo.proceed, at_pc, reduceCtorEq] at went

theorem Demo.read_ntimes (demo : Demo) (arrival : Arrival) :
    (demo.read arrival).ntimes = demo.ntimes := by
  cases arrival with
  | announced | destroyed => rfl
  | message data =>
      unfold Demo.read
      split
      all_goals first | rfl | split <;> rfl

theorem step_ntimes {rand : Nat -> Nat} {world next : System} {label : Duplex.Label}
    (moved : step rand world label = some next) : next.left.ntimes = world.left.ntimes := by
  cases Duplex.moves_of_step moved with
  | leftReceives sends demo remote arrival toDemo toRemote reads => exact demo.read_ntimes arrival
  | leftProceeds sends demo after remote toDemo toRemote sent free went =>
      exact Demo.proceed_ntimes went
  | rightReceives | rightProceeds => rfl

theorem sound_of_run {rand : Nat -> Nat} {ntimes : Int} {work : Workload} {rMatrix : Matrix}
    {performed : List Duplex.Label} {world : System}
    (reached : Transition.run (step rand) (System.initial ntimes work rMatrix) performed =
      some world) : world.Sound ∧ world.left.ntimes = ntimes :=
  have initially : (System.initial ntimes work rMatrix).Sound ∧
      (System.initial ntimes work rMatrix).left.ntimes = ntimes :=
    ⟨System.sound_initial ntimes work rMatrix, rfl⟩
  @Transition.run_invariant _ _ _ (fun world => world.Sound ∧ world.left.ntimes = ntimes)
    (fun _ _ _ before moved => ⟨(before.1.step moved).sound, (step_ntimes moved).trans before.2⟩)
    _ _ _ initially reached

/-- For any number of rounds and whatever `rand()` returns, a fair schedule brings both programs
to their end if and only if everything the demonstration writes and every result goes out. Zero
rounds and a negative number are among them: then only the request to stop is written. The end is
that of both programs, so it takes that request too. -/
theorem rounds_end_iff (rand : Nat -> Nat) (ntimes : Int) (work : Workload) (rMatrix : Matrix)
    (schedule : Nat -> Duplex.Label) (fair : Fairness.Fair Duplex.Label.side schedule) :
    (Exists fun n =>
        (Fairness.trace (step rand) (System.initial ntimes work rMatrix) schedule n).Ended) ↔
      forall n, ¬ (Fairness.trace (step rand) (System.initial ntimes work rMatrix) schedule n).Fails
        (schedule n) :=
  (System.fated rand).reaches_iff (System.ranked rand)
    ⟨System.sound_initial ntimes work rMatrix, System.initial_kept ntimes work rMatrix⟩ fair

/-- What the demonstration prints: the products over the integers of the requests, in order
and without a fault, and one for each round when it has come to its end. -/
structure Prints (ntimes : Int) (world : System) : Prop where
  noFault : world.left.pc ≠ .fault ∧ world.right.pc ≠ .fault
  oneUnderWay : (messages world.toLeft).length + (messages world.toRight).length ≤ 1
  products : List.Forall₂ IsProduct (world.left.asked.take world.left.printed.length)
    world.left.printed
  answered : world.left.asked.length ≤ world.left.printed.length + 1
  complete : world.left.pc = .returned ->
    world.left.printed.length = ntimes.toNat ∧
      world.left.asked.length = world.left.printed.length

theorem System.Sound.noFault {world : System} (sound : world.Sound) :
    world.left.pc ≠ .fault ∧ world.right.pc ≠ .fault := by
  constructor
  · intro fault
    have phase := sound.phase
    simp only [Phase, fault] at phase
  · intro fault
    rcases sound.serving with at_pc | at_pc | at_pc <;> rw [fault] at at_pc <;> cases at_pc

/-- Between two requests. -/
theorem System.Sound.prints_of_answered {world : System} {count : Nat} (sound : world.Sound)
    (answered : Answered world.left.asked world.left.printed count)
    (single : (messages world.toLeft).length + (messages world.toRight).length ≤ 1)
    (complete : world.left.pc = .returned -> count = world.left.ntimes.toNat) :
    Prints world.left.ntimes world where
  noFault := sound.noFault
  oneUnderWay := single
  products := answered.prefix_products
  answered := by
    rw [answered.products.length_eq]
    exact Nat.le_succ _
  complete := fun returned =>
    ⟨answered.taken.trans (complete returned), answered.products.length_eq⟩

/-- After a request. -/
theorem System.Sound.prints_of_asked {world : System} (sound : world.Sound)
    (pending : Asked world.left.operands world.left.asked world.left.printed world.left.i)
    (single : (messages world.toLeft).length + (messages world.toRight).length ≤ 1)
    (running : world.left.pc ≠ .returned) : Prints world.left.ntimes world where
  noFault := sound.noFault
  oneUnderWay := single
  products := pending.prefix_products
  answered := Nat.le_of_eq pending.length
  complete := fun returned => absurd returned running

theorem System.Sound.prints {world : System} (sound : world.Sound) :
    Prints world.left.ntimes world := by
  have phase := sound.phase
  cases at_pc : world.left.pc with
  | generate =>
      simp only [Phase, at_pc] at phase
      exact sound.prints_of_answered phase.2.1 phase.2.2.single (by simp [at_pc])
  | write =>
      simp only [Phase, at_pc] at phase
      exact sound.prints_of_answered phase.2.2.2.1 phase.2.2.2.2.single (by simp [at_pc])
  | reading =>
      simp only [Phase, at_pc] at phase
      rcases phase.2.2.2 with ⟨pending, underWay⟩ | ⟨answered, silent⟩
      · exact sound.prints_of_asked pending underWay.single (by simp [at_pc])
      · exact sound.prints_of_answered answered silent.single (by simp [at_pc])
  | print =>
      simp only [Phase, at_pc] at phase
      exact sound.prints_of_asked phase.2.2.1 phase.2.2.2.single (by simp [at_pc])
  | sendShutdown =>
      simp only [Phase, at_pc] at phase
      exact sound.prints_of_answered phase.1 phase.2.single (fun _ => rfl)
  | close | returned =>
      simp only [Phase, at_pc] at phase
      have single : (messages world.toLeft).length + (messages world.toRight).length ≤ 1 := by
        rcases phase.2.2 with stop | empty
        · rw [phase.2.1, stop]
          exact Nat.le_refl 1
        · exact Silent.single ⟨phase.2.1, empty⟩
      exact sound.prints_of_answered phase.1 single (fun _ => rfl)
  | fault => exact absurd at_pc sound.noFault.1

/-- In every state the demonstration reaches, whatever goes out or does not, what is printed is
right. The number of rounds and the numbers that `rand()` returns are arbitrary, and no fairness
is asked for. -/
theorem rounds_print {rand : Nat -> Nat} {ntimes : Int} {work : Workload} {rMatrix : Matrix}
    {performed : List Duplex.Label} {world : System}
    (reached : Transition.run (step rand) (System.initial ntimes work rMatrix) performed =
      some world) : Prints ntimes world :=
  (sound_of_run reached).2 ▸ (sound_of_run reached).1.prints

theorem not_fails_of_sends {world : System} {label : Duplex.Label} (sends : label.sends = true) :
    ¬ world.Fails label := by
  intro fails
  cases label with
  | left goes => exact Bool.noConfusion (fails.1.symm.trans sends)
  | right goes => exact Bool.noConfusion (fails.1.symm.trans sends)

/-- Two rounds, and the two programs in turn. -/
def twoRounds (n : Nat) : System :=
  Fairness.trace (step id) (System.initial 2 { drawn := 0, matrices := fun _ => zeros } zeros)
    Duplex.alternating n

theorem twoRounds_end : Exists fun n => (twoRounds n).Ended :=
  (rounds_end_iff _ _ _ _ Duplex.alternating Duplex.alternating_fair).mpr
    (fun n => not_fails_of_sends (Duplex.alternating_sends n))

theorem twoRounds_print :
    Exists fun n => (twoRounds n).Ended ∧ Prints 2 (twoRounds n) := by
  rcases (System.ranked id).reaches
      ⟨System.sound_initial 2 { drawn := 0, matrices := fun _ => zeros } zeros,
        System.initial_kept _ _ _⟩
      (fun n => not_fails_of_sends (Duplex.alternating_sends n)) Duplex.alternating_fair with
    ⟨n, ended⟩
  rcases Fairness.trace_reached (step id)
      (System.initial 2 { drawn := 0, matrices := fun _ => zeros } zeros) Duplex.alternating n with
    ⟨performed, reached⟩
  exact ⟨n, ended, rounds_print reached⟩

end MatMulDemo
end OpenAmpReference
