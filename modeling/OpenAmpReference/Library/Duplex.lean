import OpenAmpReference.Library.Fairness

namespace OpenAmpReference
namespace Duplex

/-!
# Two programs and a queue each way

A program looks into its queue at some places and works by itself at others.
What it sends may not go out: the label of a step says so, and the program
sees it as a failed call.

A step of one program leaves the other one alone, and leaves its queue as it
is or longer.  So a program that has something to do keeps it until it moves,
and whether fair schedules come to an end is a matter of one program at a
time: it is paced when it pays for every step, and for what it sends, out of
its own rank and the price of the message it takes.
-/

/-- What a program does with a message that it finds in its queue, and what it does
otherwise. -/
structure Program (State In Out : Type*) where
  polls : State -> Bool
  receive : Bool -> State -> In -> State × List Out
  proceed : Bool -> State -> Option (State × List Out)

namespace Program

variable {State In Out : Type*}

/-- One step, with what is left of the queue and what is sent. -/
def step (program : Program State In Out) (sends : Bool) (state : State) :
    List In -> Option (State × List In × List Out)
  | [] => (program.proceed sends state).map fun after => (after.1, [], after.2)
  | message :: rest =>
      if program.polls state then
        let after := program.receive sends state message
        some (after.1, rest, after.2)
      else (program.proceed sends state).map fun after => (after.1, message :: rest, after.2)

/-- The two ways in which a program moves. -/
inductive Moves (program : Program State In Out) (sends : Bool) (state : State) :
    List In -> State -> List In -> List Out -> Prop
  | received (message : In) (rest : List In) (polls : program.polls state = true) :
      Moves program sends state (message :: rest) (program.receive sends state message).1 rest
        (program.receive sends state message).2
  | proceeded {queue : List In} {after : State} {sent : List Out}
      (free : program.polls state = true -> queue = [])
      (went : program.proceed sends state = some (after, sent)) :
      Moves program sends state queue after queue sent

theorem moves_of_step {program : Program State In Out} {sends : Bool} {state after : State}
    {queue left : List In} {sent : List Out}
    (moved : program.step sends state queue = some (after, left, sent)) :
    Moves program sends state queue after left sent := by
  cases queue with
  | nil =>
      rcases Option.map_eq_some_iff.mp moved with ⟨⟨next, out⟩, went, same⟩
      cases same
      exact Moves.proceeded (fun _ => rfl) went
  | cons message rest =>
      by_cases polls : program.polls state = true
      · rw [step, if_pos polls] at moved
        cases moved
        exact Moves.received message _ polls
      · rw [step, if_neg polls] at moved
        rcases Option.map_eq_some_iff.mp moved with ⟨⟨next, out⟩, went, same⟩
        cases same
        exact Moves.proceeded (fun polled => absurd polled polls) went

/-- A program that neither polls nor goes on. -/
structure Stopped (program : Program State In Out) (state : State) : Prop where
  blind : program.polls state = false
  still : forall sends, program.proceed sends state = none

theorem Stopped.step {program : Program State In Out} {state : State}
    (stopped : program.Stopped state) (sends : Bool) (queue : List In) :
    program.step sends state queue = none := by
  cases queue with
  | nil => rw [Program.step, stopped.still, Option.map_none]
  | cons message rest =>
      rw [Program.step, stopped.blind, if_neg Bool.false_ne_true, stopped.still, Option.map_none]

/-- The rank and the prices of the messages pay for every step of a program, and where it
neither works nor has a message it only waits. -/
structure Paced (program : Program State In Out) (rank : State -> Nat) (works : State -> Prop)
    (inPrice outPrice : Nat) : Prop where
  receives : forall sends state message, program.polls state = true ->
    rank (program.receive sends state message).1 +
      outPrice * (program.receive sends state message).2.length < rank state + inPrice
  proceeds : forall sends state, works state ->
    Exists fun after => Exists fun sent => program.proceed sends state = some (after, sent) ∧
      rank after + outPrice * sent.length < rank state
  rests : forall sends state after sent, ¬ works state ->
    program.proceed sends state = some (after, sent) -> after = state ∧ sent = []

/-- The program has something to do. -/
def Busy (program : Program State In Out) (works : State -> Prop) (state : State)
    (queue : List In) : Prop :=
  program.polls state = true ∧ queue ≠ [] ∨ works state

variable {program : Program State In Out} {rank : State -> Nat} {works : State -> Prop}
  {inPrice outPrice : Nat} {sends : Bool} {state after : State} {queue left : List In}
  {sent : List Out}

/-- A busy program lowers the balance of its rank and the messages. -/
theorem Paced.busy (paced : Paced program rank works inPrice outPrice)
    (busy : program.Busy works state queue) (sends : Bool) :
    Exists fun after => Exists fun left => Exists fun sent =>
      program.step sends state queue = some (after, left, sent) ∧
        rank after + inPrice * left.length + outPrice * sent.length <
          rank state + inPrice * queue.length := by
  have alone : (program.polls state = true -> queue = []) -> works state ->
      Exists fun after => Exists fun left => Exists fun sent =>
        program.step sends state queue = some (after, left, sent) ∧
          rank after + inPrice * left.length + outPrice * sent.length <
            rank state + inPrice * queue.length := by
    intro free working
    rcases paced.proceeds sends state working with ⟨after, sent, went, lower⟩
    refine ⟨after, queue, sent, ?_, by omega⟩
    cases queue with
    | nil =>
        rw [step, went]
        rfl
    | cons message rest =>
        have blind : ¬ program.polls state = true := fun polls => List.cons_ne_nil _ _ (free polls)
        rw [step, if_neg blind, went]
        rfl
  cases queue with
  | nil =>
      rcases busy with ⟨-, waits⟩ | working
      · exact absurd rfl waits
      · exact alone (fun _ => rfl) working
  | cons message rest =>
      by_cases polls : program.polls state = true
      · refine ⟨_, rest, _, by rw [step, if_pos polls], ?_⟩
        have lower := paced.receives sends state message polls
        rw [List.length_cons, Nat.mul_succ]
        omega
      · rcases busy with ⟨polled, -⟩ | working
        · exact absurd polled polls
        · exact alone (fun polled => absurd polled polls) working

/-- A program that is not busy only waits. -/
theorem Paced.idle (paced : Paced program rank works inPrice outPrice)
    (idle : ¬ program.Busy works state queue)
    (moved : program.step sends state queue = some (after, left, sent)) :
    after = state ∧ left = queue ∧ sent = [] := by
  cases moves_of_step moved with
  | received message rest polls => exact absurd (Or.inl ⟨polls, List.cons_ne_nil _ _⟩) idle
  | proceeded free went =>
      have rest := paced.rests sends state after sent (fun working => idle (Or.inr working)) went
      exact ⟨rest.1, rfl, rest.2⟩

end Program

/-! ## The system -/

structure World (Left Right ToLeft ToRight : Type*) where
  left : Left
  right : Right
  toLeft : List ToLeft
  toRight : List ToRight

/-- Who moves, and whether what it sends goes out. -/
inductive Label
  | left (sends : Bool)
  | right (sends : Bool)
  deriving DecidableEq, Repr

inductive Side
  | left
  | right
  deriving DecidableEq, Repr

def Label.side : Label -> Side
  | left _ => .left
  | right _ => .right

def Label.sends : Label -> Bool
  | left sends => sends
  | right sends => sends

/-- The two programs in turn, and everything goes out. -/
def alternating : Nat -> Label := Fairness.cycle (.left true) [.right true]

theorem alternating_fair : Fairness.Fair Label.side alternating := by
  apply Fairness.cycle_fair
  intro who
  cases who with
  | left => exact ⟨_, List.mem_cons_self, rfl⟩
  | right => exact ⟨_, List.mem_cons_of_mem _ List.mem_cons_self, rfl⟩

theorem alternating_sends (n : Nat) : (alternating n).sends = true := by
  have turn : alternating n ∈ [Label.left true, .right true] := Fairness.cycle_mem _ _ n
  rw [List.mem_pair] at turn
  rcases turn with left | right
  · rw [left]
    rfl
  · rw [right]
    rfl

variable {Left Right ToLeft ToRight : Type*}

def step (left : Program Left ToLeft ToRight) (right : Program Right ToRight ToLeft)
    (world : World Left Right ToLeft ToRight) :
    Label -> Option (World Left Right ToLeft ToRight)
  | .left sends =>
      (left.step sends world.left world.toLeft).map fun moved =>
        { world with
          left := moved.1
          toLeft := moved.2.1
          toRight := world.toRight ++ moved.2.2 }
  | .right sends =>
      (right.step sends world.right world.toRight).map fun moved =>
        { world with
          right := moved.1
          toRight := moved.2.1
          toLeft := world.toLeft ++ moved.2.2 }

variable {left : Program Left ToLeft ToRight} {right : Program Right ToRight ToLeft}
  {world next : World Left Right ToLeft ToRight}

theorem step_left {sends : Bool} (moved : step left right world (.left sends) = some next) :
    Exists fun sent =>
      left.step sends world.left world.toLeft = some (next.left, next.toLeft, sent) ∧
        next.right = world.right ∧ next.toRight = world.toRight ++ sent := by
  rcases Option.map_eq_some_iff.mp moved with ⟨⟨after, rest, sent⟩, performed, rfl⟩
  exact ⟨sent, performed, rfl, rfl⟩

theorem step_right {sends : Bool} (moved : step left right world (.right sends) = some next) :
    Exists fun sent =>
      right.step sends world.right world.toRight = some (next.right, next.toRight, sent) ∧
        next.left = world.left ∧ next.toLeft = world.toLeft ++ sent := by
  rcases Option.map_eq_some_iff.mp moved with ⟨⟨after, rest, sent⟩, performed, rfl⟩
  exact ⟨sent, performed, rfl, rfl⟩

/-- The ways in which the system moves. -/
inductive Moves (left : Program Left ToLeft ToRight) (right : Program Right ToRight ToLeft) :
    World Left Right ToLeft ToRight -> Label -> World Left Right ToLeft ToRight -> Prop
  | leftReceives (sends : Bool) (state : Left) (other : Right) (message : ToLeft)
      (toLeft : List ToLeft) (toRight : List ToRight) (polls : left.polls state = true) :
      Moves left right ⟨state, other, message :: toLeft, toRight⟩ (.left sends)
        ⟨(left.receive sends state message).1, other, toLeft,
          toRight ++ (left.receive sends state message).2⟩
  | leftProceeds (sends : Bool) (state after : Left) (other : Right) (toLeft : List ToLeft)
      (toRight sent : List ToRight) (free : left.polls state = true -> toLeft = [])
      (went : left.proceed sends state = some (after, sent)) :
      Moves left right ⟨state, other, toLeft, toRight⟩ (.left sends)
        ⟨after, other, toLeft, toRight ++ sent⟩
  | rightReceives (sends : Bool) (other : Left) (state : Right) (message : ToRight)
      (toLeft : List ToLeft) (toRight : List ToRight) (polls : right.polls state = true) :
      Moves left right ⟨other, state, toLeft, message :: toRight⟩ (.right sends)
        ⟨other, (right.receive sends state message).1,
          toLeft ++ (right.receive sends state message).2, toRight⟩
  | rightProceeds (sends : Bool) (other : Left) (state after : Right) (toLeft sent : List ToLeft)
      (toRight : List ToRight) (free : right.polls state = true -> toRight = [])
      (went : right.proceed sends state = some (after, sent)) :
      Moves left right ⟨other, state, toLeft, toRight⟩ (.right sends)
        ⟨other, after, toLeft ++ sent, toRight⟩

theorem moves_of_step {label : Label} (moved : step left right world label = some next) :
    Moves left right world label next := by
  rcases world with ⟨leftState, rightState, toLeft, toRight⟩
  rcases next with ⟨leftNext, rightNext, toLeftNext, toRightNext⟩
  cases label with
  | left sends =>
      rcases step_left moved with ⟨sent, performed, same, queue⟩
      simp only at performed same queue
      subst same queue
      cases Program.moves_of_step performed with
      | received message rest polls => exact Moves.leftReceives _ _ _ _ _ _ polls
      | proceeded free went => exact Moves.leftProceeds _ _ _ _ _ _ _ free went
  | right sends =>
      rcases step_right moved with ⟨sent, performed, same, queue⟩
      simp only at performed same queue
      subst same queue
      cases Program.moves_of_step performed with
      | received message rest polls => exact Moves.rightReceives _ _ _ _ _ _ polls
      | proceeded free went => exact Moves.rightProceeds _ _ _ _ _ _ _ free went

/-- When both programs have stopped there is no step. -/
theorem step_stopped (leftStopped : left.Stopped world.left)
    (rightStopped : right.Stopped world.right) (label : Label) :
    step left right world label = none := by
  cases label with
  | left sends => rw [step, leftStopped.step, Option.map_none]
  | right sends => rw [step, rightStopped.step, Option.map_none]

/-- A program that has stopped stays as it is. -/
theorem step_leftStopped (stopped : left.Stopped world.left) {label : Label}
    (moved : step left right world label = some next) : next.left = world.left := by
  cases label with
  | left sends =>
      rw [step, stopped.step, Option.map_none] at moved
      cases moved
  | right sends =>
      rcases step_right moved with ⟨_, _, same, _⟩
      exact same

theorem step_rightStopped (stopped : right.Stopped world.right) {label : Label}
    (moved : step left right world label = some next) : next.right = world.right := by
  cases label with
  | left sends =>
      rcases step_left moved with ⟨_, _, same, _⟩
      exact same
  | right sends =>
      rw [step, stopped.step, Option.map_none] at moved
      cases moved

/-! ## Fair schedules -/

section Ranked

variable {leftRank : Left -> Nat} {leftWorks : Left -> Prop} {rightRank : Right -> Nat}
  {rightWorks : Right -> Prop} {leftPrice rightPrice : Nat}

/-- The ranks of the programs and the price of every message under way -/
def rank (leftRank : Left -> Nat) (rightRank : Right -> Nat) (leftPrice rightPrice : Nat)
    (world : World Left Right ToLeft ToRight) : Nat :=
  leftRank world.left + rightRank world.right + leftPrice * world.toLeft.length +
    rightPrice * world.toRight.length

def Busy (left : Program Left ToLeft ToRight) (right : Program Right ToRight ToLeft)
    (leftWorks : Left -> Prop) (rightWorks : Right -> Prop)
    (world : World Left Right ToLeft ToRight) : Side -> Prop
  | .left => left.Busy leftWorks world.left world.toLeft
  | .right => right.Busy rightWorks world.right world.toRight

/-- A message more does not take anything from what a program has to do. -/
theorem Program.Busy.more {State In Out : Type*} {program : Program State In Out}
    {works : State -> Prop} {state : State} {queue : List In}
    (busy : program.Busy works state queue) (sent : List In) :
    program.Busy works state (queue ++ sent) := by
  rcases busy with ⟨polls, waits⟩ | working
  · exact Or.inl ⟨polls, List.append_ne_nil_of_left_ne_nil waits sent⟩
  · exact Or.inr working

/-- Two paced programs come to an end if, short of it, one of them is busy. -/
theorem ranked {condition : World Left Right ToLeft ToRight -> Label -> Prop}
    {Invariant Goal : World Left Right ToLeft ToRight -> Prop}
    (paysLeft : left.Paced leftRank leftWorks leftPrice rightPrice)
    (paysRight : right.Paced rightRank rightWorks rightPrice leftPrice)
    (preserved : forall world label next, Invariant world -> condition world label ->
      step left right world label = some next -> Invariant next)
    (somebody : forall world, Invariant world -> ¬ Goal world ->
      Exists fun who => Busy left right leftWorks rightWorks world who) :
    Fairness.Ranked (step left right) Label.side condition Invariant Goal
      (rank leftRank rightRank leftPrice rightPrice)
      (Busy left right leftWorks rightWorks) where
  preserved := preserved
  lowers := by
    intro world label _ _ busy
    cases label with
    | left sends =>
        rcases paysLeft.busy busy sends with ⟨after, rest, sent, performed, lower⟩
        refine ⟨_, by rw [step, performed]; rfl, ?_⟩
        simp only [rank, List.length_append, Nat.mul_add]
        omega
    | right sends =>
        rcases paysRight.busy busy sends with ⟨after, rest, sent, performed, lower⟩
        refine ⟨_, by rw [step, performed]; rfl, ?_⟩
        simp only [rank, List.length_append, Nat.mul_add]
        omega
  keeps := by
    intro world label next _ _ idle moved
    cases label with
    | left sends =>
        rcases step_left moved with ⟨sent, performed, right_, toRight⟩
        rcases paysLeft.idle idle performed with ⟨same, queue, quiet⟩
        rw [rank, rank, same, queue, right_, toRight, quiet, List.append_nil]
    | right sends =>
        rcases step_right moved with ⟨sent, performed, left_, toLeft⟩
        rcases paysRight.idle idle performed with ⟨same, queue, quiet⟩
        rw [rank, rank, same, queue, left_, toLeft, quiet, List.append_nil]
  stays := by
    intro world label next who _ _ busy other moved
    cases label with
    | left sends =>
        rcases step_left moved with ⟨sent, performed, same, toRight⟩
        cases who with
        | left => exact absurd rfl other
        | right =>
            apply Or.inl
            rw [Busy, same, toRight]
            exact Program.Busy.more busy sent
    | right sends =>
        rcases step_right moved with ⟨sent, performed, same, toLeft⟩
        cases who with
        | left =>
            apply Or.inl
            rw [Busy, same, toLeft]
            exact Program.Busy.more busy sent
        | right => exact absurd rfl other
  somebody := somebody

end Ranked
end Duplex
end OpenAmpReference
