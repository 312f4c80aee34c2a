import Mathlib.Data.Nat.Find
import OpenAmpReference.Library.Transition

namespace OpenAmpReference
namespace Fairness

/-!
# Endless fair schedules

A safety property speaks of all finite schedules; that a system comes to an
end needs endless ones in which nobody is left out for ever.  A refused label
leaves the state as it is.

A condition on the labels says what the environment is asked to do.

The rule below needs no argument about schedules from its user.  It asks for
a rank and for the actors that are busy in a state: a busy actor lowers the
rank whenever it moves, the others do not raise it and leave the busy ones
busy unless they lower it, and somebody is busy until the goal is reached.
-/

variable {State Label Actor : Type*}

/-- The state before label number `n` of an endless schedule. -/
def trace (step : State -> Label -> Option State) (start : State) (schedule : Nat -> Label) :
    Nat -> State
  | 0 => start
  | n + 1 =>
      (step (trace step start schedule n) (schedule n)).getD (trace step start schedule n)

/-- Every actor moves again and again. -/
def Fair (actor : Label -> Actor) (schedule : Nat -> Label) : Prop :=
  forall who n, Exists fun m => n ≤ m ∧ actor (schedule m) = who

/-- Some labels in turn, over and over -/
def cycle (first : Label) (rest : List Label) (n : Nat) : Label :=
  (first :: rest)[n % (rest.length + 1)]?.getD first

theorem cycle_mem (first : Label) (rest : List Label) (n : Nat) :
    cycle first rest n ∈ first :: rest := by
  have inside : n % (rest.length + 1) < (first :: rest).length := Nat.mod_lt n (Nat.succ_pos _)
  rw [cycle, List.getElem?_eq_getElem inside]
  exact List.getElem_mem inside

theorem cycle_fair {actor : Label -> Actor} {first : Label} {rest : List Label}
    (covers : forall who, Exists fun label => label ∈ first :: rest ∧ actor label = who) :
    Fair actor (cycle first rest) := by
  intro who n
  rcases covers who with ⟨label, member, mover⟩
  rcases List.getElem_of_mem member with ⟨place, inside, found⟩
  have within : place < rest.length + 1 := inside
  have turn : ((rest.length + 1) * n + place) % (rest.length + 1) = place := by
    rw [Nat.mul_add_mod, Nat.mod_eq_of_lt within]
  refine ⟨(rest.length + 1) * n + place, ?_, ?_⟩
  · exact Nat.le_add_right_of_le (Nat.le_mul_of_pos_left n (Nat.succ_pos _))
  · rw [cycle, turn, List.getElem?_eq_getElem inside, found, Option.getD_some, mover]

section Trace

variable {step : State -> Label -> Option State} {start : State} {schedule : Nat -> Label}

theorem trace_of_some {n : Nat} {next : State}
    (moved : step (trace step start schedule n) (schedule n) = some next) :
    trace step start schedule (n + 1) = next := by
  rw [trace, moved]
  rfl

theorem trace_of_none {n : Nat} (refused : step (trace step start schedule n) (schedule n) = none) :
    trace step start schedule (n + 1) = trace step start schedule n := by
  rw [trace, refused]
  rfl

/-- Every state of the trace is reached by a finite schedule. -/
theorem trace_reached (step : State -> Label -> Option State) (start : State)
    (schedule : Nat -> Label) (n : Nat) :
    Exists fun performed =>
      Transition.run step start performed = some (trace step start schedule n) := by
  induction n with
  | zero => exact ⟨[], rfl⟩
  | succ n inductionHypothesis =>
      rcases inductionHypothesis with ⟨performed, reached⟩
      cases moved : step (trace step start schedule n) (schedule n) with
      | none =>
          rw [trace_of_none moved]
          exact ⟨performed, reached⟩
      | some next =>
          rw [trace_of_some moved]
          exact ⟨performed ++ [schedule n],
            (Transition.run_append performed [schedule n]).mpr
              ⟨_, reached, Transition.run_singleton moved⟩⟩

/-- An invariant of the steps that meet a condition holds throughout a schedule that meets it. -/
theorem trace_invariant {condition : State -> Label -> Prop} {Invariant : State -> Prop}
    (preserved : forall state label next, Invariant state -> condition state label ->
      step state label = some next -> Invariant next)
    (initially : Invariant start)
    (met : forall n, condition (trace step start schedule n) (schedule n)) (n : Nat) :
    Invariant (trace step start schedule n) := by
  induction n with
  | zero => exact initially
  | succ n inductionHypothesis =>
      cases moved : step (trace step start schedule n) (schedule n) with
      | none =>
          rw [trace_of_none moved]
          exact inductionHypothesis
      | some next =>
          rw [trace_of_some moved]
          exact preserved _ _ _ inductionHypothesis (met n) moved

/-- What holds at some point and not at the start has been brought about by a step. -/
theorem trace_caused {Property : State -> Prop} {cause : State -> Label -> Prop}
    (only : forall state label next, step state label = some next -> Property next ->
      Property state ∨ cause state label)
    (fresh : ¬ Property start) {n : Nat} (now : Property (trace step start schedule n)) :
    Exists fun m => cause (trace step start schedule m) (schedule m) := by
  induction n with
  | zero => exact absurd now fresh
  | succ n inductionHypothesis =>
      cases moved : step (trace step start schedule n) (schedule n) with
      | none =>
          rw [trace_of_none moved] at now
          exact inductionHypothesis now
      | some next =>
          rw [trace_of_some moved] at now
          rcases only _ _ _ moved now with before | caused
          · exact inductionHypothesis before
          · exact ⟨n, caused⟩

/-- What no step loses is not lost later. -/
theorem trace_stays {Property : State -> Prop}
    (stays : forall state label next, Property state -> step state label = some next ->
      Property next)
    {n : Nat} (now : Property (trace step start schedule n)) (later : Nat) :
    Property (trace step start schedule (n + later)) := by
  induction later with
  | zero => exact now
  | succ later inductionHypothesis =>
      rw [← Nat.add_assoc]
      cases moved : step (trace step start schedule (n + later)) (schedule (n + later)) with
      | none =>
          rw [trace_of_none moved]
          exact inductionHypothesis
      | some next =>
          rw [trace_of_some moved]
          exact stays _ _ _ inductionHypothesis moved

/-- What holds in a state and after every step from it holds in the next state. -/
theorem trace_next (Property : State -> Prop) {n : Nat}
    (same : Property (trace step start schedule n))
    (moves : forall next, step (trace step start schedule n) (schedule n) = some next ->
      Property next) : Property (trace step start schedule (n + 1)) := by
  cases moved : step (trace step start schedule n) (schedule n) with
  | none =>
      rw [trace_of_none moved]
      exact same
  | some next =>
      rw [trace_of_some moved]
      exact moves next moved

end Trace

/-! ## Turns -/

/-- What only a turn can change still holds when the turn comes. -/
theorem holds_at_turn (Property : Nat -> Prop) {turn : Nat -> Prop} {n : Nat} (now : Property n)
    (comes : Exists fun m => n ≤ m ∧ turn m)
    (keeps : forall m, n ≤ m -> Property m -> ¬ turn m -> Property (m + 1)) :
    Exists fun m => n ≤ m ∧ turn m ∧ Property m := by
  by_contra never
  have always : forall m, n ≤ m -> Property m := by
    intro m later
    induction m, later using Nat.le_induction with
    | base => exact now
    | succ m later inductionHypothesis =>
        exact keeps m later inductionHypothesis
          (fun turn => never ⟨m, later, turn, inductionHypothesis⟩)
  rcases comes with ⟨m, later, turn⟩
  exact never ⟨m, later, turn, always m later⟩

/-- What never rises comes to rest. -/
theorem comes_to_rest (measure : Nat -> Nat) {n : Nat}
    (falls : forall m, n ≤ m -> measure (m + 1) ≤ measure m) :
    Exists fun rest => n ≤ rest ∧ forall m, rest ≤ m -> measure m = measure rest := by
  classical
  have attained : Exists fun value => Exists fun m => n ≤ m ∧ measure m = value :=
    ⟨_, n, Nat.le_refl n, rfl⟩
  rcases Nat.find_spec attained with ⟨rest, later, least⟩
  refine ⟨rest, later, fun m after => Nat.le_antisymm ?_ ?_⟩
  · induction m, after using Nat.le_induction with
    | base => exact Nat.le_refl _
    | succ m after inductionHypothesis =>
        exact Nat.le_trans (falls m (Nat.le_trans later after)) inductionHypothesis
  · rw [least]
    exact Nat.find_min' attained ⟨m, Nat.le_trans later after, rfl⟩

/-- What is possible again and again is done again and again, at times when it is possible. -/
def Strong (possible done : Nat -> Prop) : Prop :=
  (forall n, Exists fun m => n ≤ m ∧ possible m) ->
    forall n, Exists fun m => n ≤ m ∧ possible m ∧ done m

/-! ## The rule -/

/-- A rank and the busy actors that bring every fair schedule whose labels meet the
condition to the goal. -/
structure Ranked (step : State -> Label -> Option State) (actor : Label -> Actor)
    (condition : State -> Label -> Prop) (Invariant Goal : State -> Prop) (rank : State -> Nat)
    (Busy : State -> Actor -> Prop) : Prop where
  preserved : forall state label next, Invariant state -> condition state label ->
    step state label = some next -> Invariant next
  lowers : forall state label, Invariant state -> condition state label ->
    Busy state (actor label) ->
      Exists fun next => step state label = some next ∧ rank next < rank state
  keeps : forall state label next, Invariant state -> condition state label ->
    ¬ Busy state (actor label) -> step state label = some next -> rank next ≤ rank state
  stays : forall state label next who, Invariant state -> condition state label ->
    Busy state who -> actor label ≠ who -> step state label = some next ->
      Busy next who ∨ rank next < rank state
  somebody : forall state, Invariant state -> ¬ Goal state -> Exists fun who => Busy state who

namespace Ranked

variable {step : State -> Label -> Option State} {actor : Label -> Actor}
  {condition : State -> Label -> Prop} {Invariant Goal : State -> Prop} {rank : State -> Nat}
  {Busy : State -> Actor -> Prop} {start : State} {schedule : Nat -> Label}

/-- It is enough that every step lowers the rank, unless it changes nothing and its actor is
not busy. -/
theorem descending
    (preserved : forall state label next, Invariant state -> condition state label ->
      step state label = some next -> Invariant next)
    (descends : forall state label next, Invariant state -> condition state label ->
      step state label = some next ->
        rank next < rank state ∨ next = state ∧ ¬ Busy state (actor label))
    (enabled : forall state label, Invariant state -> condition state label ->
      Busy state (actor label) -> Exists fun next => step state label = some next)
    (somebody : forall state, Invariant state -> ¬ Goal state -> Exists fun who => Busy state who) :
    Ranked step actor condition Invariant Goal rank Busy where
  preserved := preserved
  lowers := by
    intro state label invariant met busy
    rcases enabled state label invariant met busy with ⟨next, moved⟩
    rcases descends state label next invariant met moved with lower | ⟨-, idle⟩
    · exact ⟨next, moved, lower⟩
    · exact absurd busy idle
  keeps := by
    intro state label next invariant met _ moved
    rcases descends state label next invariant met moved with lower | ⟨same, -⟩
    · exact Nat.le_of_lt lower
    · exact Nat.le_of_eq (congrArg rank same)
  stays := by
    intro state label next who invariant met busy _ moved
    rcases descends state label next invariant met moved with lower | ⟨same, -⟩
    · exact Or.inr lower
    · exact Or.inl (same ▸ busy)
  somebody := somebody

/-- No label raises the rank. -/
theorem monotone (ranked : Ranked step actor condition Invariant Goal rank Busy)
    {state next : State} {label : Label} (invariant : Invariant state)
    (met : condition state label) (moved : step state label = some next) :
    rank next ≤ rank state := by
  by_cases busy : Busy state (actor label)
  · rcases ranked.lowers state label invariant met busy with ⟨after, performed, lower⟩
    rw [Option.some.inj (moved.symm.trans performed)]
    exact Nat.le_of_lt lower
  · exact ranked.keeps state label next invariant met busy moved

theorem trace_monotone (ranked : Ranked step actor condition Invariant Goal rank Busy)
    (initially : Invariant start)
    (met : forall n, condition (trace step start schedule n) (schedule n)) (n : Nat) :
    rank (trace step start schedule (n + 1)) ≤ rank (trace step start schedule n) := by
  have invariant := trace_invariant ranked.preserved initially met n
  cases moved : step (trace step start schedule n) (schedule n) with
  | none => exact Nat.le_of_eq (congrArg rank (trace_of_none moved))
  | some next =>
      rw [trace_of_some moved]
      exact ranked.monotone invariant (met n) moved

/-- A busy actor stays busy until it moves or the rank falls. -/
theorem waits (ranked : Ranked step actor condition Invariant Goal rank Busy)
    (initially : Invariant start)
    (met : forall n, condition (trace step start schedule n) (schedule n))
    {who : Actor} {n : Nat} (busy : Busy (trace step start schedule n) who) (distance : Nat)
    (others : forall passed, passed < distance -> actor (schedule (n + passed)) ≠ who) :
    (Busy (trace step start schedule (n + distance)) who ∨
        rank (trace step start schedule (n + distance)) < rank (trace step start schedule n)) ∧
      rank (trace step start schedule (n + distance)) ≤ rank (trace step start schedule n) := by
  induction distance with
  | zero => exact ⟨Or.inl busy, Nat.le_refl _⟩
  | succ distance inductionHypothesis =>
      have before := inductionHypothesis
        (fun passed earlier => others passed (Nat.lt_succ_of_lt earlier))
      have invariant := trace_invariant ranked.preserved initially met (n + distance)
      have falls := ranked.trace_monotone initially met (n + distance)
      refine ⟨?_, Nat.le_trans falls before.2⟩
      rcases before.1 with waiting | lower
      · cases moved : step (trace step start schedule (n + distance)) (schedule (n + distance)) with
        | none =>
            rw [← Nat.add_assoc, trace_of_none moved]
            exact Or.inl waiting
        | some next =>
            rw [← Nat.add_assoc, trace_of_some moved]
            rcases ranked.stays _ _ _ _ invariant (met _) waiting
              (others distance (Nat.lt_succ_self _)) moved with still | lower
            · exact Or.inl still
            · exact Or.inr (Nat.lt_of_lt_of_le lower before.2)
      · exact Or.inr (Nat.lt_of_le_of_lt falls lower)

/-- Short of the goal the rank falls sooner or later. -/
theorem falls (ranked : Ranked step actor condition Invariant Goal rank Busy)
    (initially : Invariant start)
    (met : forall n, condition (trace step start schedule n) (schedule n))
    (fair : Fair actor schedule) {n : Nat} (short : ¬ Goal (trace step start schedule n)) :
    Exists fun m => rank (trace step start schedule m) < rank (trace step start schedule n) := by
  classical
  have invariant := trace_invariant ranked.preserved initially met
  rcases ranked.somebody _ (invariant n) short with ⟨who, busy⟩
  have comes : Exists fun distance => actor (schedule (n + distance)) = who := by
    rcases fair who n with ⟨m, later, mover⟩
    refine ⟨m - n, ?_⟩
    rw [Nat.add_sub_cancel' later]
    exact mover
  have waited := ranked.waits initially met busy (Nat.find comes)
    (fun passed earlier => Nat.find_min comes earlier)
  rcases waited.1 with waiting | lower
  swap
  · exact ⟨n + Nat.find comes, lower⟩
  have moverBusy : Busy (trace step start schedule (n + Nat.find comes))
      (actor (schedule (n + Nat.find comes))) := by
    rw [Nat.find_spec comes]
    exact waiting
  rcases ranked.lowers _ _ (invariant _) (met _) moverBusy with ⟨next, moved, lower⟩
  refine ⟨n + Nat.find comes + 1, ?_⟩
  rw [trace_of_some moved]
  exact Nat.lt_of_lt_of_le lower waited.2

/-- Every fair schedule that meets the condition reaches the goal. -/
theorem reaches (ranked : Ranked step actor condition Invariant Goal rank Busy)
    (initially : Invariant start)
    (met : forall n, condition (trace step start schedule n) (schedule n))
    (fair : Fair actor schedule) : Exists fun n => Goal (trace step start schedule n) := by
  have descends : forall bound n, rank (trace step start schedule n) ≤ bound ->
      Exists fun m => Goal (trace step start schedule m) := by
    intro bound
    induction bound with
    | zero =>
        intro n bounded
        by_cases goal : Goal (trace step start schedule n)
        · exact ⟨n, goal⟩
        · rcases ranked.falls initially met fair goal with ⟨m, lower⟩
          omega
    | succ bound inductionHypothesis =>
        intro n bounded
        by_cases goal : Goal (trace step start schedule n)
        · exact ⟨n, goal⟩
        · rcases ranked.falls initially met fair goal with ⟨m, lower⟩
          exact inductionHypothesis m (by omega)
  exact descends _ 0 (Nat.le_refl _)

end Ranked

/-! ## Failures that are never made good -/

/-- A step keeps what is known, and after it somebody waits for ever only if somebody did
before or if it fails. -/
structure Follows (Invariant Lost : State -> Prop) (state next : State) (fails : Prop) : Prop where
  sound : Invariant next
  lost : Lost next ↔ Lost state ∨ fails

theorem Follows.congr {Invariant Lost : State -> Prop} {state next : State}
    {fails otherwise : Prop} (follows : Follows Invariant Lost state next fails)
    (same : fails ↔ otherwise) : Follows Invariant Lost state next otherwise :=
  ⟨follows.sound, follows.lost.trans (or_congr_right same)⟩

/-- A step that changes nothing fails nowhere. -/
theorem Follows.same {Invariant Lost : State -> Prop} {state : State} (invariant : Invariant state) :
    Follows Invariant Lost state state False :=
  ⟨invariant, (or_iff_left not_false).symm⟩

/-- A failing step dooms the system: nothing else does, and what is lost stays lost. -/
structure Fated (step : State -> Label -> Option State) (Invariant Lost Goal : State -> Prop)
    (Fails : State -> Label -> Prop) : Prop where
  follows : forall state label next, Invariant state -> step state label = some next ->
    Follows Invariant Lost state next (Fails state label)
  moves : forall state label, Fails state label -> Exists fun next => step state label = some next
  stays : forall state label next, Goal state -> step state label = some next -> Goal next
  apart : forall state, Invariant state -> Lost state -> ¬ Goal state

namespace Fated

variable {step : State -> Label -> Option State} {actor : Label -> Actor}
  {Invariant Lost Goal : State -> Prop} {Fails : State -> Label -> Prop} {rank : State -> Nat}
  {Busy : State -> Actor -> Prop} {start : State} {schedule : Nat -> Label}

/-- Without a failure nothing gets lost. -/
theorem preserved (fated : Fated step Invariant Lost Goal Fails) {state next : State}
    {label : Label} (before : Invariant state ∧ ¬ Lost state) (works : ¬ Fails state label)
    (moved : step state label = some next) : Invariant next ∧ ¬ Lost next := by
  have follows := fated.follows state label next before.1 moved
  refine ⟨follows.sound, fun lost => ?_⟩
  rcases follows.lost.mp lost with earlier | now
  · exact before.2 earlier
  · exact works now

theorem trace_keeps (fated : Fated step Invariant Lost Goal Fails) (initially : Invariant start)
    (n : Nat) : Invariant (trace step start schedule n) :=
  trace_invariant (fun state label next before (_ : True) moved =>
    (fated.follows state label next before moved).sound) initially (fun _ => trivial) n

/-- A fair schedule reaches the goal if and only if no step of it fails. -/
theorem reaches_iff (fated : Fated step Invariant Lost Goal Fails)
    (ranked : Ranked step actor (fun state label => ¬ Fails state label)
      (fun state => Invariant state ∧ ¬ Lost state) Goal rank Busy)
    (initially : Invariant start ∧ ¬ Lost start) (fair : Fair actor schedule) :
    (Exists fun n => Goal (trace step start schedule n)) ↔
      forall n, ¬ Fails (trace step start schedule n) (schedule n) := by
  constructor
  · rintro ⟨n, goal⟩ m fails
    have invariant : forall n, Invariant (trace step start schedule n) :=
      fated.trace_keeps initially.1
    have lost : Lost (trace step start schedule (m + 1)) := by
      rcases fated.moves _ _ fails with ⟨next, moved⟩
      rw [trace_of_some moved]
      exact (fated.follows _ _ _ (invariant m) moved).lost.mpr (Or.inr fails)
    have later : Invariant (trace step start schedule (m + 1 + n)) ∧
        Lost (trace step start schedule (m + 1 + n)) :=
      trace_stays
        (fun _ _ _ (before : Invariant _ ∧ Lost _) moved =>
          ⟨(fated.follows _ _ _ before.1 moved).sound,
            (fated.follows _ _ _ before.1 moved).lost.mpr (Or.inl before.2)⟩)
        ⟨invariant (m + 1), lost⟩ n
    have reached : Goal (trace step start schedule (n + (m + 1))) :=
      trace_stays (fun _ _ _ before moved => fated.stays _ _ _ before moved) goal (m + 1)
    rw [Nat.add_comm] at reached
    exact fated.apart _ later.1 later.2 reached
  · intro works
    exact ranked.reaches initially works fair

end Fated
end Fairness
end OpenAmpReference
