import Mathlib.Data.List.Basic
import Mathlib.Tactic.Common

namespace OpenAmpReference
namespace Transition

/-!
# Runs of executable step functions

A system is a partial step function: a label names who moves and what the
environment answers, and a refused label leaves no successor.  A schedule is
a finite list of labels, so quantifying over schedules quantifies over every
interleaving.  The rules below package the two inductions every development
over such a system needs: an invariant along a run, possibly a run whose
steps all meet a condition, and a forward simulation of one system by
another.
-/

variable {State Label : Type*}

/-- Perform the labels of a schedule in order.  A refused label ends the run
without a final state. -/
def run (step : State -> Label -> Option State) : State -> List Label -> Option State
  | state, [] => some state
  | state, label :: rest => (step state label).bind (fun next => run step next rest)

@[simp] theorem run_nil (step : State -> Label -> Option State) (state : State) :
    run step state [] = some state := rfl

theorem run_cons (step : State -> Label -> Option State) (state : State) (label : Label)
    (rest : List Label) :
    run step state (label :: rest) = (step state label).bind (fun next => run step next rest) := rfl

/-- The first step of a completed run, and what remains of it. -/
theorem run_cons_eq_some {step : State -> Label -> Option State} {state final : State}
    {label : Label} {rest : List Label} :
    run step state (label :: rest) = some final ↔
      Exists fun next => step state label = some next ∧ run step next rest = some final := by
  rw [run_cons, Option.bind_eq_some_iff]

theorem run_append {step : State -> Label -> Option State} {state final : State}
    (first second : List Label) :
    run step state (first ++ second) = some final ↔
      Exists fun middle => run step state first = some middle ∧
        run step middle second = some final := by
  induction first generalizing state with
  | nil => simp only [List.nil_append, run_nil, Option.some.injEq, exists_eq_left']
  | cons label rest inductionHypothesis =>
      rw [List.cons_append, run_cons_eq_some]
      constructor
      · rintro ⟨next, moved, later⟩
        rcases inductionHypothesis.mp later with ⟨middle, reached, ended⟩
        exact ⟨middle, run_cons_eq_some.mpr ⟨next, moved, reached⟩, ended⟩
      · rintro ⟨middle, reached, ended⟩
        rcases run_cons_eq_some.mp reached with ⟨next, moved, later⟩
        exact ⟨next, moved, inductionHypothesis.mpr ⟨middle, later, ended⟩⟩

/-- A single step is a run of length one. -/
theorem run_singleton {step : State -> Label -> Option State} {state next : State}
    {label : Label} (moved : step state label = some next) :
    run step state [label] = some next :=
  run_cons_eq_some.mpr ⟨next, moved, rfl⟩

/-- Every performed label of the schedule meets the condition in the state it
is performed in. -/
def Guarded (condition : State -> Label -> Prop) (step : State -> Label -> Option State) :
    State -> List Label -> Prop
  | _, [] => True
  | state, label :: rest =>
      match step state label with
      | some next => condition state label ∧ Guarded condition step next rest
      | none => True

instance guardedDecidable (condition : State -> Label -> Prop)
    [decidable : forall state label, Decidable (condition state label)]
    (step : State -> Label -> Option State) :
    (state : State) -> (schedule : List Label) -> Decidable (Guarded condition step state schedule)
  | _, [] => isTrue trivial
  | state, label :: rest =>
      match moved : step state label with
      | none => isTrue (by rw [Guarded, moved]; trivial)
      | some next =>
          have unfolded : Guarded condition step state (label :: rest) ↔
              condition state label ∧ Guarded condition step next rest := by
            rw [Guarded, moved]
          have := guardedDecidable condition step next rest
          decidable_of_iff _ unfolded.symm

theorem Guarded.cons {condition : State -> Label -> Prop}
    {step : State -> Label -> Option State} {state next : State} {label : Label}
    {rest : List Label} (guarded : Guarded condition step state (label :: rest))
    (moved : step state label = some next) :
    condition state label ∧ Guarded condition step next rest := by
  rw [Guarded, moved] at guarded
  exact guarded

/-- The invariant rule for runs whose steps all meet the condition. -/
theorem guarded_run_invariant {condition : State -> Label -> Prop}
    {step : State -> Label -> Option State} {Invariant : State -> Prop}
    (preserved : forall state label next, Invariant state -> condition state label ->
      step state label = some next -> Invariant next)
    {start final : State} {schedule : List Label} (initially : Invariant start)
    (guarded : Guarded condition step start schedule)
    (reached : run step start schedule = some final) : Invariant final := by
  induction schedule generalizing start with
  | nil => exact Option.some.inj reached ▸ initially
  | cons label rest inductionHypothesis =>
      rcases run_cons_eq_some.mp reached with ⟨next, moved, later⟩
      have parts := guarded.cons moved
      exact inductionHypothesis (preserved start label next initially parts.1 moved) parts.2 later

/-- A condition that every step meets is no restriction. -/
theorem guarded_of_met {condition : State -> Label -> Prop}
    {step : State -> Label -> Option State} (met : forall state label, condition state label)
    (state : State) (schedule : List Label) : Guarded condition step state schedule := by
  induction schedule generalizing state with
  | nil => trivial
  | cons label rest inductionHypothesis =>
      unfold Guarded
      cases step state label with
      | none => trivial
      | some next => exact ⟨met state label, inductionHypothesis next⟩

/-- A property that every step preserves holds at the end of every run that
starts with it. -/
theorem run_invariant {step : State -> Label -> Option State} {Invariant : State -> Prop}
    (preserved : forall state label next, Invariant state -> step state label = some next ->
      Invariant next)
    {start final : State} {schedule : List Label} (initially : Invariant start)
    (reached : run step start schedule = some final) : Invariant final := by
  have unrestricted : Guarded (fun _ _ => True) step start schedule :=
    guarded_of_met (fun _ _ => trivial) start schedule
  exact guarded_run_invariant (fun state label next holds _ => preserved state label next holds)
    initially unrestricted reached

/-- The property holds in every state the schedule goes through. -/
def Always (property : State -> Prop) (step : State -> Label -> Option State) :
    State -> List Label -> Prop
  | state, [] => property state
  | state, label :: rest =>
      property state ∧
        match step state label with
        | some next => Always property step next rest
        | none => True

theorem Always.head {property : State -> Prop} {step : State -> Label -> Option State}
    {state : State} {schedule : List Label} (always : Always property step state schedule) :
    property state := by
  cases schedule with
  | nil => exact always
  | cons label rest => exact always.1

theorem Always.tail {property : State -> Prop} {step : State -> Label -> Option State}
    {state next : State} {label : Label} {rest : List Label}
    (always : Always property step state (label :: rest))
    (moved : step state label = some next) : Always property step next rest := by
  have tail := always.2
  rw [moved] at tail
  exact tail

/-- What holds throughout a schedule holds at the end of the run. -/
theorem Always.last {property : State -> Prop} {step : State -> Label -> Option State}
    {start final : State} {schedule : List Label}
    (always : Always property step start schedule)
    (reached : run step start schedule = some final) : property final := by
  induction schedule generalizing start with
  | nil => exact Option.some.inj reached ▸ always.head
  | cons label rest inductionHypothesis =>
      rcases run_cons_eq_some.mp reached with ⟨next, moved, later⟩
      exact inductionHypothesis (always.tail moved) later

/-- The rule for schedules whose steps all meet the condition. -/
theorem always_of_guarded {condition : State -> Label -> Prop} {property : State -> Prop}
    {step : State -> Label -> Option State} (Invariant : State -> Prop)
    (holds : forall state, Invariant state -> property state)
    (preserved : forall state label next, Invariant state -> condition state label ->
      step state label = some next -> Invariant next)
    {start : State} (schedule : List Label) (initially : Invariant start)
    (guarded : Guarded condition step start schedule) : Always property step start schedule := by
  induction schedule generalizing start with
  | nil => exact holds start initially
  | cons label rest inductionHypothesis =>
      refine ⟨holds start initially, ?_⟩
      cases moved : step start label with
      | none => trivial
      | some next =>
          have parts := guarded.cons moved
          exact inductionHypothesis (preserved start label next initially parts.1 moved) parts.2

/-- A property that follows from an invariant holds throughout every schedule. -/
theorem always_of_invariant {property : State -> Prop} {step : State -> Label -> Option State}
    (Invariant : State -> Prop) (holds : forall state, Invariant state -> property state)
    (preserved : forall state label next, Invariant state -> step state label = some next ->
      Invariant next)
    {start : State} (schedule : List Label) (initially : Invariant start) :
    Always property step start schedule := by
  have unrestricted : Guarded (fun _ _ => True) step start schedule :=
    guarded_of_met (fun _ _ => trivial) start schedule
  exact always_of_guarded Invariant holds
    (fun state label next kept _ => preserved state label next kept) schedule initially
    unrestricted

/-- A step that does not meet the condition dooms its run: what holds from then on does
not hold at the end of the run, so all steps have met the condition. -/
theorem guarded_of_doomed {condition : State -> Label -> Prop}
    {step : State -> Label -> Option State} (Invariant Doomed : State -> Prop)
    (preserved : forall state label next, Invariant state -> condition state label ->
      step state label = some next -> Invariant next)
    (dooms : forall state label next, Invariant state -> ¬ condition state label ->
      step state label = some next -> Doomed next)
    (stays : forall state label next, Doomed state -> step state label = some next ->
      Doomed next)
    {start final : State} {schedule : List Label} (initially : Invariant start)
    (reached : run step start schedule = some final) (saved : ¬ Doomed final) :
    Guarded condition step start schedule := by
  induction schedule generalizing start with
  | nil => trivial
  | cons label rest inductionHypothesis =>
      rcases run_cons_eq_some.mp reached with ⟨next, moved, later⟩
      have met : condition start label := by
        by_contra unmet
        exact saved (run_invariant stays (dooms start label next initially unmet moved) later)
      simp only [Guarded, moved]
      exact ⟨met, inductionHypothesis (preserved start label next initially met moved) later⟩

/-- An exact condition for a property of whole runs: steps that meet it keep
an invariant which implies the property, and a step that does not meet it
leads at once to a state without the property. -/
theorem always_iff_guarded {condition : State -> Label -> Prop} {property : State -> Prop}
    {step : State -> Label -> Option State} (Invariant : State -> Prop)
    (holds : forall state, Invariant state -> property state)
    (preserved : forall state label next, Invariant state -> condition state label ->
      step state label = some next -> Invariant next)
    (needed : forall state label next, Invariant state -> step state label = some next ->
      property next -> condition state label)
    {start : State} (schedule : List Label) (initially : Invariant start) :
    Always property step start schedule ↔ Guarded condition step start schedule := by
  induction schedule generalizing start with
  | nil => exact ⟨fun _ => trivial, fun _ => holds start initially⟩
  | cons label rest inductionHypothesis =>
      cases moved : step start label with
      | none =>
          simp only [Always, Guarded, moved, and_true, iff_true]
          exact holds start initially
      | some next =>
          simp only [Always, Guarded, moved]
          constructor
          · rintro ⟨_, later⟩
            have met := needed start label next initially moved later.head
            exact ⟨met,
              (inductionHypothesis (preserved start label next initially met moved)).mp later⟩
          · rintro ⟨met, later⟩
            exact ⟨holds start initially,
              (inductionHypothesis (preserved start label next initially met moved)).mpr later⟩

/-! ## Forward simulation -/

variable {Abstract Event : Type*}

/-- Each concrete step that meets the condition is matched by some run of the
abstract system which restores the relation. -/
def Simulates (condition : State -> Label -> Prop) (step : State -> Label -> Option State)
    (abstractStep : Abstract -> Event -> Option Abstract)
    (related : State -> Abstract -> Prop) : Prop :=
  forall state label next above, related state above -> condition state label ->
    step state label = some next ->
    Exists fun events => Exists fun nextAbove =>
      run abstractStep above events = some nextAbove ∧ related next nextAbove

/-- A simulated run reaches a state related to one the abstract system
reaches. -/
theorem Simulates.run {condition : State -> Label -> Prop}
    {step : State -> Label -> Option State}
    {abstractStep : Abstract -> Event -> Option Abstract}
    {related : State -> Abstract -> Prop}
    (simulates : Simulates condition step abstractStep related)
    {start final : State} {above : Abstract} {schedule : List Label}
    (initially : related start above) (guarded : Guarded condition step start schedule)
    (reached : Transition.run step start schedule = some final) :
    Exists fun events => Exists fun finalAbove =>
      Transition.run abstractStep above events = some finalAbove ∧ related final finalAbove := by
  induction schedule generalizing start above with
  | nil => exact ⟨[], above, rfl, Option.some.inj reached ▸ initially⟩
  | cons label rest inductionHypothesis =>
      rcases run_cons_eq_some.mp reached with ⟨next, moved, later⟩
      have parts := guarded.cons moved
      rcases simulates start label next above initially parts.1 moved with
        ⟨events, nextAbove, stepped, restored⟩
      rcases inductionHypothesis restored parts.2 later with
        ⟨moreEvents, finalAbove, finished, related⟩
      exact ⟨events ++ moreEvents, finalAbove,
        (run_append events moreEvents).mpr ⟨nextAbove, stepped, finished⟩, related⟩

end Transition
end OpenAmpReference
