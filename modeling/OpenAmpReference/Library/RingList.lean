import Mathlib.Data.List.TakeWhile
import Mathlib.Tactic.Common

namespace OpenAmpReference
namespace RingList

/-!
# Walking along a ring that is edited

A ring has a head and nodes behind it, and going on from the last node leads back to
the head.  A loop over a ring stands at a place, the head or a node, and its body may
unlink nodes and move to another place before the loop goes on.
-/

variable {Node State : Type*} [DecidableEq Node]

/-- The place behind a place, where `none` is the head. -/
def next (nodes : List Node) : Option Node -> Option Node
  | none => nodes.head?
  | some node => (nodes.dropWhile fun other => other ≠ node).tail.head?

/-- The place before a place. -/
def prev (nodes : List Node) : Option Node -> Option Node
  | none => nodes.getLast?
  | some node => (nodes.takeWhile fun other => other ≠ node).getLast?

/-- Unlink a node. -/
def del (nodes : List Node) (node : Node) : List Node :=
  nodes.erase node

theorem prev_first (node : Node) (rest : List Node) : prev (node :: rest) (some node) = none := by
  simp only [prev, ne_eq, List.takeWhile_cons, not_true_eq_false, decide_false, Bool.false_eq_true,
    if_false, List.getLast?_nil]

@[simp] theorem del_first (node : Node) (rest : List Node) : del (node :: rest) node = rest :=
  List.erase_cons_head ..

/-- The loop, where the body returns the place that it leaves the cursor at.  It ends
at the head. -/
def forEach (nodesOf : State -> List Node) (body : State -> Node -> State × Option Node) :
    Nat -> State -> Option Node -> Option State
  | 0, _, _ => none
  | _ + 1, state, none => some state
  | fuel + 1, state, some node =>
      let after := body state node
      forEach nodesOf body fuel after.1 (next (nodesOf after.1) after.2)

/-- The body unlinks the first node and steps back to the head. -/
def Unlinks (nodesOf : State -> List Node) (body : State -> Node -> State × Option Node) : Prop :=
  forall state node rest, nodesOf state = node :: rest ->
    (body state node).2 = none ∧ nodesOf (body state node).1 = rest

/-- A loop whose body unlinks visits every node once, in order, and leaves none. -/
theorem forEach_unlinks {nodesOf : State -> List Node}
    {body : State -> Node -> State × Option Node} (unlinks : Unlinks nodesOf body)
    {state : State} {nodes : List Node} (listed : nodesOf state = nodes) {fuel : Nat}
    (enough : nodes.length < fuel) :
    forEach nodesOf body fuel state (next nodes none) =
        some (nodes.foldl (fun visited node => (body visited node).1) state) ∧
      nodesOf (nodes.foldl (fun visited node => (body visited node).1) state) = [] := by
  induction nodes generalizing state fuel with
  | nil =>
      cases fuel with
      | zero => exact absurd enough (Nat.not_lt_zero _)
      | succ fuel => exact ⟨rfl, listed⟩
  | cons node rest inductionHypothesis =>
      cases fuel with
      | zero => exact absurd enough (Nat.not_lt_zero _)
      | succ fuel =>
          rcases unlinks state node rest listed with ⟨atHead, shorter⟩
          have later := inductionHypothesis shorter (Nat.lt_of_succ_lt_succ enough)
          rw [List.foldl_cons]
          refine ⟨?_, later.2⟩
          simp only [next, List.head?_cons, forEach, atHead, shorter]
          exact later.1

end RingList
end OpenAmpReference
