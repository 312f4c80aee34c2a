import Mathlib.Data.List.AList
import Mathlib.Tactic.Common

namespace OpenAmpReference
namespace LinkedHeap

/-!
# Singly linked lists on a heap

A heap holds the live nodes by address, so reading a node that was freed finds
nothing.  A chain relates a pointer to the sequence of nodes that is reached
from it.  The operations are those of a queue that keeps only its head: a node
is appended behind the last one, which a traversal finds, and the first node
is unlinked and freed.
-/

universe u

variable {Value : Type u}

/-- A node, with the pointer to the next one. -/
structure Cell (Value : Type u) where
  value : Value
  next : Option Nat
  deriving DecidableEq, Repr

/-- The live nodes. -/
abbrev Heap (Value : Type u) := AList fun _ : Nat => Cell Value

/-- The nodes that are reached from a pointer, in order. -/
inductive Chain (heap : Heap Value) : Option Nat -> List (Nat × Value) -> Prop
  | nil : Chain heap none []
  | cons {address : Nat} {value : Value} {next : Option Nat} {rest : List (Nat × Value)}
      (here : heap.lookup address = some { value := value, next := next })
      (later : Chain heap next rest) : Chain heap (some address) ((address, value) :: rest)

/-- The addresses of a sequence of nodes. -/
def addresses (nodes : List (Nat × Value)) : List Nat :=
  nodes.map Prod.fst

@[simp] theorem addresses_nil : addresses ([] : List (Nat × Value)) = [] := rfl

@[simp] theorem addresses_cons (node : Nat × Value) (nodes : List (Nat × Value)) :
    addresses (node :: nodes) = node.1 :: addresses nodes := rfl

@[simp] theorem addresses_append (first second : List (Nat × Value)) :
    addresses (first ++ second) = addresses first ++ addresses second :=
  List.map_append

namespace Chain

variable {heap other : Heap Value} {head : Option Nat} {nodes : List (Nat × Value)}

/-- A chain depends on its own nodes alone. -/
theorem congr (chain : Chain heap head nodes)
    (same : forall address, address ∈ addresses nodes ->
      other.lookup address = heap.lookup address) : Chain other head nodes := by
  induction chain with
  | nil => exact nil
  | cons here _ inductionHypothesis =>
      refine cons ((same _ (List.mem_cons_self ..)).trans here) (inductionHypothesis ?_)
      intro address later
      exact same address (List.mem_cons_of_mem _ later)

/-- The nodes of a chain are live. -/
theorem live (chain : Chain heap head nodes) {address : Nat}
    (listed : address ∈ addresses nodes) : address ∈ heap := by
  induction chain with
  | nil => cases listed
  | cons here _ inductionHypothesis =>
      rcases List.mem_cons.mp listed with rfl | later
      · exact AList.lookup_isSome.mp (Option.isSome_of_eq_some here)
      · exact inductionHypothesis later

/-- A pointer determines its chain. -/
theorem unique {others : List (Nat × Value)} (chain : Chain heap head nodes)
    (second : Chain heap head others) : nodes = others := by
  induction chain generalizing others with
  | nil =>
      cases second
      rfl
  | cons here _ inductionHypothesis =>
      cases second with
      | cons again later =>
          have same := Option.some.inj (here.symm.trans again)
          cases same
          rw [inductionHypothesis later]

/-- The chain from a node in the middle of a chain. -/
theorem suffix {front : List (Nat × Value)} {node : Nat × Value} {rest : List (Nat × Value)}
    (chain : Chain heap head (front ++ node :: rest)) :
    Chain heap (some node.1) (node :: rest) := by
  induction front generalizing head with
  | nil =>
      cases chain with
      | cons here later => exact cons here later
  | cons _ _ inductionHypothesis =>
      cases chain with
      | cons _ later => exact inductionHypothesis later

/-- A chain that ends visits no node twice. -/
theorem nodup (chain : Chain heap head nodes) : (addresses nodes).Nodup := by
  induction chain with
  | nil => exact List.nodup_nil
  | @cons address value next rest here later inductionHypothesis =>
      refine List.nodup_cons.mpr ⟨?_, inductionHypothesis⟩
      intro again
      rcases List.mem_map.mp again with ⟨node, listed, same⟩
      rcases List.append_of_mem listed with ⟨front, back, split⟩
      cases (show node.1 = address from same)
      have inner : Chain heap (some node.1) (node :: back) := by
        rw [split] at later
        exact later.suffix
      have loop := congrArg List.length (inner.unique (cons here later))
      rw [split] at loop
      simp only [List.length_cons, List.length_append] at loop
      omega

/-- A chain is no longer than the heap. -/
theorem length_le (chain : Chain heap head nodes) : nodes.length ≤ heap.entries.length := by
  have within : addresses nodes ⊆ heap.keys := fun _ listed =>
    AList.mem_keys.mp (chain.live listed)
  have bound := (List.subperm_of_subset chain.nodup within).length_le
  rwa [addresses, AList.keys, List.keys, List.length_map, List.length_map] at bound

/-- The first node of a chain. -/
theorem lookup_head {heap : Heap Value} {first : Nat} {node : Nat × Value}
    {rest : List (Nat × Value)} (chain : Chain heap (some first) (node :: rest)) :
    first = node.1 ∧
      Exists fun next => heap.lookup first = some { value := node.2, next := next } ∧
        Chain heap next rest := by
  cases chain with
  | cons here later => exact ⟨rfl, _, here, later⟩

end Chain

/-! ## Traversal -/

/-- The last node that is reached from a node, by following the pointers. -/
def lastFrom (heap : Heap Value) : Nat -> Nat -> Option Nat
  | 0, _ => none
  | fuel + 1, address =>
      match heap.lookup address with
      | none => none
      | some cell =>
          match cell.next with
          | none => some address
          | some next => lastFrom heap fuel next

/-- The traversal of a chain ends at its last node. -/
theorem lastFrom_chain {heap : Heap Value} {first : Nat} {front : List (Nat × Value)}
    {last : Nat × Value} {fuel : Nat} (chain : Chain heap (some first) (front ++ [last]))
    (enough : front.length < fuel) : lastFrom heap fuel first = some last.1 := by
  induction front generalizing first fuel with
  | nil =>
      cases fuel with
      | zero => exact absurd enough (Nat.not_lt_zero _)
      | succ fuel =>
          cases chain with
          | cons here later =>
              cases later
              simp only [lastFrom, here]
  | cons node rest inductionHypothesis =>
      cases fuel with
      | zero => exact absurd enough (Nat.not_lt_zero _)
      | succ fuel =>
          cases chain with
          | @cons _ _ next _ here later =>
              cases next with
              | none =>
                  have empty := later.unique Chain.nil
                  exact absurd empty (List.append_ne_nil_of_right_ne_nil _ (List.cons_ne_nil _ _))
              | some next =>
                  simp only [lastFrom, here]
                  exact inductionHypothesis later (Nat.lt_of_succ_lt_succ enough)

/-! ## Appending -/

/-- `node->next = next` -/
def setNext (heap : Heap Value) (address next : Nat) : Option (Heap Value) :=
  (heap.lookup address).map fun cell => heap.insert address { cell with next := some next }

/-- Put a new node behind the last one. -/
def append (heap : Heap Value) (head : Option Nat) (address : Nat) (value : Value) :
    Option (Heap Value × Option Nat) :=
  let allocated := heap.insert address { value := value, next := none }
  match head with
  | none => some (allocated, some address)
  | some first =>
      (lastFrom allocated allocated.entries.length first).bind fun last =>
        (setNext allocated last address).map fun linked => (linked, some first)

namespace Chain

/-- A chain whose last node is linked to a new one. -/
theorem snoc {heap other : Heap Value} {head : Option Nat} {front : List (Nat × Value)}
    {last : Nat × Value} {address : Nat} {value : Value}
    (chain : Chain heap head (front ++ [last]))
    (same : forall place, place ∈ addresses front -> other.lookup place = heap.lookup place)
    (linked : other.lookup last.1 = some { value := last.2, next := some address })
    (fresh : other.lookup address = some { value := value, next := none }) :
    Chain other head (front ++ [last] ++ [(address, value)]) := by
  induction front generalizing head with
  | nil =>
      cases chain with
      | cons here later => exact cons linked (cons fresh nil)
  | cons node rest inductionHypothesis =>
      cases chain with
      | cons here later =>
          refine cons ((same _ (List.mem_cons_self ..)).trans here) (inductionHypothesis later ?_)
          intro place listed
          exact same place (List.mem_cons_of_mem _ listed)

/-- Appending a fresh node succeeds and extends the chain by it. -/
theorem append_spec {heap : Heap Value} {head : Option Nat} {nodes : List (Nat × Value)}
    (chain : Chain heap head nodes) {address : Nat} (fresh : address ∉ heap) (value : Value) :
    Exists fun result : Heap Value × Option Nat =>
      append heap head address value = some result ∧
        Chain result.1 result.2 (nodes ++ [(address, value)]) ∧
        forall place, place ∈ result.1 ↔ place = address ∨ place ∈ heap := by
  have kept : Chain (heap.insert address { value := value, next := none }) head nodes := by
    refine chain.congr fun place listed => AList.lookup_insert_ne ?_
    rintro rfl
    exact fresh (chain.live listed)
  rcases List.eq_nil_or_concat nodes with rfl | ⟨front, last, rfl⟩
  · cases chain
    exact ⟨_, rfl, cons (AList.lookup_insert heap) nil, fun place => AList.mem_insert heap⟩
  · rw [List.concat_eq_append] at kept chain ⊢
    rcases head with _ | first
    · have empty := chain.unique nil
      exact absurd empty (List.append_ne_nil_of_right_ne_nil _ (List.cons_ne_nil _ _))
    have enough : front.length < (heap.insert address
        { value := value, next := none : Cell Value }).entries.length := by
      have bound := kept.length_le
      rwa [List.length_append] at bound
    rcases kept.suffix.lookup_head with ⟨_, next, atLast, _⟩
    have apart : last.1 ≠ address := by
      rintro rfl
      refine fresh (chain.live ?_)
      rw [addresses_append]
      exact List.mem_append_right _ (List.mem_cons_self ..)
    have linked : append heap (some first) address value =
        some ((heap.insert address { value := value, next := none }).insert last.1
          { value := last.2, next := some address }, some first) := by
      simp only [append, lastFrom_chain kept enough, Option.bind_some, setNext, atLast,
        Option.map_some]
    refine ⟨_, linked, ?_, ?_⟩
    · refine kept.snoc (fun place listed => AList.lookup_insert_ne ?_) (AList.lookup_insert _) ?_
      · rintro rfl
        have twice := kept.nodup
        rw [addresses_append, addresses_cons, addresses_nil] at twice
        exact (List.nodup_append.mp twice).2.2 _ listed _ (List.mem_cons_self ..) rfl
      · rw [AList.lookup_insert_ne apart.symm, AList.lookup_insert]
    · intro place
      rw [AList.mem_insert, AList.mem_insert]
      constructor
      · rintro (rfl | later)
        · exact Or.inr (AList.mem_insert heap |>.mp
            (AList.lookup_isSome.mp (Option.isSome_of_eq_some atLast)) |>.resolve_left apart)
        · exact later
      · exact Or.inr

end Chain

/-! ## Removing the first node -/

/-- Unlink the first node and free it. -/
def dequeue (heap : Heap Value) (head : Option Nat) : Option (Heap Value × Option Nat) :=
  head.bind fun first =>
    (heap.lookup first).map fun cell => (heap.erase first, cell.next)

namespace Chain

theorem head_eq {heap : Heap Value} {head : Option Nat} {node : Nat × Value}
    {rest : List (Nat × Value)} (chain : Chain heap head (node :: rest)) : head = some node.1 := by
  cases chain
  rfl

theorem head_of_nil {heap : Heap Value} {head : Option Nat}
    (chain : Chain heap head ([] : List (Nat × Value))) : head = none := by
  cases chain
  rfl

/-- The rest of the chain is not affected when its first node is freed. -/
theorem dequeue_spec {heap : Heap Value} {head : Option Nat} {node : Nat × Value}
    {rest : List (Nat × Value)} (chain : Chain heap head (node :: rest)) :
    Exists fun result : Heap Value × Option Nat =>
      dequeue heap head = some result ∧ Chain result.1 result.2 rest ∧
        forall place, place ∈ result.1 ↔ place ≠ node.1 ∧ place ∈ heap := by
  have distinct := (List.nodup_cons.mp chain.nodup).1
  cases chain with
  | @cons address value next _ here later =>
      have freed : dequeue heap (some address) = some (heap.erase address, next) := by
        simp only [dequeue, Option.bind_some, here, Option.map_some]
      refine ⟨_, freed, ?_, fun place => AList.mem_erase⟩
      refine later.congr fun place listed => AList.lookup_erase_ne ?_
      rintro rfl
      exact distinct listed

end Chain
end LinkedHeap
end OpenAmpReference
