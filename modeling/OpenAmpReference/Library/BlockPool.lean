import Mathlib.Algebra.Group.Nat.Defs
import Mathlib.Data.List.Basic
import Mathlib.Tactic.Common
import OpenAmpReference.Library.Transition

namespace OpenAmpReference

/-!
# Extents of memory and a pool of consecutive blocks

An extent is a half-open range of addresses.  The pool hands out its extent from the
front, block behind block, for as long as the rest suffices; nothing is ever given back.
-/

/-- The addresses from `start` on, `length` of them. -/
structure Extent where
  start : Nat
  length : Nat
  deriving DecidableEq, Repr

namespace Extent

def finish (extent : Extent) : Nat :=
  extent.start + extent.length

/-- The two extents share no address. -/
def Apart (first second : Extent) : Prop :=
  first.finish ≤ second.start ∨ second.finish ≤ first.start

def Within (inner outer : Extent) : Prop :=
  outer.start ≤ inner.start ∧ inner.finish ≤ outer.finish

/-- The two extents share an address. -/
def Meets (first second : Extent) : Prop :=
  Exists fun address => (first.start ≤ address ∧ address < first.finish) ∧
    second.start ≤ address ∧ address < second.finish

instance (first second : Extent) : Decidable (first.Apart second) :=
  inferInstanceAs (Decidable (_ ∨ _))

instance (inner outer : Extent) : Decidable (inner.Within outer) :=
  inferInstanceAs (Decidable (_ ∧ _))

theorem Within.trans {inner middle outer : Extent} (first : inner.Within middle)
    (second : middle.Within outer) : inner.Within outer :=
  ⟨Nat.le_trans second.1 first.1, Nat.le_trans first.2 second.2⟩

/-- Each of them begins before the other one ends. -/
theorem Meets.crossed {first second : Extent} (meets : first.Meets second) :
    first.start < second.finish ∧ second.start < first.finish := by
  rcases meets with ⟨address, ⟨fromFirst, toFirst⟩, fromSecond, toSecond⟩
  exact ⟨Nat.lt_of_le_of_lt fromFirst toSecond, Nat.lt_of_le_of_lt fromSecond toFirst⟩

end Extent

/-- The pool's extent and how much of it has been handed out. -/
structure BlockPool where
  extent : Extent
  used : Nat
  used_le : used ≤ extent.length

namespace BlockPool

/-- A pool that has handed out nothing. -/
def fresh (extent : Extent) : BlockPool where
  extent := extent
  used := 0
  used_le := Nat.zero_le _

/-- What has been handed out, as one extent. -/
def front (pool : BlockPool) : Extent where
  start := pool.extent.start
  length := pool.used

/-- The next block of the size, unless it is empty or the rest is too short. -/
def get (pool : BlockPool) (size : Nat) : Option (Extent × BlockPool) :=
  if fits : 0 < size ∧ pool.used + size ≤ pool.extent.length then
    some ({ start := pool.extent.start + pool.used, length := size },
      { extent := pool.extent, used := pool.used + size, used_le := fits.2 })
  else none

theorem get_of_room {pool : BlockPool} {size : Nat} (positive : 0 < size)
    (room : pool.used + size ≤ pool.extent.length) :
    pool.get size = some ({ start := pool.front.finish, length := size },
      { extent := pool.extent, used := pool.used + size, used_le := room }) :=
  dif_pos ⟨positive, room⟩

theorem get_eq_some {pool after : BlockPool} {size : Nat} {block : Extent} :
    pool.get size = some (block, after) ↔
      0 < size ∧ block = { start := pool.front.finish, length := size } ∧
        after.extent = pool.extent ∧ after.used = pool.used + size := by
  constructor
  · intro got
    simp only [get, Option.dite_none_right_eq_some, Option.some.injEq, Prod.mk.injEq] at got
    rcases got with ⟨fits, rfl, rfl⟩
    exact ⟨fits.1, rfl, rfl, rfl⟩
  · rintro ⟨positive, rfl, extent, used⟩
    have room := after.used_le
    rw [extent, used] at room
    rw [get_of_room positive room]
    cases after
    simp only at extent used
    subst extent used
    rfl

theorem get_eq_none {pool : BlockPool} {size : Nat} :
    pool.get size = none ↔ size = 0 ∨ pool.extent.length < pool.used + size := by
  rw [get, dite_eq_right_iff]
  constructor
  · intro refused
    rcases Nat.eq_zero_or_pos size with empty | positive
    · exact Or.inl empty
    · exact Or.inr (Nat.lt_of_not_le (fun room =>
        Option.some_ne_none _ (refused ⟨positive, room⟩)))
  · rintro (empty | short) fits
    · exact absurd empty (Nat.ne_of_gt fits.1)
    · exact absurd fits.2 (Nat.not_le.mpr short)

/-- What a pool of the length has handed out after the requests: those that fit are
granted. -/
def handedOut (length : Nat) (sizes : List Nat) : Nat :=
  sizes.foldl (fun used size => if 0 < size ∧ used + size ≤ length then used + size else used) 0

/-! ## A client that asks for one block after another -/

/-- The pool and the blocks the client has got from it. -/
structure Client where
  pool : BlockPool
  blocks : List Extent

namespace Client

def start (extent : Extent) : Client where
  pool := fresh extent
  blocks := []

/-- A refused request changes nothing. -/
def request (client : Client) (size : Nat) : Client :=
  match client.pool.get size with
  | none => client
  | some (block, pool) => { pool := pool, blocks := client.blocks ++ [block] }

theorem request_refused {client : Client} {size : Nat} (refused : client.pool.get size = none) :
    client.request size = client := by
  rw [request, refused]

theorem request_granted {client : Client} {size : Nat} {block : Extent} {pool : BlockPool}
    (granted : client.pool.get size = some (block, pool)) :
    client.request size = { pool := pool, blocks := client.blocks ++ [block] } := by
  rw [request, granted]

/-- Every block lies in what the pool has handed out, and no two blocks meet. -/
structure Ok (extent : Extent) (client : Client) : Prop where
  extent_eq : client.pool.extent = extent
  handedOut : forall block, block ∈ client.blocks -> block.Within client.pool.front
  apart : client.blocks.Pairwise Extent.Apart

theorem start_ok (extent : Extent) : (start extent).Ok extent :=
  ⟨rfl, fun _ member => absurd member List.not_mem_nil, List.Pairwise.nil⟩

theorem Ok.request {extent : Extent} {client : Client} (ok : client.Ok extent) (size : Nat) :
    (client.request size).Ok extent := by
  cases got : client.pool.get size with
  | none =>
      rw [request_refused got]
      exact ok
  | some answer =>
      rcases get_eq_some.mp got with ⟨_, block, same, used⟩
      have grown : client.pool.front.Within answer.2.front := by
        simp only [Extent.Within, Extent.finish, front, same, used]
        omega
      have new : answer.1.Within answer.2.front := by
        simp only [block, Extent.Within, Extent.finish, front, same, used]
        omega
      rw [request_granted got]
      refine ⟨same.trans ok.extent_eq, ?_, ?_⟩
      · rw [List.forall_mem_append, List.forall_mem_singleton]
        exact ⟨fun earlier member => (ok.handedOut earlier member).trans grown, new⟩
      · rw [List.pairwise_append]
        refine ⟨ok.apart, List.pairwise_singleton _ _, ?_⟩
        intro earlier member later last
        rw [List.mem_singleton.mp last, block]
        exact Or.inl (ok.handedOut earlier member).2

/-- All blocks lie in a range if what has been handed out does: block follows block. -/
def Fits (window : Extent) (client : Client) : Prop :=
  client.pool.used = 0 ∨ client.pool.front.Within window

/-- The same after any sequence of requests. -/
theorem Ok.requests {extent : Extent} {client : Client} (ok : client.Ok extent)
    (sizes : List Nat) : (sizes.foldl Client.request client).Ok extent := by
  induction sizes generalizing client with
  | nil => exact ok
  | cons size rest inductionHypothesis => exact inductionHypothesis (ok.request size)

end Client

/-- The blocks of one size: as many as were asked for and fit into the extent. -/
theorem requests_replicate (extent : Extent) {size : Nat} (positive : 0 < size) (count : Nat) :
    let client := (List.replicate count size).foldl Client.request (Client.start extent)
    client.pool.extent = extent ∧
      client.pool.used = size * min count (extent.length / size) ∧
      client.blocks = (List.range (min count (extent.length / size))).map
        (fun k => { start := extent.start + size * k, length := size }) := by
  induction count with
  | zero => simp only [List.replicate_zero, List.foldl_nil, Nat.zero_min, List.range_zero,
      List.map_nil, Nat.mul_zero, Client.start, fresh, and_self]
  | succ count inductionHypothesis =>
      rcases inductionHypothesis with ⟨same, used, blocks⟩
      simp only [List.replicate_succ', List.foldl_append, List.foldl_cons, List.foldl_nil]
      generalize (List.replicate count size).foldl Client.request (Client.start extent) = client
        at same used blocks
      by_cases room : count < extent.length / size
      · have before : min count (extent.length / size) = count :=
          Nat.min_eq_left (Nat.le_of_lt room)
        have after : min (count + 1) (extent.length / size) = count + 1 := Nat.min_eq_left room
        rw [before] at used blocks
        have fits : client.pool.used + size ≤ client.pool.extent.length := by
          rw [used, same, ← Nat.mul_succ, Nat.mul_comm]
          exact (Nat.le_div_iff_mul_le positive).mp room
        have next : client.pool.front.finish = extent.start + size * count := by
          rw [front, Extent.finish, same, used]
        rw [Client.request_granted (get_of_room positive fits), after, List.range_succ,
          List.map_append, ← blocks, next]
        exact ⟨same, congrArg (fun before => before + size) used, rfl⟩
      · have before : min count (extent.length / size) = extent.length / size :=
          Nat.min_eq_right (Nat.le_of_not_lt room)
        have after : min (count + 1) (extent.length / size) = extent.length / size :=
          Nat.min_eq_right (Nat.le_succ_of_le (Nat.le_of_not_lt room))
        rw [before] at used blocks
        have short : client.pool.extent.length < client.pool.used + size := by
          rw [used, same, ← Nat.mul_succ, Nat.mul_comm]
          exact (Nat.div_lt_iff_lt_mul positive).mp (Nat.lt_succ_self _)
        rw [Client.request_refused (get_eq_none.mpr (Or.inr short)), after]
        exact ⟨same, used, blocks⟩

end BlockPool
end OpenAmpReference
