import Mathlib.Algebra.Order.BigOperators.Group.Finset
import OpenAmpReference.LegacyApps.MatrixMultiply
import OpenAmpReference.Library.Duplex

namespace OpenAmpReference
namespace MatrixRounds

/-!
# The rounds of the matrix demonstration

The host draws two matrices of decimal digits for each of its 200 rounds, sends
them and polls until the answer has come.  The remote serves for as long as it
is not asked to stop, and the end of the host's endpoint asks it to.

A step is a call of one of the two programs or a callback within its
`platform_poll()`.  The announcements of the name service travel in the queues
with the messages, and `rand()` is any sequence of numbers.
-/

open MatrixMultiply
open Sessions (maxSize)

/-! ## Drawing the matrices -/

/-- `i_matrix`, and how many numbers have been drawn. -/
structure Workload where
  drawn : Nat
  matrices : Nat -> Matrix

namespace Workload

/-- `value` in `generate_matrices()` -/
def value (rand : Nat -> Nat) (drawn : Nat) : Nat := (rand drawn &&& 0x7F) % 10

def storeElement (rand : Nat -> Nat) (i j k : Nat) (work : Workload) : Except Fault Workload := do
  let matrix <- (work.matrices i).setElement j k (BitVec.ofNat 32 (value rand work.drawn))
  Except.ok { drawn := work.drawn + 1, matrices := Function.update work.matrices i matrix }

def generateRow (rand : Nat -> Nat) (matrixSize i j : Nat) (work : Workload) :
    Except Fault Workload :=
  CountedLoop.run (storeElement rand i j) matrixSize work

/-- `p_matrix[i].size = matrix_size` -/
def setSize (i matrixSize : Nat) (work : Workload) : Workload :=
  { work with
    matrices := Function.update work.matrices i
      { work.matrices i with size := BitVec.ofNat 32 matrixSize } }

def generateMatrix (rand : Nat -> Nat) (matrixSize i : Nat) (work : Workload) :
    Except Fault Workload :=
  CountedLoop.run (generateRow rand matrixSize i) matrixSize (work.setSize i matrixSize)

/-- `generate_matrices()` -/
def generateMatrices (rand : Nat -> Nat) (count matrixSize : Nat) (work : Workload) :
    Except Fault Workload :=
  CountedLoop.run (generateMatrix rand matrixSize) count work

/-- A full matrix of decimal digits. -/
structure Digits (matrix : Matrix) : Prop where
  size : matrix.size = BitVec.ofNat 32 maxSize
  digit : forall i j, i < maxSize -> j < maxSize -> (matrix.elements i j).toNat < 10

/-- Up to row `j` and column `k` of matrix `i` digits have been drawn. -/
structure Filled (i j k : Nat) (matrices : Nat -> Matrix) : Prop where
  earlier : forall other, other < i -> Digits (matrices other)
  size : (matrices i).size = BitVec.ofNat 32 maxSize
  rows : forall row column, row < j -> column < maxSize ->
    ((matrices i).elements row column).toNat < 10
  row : forall column, column < k -> ((matrices i).elements j column).toNat < 10

variable {rand : Nat -> Nat} {work : Workload} {i j k : Nat}

theorem value_lt (rand : Nat -> Nat) (drawn : Nat) : value rand drawn < 10 :=
  Nat.mod_lt _ (by decide)

theorem storeElement_filled (inRow : j < maxSize) (inColumn : k < maxSize)
    (filled : Filled i j k work.matrices) :
    Exists fun next => storeElement rand i j k work = Except.ok next ∧
      Filled i j (k + 1) next.matrices := by
  have small : (BitVec.ofNat 32 (value rand work.drawn)).toNat < 10 :=
    Nat.lt_of_le_of_lt (Nat.mod_le _ _) (value_lt rand work.drawn)
  refine ⟨_, by rw [storeElement, Matrix.setElement, if_pos ⟨inRow, inColumn⟩]; rfl, ?_⟩
  show Filled i j (k + 1) (Function.update work.matrices i _)
  constructor
  · intro other before
    rw [Function.update_of_ne (Nat.ne_of_lt before)]
    exact filled.earlier other before
  · rw [Function.update_self]
    exact filled.size
  · intro row column above inside
    rw [Function.update_self]
    have elsewhere : ¬ (row = j ∧ column = k) := fun here => Nat.ne_of_lt above here.1
    simp only [if_neg elsewhere]
    exact filled.rows row column above inside
  · intro column inside
    rw [Function.update_self]
    by_cases here : column = k
    · simp only [here, and_self, if_true]
      exact small
    · simp only [here, and_false, if_false]
      exact filled.row column (Nat.lt_of_le_of_ne (Nat.le_of_lt_succ inside) here)

theorem generateRow_filled (inRow : j < maxSize) (filled : Filled i j 0 work.matrices) :
    Exists fun next => generateRow rand maxSize i j work = Except.ok next ∧
      Filled i (j + 1) 0 next.matrices := by
  rcases CountedLoop.run_stages (fun k (work : Workload) => Filled i j k work.matrices)
      (fun k _ inside stage => storeElement_filled inRow inside stage) filled with
    ⟨next, performed, last⟩
  refine ⟨next, performed, last.earlier, last.size, ?_, ?_⟩
  · intro row column above inside
    rcases Nat.lt_succ_iff_lt_or_eq.mp above with before | rfl
    · exact last.rows row column before inside
    · exact last.row column inside
  · intro column inside
    exact absurd inside (Nat.not_lt_zero column)

/-- Nothing of matrix `i` has been drawn yet. -/
theorem setSize_filled (earlier : forall other, other < i -> Digits (work.matrices other)) :
    Filled i 0 0 (work.setSize i maxSize).matrices where
  earlier := by
    intro other before
    have kept : (work.setSize i maxSize).matrices other = work.matrices other :=
      Function.update_of_ne (Nat.ne_of_lt before) _ _
    rw [kept]
    exact earlier other before
  size := by
    have set : (work.setSize i maxSize).matrices i =
        { work.matrices i with size := BitVec.ofNat 32 maxSize } := Function.update_self ..
    rw [set]
  rows := fun row _ above => absurd above (Nat.not_lt_zero row)
  row := fun column inside => absurd inside (Nat.not_lt_zero column)

theorem generateMatrix_digits (earlier : forall other, other < i -> Digits (work.matrices other)) :
    Exists fun next => generateMatrix rand maxSize i work = Except.ok next ∧
      forall other, other < i + 1 -> Digits (next.matrices other) := by
  rcases CountedLoop.run_stages (fun j (work : Workload) => Filled i j 0 work.matrices)
      (fun j _ inside stage => generateRow_filled inside stage) (setSize_filled earlier) with
    ⟨next, performed, last⟩
  refine ⟨next, performed, ?_⟩
  intro other before
  rcases Nat.lt_succ_iff_lt_or_eq.mp before with less | rfl
  · exact last.earlier other less
  · exact ⟨last.size, last.rows⟩

/-- The matrices that are drawn are full and of digits, whatever `rand()` returns and
whatever was in the array. -/
theorem generateMatrices_digits (rand : Nat -> Nat) (count : Nat) (work : Workload) :
    Exists fun next => generateMatrices rand count maxSize work = Except.ok next ∧
      forall i, i < count -> Digits (next.matrices i) :=
  CountedLoop.run_stages (fun i (work : Workload) => forall other, other < i ->
      Digits (work.matrices other))
    (fun _ _ _ stage => generateMatrix_digits stage)
    (fun other inside => absurd inside (Nat.not_lt_zero other))

end Workload

open Workload (Digits)

/-- The result is the product over the integers. -/
structure IsProduct (operands : Matrix × Matrix) (result : Matrix) : Prop where
  size : result.size = BitVec.ofNat 32 maxSize
  element : forall i j, i < maxSize -> j < maxSize ->
    (result.elements i j).toNat =
      ∑ k ∈ Finset.range maxSize,
        (operands.1.elements i k).toNat * (operands.2.elements k j).toNat

/-- No sum of products of digits wraps around. -/
theorem isProduct_of_digits {m n : Matrix} (left : Digits m) (right : Digits n) :
    IsProduct (m, n) (Matrix.ofBytes (product m n).bytes) where
  size := by
    rw [Matrix.ofBytes_bytes_size]
    exact left.size
  element := by
    intro i j row column
    have rows : m.size.toNat = maxSize := by
      rw [left.size]
      rfl
    have columns : n.size.toNat = maxSize := by
      rw [right.size]
      rfl
    have bounded : (∑ k ∈ Finset.range maxSize,
        (m.elements i k).toNat * (n.elements k j).toNat) ≤ maxSize * 81 := by
      have each : forall k, k ∈ Finset.range maxSize ->
          (m.elements i k).toNat * (n.elements k j).toNat ≤ 81 := by
        intro k inside
        have first := left.digit i k row (Finset.mem_range.mp inside)
        have second := right.digit k j (Finset.mem_range.mp inside) column
        exact Nat.mul_le_mul (Nat.le_of_lt_succ first) (Nat.le_of_lt_succ second)
      have total := Finset.sum_le_card_nsmul (Finset.range maxSize) _ 81 each
      rwa [Finset.card_range] at total
    rw [Matrix.ofBytes_bytes_elements _ row column, product_toNat, trueProduct, rows, columns,
      if_pos ⟨row, column⟩]
    exact Nat.mod_eq_of_lt (Nat.lt_of_le_of_lt bounded (by decide))

/-! ## The remote -/

/-- What a program finds in its queue. -/
inductive Arrival
  | announced
  | message (data : List UInt8)
  | destroyed
  deriving DecidableEq, Repr

/-- Where the remote is in `rpmsg_matrix_app()`; `failed` is the return after an endpoint
that could not be created. -/
inductive RemotePc
  | createEpt
  | polling
  | destroyEpt
  | returned
  | failed
  | fault
  deriving DecidableEq, Repr

structure RemoteApp where
  pc : RemotePc
  shutdownReq : Bool
  deriving DecidableEq, Repr

namespace RemoteApp

def initial : RemoteApp where
  pc := .createEpt
  shutdownReq := false

/-- `rpmsg_endpoint_cb()` or `rpmsg_service_unbind()` -/
def receive (sends : Bool) (app : RemoteApp) : Arrival -> RemoteApp × List Arrival
  | .announced => (app, [])
  | .message data =>
      match Remote.rpmsgEndpointCb { shutdownReq := app.shutdownReq, sent := [] } data with
      | .error _ => ({ app with pc := .fault }, [])
      | .ok after =>
          ({ app with shutdownReq := after.shutdownReq },
            if sends then after.sent.map Arrival.message else [])
  | .destroyed => ({ app with shutdownReq := true }, [])

def proceed (sends : Bool) (app : RemoteApp) : Option (RemoteApp × List Arrival) :=
  match app.pc with
  | .createEpt =>
      some (if sends then ({ app with pc := .polling }, [.announced])
        else ({ app with pc := .failed }, []))
  -- platform_poll() has returned
  | .polling => some (if app.shutdownReq then { app with pc := .destroyEpt } else app, [])
  | .destroyEpt => some ({ app with pc := .returned }, if sends then [.destroyed] else [])
  | .returned | .failed | .fault => none

/-- `matrix_multiplyd.c` -/
def program : Duplex.Program RemoteApp Arrival Arrival where
  polls := fun app => app.pc == .polling
  receive := receive
  proceed := proceed

/-- The end of `rpmsg_matrix_app()`, or the return after an endpoint that could not be
created -/
def Returned (app : RemoteApp) : Prop := app.pc = .returned ∨ app.pc = .failed

theorem stopped_of_returned {app : RemoteApp} (returned : app.Returned) :
    program.Stopped app where
  blind := by
    show (app.pc == .polling) = false
    rcases returned with at_pc | at_pc <;> rw [at_pc] <;> rfl
  still := by
    intro sends
    show app.proceed sends = none
    rcases returned with at_pc | at_pc <;> rw [proceed, at_pc]

/-! ### Its pace -/

def rank (app : RemoteApp) : Nat :=
  match app.pc with
  | .createEpt => 5
  | .polling => 3
  | .destroyEpt => 2
  | .returned | .failed | .fault => 0

def Works (app : RemoteApp) : Prop :=
  match app.pc with
  | .createEpt | .destroyEpt => True
  | .polling => app.shutdownReq = true
  | .returned | .failed | .fault => False

/-- A message has at most one answer. -/
theorem sent_le {remote after : Remote} {data : List UInt8}
    (returned : remote.rpmsgEndpointCb data = Except.ok after) :
    after.sent.length ≤ remote.sent.length + 1 := by
  rcases Remote.rpmsgEndpointCb_ok returned with stop | ⟨result, answered⟩
  · rw [remote.rpmsgEndpointCb_shutdown stop] at returned
    cases returned
    exact Nat.le_succ _
  · rw [answered, List.length_append, List.length_singleton]

/-- For each message the remote is paid more than for its answer. -/
theorem paced : program.Paced rank Works 3 1 where
  receives := by
    intro sends app arrival polls
    have at_pc : app.pc = .polling := beq_iff_eq.mp polls
    cases arrival with
    | announced | destroyed =>
        simp only [program, receive, rank, at_pc, List.length_nil]
        decide
    | message data =>
        cases returned : Remote.rpmsgEndpointCb
            { shutdownReq := app.shutdownReq, sent := [] } data with
        | error fault =>
            simp only [program, receive, returned, rank, at_pc, List.length_nil]
            decide
        | ok after =>
            have single := sent_le returned
            cases sends with
            | true =>
                simp only [program, receive, returned, rank, at_pc, if_true, List.length_map,
                  List.length_nil] at single ⊢
                omega
            | false =>
                simp only [program, receive, returned, rank, at_pc, Bool.false_eq_true, if_false,
                  List.length_nil]
                decide
  proceeds := by
    intro sends app works
    cases at_pc : app.pc with
    | createEpt =>
        cases sends with
        | true =>
            exact ⟨{ app with pc := .polling }, [.announced], by simp [program, proceed, at_pc],
              by simp [rank, at_pc]⟩
        | false =>
            exact ⟨{ app with pc := .failed }, [], by simp [program, proceed, at_pc],
              by simp [rank, at_pc]⟩
    | destroyEpt =>
        cases sends with
        | true =>
            exact ⟨{ app with pc := .returned }, [.destroyed], by simp [program, proceed, at_pc],
              by simp [rank, at_pc]⟩
        | false =>
            exact ⟨{ app with pc := .returned }, [], by simp [program, proceed, at_pc],
              by simp [rank, at_pc]⟩
    | polling =>
        simp only [Works, at_pc] at works
        exact ⟨{ app with pc := .destroyEpt }, [], by simp [program, proceed, at_pc, works],
          by simp [rank, at_pc]⟩
    | returned | failed | fault => simp only [Works, at_pc] at works
  rests := by
    intro sends app after sent idle went
    cases at_pc : app.pc with
    | createEpt | destroyEpt => simp only [Works, at_pc, not_true_eq_false] at idle
    | polling =>
        simp only [Works, at_pc] at idle
        simp only [program, proceed, at_pc, if_neg idle, Option.some.injEq, Prod.mk.injEq] at went
        exact ⟨went.1.symm, went.2.symm⟩
    | returned | failed | fault => simp only [program, proceed, at_pc, reduceCtorEq] at went

/-! ### How it fails -/

theorem receive_created {app : RemoteApp} (created : app.pc ≠ .failed) (sends : Bool)
    (arrival : Arrival) : (app.receive sends arrival).1.pc ≠ .failed := by
  cases arrival with
  | announced | destroyed => exact created
  | message data =>
      rw [receive]
      split
      · exact RemotePc.noConfusion
      · exact created

/-- Only an endpoint that cannot be created leads to the early return. -/
theorem createEpt_of_failed {sends : Bool} {app after : RemoteApp} {sent : List Arrival}
    (went : app.proceed sends = some (after, sent)) (failed : after.pc = .failed) :
    sends = false ∧ app.pc = .createEpt := by
  cases at_pc : app.pc with
  | createEpt =>
      cases sends with
      | false => exact ⟨rfl, rfl⟩
      | true =>
          simp only [proceed, at_pc, if_true, Option.some.injEq, Prod.mk.injEq] at went
          rw [← went.1] at failed
          cases failed
  | polling =>
      simp only [proceed, at_pc, Option.some.injEq, Prod.mk.injEq] at went
      rw [← went.1] at failed
      split at failed
      · cases failed
      · rw [at_pc] at failed
        cases failed
  | destroyEpt =>
      simp only [proceed, at_pc, Option.some.injEq, Prod.mk.injEq] at went
      rw [← went.1] at failed
      cases failed
  | returned | failed | fault => simp only [proceed, at_pc, reduceCtorEq] at went

end RemoteApp

/-! ## The host -/

/-- Where the host is in `app()`; `failed` is the return after an endpoint that could not be
created. -/
inductive HostPc
  | createEpt
  | waitReady
  | generate
  | send
  | polling
  | destroyEpt
  | returned
  | failed
  | fault
  deriving DecidableEq, Repr

/-- The number of rounds -/
def rounds : Nat := 200

/-- `asked` records the requests that have gone out, `taken` the results that have been
accepted, and `refused` that a request has not gone out. -/
structure HostApp where
  pc : HostPc
  lept : Bool
  ready : Bool
  eptDeleted : Bool
  c : Nat
  work : Workload
  host : Host
  asked : List (Matrix × Matrix)
  taken : List Matrix
  refused : Bool

namespace HostApp

/-- The host before `app()`, with anything in the arrays that are not yet used. -/
def initial (work : Workload) (eMatrix : Matrix) : HostApp where
  pc := .createEpt
  lept := false
  ready := false
  eptDeleted := false
  c := 0
  work := work
  host := { eMatrix := eMatrix, resultReturned := false, errCnt := 0 }
  asked := []
  taken := []
  refused := false

/-- The two matrices of the round. -/
def operands (app : HostApp) : Matrix × Matrix :=
  (app.work.matrices 0, app.work.matrices 1)

/-- `rpmsg_endpoint_cb()` -/
def rpmsgEndpointCb (app : HostApp) (data : List UInt8) : HostApp :=
  let host := app.host.rpmsgEndpointCb data
  { app with
    host := host
    taken := if host.errCnt = 0 then app.taken ++ [Matrix.ofBytes data] else app.taken }

def receive (app : HostApp) : Arrival -> HostApp
  | .announced => { app with ready := app.ready || app.lept }
  | .message data => if app.lept then app.rpmsgEndpointCb data else app
  | .destroyed => if app.lept then { app with lept := false, eptDeleted := true } else app

/-- What `rpmsg_service_unbind()` sends when it destroys the endpoint -/
def answers (sends : Bool) (app : HostApp) : Arrival -> List Arrival
  | .destroyed => if sends && app.lept then [.destroyed] else []
  | .announced | .message _ => []

/-- The `for` loop from its condition on -/
def nextRound (app : HostApp) (c : Nat) : HostApp :=
  { app with c := c, pc := if c < rounds then .generate else .destroyEpt }

/-- `err_cnt = 0` -/
def clearErrors (app : HostApp) : HostApp :=
  { app with host := { app.host with errCnt := 0 } }

/-- What follows when `platform_poll()` has returned. -/
def polled (app : HostApp) : HostApp :=
  match app.pc with
  | .waitReady => if app.ready then app.clearErrors.nextRound 0 else app
  | .polling =>
      if app.host.resultReturned = false ∧ app.host.errCnt = 0 ∧ app.eptDeleted = false then app
      else if app.host.errCnt ≠ 0 then { app with pc := .destroyEpt }
      else app.nextRound (app.c + 1)
  | _ => app

/-- `generate_matrices()`, `matrix_multiply()` and `result_returned = 0` -/
def generate (rand : Nat -> Nat) (app : HostApp) : HostApp :=
  match app.work.generateMatrices rand numMatrix maxSize with
  | .error _ => { app with pc := .fault }
  | .ok work =>
      match matrixMultiply (work.matrices 0) (work.matrices 1) with
      | .error _ => { app with pc := .fault }
      | .ok eMatrix =>
          { app with
            work := work
            host := { app.host with eMatrix := eMatrix, resultReturned := false }
            pc := .send }

/-- `rpmsg_send()` -/
def send (sends : Bool) (app : HostApp) : HostApp × List Arrival :=
  if sends && app.lept then
    ({ app with asked := app.asked ++ [app.operands], pc := .polling },
      [.message (request app.operands.1 app.operands.2)])
  else ({ app with pc := .destroyEpt, refused := true }, [])

def proceed (rand : Nat -> Nat) (sends : Bool) (app : HostApp) :
    Option (HostApp × List Arrival) :=
  match app.pc with
  | .createEpt =>
      some (if sends then ({ app with pc := .waitReady, lept := true }, [.announced])
        else ({ app with pc := .failed }, []))
  | .waitReady | .polling => some (app.polled, [])
  | .generate => some (app.generate rand, [])
  | .send => some (app.send sends)
  | .destroyEpt =>
      some ({ app with pc := .returned, lept := false },
        if sends && app.lept then [.destroyed] else [])
  | .returned | .failed | .fault => none

def polls (app : HostApp) : Bool := app.pc == .waitReady || app.pc == .polling

/-- `matrix_multiply.c` -/
def program (rand : Nat -> Nat) : Duplex.Program HostApp Arrival Arrival where
  polls := polls
  receive := fun sends app arrival => (app.receive arrival, app.answers sends arrival)
  proceed := proceed rand

/-- The end of `app()`, or the return after an endpoint that could not be created -/
def Returned (app : HostApp) : Prop := app.pc = .returned ∨ app.pc = .failed

theorem stopped_of_returned {app : HostApp} (returned : app.Returned) (rand : Nat -> Nat) :
    (program rand).Stopped app where
  blind := by
    show app.polls = false
    rcases returned with at_pc | at_pc <;> rw [polls, at_pc] <;> rfl
  still := by
    intro sends
    show app.proceed rand sends = none
    rcases returned with at_pc | at_pc <;> rw [proceed, at_pc]

/-! ### Its pace -/

/-- Every round has room for its steps and for the request it sends. -/
def left (app : HostApp) : Nat :=
  match app.pc with
  | .createEpt => 16 * rounds + 24
  | .waitReady => 16 * rounds + 15
  | .generate => 16 * (rounds - app.c) + 11
  | .send => 16 * (rounds - app.c) + 10
  | .polling => 16 * (rounds - app.c) + 6
  | .destroyEpt => 4
  | .returned | .failed | .fault => 0

/-- The endpoint stands for the announcement that it is destroyed. -/
def rank (app : HostApp) : Nat :=
  app.left + 3 * app.lept.toNat

def Works (app : HostApp) : Prop :=
  match app.pc with
  | .createEpt | .generate | .send | .destroyEpt => True
  | .waitReady => app.ready = true
  | .polling =>
      ¬ (app.host.resultReturned = false ∧ app.host.errCnt = 0 ∧ app.eptDeleted = false)
  | .returned | .failed | .fault => False

/-- A callback does not move the application. -/
theorem receive_frame (app : HostApp) (arrival : Arrival) :
    (app.receive arrival).pc = app.pc ∧ (app.receive arrival).c = app.c ∧
      (app.receive arrival).refused = app.refused := by
  cases arrival with
  | announced => exact ⟨rfl, rfl, rfl⟩
  | message data | destroyed =>
      rw [receive]
      split <;> exact ⟨rfl, rfl, rfl⟩

theorem nextRound_left (app : HostApp) (c : Nat) :
    (app.nextRound c).left ≤ 16 * (rounds - c) + 11 := by
  by_cases more : c < rounds
  · rw [nextRound, if_pos more]
    exact Nat.le_refl _
  · rw [nextRound, if_neg more]
    exact Nat.le_trans (by decide : 4 ≤ 11) (Nat.le_add_left _ _)

theorem generate_left (rand : Nat -> Nat) (app : HostApp) :
    (app.generate rand).left ≤ 16 * (rounds - app.c) + 10 := by
  unfold generate
  split
  · exact Nat.zero_le _
  · split
    · exact Nat.zero_le _
    · exact Nat.le_refl _

theorem send_left (sends : Bool) (app : HostApp) :
    (app.send sends).1.left + 3 * (app.send sends).2.length < 16 * (rounds - app.c) + 10 := by
  unfold send
  split
  · simp only [left, List.length_singleton]
    omega
  · simp only [left, List.length_nil]
    omega

/-- What follows a poll that ends the waiting. -/
theorem polled_left {app : HostApp} (polls : app.polls = true) (works : app.Works) :
    app.polled.left < app.left := by
  cases at_pc : app.pc with
  | waitReady =>
      simp only [Works, at_pc] at works
      have next := app.clearErrors.nextRound_left 0
      have before : app.left = 16 * rounds + 15 := by rw [left, at_pc]
      simp only [polled, at_pc, works, if_true]
      omega
  | polling =>
      simp only [Works, at_pc] at works
      have before : app.left = 16 * (rounds - app.c) + 6 := by rw [left, at_pc]
      simp only [polled, at_pc, if_neg works]
      split
      · rw [before]
        show 4 < _
        omega
      · have next := app.nextRound_left (app.c + 1)
        by_cases more : app.c + 1 < rounds
        · omega
        · simp only [nextRound, if_neg more, left, at_pc]
          omega
  | createEpt | generate | send | destroyEpt | returned | failed | fault =>
      simp [HostApp.polls, at_pc] at polls

theorem polled_lept (app : HostApp) : app.polled.lept = app.lept := by
  unfold polled
  split
  · split <;> rfl
  · split
    · rfl
    · split <;> rfl
  · rfl

theorem generate_lept (rand : Nat -> Nat) (app : HostApp) :
    (app.generate rand).lept = app.lept := by
  unfold generate
  split
  · rfl
  · split <;> rfl

theorem send_lept (sends : Bool) (app : HostApp) : (app.send sends).1.lept = app.lept := by
  unfold send
  split <;> rfl

/-- The endpoint pays for the announcement that it is destroyed. -/
theorem receive_rank (sends : Bool) (app : HostApp) (arrival : Arrival) :
    (app.receive arrival).rank + 3 * (app.answers sends arrival).length ≤ app.rank := by
  cases arrival with
  | announced => exact Nat.le_refl _
  | message data =>
      rw [receive]
      split <;> exact Nat.le_refl _
  | destroyed =>
      cases created : app.lept with
      | true =>
          simp only [receive, answers, created, if_true, Bool.and_true, rank, Bool.toNat_true]
          show app.left + 3 * 0 + 3 * (if sends = true then [Arrival.destroyed] else []).length ≤
            app.left + 3 * 1
          split
          · rw [List.length_singleton]
          · rw [List.length_nil]
            exact Nat.le_add_right _ 3
      | false => simp [receive, answers, created]

theorem paced (rand : Nat -> Nat) : (program rand).Paced rank Works 1 3 where
  receives := fun sends app arrival _ => Nat.lt_succ_of_le (app.receive_rank sends arrival)
  proceeds := by
    intro sends app works
    cases at_pc : app.pc with
    | createEpt =>
        have before : app.rank = 16 * rounds + 24 + 3 * app.lept.toNat := by
          rw [rank, left, at_pc]
        cases sends with
        | true =>
            refine ⟨{ app with pc := .waitReady, lept := true }, [.announced],
              by simp [program, proceed, at_pc], ?_⟩
            rw [before]
            simp only [rank, left, List.length_singleton, Bool.toNat_true]
            omega
        | false =>
            refine ⟨{ app with pc := .failed }, [], by simp [program, proceed, at_pc], ?_⟩
            rw [before]
            simp only [rank, left, List.length_nil]
            omega
    | waitReady | polling =>
        have polls : app.polls = true := by simp [HostApp.polls, at_pc]
        have lower := polled_left polls works
        refine ⟨app.polled, [], by simp only [program, proceed, at_pc], ?_⟩
        rw [rank, rank, app.polled_lept]
        exact Nat.add_lt_add_right lower _
    | generate =>
        have lower := app.generate_left rand
        refine ⟨app.generate rand, [], by simp only [program, proceed, at_pc], ?_⟩
        have before : app.left = 16 * (rounds - app.c) + 11 := by rw [left, at_pc]
        rw [rank, rank, app.generate_lept rand, before, List.length_nil]
        omega
    | send =>
        have lower := app.send_left sends
        have before : app.left = 16 * (rounds - app.c) + 10 := by rw [left, at_pc]
        rw [← before] at lower
        refine ⟨(app.send sends).1, (app.send sends).2, by simp only [program, proceed, at_pc], ?_⟩
        rw [rank, rank, app.send_lept sends]
        omega
    | destroyEpt =>
        have before : app.rank = 4 + 3 * app.lept.toNat := by rw [rank, left, at_pc]
        refine ⟨{ app with pc := .returned, lept := false },
          if sends && app.lept then [.destroyed] else [], by simp only [program, proceed, at_pc],
          ?_⟩
        rw [before]
        simp only [rank, left, Bool.toNat_false]
        split
        · rw [List.length_singleton]
          omega
        · rw [List.length_nil]
          omega
    | returned | failed | fault => simp only [Works, at_pc] at works
  rests := by
    intro sends app after sent idle went
    cases at_pc : app.pc with
    | createEpt | generate | send | destroyEpt =>
        simp only [Works, at_pc, not_true_eq_false] at idle
    | waitReady =>
        simp only [Works, at_pc] at idle
        simp only [program, proceed, polled, at_pc, if_neg idle, Option.some.injEq,
          Prod.mk.injEq] at went
        exact ⟨went.1.symm, went.2.symm⟩
    | polling =>
        simp only [Works, at_pc, not_not] at idle
        simp only [program, proceed, polled, at_pc, if_pos idle, Option.some.injEq,
          Prod.mk.injEq] at went
        exact ⟨went.1.symm, went.2.symm⟩
    | returned | failed | fault => simp only [program, proceed, at_pc, reduceCtorEq] at went

/-! ### How it fails -/

theorem polled_created {app : HostApp} (created : app.pc ≠ .failed) :
    app.polled.pc ≠ .failed := by
  have following : forall (other : HostApp) c, (other.nextRound c).pc ≠ .failed := by
    intro other c
    show (if c < rounds then HostPc.generate else HostPc.destroyEpt) ≠ .failed
    split <;> exact HostPc.noConfusion
  unfold polled
  split
  · split
    · exact following _ _
    · exact created
  · split
    · exact created
    · split
      · exact HostPc.noConfusion
      · exact following _ _
  · exact created

/-- Only an endpoint that cannot be created leads to the early return. -/
theorem createEpt_of_failed {rand : Nat -> Nat} {sends : Bool} {app after : HostApp}
    {sent : List Arrival} (went : app.proceed rand sends = some (after, sent))
    (failed : after.pc = .failed) : sends = false ∧ app.pc = .createEpt := by
  cases at_pc : app.pc with
  | createEpt =>
      cases sends with
      | false => exact ⟨rfl, rfl⟩
      | true =>
          simp only [proceed, at_pc, if_true, Option.some.injEq, Prod.mk.injEq] at went
          rw [← went.1] at failed
          cases failed
  | waitReady | polling =>
      simp only [proceed, at_pc, Option.some.injEq, Prod.mk.injEq] at went
      rw [← went.1] at failed
      exact absurd failed (polled_created (by rw [at_pc]; exact HostPc.noConfusion))
  | generate =>
      simp only [proceed, at_pc, Option.some.injEq, Prod.mk.injEq] at went
      rw [← went.1, generate] at failed
      split at failed
      · cases failed
      · split at failed <;> cases failed
  | send =>
      simp only [proceed, at_pc, Option.some.injEq] at went
      rw [send] at went
      split at went <;> cases went <;> cases failed
  | destroyEpt =>
      simp only [proceed, at_pc, Option.some.injEq, Prod.mk.injEq] at went
      rw [← went.1] at failed
      cases failed
  | returned | failed | fault => simp only [proceed, at_pc, reduceCtorEq] at went

end HostApp

/-! ## The system -/

abbrev System := Duplex.World HostApp RemoteApp Arrival Arrival

def System.initial (work : Workload) (eMatrix : Matrix) : System where
  left := HostApp.initial work eMatrix
  right := RemoteApp.initial
  toLeft := []
  toRight := []

def step (rand : Nat -> Nat) : System -> Duplex.Label -> Option System :=
  Duplex.step (HostApp.program rand) RemoteApp.program

end MatrixRounds
end OpenAmpReference
