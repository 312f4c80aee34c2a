import OpenAmpReference.Library.RingList

namespace OpenAmpReference
namespace LoadFw

/-!
# Regions and power nodes of the loader

The `mmap` operations of the life cycle examples request the power nodes that a region
needs and register the region; `shutdown` unlinks the registered regions, one after the
other, and releases nodes.  Which nodes belong to a region is decided twice, by
comparisons of their own.  What `metal_io_phys()` returns is a parameter.
-/

inductive PowerNode
  | ddr
  | ocmBank0
  | ocmBank1
  | ocmBank2
  | ocmBank3
  | tcm0A
  | tcm1A
  | tcm0B
  | tcm1B
  deriving DecidableEq, Repr

abbrev Phys := BitVec 32

/-- `METAL_BAD_PHYS` -/
def metalBadPhys : Phys := 0xFFFFFFFF

/-- A node that is requested or released under a condition. -/
def onlyIf (condition : Prop) [Decidable condition] (node : PowerNode) : List PowerNode :=
  if condition then [node] else []

@[simp] theorem mem_onlyIf {condition : Prop} [Decidable condition] {node other : PowerNode} :
    other ∈ onlyIf condition node ↔ condition ∧ other = node := by
  unfold onlyIf
  split <;> rename_i decided <;> simp only [List.mem_singleton, List.not_mem_nil, decided,
    true_and, false_and]

/-- `struct remoteproc_mem`, with the number of its list node. -/
structure Mem where
  node : Nat
  pa : Phys
  da : Phys
  size : Phys
  deriving DecidableEq, Repr

/-- The registered regions, and the calls of `XPm_RequestNode()` and
`XPm_ReleaseNode()`. -/
structure State where
  mems : List Mem
  created : Nat
  requested : List PowerNode
  released : List PowerNode
  deriving DecidableEq, Repr

namespace State

def initial : State where
  mems := []
  created := 0
  requested := []
  released := []

end State

/-- The arguments of `mmap`, and whether its two allocations succeed. -/
structure Call where
  pa : Phys
  da : Phys
  size : Phys
  mem : Bool
  io : Bool
  deriving DecidableEq, Repr

/-- The end of the region, as `mmap` computes it. -/
def Call.daEnd (call : Call) : Phys :=
  call.da + call.size

/-- Both allocations succeed. -/
def Call.allocates (call : Call) : Bool :=
  call.mem && call.io

/-- What the life cycle examples do in their own way: which calls they refuse, the nodes
that `mmap` requests for an address and an end, the physical address that is stored, and
the nodes that `shutdown` requests and releases for it. -/
structure Driver where
  refuses : Call -> Bool
  requests : Phys -> Phys -> List PowerNode
  translate : Call -> Option Phys
  shutdownRequests : Phys -> Phys -> List PowerNode
  releases : Phys -> Phys -> List PowerNode

namespace Driver

variable (driver : Driver)

/-- The physical address that a call registers, if it does. -/
def placed (call : Call) : Option Phys :=
  if driver.refuses call then none
  else if call.allocates then driver.translate call else none

/-- The `mmap` operation -/
def mmap (state : State) (call : Call) : State :=
  if driver.refuses call then state
  else
    let requesting := { state with
      requested := state.requested ++ driver.requests call.da call.daEnd }
    match driver.translate call with
    | none => requesting
    | some pa =>
        if call.allocates then
          { requesting with
            mems := state.mems ++
              [{ node := state.created, pa := pa, da := call.da, size := call.size }]
            created := state.created + 1 }
        else requesting

def mmaps (calls : List Call) : State :=
  calls.foldl driver.mmap State.initial

variable (metalIoPhys : Phys -> Phys -> Phys -> Phys)

/-- The body of the loop of `shutdown` -/
def shutdownOne (state : State) (mem : Mem) : State × Option Mem :=
  let paEnd := metalIoPhys mem.pa mem.size mem.size
  ({ state with
     mems := RingList.del state.mems mem
     requested := state.requested ++ driver.shutdownRequests mem.pa paEnd
     released := state.released ++ driver.releases mem.pa paEnd },
   RingList.prev state.mems (some mem))

/-- The `shutdown` operation, where `powerDown` is the outcome of `XPm_ForcePowerDown()` -/
def shutdown (state : State) (powerDown : Bool) : Option (State × Int) :=
  (RingList.forEach State.mems (driver.shutdownOne metalIoPhys) (state.mems.length + 1) state
    (RingList.next state.mems none)).map fun after => (after, if powerDown then 0 else -1)

end Driver

/-- For an offset at or beyond the size of a region, given by its base and its size,
`metal_io_phys()` returns `METAL_BAD_PHYS`. -/
def BadBeyond (metalIoPhys : Phys -> Phys -> Phys -> Phys) : Prop :=
  forall base size offset, size ≤ offset -> metalIoPhys base size offset = metalBadPhys

/-- `shutdown` releases the nodes that the `mmap` calls have requested, requests none, and
leaves no region. -/
structure Balanced (before after : State) : Prop where
  released : forall node, node ∈ after.released ↔ node ∈ before.requested
  requested : after.requested = before.requested
  empty : after.mems = []

namespace Driver

variable {metalIoPhys : Phys -> Phys -> Phys -> Phys}

/-! ## The traversal -/

theorem shutdownOne_unlinks (driver : Driver) (metalIoPhys : Phys -> Phys -> Phys -> Phys) :
    RingList.Unlinks State.mems (driver.shutdownOne metalIoPhys) := by
  intro state mem rest listed
  simp only [shutdownOne, listed, RingList.prev_first, RingList.del_first, and_self]

/-- The nodes that a whole shutdown requests or releases. -/
theorem foldl_shutdownOne (badBeyond : BadBeyond metalIoPhys) (driver : Driver)
    (mems : List Mem) (state : State) :
    (mems.foldl (fun visited mem => (driver.shutdownOne metalIoPhys visited mem).1)
          state).released =
        state.released ++ mems.flatMap (fun mem => driver.releases mem.pa metalBadPhys) ∧
      (mems.foldl (fun visited mem => (driver.shutdownOne metalIoPhys visited mem).1)
          state).requested =
        state.requested ++
          mems.flatMap (fun mem => driver.shutdownRequests mem.pa metalBadPhys) := by
  induction mems generalizing state with
  | nil => exact ⟨(List.append_nil _).symm, (List.append_nil _).symm⟩
  | cons mem rest inductionHypothesis =>
      have later := inductionHypothesis (driver.shutdownOne metalIoPhys state mem).1
      have bad := badBeyond mem.pa mem.size mem.size (BitVec.le_refl _)
      rw [List.foldl_cons, later.1, later.2]
      simp only [shutdownOne, bad, List.flatMap_cons, List.append_assoc, and_self]

/-- A shutdown ends, whatever is registered, with no region left. -/
theorem shutdown_spec (badBeyond : BadBeyond metalIoPhys) (driver : Driver) (state : State)
    (powerDown : Bool) :
    Exists fun after => driver.shutdown metalIoPhys state powerDown =
        some (after, if powerDown then 0 else -1) ∧
      after.mems = [] ∧
      after.released =
        state.released ++ state.mems.flatMap (fun mem => driver.releases mem.pa metalBadPhys) ∧
      after.requested = state.requested ++
        state.mems.flatMap (fun mem => driver.shutdownRequests mem.pa metalBadPhys) := by
  have listed : State.mems state = state.mems := rfl
  have walked := RingList.forEach_unlinks (shutdownOne_unlinks driver metalIoPhys) listed
    (Nat.lt_succ_self state.mems.length)
  have nodes := foldl_shutdownOne badBeyond driver state.mems state
  refine ⟨_, ?_, walked.2, nodes.1, nodes.2⟩
  rw [shutdown, walked.1, Option.map_some]

/-! ## The calls -/

theorem mmap_nodes (driver : Driver) (state : State) (call : Call) :
    (driver.mmap state call).released = state.released ∧
      (driver.mmap state call).requested = state.requested ++
        (if driver.refuses call then [] else driver.requests call.da call.daEnd) ∧
      (driver.mmap state call).mems.map Mem.pa =
        state.mems.map Mem.pa ++ (driver.placed call).toList := by
  unfold mmap placed
  split
  · simp only [List.append_nil, Option.toList_none, and_self]
  · cases driver.translate call with
    | none => simp only [ite_self, Option.toList_none, List.append_nil, and_self]
    | some pa =>
        simp only
        split
        · simp only [List.map_append, List.map_singleton, Option.toList_some, and_self]
        · simp only [Option.toList_none, List.append_nil, and_self]

/-- A call that is not refused, with the nodes and the address that it finds. -/
theorem mmap_translated {driver : Driver} (state : State) {call : Call}
    (accepted : driver.refuses call = false) {nodes : List PowerNode}
    (requests : driver.requests call.da call.daEnd = nodes) {pa : Phys}
    (translated : driver.translate call = some pa) :
    (driver.mmap state call).requested = state.requested ++ nodes ∧
      (driver.mmap state call).mems = state.mems ++
        if call.allocates then
          [{ node := state.created, pa := pa, da := call.da, size := call.size }]
        else [] := by
  rw [mmap, accepted, if_neg Bool.false_ne_true, requests, translated]
  by_cases allocates : call.allocates = true
  · simp only [allocates, if_true, and_self]
  · simp only [allocates, if_false, List.append_nil, and_self, Bool.false_eq_true]

/-- What a sequence of calls requests and registers. -/
theorem foldl_mmap_nodes (driver : Driver) (calls : List Call) (state : State) :
    (calls.foldl driver.mmap state).released = state.released ∧
      (calls.foldl driver.mmap state).requested = state.requested ++
        calls.flatMap (fun call =>
          if driver.refuses call then [] else driver.requests call.da call.daEnd) ∧
      (calls.foldl driver.mmap state).mems.map Mem.pa =
        state.mems.map Mem.pa ++ calls.flatMap fun call => (driver.placed call).toList := by
  induction calls generalizing state with
  | nil => simp only [List.foldl_nil, List.flatMap_nil, List.append_nil, and_self]
  | cons call rest inductionHypothesis =>
      have first := mmap_nodes driver state call
      have later := inductionHypothesis (driver.mmap state call)
      rw [List.foldl_cons, later.1, later.2.1, later.2.2, first.1, first.2.1, first.2.2]
      simp only [List.flatMap_cons, List.append_assoc, and_self]

/-- A node that some call requests -/
theorem mem_requested {driver : Driver} {calls : List Call} {node : PowerNode}
    (accepts : forall call, call ∈ calls -> driver.refuses call = false) :
    node ∈ (driver.mmaps calls).requested ↔
      Exists fun call => call ∈ calls ∧ node ∈ driver.requests call.da call.daEnd := by
  rw [mmaps, (foldl_mmap_nodes driver calls State.initial).2.1, State.initial, List.nil_append,
    List.mem_flatMap]
  refine exists_congr fun call => and_congr_right fun listed => ?_
  rw [accepts call listed, if_neg Bool.false_ne_true]

/-- The registered regions, for a property of their physical addresses. -/
theorem exists_registered (driver : Driver) (calls : List Call) (property : Phys -> Prop) :
    (Exists fun mem => mem ∈ (driver.mmaps calls).mems ∧ property mem.pa) ↔
      Exists fun call => call ∈ calls ∧
        Exists fun pa => driver.placed call = some pa ∧ property pa := by
  have stored := (foldl_mmap_nodes driver calls State.initial).2.2
  rw [State.initial, List.map_nil, List.nil_append] at stored
  have moved : (Exists fun mem => mem ∈ (driver.mmaps calls).mems ∧ property mem.pa) ↔
      Exists fun pa => pa ∈ (driver.mmaps calls).mems.map Mem.pa ∧ property pa := by
    simp only [List.mem_map, exists_exists_and_eq_and]
  rw [moved, mmaps, State.initial, stored]
  simp only [List.mem_flatMap, Option.mem_toList]
  constructor
  · rintro ⟨pa, ⟨call, listed, placed⟩, holds⟩
    exact ⟨call, listed, pa, placed, holds⟩
  · rintro ⟨call, listed, pa, placed, holds⟩
    exact ⟨pa, ⟨call, listed, placed⟩, holds⟩

/-- Every registered region belongs to a call. -/
theorem registered_placed {driver : Driver} {calls : List Call} {mem : Mem}
    (listed : mem ∈ (driver.mmaps calls).mems) :
    Exists fun call => call ∈ calls ∧ driver.placed call = some mem.pa := by
  rcases (exists_registered driver calls fun pa => pa = mem.pa).mp ⟨mem, listed, rfl⟩ with
    ⟨call, called, pa, placed, same⟩
  exact ⟨call, called, same ▸ placed⟩

/-- When nothing that is registered is ever released, a shutdown is balanced only if
nothing was requested, by the calls or by the shutdown. -/
theorem balanced_iff_nothing (badBeyond : BadBeyond metalIoPhys) {driver : Driver}
    {calls : List Call} (accepts : forall call, call ∈ calls -> driver.refuses call = false)
    (keeps : forall call, call ∈ calls -> forall pa, driver.placed call = some pa ->
      driver.releases pa metalBadPhys = []) (powerDown : Bool) :
    Exists fun after => driver.shutdown metalIoPhys (driver.mmaps calls) powerDown =
        some (after, if powerDown then 0 else -1) ∧
      after.mems = [] ∧
      (Balanced (driver.mmaps calls) after ↔ forall call, call ∈ calls ->
        driver.requests call.da call.daEnd = [] ∧
          forall pa, driver.placed call = some pa ->
            driver.shutdownRequests pa metalBadPhys = []) := by
  rcases shutdown_spec badBeyond driver (driver.mmaps calls) powerDown with
    ⟨after, ended, empty, released, requested⟩
  have nothing : after.released = [] := by
    rw [released, List.flatMap_eq_nil_iff.mpr, List.append_nil]
    · exact (foldl_mmap_nodes driver calls State.initial).1
    · intro mem listed
      rcases registered_placed listed with ⟨call, called, placed⟩
      exact keeps call called mem.pa placed
  refine ⟨after, ended, empty, ?_⟩
  constructor
  · intro balanced call called
    constructor
    · refine List.eq_nil_iff_forall_not_mem.mpr fun node needed => ?_
      have asked := (mem_requested accepts).mpr ⟨call, called, needed⟩
      have given := (balanced.released node).mpr asked
      rw [nothing] at given
      exact nomatch given
    · intro pa placed
      have same := requested.symm.trans balanced.requested
      have none := List.flatMap_eq_nil_iff.mp (List.append_right_eq_self.mp same)
      rcases (exists_registered driver calls fun address => address = pa).mpr
        ⟨call, called, pa, placed, rfl⟩ with ⟨mem, listed, atPa⟩
      exact atPa ▸ none mem listed
  · intro quiet
    have none : (driver.mmaps calls).requested = [] := by
      refine List.eq_nil_iff_forall_not_mem.mpr fun node asked => ?_
      rcases (mem_requested accepts).mp asked with ⟨call, called, needed⟩
      rw [(quiet call called).1] at needed
      exact nomatch needed
    exact {
      released := fun node => by rw [nothing, none]
      requested := by
        rw [requested, List.flatMap_eq_nil_iff.mpr, List.append_nil]
        intro mem listed
        rcases registered_placed listed with ⟨call, called, placed⟩
        exact (quiet call called).2 mem.pa placed
      empty := empty }

end Driver
end LoadFw
end OpenAmpReference
