import OpenAmpReference.LoadFw.Regions

namespace OpenAmpReference
namespace LoadFw

/-!
# The two RPU examples

`mmap` classifies a region by its device address and stores the physical address of the
TCM.  One `shutdown` compares the stored address with the bounds of the device addresses,
so it releases nothing; the other one compares it with physical bounds, but requests the
nodes once more.
-/

/-- The cores that the examples are initialized for. -/
inductive Core
  | rpu0
  | rpu1
  | rpu
  deriving DecidableEq, Repr

/-- Where the TCM of the core lies. -/
def Core.tcmBase : Core -> Phys
  | rpu0 | rpu => 0xFFE00000
  | rpu1 => 0xFFE90000

/-- The nodes of a region with a device address in the TCM. -/
def tcmNodes (core : Core) (da daEnd : Phys) : List PowerNode :=
  match core with
  | Core.rpu0 | Core.rpu =>
      onlyIf (da < 0x10000) PowerNode.tcm0A ++
        onlyIf (da ≤ 0x20000 ∧ 0x10000 ≤ daEnd) PowerNode.tcm1A ++
        onlyIf (da ≤ 0x30000 ∧ 0x20000 ≤ daEnd) PowerNode.tcm0B ++
        onlyIf (da ≤ 0x40000 ∧ 0x30000 ≤ daEnd) PowerNode.tcm1B
  | Core.rpu1 =>
      onlyIf (da < 0x10000) PowerNode.tcm1A ++
        onlyIf (da ≤ 0x30000 ∧ 0x20000 ≤ daEnd) PowerNode.tcm1B

/-- The nodes that both `mmap` operations request, and that `rpu_rproc_shutdown()` releases
for the address it finds. -/
def tcmNodesBelow (core : Core) (address addressEnd : Phys) : List PowerNode :=
  if address ≤ 0x40000 then tcmNodes core address addressEnd else []

/-- The nodes that `r5_rproc_shutdown()` requests. -/
def r5ShutdownRequests (core : Core) (pa paEnd : Phys) : List PowerNode :=
  match core with
  | Core.rpu0 | Core.rpu =>
      onlyIf (pa < 0xFFE10000) PowerNode.tcm0A ++
        onlyIf (pa ≤ 0xFFE20000 ∧ 0xFFE10000 ≤ paEnd) PowerNode.tcm1A ++
        onlyIf (pa ≤ 0xFFE30000 ∧ 0xFFE20000 ≤ paEnd) PowerNode.tcm0B ++
        onlyIf (pa ≤ 0xFFE40000 ∧ 0xFFE30000 ≤ paEnd) PowerNode.tcm1B
  | Core.rpu1 =>
      onlyIf (pa < 0xFFEA0000) PowerNode.tcm1A ++
        onlyIf (pa ≤ 0xFFC0000 ∧ 0xFFEB0000 ≤ paEnd) PowerNode.tcm1B

/-- The physical address of a device address in the TCM. -/
def tcmAddress (core : Core) (call : Call) : Phys :=
  if call.da ≤ 0x40000 then core.tcmBase + call.da else call.pa

def rpuDriver (core : Core) : Driver where
  refuses := fun call => call.da == metalBadPhys && call.pa == metalBadPhys
  requests := tcmNodesBelow core
  translate := fun call => some (tcmAddress core call)
  shutdownRequests := fun _ _ => []
  releases := tcmNodesBelow core

def r5Driver (core : Core) : Driver where
  refuses := fun _ => false
  requests := tcmNodesBelow core
  translate := fun call =>
    let lpa := if tcmAddress core call = metalBadPhys then call.da else tcmAddress core call
    if lpa = metalBadPhys then none else some lpa
  shutdownRequests := r5ShutdownRequests core
  releases := fun _ _ => []

/-- `rpu_rproc_mmap()` -/
def rpuRprocMmap (core : Core) : State -> Call -> State :=
  (rpuDriver core).mmap

/-- `rpu_rproc_shutdown()` -/
def rpuRprocShutdown (core : Core) :
    (Phys -> Phys -> Phys -> Phys) -> State -> Bool -> Option (State × Int) :=
  (rpuDriver core).shutdown

/-- `r5_rproc_mmap()` -/
def r5RprocMmap (core : Core) : State -> Call -> State :=
  (r5Driver core).mmap

/-- `r5_rproc_shutdown()` -/
def r5RprocShutdown (core : Core) :
    (Phys -> Phys -> Phys -> Phys) -> State -> Bool -> Option (State × Int) :=
  (r5Driver core).shutdown

/-- The region lies in the TCM. -/
def Call.InTcm (call : Call) : Prop :=
  call.da < 0x40000

/-- The region needs no node: it lies beyond the first bank, and its end is computed to
lie before each bank that it could reach. -/
def Call.Idle (core : Core) (call : Call) : Prop :=
  match core with
  | Core.rpu0 | Core.rpu =>
      0x10000 ≤ call.da ∧ (call.da ≤ 0x20000 -> call.daEnd < 0x10000) ∧
        (call.da ≤ 0x30000 -> call.daEnd < 0x20000) ∧ call.daEnd < 0x30000
  | Core.rpu1 => 0x10000 ≤ call.da ∧ (call.da ≤ 0x30000 -> call.daEnd < 0x20000)

/-! ## What is requested and released -/

theorem onlyIf_eq_nil {condition : Prop} [Decidable condition] {node : PowerNode} :
    onlyIf condition node = [] ↔ ¬ condition := by
  rw [onlyIf, ite_eq_right_iff]
  constructor
  · intro empty holds
    exact List.cons_ne_nil _ _ (empty holds)
  · intro fails holds
    exact absurd holds fails

theorem Call.InTcm.le {call : Call} (inTcm : call.InTcm) : call.da ≤ 0x40000 :=
  BitVec.le_of_lt inTcm

theorem tcmNodesBelow_eq_nil {call : Call} (inTcm : call.InTcm) (core : Core) :
    tcmNodesBelow core call.da call.daEnd = [] ↔ call.Idle core := by
  rw [tcmNodesBelow, if_pos inTcm.le]
  cases core with
  | rpu0 | rpu =>
      simp only [tcmNodes, List.append_eq_nil_iff, onlyIf_eq_nil, not_and, BitVec.not_lt,
        BitVec.not_le, Call.Idle, and_assoc, inTcm.le, true_implies]
  | rpu1 =>
      simp only [tcmNodes, List.append_eq_nil_iff, onlyIf_eq_nil, not_and, BitVec.not_lt,
        BitVec.not_le, Call.Idle]

/-- The TCM lies high in the address space. -/
theorem Core.tcmBase_bounds (core : Core) :
    0xFFE00000 ≤ core.tcmBase.toNat ∧ core.tcmBase.toNat ≤ 0xFFE90000 := by
  cases core <;> decide

/-- It ends before the address space does. -/
theorem Core.tcmBase_add (core : Core) {da : Phys} (low : da ≤ 0x40000) :
    (core.tcmBase + da).toNat = core.tcmBase.toNat + da.toNat := by
  have below : da.toNat ≤ 0x40000 := BitVec.le_def.mp low
  have base := core.tcmBase_bounds
  rw [BitVec.toNat_add, Nat.mod_eq_of_lt (by omega)]

theorem Core.tcmBase_add_valid (core : Core) {da : Phys} (low : da ≤ 0x40000) :
    core.tcmBase + da ≠ metalBadPhys := by
  have below : da.toNat ≤ 0x40000 := BitVec.le_def.mp low
  have base := core.tcmBase_bounds
  intro bad
  have last := congrArg BitVec.toNat bad
  rw [core.tcmBase_add low, show metalBadPhys.toNat = 0xFFFFFFFF from rfl] at last
  omega

theorem valid_of_low {da : Phys} (low : da ≤ 0x40000) : da ≠ metalBadPhys := by
  rintro rfl
  exact absurd low (by decide)

theorem tcmAddress_low {call : Call} (low : call.da ≤ 0x40000) (core : Core) :
    tcmAddress core call = core.tcmBase + call.da :=
  if_pos low

theorem tcmAddress_toNat {call : Call} (inTcm : call.InTcm) (core : Core) :
    (tcmAddress core call).toNat = core.tcmBase.toNat + call.da.toNat := by
  rw [tcmAddress_low inTcm.le, core.tcmBase_add inTcm.le]

/-- The TCM lies high in the address space, but not at its end. -/
theorem tcmAddress_high {call : Call} (inTcm : call.InTcm) (core : Core) :
    ¬ tcmAddress core call ≤ 0x40000 ∧ tcmAddress core call ≠ metalBadPhys := by
  have base := core.tcmBase_bounds
  constructor
  · rw [BitVec.le_def, tcmAddress_toNat inTcm core]
    have bound : (0x40000 : Phys).toNat = 0x40000 := by decide
    omega
  · rw [tcmAddress_low inTcm.le]
    exact core.tcmBase_add_valid inTcm.le

theorem Call.InTcm.not_bad {call : Call} (inTcm : call.InTcm) : call.da ≠ metalBadPhys :=
  valid_of_low inTcm.le

theorem rpu_placed {core : Core} {call : Call} {pa : Phys} (inTcm : call.InTcm) :
    (rpuDriver core).placed call = some pa ↔
      call.allocates = true ∧ tcmAddress core call = pa := by
  have accepted : (rpuDriver core).refuses call = false := by
    simp only [rpuDriver, beq_eq_false_iff_ne.mpr inTcm.not_bad, Bool.false_and]
  rw [Driver.placed, accepted, if_neg Bool.false_ne_true, Option.ite_none_right_eq_some]
  exact and_congr_right fun _ => Option.some_inj

theorem r5_placed {core : Core} {call : Call} {pa : Phys} (inTcm : call.InTcm) :
    (r5Driver core).placed call = some pa ↔
      call.allocates = true ∧ tcmAddress core call = pa := by
  have address := (tcmAddress_high inTcm core).2
  have translated : (r5Driver core).translate call = some (tcmAddress core call) := by
    simp only [r5Driver, if_neg address]
  have accepted : (r5Driver core).refuses call = false := rfl
  rw [Driver.placed, accepted, if_neg Bool.false_ne_true, Option.ite_none_right_eq_some,
    translated]
  exact and_congr_right fun _ => Option.some_inj

/-- What the second `shutdown` requests for a region in the TCM. -/
theorem r5ShutdownRequests_eq_nil {call : Call} (inTcm : call.InTcm) (core : Core) :
    r5ShutdownRequests core (tcmAddress core call) metalBadPhys = [] ↔
      core = Core.rpu1 ∧ 0x10000 ≤ call.da := by
  have below : call.da.toNat < 0x40000 := BitVec.lt_def.mp inTcm
  have address := tcmAddress_toNat inTcm core
  cases core with
  | rpu0 | rpu =>
      refine iff_of_false (fun empty => ?_) nofun
      simp only [r5ShutdownRequests, List.append_eq_nil_iff, onlyIf_eq_nil] at empty
      refine empty.2 ⟨?_, by decide⟩
      have base : (Core.tcmBase Core.rpu0).toNat = 0xFFE00000 ∧
          (Core.tcmBase Core.rpu).toNat = 0xFFE00000 ∧
          (0xFFE40000 : Phys).toNat = 0xFFE40000 := by
        decide
      rw [BitVec.le_def, address]
      omega
  | rpu1 =>
      have base : (Core.tcmBase Core.rpu1).toNat = 0xFFE90000 ∧
          (0xFFEA0000 : Phys).toNat = 0xFFEA0000 ∧ (0xFFC0000 : Phys).toNat = 0xFFC0000 ∧
          (0x10000 : Phys).toNat = 0x10000 := by
        decide
      have beyond : ¬ tcmAddress Core.rpu1 call ≤ 0xFFC0000 := by
        rw [BitVec.le_def, address]
        omega
      simp only [r5ShutdownRequests, List.append_eq_nil_iff, onlyIf_eq_nil, beyond, false_and,
        not_false_eq_true, and_true, true_and]
      rw [BitVec.lt_def, BitVec.le_def, address]
      omega

/-! ## The life cycles -/

/-- The two examples for the RPU -/
inductive Variant
  | rpu
  | r5
  deriving DecidableEq, Repr

def Variant.mmap (variant : Variant) (core : Core) : State -> Call -> State :=
  match variant with
  | rpu => rpuRprocMmap core
  | r5 => r5RprocMmap core

def Variant.shutdown (variant : Variant) (core : Core) :
    (Phys -> Phys -> Phys -> Phys) -> State -> Bool -> Option (State × Int) :=
  match variant with
  | rpu => rpuRprocShutdown core
  | r5 => r5RprocShutdown core

/-- No node is needed for the region, and in the second example none is registered for a
core whose `shutdown` requests nodes for every region. -/
def Call.Quiet (variant : Variant) (core : Core) (call : Call) : Prop :=
  call.Idle core ∧ (variant = Variant.r5 -> core ≠ Core.rpu1 -> call.allocates = false)

/-- The quiet calls of the second example are those for which nothing is requested. -/
theorem r5_quiet_iff {call : Call} (inTcm : call.InTcm) (core : Core) :
    ((r5Driver core).requests call.da call.daEnd = [] ∧
        forall pa, (r5Driver core).placed call = some pa ->
          (r5Driver core).shutdownRequests pa metalBadPhys = []) ↔
      call.Quiet Variant.r5 core := by
  have idle := tcmNodesBelow_eq_nil inTcm core
  have again := r5ShutdownRequests_eq_nil inTcm core
  constructor
  · rintro ⟨none, noneAgain⟩
    refine ⟨idle.mp none, fun _ other => ?_⟩
    by_contra allocates
    rw [Bool.not_eq_false] at allocates
    have placed : (r5Driver core).placed call = some (tcmAddress core call) :=
      (r5_placed inTcm).mpr ⟨allocates, rfl⟩
    exact other (again.mp (noneAgain _ placed)).1
  · rintro ⟨isIdle, noRegion⟩
    refine ⟨idle.mpr isIdle, fun pa placed => ?_⟩
    rcases (r5_placed inTcm).mp placed with ⟨allocates, rfl⟩
    cases core with
    | rpu0 | rpu => exact nomatch allocates.symm.trans (noRegion rfl nofun)
    | rpu1 => exact again.mpr ⟨rfl, isIdle.1⟩

variable {metalIoPhys : Phys -> Phys -> Phys -> Phys} {calls : List Call}

/-- A shutdown after calls for the TCM ends and leaves no region, and it releases what the calls
have requested and requests nothing exactly if all calls are quiet. Both examples and every core
are covered. The calls lie in the TCM because only there does a driver compare the device address
with its banks, and `metal_io_phys()` answers badly for an offset that the region does not have.
-/
theorem rpu_balances_iff (badBeyond : BadBeyond metalIoPhys)
    (inTcm : forall call, call ∈ calls -> call.InTcm) (variant : Variant) (core : Core)
    (powerDown : Bool) :
    Exists fun after =>
      variant.shutdown core metalIoPhys (calls.foldl (variant.mmap core) State.initial) powerDown =
          some (after, if powerDown then 0 else -1) ∧
        after.mems = [] ∧
        (Balanced (calls.foldl (variant.mmap core) State.initial) after ↔
          forall call, call ∈ calls -> call.Quiet variant core) := by
  cases variant with
  | rpu =>
      have accepts : forall call, call ∈ calls -> (rpuDriver core).refuses call = false := by
        intro call called
        simp only [rpuDriver, beq_eq_false_iff_ne.mpr (inTcm call called).not_bad, Bool.false_and]
      have keeps : forall call, call ∈ calls -> forall pa,
          (rpuDriver core).placed call = some pa ->
            (rpuDriver core).releases pa metalBadPhys = [] := by
        intro call called pa placed
        rcases (rpu_placed (inTcm call called)).mp placed with ⟨_, rfl⟩
        exact if_neg (tcmAddress_high (inTcm call called) core).1
      rcases Driver.balanced_iff_nothing badBeyond accepts keeps powerDown with
        ⟨after, ended, empty, balanced⟩
      refine ⟨after, ended, empty, balanced.trans ?_⟩
      refine forall_congr' fun call => forall_congr' fun called => ?_
      refine and_congr (tcmNodesBelow_eq_nil (inTcm call called) core) ?_
      exact iff_of_true (fun _ _ => rfl) nofun
  | r5 =>
      have keeps : forall call, call ∈ calls -> forall pa,
          (r5Driver core).placed call = some pa ->
            (r5Driver core).releases pa metalBadPhys = [] := fun _ _ _ _ => rfl
      rcases Driver.balanced_iff_nothing badBeyond (fun _ _ => rfl) keeps powerDown with
        ⟨after, ended, empty, balanced⟩
      refine ⟨after, ended, empty, balanced.trans ?_⟩
      refine forall_congr' fun call => forall_congr' fun called => ?_
      exact r5_quiet_iff (inTcm call called) core

/-- A call for the end of the TCM, for which the second core needs no node. -/
def endCall : Call where
  pa := 0
  da := 0x38000
  size := 0x1000
  mem := true
  io := true

theorem endCall_balances :
    Exists fun after =>
      Variant.rpu.shutdown Core.rpu1 (fun _ _ _ => metalBadPhys)
          ([endCall].foldl (Variant.rpu.mmap Core.rpu1) State.initial) true = some (after, 0) ∧
        Balanced ([endCall].foldl (Variant.rpu.mmap Core.rpu1) State.initial) after := by
  have badBeyond : BadBeyond fun _ _ _ => metalBadPhys := fun _ _ _ _ => rfl
  have inTcm : forall call, call ∈ [endCall] -> call.InTcm := by
    intro call called
    cases List.mem_singleton.mp called
    exact (by decide : endCall.da < 0x40000)
  have quiet : forall call, call ∈ [endCall] -> call.Quiet Variant.rpu Core.rpu1 := by
    intro call called
    cases List.mem_singleton.mp called
    exact ⟨⟨by decide, by decide⟩, nofun⟩
  rcases rpu_balances_iff badBeyond inTcm Variant.rpu Core.rpu1 true with
    ⟨after, ended, _, balanced⟩
  exact ⟨after, ended, balanced.mpr quiet⟩

/-- A call for the first page of the TCM. -/
def firstCall : Call where
  pa := 0
  da := 0
  size := 0x1000
  mem := true
  io := true

/-- Neither example releases the node of the first page, and the second one requests all
nodes once more. -/
theorem firstCall_not_balanced :
    (Exists fun after =>
      Variant.rpu.shutdown Core.rpu0 (fun _ _ _ => metalBadPhys)
          ([firstCall].foldl (Variant.rpu.mmap Core.rpu0) State.initial) true = some (after, 0) ∧
        after.requested = [PowerNode.tcm0A] ∧ after.released = [] ∧
        ¬ Balanced ([firstCall].foldl (Variant.rpu.mmap Core.rpu0) State.initial) after) ∧
      Exists fun after =>
        Variant.r5.shutdown Core.rpu0 (fun _ _ _ => metalBadPhys)
            ([firstCall].foldl (Variant.r5.mmap Core.rpu0) State.initial) true =
              some (after, 0) ∧
          after.requested = [PowerNode.tcm0A, PowerNode.tcm0A, PowerNode.tcm1A, PowerNode.tcm0B,
            PowerNode.tcm1B] ∧
          ¬ Balanced ([firstCall].foldl (Variant.r5.mmap Core.rpu0) State.initial) after := by
  refine ⟨⟨_, rfl, by decide, by decide, fun balanced => ?_⟩,
    ⟨_, rfl, by decide, fun balanced => ?_⟩⟩
  · exact absurd ((balanced.released PowerNode.tcm0A).mpr (by decide)) (by decide)
  · exact absurd balanced.requested (by decide)

end LoadFw
end OpenAmpReference
