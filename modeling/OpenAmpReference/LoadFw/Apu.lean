import OpenAmpReference.LoadFw.Regions

namespace OpenAmpReference
namespace LoadFw

/-!
# The APU example

A request compares the end of the region with the bounds of DDR and of the OCM banks;
the release compares what `metal_io_phys()` returns for the offset one past the region,
and this is never the end but the bad address.
-/

/-- The nodes that `apu_rproc_mmap()` requests. -/
def apuRequests (lda ldaEnd : Phys) : List PowerNode :=
  onlyIf (ldaEnd ≤ 0x80000000) PowerNode.ddr ++
    onlyIf (0xFFFC0000 ≤ lda ∧ lda < 0xFFFD0000) PowerNode.ocmBank0 ++
    onlyIf (lda ≤ 0xFFFDFFFF ∧ 0xFFFD0000 ≤ ldaEnd) PowerNode.ocmBank1 ++
    onlyIf (lda ≤ 0xFFFEFFFF ∧ 0xFFFE0000 ≤ ldaEnd) PowerNode.ocmBank2 ++
    onlyIf (0xFFFF0000 ≤ ldaEnd) PowerNode.ocmBank3

/-- The nodes that `apu_rproc_shutdown()` releases. -/
def apuReleases (pa paEnd : Phys) : List PowerNode :=
  onlyIf (paEnd ≤ 0x7FFFFFFF) PowerNode.ddr ++
    onlyIf (0xFFFC0000 ≤ pa ∧ pa < 0xFFFD0000) PowerNode.ocmBank0 ++
    onlyIf (pa ≤ 0xFFFDFFFF ∧ 0xFFFD0000 ≤ paEnd) PowerNode.ocmBank1 ++
    onlyIf (pa ≤ 0xFFFEFFFF ∧ 0xFFFE0000 ≤ paEnd) PowerNode.ocmBank2 ++
    onlyIf (0xFFFF0000 ≤ paEnd) PowerNode.ocmBank3

def apu : Driver where
  refuses := fun call => call.da == metalBadPhys && call.pa == metalBadPhys
  requests := apuRequests
  translate := fun call => some call.pa
  shutdownRequests := fun _ _ => []
  releases := apuReleases

/-- `apu_rproc_mmap()` -/
def apuRprocMmap : State -> Call -> State :=
  apu.mmap

/-- `apu_rproc_shutdown()` -/
def apuRprocShutdown : (Phys -> Phys -> Phys -> Phys) -> State -> Bool -> Option (State × Int) :=
  apu.shutdown

/-- A call for the same physical and device address, which is not bad. -/
def Call.Flat (call : Call) : Prop :=
  call.pa = call.da ∧ call.da ≠ metalBadPhys

/-- In terms of the addresses of the calls: no region ends at or below `0x80000000`, and
for each OCM bank there is a call whose region touches it exactly if one is registered
that begins at or below its last address. -/
structure EveryNodeMatched (calls : List Call) : Prop where
  ddr : forall call, call ∈ calls -> 0x80000000 < call.daEnd
  ocmBank0 :
    (Exists fun call => call ∈ calls ∧ 0xFFFC0000 ≤ call.da ∧ call.da < 0xFFFD0000) ->
      Exists fun call => call ∈ calls ∧ call.allocates = true ∧
        0xFFFC0000 ≤ call.da ∧ call.da < 0xFFFD0000
  ocmBank1 :
    (Exists fun call => call ∈ calls ∧ call.da ≤ 0xFFFDFFFF ∧ 0xFFFD0000 ≤ call.daEnd) ↔
      Exists fun call => call ∈ calls ∧ call.allocates = true ∧ call.da ≤ 0xFFFDFFFF
  ocmBank2 :
    (Exists fun call => call ∈ calls ∧ call.da ≤ 0xFFFEFFFF ∧ 0xFFFE0000 ≤ call.daEnd) ↔
      Exists fun call => call ∈ calls ∧ call.allocates = true ∧ call.da ≤ 0xFFFEFFFF
  ocmBank3 : (Exists fun call => call ∈ calls ∧ 0xFFFF0000 ≤ call.daEnd) ↔
    Exists fun call => call ∈ calls ∧ call.allocates = true

/-! ## What is requested and released -/

theorem apu_refuses {call : Call} (flat : call.Flat) : apu.refuses call = false := by
  simp only [apu, beq_eq_false_iff_ne.mpr flat.2, Bool.false_and]

theorem apu_placed {call : Call} (flat : call.Flat) (pa : Phys) :
    apu.placed call = some pa ↔ call.allocates = true ∧ pa = call.da := by
  rw [Driver.placed, apu_refuses flat, if_neg Bool.false_ne_true, Option.ite_none_right_eq_some]
  refine and_congr_right fun _ => ?_
  rw [apu, Option.some.injEq, flat.1, eq_comm]

theorem mem_apuRequests {lda ldaEnd : Phys} {node : PowerNode} :
    node ∈ apuRequests lda ldaEnd ↔
      (ldaEnd ≤ 0x80000000 ∧ node = PowerNode.ddr) ∨
      ((0xFFFC0000 ≤ lda ∧ lda < 0xFFFD0000) ∧ node = PowerNode.ocmBank0) ∨
      ((lda ≤ 0xFFFDFFFF ∧ 0xFFFD0000 ≤ ldaEnd) ∧ node = PowerNode.ocmBank1) ∨
      ((lda ≤ 0xFFFEFFFF ∧ 0xFFFE0000 ≤ ldaEnd) ∧ node = PowerNode.ocmBank2) ∨
      (0xFFFF0000 ≤ ldaEnd ∧ node = PowerNode.ocmBank3) := by
  simp only [apuRequests, List.mem_append, mem_onlyIf, or_assoc]

/-- With the bad address for its end, a region is released from every bank that does not
end before it begins, and never from DDR. -/
theorem mem_apuReleases {pa : Phys} {node : PowerNode} :
    node ∈ apuReleases pa metalBadPhys ↔
      ((0xFFFC0000 ≤ pa ∧ pa < 0xFFFD0000) ∧ node = PowerNode.ocmBank0) ∨
      (pa ≤ 0xFFFDFFFF ∧ node = PowerNode.ocmBank1) ∨
      (pa ≤ 0xFFFEFFFF ∧ node = PowerNode.ocmBank2) ∨
      node = PowerNode.ocmBank3 := by
  have noDdr : ¬ metalBadPhys ≤ 0x7FFFFFFF := by decide
  have bank1 : 0xFFFD0000 ≤ metalBadPhys := by decide
  have bank2 : 0xFFFE0000 ≤ metalBadPhys := by decide
  have bank3 : 0xFFFF0000 ≤ metalBadPhys := by decide
  simp only [apuReleases, List.mem_append, mem_onlyIf, noDdr, bank1, bank2, bank3, false_and,
    false_or, and_true, true_and, or_assoc]

/-! ## The life cycle -/

variable {metalIoPhys : Phys -> Phys -> Phys -> Phys} {calls : List Call}

theorem apu_requested (flat : forall call, call ∈ calls -> call.Flat) (node : PowerNode) :
    node ∈ (calls.foldl apuRprocMmap State.initial).requested ↔
      Exists fun call => call ∈ calls ∧ node ∈ apuRequests call.da call.daEnd :=
  Driver.mem_requested fun call listed => apu_refuses (flat call listed)

theorem apu_shutdown (badBeyond : BadBeyond metalIoPhys)
    (flat : forall call, call ∈ calls -> call.Flat) (powerDown : Bool) :
    Exists fun after =>
      apuRprocShutdown metalIoPhys (calls.foldl apuRprocMmap State.initial) powerDown =
          some (after, if powerDown then 0 else -1) ∧
        after.mems = [] ∧
        after.requested = (calls.foldl apuRprocMmap State.initial).requested ∧
        forall node, node ∈ after.released ↔ Exists fun call => call ∈ calls ∧
          call.allocates = true ∧ node ∈ apuReleases call.da metalBadPhys := by
  rcases Driver.shutdown_spec badBeyond apu (apu.mmaps calls) powerDown with
    ⟨after, ended, empty, released, requested⟩
  refine ⟨after, ended, empty, ?_, fun node => ?_⟩
  · rw [requested]
    exact (congrArg _ (List.flatMap_eq_nil_iff.mpr fun _ _ => rfl)).trans (List.append_nil _)
  · have none : (apu.mmaps calls).released = [] :=
      (Driver.foldl_mmap_nodes apu calls State.initial).1
    rw [released, none, List.nil_append, List.mem_flatMap]
    refine (Driver.exists_registered apu calls
      fun pa => node ∈ apu.releases pa metalBadPhys).trans ?_
    refine exists_congr fun call => and_congr_right fun listed => ?_
    constructor
    · rintro ⟨pa, placed, holds⟩
      rcases (apu_placed (flat call listed) pa).mp placed with ⟨allocates, rfl⟩
      exact ⟨allocates, holds⟩
    · rintro ⟨allocates, holds⟩
      exact ⟨call.da, (apu_placed (flat call listed) call.da).mpr ⟨allocates, rfl⟩, holds⟩

/-- The nodes of all calls agree with those of all registered regions, node by node. -/
theorem apu_nodes_iff (calls : List Call) :
    (forall node, (Exists fun call => call ∈ calls ∧ call.allocates = true ∧
        node ∈ apuReleases call.da metalBadPhys) ↔
      Exists fun call => call ∈ calls ∧ node ∈ apuRequests call.da call.daEnd) ↔
      EveryNodeMatched calls := by
  simp only [mem_apuRequests, mem_apuReleases]
  constructor
  · intro agree
    have ddr := agree PowerNode.ddr
    have ocmBank0 := agree PowerNode.ocmBank0
    have ocmBank1 := agree PowerNode.ocmBank1
    have ocmBank2 := agree PowerNode.ocmBank2
    have ocmBank3 := agree PowerNode.ocmBank3
    simp only [reduceCtorEq, and_false, or_false, false_or, and_true, exists_false, false_iff,
      not_exists, not_and] at ddr ocmBank0 ocmBank1 ocmBank2 ocmBank3
    exact {
      ddr := fun call listed => BitVec.not_le.mp (ddr call listed)
      ocmBank0 := ocmBank0.mpr
      ocmBank1 := ocmBank1.symm
      ocmBank2 := ocmBank2.symm
      ocmBank3 := ocmBank3.symm }
  · intro matched node
    cases node with
    | ddr =>
        simp only [reduceCtorEq, and_false, or_false, and_true, exists_false, false_iff,
          not_exists, not_and]
        exact fun call listed => BitVec.not_le.mpr (matched.ddr call listed)
    | ocmBank0 =>
        simp only [reduceCtorEq, and_false, or_false, false_or, and_true]
        refine ⟨?_, matched.ocmBank0⟩
        rintro ⟨call, listed, _, inside⟩
        exact ⟨call, listed, inside⟩
    | ocmBank1 =>
        simp only [reduceCtorEq, and_false, or_false, false_or, and_true]
        exact matched.ocmBank1.symm
    | ocmBank2 =>
        simp only [reduceCtorEq, and_false, or_false, false_or, and_true]
        exact matched.ocmBank2.symm
    | ocmBank3 =>
        simp only [reduceCtorEq, and_false, false_or, and_true]
        exact matched.ocmBank3.symm
    | tcm0A | tcm1A | tcm0B | tcm1B =>
        simp only [reduceCtorEq, and_false, or_false, exists_false]

/-- A shutdown after any calls ends and leaves no region, and it releases what the calls have
requested exactly if every node is matched. The calls are flat, as the loader makes them: the
device address is the physical one. `shutdown` takes the end of a region from `metal_io_phys()`
at an offset that the region does not have, so the answer is bad; nothing else is assumed of it.
-/
theorem apu_balances_iff (badBeyond : BadBeyond metalIoPhys)
    (flat : forall call, call ∈ calls -> call.Flat) (powerDown : Bool) :
    Exists fun after =>
      apuRprocShutdown metalIoPhys (calls.foldl apuRprocMmap State.initial) powerDown =
          some (after, if powerDown then 0 else -1) ∧
        after.mems = [] ∧
        (Balanced (calls.foldl apuRprocMmap State.initial) after ↔ EveryNodeMatched calls) := by
  rcases apu_shutdown badBeyond flat powerDown with ⟨after, ended, empty, requested, released⟩
  refine ⟨after, ended, empty, ?_⟩
  rw [← apu_nodes_iff]
  constructor
  · intro balanced node
    rw [← released node, balanced.released node, apu_requested flat]
  · intro agree
    exact {
      released := fun node => by rw [released node, agree node, apu_requested flat]
      requested := requested
      empty := empty }

/-- A translation as it is documented. -/
def documentedIoPhys (base size offset : Phys) : Phys :=
  if offset < size then base + offset else metalBadPhys

theorem documentedIoPhys_badBeyond : BadBeyond documentedIoPhys :=
  fun _ _ _ beyond => if_neg (BitVec.not_lt.mpr beyond)

/-- A call for a page of the last OCM bank. -/
def ocmCall : Call where
  pa := 0xFFFF0000
  da := 0xFFFF0000
  size := 0x1000
  mem := true
  io := true

theorem ocmCall_balances :
    Exists fun after =>
      apuRprocShutdown documentedIoPhys ([ocmCall].foldl apuRprocMmap State.initial) true =
          some (after, 0) ∧
        Balanced ([ocmCall].foldl apuRprocMmap State.initial) after := by
  have flat : forall call, call ∈ [ocmCall] -> call.Flat := by
    intro call listed
    cases List.mem_singleton.mp listed
    exact ⟨rfl, by decide⟩
  have matched : EveryNodeMatched [ocmCall] := {
    ddr := by decide
    ocmBank0 := by decide
    ocmBank1 := by decide
    ocmBank2 := by decide
    ocmBank3 := by decide }
  rcases apu_balances_iff documentedIoPhys_badBeyond flat true with ⟨after, ended, _, balanced⟩
  exact ⟨after, ended, balanced.mpr matched⟩

/-- A call for a page of DDR. -/
def ddrCall : Call where
  pa := 0x100000
  da := 0x100000
  size := 0x1000
  mem := true
  io := true

/-- DDR is requested for the page, and three OCM banks are released. -/
theorem ddrCall_not_balanced :
    BadBeyond documentedIoPhys ∧ ddrCall.Flat ∧
      ([ddrCall].foldl apuRprocMmap State.initial).requested = [PowerNode.ddr] ∧
      Exists fun after =>
        apuRprocShutdown documentedIoPhys ([ddrCall].foldl apuRprocMmap State.initial) true =
            some (after, 0) ∧
          after.released = [PowerNode.ocmBank1, PowerNode.ocmBank2, PowerNode.ocmBank3] ∧
          ¬ Balanced ([ddrCall].foldl apuRprocMmap State.initial) after := by
  refine ⟨documentedIoPhys_badBeyond, ⟨rfl, by decide⟩, by decide, _, rfl, by decide, ?_⟩
  intro balanced
  exact absurd ((balanced.released PowerNode.ddr).mpr (by decide)) (by decide)

/-! ## Every node is powered -/

/-- The addresses of DDR and of the four OCM banks. -/
def PowerNode.Spans : PowerNode -> Nat -> Prop
  | ddr, address => address < 0x80000000
  | ocmBank0, address => 0xFFFC0000 ≤ address ∧ address < 0xFFFD0000
  | ocmBank1, address => 0xFFFD0000 ≤ address ∧ address < 0xFFFE0000
  | ocmBank2, address => 0xFFFE0000 ≤ address ∧ address < 0xFFFF0000
  | ocmBank3, address => 0xFFFF0000 ≤ address ∧ address < 0x100000000
  | tcm0A, _ => False
  | tcm1A, _ => False
  | tcm0B, _ => False
  | tcm1B, _ => False

/-- An address of the region, by its integers. -/
def Call.Holds (call : Call) (address : Nat) : Prop :=
  call.da.toNat ≤ address ∧ address < call.da.toNat + call.size.toNat

/-- The nodes that one call requests. -/
def newRequests (state : State) (call : Call) : List PowerNode :=
  (apuRprocMmap state call).requested.drop state.requested.length

/-- Each node that holds an address of the region is requested. -/
def Powered (state : State) (call : Call) : Prop :=
  forall node, (Exists fun address => node.Spans address ∧ call.Holds address) ->
    node ∈ newRequests state call

/-- The region ends before the address space does, it does not reach beyond DDR from below,
and it does not reach the OCM from below. -/
structure Call.Settled (call : Call) : Prop where
  bounded : call.da.toNat + call.size.toNat < 0x100000000
  ddr : ¬ (call.da.toNat < 0x80000000 ∧ 0x80000000 < call.da.toNat + call.size.toNat)
  ocm : ¬ (call.da.toNat < 0xFFFC0000 ∧ 0xFFFC0000 < call.da.toNat + call.size.toNat)

theorem mem_newRequests {state : State} {call : Call} {node : PowerNode} :
    node ∈ newRequests state call ↔
      ¬ (call.da = metalBadPhys ∧ call.pa = metalBadPhys) ∧
        node ∈ apuRequests call.da call.daEnd := by
  rw [newRequests, apuRprocMmap, (Driver.mmap_nodes apu state call).2.1, List.drop_left]
  by_cases bad : call.da = metalBadPhys ∧ call.pa = metalBadPhys
  · have refused : apu.refuses call = true := by
      simp only [apu, bad, beq_self_eq_true, Bool.and_self]
    rw [refused, if_pos rfl]
    exact iff_of_false List.not_mem_nil fun both => both.1 bad
  · have accepted : apu.refuses call = false := by
      rw [apu, Bool.and_eq_false_iff, beq_eq_false_iff_ne, beq_eq_false_iff_ne]
      exact not_and_or.mp bad
    rw [accepted, if_neg Bool.false_ne_true, and_iff_right bad]
    rfl

/-- Before the end of the address space the comparisons are those of the integers. -/
theorem mem_apuRequests_of_bounded {call : Call}
    (bounded : call.da.toNat + call.size.toNat < 0x100000000) {node : PowerNode} :
    node ∈ apuRequests call.da call.daEnd ↔
      (call.da.toNat + call.size.toNat ≤ 0x80000000 ∧ node = PowerNode.ddr) ∨
      ((0xFFFC0000 ≤ call.da.toNat ∧ call.da.toNat < 0xFFFD0000) ∧
        node = PowerNode.ocmBank0) ∨
      ((call.da.toNat ≤ 0xFFFDFFFF ∧ 0xFFFD0000 ≤ call.da.toNat + call.size.toNat) ∧
        node = PowerNode.ocmBank1) ∨
      ((call.da.toNat ≤ 0xFFFEFFFF ∧ 0xFFFE0000 ≤ call.da.toNat + call.size.toNat) ∧
        node = PowerNode.ocmBank2) ∨
      (0xFFFF0000 ≤ call.da.toNat + call.size.toNat ∧ node = PowerNode.ocmBank3) := by
  have last : call.daEnd.toNat = call.da.toNat + call.size.toNat := by
    rw [Call.daEnd, BitVec.toNat_add, Nat.mod_eq_of_lt bounded]
  rw [mem_apuRequests]
  simp only [BitVec.le_def, BitVec.lt_def, last]
  rfl

/-- A region that ends with the address space needs the last bank, which is not requested. -/
theorem ocmBank3_not_requested {call : Call}
    (ends : call.da.toNat + call.size.toNat = 0x100000000) :
    PowerNode.ocmBank3 ∉ apuRequests call.da call.daEnd := by
  have last : call.daEnd = 0 := by
    apply BitVec.eq_of_toNat_eq
    rw [Call.daEnd, BitVec.toNat_add, ends]
    rfl
  rw [mem_apuRequests, last]
  simp only [reduceCtorEq, and_false, false_or, and_true]
  decide

/-- A call powers every memory it maps exactly if its region is settled. The region is not empty
and ends within the address space of 32 bits; its end and those of the banks are computed in 32
bits, as the driver does. -/
theorem apu_powers_iff (state : State) {call : Call} (positive : 0 < call.size)
    (ends : call.da.toNat + call.size.toNat ≤ 0x100000000) :
    Powered state call ↔ call.Settled := by
  have nonempty : 0 < call.size.toNat := positive
  constructor
  · intro powered
    have bounded : call.da.toNat + call.size.toNat < 0x100000000 := by
      by_contra reaches
      have whole : call.da.toNat + call.size.toNat = 0x100000000 := by omega
      have below := call.da.isLt
      have needed := powered PowerNode.ocmBank3
        ⟨0xFFFFFFFF, ⟨by decide, by decide⟩, by omega, by omega⟩
      exact ocmBank3_not_requested whole (mem_newRequests.mp needed).2
    refine ⟨bounded, fun reach => ?_, fun reach => ?_⟩
    · have needed := powered PowerNode.ddr ⟨call.da.toNat, reach.1, Nat.le_refl _, by omega⟩
      have requested := (mem_newRequests.mp needed).2
      simp only [mem_apuRequests_of_bounded bounded, reduceCtorEq, and_false, or_false,
        and_true] at requested
      omega
    · have needed := powered PowerNode.ocmBank0
        ⟨0xFFFC0000, ⟨by decide, by decide⟩, by omega, by omega⟩
      have requested := (mem_newRequests.mp needed).2
      simp only [mem_apuRequests_of_bounded bounded, reduceCtorEq, and_false, or_false, false_or,
        and_true] at requested
      omega
  · rintro settled node ⟨address, spans, first, last⟩
    have bounded := settled.bounded
    have accepted : ¬ (call.da = metalBadPhys ∧ call.pa = metalBadPhys) := by
      rintro ⟨bad, _⟩
      have highest : call.da.toNat = 0xFFFFFFFF := congrArg BitVec.toNat bad
      omega
    refine mem_newRequests.mpr ⟨accepted, (mem_apuRequests_of_bounded bounded).mpr ?_⟩
    cases node with
    | ddr =>
        have within : address < 0x80000000 := spans
        have reach := settled.ddr
        exact Or.inl ⟨by omega, rfl⟩
    | ocmBank0 =>
        have within : 0xFFFC0000 ≤ address ∧ address < 0xFFFD0000 := spans
        have reach := settled.ocm
        exact Or.inr (Or.inl ⟨by omega, rfl⟩)
    | ocmBank1 =>
        have within : 0xFFFD0000 ≤ address ∧ address < 0xFFFE0000 := spans
        exact Or.inr (Or.inr (Or.inl ⟨by omega, rfl⟩))
    | ocmBank2 =>
        have within : 0xFFFE0000 ≤ address ∧ address < 0xFFFF0000 := spans
        exact Or.inr (Or.inr (Or.inr (Or.inl ⟨by omega, rfl⟩)))
    | ocmBank3 =>
        have within : 0xFFFF0000 ≤ address ∧ address < 0x100000000 := spans
        exact Or.inr (Or.inr (Or.inr (Or.inr ⟨by omega, rfl⟩)))
    | tcm0A | tcm1A | tcm0B | tcm1B => exact absurd spans not_false

/-- The page of the last bank is powered. -/
theorem ocmCall_powered : Powered State.initial ocmCall := by
  refine (apu_powers_iff State.initial (by decide) (by decide)).mpr ?_
  exact ⟨by decide, by decide, by decide⟩

/-- A call for the whole last bank. -/
def bank3Call : Call where
  pa := 0xFFFF0000
  da := 0xFFFF0000
  size := 0x10000
  mem := true
  io := true

/-- The end of the last bank is computed to be zero: DDR is requested, and no bank. -/
theorem bank3Call_not_powered :
    0 < bank3Call.size ∧ bank3Call.da.toNat + bank3Call.size.toNat ≤ 0x100000000 ∧
      newRequests State.initial bank3Call = [PowerNode.ddr] ∧
      (apuRprocMmap State.initial bank3Call).mems ≠ [] ∧
      ¬ Powered State.initial bank3Call := by
  refine ⟨by decide, by decide, by decide, by decide, fun powered => ?_⟩
  have needed := powered PowerNode.ocmBank3
    ⟨0xFFFF0000, ⟨by decide, by decide⟩, by decide, by decide⟩
  exact absurd needed (by decide)

end LoadFw
end OpenAmpReference
