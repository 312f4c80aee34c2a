import OpenAmpReference.Library.BlockPool
import OpenAmpReference.LoadFw.Rpu

namespace OpenAmpReference
namespace LoadFw

/-!
# The banks behind a region of the TCM

Both examples for the RPU decide bank by bank whether a region needs it, each in tests
of its own.  The first test of a core bounds where the region begins, every other one
also where it ends, and both of these bounds are inclusive.  A region that shares an
address with a bank passes the test of the bank; one that only touches it may do so, too.
-/

/-! ## The tests -/

/-- A condition of `mmap` on the two ends of a region. -/
inductive BankTest
  | below (limit : Phys)
  | spans (latest reached : Phys)
  deriving DecidableEq, Repr

namespace BankTest

def Holds (da daEnd : Phys) : BankTest -> Prop
  | below limit => da < limit
  | spans latest reached => da ≤ latest ∧ reached ≤ daEnd

/-- The node is requested if the test holds. -/
def requests (node : PowerNode) (da daEnd : Phys) : BankTest -> List PowerNode
  | below limit => onlyIf (da < limit) node
  | spans latest reached => onlyIf (da ≤ latest ∧ reached ≤ daEnd) node

theorem mem_requests {node : PowerNode} {da daEnd : Phys} {test : BankTest}
    (holds : test.Holds da daEnd) : node ∈ test.requests node da daEnd := by
  cases test with
  | below limit => exact mem_onlyIf.mpr ⟨holds, rfl⟩
  | spans latest reached => exact mem_onlyIf.mpr ⟨holds, rfl⟩

/-- The bounds leave no address of the bank out. -/
def Covers (bank : Extent) : BankTest -> Prop
  | below limit => bank.finish ≤ limit.toNat
  | spans latest reached => bank.finish ≤ latest.toNat + 1 ∧ reached.toNat ≤ bank.start + 1

instance (bank : Extent) (test : BankTest) : Decidable (test.Covers bank) :=
  match test with
  | below _ => inferInstanceAs (Decidable (_ ≤ _))
  | spans _ _ => inferInstanceAs (Decidable (_ ∧ _))

/-- A region that shares an address with the bank passes a test that covers the bank. -/
theorem Covers.holds {bank : Extent} {test : BankTest} (covers : test.Covers bank)
    {da daEnd : Phys} {region : Extent} (start : region.start = da.toNat)
    (finish : region.finish = daEnd.toNat) (meets : bank.Meets region) :
    test.Holds da daEnd := by
  rcases meets.crossed with ⟨bankFirst, regionFirst⟩
  rw [finish] at bankFirst
  rw [start] at regionFirst
  cases test with
  | below limit => exact BitVec.lt_def.mpr (Nat.lt_of_lt_of_le regionFirst covers)
  | spans latest reached =>
      rcases covers with ⟨late, early⟩
      constructor
      · exact BitVec.le_def.mpr (Nat.le_of_lt_succ (Nat.lt_of_lt_of_le regionFirst late))
      · exact BitVec.le_def.mpr (Nat.le_trans early bankFirst)

end BankTest

/-- The requests of `rpu_rproc_mmap()`, each with its test. -/
def rpuTests : Core -> List (PowerNode × BankTest)
  | .rpu0 | .rpu =>
      [(PowerNode.tcm0A, .below 0x10000), (PowerNode.tcm1A, .spans 0x20000 0x10000),
        (PowerNode.tcm0B, .spans 0x30000 0x20000), (PowerNode.tcm1B, .spans 0x40000 0x30000)]
  | .rpu1 => [(PowerNode.tcm1A, .below 0x10000), (PowerNode.tcm1B, .spans 0x30000 0x20000)]

/-- The requests of `r5_rproc_mmap()`, each with its test. -/
def r5Tests : Core -> List (PowerNode × BankTest)
  | .rpu0 | .rpu =>
      [(PowerNode.tcm0A, .below 0x10000), (PowerNode.tcm1A, .spans 0x20000 0x10000),
        (PowerNode.tcm0B, .spans 0x30000 0x20000), (PowerNode.tcm1B, .spans 0x40000 0x30000)]
  | .rpu1 => [(PowerNode.tcm1A, .below 0x10000), (PowerNode.tcm1B, .spans 0x30000 0x20000)]

def Variant.tests : Variant -> Core -> List (PowerNode × BankTest)
  | .rpu => rpuTests
  | .r5 => r5Tests

/-- The nodes that are requested for the region, one test after the other. -/
def Variant.nodes (variant : Variant) (core : Core) (call : Call) : List PowerNode :=
  (variant.tests core).flatMap fun entry => entry.2.requests entry.1 call.da call.daEnd

/-- The two copies of the tests come to the same nodes. -/
theorem Variant.nodes_eq (variant : Variant) (core : Core) (call : Call) :
    variant.nodes core call = tcmNodes core call.da call.daEnd := by
  cases variant <;> cases core <;>
    simp only [Variant.nodes, Variant.tests, rpuTests, r5Tests, tcmNodes, BankTest.requests,
      List.flatMap_cons, List.flatMap_nil, List.append_nil, List.append_assoc]

/-! ## The banks -/

/-- The banks of a core at the device addresses where it finds them, 64 kilobytes each. -/
def Core.banks : Core -> List (PowerNode × Extent)
  | .rpu0 | .rpu =>
      [(PowerNode.tcm0A, { start := 0, length := 0x10000 }),
        (PowerNode.tcm1A, { start := 0x10000, length := 0x10000 }),
        (PowerNode.tcm0B, { start := 0x20000, length := 0x10000 }),
        (PowerNode.tcm1B, { start := 0x30000, length := 0x10000 })]
  | .rpu1 =>
      [(PowerNode.tcm1A, { start := 0, length := 0x10000 }),
        (PowerNode.tcm1B, { start := 0x20000, length := 0x10000 })]

/-- The device addresses of the region -/
def Call.region (call : Call) : Extent where
  start := call.da.toNat
  length := call.size.toNat

/-- The region begins in the TCM or right behind it, is not empty, and ends in the address
space. -/
structure Call.InWindow (call : Call) : Prop where
  low : call.da ≤ 0x40000
  sized : 0 < call.size
  ends : call.da.toNat + call.size.toNat < 2 ^ 32

/-- Every bank of the core that the region shares an address with is among the nodes. -/
def Covered (core : Core) (call : Call) (nodes : List PowerNode) : Prop :=
  forall node bank, (node, bank) ∈ core.banks -> bank.Meets call.region -> node ∈ nodes

/-- Every bank of a core has a test that covers it. -/
theorem banks_tested (variant : Variant) (core : Core) :
    forall node bank, (node, bank) ∈ core.banks ->
      Exists fun test => (node, test) ∈ variant.tests core ∧ test.Covers bank := by
  have table : forall entry, entry ∈ core.banks ->
      Exists fun found => found ∈ variant.tests core ∧ found.1 = entry.1 ∧
        found.2.Covers entry.2 := by
    cases variant <;> cases core <;> decide
  intro node bank listed
  rcases table (node, bank) listed with ⟨⟨_, test⟩, found, rfl, covers⟩
  exact ⟨test, found, covers⟩

/-- What the tests request covers every bank that the region meets. -/
theorem nodes_covered {call : Call} (inWindow : call.InWindow) (variant : Variant)
    (core : Core) : Covered core call (variant.nodes core call) := by
  intro node bank listed meets
  have finish : call.region.finish = call.daEnd.toNat := by
    rw [Call.daEnd, BitVec.toNat_add, Nat.mod_eq_of_lt inWindow.ends]
    rfl
  rcases banks_tested variant core node bank listed with ⟨test, found, covers⟩
  rw [Variant.nodes, List.mem_flatMap]
  exact ⟨(node, test), found, BankTest.mem_requests (covers.holds rfl finish meets)⟩

/-! ## The calls -/

/-- For a region in the window neither example looks at the physical address it is given. -/
theorem mmap_window {call : Call} (inWindow : call.InWindow) (variant : Variant) (core : Core)
    (state : State) :
    (variant.mmap core state call).requested = state.requested ++ variant.nodes core call ∧
      (variant.mmap core state call).mems = state.mems ++
        if call.allocates then
          [{ node := state.created, pa := core.tcmBase + call.da, da := call.da,
             size := call.size }]
        else [] := by
  have low := inWindow.low
  have address := tcmAddress_low low core
  have nodes : tcmNodesBelow core call.da call.daEnd = variant.nodes core call := by
    rw [variant.nodes_eq core call]
    exact if_pos low
  cases variant with
  | rpu =>
      have accepted : (rpuDriver core).refuses call = false := by
        simp only [rpuDriver, beq_eq_false_iff_ne.mpr (valid_of_low low), Bool.false_and]
      have translated : (rpuDriver core).translate call = some (core.tcmBase + call.da) :=
        congrArg some address
      exact Driver.mmap_translated state accepted nodes translated
  | r5 =>
      have translated : (r5Driver core).translate call = some (core.tcmBase + call.da) := by
        simp only [r5Driver, address, if_neg (core.tcmBase_add_valid low)]
      exact Driver.mmap_translated state rfl nodes translated

/-- The call registers the region. -/
def Registers (variant : Variant) (core : Core) (state : State) (call : Call) (mem : Mem) : Prop :=
  (variant.mmap core state call).mems = state.mems ++ [mem]

/-- The registered address is the fixed base and the device address. -/
theorem Registers.address {variant : Variant} {core : Core} {state : State} {call : Call}
    {mem : Mem} (inWindow : call.InWindow) (registers : Registers variant core state call mem) :
    mem.pa = core.tcmBase + call.da := by
  rw [Registers, (mmap_window inWindow variant core state).2] at registers
  have stored := List.append_cancel_left registers
  split at stored
  · rw [← (List.cons.inj stored).1]
  · exact nomatch stored

/-- Both examples request every bank of the core that the region meets, and the same nodes.
They register the region at the same address, the fixed base and the device address, so
that the distances of the device addresses are kept. -/
theorem tcm_covered_and_translated (core : Core) (call : Call) (inWindow : call.InWindow) :
    (forall (variant : Variant) (state : State),
        (variant.mmap core state call).requested =
            state.requested ++ variant.nodes core call ∧
          Covered core call (variant.nodes core call)) ∧
      (forall node, node ∈ Variant.rpu.nodes core call ↔ node ∈ Variant.r5.nodes core call) ∧
      (Exists fun pa : Phys => pa.toNat = core.tcmBase.toNat + call.da.toNat ∧
        forall (variant : Variant) (state : State),
          (variant.mmap core state call).mems = state.mems ++
            if call.allocates then
              [{ node := state.created, pa := pa, da := call.da, size := call.size }]
            else []) ∧
      forall other : Call, other.InWindow ->
        forall (variant : Variant) (state : State) (mem : Mem)
          (variant' : Variant) (state' : State) (mem' : Mem),
          Registers variant core state call mem -> Registers variant' core state' other mem' ->
            (call.da ≠ other.da -> mem.pa ≠ mem'.pa) ∧
              (mem.pa.toNat : Int) - mem'.pa.toNat = (call.da.toNat : Int) - other.da.toNat := by
  refine ⟨fun variant state => ?_, fun node => ?_, ⟨core.tcmBase + call.da, ?_, ?_⟩, ?_⟩
  · exact ⟨(mmap_window inWindow variant core state).1, nodes_covered inWindow variant core⟩
  · rw [Variant.nodes_eq, Variant.nodes_eq]
  · exact core.tcmBase_add inWindow.low
  · exact fun variant state => (mmap_window inWindow variant core state).2
  · intro other otherInWindow variant state mem variant' state' mem' registers registers'
    have first := registers.address inWindow
    have second := registers'.address otherInWindow
    constructor
    · intro apart same
      rw [first, second] at same
      exact apart ((BitVec.add_right_inj core.tcmBase).mp same)
    · rw [first, second, core.tcmBase_add inWindow.low, core.tcmBase_add otherInWindow.low]
      omega

/-- A call for a page that begins at the end of the second bank. -/
def boundaryCall : Call where
  pa := 0
  da := 0x20000
  size := 0x1000
  mem := true
  io := true

/-- It needs the third bank, and the second one is requested, too. -/
theorem boundaryCall_covered :
    boundaryCall.InWindow ∧
      (Variant.rpu.mmap Core.rpu State.initial boundaryCall).requested =
        [PowerNode.tcm1A, PowerNode.tcm0B] ∧
      Covered Core.rpu boundaryCall [PowerNode.tcm1A, PowerNode.tcm0B] := by
  have inWindow : boundaryCall.InWindow := ⟨by decide, by decide, by decide⟩
  have whole := (tcm_covered_and_translated Core.rpu boundaryCall inWindow).1 Variant.rpu
    State.initial
  have nodes : Variant.rpu.nodes Core.rpu boundaryCall = [PowerNode.tcm1A, PowerNode.tcm0B] := by
    decide
  rw [nodes] at whole
  exact ⟨inWindow, whole.1, whole.2⟩

end LoadFw
end OpenAmpReference
