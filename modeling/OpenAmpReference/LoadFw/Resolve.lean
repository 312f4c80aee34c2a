import OpenAmpReference.LoadFw.Apu
import OpenAmpReference.LoadFw.Rpu
import Mathlib.Tactic.SplitIfs

namespace OpenAmpReference
namespace LoadFw

/-!
# What mmap answers

Besides the nodes and the region, a call of `mmap` leaves two addresses and returns a third.
The three examples treat an unknown address in their own ways: the bad address is a number
like any other, which is registered and translated.  What `metal_io_phys_to_virt()` returns
is a parameter; null is zero.
-/

/-- The returned address, the addresses at `pa` and `da`, and the state -/
structure Answer where
  ret : Phys
  pa : Phys
  da : Phys
  state : State
  deriving DecidableEq, Repr

/-- The power nodes are requested. -/
def State.request (state : State) (nodes : List PowerNode) : State :=
  { state with requested := state.requested ++ nodes }

/-- A region is registered. -/
def State.register (state : State) (pa da size : Phys) : State :=
  { state with
    mems := state.mems ++ [{ node := state.created, pa := pa, da := da, size := size }]
    created := state.created + 1 }

/-- `mmap` returns null. -/
def Answer.null (state : State) (call : Call) : Answer where
  ret := 0
  pa := call.pa
  da := call.da
  state := state

section

variable (ioPhysToVirt : Phys -> Phys -> Phys -> Phys)

/-- The common end of the operations, for the physical address they have found.  The region
lies at that address, physically and virtually. -/
def conclude (state : State) (call : Call) (lpa : Phys) : Answer :=
  if call.allocates = true then
    { ret := ioPhysToVirt lpa call.size lpa
      pa := lpa
      da := call.da
      state := state.register lpa call.da call.size }
  else Answer.null state call

/-- `apu_rproc_mmap()` -/
def apuAnswer (state : State) (call : Call) : Answer :=
  if call.da = metalBadPhys ∧ call.pa = metalBadPhys then Answer.null state call
  else
    conclude ioPhysToVirt (state.request (apuRequests call.da call.daEnd)) call call.pa

/-- The physical address and the nodes that the two examples for the RPU find, if the core
is one of theirs. -/
def tcmLocate (cpu : Option Core) (call : Call) : Option (Phys × List PowerNode) :=
  if call.da ≤ 0x40000 then
    match cpu with
    | some core => some (core.tcmBase + call.da, tcmNodes core call.da call.daEnd)
    | none => none
  else some (call.pa, [])

/-- `rpu_rproc_mmap()` -/
def rpuAnswer (cpu : Option Core) (state : State) (call : Call) : Answer :=
  if call.da = metalBadPhys ∧ call.pa = metalBadPhys then Answer.null state call
  else
    match tcmLocate cpu call with
    | none => Answer.null state call
    | some (lpa, nodes) => conclude ioPhysToVirt (state.request nodes) call lpa

/-- `r5_rproc_mmap()` -/
def r5Answer (cpu : Option Core) (state : State) (call : Call) : Answer :=
  match tcmLocate cpu call with
  | none => Answer.null state call
  | some (located, nodes) =>
      let lpa := if located = metalBadPhys then call.da else located
      if lpa = metalBadPhys then Answer.null (state.request nodes) call
      else conclude ioPhysToVirt (state.request nodes) call lpa

end

/-- The three examples, two of them with the core they are set up for, if this is one of
the cores of the RPU -/
inductive Platform
  | apu
  | rpu (cpu : Option Core)
  | r5 (cpu : Option Core)
  deriving DecidableEq, Repr

namespace Platform

def answer (platform : Platform) (ioPhysToVirt : Phys -> Phys -> Phys -> Phys) (state : State)
    (call : Call) : Answer :=
  match platform with
  | apu => apuAnswer ioPhysToVirt state call
  | rpu cpu => rpuAnswer ioPhysToVirt cpu state call
  | r5 cpu => r5Answer ioPhysToVirt cpu state call

/-- The core whose TCM is mapped. -/
def core : Platform -> Option Core
  | apu => none
  | rpu cpu => cpu
  | r5 cpu => cpu

/-- A bad physical address is registered as it is. -/
def PassesOn (platform : Platform) (call : Call) : Prop :=
  match platform with
  | apu => True
  | rpu _ => ¬ call.da ≤ 0x40000
  | r5 _ => False

end Platform

/-- The translation of the first address of a region that lies at the same physical and
virtual address. -/
def FlatMapping (ioPhysToVirt : Phys -> Phys -> Phys -> Phys) : Prop :=
  forall base size, base ≠ metalBadPhys ->
    ioPhysToVirt base size base = if size = 0 then 0 else base

/-- The addresses of a call are resolved: both are valid, the region is registered for them,
the returned address is the physical one, and outside the TCM this is the one given, or the
device address if there was none. -/
structure Answer.Resolved (answer : Answer) (state : State) (call : Call) : Prop where
  pa : answer.pa ≠ metalBadPhys
  da : answer.da ≠ metalBadPhys
  registered : Exists fun mem => answer.state.mems = state.mems ++ [mem] ∧
    mem.pa = answer.pa ∧ mem.da = answer.da
  flat : answer.ret = answer.pa
  given : ¬ call.InTcm -> answer.pa = if call.pa = metalBadPhys then call.da else call.pa

/-- Which calls do not return null with an address that is bad or not the given one: with
both allocations and a size, the device address is bad only if the physical address is that
of null; the first address behind the TCM comes with the address to which it is moved; and
where a bad physical address is registered, its translation is null. -/
structure Sound (platform : Platform) (ioPhysToVirt : Phys -> Phys -> Phys -> Phys)
    (call : Call) : Prop where
  da : call.allocates = true -> call.size ≠ 0 -> call.da = metalBadPhys -> call.pa = 0
  edge : call.allocates = true -> call.size ≠ 0 -> call.da = 0x40000 ->
    forall core, platform.core = some core -> call.pa = core.tcmBase + 0x40000
  pa : call.allocates = true -> call.pa = metalBadPhys -> platform.PassesOn call ->
    ioPhysToVirt metalBadPhys call.size metalBadPhys = 0

/-! ## The state -/

theorem tcmLocate_some {call : Call} (core : Core) (low : call.da ≤ 0x40000) :
    tcmLocate (some core) call =
      some (core.tcmBase + call.da, tcmNodes core call.da call.daEnd) :=
  if_pos low

theorem tcmLocate_none {call : Call} (low : call.da ≤ 0x40000) : tcmLocate none call = none :=
  if_pos low

theorem tcmLocate_high {call : Call} (cpu : Option Core) (high : ¬ call.da ≤ 0x40000) :
    tcmLocate cpu call = some (call.pa, []) :=
  if_neg high

/-- For a core of the RPU the address and the nodes are those of its driver. -/
theorem tcmLocate_core (core : Core) (call : Call) :
    tcmLocate (some core) call =
      some (tcmAddress core call, tcmNodesBelow core call.da call.daEnd) := by
  rw [tcmAddress, tcmNodesBelow]
  by_cases low : call.da ≤ 0x40000
  · rw [tcmLocate_some core low, if_pos low, if_pos low]
  · rw [tcmLocate_high (some core) low, if_neg low, if_neg low]

variable {ioPhysToVirt : Phys -> Phys -> Phys -> Phys}

theorem apuAnswer_state (state : State) (call : Call) :
    (apuAnswer ioPhysToVirt state call).state = apuRprocMmap state call := by
  simp only [apuAnswer, apuRprocMmap, Driver.mmap, apu, conclude, Bool.and_eq_true, beq_iff_eq]
  split_ifs <;> rfl

theorem rpuAnswer_state (core : Core) (state : State) (call : Call) :
    (rpuAnswer ioPhysToVirt (some core) state call).state = rpuRprocMmap core state call := by
  simp only [rpuAnswer, tcmLocate_core, rpuRprocMmap, Driver.mmap, rpuDriver, conclude,
    Bool.and_eq_true, beq_iff_eq]
  split_ifs <;> rfl

theorem r5Answer_state (core : Core) (state : State) (call : Call) :
    (r5Answer ioPhysToVirt (some core) state call).state = r5RprocMmap core state call := by
  simp only [r5Answer, tcmLocate_core, r5RprocMmap, Driver.mmap, r5Driver, conclude,
    Bool.false_eq_true, if_false]
  split_ifs <;> rfl

/-! ## The addresses -/

section

variable {state : State} {nodes : List PowerNode} {call : Call}

/-- A call that returns an address has resolved the ones it was given. -/
def Answer.Resolves (answer : Answer) (state : State) (call : Call) : Prop :=
  answer.ret ≠ 0 -> answer.Resolved state call

theorem null_resolves (state other : State) (call : Call) :
    (Answer.null other call).Resolves state call :=
  fun returned => absurd rfl returned

/-- With a valid physical address it is the device address that decides, and whether the
physical one was given. -/
theorem conclude_resolves_iff (flat : FlatMapping ioPhysToVirt) {lpa : Phys}
    (valid : lpa ≠ metalBadPhys) :
    (conclude ioPhysToVirt (state.request nodes) call lpa).Resolves state call ↔
      (call.allocates = true -> call.size ≠ 0 -> lpa ≠ 0 ->
        call.da ≠ metalBadPhys ∧
          (¬ call.InTcm -> lpa = if call.pa = metalBadPhys then call.da else call.pa)) := by
  by_cases allocates : call.allocates = true
  · have translated := flat lpa call.size valid
    rw [conclude, if_pos allocates, forall_prop_of_true allocates]
    constructor
    · intro resolves sized placed
      have returned : ioPhysToVirt lpa call.size lpa ≠ 0 := by
        rwa [translated, if_neg sized]
      have resolved := resolves returned
      exact ⟨resolved.da, resolved.given⟩
    · intro known returned
      have sized : call.size ≠ 0 := by
        intro empty
        exact returned (translated.trans (if_pos empty))
      rw [if_neg sized] at translated
      have placed : lpa ≠ 0 := fun zero => returned (translated.trans zero)
      exact {
        pa := valid
        da := (known sized placed).1
        registered := ⟨_, rfl, rfl, rfl⟩
        flat := translated
        given := (known sized placed).2 }
  · rw [conclude, if_neg allocates]
    exact iff_of_true (null_resolves state _ call) fun succeeds => absurd succeeds allocates

/-- A bad physical address that is registered is never resolved. -/
theorem conclude_bad_resolves_iff :
    (conclude ioPhysToVirt (state.request nodes) call metalBadPhys).Resolves state call ↔
      (call.allocates = true -> ioPhysToVirt metalBadPhys call.size metalBadPhys = 0) := by
  by_cases allocates : call.allocates = true
  · rw [conclude, if_pos allocates, forall_prop_of_true allocates]
    constructor
    · intro resolves
      by_contra returned
      exact (resolves returned).pa rfl
    · exact fun null returned => absurd null returned
  · rw [conclude, if_neg allocates]
    exact iff_of_true (null_resolves state _ call) fun succeeds => absurd succeeds allocates

/-- The physical address is registered as it was given. -/
theorem given_resolves_iff (flat : FlatMapping ioPhysToVirt)
    (known : ¬ (call.da = metalBadPhys ∧ call.pa = metalBadPhys)) :
    (conclude ioPhysToVirt (state.request nodes) call call.pa).Resolves state call ↔
      (call.allocates = true -> call.size ≠ 0 -> call.da = metalBadPhys -> call.pa = 0) ∧
        (call.allocates = true -> call.pa = metalBadPhys ->
          ioPhysToVirt metalBadPhys call.size metalBadPhys = 0) := by
  by_cases bad : call.pa = metalBadPhys
  · have device : call.da ≠ metalBadPhys := fun both => known ⟨both, bad⟩
    rw [bad, conclude_bad_resolves_iff]
    constructor
    · exact fun null => ⟨fun _ _ both => absurd both device, fun allocates _ => null allocates⟩
    · exact fun sound allocates => sound.2 allocates rfl
  · rw [conclude_resolves_iff flat bad, if_neg bad]
    constructor
    · intro valid
      refine ⟨fun allocates sized unknown => ?_, fun _ both => absurd both bad⟩
      by_contra placed
      exact (valid allocates sized placed).1 unknown
    · intro sound allocates sized placed
      exact ⟨fun unknown => placed (sound.1 allocates sized unknown), fun _ => rfl⟩

theorem device_valid (known : ¬ (call.da = metalBadPhys ∧ call.pa = metalBadPhys)) :
    (if call.pa = metalBadPhys then call.da else call.pa) ≠ metalBadPhys := by
  split
  · rename_i bad
    exact fun both => known ⟨both, bad⟩
  · assumption

/-- The second example takes the device address for a bad physical one. -/
theorem device_resolves_iff (flat : FlatMapping ioPhysToVirt)
    (known : ¬ (call.da = metalBadPhys ∧ call.pa = metalBadPhys)) :
    (conclude ioPhysToVirt (state.request nodes) call
        (if call.pa = metalBadPhys then call.da else call.pa)).Resolves state call ↔
      (call.allocates = true -> call.size ≠ 0 -> call.da = metalBadPhys -> call.pa = 0) := by
  rw [conclude_resolves_iff flat (device_valid known)]
  constructor
  · intro resolved allocates sized unknown
    have given : call.pa ≠ metalBadPhys := fun bad => known ⟨unknown, bad⟩
    rw [if_neg given] at resolved
    by_contra placed
    exact (resolved allocates sized placed).1 unknown
  · intro sound allocates sized placed
    refine ⟨fun unknown => ?_, fun _ => rfl⟩
    have given : call.pa ≠ metalBadPhys := fun bad => known ⟨unknown, bad⟩
    rw [if_neg given] at placed
    exact placed (sound allocates sized unknown)

/-- The TCM is not at the ends of the address space. -/
theorem tcm_valid (core : Core) (low : call.da ≤ 0x40000) :
    core.tcmBase + call.da ≠ metalBadPhys ∧ core.tcmBase + call.da ≠ 0 ∧
      core.tcmBase + call.da ≠ call.da := by
  have below : call.da.toNat ≤ 0x40000 := BitVec.le_def.mp low
  have base := core.tcmBase_bounds
  have sum := core.tcmBase_add low
  refine ⟨core.tcmBase_add_valid low, fun zero => ?_, fun same => ?_⟩
  · have first := congrArg BitVec.toNat zero
    rw [sum, show (0 : Phys).toNat = 0 from rfl] at first
    omega
  · have moved := congrArg BitVec.toNat same
    rw [sum] at moved
    omega

/-- In the TCM the physical address is replaced, also at its end. -/
theorem tcm_resolves_iff (flat : FlatMapping ioPhysToVirt) (core : Core)
    (low : call.da ≤ 0x40000) :
    (conclude ioPhysToVirt (state.request nodes) call (core.tcmBase + call.da)).Resolves
        state call ↔
      (call.allocates = true -> call.size ≠ 0 -> call.da = 0x40000 ->
        call.pa = core.tcmBase + 0x40000) := by
  have valid := tcm_valid core low
  rw [conclude_resolves_iff flat valid.1]
  constructor
  · intro resolved allocates sized edge
    have outside : ¬ call.InTcm := by
      rw [Call.InTcm, edge]
      decide
    have given := (resolved allocates sized valid.2.1).2 outside
    split at given
    · exact absurd given valid.2.2
    · rw [← given, edge]
  · intro sound allocates sized _
    refine ⟨valid_of_low low, fun outside => ?_⟩
    have edge : call.da = 0x40000 :=
      BitVec.le_antisymm low (BitVec.not_lt.mp outside)
    have given := sound allocates sized edge
    rw [edge, given, if_neg (fun bad => valid.1 (edge ▸ bad))]

/-- Below the end of the TCM only that end can be unsound. -/
theorem tcm_sound_iff {platform : Platform} {core : Core} (named : platform.core = some core)
    (low : call.da ≤ 0x40000) (kept : ¬ platform.PassesOn call) :
    Sound platform ioPhysToVirt call ↔
      (call.allocates = true -> call.size ≠ 0 -> call.da = 0x40000 ->
        call.pa = core.tcmBase + 0x40000) := by
  constructor
  · exact fun sound allocates sized edge => sound.edge allocates sized edge core named
  · intro moved
    refine {
      da := fun _ _ bad => absurd bad (valid_of_low low)
      edge := fun allocates sized edge other same => ?_
      pa := fun _ _ passes => absurd passes kept }
    cases Option.some.inj (named.symm.trans same)
    exact moved allocates sized edge

theorem foreign_sound {platform : Platform} (unnamed : platform.core = none)
    (low : call.da ≤ 0x40000) (kept : ¬ platform.PassesOn call) :
    Sound platform ioPhysToVirt call where
  da := fun _ _ bad => absurd bad (valid_of_low low)
  edge := fun _ _ _ _ named => nomatch unnamed.symm.trans named
  pa := fun _ _ passes => absurd passes kept

/-- Above the TCM there is no end to move. -/
theorem high_sound_iff {platform : Platform} (high : ¬ call.da ≤ 0x40000) :
    Sound platform ioPhysToVirt call ↔
      (call.allocates = true -> call.size ≠ 0 -> call.da = metalBadPhys -> call.pa = 0) ∧
        (call.allocates = true -> call.pa = metalBadPhys -> platform.PassesOn call ->
          ioPhysToVirt metalBadPhys call.size metalBadPhys = 0) := by
  constructor
  · exact fun sound => ⟨sound.da, sound.pa⟩
  · exact fun both => {
      da := both.1
      edge := fun _ _ edge => absurd (edge ▸ BitVec.le_refl _) high
      pa := both.2 }

end

/-- For an address that is known, a call resolves what it returns exactly if it is sound. The
three operations and every core are covered, in every state of the list. With neither address
there is nothing to resolve. The mapping of a region is flat, so that its virtual addresses keep
the distances of the physical ones. -/
theorem resolves_iff_sound (flat : FlatMapping ioPhysToVirt) (platform : Platform)
    (state : State) {call : Call}
    (known : ¬ (call.da = metalBadPhys ∧ call.pa = metalBadPhys)) :
    (platform.answer ioPhysToVirt state call).Resolves state call ↔
      Sound platform ioPhysToVirt call := by
  cases platform with
  | apu =>
      rw [Platform.answer, apuAnswer, if_neg known, given_resolves_iff flat known]
      constructor
      · exact fun sound => ⟨sound.1, nofun, fun allocates bad _ => sound.2 allocates bad⟩
      · exact fun sound => ⟨sound.da, fun allocates bad => sound.pa allocates bad trivial⟩
  | rpu cpu =>
      rw [Platform.answer, rpuAnswer, if_neg known]
      by_cases low : call.da ≤ 0x40000
      · have kept : ¬ (Platform.rpu cpu).PassesOn call := not_not.mpr low
        cases cpu with
        | none =>
            rw [tcmLocate_none low]
            exact iff_of_true (null_resolves state state call) (foreign_sound rfl low kept)
        | some core =>
            rw [tcmLocate_some core low, tcm_sound_iff rfl low kept]
            exact tcm_resolves_iff flat core low
      · rw [tcmLocate_high cpu low, high_sound_iff low]
        have passes : (Platform.rpu cpu).PassesOn call := low
        refine (given_resolves_iff flat known).trans (and_congr_right fun _ => ?_)
        simp only [passes, true_implies]
  | r5 cpu =>
      rw [Platform.answer, r5Answer]
      have kept : ¬ (Platform.r5 cpu).PassesOn call := not_false
      by_cases low : call.da ≤ 0x40000
      · cases cpu with
        | none =>
            rw [tcmLocate_none low]
            exact iff_of_true (null_resolves state state call) (foreign_sound rfl low kept)
        | some core =>
            rw [tcmLocate_some core low, tcm_sound_iff rfl low kept]
            simp only [if_neg (tcm_valid core low).1]
            exact tcm_resolves_iff flat core low
      · rw [tcmLocate_high cpu low, high_sound_iff low]
        simp only [if_neg (device_valid known)]
        refine (device_resolves_iff flat known).trans ⟨fun sound => ⟨sound, ?_⟩, And.left⟩
        exact fun _ _ passes => absurd passes kept

/-- The translation, which is null for a region that has no virtual address. -/
def flatIoPhysToVirt (base size address : Phys) : Phys :=
  if base ≠ metalBadPhys ∧ address - base < size then address else 0

theorem flatIoPhysToVirt_flat : FlatMapping flatIoPhysToVirt := by
  intro base size valid
  rw [flatIoPhysToVirt, BitVec.sub_self]
  by_cases empty : size = 0
  · rw [if_pos empty, if_neg]
    rintro ⟨_, inside⟩
    exact BitVec.lt_irrefl 0 (empty ▸ inside)
  · rw [if_neg empty, if_pos]
    exact ⟨valid, Nat.pos_of_ne_zero fun zero => empty (BitVec.eq_of_toNat_eq zero)⟩

/-- A call for a page that is known by its device address. -/
def deviceCall : Call where
  pa := metalBadPhys
  da := 0x100000
  size := 0x1000
  mem := true
  io := true

/-- The second example for the RPU resolves it. -/
theorem deviceCall_resolves :
    ((Platform.r5 (some Core.rpu0)).answer flatIoPhysToVirt State.initial deviceCall).ret =
        0x100000 ∧
      ((Platform.r5 (some Core.rpu0)).answer flatIoPhysToVirt State.initial deviceCall).Resolves
        State.initial deviceCall := by
  refine ⟨by decide, (resolves_iff_sound flatIoPhysToVirt_flat _ _ (by decide)).mpr ?_⟩
  exact {
    da := by decide
    edge := fun _ _ edge => absurd edge (by decide)
    pa := fun _ _ => nofun }

/-- A call for a page that is known by its physical address. -/
def physicalCall : Call where
  pa := 0x100000
  da := metalBadPhys
  size := 0x1000
  mem := true
  io := true

/-- A call for the page behind the TCM. -/
def edgeCall : Call where
  pa := 0x40000
  da := 0x40000
  size := 0x1000
  mem := true
  io := true

/-- All three examples return the address of the first page with a bad device address, and
two of them move the page behind the TCM. -/
theorem physicalCall_not_resolved :
    FlatMapping flatIoPhysToVirt ∧
      (forall platform, platform ∈ [Platform.apu, Platform.rpu (some Core.rpu0),
          Platform.r5 (some Core.rpu0)] ->
        (platform.answer flatIoPhysToVirt State.initial physicalCall).ret = 0x100000 ∧
          (platform.answer flatIoPhysToVirt State.initial physicalCall).da = metalBadPhys ∧
          ¬ (platform.answer flatIoPhysToVirt State.initial physicalCall).Resolves
            State.initial physicalCall) ∧
      forall platform, platform ∈ [Platform.rpu (some Core.rpu0), Platform.r5 (some Core.rpu0)] ->
        (platform.answer flatIoPhysToVirt State.initial edgeCall).pa = 0xFFE40000 ∧
          ¬ (platform.answer flatIoPhysToVirt State.initial edgeCall).Resolves
            State.initial edgeCall := by
  have outside : ¬ edgeCall.InTcm := (by decide : ¬ edgeCall.da < 0x40000)
  refine ⟨flatIoPhysToVirt_flat, fun platform listed => ?_, fun platform listed => ?_⟩
  · simp only [List.mem_cons, List.not_mem_nil, or_false] at listed
    rcases listed with rfl | rfl | rfl
    · exact ⟨by decide, by decide, fun resolves => (resolves (by decide)).da (by decide)⟩
    · exact ⟨by decide, by decide, fun resolves => (resolves (by decide)).da (by decide)⟩
    · exact ⟨by decide, by decide, fun resolves => (resolves (by decide)).da (by decide)⟩
  · simp only [List.mem_cons, List.not_mem_nil, or_false] at listed
    rcases listed with rfl | rfl
    · exact ⟨by decide, fun resolves =>
        absurd ((resolves (by decide)).given outside) (by decide)⟩
    · exact ⟨by decide, fun resolves =>
        absurd ((resolves (by decide)).given outside) (by decide)⟩

end LoadFw
end OpenAmpReference
