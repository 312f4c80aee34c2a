import OpenAmpReference.Library.ByteMemory
import OpenAmpReference.LoadFw.Regions

namespace OpenAmpReference
namespace LoadFw

/-!
# Loading step by step

`load_exectuable_noblock()` asks the loader for a step, lets the image store carry it out
and asks again, until a step is empty; then it starts the processor.  One variable holds
the results of all these calls, and `main()` looks only at its sign.  The loader, the store
and what libmetal does with a region are parameters.
-/

/-- `size_t` -/
abbrev Size := BitVec 32

/-- `-EINVAL` -/
def einval : Int := -22

/-- `struct metal_io_region`, for memory that is contiguous and ends within the address
space. -/
structure IoRegion where
  virt : Nat
  phys : Phys
  size : Size
  fits : phys.toNat + size.toNat ≤ 2 ^ 32
  deriving DecidableEq, Repr

/-- The functions of libmetal that the loader calls for a region. -/
structure Metal where
  ioPhysToVirt : IoRegion -> Phys -> Option Nat
  ioPhysToOffset : IoRegion -> Phys -> Size
  ioBlockSet : IoRegion -> Size -> UInt8 -> Size -> ByteMemory -> ByteMemory

namespace IoRegion

/-- A physical address in the region -/
def Covers (io : IoRegion) (address : Nat) : Prop :=
  io.phys.toNat ≤ address ∧ address < io.phys.toNat + io.size.toNat

instance (io : IoRegion) (address : Nat) : Decidable (io.Covers address) :=
  inferInstanceAs (Decidable (_ ∧ _))

/-- Where a physical address is mapped. -/
def place (io : IoRegion) (address : Nat) : Nat :=
  io.virt + (address - io.phys.toNat)

end IoRegion

/-- The functions as they are documented. -/
def libmetal : Metal where
  ioPhysToVirt := fun io pa => if io.Covers pa.toNat then some (io.place pa.toNat) else none
  ioPhysToOffset := fun io pa => if io.Covers pa.toNat then pa - io.phys else 0xFFFFFFFF
  ioBlockSet := fun io offset value count memory =>
    if io.size < offset then memory
    else
      memory.writeBytes (io.virt + offset.toNat)
        (List.replicate (min count.toNat (io.size - offset).toNat) value)

/-- What `remoteproc_load_noblock()` returns, and what it stores through its pointers. -/
structure LoadStep where
  ret : Int
  noffset : Size
  nlen : Size
  nmlen : Size
  pa : Phys
  io : Option IoRegion
  padding : UInt8
  deriving DecidableEq, Repr

/-- Nothing is left to load. -/
def LoadStep.Empty (step : LoadStep) : Prop :=
  step.nlen = 0 ∧ step.nmlen = 0

instance (step : LoadStep) : Decidable step.Empty :=
  inferInstanceAs (Decidable (step.nlen = 0 ∧ step.nmlen = 0))

/-- What an operation of the store leaves: the store, the memory, the image data and its
result. -/
structure Stored (Store : Type) where
  store : Store
  memory : ByteMemory
  imgData : Nat
  ret : Int

/-- `struct image_store_ops`, with the operations that are called -/
structure ImageStoreOps (Store : Type) where
  openImage : Store -> ByteMemory -> Stored Store
  load : Store -> ByteMemory -> Nat -> Size -> Size -> Phys -> Option IoRegion -> Stored Store

/-- `struct mem_file` -/
structure MemFile where
  base : Nat
  deriving DecidableEq, Repr

/-- The static `image` -/
def image : MemFile where
  base := 0x3ED00000

/-- `mem_image_open()`, by whether there is a place for the image data -/
def memImageOpen (image : MemFile) (imageData : Bool) : Int × Option Nat :=
  if imageData = false then (einval, none) else (0x100, some image.base)

/-- `mem_image_load()`, with what is found and left at `data`, if this is not null -/
def memImageLoad (metal : Metal) (image : MemFile) (memory : ByteMemory) (data : Option Nat)
    (offset size : Size) (pa : Phys) (io : Option IoRegion) : Int × ByteMemory × Option Nat :=
  if pa = metalBadPhys then
    match data with
    | none => (einval, memory, none)
    | some _ => (size.toInt, memory, some (image.base + offset.toNat))
  else
    match io with
    | none => (einval, memory, data)
    | some io =>
        match metal.ioPhysToVirt io pa with
        | none => (einval, memory, data)
        | some va =>
            (size.toInt,
              memory.writeBytes va (memory.readBytes (image.base + offset.toNat) size.toNat), data)

/-- `mem_image_store_ops` -/
def memImageStoreOps (metal : Metal) : ImageStoreOps MemFile where
  openImage := fun store memory =>
    let opened := memImageOpen store true
    { store := store
      memory := memory
      imgData := opened.2.getD 0
      ret := opened.1 }
  load := fun store memory imgData offset size pa io =>
    let done := memImageLoad metal store memory (some imgData) offset size pa io
    { store := store
      memory := done.2.1
      imgData := done.2.2.getD imgData
      ret := done.1 }

/-- The arguments of one call of `remoteproc_load_noblock()`, and the memory at the call. -/
structure LoaderCall where
  imgData : Nat
  offset : Size
  len : Size
  memory : ByteMemory

/-- The variables of the loop.  Kept along with them is whether each load has returned the
number of bytes it was asked for, and the calls of the loader. -/
structure Loading (Store : Type) where
  store : Store
  memory : ByteMemory
  imgData : Nat
  offset : Size
  len : Size
  full : Bool
  calls : List LoaderCall

/-- How a pass of the loop ends. -/
inductive Pass (Store : Type)
  | returned (ret : Int) (loading : Loading Store)
  | left (loading : Loading Store)
  | again (loading : Loading Store)

/-- The result, whether `remoteproc_start()` is called and whether it returns zero, whether
each load has returned the number of bytes it was asked for, the memory and the calls of
the loader. -/
structure Outcome where
  ret : Int
  started : Bool
  running : Bool
  full : Bool
  memory : ByteMemory
  calls : List LoaderCall

section

variable {Store : Type}

namespace Loading

/-- The arguments for the next call of the loader. -/
def call (loading : Loading Store) : LoaderCall where
  imgData := loading.imgData
  offset := loading.offset
  len := loading.len
  memory := loading.memory

/-- The call of the loader. -/
def ask (loading : Loading Store) : Loading Store :=
  { loading with calls := loading.calls ++ [loading.call] }

/-- The call of the store. -/
def load (ops : ImageStoreOps Store) (step : LoadStep) (loading : Loading Store) : Stored Store :=
  ops.load loading.store loading.memory loading.imgData step.noffset step.nlen step.pa step.io

/-- The variables after the call of the store. -/
def loaded (ops : ImageStoreOps Store) (step : LoadStep) (loading : Loading Store) :
    Loading Store :=
  { store := (loading.load ops step).store
    memory := (loading.load ops step).memory
    imgData := (loading.load ops step).imgData
    offset := step.noffset
    len := step.nlen
    full := loading.full && decide ((loading.load ops step).ret = (step.nlen.toNat : Int))
    calls := loading.calls }

/-- The rest of the memory of the step is set to the padding. -/
def pad (metal : Metal) (step : LoadStep) (loading : Loading Store) : Loading Store :=
  match step.io with
  | none => loading
  | some io =>
      if step.nlen < step.nmlen then
        { loading with
          memory := metal.ioBlockSet io (metal.ioPhysToOffset io (step.pa + step.nlen))
            step.padding (step.nmlen - step.nlen) loading.memory }
      else loading

/-- The variables before the next pass. -/
def next (ops : ImageStoreOps Store) (metal : Metal) (step : LoadStep)
    (loading : Loading Store) : Loading Store :=
  (loading.ask.loaded ops step).pad metal step

/-- One pass of the loop. -/
def pass (ops : ImageStoreOps Store) (metal : Metal) (step : LoadStep)
    (loading : Loading Store) : Pass Store :=
  if step.ret ≠ 0 then Pass.returned step.ret loading.ask
  else if step.Empty then Pass.left loading.ask
  else if (loading.ask.load ops step).ret ≠ step.nlen.toInt then
    Pass.returned (loading.ask.load ops step).ret (loading.ask.loaded ops step)
  else Pass.again (loading.next ops metal step)

/-- A return before the processor is started. -/
def giveUp (ret : Int) (loading : Loading Store) : Outcome where
  ret := ret
  started := false
  running := false
  full := loading.full
  memory := loading.memory
  calls := loading.calls

/-- The processor is started. -/
def start (startRet : Int) (loading : Loading Store) : Outcome where
  ret := if startRet ≠ 0 then startRet else 0
  started := true
  running := decide (startRet = 0)
  full := loading.full
  memory := loading.memory
  calls := loading.calls

/-- The loop and what follows it, for as long as the loader has answers. -/
def passes (ops : ImageStoreOps Store) (metal : Metal) (startRet : Int) :
    List LoadStep -> Loading Store -> Option Outcome
  | [], _ => none
  | step :: rest, loading =>
      match loading.pass ops metal step with
      | Pass.returned ret later => some (later.giveUp ret)
      | Pass.left later => some (later.start startRet)
      | Pass.again later => passes ops metal startRet rest later

end Loading

/-- The variables before the loop. -/
def Loading.first (opened : Stored Store) : Loading Store where
  store := opened.store
  memory := opened.memory
  imgData := opened.imgData
  offset := 0
  len := BitVec.ofInt 32 opened.ret
  full := true
  calls := []

/-- There is no processor to load for. -/
def Outcome.refused (memory : ByteMemory) : Outcome where
  ret := einval
  started := false
  running := false
  full := true
  memory := memory
  calls := []

/-- `load_exectuable_noblock()`.  The first argument is whether there is a processor, and
the answers of the loader and of `remoteproc_start()` are the last two. -/
def loadExectuableNoblock (rproc : Bool) (ops : ImageStoreOps Store) (metal : Metal)
    (store : Store) (memory : ByteMemory) (steps : List LoadStep) (startRet : Int) :
    Option Outcome :=
  let opened := ops.openImage store memory
  if rproc = false then some (Outcome.refused memory)
  else if opened.ret ≤ 0 then some ((Loading.first opened).giveUp einval)
  else (Loading.first opened).passes ops metal startRet steps

/-- `load_exectuable_block()`, by the answers of `remoteproc_load()` and
`remoteproc_start()` -/
def loadExectuableBlock (rproc : Bool) (loadRet startRet : Int) : Int :=
  if rproc = false then einval
  else if loadRet ≠ 0 then loadRet
  else if startRet ≠ 0 then startRet
  else 0

/-- The result of `main()`, and whether it calls `remoteproc_shutdown()` and
`remoteproc_remove()`. -/
structure MainOutcome where
  ret : Int
  shutdown : Bool
  removed : Bool
  deriving DecidableEq, Repr

/-- `main()`, by whether `app_init()` finds a processor and by what the two loads return. -/
def loadFwMain (rproc : Bool) (block : Int) (noblock : Option Outcome) : Option MainOutcome :=
  if rproc = false then some { ret := -1, shutdown := false, removed := false }
  else if block < 0 then some { ret := -1, shutdown := true, removed := false }
  else
    noblock.map fun outcome =>
      if outcome.ret < 0 then { ret := -1, shutdown := true, removed := false }
      else { ret := outcome.ret, shutdown := false, removed := true }

/-! ## Failures are reported -/

/-- The processor is started, and all loads before have returned the number of bytes they
were asked for. -/
def Outcome.Complete (outcome : Outcome) : Prop :=
  outcome.running = true ∧ outcome.full = true

/-- An incomplete load gives a negative result, for which `main()` shuts the processor
down, and a complete one gives zero. -/
structure Outcome.Reported (outcome : Outcome) : Prop where
  negative : ¬ outcome.Complete -> outcome.ret < 0
  shutdown : ¬ outcome.Complete -> forall loadRet startRet,
    0 ≤ loadExectuableBlock true loadRet startRet ->
      loadFwMain true (loadExectuableBlock true loadRet startRet) (some outcome) =
        some { ret := -1, shutdown := true, removed := false }
  zero : outcome.ret = 0 -> outcome.Complete

/-- The store can be relied on for these steps: a load that does not return the length it
was asked for, as an `int`, returns a negative value, and where the processor starts no
earlier load has returned a negative value that was taken for its length. -/
def Loading.Reliable (ops : ImageStoreOps Store) (metal : Metal) (startRet : Int) :
    List LoadStep -> Loading Store -> Prop
  | [], _ => True
  | step :: rest, loading =>
      step.ret = 0 ->
        if step.Empty then startRet = 0 -> loading.full = true
        else if (loading.ask.load ops step).ret = step.nlen.toInt then
          Reliable ops metal startRet rest (loading.next ops metal step)
        else (loading.ask.load ops step).ret < 0

namespace Loading

variable {ops : ImageStoreOps Store} {metal : Metal} {step : LoadStep} {loading : Loading Store}

/-! ### What padding leaves -/

/-- The padding sets memory, and nothing else. -/
theorem exists_pad (metal : Metal) (step : LoadStep) (loading : Loading Store) :
    Exists fun memory => loading.pad metal step = { loading with memory := memory } := by
  rw [pad]
  split
  · exact ⟨loading.memory, rfl⟩
  · split
    · exact ⟨_, rfl⟩
    · exact ⟨loading.memory, rfl⟩

theorem next_full : (loading.next ops metal step).full =
    (loading.full &&
      decide ((loading.ask.load ops step).ret = (step.nlen.toNat : Int))) := by
  rcases exists_pad metal step (loading.ask.loaded ops step) with ⟨_, padded⟩
  rw [next, padded]
  rfl

theorem next_calls : (loading.next ops metal step).calls = loading.calls ++ [loading.call] := by
  rcases exists_pad metal step (loading.ask.loaded ops step) with ⟨_, padded⟩
  rw [next, padded]
  rfl

theorem next_store :
    (loading.next ops metal step).store = (loading.ask.load ops step).store := by
  rcases exists_pad metal step (loading.ask.loaded ops step) with ⟨_, padded⟩
  rw [next, padded]
  rfl

/-! ### The four ends of a pass -/

theorem pass_refused (refused : step.ret ≠ 0) :
    loading.pass ops metal step = Pass.returned step.ret loading.ask :=
  if_pos refused

theorem pass_left (answered : step.ret = 0) (empty : step.Empty) :
    loading.pass ops metal step = Pass.left loading.ask := by
  rw [pass, if_neg (not_not.mpr answered), if_pos empty]

theorem pass_short (answered : step.ret = 0) (more : ¬ step.Empty)
    (short : (loading.ask.load ops step).ret ≠ step.nlen.toInt) :
    loading.pass ops metal step =
      Pass.returned (loading.ask.load ops step).ret (loading.ask.loaded ops step) := by
  rw [pass, if_neg (not_not.mpr answered), if_neg more, if_pos short]

theorem pass_again (answered : step.ret = 0) (more : ¬ step.Empty)
    (whole : (loading.ask.load ops step).ret = step.nlen.toInt) :
    loading.pass ops metal step = Pass.again (loading.next ops metal step) := by
  rw [pass, if_neg (not_not.mpr answered), if_neg more, if_neg (not_not.mpr whole)]

end Loading

/-! ### What a return reports -/

theorem Outcome.reported_of_negative {outcome : Outcome} (negative : outcome.ret < 0) :
    outcome.Reported where
  negative := fun _ => negative
  shutdown := fun _ loadRet startRet accepted => by
    rw [loadFwMain, if_neg nofun, if_neg (Int.not_lt.mpr accepted),
      Option.map_some, if_pos negative]
  zero := fun zero => absurd negative (zero ▸ Int.lt_irrefl 0)

/-- A result that is not zero is reported exactly if it is negative, where nothing has been
started. -/
theorem Loading.reported_giveUp_iff {loading : Loading Store} {ret : Int} :
    (loading.giveUp ret).Reported ↔ ret < 0 := by
  constructor
  · intro reported
    exact reported.negative fun complete => Bool.false_ne_true complete.1
  · exact fun negative => Outcome.reported_of_negative negative

theorem Loading.reported_start_iff {loading : Loading Store} {startRet : Int}
    (answered : startRet ≤ 0) :
    (loading.start startRet).Reported ↔ (startRet = 0 -> loading.full = true) := by
  constructor
  · rintro reported rfl
    exact (reported.zero rfl).2
  · intro full
    by_cases zero : startRet = 0
    · have complete : (loading.start startRet).Complete := ⟨decide_eq_true zero, full zero⟩
      exact {
        negative := fun incomplete => absurd complete incomplete
        shutdown := fun incomplete => absurd complete incomplete
        zero := fun _ => complete }
    · have negative : (loading.start startRet).ret < 0 := by
        show (if startRet ≠ 0 then startRet else 0) < 0
        rw [if_pos zero]
        exact Int.lt_iff_le_and_ne.mpr ⟨answered, zero⟩
      exact Outcome.reported_of_negative negative

namespace Loading

variable {ops : ImageStoreOps Store} {metal : Metal} {startRet : Int}

/-- The loop ends with the first answer that is an error or empty, if not before. -/
theorem passes_ends {steps : List LoadStep} {loading : Loading Store}
    (ends : Exists fun step => step ∈ steps ∧ (step.ret ≠ 0 ∨ step.Empty)) :
    (loading.passes ops metal startRet steps).isSome = true := by
  induction steps generalizing loading with
  | nil =>
      rcases ends with ⟨_, member, _⟩
      exact absurd member List.not_mem_nil
  | cons step rest inductionHypothesis =>
      rw [passes]
      by_cases refused : step.ret ≠ 0
      · rw [pass_refused refused]
        rfl
      · have answered := not_not.mp refused
        by_cases empty : step.Empty
        · rw [pass_left answered empty]
          rfl
        · by_cases whole : (loading.ask.load ops step).ret = step.nlen.toInt
          · rw [pass_again answered empty whole]
            refine inductionHypothesis ?_
            rcases ends with ⟨last, member, stops⟩
            rcases List.mem_cons.mp member with rfl | later
            · exact absurd stops (not_or.mpr ⟨refused, empty⟩)
            · exact ⟨last, later, stops⟩
          · rw [pass_short answered empty whole]
            rfl

/-- The loop and the start report failures exactly if the store is reliable. -/
theorem passes_reported_iff {steps : List LoadStep} {loading : Loading Store}
    {outcome : Outcome} (answers : forall step, step ∈ steps -> step.ret ≤ 0)
    (startAnswers : startRet ≤ 0)
    (returned : loading.passes ops metal startRet steps = some outcome) :
    outcome.Reported ↔ loading.Reliable ops metal startRet steps := by
  induction steps generalizing loading with
  | nil => exact nomatch returned
  | cons step rest inductionHypothesis =>
      have later : forall other, other ∈ rest -> other.ret ≤ 0 :=
        fun other listed => answers other (List.mem_cons_of_mem step listed)
      rw [passes] at returned
      rw [Reliable]
      by_cases refused : step.ret ≠ 0
      · rw [pass_refused refused] at returned
        cases returned
        have negative := Int.lt_iff_le_and_ne.mpr ⟨answers step List.mem_cons_self, refused⟩
        exact reported_giveUp_iff.trans (iff_of_true negative fun zero => absurd zero refused)
      · have answered := not_not.mp refused
        rw [forall_prop_of_true answered]
        by_cases empty : step.Empty
        · rw [pass_left answered empty] at returned
          cases returned
          rw [if_pos empty]
          exact reported_start_iff startAnswers
        · rw [if_neg empty]
          by_cases whole : (loading.ask.load ops step).ret = step.nlen.toInt
          · rw [pass_again answered empty whole] at returned
            rw [if_pos whole]
            exact inductionHypothesis later returned
          · rw [pass_short answered empty whole] at returned
            cases returned
            rw [if_neg whole]
            exact reported_giveUp_iff

end Loading

/-- The store can be relied on in a whole call. -/
def Reliable (rproc : Bool) (ops : ImageStoreOps Store) (metal : Metal) (store : Store)
    (memory : ByteMemory) (steps : List LoadStep) (startRet : Int) : Prop :=
  rproc = true -> 0 < (ops.openImage store memory).ret ->
    (Loading.first (ops.openImage store memory)).Reliable ops metal startRet steps

/-- With libraries that report failure by a negative value, a call returns once the loader has
answered with an error or an empty step, and it reports failures exactly if the store is
reliable. The image store, the memory and the loader's answers are otherwise arbitrary, and a
loader that never comes to an error or an empty step keeps the loop going. -/
theorem loadExectuableNoblock_reports_iff (rproc : Bool) (ops : ImageStoreOps Store)
    (metal : Metal) (store : Store) (memory : ByteMemory) {steps : List LoadStep}
    {startRet : Int} (answers : forall step, step ∈ steps -> step.ret ≤ 0)
    (startAnswers : startRet ≤ 0) :
    ((Exists fun step => step ∈ steps ∧ (step.ret ≠ 0 ∨ step.Empty)) ->
        (loadExectuableNoblock rproc ops metal store memory steps startRet).isSome = true) ∧
      forall outcome,
        loadExectuableNoblock rproc ops metal store memory steps startRet = some outcome ->
          (outcome.Reported ↔ Reliable rproc ops metal store memory steps startRet) := by
  have bad : einval < 0 := by decide
  unfold loadExectuableNoblock Reliable
  cases rproc with
  | false =>
      refine ⟨fun _ => rfl, fun outcome returned => ?_⟩
      cases returned
      exact iff_of_true (Outcome.reported_of_negative bad) nofun
  | true =>
      simp only [Bool.true_eq_false, if_false, true_implies]
      by_cases opened : (ops.openImage store memory).ret ≤ 0
      · rw [if_pos opened]
        refine ⟨fun _ => rfl, fun outcome returned => ?_⟩
        cases returned
        exact iff_of_true (Outcome.reported_of_negative bad)
          fun positive => absurd opened (Int.not_le.mpr positive)
      · rw [if_neg opened, forall_prop_of_true (Int.not_le.mp opened)]
        exact ⟨Loading.passes_ends,
          fun outcome => Loading.passes_reported_iff answers startAnswers⟩

end

/-! ### The store in memory -/

/-- A load from memory fails or returns the length it was asked for. -/
theorem memImageLoad_ret (metal : Metal) (image : MemFile) (memory : ByteMemory)
    (data : Option Nat) (offset size : Size) (pa : Phys) (io : Option IoRegion) :
    (memImageLoad metal image memory data offset size pa io).1 = einval ∨
      (memImageLoad metal image memory data offset size pa io).1 = size.toInt := by
  unfold memImageLoad
  split
  · cases data with
    | none => exact Or.inl rfl
    | some _ => exact Or.inr rfl
  · cases io with
    | none => exact Or.inl rfl
    | some io =>
        dsimp only
        cases metal.ioPhysToVirt io pa with
        | none => exact Or.inl rfl
        | some _ => exact Or.inr rfl

/-- The store in memory can be relied on for all lengths that an `int` can hold. -/
theorem memImageStoreOps_reliable (metal : Metal) (startRet : Int) {steps : List LoadStep}
    (lengths : forall step, step ∈ steps -> step.nlen.toNat < 2 ^ 31) {loading : Loading MemFile}
    (full : loading.full = true) :
    loading.Reliable (memImageStoreOps metal) metal startRet steps := by
  induction steps generalizing loading with
  | nil => exact trivial
  | cons step rest inductionHypothesis =>
      intro _
      have length : step.nlen.toInt = (step.nlen.toNat : Int) :=
        BitVec.toInt_eq_toNat_of_lt (by have := lengths step List.mem_cons_self; omega)
      split
      · exact fun _ => full
      · split
        · rename_i whole
          refine inductionHypothesis (fun other listed =>
            lengths other (List.mem_cons_of_mem step listed)) ?_
          rw [Loading.next_full, full, Bool.true_and]
          exact decide_eq_true (whole.trans length)
        · rename_i other
          rcases memImageLoad_ret metal loading.store loading.memory (some loading.imgData)
            step.noffset step.nlen step.pa step.io with failed | whole
          · show (memImageLoad _ _ _ _ _ _ _ _).1 < 0
            rw [Loading.ask, failed]
            decide
          · exact absurd whole other

/-- The step that asks for the first bytes of the image. -/
def headerStep : LoadStep where
  ret := 0
  noffset := 0
  nlen := 0x100
  nmlen := 0
  pa := metalBadPhys
  io := none
  padding := 0

/-- The last step -/
def lastStep : LoadStep :=
  { headerStep with nlen := 0 }

/-- A load of the first bytes from memory is reported. -/
theorem header_reported :
    Exists fun outcome =>
      loadExectuableNoblock true (memImageStoreOps libmetal) libmetal image (fun _ => 0)
          [headerStep, lastStep] 0 = some outcome ∧ outcome.Reported := by
  have answers : forall step, step ∈ [headerStep, lastStep] -> step.ret ≤ 0 := by decide
  have lengths : forall step, step ∈ [headerStep, lastStep] -> step.nlen.toNat < 2 ^ 31 := by
    decide
  have reports := loadExectuableNoblock_reports_iff true (memImageStoreOps libmetal) libmetal
    image (fun _ => 0) answers (Int.le_refl 0)
  have ends : Exists fun step => step ∈ [headerStep, lastStep] ∧
      (step.ret ≠ 0 ∨ step.Empty) := ⟨lastStep, by decide, by decide⟩
  rcases Option.isSome_iff_exists.mp (reports.1 ends) with ⟨outcome, returned⟩
  refine ⟨outcome, returned, (reports.2 outcome returned).mpr fun _ _ => ?_⟩
  exact memImageStoreOps_reliable libmetal 0 lengths rfl

/-- A store whose loads give nothing. -/
def shortOps : ImageStoreOps Unit where
  openImage := fun store memory =>
    { store := store
      memory := memory
      imgData := 0
      ret := 0x100 }
  load := fun store memory imgData _ _ _ _ =>
    { store := store
      memory := memory
      imgData := imgData
      ret := 0 }

/-- With that store the first load is short, zero is returned although the processor is not
started, and `main()` does not shut it down. -/
theorem short_not_reported :
    (forall step, step ∈ [headerStep] -> step.ret ≤ 0) ∧
      Exists fun outcome =>
        loadExectuableNoblock true shortOps libmetal () (fun _ => 0) [headerStep] 0 =
            some outcome ∧
          outcome.ret = 0 ∧ outcome.started = false ∧
          loadFwMain true (loadExectuableBlock true 0 0) (some outcome) =
            some { ret := 0, shutdown := false, removed := true } ∧
          ¬ outcome.Reported := by
  refine ⟨by decide, _, rfl, rfl, rfl, rfl, fun reported => ?_⟩
  exact Bool.false_ne_true (reported.zero rfl).1

end LoadFw
end OpenAmpReference
