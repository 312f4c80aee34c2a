import OpenAmpReference.LoadFw.Noblock

namespace OpenAmpReference
namespace LoadFw

/-!
# What is loaded

With the store in memory a step that names an address writes one block, the bytes of the
image and the padding behind them.  The blocks of a firmware do not touch each other or the
image, so what the first steps have written is still there when the processor starts.
-/

/-- What libmetal documents for a range that lies in a region. -/
structure Metal.Documented (metal : Metal) : Prop where
  translates : forall io pa, io.Covers pa.toNat ->
    metal.ioPhysToVirt io pa = some (io.place pa.toNat)
  offset : forall io pa, io.Covers pa.toNat -> metal.ioPhysToOffset io pa = pa - io.phys
  fills : forall io offset value count memory, count.toNat < 2 ^ 31 ->
    offset.toNat + count.toNat ≤ io.size.toNat ->
      metal.ioBlockSet io offset value count memory =
        memory.writeBytes (io.virt + offset.toNat) (List.replicate count.toNat value)

theorem libmetal_documented : libmetal.Documented where
  translates := fun _ _ covered => if_pos covered
  offset := fun _ _ covered => if_pos covered
  fills := fun io offset value count memory _ inside => by
    have within : ¬ io.size < offset := by
      rw [BitVec.lt_def]
      omega
    have rest : (io.size - offset).toNat = io.size.toNat - offset.toNat :=
      BitVec.toNat_sub_of_le (BitVec.not_lt.mp within)
    have whole : min count.toNat (io.size - offset).toNat = count.toNat := by
      rw [rest]
      omega
    simp only [libmetal, if_neg within, whole]

namespace LoadStep

/-- How many bytes of memory a step describes. -/
def extent (step : LoadStep) : Nat :=
  max step.nlen.toNat step.nmlen.toNat

/-- The step names this region for its address. -/
def Targets (step : LoadStep) (io : IoRegion) : Prop :=
  step.pa ≠ metalBadPhys ∧ step.io = some io

/-- The physical addresses that a step describes. -/
def Touches (step : LoadStep) (address : Nat) : Prop :=
  step.pa ≠ metalBadPhys ∧ step.pa.toNat ≤ address ∧ address < step.pa.toNat + step.extent

/-- What is written for a step. -/
def contents (image : MemFile) (memory : ByteMemory) (step : LoadStep) : List UInt8 :=
  memory.readBytes (image.base + step.noffset.toNat) step.nlen.toNat ++
    List.replicate (step.nmlen.toNat - step.nlen.toNat) step.padding

end LoadStep

/-- The steps of a firmware: none is empty, an address comes with a region that holds its
range, and the ranges are apart from each other and from the bytes that are read from the
image. -/
structure Firmware (image : MemFile) (steps : List LoadStep) : Prop where
  lengths : forall step, step ∈ steps -> step.nlen.toNat < 2 ^ 31 ∧ step.nmlen.toNat < 2 ^ 31
  more : forall step, step ∈ steps -> ¬ step.Empty
  inside : forall step, step ∈ steps -> step.pa ≠ metalBadPhys ->
    Exists fun io => step.io = some io ∧ forall address, step.Touches address -> io.Covers address
  disjoint : steps.Pairwise fun first second =>
    forall address, ¬ (first.Touches address ∧ second.Touches address)
  places : forall first, first ∈ steps -> forall second, second ∈ steps ->
    forall io, first.Targets io -> forall other, second.Targets other ->
      forall address, first.Touches address -> forall another, second.Touches another ->
        io.place address = other.place another -> address = another
  apart : forall step, step ∈ steps -> forall io, step.Targets io ->
    forall address, step.Touches address -> forall other, other ∈ steps ->
      forall i, i < other.nlen.toNat ->
        io.place address ≠ image.base + other.noffset.toNat + i

/-- Steps without an address set no memory: they have no region, or nothing to fill. -/
def Quiet (steps : List LoadStep) : Prop :=
  forall step, step ∈ steps -> step.pa = metalBadPhys ->
    step.io = none ∨ step.nmlen.toNat ≤ step.nlen.toNat

/-- One memory is the other one with the steps written to it. -/
structure Written (image : MemFile) (steps : List LoadStep) (before after : ByteMemory) :
    Prop where
  copied : forall step, step ∈ steps -> forall io, step.Targets io ->
    forall i, i < step.nlen.toNat ->
      after (io.place (step.pa.toNat + i)) = before (image.base + step.noffset.toNat + i)
  padded : forall step, step ∈ steps -> forall io, step.Targets io ->
    forall i, step.nlen.toNat ≤ i -> i < step.nmlen.toNat ->
      after (io.place (step.pa.toNat + i)) = step.padding
  kept : forall place,
    (forall step, step ∈ steps -> forall io, step.Targets io ->
      forall address, step.Touches address -> place ≠ io.place address) ->
        after place = before place

/-- Between two calls of the loader nothing is written, and the second one finds the bytes
that the step has asked for. -/
structure Provided (image : MemFile) (step : LoadStep) (memory : ByteMemory)
    (call next : LoaderCall) : Prop where
  unchanged : next.memory = call.memory
  imgData : next.imgData = image.base + step.noffset.toNat
  offset : next.offset = step.noffset
  len : next.len = step.nlen
  bytes : forall i, i < step.nlen.toNat ->
    next.memory (next.imgData + i) = memory (image.base + step.noffset.toNat + i)

/-- The firmware is loaded: the memory is as the steps with an address say, and each step
without one provides its bytes to the next call of the loader. -/
structure Loaded (image : MemFile) (steps : List LoadStep) (memory : ByteMemory)
    (outcome : Outcome) : Prop where
  written : Written image steps memory outcome.memory
  provided : forall index step, steps[index]? = some step -> step.pa = metalBadPhys ->
    Exists fun call => Exists fun next =>
      outcome.calls[index]? = some call ∧ outcome.calls[index + 1]? = some next ∧
        Provided image step memory call next

/-! ## What a step writes -/

section

variable {image : MemFile} {step : LoadStep} {io : IoRegion}

theorem IoRegion.place_add {address : Nat} (covered : io.Covers address) (count : Nat) :
    io.place (address + count) = io.place address + count := by
  rw [IoRegion.place, IoRegion.place, Nat.add_assoc, Nat.sub_add_comm covered.1]

theorem LoadStep.contents_length (memory : ByteMemory) :
    (step.contents image memory).length = step.extent := by
  rw [contents, List.length_append, ByteMemory.readBytes_length, List.length_replicate, extent]
  omega

theorem LoadStep.extent_pos (more : ¬ step.Empty) : 0 < step.extent := by
  rw [extent]
  by_contra nothing
  have lengths : step.nlen.toNat = 0 ∧ step.nmlen.toNat = 0 := by omega
  exact more ⟨BitVec.eq_of_toNat_eq lengths.1, BitVec.eq_of_toNat_eq lengths.2⟩

theorem LoadStep.Targets.touches_iff (targets : step.Targets io) (address : Nat) :
    step.Touches address ↔
      step.pa.toNat ≤ address ∧ address < step.pa.toNat + step.extent :=
  and_iff_right targets.1

/-- The block that a step writes leads from one memory to the other. -/
theorem LoadStep.written_of_block {memory : ByteMemory} (targets : step.Targets io)
    (covered : io.Covers step.pa.toNat) :
    Written image [step] memory
      (memory.writeBytes (io.place step.pa.toNat) (step.contents image memory)) := by
  have length := @LoadStep.contents_length image step memory
  have sole : forall other, other ∈ [step] -> forall another, other.Targets another ->
      other = step ∧ another = io := by
    intro other listed another same
    cases List.mem_singleton.mp listed
    exact ⟨rfl, Option.some.inj (same.2.symm.trans targets.2)⟩
  constructor
  · intro other listed another same i small
    rcases sole other listed another same with ⟨rfl, rfl⟩
    have within : i < (other.contents image memory).length := by
      rw [length, LoadStep.extent]
      omega
    rw [IoRegion.place_add covered, ByteMemory.writeBytes_inside _ _ _ i within]
    simp only [LoadStep.contents]
    rw [List.getElem_append_left (by rwa [ByteMemory.readBytes_length])]
    simp only [ByteMemory.readBytes, List.getElem_map, List.getElem_range]
  · intro other listed another same i behind small
    rcases sole other listed another same with ⟨rfl, rfl⟩
    have within : i < (other.contents image memory).length := by
      rw [length, LoadStep.extent]
      omega
    rw [IoRegion.place_add covered, ByteMemory.writeBytes_inside _ _ _ i within]
    simp only [LoadStep.contents]
    rw [List.getElem_append_right (by rwa [ByteMemory.readBytes_length]),
      List.getElem_replicate]
  · intro place outside
    refine ByteMemory.writeBytes_outside memory _ ?_
    rw [length]
    by_contra inside
    have here := outside step List.mem_cons_self io targets
      (step.pa.toNat + (place - io.place step.pa.toNat))
      ((targets.touches_iff _).mpr ⟨Nat.le_add_right _ _, by omega⟩)
    rw [IoRegion.place_add covered] at here
    omega

/-! ## What the next pass finds -/

variable {metal : Metal} {loading : Loading MemFile} {startRet : Int}

theorem memImageLoad_of_targets (documented : metal.Documented) (memory : ByteMemory)
    (data : Option Nat) (targets : step.Targets io) (covered : io.Covers step.pa.toNat) :
    memImageLoad metal image memory data step.noffset step.nlen step.pa step.io =
      (step.nlen.toInt,
        memory.writeBytes (io.place step.pa.toNat)
          (memory.readBytes (image.base + step.noffset.toNat) step.nlen.toNat), data) := by
  unfold memImageLoad
  rw [if_neg targets.1, targets.2]
  simp only [documented.translates io step.pa covered]

theorem memImageLoad_of_bad (memory : ByteMemory) (imgData : Nat)
    (bad : step.pa = metalBadPhys) :
    memImageLoad metal image memory (some imgData) step.noffset step.nlen step.pa step.io =
      (step.nlen.toInt, memory, some (image.base + step.noffset.toNat)) := by
  unfold memImageLoad
  rw [if_pos bad]

/-- The padding of a step with an address lies behind what has been copied. -/
theorem pad_memory (documented : metal.Documented) (targets : step.Targets io)
    (length : step.nmlen.toNat < 2 ^ 31)
    (inside : forall address, step.Touches address -> io.Covers address) :
    (loading.pad metal step).memory =
      loading.memory.writeBytes (io.place step.pa.toNat + step.nlen.toNat)
        (List.replicate (step.nmlen.toNat - step.nlen.toNat) step.padding) := by
  rw [Loading.pad, targets.2]
  dsimp only
  by_cases longer : step.nlen < step.nmlen
  · have less : step.nlen.toNat < step.nmlen.toNat := longer
    have extent : step.extent = step.nmlen.toNat := Nat.max_eq_right (Nat.le_of_lt less)
    have first := inside step.pa.toNat ((targets.touches_iff _).mpr ⟨Nat.le_refl _, by omega⟩)
    have start := inside (step.pa.toNat + step.nlen.toNat)
      ((targets.touches_iff _).mpr ⟨Nat.le_add_right _ _, by omega⟩)
    have last := inside (step.pa.toNat + (step.nmlen.toNat - 1))
      ((targets.touches_iff _).mpr ⟨Nat.le_add_right _ _, by omega⟩)
    have fits := io.fits
    have sum : (step.pa + step.nlen).toNat = step.pa.toNat + step.nlen.toNat := by
      rw [BitVec.toNat_add, Nat.mod_eq_of_lt (Nat.lt_of_lt_of_le start.2 fits)]
    have offset : (step.pa + step.nlen - io.phys).toNat =
        step.pa.toNat + step.nlen.toNat - io.phys.toNat := by
      rw [BitVec.toNat_sub_of_le (by rw [BitVec.le_def, sum]; exact start.1), sum]
    have count : (step.nmlen - step.nlen).toNat = step.nmlen.toNat - step.nlen.toNat :=
      BitVec.toNat_sub_of_le (BitVec.le_of_lt longer)
    have fills := documented.fills io (step.pa + step.nlen - io.phys) step.padding
      (step.nmlen - step.nlen) loading.memory (by rw [count]; omega)
      (by rw [offset, count]; have := last.2; have := start.1; omega)
    rw [if_pos longer, documented.offset io _ (sum ▸ start), fills, offset, count,
      ← IoRegion.place_add first, IoRegion.place]
  · have nothing : step.nmlen.toNat - step.nlen.toNat = 0 :=
      Nat.sub_eq_zero_of_le (BitVec.not_lt.mp longer)
    rw [if_neg longer, nothing]
    funext place
    exact (ByteMemory.writeBytes_outside loading.memory [] (Nat.lt_or_ge _ _)).symm

theorem pad_of_quiet (quiet : step.io = none ∨ step.nmlen.toNat ≤ step.nlen.toNat) :
    loading.pad metal step = loading := by
  rw [Loading.pad]
  split
  · rfl
  · rename_i io named
    refine if_neg fun longer => ?_
    rcases quiet with unnamed | shorter
    · cases named.symm.trans unnamed
    · exact Nat.not_lt.mpr shorter longer

/-- The store carries out every step of a firmware. -/
theorem Firmware.load_ret {steps : List LoadStep} (documented : metal.Documented)
    (firmware : Firmware image steps) (listed : step ∈ steps) (store : loading.store = image) :
    (loading.ask.load (memImageStoreOps metal) step).ret = step.nlen.toInt := by
  show (memImageLoad metal loading.store _ _ _ _ _ _).1 = _
  rw [store]
  by_cases bad : step.pa = metalBadPhys
  · exact congrArg Prod.fst (memImageLoad_of_bad _ _ bad)
  · rcases firmware.inside step listed bad with ⟨io, named, inside⟩
    have targets : step.Targets io := ⟨bad, named⟩
    have pos := LoadStep.extent_pos (firmware.more step listed)
    have covered := inside step.pa.toNat ((targets.touches_iff _).mpr ⟨Nat.le_refl _, by omega⟩)
    exact congrArg Prod.fst (memImageLoad_of_targets documented _ _ targets covered)

/-- Without an address nothing is written, and the bytes are provided. -/
theorem next_of_bad (bad : step.pa = metalBadPhys)
    (quiet : step.io = none ∨ step.nmlen.toNat ≤ step.nlen.toNat)
    (store : loading.store = image) :
    Provided image step loading.memory loading.call
      (loading.next (memImageStoreOps metal) metal step).call := by
  have loaded : loading.ask.load (memImageStoreOps metal) step =
      { store := image
        memory := loading.memory
        imgData := image.base + step.noffset.toNat
        ret := step.nlen.toInt } := by
    simp only [Loading.load, Loading.ask, memImageStoreOps, store,
      memImageLoad_of_bad _ _ bad, Option.getD_some]
  rw [Loading.next, pad_of_quiet quiet]
  exact {
    unchanged := congrArg Stored.memory loaded
    imgData := congrArg Stored.imgData loaded
    offset := rfl
    len := rfl
    bytes := fun i _ => by
      show (loading.ask.load (memImageStoreOps metal) step).memory
        ((loading.ask.load (memImageStoreOps metal) step).imgData + i) = _
      rw [loaded] }

/-- With an address the block of the step is written. -/
theorem next_of_targets (documented : metal.Documented) (targets : step.Targets io)
    (more : ¬ step.Empty) (length : step.nmlen.toNat < 2 ^ 31)
    (inside : forall address, step.Touches address -> io.Covers address)
    (store : loading.store = image) :
    Written image [step] loading.memory
      (loading.next (memImageStoreOps metal) metal step).memory := by
  have pos := LoadStep.extent_pos more
  have covered := inside step.pa.toNat ((targets.touches_iff _).mpr ⟨Nat.le_refl _, by omega⟩)
  have loaded : (loading.ask.loaded (memImageStoreOps metal) step).memory =
      loading.memory.writeBytes (io.place step.pa.toNat)
        (loading.memory.readBytes (image.base + step.noffset.toNat) step.nlen.toNat) := by
    simp only [Loading.loaded, Loading.load, Loading.ask, memImageStoreOps, store,
      memImageLoad_of_targets documented _ _ targets covered]
  have block := @LoadStep.written_of_block image step io loading.memory targets covered
  rw [LoadStep.contents, ← ByteMemory.writeBytes_append, ByteMemory.readBytes_length] at block
  rw [Loading.next, pad_memory documented targets length inside, loaded]
  exact block

/-- What one step of a firmware writes. -/
theorem Firmware.next_written {steps : List LoadStep} (documented : metal.Documented)
    (firmware : Firmware image steps) (quiet : Quiet steps) (listed : step ∈ steps)
    (store : loading.store = image) :
    Written image [step] loading.memory
      (loading.next (memImageStoreOps metal) metal step).memory := by
  by_cases bad : step.pa = metalBadPhys
  · have provided : Provided image step loading.memory loading.call
        (loading.next (memImageStoreOps metal) metal step).call :=
      next_of_bad bad (quiet step listed bad) store
    have none : forall other, other ∈ [step] -> forall io, ¬ other.Targets io := by
      intro other member io targets
      cases List.mem_singleton.mp member
      exact targets.1 bad
    exact {
      copied := fun other member io targets => absurd targets (none other member io)
      padded := fun other member io targets => absurd targets (none other member io)
      kept := fun place _ => congrFun provided.unchanged place }
  · rcases firmware.inside step listed bad with ⟨io, named, inside⟩
    exact next_of_targets documented ⟨bad, named⟩ (firmware.more step listed)
      (firmware.lengths step listed).2 inside store

/-! ## What a whole firmware writes -/

theorem Firmware.tail {steps : List LoadStep} (firmware : Firmware image (step :: steps)) :
    Firmware image steps where
  lengths := fun other listed => firmware.lengths other (List.mem_cons_of_mem step listed)
  more := fun other listed => firmware.more other (List.mem_cons_of_mem step listed)
  inside := fun other listed => firmware.inside other (List.mem_cons_of_mem step listed)
  disjoint := (List.pairwise_cons.mp firmware.disjoint).2
  places := fun first firstListed second secondListed =>
    firmware.places first (List.mem_cons_of_mem step firstListed) second
      (List.mem_cons_of_mem step secondListed)
  apart := fun other listed io targets address touches another anotherListed =>
    firmware.apart other (List.mem_cons_of_mem step listed) io targets address touches another
      (List.mem_cons_of_mem step anotherListed)

/-- The bytes that the steps read from the image stay as they are. -/
theorem Firmware.image_kept {steps : List LoadStep} {before after : ByteMemory}
    (firmware : Firmware image (step :: steps)) (written : Written image [step] before after)
    {other : LoadStep} (listed : other ∈ step :: steps) {i : Nat}
    (small : i < other.nlen.toNat) :
    after (image.base + other.noffset.toNat + i) =
      before (image.base + other.noffset.toNat + i) := by
  refine written.kept _ fun only member io targets address touches same => ?_
  cases List.mem_singleton.mp member
  exact firmware.apart step List.mem_cons_self io targets address touches other listed i small
    same.symm

theorem LoadStep.Targets.touches_add (targets : step.Targets io) {i : Nat}
    (small : i < step.extent) : step.Touches (step.pa.toNat + i) :=
  (targets.touches_iff _).mpr ⟨Nat.le_add_right _ _, Nat.add_lt_add_left small _⟩

/-- What a step has written outlasts the steps after it. -/
theorem Firmware.written_kept {steps : List LoadStep} {before after : ByteMemory}
    (firmware : Firmware image (step :: steps)) (written : Written image steps before after)
    (targets : step.Targets io) {i : Nat} (small : i < step.extent) :
    after (io.place (step.pa.toNat + i)) = before (io.place (step.pa.toNat + i)) := by
  have here := targets.touches_add small
  refine written.kept _ fun other listed another otherTargets address touches same => ?_
  have shared := firmware.places step List.mem_cons_self other (List.mem_cons_of_mem step listed)
    io targets another otherTargets _ here address touches same
  exact (List.pairwise_cons.mp firmware.disjoint).1 other listed address
    ⟨shared ▸ here, touches⟩

/-- A step and the steps after it. -/
theorem Written.cons {steps : List LoadStep} {before between after : ByteMemory}
    (firmware : Firmware image (step :: steps)) (here : Written image [step] before between)
    (later : Written image steps between after) : Written image (step :: steps) before after where
  copied := fun other listed another targets i small => by
    rcases List.mem_cons.mp listed with rfl | rest
    · rw [firmware.written_kept later targets (Nat.lt_of_lt_of_le small (Nat.le_max_left _ _)),
        here.copied other List.mem_cons_self another targets i small]
    · rw [later.copied other rest another targets i small, firmware.image_kept here listed small]
  padded := fun other listed another targets i behind small => by
    rcases List.mem_cons.mp listed with rfl | rest
    · rw [firmware.written_kept later targets (Nat.lt_of_lt_of_le small (Nat.le_max_right _ _)),
        here.padded other List.mem_cons_self another targets i behind small]
    · exact later.padded other rest another targets i behind small
  kept := fun place outside => by
    rw [later.kept place fun other listed =>
        outside other (List.mem_cons_of_mem step listed),
      here.kept place fun other listed => by
        cases List.mem_singleton.mp listed
        exact outside step List.mem_cons_self]

/-- What the rest of the loop leaves, from the pass for the first of these steps on. -/
structure LoadedFrom (image : MemFile) (steps : List LoadStep) (loading : Loading MemFile)
    (outcome : Outcome) : Prop where
  written : Written image steps loading.memory outcome.memory
  heard : loading.calls ++ [loading.call] <+: outcome.calls
  provided : forall index step, steps[index]? = some step -> step.pa = metalBadPhys ->
    Exists fun call => Exists fun next =>
      outcome.calls[loading.calls.length + index]? = some call ∧
        outcome.calls[loading.calls.length + (index + 1)]? = some next ∧
        Provided image step loading.memory call next

theorem getElem_of_heard {calls heard : List LoaderCall} {call : LoaderCall}
    (extended : calls ++ [call] <+: heard) : heard[calls.length]? = some call := by
  rcases extended with ⟨later, rfl⟩
  rw [List.append_assoc, List.getElem?_append_right (Nat.le_refl _), Nat.sub_self]
  rfl

/-- One pass before the rest of the loop. -/
theorem LoadedFrom.cons {steps : List LoadStep} {outcome : Outcome}
    (documented : metal.Documented) (firmware : Firmware image (step :: steps))
    (quiet : Quiet (step :: steps)) (store : loading.store = image)
    (later : LoadedFrom image steps (loading.next (memImageStoreOps metal) metal step) outcome) :
    LoadedFrom image (step :: steps) loading outcome := by
  have here := firmware.next_written documented quiet List.mem_cons_self store
  have calls : (loading.next (memImageStoreOps metal) metal step).calls =
      loading.calls ++ [loading.call] := Loading.next_calls
  have length : (loading.next (memImageStoreOps metal) metal step).calls.length =
      loading.calls.length + 1 := by
    rw [calls, List.length_append, List.length_singleton]
  have heard : loading.calls ++ [loading.call] <+: outcome.calls := by
    rw [← calls]
    exact (List.prefix_append _ _).trans later.heard
  refine {
    written := Written.cons firmware here later.written
    heard := heard
    provided := fun index other found bad => ?_ }
  cases index with
  | zero =>
      cases Option.some.inj (found : some step = some other)
      have next := getElem_of_heard later.heard
      rw [length] at next
      exact ⟨loading.call, _, getElem_of_heard heard, next,
        next_of_bad bad (quiet step List.mem_cons_self bad) store⟩
  | succ index =>
      rw [List.getElem?_cons_succ] at found
      rcases later.provided index other found bad with ⟨call, next, first, second, provides⟩
      rw [length, Nat.add_assoc, Nat.add_comm 1] at first second
      refine ⟨call, next, first, second, { provides with
        bytes := fun i small => (provides.bytes i small).trans ?_ }⟩
      exact firmware.image_kept here
        (List.mem_cons_of_mem step (List.mem_of_getElem? found)) small

/-- The loop over a firmware, if it ends with the start of the processor. -/
theorem passes_loadedFrom {steps : List LoadStep} {last : LoadStep} {outcome : Outcome}
    (documented : metal.Documented) (empty : last.Empty) (firmware : Firmware image steps)
    (quiet : Quiet steps) (store : loading.store = image)
    (returned : loading.passes (memImageStoreOps metal) metal startRet (steps ++ [last]) =
      some outcome) (started : outcome.started = true) :
    LoadedFrom image steps loading outcome := by
  induction steps generalizing loading with
  | nil =>
      rw [List.nil_append, Loading.passes] at returned
      by_cases refused : last.ret ≠ 0
      · rw [Loading.pass_refused refused] at returned
        cases returned
        cases started
      · rw [Loading.pass_left (not_not.mp refused) empty] at returned
        cases returned
        exact {
          written := {
            copied := fun _ listed => absurd listed List.not_mem_nil
            padded := fun _ listed => absurd listed List.not_mem_nil
            kept := fun _ _ => rfl }
          heard := List.prefix_rfl
          provided := by
            intro index step found
            cases found }
  | cons step rest inductionHypothesis =>
      rw [List.cons_append, Loading.passes] at returned
      by_cases refused : step.ret ≠ 0
      · rw [Loading.pass_refused refused] at returned
        cases returned
        cases started
      · have whole := firmware.load_ret documented List.mem_cons_self store
        rw [Loading.pass_again (not_not.mp refused) (firmware.more step List.mem_cons_self)
          whole] at returned
        have laterQuiet : Quiet rest :=
          fun other listed => quiet other (List.mem_cons_of_mem step listed)
        exact LoadedFrom.cons documented firmware quiet store
          (inductionHypothesis firmware.tail laterQuiet (Loading.next_store.trans store) returned)

end

/-- If the processor is started after the steps of a firmware, none of which fills memory without
an address, then the firmware is loaded. The steps are those of a firmware over the image, the
last one is empty, and the library does what its documentation says. A step that fills memory
needs an address because the filling goes through the region that only an address gives. -/
theorem memImage_loaded {image : MemFile} {metal : Metal} {rproc : Bool} {memory : ByteMemory}
    {steps : List LoadStep} {last : LoadStep} {startRet : Int} {outcome : Outcome}
    (documented : metal.Documented) (firmware : Firmware image steps) (quiet : Quiet steps)
    (empty : last.Empty)
    (returned : loadExectuableNoblock rproc (memImageStoreOps metal) metal image memory
      (steps ++ [last]) startRet = some outcome)
    (started : outcome.started = true) : Loaded image steps memory outcome := by
  unfold loadExectuableNoblock at returned
  cases rproc with
  | false =>
      cases returned
      exact nomatch started
  | true =>
      have opened : ¬ ((memImageStoreOps metal).openImage image memory).ret ≤ 0 :=
        (by decide : ¬ (0x100 : Int) ≤ 0)
      rw [if_neg nofun, if_neg opened] at returned
      have whole := passes_loadedFrom documented empty firmware quiet rfl returned started
      refine {
        written := whole.written
        provided := fun index step found bad => ?_ }
      rcases whole.provided index step found bad with ⟨call, next, first, second, provides⟩
      rw [Loading.first, List.length_nil, Nat.zero_add] at first second
      exact ⟨call, next, first, second, provides⟩

/-- A region of RAM. -/
def ramRegion : IoRegion where
  virt := 0x10001000
  phys := 0x1000
  size := 0x10000
  fits := by decide

/-- A step for a segment with less data than memory. -/
def segmentStep : LoadStep where
  ret := 0
  noffset := 0x100
  nlen := 8
  nmlen := 16
  pa := 0x2000
  io := some ramRegion
  padding := 0

theorem segment_touches_iff (address : Nat) :
    segmentStep.Touches address ↔ 0x2000 ≤ address ∧ address < 0x2010 :=
  and_iff_right (by decide)

theorem segment_firmware : Firmware image [headerStep, segmentStep] where
  lengths := by decide
  more := by decide
  inside := by
    intro step listed named
    rcases List.mem_pair.mp listed with rfl | rfl
    · exact absurd rfl named
    · refine ⟨ramRegion, rfl, fun address touches => ?_⟩
      have within := (segment_touches_iff address).mp touches
      exact (⟨by omega, by omega⟩ : 0x1000 ≤ address ∧ address < 0x1000 + 0x10000)
  disjoint := List.pairwise_pair.mpr fun _ both => both.1.1 rfl
  places := by
    intro first firstListed second secondListed io firstTargets other secondTargets address
      touches another anotherTouches same
    rcases List.mem_pair.mp firstListed with rfl | rfl
    · exact absurd rfl firstTargets.1
    · rcases List.mem_pair.mp secondListed with rfl | rfl
      · exact absurd rfl secondTargets.1
      · cases Option.some.inj (firstTargets.2.symm.trans secondTargets.2)
        cases Option.some.inj (firstTargets.2 : some ramRegion = some io)
        have one := (segment_touches_iff address).mp touches
        have two := (segment_touches_iff another).mp anotherTouches
        have places : 0x10001000 + (address - 0x1000) = 0x10001000 + (another - 0x1000) := same
        omega
  apart := by
    intro step listed io targets address touches other _ i _ same
    rcases List.mem_pair.mp listed with rfl | rfl
    · exact absurd rfl targets.1
    · cases Option.some.inj (targets.2 : some ramRegion = some io)
      have within := (segment_touches_iff address).mp touches
      have place : 0x10001000 + (address - 0x1000) =
          0x3ED00000 + other.noffset.toNat + i := same
      omega

/-- A segment is loaded after the first bytes of the image have been asked for. -/
theorem segment_loaded :
    Exists fun outcome =>
      loadExectuableNoblock true (memImageStoreOps libmetal) libmetal image (fun _ => 0)
          ([headerStep, segmentStep] ++ [lastStep]) 0 = some outcome ∧
        Loaded image [headerStep, segmentStep] (fun _ => 0) outcome := by
  have quiet : Quiet [headerStep, segmentStep] := by
    intro step listed bad
    rcases List.mem_pair.mp listed with rfl | rfl
    · exact Or.inl rfl
    · exact absurd bad (by decide)
  have empty : lastStep.Empty := by decide
  exact ⟨_, rfl, @memImage_loaded image libmetal true (fun _ => 0) _ lastStep 0 _
    libmetal_documented segment_firmware quiet empty rfl rfl⟩

/-- A region that begins at address zero. -/
def lowRegion : IoRegion where
  virt := 0x1000
  phys := 0
  size := 0x100
  fits := by decide

/-- A step without an address, but with a region and more memory than data. -/
def fillStep : LoadStep where
  ret := 0
  noffset := 0
  nlen := 4
  nmlen := 8
  pa := metalBadPhys
  io := some lowRegion
  padding := 1

/-- The memory is filled although the step has no address: four bytes behind the bad one is
the fourth byte of the region. -/
theorem fill_not_loaded :
    libmetal.Documented ∧ Firmware image [fillStep] ∧ lastStep.Empty ∧
      Exists fun outcome =>
        loadExectuableNoblock true (memImageStoreOps libmetal) libmetal image (fun _ => 0)
            ([fillStep] ++ [lastStep]) 0 = some outcome ∧
          outcome.started = true ∧ outcome.memory 0x1003 = 1 ∧
          ¬ Loaded image [fillStep] (fun _ => 0) outcome := by
  have unnamed : forall step, step ∈ [fillStep] -> step.pa = metalBadPhys := by decide
  have firmware : Firmware image [fillStep] := {
    lengths := by decide
    more := by decide
    inside := fun step listed named => absurd (unnamed step listed) named
    disjoint := List.pairwise_singleton _ _
    places := fun first listed _ _ _ targets => absurd (unnamed first listed) targets.1
    apart := fun step listed _ targets => absurd (unnamed step listed) targets.1 }
  refine ⟨libmetal_documented, firmware, by decide, _, rfl, rfl, by decide, fun loaded => ?_⟩
  have kept := loaded.written.kept 0x1003
    fun step listed _ targets => absurd (unnamed step listed) targets.1
  exact absurd kept (by decide)

end LoadFw
end OpenAmpReference
