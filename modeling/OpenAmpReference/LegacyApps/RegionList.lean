import Mathlib.Data.List.AList
import OpenAmpReference.Library.Transition

namespace OpenAmpReference
namespace RegionList

/-!
# The `mmap` operations and the list of regions

Three machines register a memory region in `rproc->mems` in different ways.  One
registers the same static record in every call, one allocates a record, and one
frees the record that it has registered when the caller does not want the I/O
region.  What `metal_io_phys_to_virt()` returns for a region is a parameter.
-/

variable {w : Nat}

/-- `METAL_BAD_PHYS`, and the other bad values of the library -/
def metalBad : BitVec w := BitVec.allOnes w

/-- `struct remoteproc_mem` -/
structure Mem (w : Nat) where
  pa : BitVec w
  da : BitVec w
  size : BitVec w
  io : Nat
  deriving DecidableEq, Repr

/-- The operations of a region, or the base address that it is translated by. -/
inductive Translation (w : Nat)
  | physmap (base : BitVec w)
  | linuxProcIoOps
  deriving DecidableEq, Repr

/-- `struct metal_io_region` -/
structure Region (w : Nat) where
  virt : BitVec w
  size : BitVec w
  translation : Translation w
  deriving DecidableEq, Repr

/-- `linux_proc_phys_to_offset()` -/
def linuxProcPhysToOffset (size phys : BitVec w) : BitVec w :=
  if phys < size then phys else metalBad

/-- How a region translates a physical address. -/
def Region.physToOffset (region : Region w) (phys : BitVec w) : BitVec w :=
  match region.translation with
  | Translation.physmap base => phys - base
  | Translation.linuxProcIoOps => linuxProcPhysToOffset region.size phys

/-- What `metal_io_phys_to_virt()` is documented to return: the place in the region,
or a null pointer when the address lies outside. -/
structure Documented (physToVirt : Region w -> BitVec w -> BitVec w) : Prop where
  inside : forall region phys, region.virt ≠ metalBad -> region.physToOffset phys < region.size ->
    physToVirt region phys = region.virt + region.physToOffset phys
  outside : forall region phys, ¬ region.physToOffset phys < region.size ->
    physToVirt region phys = 0

/-- What has been allocated. -/
inductive Block (w : Nat)
  | raw
  | mem (record : Mem w)
  | io (region : Region w)
  deriving DecidableEq, Repr

abbrev Heap (w : Nat) := AList fun _ : Nat => Block w

/-- The live blocks, and the addresses in `rproc->mems`. -/
structure State (w : Nat) where
  heap : Heap w
  mems : List Nat

/-- The arguments of a call, with whether `io` is given. -/
structure Request (w : Nat) where
  pa : BitVec w
  da : BitVec w
  size : BitVec w
  hasIo : Bool
  deriving DecidableEq, Repr

/-- `lpa` and `lda` -/
def Request.resolve (request : Request w) : Option (BitVec w × BitVec w) :=
  if request.pa = metalBad ∧ request.da = metalBad then none
  else
    let lpa := if request.pa = metalBad then request.da else request.pa
    let lda := if request.da = metalBad then lpa else request.da
    some (lpa, lda)

namespace State

/-- `metal_allocate_memory()` -/
def allocate (state : State w) (address : Nat) : State w :=
  { state with heap := state.heap.insert address Block.raw }

/-- `metal_free_memory()` -/
def free (state : State w) (address : Nat) : State w :=
  { state with heap := state.heap.erase address }

/-- A region whose virtual addresses are the physical ones. -/
def identityRegion (lpa size : BitVec w) : Region w where
  virt := lpa
  size := size
  translation := Translation.physmap lpa

/-- `remoteproc_init_mem()`, `metal_io_init()` and `remoteproc_add_mem()` -/
def register (state : State w) (mem tmpio : Nat) (lpa lda size : BitVec w) : State w :=
  let record : Block w := Block.mem { pa := lpa, da := lda, size := size, io := tmpio }
  let region : Block w := Block.io (identityRegion lpa size)
  { heap := (state.heap.insert mem record).insert tmpio region
    mems := state.mems ++ [mem] }

end State

section Operations

variable (physToVirt : Region w -> BitVec w -> BitVec w)

/-- Allocate a record and an I/O region and register them.  Unless they stay, both
are freed again afterwards. -/
def mapRegion (stays : Request w -> Bool) (state : State w) (request : Request w)
    (mem tmpio : Option Nat) : State w × BitVec w :=
  match request.resolve with
  | none => (state, 0)
  | some (lpa, lda) =>
      match mem with
      | none => (state, 0)
      | some mem =>
          match tmpio with
          | none => ((state.allocate mem).free mem, 0)
          | some tmpio =>
              let registered := ((state.allocate mem).allocate tmpio).register mem tmpio lpa lda
                request.size
              if stays request then
                (registered, physToVirt (State.identityRegion lpa request.size) lpa)
              else ((registered.free tmpio).free mem, 0)

/-- `zynqmp_r5_a53_proc_mmap()` -/
def zynqmpR5A53ProcMmap : State w -> Request w -> Option Nat -> Option Nat -> State w × BitVec w :=
  mapRegion physToVirt fun _ => true

/-- `zynqmp_mb_a53_proc_mmap()` -/
def zynqmpMbA53ProcMmap : State w -> Request w -> Option Nat -> Option Nat -> State w × BitVec w :=
  mapRegion physToVirt fun request => request.hasIo

/-- `shm_size` -/
def shmSize : BitVec w := BitVec.ofNat w 0x80000

/-- The shared memory of the process.  It is mapped where no address is null. -/
structure Shm (w : Nat) where
  base : BitVec w
  base_ne : base ≠ metalBad
  mapped : forall offset, offset < shmSize -> base + offset ≠ 0

/-- `prproc->shm_new_io` -/
def Shm.newIo (shm : Shm w) : Region w where
  virt := shm.base
  size := shmSize
  translation := Translation.linuxProcIoOps

/-- Where `prproc->shm` and `prproc->shm_new_io` are. -/
def shmAddress : Nat := 0

def shmIoAddress : Nat := 1

/-- `linux_proc_mmap()` -/
def linuxProcMmap (shm : Shm w) (state : State w) (request : Request w) : State w × BitVec w :=
  match request.resolve with
  | none => (state, 0)
  | some (lpa, _) =>
      let va := physToVirt shm.newIo lpa
      if va = 0 then (state, va)
      else ({ state with mems := state.mems ++ [shmAddress] }, va)

inductive Machine (w : Nat)
  | linux (shm : Shm w)
  | zynqmpR5
  | microblaze

/-- The record of the shared memory is there from the beginning. -/
def Machine.initial : Machine w -> State w
  | linux shm =>
      let region : Block w := Block.io shm.newIo
      let record : Block w := Block.mem { pa := 0, da := 0, size := shmSize, io := shmIoAddress }
      { heap := ((∅ : Heap w).insert shmIoAddress region).insert shmAddress record
        mems := [] }
  | zynqmpR5 | microblaze => { heap := ∅, mems := [] }

/-- The arguments of a call, and what the allocator returns for the record and for
the I/O region. -/
structure Call (w : Nat) where
  request : Request w
  mem : Option Nat
  tmpio : Option Nat
  deriving DecidableEq, Repr

def Machine.mmap (machine : Machine w) (state : State w) (call : Call w) : State w × BitVec w :=
  match machine with
  | linux shm => linuxProcMmap physToVirt shm state call.request
  | zynqmpR5 => zynqmpR5A53ProcMmap physToVirt state call.request call.mem call.tmpio
  | microblaze => zynqmpMbA53ProcMmap physToVirt state call.request call.mem call.tmpio

end Operations

/-- The blocks that the allocator returns in a call. -/
def Call.blocks (call : Call w) : List Nat :=
  call.mem.toList ++ call.tmpio.toList

/-- The allocator returns blocks that are not in use. -/
def Fresh (state : State w) (call : Call w) : Prop :=
  call.blocks.Nodup ∧ forall address, address ∈ call.blocks -> address ∉ state.heap.keys

instance freshDecidable (state : State w) (call : Call w) : Decidable (Fresh state call) :=
  inferInstanceAs (Decidable (_ ∧ _))

/-- A call that has returned. -/
structure Returned (w : Nat) where
  before : State w
  request : Request w
  ret : BitVec w

structure World (w : Nat) where
  state : State w
  last : Option (Returned w)

namespace World

def initial (machine : Machine w) : World w where
  state := machine.initial
  last := none

def step (physToVirt : Region w -> BitVec w -> BitVec w) (machine : Machine w)
    (world : World w) (call : Call w) : Option (World w) :=
  if Fresh world.state call then
    let done := machine.mmap physToVirt world.state call
    some { state := done.1,
           last := some { before := world.state, request := call.request, ret := done.2 } }
  else none

end World

/-! ## What a list in order is -/

/-- The list has no duplicates, and its records and their regions are allocated. -/
structure Intact (state : State w) : Prop where
  nodup : state.mems.Nodup
  live : forall address, address ∈ state.mems -> Exists fun record => Exists fun region =>
    state.heap.lookup address = some (Block.mem record) ∧
      state.heap.lookup record.io = some (Block.io region)

/-- Some listed record covers the address. -/
def Covers (state : State w) (lpa : BitVec w) : Prop :=
  Exists fun address => Exists fun record => address ∈ state.mems ∧
    state.heap.lookup address = some (Block.mem record) ∧ lpa - record.pa < record.size

/-- The result of a call agrees with what it has done. -/
structure Agrees (before after : State w) (request : Request w) (ret : BitVec w) : Prop where
  failed : ret = 0 -> after.mems = before.mems ∧
    forall address, after.heap.lookup address = before.heap.lookup address
  mapped : ret ≠ 0 -> Exists fun lpa => Exists fun lda =>
    request.resolve = some (lpa, lda) ∧ Covers after lpa

/-- The list is intact, and the last call has returned what agrees with it. -/
structure World.Integral (world : World w) : Prop where
  intact : Intact world.state
  agrees : forall done, world.last = some done ->
    Agrees done.before world.state done.request done.ret

namespace Agrees

variable {before : State w} {request : Request w}

theorem unchanged : Agrees before before request 0 where
  failed := fun _ => ⟨rfl, fun _ => rfl⟩
  mapped := fun some => absurd rfl some

end Agrees

/-! ## Allocating and registering -/

namespace State

theorem allocate_free (state : State w) {mem : Nat} (fresh : mem ∉ state.heap)
    (address : Nat) :
    ((state.allocate mem).free mem).heap.lookup address = state.heap.lookup address := by
  by_cases same : address = mem
  · subst same
    rw [free, AList.lookup_erase, AList.lookup_eq_none.mpr fresh]
  · rw [free, AList.lookup_erase_ne same, allocate, AList.lookup_insert_ne same]

/-- The state after both blocks were allocated and the record was registered. -/
def registered (state : State w) (mem tmpio : Nat) (lpa lda size : BitVec w) : State w :=
  ((state.allocate mem).allocate tmpio).register mem tmpio lpa lda size

variable {state : State w} {mem tmpio : Nat} {lpa lda size : BitVec w}

theorem registered_lookup_mem (apart : mem ≠ tmpio) :
    (state.registered mem tmpio lpa lda size).heap.lookup mem =
      some (Block.mem { pa := lpa, da := lda, size := size, io := tmpio }) := by
  rw [registered, register, AList.lookup_insert_ne apart, AList.lookup_insert]

theorem registered_lookup_tmpio :
    (state.registered mem tmpio lpa lda size).heap.lookup tmpio =
      some (Block.io (identityRegion lpa size)) := by
  rw [registered, register, AList.lookup_insert]

theorem registered_lookup_of_ne {address : Nat} (notMem : address ≠ mem)
    (notTmpio : address ≠ tmpio) :
    (state.registered mem tmpio lpa lda size).heap.lookup address =
      state.heap.lookup address := by
  rw [registered, register, AList.lookup_insert_ne notTmpio, AList.lookup_insert_ne notMem,
    allocate, AList.lookup_insert_ne notTmpio, allocate, AList.lookup_insert_ne notMem]

end State

theorem Intact.congr {state other : State w} (intact : Intact state)
    (mems : other.mems = state.mems)
    (same : forall address, other.heap.lookup address = state.heap.lookup address) :
    Intact other where
  nodup := mems ▸ intact.nodup
  live := by
    intro address listed
    rcases intact.live address (mems ▸ listed) with ⟨record, region, here, there⟩
    exact ⟨record, region, (same address).trans here, (same record.io).trans there⟩

/-- A listed record is allocated. -/
theorem Intact.mem_heap {state : State w} (intact : Intact state) {address : Nat}
    (listed : address ∈ state.mems) : address ∈ state.heap := by
  rcases intact.live address listed with ⟨_, _, here, _⟩
  exact AList.lookup_isSome.mp (Option.isSome_of_eq_some here)

/-- Registering a fresh record keeps the list intact. -/
theorem Intact.registered {state : State w} (intact : Intact state) {mem tmpio : Nat}
    (freshMem : mem ∉ state.heap) (freshTmpio : tmpio ∉ state.heap) (apart : mem ≠ tmpio)
    (lpa lda size : BitVec w) : Intact (state.registered mem tmpio lpa lda size) where
  nodup := by
    refine List.nodup_append.mpr ⟨intact.nodup, List.nodup_singleton mem, ?_⟩
    intro address listed last isLast same
    exact freshMem (List.mem_singleton.mp isLast ▸ same ▸ intact.mem_heap listed)
  live := by
    intro address listed
    rcases List.mem_append.mp listed with before | new
    · rcases intact.live address before with ⟨record, region, here, there⟩
      have used : forall {place : Nat} {block : Block w},
          state.heap.lookup place = some block -> place ≠ mem ∧ place ≠ tmpio := by
        intro place block found
        have inHeap := AList.lookup_isSome.mp (Option.isSome_of_eq_some found)
        exact ⟨fun same => freshMem (same ▸ inHeap), fun same => freshTmpio (same ▸ inHeap)⟩
      refine ⟨record, region, ?_, ?_⟩
      · rw [State.registered_lookup_of_ne (used here).1 (used here).2, here]
      · rw [State.registered_lookup_of_ne (used there).1 (used there).2, there]
    · rw [List.mem_singleton.mp new]
      exact ⟨_, _, State.registered_lookup_mem apart, State.registered_lookup_tmpio⟩

/-- The new record covers the address unless the region is empty. -/
theorem registered_covers (state : State w) {mem tmpio : Nat} (apart : mem ≠ tmpio)
    (lpa lda : BitVec w) {size : BitVec w} (nonempty : size ≠ 0) :
    Covers (state.registered mem tmpio lpa lda size) lpa := by
  refine ⟨mem, _, List.mem_append_right _ (List.mem_singleton_self mem),
    State.registered_lookup_mem apart, ?_⟩
  rw [BitVec.sub_self]
  exact (BitVec.pos_iff_ne_zero size).mpr nonempty

/-! ## The operations -/

/-- What a call that allocates can do: leave everything as it was, register a region,
or register and free it again. -/
theorem mapRegion_cases (physToVirt : Region w -> BitVec w -> BitVec w)
    (stays : Request w -> Bool) (state : State w) (request : Request w) (mem tmpio : Option Nat) :
    (mapRegion physToVirt stays state request mem tmpio).2 = 0 ∧
        ((mapRegion physToVirt stays state request mem tmpio).1 = state ∨
          Exists fun address => mem = some address ∧
            (mapRegion physToVirt stays state request mem tmpio).1 =
              (state.allocate address).free address) ∧
        (request.resolve = none ∨ mem = none ∨ tmpio = none) ∨
      Exists fun lpa => Exists fun lda => Exists fun address => Exists fun io =>
        request.resolve = some (lpa, lda) ∧ mem = some address ∧ tmpio = some io ∧
        mapRegion physToVirt stays state request mem tmpio =
          if stays request then
            (state.registered address io lpa lda request.size,
              physToVirt (State.identityRegion lpa request.size) lpa)
          else (((state.registered address io lpa lda request.size).free io).free address, 0) := by
  unfold mapRegion
  cases resolved : request.resolve with
  | none => exact Or.inl ⟨rfl, Or.inl rfl, Or.inl rfl⟩
  | some both =>
      cases mem with
      | none => exact Or.inl ⟨rfl, Or.inl rfl, Or.inr (Or.inl rfl)⟩
      | some address =>
          cases tmpio with
          | none => exact Or.inl ⟨rfl, Or.inr ⟨address, rfl, rfl⟩, Or.inr (Or.inr rfl)⟩
          | some io => exact Or.inr ⟨both.1, both.2, address, io, rfl, rfl, rfl, rfl⟩

/-- A resolved address is not bad. -/
theorem resolve_ne_bad {request : Request w} {lpa lda : BitVec w}
    (resolved : request.resolve = some (lpa, lda)) : lpa ≠ metalBad := by
  unfold Request.resolve at resolved
  split at resolved
  · cases resolved
  · rename_i notBoth
    cases resolved
    intro bad
    split at bad
    · rename_i badPa
      exact notBoth ⟨badPa, bad⟩
    · contradiction

/-- The pointer for a region that is mapped to itself. -/
theorem identity_virt {physToVirt : Region w -> BitVec w -> BitVec w}
    (documented : Documented physToVirt) {lpa size : BitVec w} (notBad : lpa ≠ metalBad) :
    physToVirt (State.identityRegion lpa size) lpa = if size = 0 then 0 else lpa := by
  have offset : (State.identityRegion lpa size).physToOffset lpa = 0 := BitVec.sub_self lpa
  split
  · rename_i empty
    refine documented.outside _ _ ?_
    rw [offset, State.identityRegion, empty]
    exact BitVec.lt_irrefl 0
  · rename_i nonempty
    have inside := documented.inside (State.identityRegion lpa size) lpa notBad
      (by rw [offset]; exact (BitVec.pos_iff_ne_zero size).mpr nonempty)
    rw [inside, offset]
    exact BitVec.add_zero lpa

theorem le_metalBad (address : BitVec w) : address ≤ metalBad := by
  rw [BitVec.le_def, metalBad, BitVec.toNat_allOnes]
  exact Nat.le_sub_one_of_lt address.isLt

/-- The pointer into the shared memory. -/
theorem shm_virt {physToVirt : Region w -> BitVec w -> BitVec w}
    (documented : Documented physToVirt) (shm : Shm w) (lpa : BitVec w) :
    physToVirt shm.newIo lpa ≠ 0 ↔ lpa < shmSize := by
  by_cases inside : lpa < shmSize
  · have offset : shm.newIo.physToOffset lpa = lpa := if_pos inside
    have virt := documented.inside shm.newIo lpa shm.base_ne (by rw [offset]; exact inside)
    rw [virt, offset]
    exact ⟨fun _ => inside, fun _ => shm.mapped lpa inside⟩
  · have offset : shm.newIo.physToOffset lpa = metalBad := if_neg inside
    have null := documented.outside shm.newIo lpa (by
      rw [offset]
      exact BitVec.not_lt.mpr (le_metalBad _))
    exact ⟨fun some => absurd null some, fun within => absurd within inside⟩

/-- When both allocations succeed, a call registers a region that is not empty, at an
address that is not null, and that stays. -/
def Registers (stays : Request w -> Bool) (call : Call w) : Prop :=
  forall lpa lda, call.request.resolve = some (lpa, lda) -> call.mem ≠ none ->
    call.tmpio ≠ none ->
      stays call.request = true ∧ call.request.size ≠ 0 ∧ lpa ≠ 0

theorem Fresh.apart {state : State w} {call : Call w} (fresh : Fresh state call) {mem tmpio : Nat}
    (isMem : call.mem = some mem) (isTmpio : call.tmpio = some tmpio) :
    mem ∉ state.heap ∧ tmpio ∉ state.heap ∧ mem ≠ tmpio := by
  have nodup := fresh.1
  have unused := fresh.2
  simp only [Call.blocks, isMem, isTmpio, Option.toList_some, List.singleton_append,
    List.nodup_cons, List.mem_cons, List.not_mem_nil, or_false] at nodup unused
  exact ⟨unused mem (Or.inl rfl), unused tmpio (Or.inr rfl), nodup.1⟩

theorem Fresh.mem_notMem {state : State w} {call : Call w} (fresh : Fresh state call) {mem : Nat}
    (isMem : call.mem = some mem) : mem ∉ state.heap := by
  refine fresh.2 mem (List.mem_append_left _ ?_)
  rw [isMem]
  exact List.mem_singleton_self mem

theorem ite_eq_zero_iff {size lpa : BitVec w} :
    (if size = 0 then 0 else lpa) = 0 ↔ ¬ (size ≠ 0 ∧ lpa ≠ 0) := by
  split
  · rename_i empty
    exact iff_of_true rfl fun both => both.1 empty
  · rename_i nonempty
    rw [not_and_not_right]
    exact ⟨fun null _ => null, fun null => null nonempty⟩

section Calls

variable {physToVirt : Region w -> BitVec w -> BitVec w} {stays : Request w -> Bool}
  {state : State w} {call : Call w}

theorem mapRegion_sound (documented : Documented physToVirt) (intact : Intact state)
    (fresh : Fresh state call) (registers : Registers stays call) :
    Intact (mapRegion physToVirt stays state call.request call.mem call.tmpio).1 ∧
      Agrees state (mapRegion physToVirt stays state call.request call.mem call.tmpio).1
        call.request (mapRegion physToVirt stays state call.request call.mem call.tmpio).2 := by
  rcases mapRegion_cases physToVirt stays state call.request call.mem call.tmpio with
    ⟨null, same | ⟨address, isMem, freed⟩, _⟩ |
      ⟨lpa, lda, address, io, resolved, isMem, isTmpio, done⟩
  · rw [null, same]
    exact ⟨intact, Agrees.unchanged⟩
  · have kept := State.allocate_free state (fresh.mem_notMem isMem)
    rw [null, freed]
    exact ⟨intact.congr rfl kept,
      { failed := fun _ => ⟨rfl, kept⟩, mapped := fun some => absurd rfl some }⟩
  · have proper := registers lpa lda resolved (by rw [isMem]; nofun) (by rw [isTmpio]; nofun)
    rcases fresh.apart isMem isTmpio with ⟨freshMem, freshTmpio, apart⟩
    rw [done, if_pos proper.1, identity_virt documented (resolve_ne_bad resolved),
      if_neg proper.2.1]
    refine ⟨intact.registered freshMem freshTmpio apart lpa lda call.request.size, ?_⟩
    exact {
      failed := fun null => absurd null proper.2.2
      mapped := fun _ => ⟨lpa, lda, resolved, registered_covers state apart lpa lda proper.2.1⟩ }

theorem registers_of_agrees (documented : Documented physToVirt)
    (agrees : Agrees state (mapRegion physToVirt stays state call.request call.mem call.tmpio).1
      call.request (mapRegion physToVirt stays state call.request call.mem call.tmpio).2) :
    Registers stays call := by
  intro lpa lda resolved memSome tmpioSome
  have grown : forall address : Nat, state.mems ++ [address] ≠ state.mems := fun address same =>
    List.cons_ne_nil _ _ (List.append_right_eq_self.mp same)
  rcases mapRegion_cases physToVirt stays state call.request call.mem call.tmpio with
    ⟨_, _, refused⟩ | ⟨lpa', lda', address, io, resolved', _, _, done⟩
  · rcases refused with unresolved | noMem | noTmpio
    · cases resolved.symm.trans unresolved
    · exact absurd noMem memSome
    · exact absurd noTmpio tmpioSome
  · cases resolved.symm.trans resolved'
    rw [done] at agrees
    by_cases stay : stays call.request = true
    · rw [if_pos stay] at agrees
      refine ⟨stay, ?_⟩
      by_contra improper
      have null := agrees.failed (by
        rw [identity_virt documented (resolve_ne_bad resolved)]
        exact ite_eq_zero_iff.mpr improper)
      exact grown address null.1
    · rw [if_neg stay] at agrees
      exact absurd (agrees.failed rfl).1 (grown address)

/-! ## The shared memory of the process -/

/-- The static record and its region. -/
def ShmPresent (shm : Shm w) (state : State w) : Prop :=
  state.heap.lookup shmAddress =
      some (Block.mem { pa := 0, da := 0, size := shmSize, io := shmIoAddress }) ∧
    state.heap.lookup shmIoAddress = some (Block.io shm.newIo)

/-- A call for an address in the shared memory is the first one. -/
def RegistersOnce (state : State w) (request : Request w) : Prop :=
  forall lpa lda, request.resolve = some (lpa, lda) -> lpa < shmSize -> shmAddress ∉ state.mems

variable {request : Request w} {shm : Shm w}

/-- What a call can do: nothing, or register the record for an address that it covers. -/
theorem linuxProcMmap_cases (documented : Documented physToVirt) (shm : Shm w) (state : State w)
    (request : Request w) :
    (linuxProcMmap physToVirt shm state request = (state, 0) ∧
        forall lpa lda, request.resolve = some (lpa, lda) -> ¬ lpa < shmSize) ∨
      Exists fun lpa => Exists fun lda => request.resolve = some (lpa, lda) ∧ lpa < shmSize ∧
        physToVirt shm.newIo lpa ≠ 0 ∧
        linuxProcMmap physToVirt shm state request =
          ({ state with mems := state.mems ++ [shmAddress] }, physToVirt shm.newIo lpa) := by
  unfold linuxProcMmap
  cases resolved : request.resolve with
  | none => exact Or.inl ⟨rfl, nofun⟩
  | some both =>
      by_cases null : physToVirt shm.newIo both.1 = 0
      · refine Or.inl ⟨?_, ?_⟩
        · simp only [null, if_true]
        · intro lpa lda same inside
          cases same
          exact (shm_virt documented shm lpa).mpr inside null
      · refine Or.inr ⟨both.1, both.2, rfl, (shm_virt documented shm both.1).mp null, null, ?_⟩
        simp only [if_neg null]

theorem linuxProcMmap_sound (documented : Documented physToVirt) (intact : Intact state)
    (present : ShmPresent shm state) (once : RegistersOnce state request) :
    Intact (linuxProcMmap physToVirt shm state request).1 ∧
      ShmPresent shm (linuxProcMmap physToVirt shm state request).1 ∧
      Agrees state (linuxProcMmap physToVirt shm state request).1 request
        (linuxProcMmap physToVirt shm state request).2 := by
  rcases linuxProcMmap_cases documented shm state request with
    ⟨same, _⟩ | ⟨lpa, lda, resolved, inside, virt, done⟩
  · rw [same]
    exact ⟨intact, present, Agrees.unchanged⟩
  · rw [done]
    have notListed := once lpa lda resolved inside
    refine ⟨?_, present, ?_⟩
    · constructor
      · refine List.nodup_append.mpr ⟨intact.nodup, List.nodup_singleton _, ?_⟩
        intro address listed last isLast same
        exact notListed (List.mem_singleton.mp isLast ▸ same ▸ listed)
      · intro address listed
        rcases List.mem_append.mp listed with before | new
        · exact intact.live address before
        · rw [List.mem_singleton.mp new]
          exact ⟨_, _, present.1, present.2⟩
    · constructor
      · intro null
        exact absurd null virt
      · intro _
        refine ⟨lpa, lda, resolved, shmAddress, _, ?_, present.1, ?_⟩
        · exact List.mem_append_right _ (List.mem_singleton_self _)
        · exact (BitVec.sub_zero lpa).symm ▸ inside

theorem registersOnce_of_intact (documented : Documented physToVirt)
    (intact : Intact (linuxProcMmap physToVirt shm state request).1) :
    RegistersOnce state request := by
  intro lpa lda resolved inside listed
  rcases linuxProcMmap_cases documented shm state request with
    ⟨_, outside⟩ | ⟨_, _, _, _, _, done⟩
  · exact outside lpa lda resolved inside
  · rw [done] at intact
    exact (List.nodup_append.mp intact.nodup).2.2 _ listed _ (List.mem_singleton_self _) rfl

end Calls

/-! ## Sequences of calls -/

namespace World

/-- Under Linux a call for an address in the shared memory is the first one; on the
other machines a call that gets both blocks asks for a region that is not empty, at an
address that is not null, and on the MicroBlaze it also asks for the I/O region. -/
def Proper (machine : Machine w) (world : World w) (call : Call w) : Prop :=
  match machine with
  | Machine.linux _ => RegistersOnce world.state call.request
  | Machine.zynqmpR5 => Registers (fun _ => true) call
  | Machine.microblaze => Registers (fun request => request.hasIo) call

/-- The invariant of the proper calls. -/
structure Ok (machine : Machine w) (world : World w) : Prop where
  integral : Integral world
  present : forall shm, machine = Machine.linux shm -> ShmPresent shm world.state

theorem ok_initial (machine : Machine w) : Ok machine (initial machine) where
  integral := {
    intact := {
      nodup := by cases machine <;> exact List.nodup_nil
      live := by cases machine <;> nofun }
    agrees := nofun }
  present := by
    rintro shm rfl
    refine ⟨AList.lookup_insert _, ?_⟩
    exact (AList.lookup_insert_ne (by decide)).trans (AList.lookup_insert _)

variable {physToVirt : Region w -> BitVec w -> BitVec w} {machine : Machine w}
  {world next : World w} {call : Call w}

theorem step_eq_some (moved : step physToVirt machine world call = some next) :
    Fresh world.state call ∧ next =
      { state := (machine.mmap physToVirt world.state call).1
        last := some { before := world.state
                       request := call.request
                       ret := (machine.mmap physToVirt world.state call).2 } } := by
  rw [step, Option.ite_none_right_eq_some] at moved
  exact ⟨moved.1, (Option.some.inj moved.2).symm⟩

theorem Ok.step (documented : Documented physToVirt) (ok : Ok machine world)
    (proper : Proper machine world call)
    (moved : World.step physToVirt machine world call = some next) : Ok machine next := by
  rcases step_eq_some moved with ⟨fresh, rfl⟩
  cases machine with
  | linux shm =>
      rcases linuxProcMmap_sound documented ok.integral.intact (ok.present shm rfl) proper with
        ⟨intact, present, agrees⟩
      exact {
        integral := { intact := intact, agrees := fun _ done => Option.some.inj done ▸ agrees }
        present := fun _ same => Machine.linux.inj same ▸ present }
  | zynqmpR5 =>
      have registers : Registers (fun _ => true) call := proper
      rcases mapRegion_sound documented ok.integral.intact fresh registers with ⟨intact, agrees⟩
      exact {
        integral := { intact := intact, agrees := fun _ done => Option.some.inj done ▸ agrees }
        present := nofun }
  | microblaze =>
      have registers : Registers (fun request => request.hasIo) call := proper
      rcases mapRegion_sound documented ok.integral.intact fresh registers with ⟨intact, agrees⟩
      exact {
        integral := { intact := intact, agrees := fun _ done => Option.some.inj done ▸ agrees }
        present := nofun }

theorem proper_of_integral (documented : Documented physToVirt)
    (moved : World.step physToVirt machine world call = some next) (integral : Integral next) :
    Proper machine world call := by
  rcases step_eq_some moved with ⟨_, rfl⟩
  cases machine with
  | linux shm => exact registersOnce_of_intact documented integral.intact
  | zynqmpR5 => exact registers_of_agrees documented (integral.agrees _ rfl)
  | microblaze => exact registers_of_agrees documented (integral.agrees _ rfl)

open Transition

/-- On each machine the list stays intact, and every call agrees with its result, exactly as long
as the calls are proper. The allocations fail or succeed in any way in each call.
`metal_io_phys_to_virt()` has to do what its documentation says of addresses in and out of the
region; nothing else of libmetal is used. -/
theorem integral_iff_proper (documented : Documented physToVirt) (machine : Machine w)
    (schedule : List (Call w)) :
    Always Integral (step physToVirt machine) (initial machine) schedule ↔
      Guarded (Proper machine) (step physToVirt machine) (initial machine) schedule :=
  always_iff_guarded (Ok machine) (fun _ ok => ok.integral)
    (fun _ _ _ ok => ok.step documented) (fun _ _ _ _ => proper_of_integral documented)
    schedule (ok_initial machine)

/-- A translation as it is documented. -/
def documentedPhysToVirt (region : Region w) (phys : BitVec w) : BitVec w :=
  if region.virt ≠ metalBad ∧ region.physToOffset phys < region.size then
    region.virt + region.physToOffset phys
  else 0

theorem documentedPhysToVirt_documented :
    Documented (documentedPhysToVirt : Region w -> BitVec w -> BitVec w) where
  inside := fun _ _ notBad inside => if_pos ⟨notBad, inside⟩
  outside := fun _ _ outside => if_neg fun both => outside both.2

/-- A call for one page at `0x3ed40000`, for which the allocator returns two blocks. -/
def pageCall : Call 32 where
  request := { pa := 0x3ed40000, da := metalBad, size := 0x1000, hasIo := true }
  mem := some 2
  tmpio := some 3

theorem pageCall_integral :
    Always Integral (step documentedPhysToVirt Machine.microblaze) (initial Machine.microblaze)
      [pageCall] := by
  refine (integral_iff_proper documentedPhysToVirt_documented Machine.microblaze [pageCall]).mpr
    ⟨?_, trivial⟩
  intro lpa lda resolved _ _
  cases resolved
  exact ⟨rfl, by decide, by decide⟩

/-- The shared memory of the process, mapped at one mebibyte. -/
def shmAtMebibyte : Shm 64 where
  base := 0x100000
  base_ne := by decide
  mapped := by
    intro offset inside null
    have bound := BitVec.lt_def.mp inside
    have sum := congrArg BitVec.toNat null
    simp only [shmSize, BitVec.toNat_ofNat, BitVec.toNat_add, BitVec.ofNat_eq_ofNat] at bound sum
    omega

/-- A call for the first page of the shared memory. -/
def shmCall : Call 64 where
  request := { pa := 0, da := metalBad, size := 0x1000, hasIo := true }
  mem := none
  tmpio := none

/-- A first call that is not proper breaks the list or its agreement with the result. -/
theorem not_integral_of_first {call : Call w} (documented : Documented physToVirt)
    (fresh : Fresh machine.initial call) (improper : ¬ Proper machine (initial machine) call) :
    ¬ Always Integral (step physToVirt machine) (initial machine) [call] := by
  intro always
  have performed : Exists fun next =>
      step physToVirt machine (initial machine) call = some next := ⟨_, if_pos fresh⟩
  rcases performed with ⟨next, moved⟩
  exact improper (proper_of_integral documented moved (always.tail moved).head)

/-- Under Linux a second call lists the record twice, without an I/O region the
MicroBlaze lists a record that is freed, and an empty region stays listed although the
call has failed. -/
theorem lists_not_integral :
    (run (step documentedPhysToVirt (Machine.linux shmAtMebibyte))
        (initial (Machine.linux shmAtMebibyte)) [shmCall, shmCall]).map
          (fun world => world.state.mems) = some [shmAddress, shmAddress] ∧
      ¬ Always Integral (step documentedPhysToVirt (Machine.linux shmAtMebibyte))
        (initial (Machine.linux shmAtMebibyte)) [shmCall, shmCall] ∧
      ¬ Always Integral (step documentedPhysToVirt Machine.microblaze)
        (initial Machine.microblaze)
        [{ pageCall with request := { pageCall.request with hasIo := false } }] ∧
      ¬ Always Integral (step documentedPhysToVirt Machine.zynqmpR5) (initial Machine.zynqmpR5)
        [{ pageCall with request := { pageCall.request with size := 0 } }] := by
  have twice : (run (step documentedPhysToVirt (Machine.linux shmAtMebibyte))
        (initial (Machine.linux shmAtMebibyte)) [shmCall, shmCall]).map
          (fun world => world.state.mems) = some [shmAddress, shmAddress] := by decide
  refine ⟨twice, ?_, ?_, ?_⟩
  · intro always
    rcases Option.map_eq_some_iff.mp twice with ⟨final, reached, mems⟩
    have nodup := (always.last reached).intact.nodup
    rw [mems] at nodup
    exact absurd nodup (by decide)
  · refine not_integral_of_first documentedPhysToVirt_documented (by decide) fun proper => ?_
    exact nomatch (proper 0x3ed40000 0x3ed40000 rfl nofun nofun).1
  · refine not_integral_of_first documentedPhysToVirt_documented (by decide) fun proper => ?_
    exact (proper 0x3ed40000 0x3ed40000 rfl nofun nofun).2.1 rfl

end World
end RegionList
end OpenAmpReference
