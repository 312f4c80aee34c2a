import OpenAmpReference.Library.BlockPool

namespace OpenAmpReference
namespace LegacyApps
namespace SharedBuffers

/-!
# The shared buffer pool of the `zynqmp_r5` and `microblaze_generic` machines

`platform_create_proc()` maps the resource table and then the shared memory, and
`platform_create_rpmsg_vdev()` looks the region of the shared memory up by its address and
gives the part from `SHARED_BUF_OFFSET` on to the pool of buffers.  The
`microblaze_generic` machine takes the offset off the size it tells the pool, the
`zynqmp_r5` machine does not.  The `zynqmp_r5` machine keeps the record of its
mapping, the `microblaze_generic` machine frees it while it is in the list that the
mapping is then looked up in.  The record of the resource table stands before it.
-/

inductive Port
  | zynqmpR5
  | microblaze
  deriving DecidableEq, Repr

/-- `SHARED_MEM_PA`, `SHARED_MEM_SIZE` and `SHARED_BUF_OFFSET`, and where
`get_resource_table()` finds the resource table -/
structure Config where
  sharedMemPa : Nat
  sharedMemSize : Nat
  sharedBufOffset : Nat
  offset_pos : 0 < sharedBufOffset
  offset_lt : sharedBufOffset < sharedMemSize
  rscTable : Extent

/-- The range that `platform_create_proc()` maps. -/
def Config.window (config : Config) : Extent where
  start := config.sharedMemPa
  length := config.sharedMemSize

/-- Where the pool is to begin -/
def Config.poolPa (config : Config) : Nat :=
  config.sharedMemPa + config.sharedBufOffset

/-! ## Mapping the memory -/

/-- `struct metal_io_region` -/
structure IoRegion where
  phys : Extent
  virt : Nat
  deriving DecidableEq, Repr

/-- `struct remoteproc_mem` in the list of the remoteproc. -/
structure Mem where
  io : IoRegion
  freed : Bool
  deriving DecidableEq, Repr

/-- How the remoteproc library tests whether a region covers so many bytes from an address
on.  What it makes of no bytes at the very end of a region is left open. -/
structure Search where
  covers : Extent -> Nat -> Nat -> Bool
  covers_of_inside : forall region pa size, region.start ≤ pa -> pa < region.finish ->
    pa + size ≤ region.finish -> covers region pa size = true
  inside_of_covers : forall region pa size, covers region pa size = true ->
    region.start ≤ pa ∧ pa + size ≤ region.finish

/-- A mapping with the same virtual and physical addresses -/
def IoRegion.identity (range : Extent) : IoRegion where
  phys := range
  virt := range.start

/-- `zynqmp_r5_a53_proc_mmap()` and `zynqmp_mb_a53_proc_mmap()`: the second frees the record
if the caller does not ask for the region. -/
def Port.mmap (port : Port) (range : Extent) (wantsIo : Bool) : Mem where
  io := IoRegion.identity range
  freed :=
    match port with
    | .zynqmpR5 => false
    | .microblaze => !wantsIo

/-- `remoteproc_mmap()`: what a region in the list covers is not mapped again. -/
def remoteprocMmap (search : Search) (port : Port) (mems : List Mem) (range : Extent)
    (wantsIo allocates : Bool) : List Mem :=
  if mems.any (fun mem => search.covers mem.io.phys range.start range.length) then mems
  else if allocates then mems ++ [port.mmap range wantsIo]
  else mems

/-- What `platform_create_proc()` is answered by the libraries; `mapsTable` and `mapsMemory`
say whether the allocations of the two mappings succeed. -/
structure ProcCalls where
  /- `metal_register_generic_device()`, on the `zynqmp_r5` only. -/
  registers : Bool
  inits : Bool
  mapsTable : Bool
  mapsMemory : Bool
  setsRscTable : Bool

/-- `platform_create_proc()`: the memory list.  Whether the resource table and the shared
memory could be mapped is not checked. -/
def platformCreateProc (search : Search) (port : Port) (config : Config) (calls : ProcCalls) :
    Option (List Mem) :=
  if port = .zynqmpR5 ∧ calls.registers = false then none
  else if calls.inits = false then none
  else
    let table := remoteprocMmap search port [] config.rscTable true calls.mapsTable
    let mems := remoteprocMmap search port table config.window false calls.mapsMemory
    if calls.setsRscTable = false then none else some mems

/-! ## Giving a part of it to the pool -/

/-- What `platform_create_rpmsg_vdev()` is answered, and what a freed record reads
as by then. -/
structure VdevCalls where
  allocates : Bool
  stale : IoRegion
  creates : Bool
  inits : Bool

def Mem.read (mem : Mem) (stale : IoRegion) : IoRegion :=
  if mem.freed then stale else mem.io

/-- `remoteproc_get_io_with_pa()` -/
def getIoWithPa (search : Search) (stale : IoRegion) (mems : List Mem) (pa : Nat) :
    Option IoRegion :=
  (mems.map (fun mem => mem.read stale)).find? (fun io => search.covers io.phys pa 0)

/-- `metal_io_phys_to_virt()`; null is zero. -/
def IoRegion.physToVirt (io : IoRegion) (pa : Nat) : Nat :=
  if io.phys.start ≤ pa ∧ pa < io.phys.finish then io.virt + (pa - io.phys.start) else 0

/-- The size that `rpmsg_virtio_init_shm_pool()` is told. -/
def Port.poolSize (port : Port) (config : Config) : Nat :=
  match port with
  | .zynqmpR5 => config.sharedMemSize
  | .microblaze => config.sharedMemSize - config.sharedBufOffset

/-- `platform_create_rpmsg_vdev()`: the extent of `shpool`, unless it fails. -/
def platformCreateRpmsgVdev (search : Search) (port : Port) (config : Config) (mems : List Mem)
    (calls : VdevCalls) : Option Extent :=
  if calls.allocates = false then none
  else
    match getIoWithPa search calls.stale mems config.sharedMemPa with
    | none => none
    | some shbufIo =>
        if calls.creates = false then none
        else if calls.inits = false then none
        else some {
          start := shbufIo.physToVirt (config.sharedMemPa + config.sharedBufOffset)
          length := port.poolSize config }

/-- The pool of a platform that has come up. -/
def shpool (search : Search) (port : Port) (config : Config) (procCalls : ProcCalls)
    (vdevCalls : VdevCalls) : Option Extent :=
  (platformCreateProc search port config procCalls).bind (fun mems =>
    platformCreateRpmsgVdev search port config mems vdevCalls)

/-! ## Which record is found -/

section Found

variable {search : Search} {port : Port} {config : Config} {procCalls : ProcCalls}
  {vdevCalls : VdevCalls} {pool : Extent}

/-- The resource table is mapped and taken for the shared memory: its region covers
`SHARED_MEM_PA`, too. -/
def Shadowed (search : Search) (config : Config) (procCalls : ProcCalls) : Prop :=
  procCalls.mapsTable = true ∧ search.covers config.rscTable config.sharedMemPa 0 = true

instance : Decidable (Shadowed search config procCalls) :=
  inferInstanceAs (Decidable (_ ∧ _))

/-- What the machine reads when it looks the mapping up: the record that stands first. -/
def found (search : Search) (port : Port) (config : Config) (procCalls : ProcCalls)
    (stale : IoRegion) : IoRegion :=
  if Shadowed search config procCalls then IoRegion.identity config.rscTable
  else (port.mmap config.window false).read stale

/-- The table's region begins before the pool. -/
theorem Shadowed.before (shadowed : Shadowed search config procCalls) :
    config.rscTable.start ≤ config.poolPa := by
  have inside := search.inside_of_covers _ _ _ shadowed.2
  exact Nat.le_trans inside.1 (Nat.le_add_right _ _)

end Found

/-! ## The buffers it hands out -/

open BlockPool (handedOut)

/-- One allocation; a refused one returns null. -/
def allocate (client : BlockPool.Client) (size : Nat) : Option BlockPool.Client :=
  some (client.request size)

section Situations

variable {search : Search} {port : Port} {config : Config} {procCalls : ProcCalls}

end Situations

/-- Nothing fails. -/
def ProcCalls.working : ProcCalls where
  registers := true
  inits := true
  mapsTable := true
  mapsMemory := true
  setsRscTable := true

/-- Nothing fails, and what has been freed reads as zero. -/
def VdevCalls.working : VdevCalls where
  allocates := true
  stale := { phys := { start := 0, length := 0 }, virt := 0 }
  creates := true
  inits := true

end SharedBuffers
end LegacyApps
end OpenAmpReference
