import OpenAmpReference.Library.BlockPool

namespace OpenAmpReference
namespace Zephyr
namespace IvshmemLayout

/-!
# Where the ivshmem backend puts its rings and buffers

The host's `init_ivshmem_backend()` takes the base and the size that the ivshmem
device reports, reserves a kilobyte in front for the status byte, places the two
rings in the last two kilobytes and gives everything behind the status to the
pool of shared buffers, the rings included.  Only the size keeps the pool's
buffers and the rings apart, and nothing checks it.
-/

/-! ## The addresses the source computes -/

/-- What `ivshmem_get_mem()` reports; the memory lies in the address space. -/
structure Region where
  base : UInt64
  size : UInt64
  fits : base.toNat + size.toNat ≤ 2 ^ 64

namespace Region

def extent (region : Region) : Extent where
  start := region.base.toNat
  length := region.size.toNat

end Region

/-- `VDEV_STATUS_SIZE` -/
def vdevStatusSize : UInt64 := 0x400

/-- `VRING_ALIGNMENT` -/
def vringAlignment : Nat := 4

/-- `VRING_SIZE`, in descriptors. -/
def vringSize : Nat := 16

/-- The static variables of the backend. -/
structure Layout where
  vdevStatusBase : UInt64
  shmemBase : UInt64
  shmemSize : UInt64
  rxVringBase : UInt64
  txVringBase : UInt64
  deriving DecidableEq, Repr

def layout (region : Region) : Layout where
  vdevStatusBase := region.base
  shmemBase := region.base + vdevStatusSize
  shmemSize := region.size - vdevStatusSize
  rxVringBase := region.base + (region.size - vdevStatusSize) - vdevStatusSize
  txVringBase := region.base + (region.size - vdevStatusSize)

/-- What the libraries answer to the calls of `init_ivshmem_backend()`. -/
structure Environment where
  /- `CONFIG_IVSHMEM_DOORBELL` -/
  doorbell : Bool
  metalInit : Int
  registerGenericDevice : Int
  deviceOpen : Int
  ioRegion : Bool
  virtqueue0 : Bool
  virtqueue1 : Bool
  initVdev : Layout -> Int

/-- A call that does not panic returns a status, and leaves rings and a pool
behind if it gets that far. -/
inductive Outcome
  | panics
  | returns (status : Int) (backend : Option Layout)
  deriving DecidableEq, Repr

/-- `init_ivshmem_backend()` on the host.  A missing I/O region or virtqueue
returns the status of the last call before, which is zero. -/
def initIvshmemBackend (environment : Environment) (region : Region) : Outcome :=
  if environment.doorbell = false then .panics
  else if environment.metalInit ≠ 0 then .returns environment.metalInit none
  else if environment.registerGenericDevice ≠ 0 then
    .returns environment.registerGenericDevice none
  else if environment.deviceOpen ≠ 0 then .returns environment.deviceOpen none
  else if environment.ioRegion = false then .returns environment.deviceOpen none
  else if environment.virtqueue0 = false then .returns environment.deviceOpen none
  else if environment.virtqueue1 = false then .returns environment.deviceOpen none
  else if environment.initVdev (layout region) ≠ 0 then
    .returns (environment.initVdev (layout region)) none
  else .returns 0 (some (layout region))

/-- A return that leaves no backend behind is not the last one. -/
theorem later_of_ite {condition : Prop} [Decidable condition] {status : Int} {rest : Outcome}
    {backend : Layout}
    (accepted : (if condition then .returns status none else rest) = .returns 0 (some backend)) :
    rest = .returns 0 (some backend) := by
  by_cases returned : condition
  · rw [if_pos returned] at accepted
    injection accepted with _ nothing
    cases nothing
  · rwa [if_neg returned] at accepted

/-- Every region is laid out alike. -/
theorem accepted_layout {environment : Environment} {region : Region} {backend : Layout}
    (accepted : initIvshmemBackend environment region = .returns 0 (some backend)) :
    backend = layout region := by
  rw [initIvshmemBackend] at accepted
  by_cases panics : environment.doorbell = false
  · rw [if_pos panics] at accepted
    cases accepted
  · rw [if_neg panics] at accepted
    iterate 7 replace accepted := later_of_ite accepted
    injection accepted with _ last
    exact (Option.some.inj last).symm

/-! ## What lies in the region -/

/-- The size of a split virtqueue: descriptors and available ring, the used ring
from the next multiple of the alignment on. -/
def splitRingSize (num align : Nat) : Nat :=
  (16 * num + (6 + 2 * num) + align - 1) / align * align + (6 + 8 * num)

namespace Layout

def status (backend : Layout) : Extent where
  start := backend.vdevStatusBase.toNat
  length := 1

def rxVring (backend : Layout) : Extent where
  start := backend.rxVringBase.toNat
  length := splitRingSize vringSize vringAlignment

def txVring (backend : Layout) : Extent where
  start := backend.txVringBase.toNat
  length := splitRingSize vringSize vringAlignment

/-- The extent given to `rpmsg_virtio_init_shm_pool()`. -/
def shpool (backend : Layout) : Extent where
  start := backend.shmemBase.toNat
  length := backend.shmemSize.toNat

/-- One buffer for each descriptor of the two rings, while the pool has room. -/
def buffers (backend : Layout) : List Extent :=
  ((List.replicate (2 * vringSize) 512).foldl BlockPool.Client.request
    (BlockPool.Client.start backend.shpool)).blocks

def objects (backend : Layout) : List Extent :=
  backend.status :: backend.rxVring :: backend.txVring :: backend.buffers

/-- Each sum and each difference has the value it has without a word size. -/
structure NoWrap (backend : Layout) (region : Region) : Prop where
  shmemSize : backend.shmemSize.toNat + 0x400 = region.size.toNat
  shmemBase : backend.shmemBase.toNat = backend.vdevStatusBase.toNat + 0x400
  txVringBase : backend.txVringBase.toNat =
    backend.vdevStatusBase.toNat + backend.shmemSize.toNat
  rxVringBase : backend.rxVringBase.toNat + 0x400 =
    backend.vdevStatusBase.toNat + backend.shmemSize.toNat

/-- Nothing wraps, nothing overlaps and nothing leaves the region. -/
structure Sound (backend : Layout) (region : Region) : Prop where
  noWrap : backend.NoWrap region
  apart : backend.objects.Pairwise Extent.Apart
  inside : forall object, object ∈ backend.objects -> object.Within region.extent

theorem mem_buffers {backend : Layout} {buffer : Extent} :
    buffer ∈ backend.buffers ↔
      Exists fun k => k < min 32 (backend.shmemSize.toNat / 512) ∧
        buffer = { start := backend.shmemBase.toNat + 512 * k, length := 512 } := by
  have drawn := (@BlockPool.requests_replicate backend.shpool 512 (by decide) 32).2.2
  change backend.buffers = _ at drawn
  rw [drawn, List.mem_map]
  simp only [List.mem_range, shpool, eq_comm]

end Layout

/-! ## The sizes for which the layout is sound -/

/-- The rings' two kilobytes and the pool's first 32 buffers need the status's kilobyte
before them and 16 more. -/
def enough : Nat := 0x4C00

section

variable {region : Region}

theorem noWrap_of_enough (large : enough ≤ region.size.toNat) :
    (layout region).NoWrap region := by
  have fits := region.fits
  have step : vdevStatusSize.toNat = 0x400 := rfl
  unfold enough at large
  have size : (region.size - vdevStatusSize).toNat = region.size.toNat - 0x400 := by
    rw [UInt64.toNat_sub, step]
    omega
  have tx : (region.base + (region.size - vdevStatusSize)).toNat =
      region.base.toNat + (region.size.toNat - 0x400) := by
    rw [UInt64.toNat_add, size]
    omega
  refine ⟨?_, ?_, ?_, ?_⟩
  · change (region.size - vdevStatusSize).toNat + 0x400 = _
    rw [size]
    omega
  · change (region.base + vdevStatusSize).toNat = region.base.toNat + 0x400
    rw [UInt64.toNat_add, step]
    omega
  · change (region.base + (region.size - vdevStatusSize)).toNat =
      region.base.toNat + (region.size - vdevStatusSize).toNat
    rw [tx, size]
  · change (region.base + (region.size - vdevStatusSize) - vdevStatusSize).toNat + 0x400 =
      region.base.toNat + (region.size - vdevStatusSize).toNat
    rw [UInt64.toNat_sub, tx, size, step]
    omega

/-- With room for 32 buffers in front of the rings nothing overlaps. -/
theorem sound_of_enough (large : enough ≤ region.size.toNat) : (layout region).Sound region := by
  have noWrap := noWrap_of_enough large
  have size := noWrap.shmemSize
  have base := noWrap.shmemBase
  have tx := noWrap.txVringBase
  have rx := noWrap.rxVringBase
  have status : (layout region).vdevStatusBase.toNat = region.base.toNat := rfl
  have ring : splitRingSize vringSize vringAlignment = 430 := rfl
  have front : forall buffer, buffer ∈ (layout region).buffers ->
      region.base.toNat + 0x400 ≤ buffer.start ∧
        buffer.finish ≤ (layout region).rxVringBase.toNat := by
    intro buffer member
    rcases Layout.mem_buffers.mp member with ⟨k, small, rfl⟩
    unfold enough at large
    simp only [Extent.finish]
    omega
  have pool := (BlockPool.Client.start_ok (layout region).shpool).requests
    (List.replicate (2 * vringSize) 512)
  unfold enough at large
  refine ⟨noWrap, ?_, ?_⟩
  · simp only [Layout.objects, List.pairwise_cons, List.forall_mem_cons]
    refine ⟨⟨?_, ?_, ?_⟩, ⟨?_, ?_⟩, ?_, pool.apart⟩
    · left
      simp only [Extent.finish, Layout.status, Layout.rxVring]
      omega
    · left
      simp only [Extent.finish, Layout.status, Layout.txVring]
      omega
    · intro buffer member
      have bounds := (front buffer member).1
      left
      simp only [Extent.finish, Layout.status]
      omega
    · left
      simp only [Extent.finish, Layout.rxVring, Layout.txVring, ring]
      omega
    · exact fun buffer member => Or.inr (front buffer member).2
    · intro buffer member
      have bounds := (front buffer member).2
      right
      simp only [Layout.txVring]
      omega
  · simp only [Layout.objects, List.forall_mem_cons]
    refine ⟨?_, ?_, ?_, ?_⟩
    · simp only [Extent.Within, Extent.finish, Layout.status, Region.extent]
      omega
    · simp only [Extent.Within, Extent.finish, Layout.rxVring, Region.extent, ring]
      omega
    · simp only [Extent.Within, Extent.finish, Layout.txVring, Region.extent, ring]
      omega
    · intro buffer member
      have bounds := front buffer member
      simp only [Extent.Within, Region.extent] at bounds ⊢
      simp only [Extent.finish] at bounds ⊢
      omega

/-- Below that size the buffer that covers the beginning of a ring is handed out. -/
theorem not_sound_of_small (small : region.size.toNat < enough) :
    ¬ (layout region).Sound region := by
  intro sound
  have size := sound.noWrap.shmemSize
  have base := sound.noWrap.shmemBase
  have tx := sound.noWrap.txVringBase
  have rx := sound.noWrap.rxVringBase
  have status : (layout region).vdevStatusBase.toNat = region.base.toNat := rfl
  have ring : splitRingSize vringSize vringAlignment = 430 := rfl
  unfold enough at small
  have apart := sound.apart
  have inside := sound.inside
  simp only [Layout.objects, List.pairwise_cons, List.forall_mem_cons] at apart inside
  have rxInside : region.base.toNat ≤ (layout region).rxVringBase.toNat := inside.2.1.1
  -- The first ring begins in a buffer, or else before the pool, and then the second does.
  by_cases behind : 0xC00 ≤ region.size.toNat
  · have member : { start := (layout region).shmemBase.toNat +
        512 * ((region.size.toNat - 0xC00) / 512), length := 512 } ∈ (layout region).buffers :=
      Layout.mem_buffers.mpr ⟨(region.size.toNat - 0xC00) / 512, by omega, rfl⟩
    have rings := apart.2.1.2 _ member
    simp only [Extent.Apart, Extent.finish, Layout.rxVring, ring] at rings
    omega
  · have member : { start := (layout region).shmemBase.toNat +
        512 * ((region.size.toNat - 0x800) / 512), length := 512 } ∈ (layout region).buffers :=
      Layout.mem_buffers.mpr ⟨(region.size.toNat - 0x800) / 512, by omega, rfl⟩
    have rings := apart.2.2.1 _ member
    simp only [Extent.Apart, Extent.finish, Layout.txVring, ring] at rings
    omega

/-- The layout of an accepted region is sound exactly from a certain size on. Base and size are
any that the backend accepts; the backend subtracts without a test, so a small region wraps and
puts its areas elsewhere. -/
theorem layout_sound_iff {environment : Environment} {backend : Layout}
    (accepted : initIvshmemBackend environment region = .returns 0 (some backend)) :
    backend.Sound region ↔ enough ≤ region.size.toNat := by
  rw [accepted_layout accepted]
  constructor
  · intro sound
    by_contra small
    exact not_sound_of_small (Nat.lt_of_not_le small) sound
  · exact sound_of_enough

end

/-- All calls succeed; `rpmsg_init_vdev()` needs sixteen buffers from the pool. -/
def working : Environment where
  doorbell := true
  metalInit := 0
  registerGenericDevice := 0
  deviceOpen := 0
  ioRegion := true
  virtqueue0 := true
  virtqueue1 := true
  initVdev := fun backend => if backend.shmemSize < 16 * 512 then -2002 else 0

/-- Four megabytes. -/
def large : Region where
  base := 0x10000000
  size := 0x400000
  fits := by decide

theorem large_sound :
    initIvshmemBackend working large = .returns 0 (some (layout large)) ∧
      (layout large).Sound large :=
  have accepted : initIvshmemBackend working large = .returns 0 (some (layout large)) := by decide
  ⟨accepted, (layout_sound_iff accepted).mpr (by decide)⟩

/-- Sixteen kilobytes. -/
def small : Region where
  base := 0x10000000
  size := 0x4000
  fits := by decide

/-- Sixteen kilobytes are accepted, and the pool hands out the first ring's memory. -/
theorem small_not_sound :
    initIvshmemBackend working small = .returns 0 (some (layout small)) ∧
      (layout small).rxVring.start = 0x10003800 ∧
      { start := 0x10003800, length := 512 } ∈ (layout small).buffers ∧
      ¬ (layout small).Sound small := by
  refine ⟨by decide, rfl, ?_, not_sound_of_small (by decide)⟩
  exact Layout.mem_buffers.mpr ⟨26, by decide, rfl⟩

end IvshmemLayout
end Zephyr
end OpenAmpReference
