import OpenAmpReference.Library.Spsc

namespace OpenAmpReference
namespace IrqShmem

/-!
# Shared-memory layout of the interrupt demo

The two programs take the sizes of the carve-outs from their own `config.h`
and derive every offset from macros of the same names.  The host opens three
devices, one per carve-out, and its offsets are relative to each device; the
remote opens one window over all three, and its offsets are relative to the
start of that window.  The macros of both sides are kept apart here, so that
an agreement between them is something to prove.

libmetal is not part of the repository.  What the demo relies on is stated as
the fields of `IoRegion`: inside the region, physical addresses are
consecutive and `metal_io_phys_to_offset` undoes `metal_io_phys`.
-/

/-- The values the two `config.h` files supply, and the number of packets.
The payload offsets of the host are relative to its payload device, those of
the remote to its whole window. -/
structure Config where
  shm0DescSize : Nat
  shm1DescSize : Nat
  shmPayloadSize : Nat
  shmPayloadHalfSize : Nat
  hostPayloadRxOffset : Nat
  hostPayloadTxOffset : Nat
  remotePayloadRxOffset : Nat
  remotePayloadTxOffset : Nat
  pkgsTotal : Nat

/-! ## Macros both sides define alike -/

def shmDescAvailOffset : Nat := 0x00
def shmDescUsedOffset : Nat := 0x04
def shmDescAddrArrayOffset : Nat := 0x08
def bufSizeMax : Nat := 512

/-- `sizeof(struct msg_hdr_s)`: a 32-bit index and a 32-bit length. -/
def sizeofMsgHdr : Nat := 8

/-- `sizeof(unsigned long long)`, the length of a timestamp. -/
def sizeofTimestamp : Nat := 8

/-- `sizeof(uint32_t)`, the size of an entry of an address array. -/
def sizeofAddr : Nat := 4

/-- The characters of `SHUTDOWN`. -/
def shutdownBytes : List UInt8 := [0x73, 0x68, 0x75, 0x74, 0x64, 0x6f, 0x77, 0x6e]

/-! ## Macros of the host -/

namespace Config

def hostHToRDescAddrStart (_config : Config) : Nat := shmDescAddrArrayOffset
def hostHToRDescAddrEnd (config : Config) : Nat := config.shm0DescSize
def hostRToHDescAddrStart (_config : Config) : Nat := shmDescAddrArrayOffset
def hostRToHDescAddrEnd (config : Config) : Nat := config.shm1DescSize
def hostHToRPayloadStart (config : Config) : Nat := config.hostPayloadRxOffset
def hostHToRPayloadEnd (config : Config) : Nat :=
  config.hostPayloadRxOffset + config.shmPayloadHalfSize
def hostRToHPayloadStart (config : Config) : Nat := config.hostPayloadTxOffset

/-! ## Macros of the remote -/

def shmDescOffsetHToR (_config : Config) : Nat := 0x0
def shmDescOffsetRToH (config : Config) : Nat := config.shm0DescSize
def remoteHToRDescAddrStart (config : Config) : Nat :=
  config.shmDescOffsetHToR + shmDescAddrArrayOffset
def remoteHToRDescAddrEnd (config : Config) : Nat :=
  config.shmDescOffsetHToR + config.shm0DescSize
def remoteRToHDescAddrStart (config : Config) : Nat :=
  config.shmDescOffsetRToH + shmDescAddrArrayOffset
def remoteRToHDescAddrEnd (config : Config) : Nat :=
  config.shmDescOffsetRToH + config.shm1DescSize
def remoteRToHPayloadStart (config : Config) : Nat := config.remotePayloadTxOffset
def remoteRToHPayloadEnd (config : Config) : Nat :=
  config.remotePayloadTxOffset + config.shmPayloadHalfSize

/-! ## The devices of the host -/

/-- The remote reaches both descriptors and the payload through one region, the host each of
them through a device of its own.  `SHM0_DESC_OFFSET` and `SHM1_DESC_OFFSET` are where the
host's two descriptor devices are taken to begin in that region; `Layout.Fits.sameDescriptor0`
and `Layout.Fits.sameDescriptor1` say so of their addresses. -/
def hostDescriptor0Offset (config : Config) : Nat := config.shmDescOffsetHToR

def hostDescriptor1Offset (config : Config) : Nat := config.shmDescOffsetRToH

/-! ## Offsets as the two loops advance them -/

/-- The host wraps its transmit slot at the end of the address array. -/
def hostNextTxAddr (config : Config) (offset : Nat) : Nat :=
  if offset + sizeofAddr ≥ config.hostHToRDescAddrEnd then config.hostHToRDescAddrStart
  else offset + sizeofAddr

theorem hostNextTxAddr_of_lt (config : Config) (offset : Nat)
    (room : offset + sizeofAddr < config.shm0DescSize) :
    config.hostNextTxAddr offset = offset + sizeofAddr :=
  if_neg (Nat.not_le_of_lt room)

/-- The host's receive slot and both slots of the remote only ever advance. -/
def nextAddr (offset : Nat) : Nat := offset + sizeofAddr

/-- Every data offset advances by the header and the length the header states. -/
def nextData (offset length : Nat) : Nat := offset + (sizeofMsgHdr + length)

end Config

/-! ## What libmetal supplies -/

/-- `METAL_BAD_OFFSET` and `METAL_BAD_PHYS` of the 64-bit host. -/
def hostMetalBad : Nat := 2 ^ 64 - 1

/-- The same constants on the 32-bit remote; also `(uint32_t)METAL_BAD_PHYS`. -/
def metalBad32 : Nat := 2 ^ 32 - 1

/-- An I/O region of libmetal over a window of physical memory. -/
structure IoRegion where
  base : Nat
  size : Nat
  metalIoPhys : Nat -> Nat
  metalIoPhysToOffset : Nat -> Nat
  phys_eq : forall offset, offset < size -> metalIoPhys offset = base + offset
  toOffset_phys : forall offset, offset < size -> metalIoPhysToOffset (metalIoPhys offset) = offset

namespace IoRegion

/-- The region of a flat mapping: a physical address is the base plus the
offset, and an address or an offset outside is answered with the bad value. -/
def flat (bad base size : Nat) : IoRegion where
  base := base
  size := size
  metalIoPhys := fun offset => if offset < size then base + offset else bad
  metalIoPhysToOffset := fun phys =>
    if base ≤ phys ∧ phys < base + size then phys - base else bad
  phys_eq := fun _ inside => if_pos inside
  toOffset_phys := by
    intro offset inside
    rw [if_pos inside, if_pos (by omega)]
    omega

/-- An access of `width` bytes at `offset` lies inside the region. -/
def Covers (region : IoRegion) (offset width : Nat) : Prop := offset + width ≤ region.size

instance (region : IoRegion) (offset width : Nat) : Decidable (region.Covers offset width) :=
  inferInstanceAs (Decidable (offset + width ≤ region.size))

end IoRegion

/-- The devices the two programs opened: three on the host, one on the remote. -/
structure Layout extends Config where
  hostShmIo : IoRegion
  hostToRemoteDescIo : IoRegion
  remoteToHostDescIo : IoRegion
  remoteShmIo : IoRegion

namespace Layout

/-- The layouts for which the demo is written: room for every message, all
areas apart, and one physical window below 4 GiB seen by both sides. -/
structure Fits (layout : Layout) : Prop where
  packets : layout.pkgsTotal + 1 < 2 ^ 32
  descriptor0 : shmDescAddrArrayOffset + sizeofAddr * (layout.pkgsTotal + 1) ≤ layout.shm0DescSize
  descriptor1 : shmDescAddrArrayOffset + sizeofAddr * (layout.pkgsTotal + 1) ≤ layout.shm1DescSize
  half : (sizeofMsgHdr + sizeofTimestamp) * (layout.pkgsTotal + 1) ≤ layout.shmPayloadHalfSize
  /- The host's devices show the window of the remote. -/
  sameDescriptor0 : layout.hostToRemoteDescIo.base = layout.remoteShmIo.base
  sameDescriptor1 : layout.remoteToHostDescIo.base = layout.remoteShmIo.base + layout.shm0DescSize
  samePayloadRx : layout.hostShmIo.base + layout.hostPayloadRxOffset =
    layout.remoteShmIo.base + layout.remotePayloadRxOffset
  samePayloadTx : layout.hostShmIo.base + layout.hostPayloadTxOffset =
    layout.remoteShmIo.base + layout.remotePayloadTxOffset
  /- Every area lies inside the devices it is reached through. -/
  descriptor0Size : layout.hostToRemoteDescIo.size = layout.shm0DescSize
  descriptor1Size : layout.remoteToHostDescIo.size = layout.shm1DescSize
  payloadSize : layout.hostShmIo.size = layout.shmPayloadSize
  hostRxInside : layout.hostPayloadRxOffset + layout.shmPayloadHalfSize ≤ layout.hostShmIo.size
  hostTxInside : layout.hostPayloadTxOffset + layout.shmPayloadHalfSize ≤ layout.hostShmIo.size
  remoteRxInside :
    layout.remotePayloadRxOffset + layout.shmPayloadHalfSize ≤ layout.remoteShmIo.size
  remoteTxInside :
    layout.remotePayloadTxOffset + layout.shmPayloadHalfSize ≤ layout.remoteShmIo.size
  /- The areas are disjoint. -/
  rxAfterDescriptors : layout.shm0DescSize + layout.shm1DescSize ≤ layout.remotePayloadRxOffset
  txAfterDescriptors : layout.shm0DescSize + layout.shm1DescSize ≤ layout.remotePayloadTxOffset
  halvesApart :
    layout.remotePayloadRxOffset + layout.shmPayloadHalfSize ≤ layout.remotePayloadTxOffset ∨
    layout.remotePayloadTxOffset + layout.shmPayloadHalfSize ≤ layout.remotePayloadRxOffset
  below4GiB : layout.remoteShmIo.base + layout.remoteShmIo.size ≤ 2 ^ 32
  hostBelow4GiB : layout.hostShmIo.base + layout.hostShmIo.size ≤ 2 ^ 32

end Layout

/-- One packet, in the smallest areas that hold it: two descriptors of sixteen
bytes and two payload halves of thirty-two, at address 64. -/
def smallLayout : Layout where
  shm0DescSize := 16
  shm1DescSize := 16
  shmPayloadSize := 64
  shmPayloadHalfSize := 32
  hostPayloadRxOffset := 0
  hostPayloadTxOffset := 32
  remotePayloadRxOffset := 32
  remotePayloadTxOffset := 64
  pkgsTotal := 1
  hostShmIo := .flat hostMetalBad 96 64
  hostToRemoteDescIo := .flat hostMetalBad 64 16
  remoteToHostDescIo := .flat hostMetalBad 80 16
  remoteShmIo := .flat metalBad32 64 96

theorem smallLayout_fits : smallLayout.Fits := by
  constructor <;> decide

end IrqShmem
end OpenAmpReference
