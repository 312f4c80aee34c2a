import OpenAmpReference.Library.Transition
import OpenAmpReference.IrqShmem.Remote

namespace OpenAmpReference
namespace IrqShmem

/-!
# Host and remote over one physical memory

The two programs, the handlers and the shared memory as one system.  A
schedule says who moves: the host, the remote, or one of the two interrupt
handlers.  Each move is one access, performed at the physical address the
side's own region gives it.  libmetal refuses an access outside its region,
and the refused side leaves its function.

The three lists record, in order, the messages the host published, those the
remote counted as used, and the echoes the host accepted.
-/

/-- Who moves next. -/
inductive Actor where
  | host
  | remote
  | remoteIsr
  | hostIsr
  deriving DecidableEq, Repr

structure System where
  host : Host
  remote : Remote
  memory : ByteMemory
  irq : Irq
  sent : List (List UInt8)
  consumed : List (List UInt8)
  verified : List (List UInt8)

/-- Perform a memory access; the reply is the value read.  Accesses that do
not go to memory leave it alone. -/
def Access.onMemory (layout : Layout) (memory : ByteMemory) : Access -> Option (Nat × ByteMemory)
  | .setByte window offset =>
      if (layout.region window).Covers offset 1 then
        some (0, memory.writeByte ((layout.region window).base + offset) 0)
      else none
  | .readByte window offset =>
      if (layout.region window).Covers offset 1 then
        some ((memory ((layout.region window).base + offset)).toNat, memory)
      else none
  | .writeByte window offset value =>
      if (layout.region window).Covers offset 1 then
        some (0, memory.writeByte ((layout.region window).base + offset) value)
      else none
  | .readAddr window offset | .readAvail window offset =>
      if (layout.region window).Covers offset sizeofAddr then
        some (memory.readWord ((layout.region window).base + offset), memory)
      else none
  | .writeAddr window offset value | .writeAvail window offset value
  | .writeUsed window offset value =>
      if (layout.region window).Covers offset sizeofAddr then
        some (0, memory.writeWord ((layout.region window).base + offset) value)
      else none
  | _ => some (0, memory)

/-- The accesses that go to memory or nowhere. -/
def Access.OnMemory : Access -> Prop
  | .irqKick | .testAndSetNkicked | .systemSuspend | .parked | .exit => False
  | _ => True

namespace System

/-- `metal_io_block_set(io, 0, 0, SHM_TOTAL_SIZE)` at the end of the remote's
`platform_init()`, whatever an earlier run has left behind. -/
def bufferCleanUp (layout : Layout) (memory : ByteMemory) : ByteMemory :=
  fun place =>
    if layout.remoteShmIo.base ≤ place ∧
        place < layout.remoteShmIo.base +
          (layout.shm0DescSize + layout.shm1DescSize + layout.shmPayloadSize) then 0
    else memory place

/-- The remote has cleaned up the buffers and is in its wait loop; the host
starts. -/
def initial (layout : Layout) (memory : ByteMemory) : System where
  host := Host.initial
  remote := Remote.initial layout.toConfig
  memory := bufferCleanUp layout memory
  irq := Irq.initial
  sent := []
  consumed := []
  verified := []

/-- The host's next access takes effect and the host computes on. -/
def hostStep (layout : Layout) (timestamps : Nat -> UInt64) (system : System) : Option System :=
  match system.host.access layout with
  | .exit => none
  | .irqKick =>
      some { system with
        host := system.host.next layout timestamps 0
        irq := system.irq.kickRemote }
  | .testAndSetNkicked =>
      some { system with
        host := system.host.next layout timestamps system.irq.testAndSetNkicked.1
        irq := system.irq.testAndSetNkicked.2 }
  | other =>
      match other.onMemory layout system.memory with
      | none => some { system with host := system.host.fail }
      | some (reply, memory) =>
          some { system with
            host := system.host.next layout timestamps reply
            memory := memory
            sent := system.sent ++ system.host.publishes
            verified := system.verified ++ system.host.verifies }

/-- The remote's next access takes effect and the remote computes on. -/
def remoteStep (layout : Layout) (port : Port) (system : System) : Option System :=
  match system.remote.access layout with
  | .exit => none
  | .irqKick =>
      some { system with
        remote := system.remote.next layout 0
        irq := system.irq.kickHost }
  | .systemSuspend =>
      some { system with
        remote := system.remote.next layout (system.irq.systemSuspend port).1
        irq := (system.irq.systemSuspend port).2 }
  | .parked =>
      match system.irq.parked port with
      | none => none
      | some reply => some { system with remote := system.remote.next layout reply }
  | other =>
      match other.onMemory layout system.memory with
      | none => some { system with remote := system.remote.fail }
      | some (reply, memory) =>
          some { system with
            remote := system.remote.next layout reply
            memory := memory
            consumed := system.consumed ++ system.remote.consumes }

def step (layout : Layout) (timestamps : Nat -> UInt64) (port : Port) (system : System) :
    Actor -> Option System
  | .host => system.hostStep layout timestamps
  | .remote => system.remoteStep layout port
  | .remoteIsr => some { system with irq := system.irq.ipiIrqHandler port }
  | .hostIsr => some { system with irq := system.irq.irqIsr }

theorem hostStep_onMemory {layout : Layout} {timestamps : Nat -> UInt64} {system : System}
    {access : Access} {reply : Nat} {memory : ByteMemory} (kind : access.OnMemory)
    (here : system.host.access layout = access)
    (performed : access.onMemory layout system.memory = some (reply, memory)) :
    system.hostStep layout timestamps =
      some { system with
        host := system.host.next layout timestamps reply
        memory := memory
        sent := system.sent ++ system.host.publishes
        verified := system.verified ++ system.host.verifies } := by
  cases access with
  | irqKick | testAndSetNkicked | systemSuspend | parked | exit => exact absurd kind id
  | setByte | readByte | writeByte | readAddr | writeAddr | readAvail | writeAvail | writeUsed
  | compute => simp only [hostStep, here, performed]

theorem remoteStep_onMemory {layout : Layout} {port : Port} {system : System}
    {access : Access} {reply : Nat} {memory : ByteMemory} (kind : access.OnMemory)
    (here : system.remote.access layout = access)
    (performed : access.onMemory layout system.memory = some (reply, memory)) :
    system.remoteStep layout port =
      some { system with
        remote := system.remote.next layout reply
        memory := memory
        consumed := system.consumed ++ system.remote.consumes } := by
  cases access with
  | irqKick | testAndSetNkicked | systemSuspend | parked | exit => exact absurd kind id
  | setByte | readByte | writeByte | readAddr | writeAddr | readAvail | writeAvail | writeUsed
  | compute => simp only [remoteStep, here, performed]

/-! ## The four shared counters, where the documented layout puts them -/

def h2rAvail (layout : Layout) (system : System) : Nat :=
  system.memory.readWord (layout.hostToRemoteDescIo.base + shmDescAvailOffset)

def h2rUsed (layout : Layout) (system : System) : Nat :=
  system.memory.readWord (layout.hostToRemoteDescIo.base + shmDescUsedOffset)

def r2hAvail (layout : Layout) (system : System) : Nat :=
  system.memory.readWord (layout.remoteToHostDescIo.base + shmDescAvailOffset)

def r2hUsed (layout : Layout) (system : System) : Nat :=
  system.memory.readWord (layout.remoteToHostDescIo.base + shmDescUsedOffset)

end System
end IrqShmem
end OpenAmpReference
