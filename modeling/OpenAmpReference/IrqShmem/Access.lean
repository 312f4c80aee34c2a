import OpenAmpReference.IrqShmem.Layout

namespace OpenAmpReference
namespace IrqShmem

/-!
# Shared accesses and interrupts of the demo

Each program is a sequence of accesses to state the other side, or an
interrupt handler, can see.  Between two accesses it only computes locally.
An access of a program is therefore the unit of interleaving.  The block
operations of libmetal are not atomic and appear here one byte at a time; the
32-bit operations on aligned counters and addresses are single accesses.

The interrupt side holds one status bit for each direction, which further
kicks merge into, the two handlers, and what each handler wakes: the host's
`remote_nkicked` flag, and on the remote either the `irq_pending` flag of the
bare-metal port or the suspended state of the FreeRTOS task.
-/

/-- The I/O region an access goes through. -/
inductive Window where
  | hostShm
  | hostToRemoteDesc
  | remoteToHostDesc
  | remoteShm
  deriving DecidableEq, Repr

def Layout.region (layout : Layout) : Window -> IoRegion
  | .hostShm => layout.hostShmIo
  | .hostToRemoteDesc => layout.hostToRemoteDescIo
  | .remoteToHostDesc => layout.remoteToHostDescIo
  | .remoteShm => layout.remoteShmIo

/-- What a program does next to the state it shares. -/
inductive Access where
  | setByte (window : Window) (offset : Nat)
  | readByte (window : Window) (offset : Nat)
  | writeByte (window : Window) (offset : Nat) (value : UInt8)
  | readAddr (window : Window) (offset : Nat)
  | writeAddr (window : Window) (offset value : Nat)
  | readAvail (window : Window) (offset : Nat)
  | writeAvail (window : Window) (offset value : Nat)
  | writeUsed (window : Window) (offset value : Nat)
  | irqKick
  | testAndSetNkicked
  | systemSuspend
  | parked
  | compute
  | exit
  deriving DecidableEq, Repr

/-- The accesses that hand one message to the other side: its bytes, its
address, the number of messages available, and the kick. -/
inductive SendStep where
  | writeMsg (done : Nat)
  | writeAddr
  | writeAvail
  | kick
  deriving DecidableEq, Repr

/-! ## Ports of `system_suspend()` and `system_resume()` -/

/-- The two operating-system ports of the remote. -/
inductive Port where
  | generic
  | freertos
  deriving DecidableEq, Repr

/-- Where an interrupt handler is; `idle` until it finds its status bit set. -/
inductive IsrPc where
  | idle
  | stopTimer
  | acknowledge
  | wake
  deriving DecidableEq, Repr

/-- Status bits, handlers and wake-up primitives of both sides. -/
structure Irq where
  toRemote : Bool
  toHost : Bool
  remoteIsr : IsrPc
  hostIsr : IsrPc
  irqPending : Bool
  suspended : Bool
  remoteNkicked : Bool
  deriving DecidableEq, Repr

namespace Irq

/-- After `amp_os_init` on the remote and `platform_init` on the host both
flags are set, no handler runs and the FreeRTOS task is not suspended. -/
def initial : Irq where
  toRemote := false
  toHost := false
  remoteIsr := .idle
  hostIsr := .idle
  irqPending := true
  suspended := false
  remoteNkicked := true

/-- `system_suspend()` as entered.  The bare-metal port tests and sets its
flag and returns when the flag was clear; the FreeRTOS port suspends the
running task.  The reply 1 means that the call has returned. -/
def systemSuspend (port : Port) (irq : Irq) : Nat × Irq :=
  match port with
  | .generic => (if irq.irqPending then 0 else 1, { irq with irqPending := true })
  | .freertos => (0, { irq with suspended := true })

/-- Inside `system_suspend()`.  `wfi` may return at any time, and the loop
then tests the flag again (reply 0).  A suspended task does not run; once
resumed, `vTaskSuspend` returns (reply 1). -/
def parked (port : Port) (irq : Irq) : Option Nat :=
  match port with
  | .generic => some 0
  | .freertos => if irq.suspended then none else some 1

/-- `system_resume()`.  `xTaskResumeFromISR` on a task that is not suspended
has no effect. -/
def systemResume (port : Port) (irq : Irq) : Irq :=
  match port with
  | .generic => { irq with irqPending := false }
  | .freertos => { irq with suspended := false }

/-- One step of `ipi_irq_handler` on the remote: it reads the status, and if
its bit is set stops the timer, acknowledges and resumes, in this order. -/
def ipiIrqHandler (port : Port) (irq : Irq) : Irq :=
  match irq.remoteIsr with
  | .idle => if irq.toRemote then { irq with remoteIsr := .stopTimer } else irq
  | .stopTimer => { irq with remoteIsr := .acknowledge }
  | .acknowledge => { irq with remoteIsr := .wake, toRemote := false }
  | .wake => { systemResume port irq with remoteIsr := .idle }

/-- One step of `irq_isr` on the host, which stops no timer. -/
def irqIsr (irq : Irq) : Irq :=
  match irq.hostIsr with
  | .idle => if irq.toHost then { irq with hostIsr := .acknowledge } else irq
  | .stopTimer => { irq with hostIsr := .acknowledge }
  | .acknowledge => { irq with hostIsr := .wake, toHost := false }
  | .wake => { irq with hostIsr := .idle, remoteNkicked := false }

/-- `irq_kick()` of the host sets the status bit the remote sees. -/
def kickRemote (irq : Irq) : Irq := { irq with toRemote := true }

/-- `irq_kick()` of the remote. -/
def kickHost (irq : Irq) : Irq := { irq with toHost := true }

/-- `atomic_flag_test_and_set(&ch->remote_nkicked)`: the reply is the old
value of the flag. -/
def testAndSetNkicked (irq : Irq) : Nat × Irq :=
  (if irq.remoteNkicked then 1 else 0, { irq with remoteNkicked := true })

end Irq
end IrqShmem
end OpenAmpReference
