import OpenAmpReference.Library.Service
import OpenAmpReference.RpcServers.SelfContained

namespace OpenAmpReference
namespace RpcServers
namespace RpcDemod

/-!
# The server of `rpc_demod.c`

The endpoint callback copies a message onto its stack and handles it.  One call
of `platform_poll()` may deliver several messages; the application looks at its
error count and at the request to terminate only between two polls.
-/

/-- `RPC_BUFF_SIZE` -/
def rpcBuffSize : Nat := 1024

/-- What the stack of a callback holds: the buffer of the message, and the buffer or
the structure of the response. -/
structure Residue where
  buf : ByteMemory
  frame : ByteMemory

/-- The variables of the application with the files; `callbacks` counts the
callbacks so far, and `exited` says that the loop has ended. -/
structure Demod (Fs : Type) where
  fs : Fs
  requestTermination : Bool
  errCnt : Nat
  callbacks : Nat
  exited : Bool

/-- A message, and whether `platform_poll()` returns after it. -/
structure Arrival where
  message : List UInt8
  lastInPoll : Bool
  deriving DecidableEq, Repr

/-- What a handler does and whether it fails. -/
structure Handled (Fs : Type) where
  demod : Demod Fs
  exchange : Exchange
  failed : Bool

/-- `bytes_read` before the call of `read()` -/
def bytesToRead (fd size : BitVec 32) : BitVec 32 :=
  if fd = 0 ∧ size.toInt < 1008 then size else 1008

/-- The count of a read, as a `size_t` -/
def readCount (fd size : BitVec 32) : Nat :=
  sizeT (bytesToRead fd size)

section Handlers

variable {Fs : Type} (os : HostOs Fs) (demod : Demod Fs) (syscall frame : ByteMemory)

/-- `rpmsg_send()`: a handler fails when it does. -/
def send (fs : Fs) (call : SysCall) (response : ByteMemory) (size : Nat) : Handled Fs :=
  let sent := os.send fs (response.readBytes 0 size)
  { demod := { demod with fs := sent.1 }
    exchange := ⟨some call, some (response.readBytes 0 size)⟩
    failed := !sent.2 }

/-- `handle_open()` -/
def handleOpen : Handled Fs :=
  let call := SysCall.openFile (syscall.cString headerSize pathMax) (intField1 syscall)
    (intField2 syscall)
  let done := os.perform demod.fs call
  send os demod done.1 call (fillHeader frame .openSyscallId done.2.int 0) headerSize

/-- `handle_close()` -/
def handleClose : Handled Fs :=
  let call := SysCall.closeFile (intField1 syscall)
  let done := os.perform demod.fs call
  send os demod done.1 call (fillHeader frame .closeSyscallId done.2.int 0) headerSize

/-- `handle_read()` -/
def handleRead : Handled Fs :=
  let call := SysCall.readFile (intField1 syscall)
    (readCount (intField1 syscall) (intField2 syscall))
  let done := os.perform demod.fs call
  send os demod done.1 call
    (fillHeader (frame.writeBytes headerSize done.2.data) .readSyscallId done.2.int done.2.int)
    (headerSize + if 0 < done.2.int.toInt then done.2.int.toInt.toNat else 0)

/-- `handle_write()` -/
def handleWrite : Handled Fs :=
  let call := writeCall syscall
  let done := os.perform demod.fs call
  send os demod done.1 call (fillHeader frame .writeSyscallId done.2.int 0) headerSize

/-- `handle_rpc()` -/
def handleRpc : Handled Fs :=
  match SyscallId.ofNumber (sysId syscall) with
  | some .openSyscallId => handleOpen os demod syscall frame
  | some .closeSyscallId => handleClose os demod syscall frame
  | some .readSyscallId => handleRead os demod syscall frame
  | some .writeSyscallId => handleWrite os demod syscall frame
  | some .termSyscallId =>
      { demod := { demod with requestTermination := true }, exchange := ⟨none, none⟩
        failed := false }
  | none => { demod := demod, exchange := ⟨none, none⟩, failed := true }

/-- `rpmsg_endpoint_cb()` -/
def rpmsgEndpointCb (residue : Residue) (message : List UInt8) : Demod Fs × Exchange :=
  if message.length < headerSize then
    ({ demod with errCnt := demod.errCnt + 1 }, ⟨none, none⟩)
  else
    let handled := handleRpc os demod (residue.buf.writeBytes 0 (message.take rpcBuffSize))
      residue.frame
    (if handled.failed then { handled.demod with errCnt := handled.demod.errCnt + 1 }
      else handled.demod,
      handled.exchange)

/-- The tests of `app()` after a poll -/
def Demod.afterPoll : Demod Fs :=
  { demod with exited := demod.errCnt != 0 || demod.requestTermination }

/-- A message is delivered, and the poll may be over. -/
def serve (residue : Nat -> Residue) (arrival : Arrival) : Demod Fs × Exchange :=
  let done := rpmsgEndpointCb os demod (residue demod.callbacks) arrival.message
  let counted := { done.1 with callbacks := demod.callbacks + 1 }
  (if arrival.lastInPoll then counted.afterPoll else counted, done.2)

end Handlers

/-- Messages are delivered until the loop of `app()` ends. -/
def service {Fs : Type} (os : HostOs Fs) (residue : Nat -> Residue) :
    Service (Demod Fs) Arrival Exchange where
  serving := fun demod => !demod.exited
  serve := fun demod arrival => serve os demod residue arrival

def initial {Fs : Type} (fs : Fs) : Demod Fs where
  fs := fs
  requestTermination := false
  errCnt := 0
  callbacks := 0
  exited := false

/-! ## The handlers carry out the request in the buffer -/

section Follows

variable {Fs : Type} (os : HostOs Fs)

/-- Nothing has gone wrong so far and nobody has asked to stop. -/
structure Running (demod : Demod Fs) : Prop where
  errCnt : demod.errCnt = 0
  requestTermination : demod.requestTermination = false
  exited : demod.exited = false

/-- The files and the exchange are those of the outcome, and the application finds
after the poll that it has to stop when the outcome says so. -/
structure Follows (demod : Demod Fs) (exchange : Exchange) (outcome : Outcome Fs) : Prop where
  fs : demod.fs = outcome.fs
  exchange : exchange = outcome.exchange
  stops : (demod.errCnt != 0 || demod.requestTermination) = outcome.stops
  exited : demod.exited = false

/-- A handler, with the error that the callback counts. -/
def Handled.counted (handled : Handled Fs) : Demod Fs :=
  if handled.failed then { handled.demod with errCnt := handled.demod.errCnt + 1 }
  else handled.demod

variable {os} {demod : Demod Fs}

theorem send_follows (running : Running demod) (call : SysCall) {response : ByteMemory}
    {size : Nat}
    (same : response.readBytes 0 size = respond (os.perform demod.fs call).2 call) :
    Follows (send os demod (os.perform demod.fs call).1 call response size).counted
      (send os demod (os.perform demod.fs call).1 call response size).exchange
      (carryOut os demod.fs (some call)) := by
  cases taken : (os.send (os.perform demod.fs call).1
      (respond (os.perform demod.fs call).2 call)).2 with
  | true =>
      refine ⟨?_, ?_, ?_, ?_⟩ <;>
        simp only [Handled.counted, send, carryOut, same, taken, Bool.not_true,
          Bool.false_eq_true, if_false, running.errCnt, running.requestTermination,
          running.exited, bne_self_eq_false, Bool.or_false]
  | false =>
      refine ⟨?_, ?_, ?_, ?_⟩ <;>
        simp only [Handled.counted, send, carryOut, same, taken, Bool.not_false, if_true,
          running.errCnt, running.requestTermination, running.exited, Bool.or_false]
      rfl

theorem handleRpc_follows (os : HostOs Fs) (running : Running demod) (syscall frame : ByteMemory)
    (small : SyscallId.ofNumber (sysId syscall) = some .readSyscallId ->
      readCount (intField1 syscall) (intField2 syscall) < 2 ^ 31) :
    Follows (handleRpc os demod syscall frame).counted
      (handleRpc os demod syscall frame).exchange
      (carryOut os demod.fs (callOf readCount syscall)) := by
  unfold handleRpc callOf
  cases known : SyscallId.ofNumber (sysId syscall) with
  | none =>
      refine ⟨rfl, rfl, ?_, running.exited⟩
      simp only [Handled.counted, if_true, running.errCnt, carryOut]
      rfl
  | some id =>
      cases id with
      | openSyscallId => exact send_follows running _ (headerOf_eq _ _ _)
      | closeSyscallId => exact send_follows running _ (headerOf_eq _ _ _)
      | writeSyscallId =>
          refine send_follows running _ ((headerOf_eq _ _ _).trans ?_)
          unfold writeCall
          split <;> rfl
      | readSyscallId =>
          refine send_follows running _ ?_
          rw [positivePart, read_int os.toFileSystem demod.fs _ (small known)]
          exact respond_read _ _ (read_size_le _ _ _ _)
      | termSyscallId =>
          refine ⟨rfl, rfl, ?_, running.exited⟩
          simp only [Handled.counted, Bool.false_eq_true, if_false, Bool.or_true, carryOut]

/-- A whole request is carried out.  If it stops the application, then at the end of
its poll. -/
theorem serve_follows (os : HostOs Fs) (running : Running demod) (residue : Nat -> Residue)
    (arrival : Arrival) (long : headerSize ≤ arrival.message.length)
    {syscall : ByteMemory}
    (received : (residue demod.callbacks).buf.writeBytes 0 (arrival.message.take rpcBuffSize) =
      syscall)
    (small : SyscallId.ofNumber (sysId syscall) = some .readSyscallId ->
      readCount (intField1 syscall) (intField2 syscall) < 2 ^ 31) :
    let outcome := carryOut os demod.fs (callOf readCount syscall)
    (serve os demod residue arrival).2 = outcome.exchange ∧
      (outcome.stops = false -> Running (serve os demod residue arrival).1 ∧
        (serve os demod residue arrival).1.fs = outcome.fs) ∧
      (outcome.stops = true ->
        (serve os demod residue arrival).1.exited = arrival.lastInPoll) := by
  have follows := handleRpc_follows os running syscall (residue demod.callbacks).frame small
  intro outcome
  simp only [serve, rpmsgEndpointCb, if_neg (Nat.not_lt.mpr long), received]
  generalize handleRpc os demod syscall (residue demod.callbacks).frame = handled at follows ⊢
  refine ⟨follows.exchange, ?_, ?_⟩
  · intro goesOn
    have quiet := Bool.or_eq_false_iff.mp (follows.stops.trans goesOn)
    have errCnt := bne_eq_false_iff_eq.mp quiet.1
    cases arrival.lastInPoll with
    | false => exact ⟨⟨errCnt, quiet.2, follows.exited⟩, follows.fs⟩
    | true => exact ⟨⟨errCnt, quiet.2, follows.stops.trans goesOn⟩, follows.fs⟩
  · intro stops
    cases arrival.lastInPoll with
    | false => exact follows.exited
    | true => exact follows.stops.trans stops

end Follows

end RpcDemod
end RpcServers
end OpenAmpReference
