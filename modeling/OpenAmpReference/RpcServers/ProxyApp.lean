import OpenAmpReference.Library.Service
import OpenAmpReference.RpcServers.SelfContained

namespace OpenAmpReference
namespace RpcServers
namespace ProxyApp

/-!
# The service loop of `proxy_app.c`

The loop reads each message into one buffer, which it never clears, and looks at
nothing but whether the length is positive.  A message is served independently
of what came before it exactly when it is self-contained.
-/

/-- `RPC_BUFF_SIZE` -/
def rpcBuffSize : Nat := 512

/-- `struct _proxy_data` with the files; `exited` says that the loop was left by a
`break`. -/
structure Proxy (Fs : Type) where
  fs : Fs
  active : Bool
  rpc : ByteMemory
  rpcResponse : ByteMemory
  exited : Bool

/-- What `read()` on the endpoint returns: a message, `EAGAIN`, or another error. -/
inductive Received
  | message (bytes : List UInt8)
  | again
  | failed

/-- What a handler does and whether it fails. -/
structure Handled (Fs : Type) where
  proxy : Proxy Fs
  exchange : Exchange
  failed : Bool

/-- The count of a read: all of the buffer for the standard input. -/
def readCount (fd size : BitVec 32) : Nat :=
  if fd = 0 then 512 else sizeT size

section Handlers

variable {Fs : Type} (os : HostOs Fs) (proxy : Proxy Fs)

/-- The response is written to the endpoint; a handler fails unless all of it is. -/
def transmit (fs : Fs) (call : SysCall) (response : ByteMemory) (size : Nat) : Handled Fs :=
  let sent := os.send fs (response.readBytes 0 size)
  { proxy := { proxy with fs := sent.1, rpcResponse := response }
    exchange := ⟨some call, some (response.readBytes 0 size)⟩
    failed := !sent.2 }

/-- `handle_open()` -/
def handleOpen : Handled Fs :=
  let call := SysCall.openFile (proxy.rpc.cString headerSize pathMax) (intField1 proxy.rpc)
    (intField2 proxy.rpc)
  let done := os.perform proxy.fs call
  transmit os proxy done.1 call
    (fillHeader proxy.rpcResponse .openSyscallId done.2.int 0) headerSize

/-- `handle_close()` -/
def handleClose : Handled Fs :=
  let call := SysCall.closeFile (intField1 proxy.rpc)
  let done := os.perform proxy.fs call
  transmit os proxy done.1 call
    (fillHeader proxy.rpcResponse .closeSyscallId done.2.int 0) headerSize

/-- `handle_read()`: the data are read into the response. -/
def handleRead : Handled Fs :=
  let call := SysCall.readFile (intField1 proxy.rpc)
    (readCount (intField1 proxy.rpc) (intField2 proxy.rpc))
  let done := os.perform proxy.fs call
  transmit os proxy done.1 call
    (fillHeader (proxy.rpcResponse.writeBytes headerSize done.2.data) .readSyscallId done.2.int
      done.2.int)
    (headerSize + if 0 < done.2.value.toInt then done.2.value.toInt.toNat else 0)

/-- `handle_write()` -/
def handleWrite : Handled Fs :=
  let call := writeCall proxy.rpc
  let done := os.perform proxy.fs call
  transmit os proxy done.1 call
    (fillHeader proxy.rpcResponse .writeSyscallId done.2.int 0) headerSize

/-- `handle_rpc()` -/
def handleRpc : Handled Fs :=
  match SyscallId.ofNumber (sysId proxy.rpc) with
  | some .openSyscallId => handleOpen os proxy
  | some .closeSyscallId => handleClose os proxy
  | some .readSyscallId => handleRead os proxy
  | some .writeSyscallId => handleWrite os proxy
  | some .termSyscallId =>
      { proxy := { proxy with active := false }, exchange := ⟨none, none⟩, failed := false }
  | none => { proxy := proxy, exchange := ⟨none, none⟩, failed := true }

/-- The buffer once a message has been read into it. -/
def Proxy.receive (bytes : List UInt8) : Proxy Fs :=
  { proxy with rpc := proxy.rpc.writeBytes 0 (bytes.take rpcBuffSize) }

/-- One pass of the loop -/
def serve : Received -> Proxy Fs × Exchange
  | .again => (proxy, ⟨none, none⟩)
  | .failed => ({ proxy with exited := true }, ⟨none, none⟩)
  | .message bytes =>
      if 0 < bytes.length then
        let handled := handleRpc os (proxy.receive bytes)
        ({ handled.proxy with exited := handled.failed }, handled.exchange)
      else (proxy, ⟨none, none⟩)

end Handlers

/-- The loop goes on while the proxy is active. -/
def service {Fs : Type} (os : HostOs Fs) : Service (Proxy Fs) Received Exchange where
  serving := fun proxy => proxy.active && !proxy.exited
  serve := serve os

/-- The proxy before the loop; its buffers come from `malloc()`. -/
def initial {Fs : Type} (fs : Fs) (rpc rpcResponse : ByteMemory) : Proxy Fs where
  fs := fs
  active := true
  rpc := rpc
  rpcResponse := rpcResponse
  exited := false

/-! ## The handlers carry out the request in the buffer -/

section Follows

variable {Fs : Type} (os : HostOs Fs)

/-- The files, the exchange and the decision to stop are those of the outcome, and
the request stays in its buffer. -/
structure Follows (proxy : Proxy Fs) (handled : Handled Fs) (outcome : Outcome Fs) : Prop where
  fs : handled.proxy.fs = outcome.fs
  exchange : handled.exchange = outcome.exchange
  stops : (handled.proxy.active && !handled.failed) = !outcome.stops
  rpc : handled.proxy.rpc = proxy.rpc

variable {os} {proxy : Proxy Fs}

theorem transmit_follows (active : proxy.active = true) (call : SysCall) {response : ByteMemory}
    {size : Nat}
    (same : response.readBytes 0 size = respond (os.perform proxy.fs call).2 call) :
    Follows proxy (transmit os proxy (os.perform proxy.fs call).1 call response size)
      (carryOut os proxy.fs (some call)) := by
  refine ⟨?_, ?_, ?_, rfl⟩
  · simp only [transmit, carryOut, same]
  · simp only [transmit, carryOut, same]
  · simp only [transmit, carryOut, same, active, Bool.true_and]

theorem handleRpc_follows (os : HostOs Fs) (proxy : Proxy Fs) (active : proxy.active = true) :
    Follows proxy (handleRpc os proxy) (carryOut os proxy.fs (callOf readCount proxy.rpc)) := by
  unfold handleRpc callOf
  cases SyscallId.ofNumber (sysId proxy.rpc) with
  | none => exact ⟨rfl, rfl, by simp only [carryOut, Bool.not_true, Bool.and_false], rfl⟩
  | some id =>
      cases id with
      | openSyscallId => exact transmit_follows active _ (headerOf_eq _ _ _)
      | closeSyscallId => exact transmit_follows active _ (headerOf_eq _ _ _)
      | writeSyscallId =>
          refine transmit_follows active _ ((headerOf_eq _ _ _).trans ?_)
          unfold writeCall
          split <;> rfl
      | readSyscallId =>
          refine transmit_follows active _ ?_
          rw [positivePart]
          exact respond_read _ _ (read_size_le _ _ _ _)
      | termSyscallId => exact ⟨rfl, rfl, rfl, rfl⟩

/-- A message that the loop serves is carried out. -/
theorem serve_message (proxy : Proxy Fs) (os : HostOs Fs) (active : proxy.active = true) {bytes : List UInt8}
    (nonempty : 0 < bytes.length) :
    let outcome := carryOut os proxy.fs (callOf readCount (proxy.receive bytes).rpc)
    (serve os proxy (.message bytes)).1.fs = outcome.fs ∧
      (serve os proxy (.message bytes)).2 = outcome.exchange ∧
      (service os).serving (serve os proxy (.message bytes)).1 = !outcome.stops ∧
      (serve os proxy (.message bytes)).1.rpc = (proxy.receive bytes).rpc := by
  have follows := handleRpc_follows os (proxy.receive bytes) active
  simp only [serve, if_pos nonempty, service]
  exact ⟨follows.fs, follows.exchange, follows.stops, follows.rpc⟩

end Follows

/-! ## Independence of earlier messages -/

/-- The messages are of 1 to 512 bytes. -/
def Receivable (history : List Received) : Prop :=
  forall bytes, Received.message bytes ∈ history ->
    0 < bytes.length ∧ bytes.length ≤ rpcBuffSize

/-- Whatever was received before and whatever the buffers held at the start, the
call for the message is the same, and the response to it is the same function of
the answer. -/
def Independent (message : List UInt8) : Prop :=
  Exists fun call : Option SysCall => Exists fun response : Answer -> List UInt8 =>
    forall {Fs : Type} (os : HostOs Fs) (fs : Fs) (rpc rpcResponse : ByteMemory)
      (history : List Received), Receivable history ->
      let proxy := (service os).after (initial fs rpc rpcResponse) history
      (service os).serving proxy = true ->
        ((service os).serve proxy (.message message)).2 =
          ⟨call, call.map (fun issued => response (os.perform proxy.fs issued).2)⟩

theorem readCount_standardInput (first second : BitVec 32) :
    readCount 0 first = readCount 0 second := by
  rw [readCount, readCount, if_pos rfl, if_pos rfl]

theorem readCount_inj {fd first second : BitVec 32} (notStandardInput : fd ≠ 0)
    (same : readCount fd first = readCount fd second) : first = second := by
  rw [readCount, readCount, if_neg notStandardInput, if_neg notStandardInput, sizeT, sizeT] at same
  have extended := congrArg BitVec.toInt (BitVec.eq_of_toNat_eq same)
  rw [BitVec.toInt_signExtend_of_le (by decide), BitVec.toInt_signExtend_of_le (by decide)]
    at extended
  exact BitVec.eq_of_toInt_eq extended

/-- What is exchanged for a request. -/
theorem carryOut_exchange {Fs : Type} (os : HostOs Fs) (fs : Fs) (call : Option SysCall) :
    (carryOut os fs call).exchange =
      ⟨call, call.map (fun issued => respond (os.perform fs issued).2 issued)⟩ := by
  cases call <;> rfl

/-- A message that fits the buffer is read whole. -/
theorem receive_rpc {Fs : Type} (proxy : Proxy Fs) {message : List UInt8}
    (fits : message.length ≤ rpcBuffSize) :
    (proxy.receive message).rpc = proxy.rpc.writeBytes 0 message := by
  rw [Proxy.receive, List.take_of_length_le fits]

/-- A message is served independently of everything before it exactly when it holds its whole
request. Everything before it is any history of messages that the callback could take and any
contents of the buffers. The message is one that `read()` can return: it is not empty and fits
the buffer. -/
theorem independent_iff_selfContained (message : List UInt8) (nonempty : 0 < message.length)
    (fits : message.length ≤ rpcBuffSize) : Independent message ↔ SelfContained message := by
  constructor
  · rintro ⟨call, response, independent⟩
    by_contra notSelfContained
    have issued : forall rpc : ByteMemory,
        callOf readCount (rpc.writeBytes 0 message) = call := by
      intro rpc
      have served := serve_message (initial [] rpc rpc) HostOs.queue rfl nonempty
      have same := independent HostOs.queue [] rpc rpc [] nofun rfl
      rw [receive_rpc _ fits] at served
      have exchange := served.2.1.symm.trans same
      rw [carryOut_exchange] at exchange
      injection exchange
    have small : message.length < headerSize + pathMax :=
      Nat.lt_of_le_of_lt fits (by decide)
    have ones : forall place, message.length ≤ place -> (fun _ => 1 : ByteMemory) place = 1 :=
      fun _ _ => rfl
    exact callOf_ne (fun _ _ _ => readCount_inj) small notSelfContained ones
      ((issued (fun _ => 1)).trans (issued (fun _ => 0)).symm)
  · intro selfContained
    refine ⟨callOf readCount (plain message), fun answer =>
      ((callOf readCount (plain message)).map (respond answer)).getD [], ?_⟩
    intro Fs os fs rpc rpcResponse history _ proxy serving
    have active : proxy.active = true := (Bool.and_eq_true_iff.mp serving).1
    have served := (serve_message proxy os active nonempty).2.1
    rw [receive_rpc _ fits,
      callOf_congr nonempty selfContained (Or.inr readCount_standardInput), carryOut_exchange]
      at served
    refine served.trans ?_
    cases callOf readCount (plain message) <;> rfl

/-- A request to close a descriptor, with all that its handler reads. -/
def closeRequest (fd : UInt8) : List UInt8 :=
  [2, 0, 0, 0, fd, 0, 0, 0]

theorem closeRequest_receivable (fd : UInt8) : Receivable [.message (closeRequest fd)] := by
  intro bytes member
  cases List.mem_singleton.mp member
  exact ⟨Nat.zero_lt_succ 7, (by decide : 8 ≤ 512)⟩

/-- Such a request is served independently of everything before it. -/
theorem closeRequest_independent : Independent (closeRequest 3) :=
  (independent_iff_selfContained (closeRequest 3) (by decide) (by decide)).mpr (by decide)

/-- A message of four bytes closes the descriptor that the message before it
named. -/
theorem shortClose_not_independent : ¬ Independent [2, 0, 0, 0] := by
  rintro ⟨call, response, independent⟩
  have first := independent HostOs.queue [] (fun _ => 0) (fun _ => 0) _ (closeRequest_receivable 3) rfl
  have second := independent HostOs.queue [] (fun _ => 0) (fun _ => 0) _ (closeRequest_receivable 4) rfl
  have three : some (SysCall.closeFile 3) = call := congrArg Exchange.call first
  have four : some (SysCall.closeFile 4) = call := congrArg Exchange.call second
  exact absurd (three.trans four.symm) (by decide)

end ProxyApp
end RpcServers
end OpenAmpReference
