import OpenAmpReference.Library.FileSystem
import OpenAmpReference.LinuxRpc.Client

namespace OpenAmpReference
namespace LinuxRpc

/-!
# The server of `linux_rpc_demod`, and the same calls made locally

Each handler reads its request structure, makes one system call and fills a
response structure on its stack.  The local meaning of a client call is that
system call with the caller's own arguments.
-/

variable {Fs : Type}

/-- The longest path the kernel takes. -/
def pathMax : Nat := 4096

/-- `RPMSG_RPC_OK` -/
def rpmsgRpcOk : BitVec 32 := 0

/-- The operating system of the server; the demo reads its input with
`scanf("%s", ..)`. -/
structure ServerOs (Fs : Type) extends FileSystem Fs where
  scanf : Fs -> Fs × List UInt8

/-- `struct rpmsg_rpc_resp_open` and the other responses of one integer. -/
def intPayload (stack : ByteMemory) (value : BitVec 32) : List UInt8 :=
  (stack.writeInt 0 value).readBytes 0 4

/-- `struct rpmsg_rpc_resp_read`, `struct rpmsg_rpc_resp_input` -/
def bufPayload (stack : ByteMemory) (data : List UInt8) (value : BitVec 32) : List UInt8 :=
  ((stack.writeBytes 4 data).writeInt 0 value).readBytes 0 304

namespace ServerOs

variable (os : ServerOs Fs)

/-- `rpmsg_handle_open()` -/
def rpmsgHandleOpen (fs : Fs) (request stack : ByteMemory) : Fs × List UInt8 :=
  let done := os.perform fs
    (.openFile (request.cString 0 pathMax) (request.readInt 12) (request.readInt 16))
  (done.1, intPayload stack done.2.int)

/-- `rpmsg_handle_close()` -/
def rpmsgHandleClose (fs : Fs) (request stack : ByteMemory) : Fs × List UInt8 :=
  let done := os.perform fs (.closeFile (request.readInt 0))
  (done.1, intPayload stack done.2.int)

/-- `rpmsg_handle_read()`: the standard input is read in large blocks. -/
def rpmsgHandleRead (fs : Fs) (request stack : ByteMemory) : Fs × List UInt8 :=
  let count := if request.readInt 0 = 0 then maxStringLen else (request.readInt 4).toNat
  let done := os.perform fs (.readFile (request.readInt 0) count)
  (done.1, bufPayload stack done.2.data done.2.int)

/-- `rpmsg_handle_write()` -/
def rpmsgHandleWrite (fs : Fs) (request stack : ByteMemory) : Fs × List UInt8 :=
  let done := os.perform fs
    (.writeFile (request.readInt 0) (request.readBytes 8 (request.readInt 4).toNat))
  (done.1, intPayload stack done.2.int)

/-- `rpmsg_handle_input()`: the count is the size of the buffer. -/
def rpmsgHandleInput (fs : Fs) (stack : ByteMemory) : Fs × List UInt8 :=
  let done := os.scanf fs
  (done.1, bufPayload stack (done.2 ++ [0]) (BitVec.ofNat 32 maxStringLen))

/-- The service table; the answers are sent with the status `RPMSG_RPC_OK`. -/
def demod : Server Fs where
  handle fs id request stack :=
    let handled := match id with
      | .openId => os.rpmsgHandleOpen fs request stack
      | .closeId => os.rpmsgHandleClose fs request stack
      | .readId => os.rpmsgHandleRead fs request stack
      | .writeId => os.rpmsgHandleWrite fs request stack
      | .inputId => os.rpmsgHandleInput fs stack
    (handled.1, some (rpmsgRpcOk, handled.2))

end ServerOs

/-- What a call leaves for its caller: the descriptor or the count, and the
bytes that were read. -/
structure Outcome where
  result : Int
  data : List UInt8
  deriving DecidableEq, Repr

/-- The result variable of a call, and the first bytes of its buffer. -/
def Client.outcome (client : Client) : Call -> Outcome
  | .rpmsgOpen _ _ _ => ⟨client.fileD.toInt, []⟩
  | .rpmsgRead _ _ _ =>
      ⟨client.bytesRead.toInt, client.readReqBuffer.readBytes 0 client.bytesRead.toInt.toNat⟩
  | .rpmsgWrite _ _ _ => ⟨client.bytesWritten.toInt, []⟩
  | .rpmsgClose _ => ⟨0, []⟩
  | .rpmsgInput _ _ =>
      ⟨client.bytesRead.toInt, client.inputReqBuffer.readBytes 0 client.bytesRead.toInt.toNat⟩

/-- The system call that a client call stands for; the demo's input has none. -/
def Call.sysCall : Call -> Option SysCall
  | .rpmsgOpen filename flags mode => some (.openFile filename flags mode)
  | .rpmsgRead fd _ buflen => some (.readFile fd buflen.toInt.toNat)
  | .rpmsgWrite fd ptr len => some (.writeFile fd (ptr.readBytes 0 len.toInt.toNat))
  | .rpmsgClose fd => some (.closeFile fd)
  | .rpmsgInput _ _ => none

/-- What the caller gets from making the system call itself. -/
def Call.localOutcome (call : Call) (answer : Answer) : Outcome :=
  match call with
  | .rpmsgOpen _ _ _ => ⟨answer.int.toInt, []⟩
  | .rpmsgRead _ _ _ => ⟨answer.value.toInt, answer.data⟩
  | .rpmsgWrite _ _ _ => ⟨answer.value.toInt, []⟩
  | .rpmsgClose _ | .rpmsgInput _ _ => ⟨0, []⟩

/-- One call made locally. -/
def localCall (os : FileSystem Fs) (fs : Fs) (call : Call) : Fs × Outcome :=
  match call.sysCall with
  | none => (fs, ⟨0, []⟩)
  | some sysCall => ((os.perform fs sysCall).1, call.localOutcome (os.perform fs sysCall).2)

/-- A sequence of calls made locally, with their outcomes. -/
def localRun (os : FileSystem Fs) (fs : Fs) : List Call -> Fs × List Outcome
  | [] => (fs, [])
  | call :: rest =>
      let first := localCall os fs call
      let later := localRun os first.1 rest
      (later.1, first.2 :: later.2)

/-- The calls that fit the structures: a short file name, a write that fits its
buffer, a read into a buffer from a descriptor other than the standard input. -/
def Call.InRange : Call -> Prop
  | .rpmsgOpen filename _ _ => filename.length < maxFileNameLen ∧ 0 ∉ filename
  | .rpmsgRead fd buffer buflen =>
      fd ≠ 0 ∧ buffer.isSome ∧ 1 ≤ buflen.toInt ∧ buflen.toInt ≤ maxStringLen
  | .rpmsgWrite _ _ len => 0 ≤ len.toInt ∧ len.toInt < maxStringLen
  | .rpmsgClose _ => True
  | .rpmsgInput _ _ => False

instance : DecidablePred Call.InRange := fun call =>
  match call with
  | .rpmsgOpen filename _ _ =>
      inferInstanceAs (Decidable (filename.length < maxFileNameLen ∧ 0 ∉ filename))
  | .rpmsgRead fd buffer buflen =>
      inferInstanceAs (Decidable (fd ≠ 0 ∧ buffer.isSome ∧ 1 ≤ buflen.toInt ∧
        buflen.toInt ≤ maxStringLen))
  | .rpmsgWrite _ _ len => inferInstanceAs (Decidable (0 ≤ len.toInt ∧ len.toInt < maxStringLen))
  | .rpmsgClose _ => isTrue trivial
  | .rpmsgInput _ _ => isFalse not_false

end LinuxRpc
end OpenAmpReference
