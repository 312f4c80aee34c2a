import OpenAmpReference.Library.FileSystem
import OpenAmpReference.Library.ByteMemory

namespace OpenAmpReference
namespace RpcServers

/-!
# Remote procedure calls in a buffer

A remote asks its host to open, close, read or write.  The request lies at the
start of a receive buffer: an id, two integers, a length and the data, a file
name that ends with a NUL or the bytes to write.  A server finds in its buffer
more than it has received, since the buffer is not cleared.  This module says
what a buffer asks for, and which messages ask for the same thing whatever the
buffer held before.
-/

/-- `OPEN_SYSCALL_ID` and its siblings -/
inductive SyscallId
  | openSyscallId
  | closeSyscallId
  | writeSyscallId
  | readSyscallId
  | termSyscallId
  deriving DecidableEq, Repr

namespace SyscallId

def number : SyscallId -> BitVec 32
  | .openSyscallId => 1
  | .closeSyscallId => 2
  | .writeSyscallId => 3
  | .readSyscallId => 4
  | .termSyscallId => 6

/-- The cases of the `switch` on the id. -/
def ofNumber (number : BitVec 32) : Option SyscallId :=
  if number = 1 then some .openSyscallId
  else if number = 2 then some .closeSyscallId
  else if number = 3 then some .writeSyscallId
  else if number = 4 then some .readSyscallId
  else if number = 6 then some .termSyscallId
  else none

theorem ofNumber_eq_some {number : BitVec 32} {id : SyscallId} (known : ofNumber number = some id) :
    number = id.number := by
  unfold ofNumber at known
  split_ifs at known with h1 h2 h3 h4 h6 <;> cases known
  · exact h1
  · exact h2
  · exact h3
  · exact h4
  · exact h6

theorem number_toNat_lt (id : SyscallId) : id.number.toNat < 256 := by
  cases id <;> decide

end SyscallId

/-- `struct _sys_rpc`, `struct rpmsg_rpc_syscall` -/
def headerSize : Nat := 16

/-- The longest path the kernel takes. -/
def pathMax : Nat := 4096

section Fields

variable (rpc : ByteMemory)

def sysId : BitVec 32 := rpc.readInt 0

def intField1 : BitVec 32 := rpc.readInt 4

def intField2 : BitVec 32 := rpc.readInt 8

end Fields

/-- An `int` passed as a `size_t` -/
def sizeT (value : BitVec 32) : Nat :=
  (value.signExtend 64).toNat

/-- The four fields of a response -/
def fillHeader (response : ByteMemory) (id : SyscallId) (field1 dataLen : BitVec 32) : ByteMemory :=
  (((response.writeInt 0 id.number).writeInt 4 field1).writeInt 8 0).writeInt 12 dataLen

/-- `write(fd, data, int_field2)` -/
def writeCall (rpc : ByteMemory) : SysCall :=
  if (intField2 rpc).toInt < 0 then .writeNegative (intField1 rpc) (intField2 rpc)
  else .writeFile (intField1 rpc) (rpc.readBytes headerSize (intField2 rpc).toNat)

/-- A system call and the response to it. -/
structure Exchange where
  call : Option SysCall
  response : Option (List UInt8)
  deriving DecidableEq, Repr

/-- The files, and a transport that takes a response or fails. -/
structure HostOs (Fs : Type) extends FileSystem Fs where
  send : Fs -> List UInt8 -> Fs × Bool

/-- A host over a single file, whose responses are always taken. -/
def HostOs.queue : HostOs (List UInt8) where
  toFileSystem := FileSystem.queue
  send := fun contents _ => (contents, true)

/-! ## What a buffer asks for -/

/-- The call for the request in a buffer.  Servers differ in how many bytes they
read for a descriptor and a size. -/
def callOf (readCount : BitVec 32 -> BitVec 32 -> Nat) (rpc : ByteMemory) : Option SysCall :=
  match SyscallId.ofNumber (sysId rpc) with
  | some .openSyscallId =>
      some (.openFile (rpc.cString headerSize pathMax) (intField1 rpc) (intField2 rpc))
  | some .closeSyscallId => some (.closeFile (intField1 rpc))
  | some .writeSyscallId => some (writeCall rpc)
  | some .readSyscallId =>
      some (.readFile (intField1 rpc) (readCount (intField1 rpc) (intField2 rpc)))
  | some .termSyscallId | none => none

/-- A response of a header only. -/
def headerOf (id : SyscallId) (result : BitVec 32) : List UInt8 :=
  (fillHeader (fun _ => 0) id result 0).readBytes 0 headerSize

/-- The response to a call, from the answer to it. -/
def respond (answer : Answer) : SysCall -> List UInt8
  | .openFile _ _ _ => headerOf .openSyscallId answer.int
  | .closeFile _ => headerOf .closeSyscallId answer.int
  | .writeFile _ _ | .writeNegative _ _ => headerOf .writeSyscallId answer.int
  | .readFile _ _ =>
      (fillHeader (ByteMemory.writeBytes (fun _ => 0) headerSize answer.data) .readSyscallId
        answer.int answer.int).readBytes 0 (headerSize + answer.value.toInt.toNat)

/-- The outcome of a request: what becomes of the files, what was exchanged, and
whether the server stops. -/
structure Outcome (Fs : Type) where
  fs : Fs
  exchange : Exchange
  stops : Bool

/-- A request is carried out.  A server stops at a request to terminate, at an
invalid one, and when its response is not taken. -/
def carryOut {Fs : Type} (os : HostOs Fs) (fs : Fs) : Option SysCall -> Outcome Fs
  | none => { fs := fs, exchange := ⟨none, none⟩, stops := true }
  | some call =>
      let done := os.perform fs call
      let sent := os.send done.1 (respond done.2 call)
      { fs := sent.1
        exchange := ⟨some call, some (respond done.2 call)⟩
        stops := !sent.2 }

/-! ## Sizes -/

theorem toInt_sizeT (value : BitVec 32) :
    (if sizeT value < 2 ^ 63 then (sizeT value : Int) else sizeT value - 2 ^ 64) = value.toInt := by
  have extended : (value.signExtend 64).toInt = value.toInt :=
    BitVec.toInt_signExtend_of_le (by decide)
  rw [BitVec.toInt_eq_toNat_cond] at extended
  unfold sizeT
  split <;> split at extended <;> omega

theorem sizeT_of_nonneg {value : BitVec 32} (nonneg : 0 ≤ value.toInt) :
    sizeT value = value.toNat := by
  have size := toInt_sizeT value
  have wide : sizeT value < 2 ^ 64 := (value.signExtend 64).isLt
  rw [BitVec.toInt_eq_toNat_cond] at nonneg size
  have bound := value.isLt
  split at nonneg <;> split at size <;> omega

/-- A negative size is a huge one. -/
theorem le_sizeT_of_negative {value : BitVec 32} (negative : value.toInt < 0) :
    2 ^ 63 ≤ sizeT value := by
  have size := toInt_sizeT value
  split at size <;> omega

/-! ## Responses do not depend on what their buffer held -/

theorem fillHeader_agree {first second : ByteMemory} {place : Nat} (id : SyscallId)
    (field1 dataLen : BitVec 32) (agree : headerSize ≤ place -> first place = second place) :
    fillHeader first id field1 dataLen place = fillHeader second id field1 dataLen place := by
  unfold fillHeader
  refine ByteMemory.writeInt_agree dataLen (fun not12 => ?_)
  refine ByteMemory.writeInt_agree 0 (fun not8 => ?_)
  refine ByteMemory.writeInt_agree field1 (fun not4 => ?_)
  refine ByteMemory.writeInt_agree id.number (fun not0 => agree ?_)
  unfold headerSize
  omega

theorem headerOf_eq (response : ByteMemory) (id : SyscallId) (result : BitVec 32) :
    (fillHeader response id result 0).readBytes 0 headerSize = headerOf id result := by
  apply ByteMemory.readBytes_congr
  intro i inside
  refine fillHeader_agree id result 0 (fun outside => ?_)
  rw [Nat.zero_add] at outside
  exact absurd inside (Nat.not_lt.mpr outside)

/-- The response to a read holds the data that were read and nothing else. -/
theorem respond_read (response : ByteMemory) (answer : Answer) {size : Nat}
    (within : size ≤ answer.data.length) :
    (fillHeader (response.writeBytes headerSize answer.data) .readSyscallId answer.int
        answer.int).readBytes 0 (headerSize + size) =
      (fillHeader (ByteMemory.writeBytes (fun _ => 0) headerSize answer.data) .readSyscallId
        answer.int answer.int).readBytes 0 (headerSize + size) := by
  apply ByteMemory.readBytes_congr
  intro i inside
  refine fillHeader_agree _ _ _ (fun afterHeader => ?_)
  refine ByteMemory.writeBytes_agree answer.data (fun outside => ?_)
  omega

/-- The size of the response to a read is at most what was read. -/
theorem read_size_le {Fs : Type} (os : FileSystem Fs) (fs : Fs) (fd : BitVec 32) (count : Nat) :
    (os.perform fs (.readFile fd count)).2.value.toInt.toNat ≤
      (os.perform fs (.readFile fd count)).2.data.length := by
  rcases os.read_answer fs fd count with ⟨failed, none⟩ | ⟨counted, _⟩
  · rw [failed]
    exact Nat.zero_le _
  · rw [counted, BitVec.toInt_eq_toNat_cond, BitVec.toNat_ofNat]
    have reduced := Nat.mod_le (os.perform fs (.readFile fd count)).2.data.length (2 ^ 64)
    split <;> omega

/-- `((bytes_read > 0) ? bytes_read : 0)` -/
theorem positivePart (value : Int) : (if 0 < value then value.toNat else 0) = value.toNat := by
  split
  next => rfl
  next notPositive => exact (Int.toNat_eq_zero.mpr (Int.not_lt.mp notPositive)).symm

/-- The result of a read of less than two gigabytes keeps its value in an `int`. -/
theorem read_int {Fs : Type} (os : FileSystem Fs) (fs : Fs) (fd : BitVec 32) {count : Nat}
    (small : count < 2 ^ 31) :
    (os.perform fs (.readFile fd count)).2.int.toInt =
      (os.perform fs (.readFile fd count)).2.value.toInt := by
  rcases os.read_answer fs fd count with ⟨failed, _⟩ | ⟨counted, within⟩
  · exact Answer.int_toInt small (Or.inl failed)
  · exact Answer.int_toInt (Nat.lt_of_le_of_lt within small) (Or.inr counted)

end RpcServers
end OpenAmpReference
