import OpenAmpReference.RpcServers.ProxyApp
import OpenAmpReference.RpcServers.RpcDemod

namespace OpenAmpReference
namespace RpcServers

/-!
# The counts of the two servers' reads

Both servers read as much as they like from the standard input and only what was asked for
from any other file, or so their comments say.  In `rpc_demod.c` the size that was asked
for bounds a read from the standard input and no other; in `proxy_app.c` it is the only
bound of any other read, and that of the standard input has no regard to the header.
-/

/-- The response to a read with that result: the header, and the data behind it -/
def readResponse (result : BitVec 32) (data : List UInt8) : List UInt8 :=
  (fillHeader (fun _ => 0) .readSyscallId result result).readBytes 0 headerSize ++ data

/-- The request is answered by one read of no more bytes than there is room for, and of no
more than asked for unless it is from the standard input; the response is the header with
the result, and exactly the data. -/
def Delivers {Fs : Type} (os : HostOs Fs) (fs : Fs) (request : ByteMemory) (room : Nat)
    (exchange : Exchange) : Prop :=
  Exists fun count : Nat =>
    exchange.call = some (.readFile (intField1 request) count) ∧
    count ≤ room ∧
    (intField1 request ≠ 0 -> count ≤ (intField2 request).toInt) ∧
    let answer := (os.perform fs (.readFile (intField1 request) count)).2
    answer.int.toInt = answer.value.toInt ∧
      (answer.data.length : Int) = max 0 answer.value.toInt ∧
      exchange.response = some (readResponse answer.int answer.data)

/-- The room behind the header in a buffer of that size -/
def roomOf (bufferSize : Nat) : Nat :=
  bufferSize - headerSize

/-! ## The response to a read -/

theorem fillHeader_outside {memory : ByteMemory} {place : Nat} (id : SyscallId)
    (field1 dataLen : BitVec 32) (behind : headerSize ≤ place) :
    fillHeader memory id field1 dataLen place = memory place := by
  have outside : 16 ≤ place := behind
  rw [fillHeader, ByteMemory.writeInt_of_disjoint _ _ (by omega),
    ByteMemory.writeInt_of_disjoint _ _ (by omega), ByteMemory.writeInt_of_disjoint _ _ (by omega),
    ByteMemory.writeInt_of_disjoint _ _ (by omega)]

theorem readResponse_eq (memory : ByteMemory) (result : BitVec 32) (data : List UInt8) :
    (fillHeader (memory.writeBytes headerSize data) .readSyscallId result result).readBytes 0
      (headerSize + data.length) = readResponse result data := by
  rw [ByteMemory.readBytes_add, readResponse, Nat.zero_add]
  refine congrArg₂ List.append ?_ ?_
  · apply ByteMemory.readBytes_congr
    intro i inside
    refine fillHeader_agree _ _ _ (fun behind => ?_)
    rw [Nat.zero_add] at behind
    exact absurd inside (Nat.not_lt.mpr behind)
  · refine Eq.trans ?_ (ByteMemory.readBytes_writeBytes_same memory headerSize data)
    apply ByteMemory.readBytes_congr
    exact fun i _ => fillHeader_outside _ _ _ (Nat.le_add_right _ _)

section Answer

variable {Fs : Type} (os : HostOs Fs) (fs : Fs) (fd : BitVec 32)

/-- A read returns minus one and stores nothing, or the number of bytes it stores. -/
theorem read_length {count : Nat} (small : count < 2 ^ 31) :
    ((os.perform fs (.readFile fd count)).2.data.length : Int) =
      max 0 (os.perform fs (.readFile fd count)).2.value.toInt := by
  rcases os.read_answer fs fd count with ⟨failed, none⟩ | ⟨counted, within⟩
  · rw [failed, none]
    decide
  · rw [counted, Answer.toInt_ofNat (by omega)]
    exact (max_eq_right (Int.natCast_nonneg _)).symm

/-- The size of the data in a response -/
theorem read_size {count : Nat} (small : count < 2 ^ 31) {value : Int}
    (result : value = (os.perform fs (.readFile fd count)).2.value.toInt) :
    (if 0 < value then value.toNat else 0) =
      (os.perform fs (.readFile fd count)).2.data.length := by
  have length := read_length os fs fd small
  rw [positivePart, result]
  omega

end Answer

/-- Both handlers deliver what they read if the count is in bounds, since the response they
make is then exact. -/
theorem delivers_iff_count {Fs : Type} (os : HostOs Fs) (fs : Fs) {request : ByteMemory}
    {room count : Nat} (bounded : room < 2 ^ 31) {exchange : Exchange}
    (asked : exchange.call = some (.readFile (intField1 request) count))
    (answered : count ≤ room -> exchange.response = some (readResponse
      (os.perform fs (.readFile (intField1 request) count)).2.int
      (os.perform fs (.readFile (intField1 request) count)).2.data)) :
    Delivers os fs request room exchange ↔
      count ≤ room ∧ (intField1 request ≠ 0 -> count ≤ (intField2 request).toInt) := by
  constructor
  · rintro ⟨other, call, fits, within, _⟩
    have same : other = count :=
      (SysCall.readFile.inj (Option.some.inj (call.symm.trans asked))).2
    subst same
    exact ⟨fits, within⟩
  · rintro ⟨fits, within⟩
    have small : count < 2 ^ 31 := Nat.lt_of_le_of_lt fits bounded
    exact ⟨count, asked, fits, within, read_int os.toFileSystem fs _ small,
      read_length os fs _ small, answered fits⟩

/-! ## The two servers -/

theorem sizeT_le_iff {size : BitVec 32} {room : Nat} (bounded : room < 2 ^ 31) :
    sizeT size ≤ room ↔ 0 ≤ size.toInt ∧ size.toInt ≤ room := by
  by_cases nonneg : 0 ≤ size.toInt
  · rw [sizeT_of_nonneg nonneg]
    rw [BitVec.toInt_eq_toNat_cond] at nonneg ⊢
    have bound := size.isLt
    split at nonneg <;> split <;> omega
  · have huge := le_sizeT_of_negative (Int.lt_of_not_ge nonneg)
    omega

section Servers

variable {Fs : Type} (os : HostOs Fs)

theorem demod_delivers_iff (demod : RpcDemod.Demod Fs) (syscall frame : ByteMemory)
    (reads : SyscallId.ofNumber (sysId syscall) = some .readSyscallId) :
    Delivers os demod.fs syscall (roomOf RpcDemod.rpcBuffSize)
        (RpcDemod.handleRpc os demod syscall frame).exchange ↔
      (intField1 syscall = 0 -> 0 ≤ (intField2 syscall).toInt) ∧
        (intField1 syscall ≠ 0 -> 1008 ≤ (intField2 syscall).toInt) := by
  have room : roomOf RpcDemod.rpcBuffSize = 1008 := rfl
  have whole : sizeT 1008 = 1008 := rfl
  have handled : RpcDemod.handleRpc os demod syscall frame =
      RpcDemod.handleRead os demod syscall frame := by
    rw [RpcDemod.handleRpc, reads]
  rw [handled, delivers_iff_count os demod.fs (by rw [room]; decide) rfl, room]
  · unfold RpcDemod.readCount RpcDemod.bytesToRead
    by_cases standardInput : intField1 syscall = 0
    · simp only [standardInput, true_and, ne_eq, not_true_eq_false, false_implies, and_true,
        true_implies]
      split
      · rw [sizeT_le_iff (by decide)]
        omega
      · rw [whole]
        omega
    · simp only [standardInput, false_and, if_false, whole, ne_eq, not_false_eq_true,
        true_implies, false_implies, true_and, Nat.le_refl]
      exact Iff.rfl
  · intro fits
    have small : RpcDemod.readCount (intField1 syscall) (intField2 syscall) < 2 ^ 31 :=
      Nat.lt_of_le_of_lt fits (by decide)
    have size := read_size os demod.fs (intField1 syscall) small
      (read_int os.toFileSystem demod.fs (intField1 syscall) small)
    refine congrArg some (Eq.trans ?_ (readResponse_eq frame _ _))
    rw [← size]

theorem proxy_delivers_iff (proxy : ProxyApp.Proxy Fs)
    (reads : SyscallId.ofNumber (sysId proxy.rpc) = some .readSyscallId) :
    Delivers os proxy.fs proxy.rpc (roomOf ProxyApp.rpcBuffSize)
        (ProxyApp.handleRpc os proxy).exchange ↔
      intField1 proxy.rpc ≠ 0 ∧ 0 ≤ (intField2 proxy.rpc).toInt ∧
        (intField2 proxy.rpc).toInt ≤ 496 := by
  have room : roomOf ProxyApp.rpcBuffSize = 496 := rfl
  have handled : ProxyApp.handleRpc os proxy = ProxyApp.handleRead os proxy := by
    rw [ProxyApp.handleRpc, reads]
  rw [handled, delivers_iff_count os proxy.fs (by rw [room]; decide) rfl, room]
  · unfold ProxyApp.readCount
    by_cases standardInput : intField1 proxy.rpc = 0
    · simp only [standardInput, if_true, ne_eq, not_true_eq_false, false_and, iff_false]
      omega
    · simp only [standardInput, if_false, ne_eq, not_false_eq_true, true_implies, true_and]
      rw [sizeT_le_iff (by decide)]
      constructor
      · exact And.left
      · intro bounded
        refine ⟨bounded, ?_⟩
        rw [sizeT_of_nonneg bounded.1, BitVec.toInt_eq_toNat_cond]
        have nonneg := bounded.1
        rw [BitVec.toInt_eq_toNat_cond] at nonneg
        have bound := (intField2 proxy.rpc).isLt
        split at nonneg <;> omega
  · intro fits
    have small : ProxyApp.readCount (intField1 proxy.rpc) (intField2 proxy.rpc) < 2 ^ 31 :=
      Nat.lt_of_le_of_lt fits (by decide)
    have size := read_size os proxy.fs (intField1 proxy.rpc) small rfl
    refine congrArg some (Eq.trans ?_ (readResponse_eq proxy.rpcResponse _ _))
    rw [← size]

/-- The reads of both servers, for every request and every answer. The first server asks for a
whole buffer whatever the request says, except for the standard input; the second one asks for
the requested size, and for a fixed one from the standard input. The hypotheses say that the
requests are reads; their fields are arbitrary. -/
theorem delivers_iff (demod : RpcDemod.Demod Fs) (syscall frame : ByteMemory)
    (proxy : ProxyApp.Proxy Fs)
    (reads : SyscallId.ofNumber (sysId syscall) = some .readSyscallId)
    (proxyReads : SyscallId.ofNumber (sysId proxy.rpc) = some .readSyscallId) :
    (Delivers os demod.fs syscall (roomOf RpcDemod.rpcBuffSize)
        (RpcDemod.handleRpc os demod syscall frame).exchange ↔
      (intField1 syscall = 0 -> 0 ≤ (intField2 syscall).toInt) ∧
        (intField1 syscall ≠ 0 -> 1008 ≤ (intField2 syscall).toInt)) ∧
    (Delivers os proxy.fs proxy.rpc (roomOf ProxyApp.rpcBuffSize)
        (ProxyApp.handleRpc os proxy).exchange ↔
      intField1 proxy.rpc ≠ 0 ∧ 0 ≤ (intField2 proxy.rpc).toInt ∧
        (intField2 proxy.rpc).toInt ≤ 496) :=
  ⟨demod_delivers_iff os demod syscall frame reads, proxy_delivers_iff os proxy proxyReads⟩

end Servers

/-- A request to read that many bytes of a file -/
def readRequest (fd size : BitVec 32) : ByteMemory :=
  ((ByteMemory.writeInt (fun _ => 0) 0 4).writeInt 4 fd).writeInt 8 size

/-- A file of eight bytes -/
def someFile : List UInt8 := [111, 112, 101, 110, 97, 109, 112, 10]

/-- A large read of the file in one server, and a small one in the other, which leaves some of
its bytes -/
theorem reads_delivered :
    Delivers HostOs.queue someFile (readRequest 3 2000) (roomOf RpcDemod.rpcBuffSize)
        (RpcDemod.handleRpc HostOs.queue (RpcDemod.initial someFile) (readRequest 3 2000)
          fun _ => 0).exchange ∧
      Delivers HostOs.queue someFile (readRequest 3 5) (roomOf ProxyApp.rpcBuffSize)
        (ProxyApp.handleRpc HostOs.queue
          (ProxyApp.initial someFile (readRequest 3 5) fun _ => 0)).exchange := by
  have both := delivers_iff HostOs.queue (RpcDemod.initial someFile) (readRequest 3 2000)
    (fun _ => 0) (ProxyApp.initial someFile (readRequest 3 5) fun _ => 0) (by decide) (by decide)
  exact ⟨both.1.mpr ⟨by decide, by decide⟩, both.2.mpr ⟨by decide, by decide, by decide⟩⟩

/-- A small read of a file in the first server, and any read from the standard input in the
second one -/
theorem reads_not_delivered :
    ¬ Delivers HostOs.queue [] (readRequest 3 10) (roomOf RpcDemod.rpcBuffSize)
        (RpcDemod.handleRpc HostOs.queue (RpcDemod.initial []) (readRequest 3 10)
          fun _ => 0).exchange ∧
      ¬ Delivers HostOs.queue [] (readRequest 0 10) (roomOf ProxyApp.rpcBuffSize)
        (ProxyApp.handleRpc HostOs.queue
          (ProxyApp.initial [] (readRequest 0 10) fun _ => 0)).exchange := by
  refine ⟨?_, ?_⟩
  · intro delivers
    have bounded := (demod_delivers_iff HostOs.queue (RpcDemod.initial []) _ _ (by decide)).mp
      delivers
    exact absurd (bounded.2 (by decide)) (by decide)
  · intro delivers
    have bounded := (proxy_delivers_iff HostOs.queue
      (ProxyApp.initial [] (readRequest 0 10) fun _ => 0) (by decide)).mp delivers
    exact absurd bounded.1 (by decide)

end RpcServers
end OpenAmpReference
