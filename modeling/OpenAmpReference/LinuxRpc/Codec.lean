import Mathlib.Data.List.Infix
import OpenAmpReference.LinuxRpc.Simulation

namespace OpenAmpReference
namespace LinuxRpc

/-!
# The requests to open and to write, for every argument

The client copies the file name, or the bytes to be written, into a structure of a fixed
size with no regard to their length.  A name that is too long for its field first fills the
padding, then the flags and the mode, which are already there, and then leaves the
structure.
-/

variable {Fs : Type}

/-- What a call comes to before its response: it is refused, its copy leaves the request
structure, it cannot be sent, or it delivers its payload. -/
inductive Sent
  | refused
  | overrun
  | failed
  | delivered (payload : List UInt8)

/-- `sizeof(struct rpmsg_rpc_req_open)` -/
def sizeofReqOpen : Nat := 20

/-- `rpmsg_open()`, which tries to send until it succeeds.  `rpc` tells whether there is a
client, and `maxBufLen` is `MAX_BUF_LEN`. -/
def rpmsgOpen (rpc : Bool) (maxBufLen : Nat) (stack : ByteMemory) (filename : List UInt8)
    (flags mode : BitVec 32) : Sent :=
  if maxBufLen < sizeofReqOpen ∨ rpc = false then .refused
  else if sizeofReqOpen < filename.length + 1 then .overrun
  else .delivered ((Call.rpmsgOpen filename flags mode).payload stack)

/-- `rpmsg_write()`, with the outcome of its send -/
def rpmsgWrite (rpc accepted : Bool) (stack : ByteMemory) (fd : BitVec 32) (ptr : ByteMemory)
    (len : BitVec 32) : Sent :=
  if rpc = false then .refused
  else if maxStringLen < len.toInt + 1 then .overrun
  else if accepted then .delivered ((Call.rpmsgWrite fd ptr len).payload stack)
  else .failed

/-- The call of `open()` in `rpmsg_handle_open()` -/
def openCall (request : ByteMemory) : SysCall :=
  .openFile (request.cString 0 pathMax) (request.readInt 12) (request.readInt 16)

/-- The call of `write()` in `rpmsg_handle_write()` -/
def writeCall (request : ByteMemory) : SysCall :=
  .writeFile (request.readInt 0) (request.readBytes 8 (request.readInt 4).toNat)

theorem rpmsgHandleOpen_eq (os : ServerOs Fs) (fs : Fs) (request stack : ByteMemory) :
    os.rpmsgHandleOpen fs request stack =
      ((os.perform fs (openCall request)).1,
        intPayload stack (os.perform fs (openCall request)).2.int) :=
  rfl

theorem rpmsgHandleWrite_eq (os : ServerOs Fs) (fs : Fs) (request stack : ByteMemory) :
    os.rpmsgHandleWrite fs request stack =
      ((os.perform fs (writeCall request)).1,
        intPayload stack (os.perform fs (writeCall request)).2.int) :=
  rfl

/-- The call is refused, or its handler makes the system call that the caller has asked
for, whatever the receive buffer held before. -/
def Faithful (sent : Sent) (handled : ByteMemory -> SysCall) (asked : SysCall) : Prop :=
  match sent with
  | .refused => True
  | .overrun | .failed => False
  | .delivered payload =>
      forall residue : ByteMemory, handled (residue.writeBytes 0 payload) = asked

/-- Behind the field and its padding the name agrees with the flags and the mode. -/
def Coincides (filename : List UInt8) (flags mode : BitVec 32) : Prop :=
  (filename ++ [0]).drop 12 <+:
    ByteMemory.bytesOfWord flags.toNat ++ ByteMemory.bytesOfWord mode.toNat

instance (filename : List UInt8) (flags mode : BitVec 32) :
    Decidable (Coincides filename flags mode) :=
  inferInstanceAs (Decidable (_ <+: _))

section Open

variable {stack residue : ByteMemory} {filename : List UInt8} {flags mode : BitVec 32}

/-- The flags and the mode as they are before the name is copied -/
theorem header_bytes :
    ((stack.writeInt 12 flags).writeInt 16 mode).readBytes 12 8 =
      ByteMemory.bytesOfWord flags.toNat ++ ByteMemory.bytesOfWord mode.toNat := by
  rw [ByteMemory.readBytes_add _ 12 4 4, ByteMemory.readBytes_int, ByteMemory.readBytes_int,
    ByteMemory.readInt_writeInt_of_disjoint _ _ (by decide), ByteMemory.readInt_writeInt_same,
    ByteMemory.readInt_writeInt_same]

/-- A name that fits the structure is copied to its start. -/
theorem name_copied (stack : ByteMemory) (flags mode : BitVec 32)
    (fits : filename.length + 1 ≤ 20) :
    filename ++ [0] <+:
      ((Call.rpmsgOpen filename flags mode).request stack).readBytes 0 20 := by
  have stored : (filename ++ [0]).length = filename.length + 1 := List.length_append
  have split : 20 = (filename ++ [0]).length + (20 - (filename ++ [0]).length) := by omega
  rw [split, ByteMemory.readBytes_add, Call.request, ByteMemory.readBytes_writeBytes_same]
  exact List.prefix_append _ _

theorem coincides_of_read (fits : filename.length + 1 ≤ 20)
    (flagsRead : ((Call.rpmsgOpen filename flags mode).request stack).readInt 12 = flags)
    (modeRead : ((Call.rpmsgOpen filename flags mode).request stack).readInt 16 = mode) :
    Coincides filename flags mode := by
  have tail := (name_copied stack flags mode fits).drop 12
  rw [ByteMemory.readBytes_add _ 0 12 8, List.drop_left' (ByteMemory.readBytes_length _ _ _),
    ByteMemory.readBytes_add _ _ 4 4, ByteMemory.readBytes_int, ByteMemory.readBytes_int] at tail
  rwa [show (0 : Nat) + 12 = 12 from rfl, show (12 : Nat) + 4 = 16 from rfl, flagsRead,
    modeRead] at tail

/-- A name that coincides with the flags and the mode leaves them as they are. -/
theorem Coincides.kept (coincides : Coincides filename flags mode) {place : Nat}
    (behind : 12 ≤ place) :
    (Call.rpmsgOpen filename flags mode).request stack place =
      ((stack.writeInt 12 flags).writeInt 16 mode) place := by
  rw [Coincides, ← @header_bytes stack flags mode] at coincides
  exact ByteMemory.writeBytes_of_present _ coincides behind

theorem Coincides.fits (coincides : Coincides filename flags mode) :
    filename.length + 1 ≤ 20 := by
  have short := coincides.length_le
  rw [List.length_drop, List.length_append, List.length_append] at short
  have bytes : (ByteMemory.bytesOfWord flags.toNat).length +
      (ByteMemory.bytesOfWord mode.toNat).length = 8 := rfl
  rw [bytes, List.length_singleton] at short
  omega

/-- A name that fits arrives, and the flags and the mode arrive as the copy has left them. -/
theorem openCall_received (residue : ByteMemory) (noNul : 0 ∉ filename)
    (fits : filename.length + 1 ≤ 20) :
    openCall (residue.writeBytes 0 ((Call.rpmsgOpen filename flags mode).payload stack)) =
      .openFile filename (((Call.rpmsgOpen filename flags mode).request stack).readInt 12)
        (((Call.rpmsgOpen filename flags mode).request stack).readInt 16) := by
  have stored : (filename ++ [0]).length = filename.length + 1 := List.length_append
  have name : (residue.writeBytes 0
      ((Call.rpmsgOpen filename flags mode).payload stack)).cString 0 pathMax = filename := by
    apply ByteMemory.cString_eq _ noNul (show _ < 4096 by omega)
    rw [Call.payload, Call.payloadSize, ByteMemory.readBytes_carried _ _ _ (by omega),
      Call.request, ← stored]
    exact ByteMemory.readBytes_writeBytes_same _ _ _
  rw [openCall, name, Call.payload, Call.payloadSize,
    ByteMemory.readInt_carried _ _ _ (by decide), ByteMemory.readInt_carried _ _ _ (by decide)]

/-- A request to open is decoded as it was made exactly if it is refused or the end of the
name coincides with the flags and the mode. -/
theorem open_faithful_iff (rpc : Bool) (maxBufLen : Nat) (stack : ByteMemory)
    (noNul : 0 ∉ filename) :
    Faithful (rpmsgOpen rpc maxBufLen stack filename flags mode) openCall
        (.openFile filename flags mode) ↔
      maxBufLen < sizeofReqOpen ∨ rpc = false ∨ Coincides filename flags mode := by
  unfold rpmsgOpen
  by_cases refused : maxBufLen < sizeofReqOpen ∨ rpc = false
  · rw [if_pos refused]
    exact iff_of_true trivial (or_assoc.mp (Or.inl refused))
  · rw [if_neg refused, ← or_assoc, or_iff_right refused]
    by_cases overrun : sizeofReqOpen < filename.length + 1
    · rw [if_pos overrun]
      exact iff_of_false not_false fun coincides => absurd coincides.fits (Nat.not_le_of_lt overrun)
    · rw [if_neg overrun]
      have fits : filename.length + 1 ≤ 20 := Nat.le_of_not_lt overrun
      constructor
      · intro faithful
        have arrived := faithful (fun _ => 0)
        rw [openCall_received _ noNul fits] at arrived
        rcases SysCall.openFile.inj arrived with ⟨_, flagsRead, modeRead⟩
        exact coincides_of_read fits flagsRead modeRead
      · intro coincides residue
        rw [openCall_received residue noNul fits,
          ByteMemory.readInt_congr (fun _ _ => coincides.kept (by omega)),
          ByteMemory.readInt_congr (fun _ _ => coincides.kept (by omega)),
          ByteMemory.readInt_writeInt_of_disjoint _ _ (by decide),
          ByteMemory.readInt_writeInt_same, ByteMemory.readInt_writeInt_same]

end Open

/-- A request to write is decoded as it was made exactly if it is refused, or it is sent and
the bytes with one more fit the structure. -/
theorem write_faithful_iff (rpc accepted : Bool) (stack : ByteMemory) (fd : BitVec 32)
    (ptr : ByteMemory) {len : BitVec 32} (nonneg : 0 ≤ len.toInt) :
    Faithful (rpmsgWrite rpc accepted stack fd ptr len) writeCall
        (.writeFile fd (ptr.readBytes 0 len.toInt.toNat)) ↔
      rpc = false ∨ (accepted = true ∧ len.toInt < maxStringLen) := by
  unfold rpmsgWrite
  by_cases refused : rpc = false
  · rw [if_pos refused]
    exact iff_of_true trivial (Or.inl refused)
  · rw [if_neg refused, or_iff_right refused]
    by_cases overrun : maxStringLen < len.toInt + 1
    · rw [if_pos overrun]
      exact iff_of_false not_false fun fits => by omega
    · rw [if_neg overrun]
      have fits : len.toInt < maxStringLen := by omega
      cases accepted with
      | false => exact iff_of_false not_false fun sent => nomatch sent.1
      | true =>
          refine iff_of_true (fun residue => ?_) ⟨rfl, fits⟩
          rcases write_received stack residue fd ptr nonneg fits with ⟨fdRead, lenRead, bytes⟩
          rw [Call.received] at fdRead lenRead bytes
          rw [writeCall, fdRead, lenRead, bytes, toNat_of_nonneg nonneg]

/-- Both requests, for every argument: an open is carried out as asked, or refused, exactly if
the structure does not fit a message, there is no client, or what follows the field of the name
in memory agrees with the flags and the mode; a write exactly if there is no client, or it is
sent and its data are shorter than the field. The name has no null within it, as a C string, and
a negative length would be converted to a huge one before anything is compared. -/
theorem faithful_iff (rpc accepted : Bool) (maxBufLen : Nat) (stack : ByteMemory)
    {filename : List UInt8} (noNul : 0 ∉ filename) (flags mode fd : BitVec 32)
    (ptr : ByteMemory) {len : BitVec 32} (nonneg : 0 ≤ len.toInt) :
    (Faithful (rpmsgOpen rpc maxBufLen stack filename flags mode) openCall
        (.openFile filename flags mode) ↔
      maxBufLen < sizeofReqOpen ∨ rpc = false ∨ Coincides filename flags mode) ∧
    (Faithful (rpmsgWrite rpc accepted stack fd ptr len) writeCall
        (.writeFile fd (ptr.readBytes 0 len.toInt.toNat)) ↔
      rpc = false ∨ (accepted = true ∧ len.toInt < maxStringLen)) :=
  ⟨open_faithful_iff rpc maxBufLen stack noNul,
    write_faithful_iff rpc accepted stack fd ptr nonneg⟩

/-- A memory of zeros -/
def cleared : ByteMemory := fun _ => 0

/-- A name that fits the field, and a write that fits the structure -/
theorem short_faithful :
    Faithful (rpmsgOpen true 512 cleared [114, 46, 116] 0 0) openCall
        (.openFile [114, 46, 116] 0 0) ∧
      Faithful (rpmsgWrite true true cleared 3 cleared 45) writeCall
        (.writeFile 3 (cleared.readBytes 0 45)) := by
  have both := faithful_iff true true 512 cleared (show 0 ∉ [114, 46, 116] by decide) 0 0 3 cleared
    (show 0 ≤ (45 : BitVec 32).toInt by decide)
  exact ⟨both.1.mpr (Or.inr (Or.inr (by decide))), both.2.mpr (Or.inr ⟨rfl, by decide⟩)⟩

/-- The terminator of a name of twelve characters clears the first byte of the flags, and a
write of 300 bytes copies one byte too many. -/
theorem long_not_faithful :
    ¬ Faithful (rpmsgOpen true 512 cleared (List.replicate 12 97) 1 0) openCall
        (.openFile (List.replicate 12 97) 1 0) ∧
      ¬ Faithful (rpmsgWrite true true cleared 3 cleared 300) writeCall
        (.writeFile 3 (cleared.readBytes 0 300)) := by
  refine ⟨?_, not_false⟩
  intro faithful
  rcases (open_faithful_iff true 512 cleared (by decide)).mp faithful with small | none | same
  · exact absurd small (by decide)
  · exact nomatch none
  · exact absurd same (by decide)

end LinuxRpc
end OpenAmpReference
