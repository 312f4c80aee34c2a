import Mathlib.Algebra.Group.Nat.Defs
import Mathlib.Data.List.Basic
import Mathlib.Tactic.Common

namespace OpenAmpReference

/-!
# A byte-addressed memory with 32-bit accesses

Memory is a total function from addresses to bytes.  A 32-bit access stores
its four bytes in little-endian order, so that a word written by one side
and a block of bytes read by another meet in the same model.  The simp lemmas
say what a read sees after a write: the same cell, or a cell of a disjoint
range; their side conditions are linear, and `omega` discharges them.
-/

/-- The bytes of the address space. -/
abbrev ByteMemory := Nat -> UInt8

namespace ByteMemory

/-- The natural number whose four little-endian bytes are given. -/
def wordOfBytes (b0 b1 b2 b3 : UInt8) : Nat :=
  b0.toNat + 256 * (b1.toNat + 256 * (b2.toNat + 256 * b3.toNat))

/-- The four little-endian bytes of a 32-bit word. -/
def bytesOfWord (value : Nat) : List UInt8 :=
  [UInt8.ofNat value, UInt8.ofNat (value / 256), UInt8.ofNat (value / 65536),
    UInt8.ofNat (value / 16777216)]

theorem wordOfBytes_lt (b0 b1 b2 b3 : UInt8) : wordOfBytes b0 b1 b2 b3 < 2 ^ 32 := by
  have h0 := b0.toNat_lt
  have h1 := b1.toNat_lt
  have h2 := b2.toNat_lt
  have h3 := b3.toNat_lt
  unfold wordOfBytes
  omega

theorem wordOfBytes_bytesOfWord (value : Nat) :
    wordOfBytes (UInt8.ofNat value) (UInt8.ofNat (value / 256)) (UInt8.ofNat (value / 65536))
      (UInt8.ofNat (value / 16777216)) = value % 2 ^ 32 := by
  simp only [wordOfBytes, UInt8.toNat_ofNat']
  omega

def writeByte (memory : ByteMemory) (address : Nat) (value : UInt8) : ByteMemory :=
  fun place => if place = address then value else memory place

def readWord (memory : ByteMemory) (address : Nat) : Nat :=
  wordOfBytes (memory address) (memory (address + 1)) (memory (address + 2)) (memory (address + 3))

def writeWord (memory : ByteMemory) (address value : Nat) : ByteMemory :=
  fun place =>
    if place = address then UInt8.ofNat value
    else if place = address + 1 then UInt8.ofNat (value / 256)
    else if place = address + 2 then UInt8.ofNat (value / 65536)
    else if place = address + 3 then UInt8.ofNat (value / 16777216)
    else memory place

theorem readWord_lt (memory : ByteMemory) (address : Nat) : memory.readWord address < 2 ^ 32 :=
  wordOfBytes_lt _ _ _ _

@[simp] theorem writeByte_same (memory : ByteMemory) (address : Nat) (value : UInt8) :
    memory.writeByte address value address = value := by
  simp only [writeByte, if_true]

theorem writeByte_of_ne (memory : ByteMemory) {address place : Nat} (value : UInt8)
    (different : place ≠ address) : memory.writeByte address value place = memory place := by
  simp only [writeByte, if_neg different]

theorem readWord_writeByte_of_disjoint (memory : ByteMemory) {address place : Nat} (value : UInt8)
    (disjoint : address < place ∨ place + 4 ≤ address) :
    (memory.writeByte address value).readWord place = memory.readWord place := by
  unfold readWord
  rw [writeByte_of_ne memory value (by omega), writeByte_of_ne memory value (by omega),
    writeByte_of_ne memory value (by omega), writeByte_of_ne memory value (by omega)]

theorem writeWord_of_disjoint (memory : ByteMemory) {address place : Nat} (value : Nat)
    (disjoint : place < address ∨ address + 4 ≤ place) :
    memory.writeWord address value place = memory place := by
  unfold writeWord
  rw [if_neg (by omega), if_neg (by omega), if_neg (by omega), if_neg (by omega)]

/-- A word read back is the word written, cut to 32 bits. -/
theorem readWord_writeWord_same (memory : ByteMemory) (address value : Nat) :
    (memory.writeWord address value).readWord address = value % 2 ^ 32 := by
  have bytes := wordOfBytes_bytesOfWord value
  simpa [readWord, writeWord] using bytes

theorem readWord_writeWord_of_disjoint (memory : ByteMemory) {address place : Nat} (value : Nat)
    (disjoint : address + 4 ≤ place ∨ place + 4 ≤ address) :
    (memory.writeWord address value).readWord place = memory.readWord place := by
  unfold readWord
  rw [writeWord_of_disjoint memory value (by omega), writeWord_of_disjoint memory value (by omega),
    writeWord_of_disjoint memory value (by omega), writeWord_of_disjoint memory value (by omega)]

/-- Clearing a byte leaves a zero word zero, wherever the byte lies. -/
theorem readWord_writeByte_zero (memory : ByteMemory) (address place : Nat)
    (zero : memory.readWord place = 0) :
    (memory.writeByte address 0).readWord place = 0 := by
  have cleared : forall cell, (memory.writeByte address 0 cell).toNat ≤ (memory cell).toNat := by
    intro cell
    by_cases same : cell = address
    · subst cell
      simp only [writeByte_same, UInt8.toNat_zero, Nat.zero_le]
    · exact Nat.le_of_eq (congrArg UInt8.toNat (writeByte_of_ne memory 0 same))
  have c0 := cleared place
  have c1 := cleared (place + 1)
  have c2 := cleared (place + 2)
  have c3 := cleared (place + 3)
  unfold readWord wordOfBytes at zero ⊢
  omega

/-! ## Blocks of bytes -/

def writeBytes (memory : ByteMemory) (address : Nat) (bytes : List UInt8) : ByteMemory :=
  fun place =>
    if address ≤ place ∧ place < address + bytes.length then bytes.getD (place - address) 0
    else memory place

def readBytes (memory : ByteMemory) (address count : Nat) : List UInt8 :=
  (List.range count).map (fun i => memory (address + i))

@[simp] theorem readBytes_length (memory : ByteMemory) (address count : Nat) :
    (memory.readBytes address count).length = count := by
  simp only [readBytes, List.length_map, List.length_range]

theorem readBytes_add (memory : ByteMemory) (address first second : Nat) :
    memory.readBytes address (first + second) =
      memory.readBytes address first ++ memory.readBytes (address + first) second := by
  simp only [readBytes, List.range_add, List.map_append, List.map_map, Nat.add_assoc,
    Function.comp_def]

/-- Two memories that agree on a block read the same there. -/
theorem readBytes_congr {first second : ByteMemory} {address count : Nat}
    (agree : forall i, i < count -> first (address + i) = second (address + i)) :
    first.readBytes address count = second.readBytes address count :=
  List.map_congr_left (fun i member => agree i (List.mem_range.mp member))

theorem writeBytes_inside (memory : ByteMemory) (address : Nat) (bytes : List UInt8) (i : Nat)
    (inside : i < bytes.length) : memory.writeBytes address bytes (address + i) = bytes[i] := by
  have range : address ≤ address + i ∧ address + i < address + bytes.length := by omega
  rw [writeBytes, if_pos range, Nat.add_sub_cancel_left, ← List.getElem_eq_getD]

theorem writeBytes_outside (memory : ByteMemory) {address place : Nat} (bytes : List UInt8)
    (outside : place < address ∨ address + bytes.length ≤ place) :
    memory.writeBytes address bytes place = memory place := by
  rw [writeBytes, if_neg (by omega)]

/-- Two blocks that follow each other are one block. -/
theorem writeBytes_append (memory : ByteMemory) (address : Nat) (first second : List UInt8) :
    (memory.writeBytes address first).writeBytes (address + first.length) second =
      memory.writeBytes address (first ++ second) := by
  funext place
  by_cases behind : address + first.length ≤ place
  · rcases Nat.exists_eq_add_of_le behind with ⟨i, rfl⟩
    by_cases small : i < second.length
    · have within : first.length + i < (first ++ second).length := by
        rw [List.length_append]
        omega
      have whole := memory.writeBytes_inside address (first ++ second) (first.length + i) within
      rw [← Nat.add_assoc, List.getElem_append_right (Nat.le_add_right _ _)] at whole
      simp only [Nat.add_sub_cancel_left] at whole
      rw [writeBytes_inside _ _ second i small, whole]
    · have outside : address + (first ++ second).length ≤ address + first.length + i := by
        rw [List.length_append]
        omega
      rw [writeBytes_outside _ second (by omega), writeBytes_outside _ first (by omega),
        writeBytes_outside _ (first ++ second) (Or.inr outside)]
  · rw [writeBytes_outside _ second (by omega)]
    by_cases before : place < address
    · rw [writeBytes_outside _ _ (Or.inl before), writeBytes_outside _ _ (Or.inl before)]
    · rcases Nat.exists_eq_add_of_le (Nat.not_lt.mp before) with ⟨i, rfl⟩
      have small : i < first.length := by omega
      have within : i < (first ++ second).length := by
        rw [List.length_append]
        omega
      rw [writeBytes_inside _ _ first i small, writeBytes_inside _ _ (first ++ second) i within,
        List.getElem_append_left small]

/-- A block read back is the block written. -/
theorem readBytes_writeBytes_same (memory : ByteMemory) (address : Nat) (bytes : List UInt8) :
    (memory.writeBytes address bytes).readBytes address bytes.length = bytes := by
  apply List.ext_getElem
  · rw [readBytes_length]
  · intro i _ inside
    simp only [readBytes, List.getElem_map, List.getElem_range]
    exact writeBytes_inside memory address bytes i inside

theorem readBytes_writeBytes_of_disjoint (memory : ByteMemory) {address place count : Nat}
    (bytes : List UInt8)
    (disjoint : place + count ≤ address ∨ address + bytes.length ≤ place) :
    (memory.writeBytes address bytes).readBytes place count = memory.readBytes place count := by
  apply readBytes_congr
  intro i inside
  exact writeBytes_outside memory bytes (by omega)

/-- Equal blocks agree byte by byte. -/
theorem readBytes_inj {first second : ByteMemory} {address count i : Nat}
    (same : first.readBytes address count = second.readBytes address count) (small : i < count) :
    first (address + i) = second (address + i) :=
  List.map_inj_left.mp same i (List.mem_range.mpr small)

/-- Writing the first bytes of a block once more changes nothing. -/
theorem writeBytes_take (memory : ByteMemory) (address count : Nat) (bytes : List UInt8) :
    (memory.writeBytes address bytes).writeBytes address (bytes.take count) =
      memory.writeBytes address bytes := by
  funext place
  by_cases inside : address ≤ place ∧ place < address + (bytes.take count).length
  · have shorter := List.length_take_le' count bytes
    have whole : address ≤ place ∧ place < address + bytes.length :=
      ⟨inside.1, Nat.lt_of_lt_of_le inside.2 (Nat.add_le_add_left shorter address)⟩
    have small : place - address < (bytes.take count).length := by omega
    rw [writeBytes, if_pos inside, writeBytes, if_pos whole, ← List.getElem_eq_getD,
      ← List.getElem_eq_getD, List.getElem_take]
    exact small
  · rw [writeBytes, if_neg inside]

/-- A part of a block that was written is read as that part of its bytes. -/
theorem readBytes_written (memory : ByteMemory) {bytes : List UInt8} {place count : Nat}
    (inside : place + count ≤ bytes.length) :
    (memory.writeBytes 0 bytes).readBytes place count = (bytes.drop place).take count := by
  have length : count = ((bytes.drop place).take count).length := by
    rw [List.length_take, List.length_drop]
    omega
  apply List.ext_getElem
  · rwa [readBytes_length]
  · intro i small _
    rw [readBytes_length] at small
    have here := memory.writeBytes_inside 0 bytes (place + i) (by omega)
    rw [Nat.zero_add] at here
    simp only [readBytes, List.getElem_map, List.getElem_range, List.getElem_take,
      List.getElem_drop, here]

/-- A block whose later bytes are already in place leaves these as they are. -/
theorem writeBytes_of_present (memory : ByteMemory) {address skip count place : Nat}
    {bytes : List UInt8}
    (present : bytes.drop skip <+: memory.readBytes (address + skip) count)
    (behind : address + skip ≤ place) : memory.writeBytes address bytes place = memory place := by
  rcases Nat.exists_eq_add_of_le behind with ⟨i, rfl⟩
  by_cases inside : skip + i < bytes.length
  · have small : i < (bytes.drop skip).length := by
      rw [List.length_drop]
      omega
    have copied := memory.writeBytes_inside address bytes (skip + i) inside
    have same := present.getElem small
    rw [List.getElem_drop] at same
    simp only [readBytes, List.getElem_map, List.getElem_range] at same
    rw [Nat.add_assoc, copied, same, Nat.add_assoc]
  · exact writeBytes_outside memory bytes (by omega)

/-! ## Four-byte integers -/

def readInt (memory : ByteMemory) (address : Nat) : BitVec 32 :=
  BitVec.ofNat 32 (memory.readWord address)

def writeInt (memory : ByteMemory) (address : Nat) (value : BitVec 32) : ByteMemory :=
  memory.writeWord address value.toNat

theorem readInt_writeInt_same (memory : ByteMemory) (address : Nat) (value : BitVec 32) :
    (memory.writeInt address value).readInt address = value := by
  rw [readInt, writeInt, readWord_writeWord_same, Nat.mod_eq_of_lt value.isLt, BitVec.ofNat_toNat,
    BitVec.setWidth_eq]

theorem readInt_writeInt_of_disjoint (memory : ByteMemory) {address place : Nat}
    (value : BitVec 32) (disjoint : address + 4 ≤ place ∨ place + 4 ≤ address) :
    (memory.writeInt address value).readInt place = memory.readInt place := by
  rw [readInt, writeInt, readWord_writeWord_of_disjoint memory value.toNat disjoint, readInt]

theorem writeInt_of_disjoint (memory : ByteMemory) {address place : Nat} (value : BitVec 32)
    (disjoint : place < address ∨ address + 4 ≤ place) :
    memory.writeInt address value place = memory place :=
  writeWord_of_disjoint memory value.toNat disjoint

theorem readInt_toNat (memory : ByteMemory) (address : Nat) :
    (memory.readInt address).toNat = memory.readWord address := by
  rw [readInt, BitVec.toNat_ofNat, Nat.mod_eq_of_lt (readWord_lt memory address)]

/-- Two memories that agree on four bytes hold the same word there. -/
theorem readWord_congr {first second : ByteMemory} {address : Nat}
    (agree : forall i, i < 4 -> first (address + i) = second (address + i)) :
    first.readWord address = second.readWord address := by
  have a0 := agree 0 (by decide)
  have a1 := agree 1 (by decide)
  have a2 := agree 2 (by decide)
  have a3 := agree 3 (by decide)
  rw [Nat.add_zero] at a0
  rw [readWord, readWord, a0, a1, a2, a3]

theorem bytesOfWord_wordOfBytes (b0 b1 b2 b3 : UInt8) :
    bytesOfWord (wordOfBytes b0 b1 b2 b3) = [b0, b1, b2, b3] := by
  have h0 := b0.toNat_lt
  have h1 := b1.toNat_lt
  have h2 := b2.toNat_lt
  have h3 := b3.toNat_lt
  simp only [bytesOfWord, wordOfBytes, List.cons.injEq, and_true, ← UInt8.toNat_inj,
    UInt8.toNat_ofNat']
  omega

/-- The four bytes of an integer are the bytes of its value. -/
theorem readBytes_int (memory : ByteMemory) (address : Nat) :
    memory.readBytes address 4 = bytesOfWord (memory.readInt address).toNat := by
  rw [readInt_toNat, readWord, bytesOfWord_wordOfBytes]
  rfl

theorem readInt_congr {first second : ByteMemory} {address : Nat}
    (agree : forall i, i < 4 -> first (address + i) = second (address + i)) :
    first.readInt address = second.readInt address := by
  rw [readInt, readInt, readWord_congr agree]

/-! ## Eight-byte integers -/

def readLong (memory : ByteMemory) (address : Nat) : Nat :=
  memory.readWord address + 2 ^ 32 * memory.readWord (address + 4)

def writeLong (memory : ByteMemory) (address value : Nat) : ByteMemory :=
  (memory.writeWord address value).writeWord (address + 4) (value / 2 ^ 32)

/-- An eight-byte integer read back is the one written, cut to 64 bits. -/
theorem readLong_writeLong_same (memory : ByteMemory) (address value : Nat) :
    (memory.writeLong address value).readLong address = value % 2 ^ 64 := by
  rw [readLong, writeLong, readWord_writeWord_same,
    readWord_writeWord_of_disjoint _ _ (Or.inr (Nat.le_refl _)), readWord_writeWord_same]
  omega

theorem writeLong_of_disjoint (memory : ByteMemory) {address place : Nat} (value : Nat)
    (disjoint : place < address ∨ address + 8 ≤ place) :
    memory.writeLong address value place = memory place := by
  rw [writeLong, writeWord_of_disjoint _ _ (by omega), writeWord_of_disjoint _ _ (by omega)]

theorem readLong_congr {first second : ByteMemory} {address : Nat}
    (agree : forall i, i < 8 -> first (address + i) = second (address + i)) :
    first.readLong address = second.readLong address := by
  have low : first.readWord address = second.readWord address :=
    readWord_congr (fun i small => agree i (Nat.lt_trans small (by decide)))
  have high : first.readWord (address + 4) = second.readWord (address + 4) := by
    refine readWord_congr (fun i small => ?_)
    rw [Nat.add_assoc]
    exact agree (4 + i) (Nat.add_lt_add_left small 4)
  rw [readLong, readLong, low, high]

/-- The first four bytes of a small eight-byte integer hold it already. -/
theorem readWord_of_readLong {memory : ByteMemory} {address : Nat}
    (small : memory.readLong address < 2 ^ 32) :
    memory.readWord address = memory.readLong address := by
  unfold readLong at small ⊢
  omega

/-! ## Blocks carried from one memory to another -/

/-- A block that is read in one memory and written in another is found there. -/
theorem carried (source target : ByteMemory) (count : Nat) {place : Nat} (inside : place < count) :
    target.writeBytes 0 (source.readBytes 0 count) place = source place := by
  have within : place < (source.readBytes 0 count).length := by rwa [readBytes_length]
  have here := writeBytes_inside target 0 (source.readBytes 0 count) place within
  rw [Nat.zero_add] at here
  rw [here]
  simp only [readBytes, List.getElem_map, List.getElem_range, Nat.zero_add]

theorem readInt_carried (source target : ByteMemory) (count : Nat) {place : Nat}
    (inside : place + 4 ≤ count) :
    (target.writeBytes 0 (source.readBytes 0 count)).readInt place = source.readInt place :=
  readInt_congr (fun _ small =>
    carried source target count (Nat.lt_of_lt_of_le (Nat.add_lt_add_left small place) inside))

theorem readLong_carried (source target : ByteMemory) (count : Nat) {place : Nat}
    (inside : place + 8 ≤ count) :
    (target.writeBytes 0 (source.readBytes 0 count)).readLong place = source.readLong place :=
  readLong_congr (fun _ small =>
    carried source target count (Nat.lt_of_lt_of_le (Nat.add_lt_add_left small place) inside))

theorem readBytes_carried (source target : ByteMemory) (count : Nat) {place length : Nat}
    (inside : place + length ≤ count) :
    (target.writeBytes 0 (source.readBytes 0 count)).readBytes place length =
      source.readBytes place length :=
  readBytes_congr (fun _ small =>
    carried source target count (Nat.lt_of_lt_of_le (Nat.add_lt_add_left small place) inside))

theorem readInt_writeBytes_of_disjoint (memory : ByteMemory) {address place : Nat}
    (bytes : List UInt8)
    (disjoint : place + 4 ≤ address ∨ address + bytes.length ≤ place) :
    (memory.writeBytes address bytes).readInt place = memory.readInt place :=
  readInt_congr (fun _ _ => writeBytes_outside memory bytes (by omega))

theorem readBytes_writeInt_of_disjoint (memory : ByteMemory) {address place count : Nat}
    (value : BitVec 32) (disjoint : place + count ≤ address ∨ address + 4 ≤ place) :
    (memory.writeInt address value).readBytes place count = memory.readBytes place count :=
  readBytes_congr (fun _ _ => writeInt_of_disjoint memory value (by omega))

/-- The first bytes of a block. -/
theorem readBytes_take (memory : ByteMemory) (address : Nat) {first count : Nat}
    (within : first ≤ count) :
    (memory.readBytes address count).take first = memory.readBytes address first := by
  have split : count = first + (count - first) := (Nat.add_sub_cancel' within).symm
  rw [split, readBytes_add]
  exact List.take_left' (readBytes_length memory address first)

/-! ## Memories that agree outside what is written -/

theorem writeBytes_agree {first second : ByteMemory} {address place : Nat} (bytes : List UInt8)
    (agree : place < address ∨ address + bytes.length ≤ place -> first place = second place) :
    first.writeBytes address bytes place = second.writeBytes address bytes place := by
  by_cases inside : address ≤ place ∧ place < address + bytes.length
  · rw [writeBytes, writeBytes, if_pos inside, if_pos inside]
  · rw [writeBytes, writeBytes, if_neg inside, if_neg inside]
    exact agree (by omega)

theorem writeInt_agree {first second : ByteMemory} {address place : Nat} (value : BitVec 32)
    (agree : place < address ∨ address + 4 ≤ place -> first place = second place) :
    first.writeInt address value place = second.writeInt address value place := by
  by_cases outside : place < address ∨ address + 4 ≤ place
  · rw [writeInt_of_disjoint first value outside, writeInt_of_disjoint second value outside]
    exact agree outside
  · have inside : place = address ∨ place = address + 1 ∨ place = address + 2 ∨
        place = address + 3 := by omega
    rcases inside with rfl | rfl | rfl | rfl <;> simp [writeInt, writeWord]

/-! ## Strings -/

/-- The bytes before the first NUL, at most `limit`. -/
def cString (memory : ByteMemory) (address : Nat) : Nat -> List UInt8
  | 0 => []
  | limit + 1 =>
      if memory address = 0 then [] else memory address :: memory.cString (address + 1) limit

/-- A string that is stored with its NUL is read back. -/
theorem cString_eq {memory : ByteMemory} {address limit : Nat} {name : List UInt8}
    (stored : memory.readBytes address (name.length + 1) = name ++ [0])
    (noNul : 0 ∉ name) (fits : name.length < limit) :
    memory.cString address limit = name := by
  induction name generalizing address limit with
  | nil =>
      have nul : memory address = 0 := by
        simpa only [readBytes, List.length_nil, Nat.zero_add, List.range_one, List.map_cons,
          Nat.add_zero, List.map_nil, List.nil_append, List.cons.injEq, and_true] using stored
      cases limit with
      | zero => rfl
      | succ limit => rw [cString, if_pos nul]
  | cons character rest inductionHypothesis =>
      rw [List.length_cons, Nat.add_comm (rest.length + 1) 1, readBytes_add] at stored
      have parts := List.cons.inj (stored : memory (address + 0) :: _ = _)
      have first : memory address = character := parts.1
      have later : memory.readBytes (address + 1) (rest.length + 1) = rest ++ [0] := parts.2
      cases limit with
      | zero => exact absurd fits (Nat.not_lt_zero _)
      | succ limit =>
          have notNul : character ≠ 0 := fun nul => noNul (nul ▸ List.mem_cons_self)
          rw [cString, first, if_neg notNul,
            inductionHypothesis later (fun member => noNul (List.mem_cons_of_mem _ member))
              (Nat.lt_of_succ_lt_succ fits)]

/-- A string with its NUL covers its first bytes that are not NUL, and the next one. -/
theorem readBytes_prefix_cString {memory : ByteMemory} {address length limit : Nat}
    (noNul : forall i, i < length -> memory (address + i) ≠ 0) (fits : length < limit) :
    memory.readBytes address (length + 1) <+: memory.cString address limit ++ [0] := by
  induction length generalizing address limit with
  | zero =>
      cases limit with
      | zero => exact absurd fits (Nat.not_lt_zero 0)
      | succ limit =>
          show [memory (address + 0)] <+: memory.cString address (limit + 1) ++ [0]
          rw [Nat.add_zero, cString]
          split
          · rename_i nul
            rw [nul]
            exact List.prefix_rfl
          · exact List.prefix_append [memory address] _
  | succ length inductionHypothesis =>
      cases limit with
      | zero => exact absurd fits (Nat.not_lt_zero _)
      | succ limit =>
          have notNul := noNul 0 (Nat.zero_lt_succ length)
          rw [Nat.add_zero] at notNul
          have later := @inductionHypothesis (address + 1) limit
            (fun i small => by
              have next := noNul (i + 1) (Nat.succ_lt_succ small)
              rwa [Nat.add_comm i 1, ← Nat.add_assoc] at next)
            (Nat.lt_of_succ_lt_succ fits)
          rw [Nat.add_comm (length + 1) 1, readBytes_add, cString, if_neg notNul]
          show memory (address + 0) :: memory.readBytes (address + 1) (length + 1) <+: _
          rw [Nat.add_zero]
          exact (List.prefix_cons_inj _).mpr later

/-- A string depends only on the bytes up to its NUL. -/
theorem cString_congr {first second : ByteMemory} {address length : Nat} (limit : Nat)
    (agree : forall i, i ≤ length -> first (address + i) = second (address + i))
    (nul : first (address + length) = 0) :
    first.cString address limit = second.cString address limit := by
  induction limit generalizing address length with
  | zero => rfl
  | succ limit inductionHypothesis =>
      have here := agree 0 (Nat.zero_le length)
      rw [Nat.add_zero] at here
      rw [cString, cString, ← here]
      split
      next => rfl
      next notNul =>
        cases length with
        | zero => exact absurd nul notNul
        | succ length =>
            refine congrArg _ (@inductionHypothesis (address + 1) length ?_ ?_)
            · intro i small
              have later := agree (i + 1) (Nat.succ_le_succ small)
              rwa [Nat.add_comm i 1, ← Nat.add_assoc] at later
            · rwa [Nat.add_comm length 1, ← Nat.add_assoc] at nul

/-- Where one string ends and the other goes on, they differ. -/
theorem cString_ne {first second : ByteMemory} {address length limit : Nat}
    (agree : forall i, i < length -> first (address + i) = second (address + i))
    (noNul : forall i, i < length -> first (address + i) ≠ 0)
    (ends : first (address + length) = 0) (goesOn : second (address + length) ≠ 0)
    (fits : length < limit) : first.cString address limit ≠ second.cString address limit := by
  induction length generalizing address limit with
  | zero =>
      cases limit with
      | zero => exact absurd fits (Nat.not_lt_zero 0)
      | succ limit =>
          rw [Nat.add_zero] at ends goesOn
          rw [cString, cString, if_pos ends, if_neg goesOn]
          exact (List.cons_ne_nil _ _).symm
  | succ length inductionHypothesis =>
      cases limit with
      | zero => exact absurd fits (Nat.not_lt_zero _)
      | succ limit =>
          have shift : forall i, address + 1 + i = address + (i + 1) := fun i => by
            rw [Nat.add_assoc, Nat.add_comm 1 i]
          have here := agree 0 (Nat.zero_lt_succ length)
          have notNul := noNul 0 (Nat.zero_lt_succ length)
          rw [Nat.add_zero] at here notNul
          rw [cString, cString, if_neg notNul, if_neg (here ▸ notNul)]
          intro same
          refine @inductionHypothesis (address + 1) limit ?_ ?_ ?_ ?_
            (Nat.lt_of_succ_lt_succ fits) (List.cons.inj same).2
          · intro i small
            rw [shift]
            exact agree (i + 1) (Nat.succ_lt_succ small)
          · intro i small
            rw [shift]
            exact noNul (i + 1) (Nat.succ_lt_succ small)
          · rwa [shift]
          · rwa [shift]

end ByteMemory
end OpenAmpReference
