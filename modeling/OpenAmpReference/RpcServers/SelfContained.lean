import OpenAmpReference.RpcServers.SysRpc

namespace OpenAmpReference
namespace RpcServers

/-!
# Messages that hold their whole request

A message is self-contained when every byte that its handler reads lies in it.
Over a message of this kind it does not matter what the buffer held; over any
other message the bytes behind it decide what is asked for.
-/

/-- The message in a buffer that was cleared before. -/
def plain (message : List UInt8) : ByteMemory :=
  ByteMemory.writeBytes (fun _ => 0) 0 message

/-- The bytes that a handler reads lie in the message: all of a file name with its
NUL, all of the data to write, and the fields; the size of a read is not used
for the standard input.  No handler reads a request to terminate or an invalid
one. -/
def HoldsRequest (message : List UInt8) : Option SyscallId -> Prop
  | some .openSyscallId => 0 ∈ message.drop headerSize
  | some .closeSyscallId => 8 ≤ message.length
  | some .readSyscallId =>
      8 ≤ message.length ∧ (intField1 (plain message) = 0 ∨ 12 ≤ message.length)
  | some .writeSyscallId =>
      12 ≤ message.length ∧
        ((intField2 (plain message)).toInt ≤ 0 ∨
          headerSize + (intField2 (plain message)).toNat ≤ message.length)
  | some .termSyscallId | none => True

instance (message : List UInt8) : DecidablePred (HoldsRequest message) := fun id =>
  match id with
  | some .openSyscallId => inferInstanceAs (Decidable (0 ∈ message.drop headerSize))
  | some .closeSyscallId => inferInstanceAs (Decidable (8 ≤ message.length))
  | some .readSyscallId =>
      inferInstanceAs (Decidable (8 ≤ message.length ∧
        (intField1 (plain message) = 0 ∨ 12 ≤ message.length)))
  | some .writeSyscallId =>
      inferInstanceAs (Decidable (12 ≤ message.length ∧
        ((intField2 (plain message)).toInt ≤ 0 ∨
          headerSize + (intField2 (plain message)).toNat ≤ message.length)))
  | some .termSyscallId | none => isTrue trivial

/-- The message holds the request that it makes. -/
def SelfContained (message : List UInt8) : Prop :=
  HoldsRequest message (SyscallId.ofNumber (sysId (plain message)))

instance : DecidablePred SelfContained := fun message =>
  inferInstanceAs (Decidable (HoldsRequest message (SyscallId.ofNumber (sysId (plain message)))))

section Bytes

variable {message : List UInt8} (memory : ByteMemory) {place : Nat}

theorem plain_inside (inside : place < message.length) :
    memory.writeBytes 0 message place = plain message place :=
  ByteMemory.writeBytes_agree message (fun outside => by omega)

theorem plain_outside (outside : message.length ≤ place) : plain message place = 0 :=
  ByteMemory.writeBytes_outside _ message (Or.inr (by omega))

theorem plain_getElem (inside : place < message.length) : plain message place = message[place] := by
  have here := ByteMemory.writeBytes_inside (fun _ => 0) 0 message place inside
  rwa [Nat.zero_add] at here

theorem plain_readInt (inside : place + 4 ≤ message.length) :
    (memory.writeBytes 0 message).readInt place = (plain message).readInt place :=
  ByteMemory.readInt_congr (fun _ small => plain_inside memory (by omega))

/-- A buffer with zeros behind the message is as good as a cleared one. -/
theorem writeBytes_eq_plain (zeros : forall place, message.length ≤ place -> memory place = 0) :
    memory.writeBytes 0 message = plain message := by
  funext place
  exact ByteMemory.writeBytes_agree message (fun outside => zeros place (by omega))

end Bytes

/-! ## The bytes behind a self-contained message do not matter -/

/-- An id that is known in some buffer is known in a cleared one: its last three
bytes are zero. -/
theorem ofNumber_plain {message : List UInt8} (nonempty : 0 < message.length) (memory : ByteMemory)
    {id : SyscallId}
    (known : SyscallId.ofNumber (sysId (memory.writeBytes 0 message)) = some id) :
    SyscallId.ofNumber (sysId (plain message)) = some id := by
  have small : (memory.writeBytes 0 message).readWord 0 < 256 := by
    have number : (memory.writeBytes 0 message).readInt 0 = id.number :=
      SyscallId.ofNumber_eq_some known
    rw [← ByteMemory.readInt_toNat, number]
    exact id.number_toNat_lt
  have zero : forall i, i < 4 -> 1 ≤ i -> memory.writeBytes 0 message i = 0 := by
    intro i below above
    apply UInt8.toNat_inj.mp
    rw [ByteMemory.readWord, ByteMemory.wordOfBytes] at small
    simp only [Nat.zero_add] at small
    have cases_ : i = 1 ∨ i = 2 ∨ i = 3 := by omega
    rcases cases_ with rfl | rfl | rfl <;> rw [UInt8.toNat_zero] <;> omega
  have same : sysId (memory.writeBytes 0 message) = sysId (plain message) := by
    refine ByteMemory.readInt_congr (fun i below => ?_)
    rw [Nat.zero_add]
    by_cases inside : i < message.length
    · exact plain_inside memory inside
    · rw [plain_outside (Nat.le_of_not_lt inside)]
      exact zero i below (by omega)
  rwa [← same]

theorem callOf_congr {readCount : BitVec 32 -> BitVec 32 -> Nat} {message : List UInt8}
    (nonempty : 0 < message.length) (selfContained : SelfContained message)
    (sized : 12 ≤ message.length ∨ forall first second, readCount 0 first = readCount 0 second)
    (memory : ByteMemory) :
    callOf readCount (memory.writeBytes 0 message) = callOf readCount (plain message) := by
  have sameId : 4 ≤ message.length ->
      SyscallId.ofNumber (sysId (memory.writeBytes 0 message)) =
        SyscallId.ofNumber (sysId (plain message)) :=
    fun long => congrArg SyscallId.ofNumber (plain_readInt memory long)
  have sameField1 : 8 ≤ message.length ->
      intField1 (memory.writeBytes 0 message) = intField1 (plain message) :=
    fun long => plain_readInt memory long
  have sameField2 : 12 ≤ message.length ->
      intField2 (memory.writeBytes 0 message) = intField2 (plain message) :=
    fun long => plain_readInt memory long
  rw [SelfContained] at selfContained
  cases known : SyscallId.ofNumber (sysId (plain message)) with
  | none =>
      have unknown : SyscallId.ofNumber (sysId (memory.writeBytes 0 message)) = none := by
        cases other : SyscallId.ofNumber (sysId (memory.writeBytes 0 message)) with
        | none => rfl
        | some id => cases known.symm.trans (ofNumber_plain nonempty memory other)
      simp only [callOf, known, unknown]
  | some id =>
      rw [known] at selfContained
      cases id with
      | openSyscallId =>
          rcases List.mem_iff_getElem.mp selfContained with ⟨length, inside, nul⟩
          rw [List.length_drop] at inside
          rw [List.getElem_drop] at nul
          have long : headerSize + length < message.length := by omega
          have atLeast : 16 ≤ message.length := Nat.le_trans (Nat.le_add_right 16 length) long.le
          have name : (memory.writeBytes 0 message).cString headerSize pathMax =
              (plain message).cString headerSize pathMax :=
            (ByteMemory.cString_congr pathMax
              (fun i within => (plain_inside memory (by omega)).symm)
              ((plain_getElem long).trans nul)).symm
          simp only [callOf, sameId (by omega), known, name, sameField1 (by omega),
            sameField2 (by omega)]
      | closeSyscallId =>
          have long : 8 ≤ message.length := selfContained
          simp only [callOf, sameId (by omega), known, sameField1 long]
      | readSyscallId =>
          rcases selfContained with ⟨long, size⟩
          have count : readCount (intField1 (plain message))
                (intField2 (memory.writeBytes 0 message)) =
              readCount (intField1 (plain message)) (intField2 (plain message)) := by
            by_cases whole : 12 ≤ message.length
            · rw [sameField2 whole]
            · rw [size.resolve_right whole]
              exact sized.resolve_left whole _ _
          simp only [callOf, sameId (by omega), known, sameField1 long, count]
      | writeSyscallId =>
          rcases selfContained with ⟨long, data⟩
          have call : writeCall (memory.writeBytes 0 message) = writeCall (plain message) := by
            rw [writeCall, writeCall, sameField1 (by omega), sameField2 long]
            split
            next => rfl
            next nonneg =>
              refine congrArg (SysCall.writeFile _) (ByteMemory.readBytes_congr (fun i small => ?_))
              rcases data with nothing | within
              · have zero : intField2 (plain message) = 0#32 :=
                  BitVec.eq_of_toInt_eq (by rw [BitVec.toInt_zero]; omega)
                rw [zero] at small
                exact absurd small (Nat.not_lt_zero i)
              · exact plain_inside memory (by omega)
          simp only [callOf, sameId (by omega), known, call]
      | termSyscallId =>
          cases other : SyscallId.ofNumber (sysId (memory.writeBytes 0 message)) with
          | none => simp only [callOf, known, other]
          | some id =>
              cases known.symm.trans (ofNumber_plain nonempty memory other)
              simp only [callOf, known, other]

/-! ## The bytes behind any other message decide -/

section Differs

variable {message : List UInt8} {memory : ByteMemory}

/-- An integer that is not wholly in the message has its last byte from behind
it. -/
theorem readInt_ne (ones : forall place, message.length ≤ place -> memory place = 1) {address : Nat}
    (short : message.length < address + 4) :
    (memory.writeBytes 0 message).readInt address ≠ (plain message).readInt address := by
  intro same
  have words := congrArg BitVec.toNat same
  have one : memory.writeBytes 0 message (address + 3) = 1 := by
    rw [ByteMemory.writeBytes_outside memory message (Or.inr (by omega)), ones _ (by omega)]
  have zero : plain message (address + 3) = 0 := plain_outside (by omega)
  have b0 := (plain message address).toNat_lt
  have b1 := (plain message (address + 1)).toNat_lt
  have b2 := (plain message (address + 2)).toNat_lt
  rw [ByteMemory.readInt_toNat, ByteMemory.readInt_toNat, ByteMemory.readWord, ByteMemory.readWord,
    one, zero, ByteMemory.wordOfBytes, ByteMemory.wordOfBytes, UInt8.toNat_one,
    UInt8.toNat_zero] at words
  omega

/-- An id that is not wholly in the message is unknown over a byte other than
zero. -/
theorem ofNumber_ones (ones : forall place, message.length ≤ place -> memory place = 1)
    (short : message.length < 4) :
    SyscallId.ofNumber (sysId (memory.writeBytes 0 message)) = none := by
  cases known : SyscallId.ofNumber (sysId (memory.writeBytes 0 message)) with
  | none => rfl
  | some id =>
      have number : (memory.writeBytes 0 message).readInt 0 = id.number :=
        SyscallId.ofNumber_eq_some known
      have small := id.number_toNat_lt
      have one : memory.writeBytes 0 message (0 + 3) = 1 := by
        rw [ByteMemory.writeBytes_outside memory message (Or.inr (by omega)), ones _ (by omega)]
      rw [← number, ByteMemory.readInt_toNat, ByteMemory.readWord, one, ByteMemory.wordOfBytes,
        UInt8.toNat_one] at small
      omega

theorem writeCall_inj {first second : ByteMemory} (same : writeCall first = writeCall second) :
    intField1 first = intField1 second ∧ intField2 first = intField2 second ∧
      (0 ≤ (intField2 first).toInt ->
        first.readBytes headerSize (intField2 first).toNat =
          second.readBytes headerSize (intField2 first).toNat) := by
  unfold writeCall at same
  split_ifs at same with firstNegative secondNegative secondNegative
  · have parts := SysCall.writeNegative.inj same
    exact ⟨parts.1, parts.2, fun nonneg => absurd firstNegative (Int.not_lt.mpr nonneg)⟩
  · have parts := SysCall.writeFile.inj same
    have lengths := congrArg List.length parts.2
    rw [ByteMemory.readBytes_length, ByteMemory.readBytes_length] at lengths
    refine ⟨parts.1, BitVec.eq_of_toNat_eq lengths, fun _ => ?_⟩
    rw [parts.2, lengths]

/-- Two buffers that differ behind the message ask for different calls. -/
theorem callOf_ne {readCount : BitVec 32 -> BitVec 32 -> Nat}
    (exact_ : forall fd first second, fd ≠ 0 -> readCount fd first = readCount fd second ->
      first = second)
    (fits : message.length < headerSize + pathMax) (open_ : ¬ SelfContained message)
    (ones : forall place, message.length ≤ place -> memory place = 1) :
    callOf readCount (memory.writeBytes 0 message) ≠ callOf readCount (plain message) := by
  rw [SelfContained] at open_
  cases known : SyscallId.ofNumber (sysId (plain message)) with
  | none => exact absurd (known ▸ trivial) open_
  | some id =>
      rw [known] at open_
      by_cases whole : 4 ≤ message.length
      · have sameId : SyscallId.ofNumber (sysId (memory.writeBytes 0 message)) = some id :=
          (congrArg SyscallId.ofNumber (plain_readInt memory whole)).trans known
        intro same
        have field1 : intField1 (memory.writeBytes 0 message) = intField1 (plain message) ->
            8 ≤ message.length := fun same =>
          Nat.le_of_not_lt (fun short => readInt_ne ones short same)
        have field2 : intField2 (memory.writeBytes 0 message) = intField2 (plain message) ->
            12 ≤ message.length := fun same =>
          Nat.le_of_not_lt (fun short => readInt_ne ones short same)
        cases id with
        | termSyscallId => exact open_ trivial
        | closeSyscallId =>
            simp only [callOf, sameId, known, Option.some.injEq, SysCall.closeFile.injEq] at same
            exact open_ (field1 same)
        | readSyscallId =>
            simp only [callOf, sameId, known, Option.some.injEq, SysCall.readFile.injEq] at same
            rcases same with ⟨fd, count⟩
            refine open_ ⟨field1 fd, ?_⟩
            by_cases standard : intField1 (plain message) = 0
            · exact Or.inl standard
            · rw [fd] at count
              exact Or.inr (field2 (exact_ _ _ _ standard count))
        | writeSyscallId =>
            simp only [callOf, sameId, known, Option.some.injEq] at same
            rcases writeCall_inj same with ⟨_, count, data⟩
            refine open_ ⟨field2 count, ?_⟩
            by_contra beyond
            rw [not_or] at beyond
            rw [count] at data
            have value : 0 < (intField2 (plain message)).toNat := by
              have positive := beyond.1
              rw [BitVec.toInt_eq_toNat_cond] at positive
              split at positive <;> omega
            have last := ByteMemory.readBytes_inj (data (by omega))
              (Nat.sub_lt value Nat.zero_lt_one)
            rw [plain_outside (by omega),
              ByteMemory.writeBytes_outside memory message (Or.inr (by omega)),
              ones _ (by omega)] at last
            exact absurd last (by decide)
        | openSyscallId =>
            simp only [callOf, sameId, known, Option.some.injEq, SysCall.openFile.injEq] at same
            rcases same with ⟨name, _, mode⟩
            have long := field2 mode
            refine @ByteMemory.cString_ne (plain message) (memory.writeBytes 0 message) headerSize
              (message.length - headerSize) pathMax ?_ ?_ ?_ ?_ ?_ name.symm
            · exact fun i inside => (plain_inside memory (by omega)).symm
            · intro i inside nul
              have within : headerSize + i < message.length := by omega
              rw [plain_getElem within] at nul
              refine open_ (List.mem_iff_getElem.mpr ⟨i, ?_, ?_⟩)
              · rw [List.length_drop]
                exact inside
              · rw [List.getElem_drop]
                exact nul
            · exact plain_outside (by omega)
            · rw [ByteMemory.writeBytes_outside memory message (Or.inr (by omega)),
                ones _ (by omega)]
              decide
            · have limits : headerSize < pathMax := by decide
              omega
      · have unknown := ofNumber_ones ones (Nat.lt_of_not_le whole)
        cases id with
        | termSyscallId => exact absurd trivial open_
        | openSyscallId | closeSyscallId | writeSyscallId | readSyscallId =>
            simp only [callOf, unknown, known, ne_eq, reduceCtorEq, not_false_eq_true]

end Differs

end RpcServers
end OpenAmpReference
