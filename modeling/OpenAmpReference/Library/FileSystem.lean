import Mathlib.Data.BitVec
import Mathlib.Tactic.Common

namespace OpenAmpReference

/-!
# File input and output as an environment

A program asks the operating system to open, close, read or write; the answer
and what becomes of the files are arbitrary, but for what the calls promise: a
read returns at most as many bytes as asked for, and a write reports at most
as many as it was given.  Results travel in registers of 64 bits, and a program
that keeps one in an `int` keeps its value.
-/

/-- A system call with its arguments.  A write is given by the bytes it takes; a
write whose count is negative as a signed integer takes none. -/
inductive SysCall
  | openFile (name : List UInt8) (flags mode : BitVec 32)
  | closeFile (fd : BitVec 32)
  | readFile (fd : BitVec 32) (count : Nat)
  | writeFile (fd : BitVec 32) (bytes : List UInt8)
  | writeNegative (fd count : BitVec 32)
  deriving DecidableEq, Repr

/-- The returned value, and the bytes that a read stores. -/
structure Answer where
  value : BitVec 64
  data : List UInt8
  deriving DecidableEq, Repr

/-- An operating system over a state of its own. -/
structure FileSystem (Fs : Type) where
  perform : Fs -> SysCall -> Fs × Answer
  read_answer : forall fs fd count,
    ((perform fs (.readFile fd count)).2.value = -1 ∧
        (perform fs (.readFile fd count)).2.data = []) ∨
      ((perform fs (.readFile fd count)).2.value =
          BitVec.ofNat 64 (perform fs (.readFile fd count)).2.data.length ∧
        (perform fs (.readFile fd count)).2.data.length ≤ count)
  write_answer : forall fs fd bytes,
    (perform fs (.writeFile fd bytes)).2.value = -1 ∨
      Exists fun count => count ≤ bytes.length ∧
        (perform fs (.writeFile fd bytes)).2.value = BitVec.ofNat 64 count

/-- One file, read from its start and written at its end. -/
def FileSystem.queue : FileSystem (List UInt8) where
  perform contents
    | .openFile _ _ _ => (contents, ⟨3, []⟩)
    | .closeFile _ => (contents, ⟨0, []⟩)
    | .readFile _ count =>
        (contents.drop count,
          ⟨BitVec.ofNat 64 (contents.take count).length, contents.take count⟩)
    | .writeFile _ bytes => (contents ++ bytes, ⟨BitVec.ofNat 64 bytes.length, []⟩)
    | .writeNegative _ _ => (contents, ⟨-1, []⟩)
  read_answer := fun _ _ count => Or.inr ⟨rfl, List.length_take_le count _⟩
  write_answer := fun _ _ bytes => Or.inr ⟨bytes.length, Nat.le_refl _, rfl⟩

namespace Answer

/-- The result as an `int`. -/
def int (answer : Answer) : BitVec 32 :=
  answer.value.setWidth 32

theorem toInt_ofNat {width count : Nat} (small : 2 * count < 2 ^ width) :
    (BitVec.ofNat width count).toInt = count := by
  have value : (BitVec.ofNat width count).toNat = count := by
    rw [BitVec.toNat_ofNat, Nat.mod_eq_of_lt (by omega)]
  rw [BitVec.toInt_eq_toNat_of_lt (by rwa [value]), value]

/-- A small count or a minus one keeps its value in an `int`. -/
theorem int_toInt {answer : Answer} {count : Nat} (small : count < 2 ^ 31)
    (result : answer.value = -1 ∨ answer.value = BitVec.ofNat 64 count) :
    answer.int.toInt = answer.value.toInt := by
  rcases result with failed | counted
  · rw [int, failed]
    decide
  · rw [int, counted, BitVec.setWidth_ofNat_of_le (by decide), toInt_ofNat (by omega),
      toInt_ofNat (by omega)]

end Answer
end OpenAmpReference
