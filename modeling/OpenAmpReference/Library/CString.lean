import Mathlib.Data.List.Basic
import Mathlib.Data.List.TakeWhile
import Mathlib.Tactic.Common

namespace OpenAmpReference
namespace CString

/-!
# Strings of C

A string is a list of characters without a NUL, and a buffer a list of
characters which may have one.  The functions of the standard library are
modelled on these: `strncpy()` fills a buffer, `strrchr()` looks for the last
occurrence of a character, and `strtol()` reads a decimal number.  How large a
`long` is depends on the platform; a parameter says what its largest value is.
-/

def nul : Char := Char.ofNat 0

/-- The buffer begins with the text and a NUL behind it. -/
def Holds (buffer text : List Char) : Prop :=
  text ++ [nul] <+: buffer

instance (buffer text : List Char) : Decidable (Holds buffer text) :=
  inferInstanceAs (Decidable (_ <+: _))

/-- The string that a buffer begins with. -/
def read (buffer : List Char) : List Char :=
  buffer.takeWhile fun c => c ≠ nul

/-- A string without a NUL is the one that is read where it is held. -/
theorem read_of_holds {buffer text : List Char} (proper : nul ∉ text)
    (holds : Holds buffer text) : read buffer = text := by
  rcases holds with ⟨rest, rfl⟩
  have plain : forall c, c ∈ text -> decide (c ≠ nul) = true := by
    intro c member
    exact decide_eq_true fun same => proper (same ▸ member)
  rw [read, List.append_assoc, List.takeWhile_append_of_pos plain, List.singleton_append,
    List.takeWhile_cons_of_neg (by simp), List.append_nil]

/-! ## `strncpy()` -/

/-- `strncpy()`: the source, padded with NULs or cut -/
def strncpy (buffer source : List Char) (count : Nat) : List Char :=
  (source ++ List.replicate count nul).take count ++ buffer.drop count

theorem strncpy_holds (buffer : List Char) {source : List Char} {count : Nat}
    (short : source.length < count) : Holds (strncpy buffer source count) source := by
  rcases Nat.exists_eq_add_of_lt short with ⟨more, rfl⟩
  have padded : (source ++ List.replicate (source.length + more + 1) nul).take
      (source.length + more + 1) = source ++ [nul] ++ List.replicate more nul := by
    rw [Nat.add_assoc, List.take_length_add_append, List.take_replicate, List.append_assoc,
      Nat.min_eq_left (Nat.le_add_left _ _), List.replicate_succ, List.singleton_append]
  rw [Holds, strncpy, padded, List.append_assoc]
  exact List.prefix_append _ _

/-- A source that is too long leaves its first characters without a NUL behind them. -/
theorem not_strncpy_holds (buffer : List Char) {source text : List Char} {count : Nat}
    (proper : nul ∉ source) (long : count ≤ source.length) (short : text.length < count) :
    ¬ Holds (strncpy buffer source count) text := by
  intro holds
  have cut : (source ++ List.replicate count nul).take count = source.take count :=
    List.take_append_of_le_length long
  rw [Holds, strncpy, cut] at holds
  have within : text ++ [nul] <+: source.take count := by
    apply List.prefix_of_prefix_length_le holds (List.prefix_append _ _)
    rw [List.length_append, List.length_singleton, List.length_take]
    omega
  have member : nul ∈ source.take count := within.subset (List.mem_append_right _ (by simp))
  exact proper (List.mem_of_mem_take member)

/-- With the last place cleared, what is held is the source, cut if it is too long. -/
theorem strncpy_cut_holds (buffer source : List Char) (count : Nat) :
    Holds ((strncpy buffer source (count + 1)).set count nul) (source.take count) := by
  have filled : (source ++ List.replicate (count + 1) nul).take count =
      source.take count ++ List.replicate (count - source.length) nul := by
    rw [List.take_append, List.take_replicate, Nat.min_eq_left (by omega)]
  have long : count < (strncpy buffer source (count + 1)).length := by
    simp only [strncpy, List.length_append, List.length_take, List.length_replicate]
    omega
  have before : (strncpy buffer source (count + 1)).take count =
      source.take count ++ List.replicate (count - source.length) nul := by
    rw [strncpy, List.take_append_of_le_length, List.take_take, Nat.min_eq_left (Nat.le_succ _),
      filled]
    simp only [List.length_take, List.length_append, List.length_replicate]
    omega
  rw [Holds, List.set_eq_take_append_cons_drop, if_pos long, before, List.append_assoc,
    List.prefix_append_right_inj]
  cases count - source.length with
  | zero => exact List.cons_prefix_cons.mpr ⟨rfl, List.nil_prefix⟩
  | succ more => exact List.cons_prefix_cons.mpr ⟨rfl, List.nil_prefix⟩

/-! ## `strrchr()` -/

/-- What follows the last occurrence of a character, if there is one. -/
def afterLast (mark : Char) : List Char -> Option (List Char)
  | [] => none
  | c :: rest =>
      match afterLast mark rest with
      | some tail => some tail
      | none => if c = mark then some rest else none

theorem afterLast_eq_none {mark : Char} {text : List Char} (absent : mark ∉ text) :
    afterLast mark text = none := by
  induction text with
  | nil => rfl
  | cons c rest inductionHypothesis =>
      rw [List.mem_cons, not_or] at absent
      rw [afterLast, inductionHypothesis absent.2]
      exact if_neg fun same => absent.1 same.symm

/-- The last mark is the one with no other behind it. -/
theorem afterLast_append {mark : Char} (before : List Char) {tail : List Char}
    (last : mark ∉ tail) : afterLast mark (before ++ mark :: tail) = some tail := by
  induction before with
  | nil => rw [List.nil_append, afterLast, afterLast_eq_none last]; exact if_pos rfl
  | cons c rest inductionHypothesis => rw [List.cons_append, afterLast, inductionHypothesis]

/-! ## `strtol()` -/

def isSpace (c : Char) : Bool :=
  c == ' ' || ('\t'.toNat ≤ c.toNat && c.toNat ≤ '\r'.toNat)

/-- The value of a sequence of decimal digits. -/
def decimal (digits : List Char) : Nat :=
  digits.foldl (fun value c => 10 * value + (c.toNat - '0'.toNat)) 0

/-- The text is a decimal number without a sign. -/
def IsDecimal (text : List Char) : Prop :=
  text ≠ [] ∧ forall c, c ∈ text -> c.isDigit = true

instance (text : List Char) : Decidable (IsDecimal text) :=
  inferInstanceAs (Decidable (_ ∧ _))

/-- The smallest value of a `long` -/
def longMin (longMax : Nat) : Int :=
  -(longMax : Int) - 1

/-- The value, with whether it is out of range. -/
def clamp (longMax : Nat) (negative : Bool) (magnitude : Nat) : Int × Bool :=
  if negative then
    if magnitude ≤ longMax + 1 then (-(magnitude : Int), false) else (longMin longMax, true)
  else if magnitude ≤ longMax then (magnitude, false)
  else (longMax, true)

/-- `strtol(text, NULL, 10)`, with whether it sets `errno` to `ERANGE` -/
def strtol (longMax : Nat) (text : List Char) : Int × Bool :=
  match text.dropWhile isSpace with
  | [] => (0, false)
  | c :: rest =>
      if c = '-' then clamp longMax true (decimal (rest.takeWhile Char.isDigit))
      else if c = '+' then clamp longMax false (decimal (rest.takeWhile Char.isDigit))
      else clamp longMax false (decimal ((c :: rest).takeWhile Char.isDigit))

theorem digit_bounds {c : Char} (digit : c.isDigit = true) : 48 ≤ c.toNat ∧ c.toNat ≤ 57 := by
  simp only [Char.isDigit, Bool.and_eq_true, decide_eq_true_eq] at digit
  exact ⟨digit.1, digit.2⟩

/-- A decimal number has no space and no sign before it, and nothing behind it. -/
theorem IsDecimal.scan {c : Char} {rest : List Char} (number : IsDecimal (c :: rest)) :
    (c :: rest).dropWhile isSpace = c :: rest ∧ c ≠ '-' ∧ c ≠ '+' ∧
      (c :: rest).takeWhile Char.isDigit = c :: rest ∧
        (c :: rest).dropWhile Char.isDigit = [] := by
  have digits := number.2
  have bounds := digit_bounds (digits c (List.mem_cons_self ..))
  have noSpace : isSpace c = false := by
    have other : c ≠ ' ' := by
      rintro rfl
      exact absurd bounds.1 (by decide)
    have above : ¬ c.toNat ≤ '\r'.toNat := by
      intro below
      exact absurd (Nat.le_trans bounds.1 below) (by decide)
    simp only [isSpace, beq_eq_false_iff_ne.mpr other, decide_eq_false above, Bool.and_false,
      Bool.or_false]
  refine ⟨?_, ?_, ?_, List.takeWhile_eq_self_iff.mpr digits, List.dropWhile_eq_nil_iff.mpr digits⟩
  · rw [List.dropWhile_cons, noSpace]
    rfl
  · rintro rfl
    exact absurd bounds.1 (by decide)
  · rintro rfl
    exact absurd bounds.1 (by decide)

/-- A decimal number is read as its value, as far as a `long` can hold it. -/
theorem strtol_decimal (longMax : Nat) {text : List Char} (number : IsDecimal text) :
    strtol longMax text = clamp longMax false (decimal text) := by
  cases text with
  | nil => exact absurd rfl number.1
  | cons c rest =>
      rcases number.scan with ⟨untrimmed, noMinus, noPlus, whole, _⟩
      unfold strtol
      rw [untrimmed]
      dsimp only
      rw [if_neg noMinus, if_neg noPlus, whole]

/-! ## `strtoul()` -/

/-- `strtoul(text, &rest, 10)`: the value, and the text from where the reading ended.  A
number that is out of range is read as the largest `unsigned long`, and a negative one
modulo the number of its values. -/
def strtoul (ulongMax : Nat) (text : List Char) : Nat × List Char :=
  match text.dropWhile isSpace with
  | [] => (0, text)
  | c :: rest =>
      let digits := if c = '-' ∨ c = '+' then rest else c :: rest
      let magnitude := decimal (digits.takeWhile Char.isDigit)
      if digits.takeWhile Char.isDigit = [] then (0, text)
      else
        (if ulongMax < magnitude then ulongMax
          else if c = '-' then (ulongMax + 1 - magnitude) % (ulongMax + 1)
          else magnitude,
          digits.dropWhile Char.isDigit)

/-- A decimal number that fits is read as its value, to its end. -/
theorem strtoul_decimal {ulongMax : Nat} {text : List Char} (number : IsDecimal text)
    (fits : decimal text ≤ ulongMax) : strtoul ulongMax text = (decimal text, []) := by
  cases text with
  | nil => exact absurd rfl number.1
  | cons c rest =>
      rcases number.scan with ⟨untrimmed, noMinus, noPlus, whole, nothing⟩
      have noSign : ¬ (c = '-' ∨ c = '+') := fun sign => sign.elim noMinus noPlus
      unfold strtoul
      rw [untrimmed]
      dsimp only
      rw [if_neg noSign, whole, nothing, if_neg (List.cons_ne_nil c rest),
        if_neg (Nat.not_lt.mpr fits), if_neg noMinus]

/-! ## `strncmp()` and `fgets()` -/

/-- Whether `strncmp()` finds no difference. -/
def strncmp : List Char -> List Char -> Nat -> Bool
  | _, _, 0 => true
  | a :: first, b :: second, count + 1 =>
      if a ≠ b then false else if a = nul then true else strncmp first second count
  | _, _, _ + 1 => false

/-- With the length of a string as the count, only its characters are compared. -/
theorem strncmp_length {text : List Char} (proper : nul ∉ text) (buffer : List Char) :
    strncmp buffer (text ++ [nul]) text.length = decide (text <+: buffer) := by
  induction text generalizing buffer with
  | nil =>
      rw [List.length_nil, strncmp]
      exact (decide_eq_true List.nil_prefix).symm
  | cons b rest inductionHypothesis =>
      rw [List.mem_cons, not_or] at proper
      cases buffer with
      | nil =>
          have absent : ¬ b :: rest <+: [] := fun within => nomatch List.prefix_nil.mp within
          exact (decide_eq_false absent).symm
      | cons a tail =>
          rw [List.length_cons, List.cons_append, strncmp]
          by_cases same : a = b
          · subst same
            rw [if_neg (not_not.mpr rfl), if_neg fun zero => proper.1 zero.symm,
              inductionHypothesis proper.2]
            simp only [List.cons_prefix_cons, true_and]
          · rw [if_pos same]
            refine (decide_eq_false fun within => ?_).symm
            exact same (List.cons_prefix_cons.mp within).1.symm

/-- The first line of a text, with the newline if there is one. -/
def firstLine : List Char -> List Char
  | [] => []
  | c :: rest => if c = '\n' then [c] else c :: firstLine rest

/-- `fgets()` on a file that holds the text: nothing is stored if the file is empty. -/
def fgets (buffer : List Char) (size : Nat) (text : List Char) : List Char :=
  if text = [] then buffer
  else
    let line := (firstLine text).take (size - 1)
    line ++ nul :: buffer.drop (line.length + 1)

theorem firstLine_length_le (text : List Char) : (firstLine text).length ≤ text.length := by
  induction text with
  | nil => exact Nat.le_refl 0
  | cons c rest inductionHypothesis =>
      rw [firstLine]
      split
      · exact Nat.succ_le_succ (Nat.zero_le _)
      · exact Nat.succ_le_succ inductionHypothesis

/-- A string without a NUL is at the start of the buffer if it is at the start of the line. -/
theorem prefix_fgets_iff {name text : List Char} (proper : nul ∉ name) (buffer : List Char)
    {size : Nat} (nonempty : text ≠ []) (short : text.length < size) :
    name <+: fgets buffer size text ↔ name <+: firstLine text := by
  have length := firstLine_length_le text
  have whole : (firstLine text).take (size - 1) = firstLine text :=
    List.take_of_length_le (by omega)
  rw [fgets, if_neg nonempty]
  dsimp only
  rw [whole]
  constructor
  · intro within
    rcases List.prefix_or_prefix_of_prefix within (List.prefix_append _ _) with shorter | longer
    · exact shorter
    · rcases longer with ⟨tail, rfl⟩
      cases tail with
      | nil => exact (List.append_nil (firstLine text)).symm ▸ List.prefix_rfl
      | cons c more =>
          have behind := (List.prefix_append_right_inj _).mp within
          have zero := (List.cons_prefix_cons.mp behind).1
          exact absurd (zero ▸ List.mem_append_right _ (List.mem_cons_self ..)) proper
  · intro within
    exact within.trans (List.prefix_append _ _)

end CString
end OpenAmpReference
