import Mathlib.Data.BitVec
import OpenAmpReference.Library.CString
import OpenAmpReference.LinuxCommon.BindChrdev

namespace OpenAmpReference
namespace LookupChannel

/-!
# `lookup_channel()`

The devices of the rpmsg bus are named `<bus>.<name>.<src>.<dst>`.  The
function takes the first entry of the directory that contains the name of
the channel, copies it, and reads the destination behind its last dot.
Whether that number is accepted depends on `errno`, which nothing has set to
zero before, and on how large a `long` is.
-/

open CString

/-- `NAME_MAX` -/
def nameMax : Nat := 255

/-- `ERANGE` -/
def eRange : Int := 34

/-- `d_name`: a string of at most `NAME_MAX` characters. -/
structure DirEntry where
  dName : List Char
  proper : nul ∉ dName
  bounded : dName.length ≤ nameMax

structure EndpointInfo where
  name : List Char
  src : BitVec 32
  dst : BitVec 32
  deriving DecidableEq, Repr

/-- The result, with what `out` and `pep` point at. -/
structure Result where
  ret : Int
  out : List Char
  pep : EndpointInfo
  deriving DecidableEq, Repr

/-- `set_src_dst()` -/
def setSrcDst (longMax : Nat) (out : List Char) (pep : EndpointInfo) (errno : Int) : EndpointInfo :=
  match afterLast '.' (read out) with
  | none => pep
  | some tail =>
      let dst := (strtol longMax tail).1
      let errno := if (strtol longMax tail).2 then eRange else errno
      if (errno = eRange ∧ (dst = longMax ∨ dst = longMin longMax)) ∨ (errno ≠ 0 ∧ dst = 0) then
        pep
      else { pep with dst := BitVec.ofInt 32 dst }

/-- The first entry that contains the name, as `strstr()` looks for it. -/
def firstContaining (name : List Char) (entries : List DirEntry) : Option DirEntry :=
  entries.find? fun entry => name <:+: entry.dName

/-- `lookup_channel()`; the directory is missing if it cannot be opened. -/
def lookupChannel (longMax : Nat) (directory : Option (List DirEntry)) (out : List Char)
    (pep : EndpointInfo) (errno : Int) : Result :=
  match directory with
  | none => { ret := LinuxCommon.eInval, out := out, pep := pep }
  | some entries =>
      match firstContaining pep.name entries with
      | some entry =>
          let copied := strncpy out entry.dName nameMax
          { ret := 0, out := copied, pep := setSrcDst longMax copied pep errno }
      | none => { ret := LinuxCommon.eInval, out := out, pep := pep }

/-! ## What the function is for -/

/-- The entry has four components, and these are its name and its destination. -/
def HasForm (name dst entry : List Char) : Prop :=
  Exists fun bus => Exists fun src =>
    '.' ∉ bus ∧ '.' ∉ name ∧ '.' ∉ src ∧ '.' ∉ dst ∧
      entry = bus ++ '.' :: (name ++ '.' :: (src ++ '.' :: dst))

/-- The entry is a device of the channel. -/
def Names (name : List Char) (entry : DirEntry) : Prop :=
  Exists fun dst => HasForm name dst entry.dName

/-- The entry is the first device of the channel. -/
def IsFirst (name : List Char) (entries : List DirEntry) (entry : DirEntry) : Prop :=
  Exists fun earlier => Exists fun later => entries = earlier ++ entry :: later ∧
    (forall other, other ∈ earlier -> ¬ Names name other) ∧ Names name entry

/-- The function finds the first device of the channel, and changes nothing if there is none. -/
structure Picks (entries : List DirEntry) (out : List Char) (pep : EndpointInfo)
    (result : Result) : Prop where
  found : result.ret = 0 ↔ Exists fun entry => entry ∈ entries ∧ Names pep.name entry
  copied : forall entry, IsFirst pep.name entries entry ->
    entry.dName.length < nameMax ∧ Holds result.out entry.dName
  parsed : forall entry dst, IsFirst pep.name entries entry -> HasForm pep.name dst entry.dName ->
    IsDecimal dst -> decimal dst < 2 ^ 32 -> result.pep.dst.toNat = decimal dst
  missing : (forall entry, entry ∈ entries -> ¬ Names pep.name entry) ->
    result.ret = LinuxCommon.eInval ∧ result.out = out ∧ result.pep = pep

/-- The destination can be read: it fits a `long`, and an old `errno` does not make zero or
the largest value look like an error. -/
def Readable (longMax : Nat) (errno : Int) (value : Nat) : Prop :=
  value ≤ longMax ∧ (value = longMax -> errno ≠ eRange) ∧ (value = 0 -> errno = 0)

instance (longMax : Nat) (errno : Int) (value : Nat) : Decidable (Readable longMax errno value) :=
  inferInstanceAs (Decidable (_ ∧ _ ∧ _))

/-- The first entry that contains the name, if there is one, is a device of the channel and
shorter than `NAME_MAX`, and its destination can be read or is already there. -/
def FirstIsDevice (longMax : Nat) (entries : List DirEntry) (pep : EndpointInfo)
    (errno : Int) : Prop :=
  forall entry, firstContaining pep.name entries = some entry ->
    entry.dName.length < nameMax ∧ Exists fun dst => HasForm pep.name dst entry.dName ∧
      (IsDecimal dst -> decimal dst < 2 ^ 32 ->
        Readable longMax errno (decimal dst) ∨ pep.dst.toNat = decimal dst)

/-! ## Entries and their components -/

variable {name dst : List Char} {entry : DirEntry} {entries : List DirEntry}

/-- The name of a device stands between dots. -/
theorem HasForm.between {text : List Char} (form : HasForm name dst text) :
    '.' :: (name ++ ['.']) <:+: text := by
  rcases form with ⟨bus, src, _, _, _, _, rfl⟩
  refine ⟨bus, src ++ '.' :: dst, ?_⟩
  simp only [List.append_assoc, List.cons_append, List.nil_append]

theorem HasForm.contains {text : List Char} (form : HasForm name dst text) : name <:+: text := by
  have inner : name <:+: '.' :: (name ++ ['.']) := ⟨['.'], ['.'], rfl⟩
  exact inner.trans form.between

/-- The destination is what follows the last dot. -/
theorem HasForm.afterLast {text : List Char} (form : HasForm name dst text) :
    afterLast '.' text = some dst := by
  rcases form with ⟨bus, src, _, _, _, last, rfl⟩
  have regrouped : bus ++ '.' :: (name ++ '.' :: (src ++ '.' :: dst)) =
      (bus ++ '.' :: (name ++ '.' :: src)) ++ '.' :: dst := by
    simp only [List.append_assoc, List.cons_append]
  rw [regrouped]
  exact afterLast_append _ last

theorem firstContaining_of_contains (contains : name <:+: entry.dName) (rest : List DirEntry) :
    firstContaining name (entry :: rest) = some entry := by
  rw [firstContaining, List.find?_cons]
  simp only [contains, decide_true]

theorem firstContaining_of_not_contains (absent : ¬ name <:+: entry.dName)
    (rest : List DirEntry) :
    firstContaining name (entry :: rest) = firstContaining name rest := by
  rw [firstContaining, List.find?_cons]
  simp only [absent, decide_false]
  rfl

/-- If there is a device of the channel there is a first one. -/
theorem exists_first (some : Exists fun entry => entry ∈ entries ∧ Names name entry) :
    Exists fun entry => IsFirst name entries entry := by
  induction entries with
  | nil =>
      rcases some with ⟨_, member, _⟩
      exact nomatch member
  | cons head rest inductionHypothesis =>
      by_cases here : Names name head
      · exact ⟨head, [], rest, rfl, nofun, here⟩
      · have later : Exists fun entry => entry ∈ rest ∧ Names name entry := by
          rcases some with ⟨entry, member, names⟩
          rcases List.mem_cons.mp member with rfl | behind
          · exact absurd names here
          · exact ⟨entry, behind, names⟩
        rcases inductionHypothesis later with ⟨first, earlier, behind, rfl, none, names⟩
        refine ⟨first, head :: earlier, behind, rfl, ?_, names⟩
        intro other member
        rcases List.mem_cons.mp member with rfl | before
        · exact here
        · exact none other before

/-- If the first entry that contains the name is a device, it is the first device. -/
theorem IsFirst.eq {found first : DirEntry} (isFirst : IsFirst name entries first)
    (contains : firstContaining name entries = some found) (names : Names name found) :
    first = found := by
  rcases isFirst with ⟨earlier, later, rfl, none, device⟩
  have firstContains : name <:+: first.dName := by
    rcases device with ⟨_, form⟩
    exact form.contains
  induction earlier with
  | nil =>
      rw [List.nil_append, firstContaining_of_contains firstContains] at contains
      exact Option.some.inj contains
  | cons head rest inductionHypothesis =>
      by_cases here : name <:+: head.dName
      · rw [List.cons_append, firstContaining_of_contains here] at contains
        rw [← Option.some.inj contains] at names
        exact absurd names (none head (List.mem_cons_self ..))
      · rw [List.cons_append, firstContaining_of_not_contains here] at contains
        apply inductionHypothesis contains
        intro other member
        exact none other (List.mem_cons_of_mem head member)

/-! ## The destination -/

/-- What `set_src_dst()` makes of a decimal destination. -/
theorem setSrcDst_decimal (longMax : Nat) {out : List Char} (pep : EndpointInfo) (errno : Int)
    (holds : Holds out entry.dName) (form : HasForm name dst entry.dName)
    (number : IsDecimal dst) :
    setSrcDst longMax out pep errno =
      if Readable longMax errno (decimal dst) then
        { pep with dst := BitVec.ofInt 32 (decimal dst) }
      else pep := by
  simp only [setSrcDst, read_of_holds entry.proper holds, form.afterLast, strtol_decimal _ number,
    clamp, Bool.false_eq_true, if_false]
  by_cases fits : decimal dst ≤ longMax
  · have inside : (decimal dst : Int) ≠ longMin longMax := by
      rw [longMin]
      omega
    simp only [if_pos fits, Bool.false_eq_true, if_false, inside, or_false, Int.natCast_inj,
      Int.natCast_eq_zero]
    by_cases refused : errno = eRange ∧ decimal dst = longMax ∨ errno ≠ 0 ∧ decimal dst = 0
    · rw [if_pos refused, if_neg]
      rintro ⟨_, notLargest, notZero⟩
      rcases refused with ⟨old, largest⟩ | ⟨set, zero⟩
      · exact notLargest largest old
      · exact set (notZero zero)
    · rw [if_neg refused, if_pos]
      refine ⟨fits, ?_, ?_⟩
      · exact fun largest old => refused (Or.inl ⟨old, largest⟩)
      · intro zero
        by_contra set
        exact refused (Or.inr ⟨set, zero⟩)
  · have unreadable : ¬ Readable longMax errno (decimal dst) := fun readable => fits readable.1
    simp only [if_neg fits, if_true, true_and, true_or, if_neg unreadable]

/-- The destination is right if it could be read or was there before. -/
theorem setSrcDst_dst (longMax : Nat) {out : List Char} (pep : EndpointInfo) (errno : Int)
    (holds : Holds out entry.dName) (form : HasForm name dst entry.dName)
    (number : IsDecimal dst) (small : decimal dst < 2 ^ 32) :
    (setSrcDst longMax out pep errno).dst.toNat = decimal dst ↔
      Readable longMax errno (decimal dst) ∨ pep.dst.toNat = decimal dst := by
  rw [setSrcDst_decimal longMax pep errno holds form number]
  split
  · rename_i readable
    have value : (BitVec.ofInt 32 (decimal dst)).toNat = decimal dst := by
      rw [BitVec.toNat_ofInt]
      omega
    exact ⟨fun _ => Or.inl readable, fun _ => value⟩
  · rename_i unreadable
    exact ⟨Or.inr, fun right => right.resolve_left unreadable⟩

/-! ## When the device is found -/

variable {longMax : Nat} {directory : Option (List DirEntry)} {out : List Char} {pep : EndpointInfo} {errno : Int}

/-- The function succeeds if and only if an entry contains the name. -/
theorem lookupChannel_found {entry : DirEntry} {entries : List DirEntry}
    (contains : firstContaining pep.name entries = some entry) :
    lookupChannel longMax (some entries) out pep errno =
      { ret := 0, out := strncpy out entry.dName nameMax,
        pep := setSrcDst longMax (strncpy out entry.dName nameMax) pep errno } := by
  rw [lookupChannel, contains]

theorem lookupChannel_missing
    (missing : firstContaining pep.name (directory.getD []) = none) :
    lookupChannel longMax directory out pep errno =
      { ret := LinuxCommon.eInval, out := out, pep := pep } := by
  cases directory with
  | none => rfl
  | some entries =>
      rw [Option.getD_some] at missing
      rw [lookupChannel, missing]

/-- No device of the channel is overlooked. -/
theorem not_names_of_missing (missing : firstContaining name entries = none)
    (member : entry ∈ entries) : ¬ Names name entry := by
  rintro ⟨dst, form⟩
  have absent := List.find?_eq_none.mp missing entry member
  exact absent (decide_eq_true form.contains)

/-- Two strings that are held by one buffer are equal. -/
theorem holds_unique {first second : DirEntry} (firstHeld : Holds out first.dName)
    (secondHeld : Holds out second.dName) : first.dName = second.dName := by
  rw [← read_of_holds first.proper firstHeld, read_of_holds second.proper secondHeld]

/-- The device that was picked is the first that contains the name. -/
theorem Picks.firstIsDevice {entries : List DirEntry}
    (picks : Picks entries out pep (lookupChannel longMax (some entries) out pep errno)) :
    FirstIsDevice longMax entries pep errno := by
  intro entry contains
  rw [lookupChannel_found contains] at picks
  rcases exists_first (picks.found.mp rfl) with ⟨first, isFirst⟩
  rcases picks.copied first isFirst with ⟨short, holds⟩
  have within : entry.dName.length < nameMax := by
    by_contra long
    exact not_strncpy_holds out entry.proper (Nat.not_lt.mp long) short holds
  have same : first.dName = entry.dName := holds_unique holds (strncpy_holds out within)
  rcases isFirst with ⟨earlier, later, split, none, dst, form⟩
  refine ⟨within, dst, same ▸ form, ?_⟩
  intro number small
  have parsed := picks.parsed first dst ⟨earlier, later, split, none, dst, form⟩ form number small
  exact (setSrcDst_dst longMax pep errno holds form number small).mp parsed

theorem FirstIsDevice.picks {entries : List DirEntry}
    (first : FirstIsDevice longMax entries pep errno) :
    Picks entries out pep (lookupChannel longMax (some entries) out pep errno) := by
  cases contains : firstContaining pep.name entries with
  | none =>
      rw [@lookupChannel_missing longMax (some entries) out pep errno contains]
      have absent : forall entry, entry ∈ entries -> ¬ Names pep.name entry :=
        fun entry member => not_names_of_missing contains member
      have notFirst : forall entry, ¬ IsFirst pep.name entries entry := by
        rintro entry ⟨earlier, later, rfl, _, names⟩
        exact absent entry (by simp) names
      exact {
        found := by
          constructor
          · intro zero
            have failed : LinuxCommon.eInval ≠ 0 := by decide
            exact absurd zero failed
          · rintro ⟨entry, member, names⟩
            exact absurd names (absent entry member)
        copied := fun entry isFirst => absurd isFirst (notFirst entry)
        parsed := fun entry _ isFirst => absurd isFirst (notFirst entry)
        missing := fun _ => ⟨rfl, rfl, rfl⟩ }
  | some entry =>
      rcases first entry contains with ⟨short, dst, form, excused⟩
      have holds := strncpy_holds out short
      have member : entry ∈ entries := List.mem_of_find?_eq_some contains
      rw [lookupChannel_found contains]
      exact {
        found := ⟨fun _ => ⟨entry, member, dst, form⟩, fun _ => rfl⟩
        copied := by
          intro other isFirst
          rw [isFirst.eq contains ⟨dst, form⟩]
          exact ⟨short, holds⟩
        parsed := by
          intro other tail isFirst otherForm number small
          rw [isFirst.eq contains ⟨dst, form⟩] at otherForm
          have same : tail = dst := Option.some.inj (otherForm.afterLast.symm.trans form.afterLast)
          subst same
          exact (setSrcDst_dst longMax pep errno holds otherForm number small).mpr
            (excused number small)
        missing := fun none => absurd ⟨dst, form⟩ (none entry member) }

/-- The function finds the first device of the channel if and only if no other entry before it
contains the name, it is short enough, and its destination can be read or was there. The listing
is in any order, or cannot be opened; the name is searched for anywhere in an entry, the buffer
has a fixed size, and `errno` is not cleared before `strtoul()` is called. -/
theorem lookupChannel_picks_iff (longMax : Nat) (directory : Option (List DirEntry))
    (out : List Char) (pep : EndpointInfo) (errno : Int) :
    Picks (directory.getD []) out pep (lookupChannel longMax directory out pep errno) ↔
      FirstIsDevice longMax (directory.getD []) pep errno := by
  cases directory with
  | none =>
      have empty : FirstIsDevice longMax [] pep errno := nofun
      exact ⟨fun _ => empty, fun _ => empty.picks⟩
  | some entries => exact ⟨Picks.firstIsDevice, FirstIsDevice.picks⟩

/-- A device of another channel whose name begins with the name that is looked for. -/
def lookAlike : DirEntry where
  dName := "virtio0.rpmsg-tty1.-1.1024".toList
  proper := by decide
  bounded := by decide

/-- The look-alike is taken for a device of the channel. -/
theorem lookAlike_picked :
    ¬ forall (longMax : Nat) (directory : Option (List DirEntry)) (out : List Char)
        (pep : EndpointInfo) (errno : Int),
      Picks (directory.getD []) out pep (lookupChannel longMax directory out pep errno) := by
  intro always
  have picks := always (2 ^ 63 - 1) (some [lookAlike]) [] { name := "rpmsg-tty".toList, src := 0, dst := 0 } 0
  have succeeds : (lookupChannel (2 ^ 63 - 1) (some [lookAlike]) []
      { name := "rpmsg-tty".toList, src := 0, dst := 0 } 0).ret = 0 := by
    rfl
  rcases picks.found.mp succeeds with ⟨entry, member, dst, form⟩
  cases List.mem_singleton.mp member
  have between := form.between
  revert between
  decide

end LookupChannel
end OpenAmpReference
