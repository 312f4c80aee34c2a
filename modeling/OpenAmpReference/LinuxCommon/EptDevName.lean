import Mathlib.Data.Nat.Find
import OpenAmpReference.Library.CString

namespace OpenAmpReference
namespace EptDevName

/-!
# `get_rpmsg_ept_dev_name()`

The function looks through the `name` files of `rpmsg0` to `rpmsg127`.  A
file that is not there is skipped, one that cannot be opened ends the search.
The first line of a file is read into a buffer that keeps what it holds if
the file is empty, and it is compared with the name as far as this goes.
-/

open CString

/-- How many devices are looked at. -/
def deviceCount : Nat := 128

/-- `sizeof(svc_name)` -/
def svcNameSize : Nat := 64

/-- The `name` file of a device. -/
inductive NameFile
  | absent
  | unopenable
  | contents (text : List Char)
  deriving DecidableEq, Repr

/-- `ept_name`: a string of at most 31 characters. -/
structure EptName where
  text : List Char
  proper : nul ∉ text
  bounded : text.length ≤ 31

/-- `rpmsg%d` -/
def devName (i : Nat) : List Char :=
  "rpmsg".toList ++ Nat.toDigits 10 i

/-- The comparison of the buffer with the name -/
def compares (eptName : EptName) (svcName : List Char) : Bool :=
  let eptNameLen := eptName.text.length
  let eptNameLen := if svcNameSize < eptNameLen then svcNameSize else eptNameLen
  strncmp svcName (eptName.text ++ [nul]) eptNameLen

/-- The loop from a device on, with the buffer it starts with -/
def search (sysfs : Nat -> NameFile) (eptName : EptName) : Nat -> Nat -> List Char -> Option Nat
  | 0, _, _ => none
  | remaining + 1, i, svcName =>
      match sysfs i with
      | NameFile.absent => search sysfs eptName remaining (i + 1) svcName
      | NameFile.unopenable => none
      | NameFile.contents text =>
          let svcName := fgets svcName svcNameSize text
          if compares eptName svcName then some i
          else search sysfs eptName remaining (i + 1) svcName

/-- `get_rpmsg_ept_dev_name()`, with what its stack holds in the buffer at first -/
def getRpmsgEptDevName (sysfs : Nat -> NameFile) (eptName : EptName) (svcName : List Char) :
    Option (List Char) :=
  (search sysfs eptName deviceCount 0 svcName).map devName

/-! ## What the function is for -/

/-- The file holds the name and a newline. -/
def Holds (sysfs : Nat -> NameFile) (eptName : EptName) (i : Nat) : Prop :=
  sysfs i = NameFile.contents (eptName.text ++ ['\n'])

instance (sysfs : Nat -> NameFile) (eptName : EptName) (i : Nat) :
    Decidable (Holds sysfs eptName i) :=
  inferInstanceAs (Decidable (_ = _))

/-- The result names the first device whose file holds the name, or there is none. -/
structure Finds (sysfs : Nat -> NameFile) (eptName : EptName)
    (result : Option (List Char)) : Prop where
  first : forall i, i < deviceCount -> Holds sysfs eptName i ->
    (forall j, j < i -> ¬ Holds sysfs eptName j) -> result = some (devName i)
  none_iff : result = none ↔ forall i, i < deviceCount -> ¬ Holds sysfs eptName i

/-- The buffer before a device is looked at. -/
def shown (sysfs : Nat -> NameFile) (svcName : List Char) : Nat -> List Char
  | 0 => svcName
  | i + 1 =>
      match sysfs i with
      | NameFile.contents text => fgets (shown sysfs svcName i) svcNameSize text
      | NameFile.absent | NameFile.unopenable => shown sysfs svcName i

/-- What the loop does at a device. -/
inductive Verdict
  | passes
  | stops
  | accepts
  deriving DecidableEq, Repr

def verdict (sysfs : Nat -> NameFile) (eptName : EptName) (svcName : List Char) (i : Nat) :
    Verdict :=
  match sysfs i with
  | NameFile.absent => Verdict.passes
  | NameFile.unopenable => Verdict.stops
  | NameFile.contents _ =>
      if eptName.text <+: shown sysfs svcName (i + 1) then Verdict.accepts else Verdict.passes

/-- The device ends the search, but its file does not hold the name. -/
def Misleads (sysfs : Nat -> NameFile) (eptName : EptName) (svcName : List Char) (i : Nat) :
    Prop :=
  verdict sysfs eptName svcName i ≠ Verdict.passes ∧ ¬ Holds sysfs eptName i

instance (sysfs : Nat -> NameFile) (eptName : EptName) (svcName : List Char) (i : Nat) :
    Decidable (Misleads sysfs eptName svcName i) :=
  inferInstanceAs (Decidable (_ ∧ _))

/-- A name that is held somewhere is the start of a line, and a device that misleads comes
behind one whose file holds the name, or none does and one before it cannot be opened. -/
structure NoneMisleads (sysfs : Nat -> NameFile) (eptName : EptName)
    (svcName : List Char) : Prop where
  oneLine : (Exists fun i => i < deviceCount ∧ Holds sysfs eptName i) ->
    eptName.text <+: firstLine (eptName.text ++ ['\n'])
  behind : forall i, i < deviceCount -> Misleads sysfs eptName svcName i ->
    (Exists fun j => j < i ∧ Holds sysfs eptName j) ∨
      (forall j, j < deviceCount -> ¬ Holds sysfs eptName j) ∧
        Exists fun j => j ≤ i ∧ sysfs j = NameFile.unopenable

/-! ## The search -/

variable {sysfs : Nat -> NameFile} {eptName : EptName} {svcName : List Char}

theorem devName_injective {i j : Nat} (same : devName i = devName j) : i = j := by
  have digits : Nat.toDigits 10 i = Nat.toDigits 10 j := List.append_cancel_left same
  calc
    i = Nat.ofDigitChars 10 (Nat.toDigits 10 i) 0 :=
      (Nat.ofDigitChars_toDigits (by decide) (by decide)).symm
    _ = Nat.ofDigitChars 10 (Nat.toDigits 10 j) 0 := by rw [digits]
    _ = j := Nat.ofDigitChars_toDigits (by decide) (by decide)

theorem compares_eq (eptName : EptName) (svcName : List Char) :
    compares eptName svcName = decide (eptName.text <+: svcName) := by
  have bounded := eptName.bounded
  have small : ¬ svcNameSize < eptName.text.length := by
    rw [svcNameSize]
    omega
  rw [compares, if_neg small, strncmp_length eptName.proper]

/-- How the loop ends: at the first device it does not pass, or behind the last. -/
inductive Ends (sysfs : Nat -> NameFile) (eptName : EptName) (svcName : List Char) (bound : Nat)
    (start : Nat) : Option Nat -> Prop
  | accepted (i : Nat) (from_ : start ≤ i) (below : i < bound)
      (passed : forall j, start ≤ j -> j < i ->
        verdict sysfs eptName svcName j = Verdict.passes)
      (here : verdict sysfs eptName svcName i = Verdict.accepts) :
      Ends sysfs eptName svcName bound start (some i)
  | stopped (i : Nat) (from_ : start ≤ i) (below : i < bound)
      (passed : forall j, start ≤ j -> j < i ->
        verdict sysfs eptName svcName j = Verdict.passes)
      (here : verdict sysfs eptName svcName i = Verdict.stops) :
      Ends sysfs eptName svcName bound start none
  | exhausted
      (passed : forall j, start ≤ j -> j < bound ->
        verdict sysfs eptName svcName j = Verdict.passes) :
      Ends sysfs eptName svcName bound start none

/-- A device that is passed is put before the rest of the search. -/
theorem Ends.step {bound start : Nat} {result : Option Nat}
    (passes : verdict sysfs eptName svcName start = Verdict.passes)
    (ends : Ends sysfs eptName svcName bound (start + 1) result) :
    Ends sysfs eptName svcName bound start result := by
  have earlier : forall limit, (forall j, start + 1 ≤ j -> j < limit ->
      verdict sysfs eptName svcName j = Verdict.passes) ->
      forall j, start ≤ j -> j < limit -> verdict sysfs eptName svcName j = Verdict.passes := by
    intro limit passed j atLeast below
    rcases Nat.eq_or_lt_of_le atLeast with rfl | later
    · exact passes
    · exact passed j later below
  cases ends with
  | accepted i atLeast below passed here =>
      exact Ends.accepted i (Nat.le_of_succ_le atLeast) below (earlier i passed) here
  | stopped i atLeast below passed here =>
      exact Ends.stopped i (Nat.le_of_succ_le atLeast) below (earlier i passed) here
  | exhausted passed => exact Ends.exhausted (earlier bound passed)

/-- The loop ends as the devices from its start on say. -/
theorem search_ends (remaining start : Nat) :
    Ends sysfs eptName svcName (start + remaining) start
      (search sysfs eptName remaining start (shown sysfs svcName start)) := by
  induction remaining generalizing start with
  | zero =>
      apply Ends.exhausted
      intro j atLeast below
      exact absurd below (Nat.not_lt.mpr atLeast)
  | succ remaining inductionHypothesis =>
      have later := inductionHypothesis (start + 1)
      rw [Nat.add_right_comm, Nat.add_assoc] at later
      have below : start < start + (remaining + 1) := Nat.lt_add_of_pos_right (Nat.succ_pos _)
      have nothing : forall j, start ≤ j -> j < start ->
          verdict sysfs eptName svcName j = Verdict.passes :=
        fun j atLeast before => absurd before (Nat.not_lt.mpr atLeast)
      cases file : sysfs start with
      | absent =>
          have passes : verdict sysfs eptName svcName start = Verdict.passes := by
            rw [verdict, file]
          have keeps : shown sysfs svcName (start + 1) = shown sysfs svcName start := by
            rw [shown, file]
          rw [keeps] at later
          rw [search, file]
          exact later.step passes
      | unopenable =>
          have stops : verdict sysfs eptName svcName start = Verdict.stops := by
            rw [verdict, file]
          rw [search, file]
          exact Ends.stopped start (Nat.le_refl _) below nothing stops
      | contents text =>
          have reads : shown sysfs svcName (start + 1) =
              fgets (shown sysfs svcName start) svcNameSize text := by
            rw [shown, file]
          rw [search, file]
          dsimp only
          rw [← reads, compares_eq]
          by_cases begins : eptName.text <+: shown sysfs svcName (start + 1)
          · have accepts : verdict sysfs eptName svcName start = Verdict.accepts := by
              rw [verdict, file]
              exact if_pos begins
            rw [if_pos (decide_eq_true begins)]
            exact Ends.accepted start (Nat.le_refl _) below nothing accepts
          · have passes : verdict sysfs eptName svcName start = Verdict.passes := by
              rw [verdict, file]
              exact if_neg begins
            rw [if_neg (by rwa [decide_eq_true_eq])]
            exact later.step passes

/-! ## When the device is found -/

theorem unopenable_of_stops {i : Nat}
    (stops : verdict sysfs eptName svcName i = Verdict.stops) : sysfs i = NameFile.unopenable := by
  unfold verdict at stops
  cases file : sysfs i with
  | absent => simp only [file, reduceCtorEq] at stops
  | unopenable => rfl
  | contents text =>
      simp only [file] at stops
      split at stops <;> cases stops

/-- A file that holds the name is accepted if its first line begins with it. -/
theorem verdict_of_holds {i : Nat} (holds : Holds sysfs eptName i) :
    verdict sysfs eptName svcName i = Verdict.accepts ↔
      eptName.text <+: firstLine (eptName.text ++ ['\n']) := by
  have bounded := eptName.bounded
  have nonempty : eptName.text ++ ['\n'] ≠ [] := by
    exact List.append_ne_nil_of_right_ne_nil _ (List.cons_ne_nil _ _)
  have short : (eptName.text ++ ['\n']).length < svcNameSize := by
    rw [List.length_append, List.length_singleton, svcNameSize]
    omega
  rw [Holds] at holds
  have reads : shown sysfs svcName (i + 1) =
      fgets (shown sysfs svcName i) svcNameSize (eptName.text ++ ['\n']) := by
    rw [shown, holds]
  rw [verdict, holds, ← prefix_fgets_iff eptName.proper (shown sysfs svcName i) nonempty short,
    ← reads]
  dsimp only
  split
  · rename_i begins
    exact ⟨fun _ => begins, fun _ => rfl⟩
  · rename_i different
    exact ⟨nofun, fun begins => absurd begins different⟩

/-- If a file holds the name there is a first one. -/
theorem exists_first_holds {i : Nat} (holds : Holds sysfs eptName i) :
    Exists fun first => first ≤ i ∧ Holds sysfs eptName first ∧
      forall j, j < first -> ¬ Holds sysfs eptName j := by
  have some : Exists fun i => Holds sysfs eptName i := ⟨i, holds⟩
  exact ⟨Nat.find some, Nat.find_min' some holds, Nat.find_spec some,
    fun j before => Nat.find_min some before⟩

/-- The result is the first device whose file holds the name. -/
theorem Finds.search_eq {found : Option Nat} (finds : Finds sysfs eptName (found.map devName))
    {i : Nat} (below : i < deviceCount) (holds : Holds sysfs eptName i) :
    Exists fun first => first ≤ i ∧ Holds sysfs eptName first ∧ found = some first := by
  rcases exists_first_holds holds with ⟨first, before, firstHolds, none⟩
  have named := finds.first first (Nat.lt_of_le_of_lt before below) firstHolds none
  rcases Option.map_eq_some_iff.mp named with ⟨device, rfl, same⟩
  exact ⟨first, before, firstHolds, congrArg some (devName_injective same)⟩

theorem Finds.noneMisleads {found : Option Nat}
    (ends : Ends sysfs eptName svcName deviceCount 0 found)
    (finds : Finds sysfs eptName (found.map devName)) :
    NoneMisleads sysfs eptName svcName := by
  cases ends with
  | accepted i _ below passed here =>
      have holds : Holds sysfs eptName i := by
        by_contra absent
        have none : forall j, j < deviceCount -> ¬ Holds sysfs eptName j := by
          intro j small holds
          rcases finds.search_eq small holds with ⟨first, _, firstHolds, same⟩
          exact absent (Option.some.inj same ▸ firstHolds)
        exact nomatch finds.none_iff.mpr none
      constructor
      · exact fun _ => (verdict_of_holds holds).mp here
      · rintro j _ ⟨notPassed, notHeld⟩
        refine Or.inl ⟨i, ?_, holds⟩
        have atLeast : i ≤ j := by
          by_contra before
          exact notPassed (passed j (Nat.zero_le j) (Nat.not_le.mp before))
        exact Nat.lt_of_le_of_ne atLeast fun same => notHeld (same ▸ holds)
  | stopped i _ below passed here =>
      have none := finds.none_iff.mp rfl
      constructor
      · rintro ⟨j, small, holds⟩
        exact absurd holds (none j small)
      · rintro j _ ⟨notPassed, _⟩
        refine Or.inr ⟨none, i, ?_, unopenable_of_stops here⟩
        by_contra before
        exact notPassed (passed j (Nat.zero_le j) (Nat.not_le.mp before))
  | exhausted passed =>
      have none := finds.none_iff.mp rfl
      constructor
      · rintro ⟨j, small, holds⟩
        exact absurd holds (none j small)
      · rintro j small ⟨notPassed, _⟩
        exact absurd (passed j (Nat.zero_le j) small) notPassed

theorem NoneMisleads.finds {found : Option Nat} (clear : NoneMisleads sysfs eptName svcName)
    (ends : Ends sysfs eptName svcName deviceCount 0 found) :
    Finds sysfs eptName (found.map devName) := by
  have notPassed : forall j, j < deviceCount -> Holds sysfs eptName j ->
      verdict sysfs eptName svcName j ≠ Verdict.passes := by
    intro j small holds passes
    have accepts : verdict sysfs eptName svcName j = Verdict.accepts :=
      (verdict_of_holds holds).mpr (clear.oneLine ⟨j, small, holds⟩)
    exact nomatch passes.symm.trans accepts
  cases ends with
  | accepted i _ below passed here =>
      have holds : Holds sysfs eptName i := by
        by_contra absent
        have misleads : Misleads sysfs eptName svcName i := ⟨by rw [here]; nofun, absent⟩
        rcases clear.behind i below misleads with ⟨j, before, held⟩ | ⟨_, j, before, unopenable⟩
        · exact notPassed j (Nat.lt_trans before below) held (passed j (Nat.zero_le j) before)
        · have stops : verdict sysfs eptName svcName j = Verdict.stops := by
            rw [verdict, unopenable]
          rcases Nat.eq_or_lt_of_le before with rfl | earlier
          · exact nomatch stops.symm.trans here
          · exact nomatch stops.symm.trans (passed j (Nat.zero_le j) earlier)
      constructor
      · intro first small firstHolds none
        have atMost : first ≤ i := by
          by_contra behind
          exact none i (Nat.not_le.mp behind) holds
        rcases Nat.eq_or_lt_of_le atMost with rfl | before
        · rfl
        · exact absurd (passed first (Nat.zero_le first) before) (notPassed first small firstHolds)
      · constructor
        · nofun
        · intro none
          exact absurd holds (none i below)
  | stopped i _ below passed here =>
      have unopenable := unopenable_of_stops here
      have absent : ¬ Holds sysfs eptName i := by
        rw [Holds, unopenable]
        nofun
      have none : forall j, j < deviceCount -> ¬ Holds sysfs eptName j := by
        have misleads : Misleads sysfs eptName svcName i := ⟨by rw [here]; nofun, absent⟩
        rcases clear.behind i below misleads with ⟨j, before, held⟩ | ⟨none, _⟩
        · exact absurd (passed j (Nat.zero_le j) before)
            (notPassed j (Nat.lt_trans before below) held)
        · exact none
      exact { first := fun j small held => absurd held (none j small)
              none_iff := ⟨fun _ => none, fun _ => rfl⟩ }
  | exhausted passed =>
      have none : forall j, j < deviceCount -> ¬ Holds sysfs eptName j :=
        fun j small held => notPassed j small held (passed j (Nat.zero_le j) small)
      exact { first := fun j small held => absurd held (none j small)
              none_iff := ⟨fun _ => none, fun _ => rfl⟩ }

/-- The first device with the name is found if and only if no device misleads the search. The
tree is any one, with files that cannot be opened or read; the buffer for a name is on the stack,
so what an earlier name has left there is compared with the next one. -/
theorem finds_iff_noneMisleads (sysfs : Nat -> NameFile) (eptName : EptName)
    (svcName : List Char) :
    Finds sysfs eptName (getRpmsgEptDevName sysfs eptName svcName) ↔
      NoneMisleads sysfs eptName svcName := by
  have ends := @search_ends sysfs eptName svcName deviceCount 0
  rw [Nat.zero_add] at ends
  exact ⟨fun finds => finds.noneMisleads ends, fun clear => clear.finds ends⟩

/-- A name of three letters. -/
def shortName : EptName where
  text := ['t', 't', 'y']
  proper := by decide
  bounded := by decide

/-- The device before the one that is looked for has a name that begins with the same letters. -/
def longerFirst (i : Nat) : NameFile :=
  if i = 0 then NameFile.contents ['t', 't', 'y', '1', '\n']
  else if i = 1 then NameFile.contents ['t', 't', 'y', '\n']
  else NameFile.absent

theorem longerFirst_found :
    ¬ forall (sysfs : Nat -> NameFile) (eptName : EptName) (svcName : List Char),
      Finds sysfs eptName (getRpmsgEptDevName sysfs eptName svcName) := by
  intro always
  have found := (always longerFirst shortName []).first 1 (by decide) rfl (by decide)
  have searched : getRpmsgEptDevName longerFirst shortName [] = some (devName 0) := by rfl
  have same := devName_injective (Option.some.inj (searched.symm.trans found))
  exact absurd same (by decide)

end EptDevName
end OpenAmpReference
