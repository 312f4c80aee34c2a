import OpenAmpReference.Library.Transition

namespace OpenAmpReference
namespace LinuxCommon

/-!
# `bind_rpmsg_chrdev()`

To bind a device the function first writes the name of the driver to the device's
`driver_override` and then the name of the device to the driver's `bind`.  The
next call looks at the override alone, so a call that fails between the two
writes makes the next one report a device that is bound to nothing.
-/

/-- `rpmsg_chdrv` -/
def rpmsgChdrv : List Char :=
  ['r', 'p', 'm', 's', 'g', '_', 'c', 'h', 'r', 'd', 'e', 'v']

/-- How the kernel prints an override that is not set. -/
def nullName : List Char :=
  ['(', 'n', 'u', 'l', 'l', ')']

/-- `-EINVAL` -/
def eInval : Int := -22

/-- `-EBUSY` -/
def eBusy : Int := -16

/-- The override of the device, and the driver that it is bound to. -/
structure Sysfs where
  driverOverride : Option (List Char)
  driver : Option (List Char)
  deriving DecidableEq, Repr

/-- What a read of `driver_override` returns. -/
def Sysfs.shown (sysfs : Sysfs) : List Char :=
  sysfs.driverOverride.getD nullName ++ ['\n']

/-- Which of the file operations of a call succeed. -/
structure Answers where
  openOverride : Bool
  readOverride : Bool
  writeOverride : Bool
  openBind : Bool
  writeBind : Bool
  deriving DecidableEq, Repr

/-- `bind_rpmsg_chrdev()` with its result -/
def bindRpmsgChrdev (sysfs : Sysfs) (answers : Answers) : Sysfs × Int :=
  if answers.openOverride = false then (sysfs, eInval)
  else if answers.readOverride = false then (sysfs, -1)
  else
    let drvOverride := sysfs.shown.take 64
    if rpmsgChdrv <+: drvOverride then (sysfs, 0)
    else if ¬ nullName <+: drvOverride then (sysfs, eBusy)
    else if answers.writeOverride = false then (sysfs, eInval)
    else if answers.openBind = false ∨ answers.writeBind = false then
      ({ sysfs with driverOverride := some rpmsgChdrv }, eInval)
    else ({ driverOverride := some rpmsgChdrv, driver := some rpmsgChdrv }, 0)

/-- A call that has returned. -/
structure Returned where
  before : Sysfs
  ret : Int
  deriving DecidableEq, Repr

/-- The device after a sequence of calls, and the last of them. -/
structure World where
  sysfs : Sysfs
  last : Option Returned
  deriving DecidableEq, Repr

namespace World

def initial (sysfs : Sysfs) : World where
  sysfs := sysfs
  last := none

def step (world : World) (answers : Answers) : Option World :=
  let done := bindRpmsgChrdev world.sysfs answers
  some { sysfs := done.1, last := some { before := world.sysfs, ret := done.2 } }

/-- The result of the last call is true: zero means that the device is bound to the
driver, and an error that nothing has changed. -/
def Truthful (world : World) : Prop :=
  forall returned, world.last = some returned ->
    (returned.ret = 0 -> world.sysfs.driver = some rpmsgChdrv) ∧
      (returned.ret < 0 -> world.sysfs = returned.before)

/-- A device whose override is set is bound to the driver of that name. -/
def Settled (sysfs : Sysfs) : Prop :=
  forall name, sysfs.driverOverride = some name -> sysfs.driver = some name

/-- If the call reads the override, this is no longer name that begins with the name
of the driver, and once the call has written it, it also binds the device. -/
def Completes (world : World) (answers : Answers) : Prop :=
  answers.openOverride = true -> answers.readOverride = true ->
    (forall name, world.sysfs.driverOverride = some name -> rpmsgChdrv <+: name ->
      name = rpmsgChdrv) ∧
    (nullName <+: world.sysfs.shown -> answers.writeOverride = true ->
      answers.openBind = true ∧ answers.writeBind = true)

/-! ## What the buffer shows -/

theorem prefix_of_prefix_append {known name : List Char} {last : Char} (absent : last ∉ known)
    (found : known <+: name ++ [last]) : known <+: name := by
  rcases List.prefix_concat_iff.mp found with whole | shorter
  · exact absurd (whole ▸ List.mem_concat_self) absent
  · exact shorter

/-- The buffer of 64 bytes is large enough for the comparisons. -/
theorem prefix_take_iff {known shown : List Char} (short : known.length ≤ 64) :
    known <+: shown.take 64 ↔ known <+: shown := by
  rw [List.prefix_take_iff]
  exact ⟨fun both => both.1, fun found => ⟨found, short⟩⟩

theorem shown_of_override {sysfs : Sysfs} {name : List Char}
    (override : sysfs.driverOverride = some name) : sysfs.shown = name ++ ['\n'] := by
  rw [Sysfs.shown, override, Option.getD_some]

theorem chdrv_shown_iff (sysfs : Sysfs) :
    rpmsgChdrv <+: sysfs.shown ↔
      Exists fun name => sysfs.driverOverride = some name ∧ rpmsgChdrv <+: name := by
  cases override : sysfs.driverOverride with
  | none =>
      have shown : sysfs.shown = nullName ++ ['\n'] := by
        rw [Sysfs.shown, override, Option.getD_none]
      rw [shown]
      simp only [reduceCtorEq, false_and, exists_false, iff_false]
      decide
  | some name =>
      rw [shown_of_override override]
      constructor
      · intro found
        exact ⟨name, rfl, prefix_of_prefix_append (by decide) found⟩
      · rintro ⟨other, same, found⟩
        cases same
        exact found.trans (List.prefix_append name ['\n'])

/-- A null override is not mistaken for the name of the driver. -/
theorem not_chdrv_of_null {shown : List Char} (null : nullName <+: shown) :
    ¬ rpmsgChdrv <+: shown := by
  intro chdrv
  have one : nullName <+: rpmsgChdrv := List.prefix_of_prefix_length_le null chdrv (by decide)
  exact absurd one (by decide)

/-! ## One call -/

/-- What a call can do: fail without a trace, find the name of the driver, set the
override without binding, or bind the device. -/
theorem bindRpmsgChrdev_cases (sysfs : Sysfs) (answers : Answers) :
    (Exists fun error : Int => error < 0 ∧ bindRpmsgChrdev sysfs answers = (sysfs, error)) ∨
    (answers.openOverride = true ∧ answers.readOverride = true ∧ rpmsgChdrv <+: sysfs.shown ∧
      bindRpmsgChrdev sysfs answers = (sysfs, 0)) ∨
    (answers.openOverride = true ∧ answers.readOverride = true ∧ answers.writeOverride = true ∧
      nullName <+: sysfs.shown ∧ (answers.openBind = false ∨ answers.writeBind = false) ∧
      bindRpmsgChrdev sysfs answers =
        ({ sysfs with driverOverride := some rpmsgChdrv }, eInval)) ∨
    bindRpmsgChrdev sysfs answers =
      ({ driverOverride := some rpmsgChdrv, driver := some rpmsgChdrv }, 0) := by
  simp only [bindRpmsgChrdev, prefix_take_iff (by decide : rpmsgChdrv.length ≤ 64),
    prefix_take_iff (by decide : nullName.length ≤ 64)]
  split_ifs with opened readBack chdrv other written unbound
  · exact Or.inl ⟨eInval, by decide, rfl⟩
  · exact Or.inl ⟨-1, by decide, rfl⟩
  · exact Or.inr (Or.inl ⟨eq_true_of_ne_false opened,
      eq_true_of_ne_false readBack, chdrv, rfl⟩)
  · exact Or.inl ⟨eInval, by decide, rfl⟩
  · exact Or.inr (Or.inr (Or.inl ⟨eq_true_of_ne_false opened,
      eq_true_of_ne_false readBack, eq_true_of_ne_false written, other,
      unbound, rfl⟩))
  · exact Or.inr (Or.inr (Or.inr rfl))
  · exact Or.inl ⟨eBusy, by decide, rfl⟩

/-- A call that returns an error tells the truth if it leaves the device alone. -/
theorem truthful_of_error {sysfs after : Sysfs} {error : Int} (negative : error < 0) :
    Truthful { sysfs := after, last := some { before := sysfs, ret := error } } ↔
      after = sysfs := by
  constructor
  · intro truthful
    exact (truthful _ rfl).2 negative
  · rintro rfl returned last
    cases last
    exact ⟨fun zero => absurd zero (Int.ne_of_lt negative), fun _ => rfl⟩

/-- A call that returns zero tells the truth if the device is bound. -/
theorem truthful_of_zero {sysfs after : Sysfs} :
    Truthful { sysfs := after, last := some { before := sysfs, ret := 0 } } ↔
      after.driver = some rpmsgChdrv := by
  constructor
  · intro truthful
    exact (truthful _ rfl).1 rfl
  · rintro bound returned last
    cases last
    exact ⟨fun _ => bound, fun error => absurd error (Int.lt_irrefl 0)⟩

/-- The invariant of the calls that complete. -/
def Sound (world : World) : Prop :=
  Settled world.sysfs ∧ Truthful world

theorem sound_initial {sysfs : Sysfs} (settled : Settled sysfs) : Sound (initial sysfs) :=
  ⟨settled, fun _ none => nomatch none⟩

theorem settled_bound :
    Settled { driverOverride := some rpmsgChdrv, driver := some rpmsgChdrv } :=
  fun _ override => override

/-- A call that completes keeps the override and the binding together. -/
theorem sound_step {world next : World} {answers : Answers} (sound : Sound world)
    (completes : Completes world answers) (moved : step world answers = some next) :
    Sound next := by
  cases moved
  rcases bindRpmsgChrdev_cases world.sysfs answers with
    ⟨error, negative, same⟩ | ⟨opened, readBack, chdrv, same⟩ |
      ⟨opened, readBack, written, null, unbound, _⟩ | bound
  · rw [same]
    exact ⟨sound.1, (truthful_of_error negative).mpr rfl⟩
  · rw [same]
    rcases (chdrv_shown_iff world.sysfs).mp chdrv with ⟨name, override, found⟩
    have whole := (completes opened readBack).1 name override found
    exact ⟨sound.1, truthful_of_zero.mpr (whole ▸ sound.1 name override)⟩
  · have both := (completes opened readBack).2 null written
    simp only [both.1, both.2, Bool.true_eq_false, or_self] at unbound
  · rw [bound]
    exact ⟨settled_bound, truthful_of_zero.mpr rfl⟩

/-- A call after which the result is true has completed. -/
theorem completes_of_truthful {world next : World} {answers : Answers} (sound : Sound world)
    (moved : step world answers = some next) (truthful : Truthful next) :
    Completes world answers := by
  cases moved
  intro opened readBack
  simp only [bindRpmsgChrdev, opened, readBack, Bool.true_eq_false, if_false,
    prefix_take_iff (by decide : rpmsgChdrv.length ≤ 64),
    prefix_take_iff (by decide : nullName.length ≤ 64)] at truthful
  constructor
  · intro name override found
    rw [if_pos ((chdrv_shown_iff world.sysfs).mpr ⟨name, override, found⟩)] at truthful
    have bound := truthful_of_zero.mp truthful
    rw [sound.1 name override] at bound
    exact Option.some.inj bound
  · intro null written
    have notChdrv := not_chdrv_of_null null
    simp only [if_neg notChdrv, if_neg (not_not.mpr null), written, Bool.true_eq_false,
      if_false] at truthful
    by_contra unbound
    have failed : answers.openBind = false ∨ answers.writeBind = false := by
      simpa only [not_and_or, Bool.not_eq_true] using unbound
    rw [if_pos failed] at truthful
    have same := (truthful_of_error (by decide : eInval < 0)).mp truthful
    have override : world.sysfs.driverOverride = some rpmsgChdrv := by
      rw [← same]
    exact notChdrv ((chdrv_shown_iff world.sysfs).mpr ⟨rpmsgChdrv, override, List.prefix_refl _⟩)

/-! ## Sequences of calls -/

open Transition

/-- Every result is true exactly as long as every call completes. The calls follow one another on
the same device, and every opening and every write may fail in each of them. The device is
settled at the start: an override that was set by others and not followed by a bind is no doing
of this function. -/
theorem truthful_iff_completes {start : Sysfs} (settled : Settled start)
    (schedule : List Answers) :
    Always Truthful step (initial start) schedule ↔
      Guarded Completes step (initial start) schedule :=
  always_iff_guarded Sound (fun _ sound => sound.2) (fun _ _ _ => sound_step)
    (fun _ _ _ => completes_of_truthful) schedule (sound_initial settled)

/-- All operations succeed. -/
def allSucceed : Answers where
  openOverride := true
  readOverride := true
  writeOverride := true
  openBind := true
  writeBind := true

/-- A device that is neither overridden nor bound. -/
def idle : Sysfs where
  driverOverride := none
  driver := none

theorem settled_idle : Settled idle := by
  intro name override
  simp only [idle, reduceCtorEq] at override

/-- The second call finds the override that the first one has set. -/
theorem idle_calls_truthful :
    Always Truthful step (initial idle) [allSucceed, allSucceed] := by
  refine (truthful_iff_completes settled_idle [allSucceed, allSucceed]).mpr ⟨?_, ?_, trivial⟩
  · intro _ _
    refine ⟨fun _ override _ => ?_, fun _ _ => ⟨rfl, rfl⟩⟩
    simp only [initial, idle, reduceCtorEq] at override
  · intro _ _
    exact ⟨fun _ override _ => (Option.some.inj override).symm, fun _ _ => ⟨rfl, rfl⟩⟩

/-- When the driver's `bind` cannot be opened, the first call has already set the
override, and the second one reports success for a device that is not bound. -/
theorem retry_reports_unbound_device :
    Settled idle ∧
      run step (initial idle) [{ allSucceed with openBind := false }] =
        some { sysfs := { driverOverride := some rpmsgChdrv, driver := none },
               last := some { before := idle, ret := eInval } } ∧
      run step (initial idle) [{ allSucceed with openBind := false }, allSucceed] =
        some { sysfs := { driverOverride := some rpmsgChdrv, driver := none },
               last := some { before := { driverOverride := some rpmsgChdrv, driver := none },
                              ret := 0 } } ∧
      ¬ Always Truthful step (initial idle)
        [{ allSucceed with openBind := false }, allSucceed] := by
  refine ⟨settled_idle, by decide, by decide, ?_⟩
  intro always
  have first := (always.tail rfl).head
  have same := (truthful_of_error (by decide : eInval < 0)).mp first
  exact absurd same (by decide)

end World
end LinuxCommon
end OpenAmpReference
