import Mathlib.Data.BitVec
import OpenAmpReference.Library.CString

namespace OpenAmpReference
namespace ExportDev

/-!
# `rpmsg_export_dev`

The program creates or releases a device of the rpmsg bus through the control device,
as its arguments say: `<ctrl> [-d] <name> [<src> <dst>]`.  Whether there is an option is
decided by the first character of the second argument, and which option it is by the
second character of the first argument, the path of the control device.  A number is
accepted if `strtoul()` reads it to its end.

What lies behind the arguments in memory and how large an `unsigned long` is depend on
the platform, as do the answers of `open()` and `ioctl()`.
-/

open CString

/-- A string on the command line. -/
structure Word where
  chars : List Char
  proper : nul ∉ chars

/-- `struct rpmsg_endpoint_info` -/
structure EndpointInfo where
  name : List Char
  src : BitVec 32
  dst : BitVec 32
  deriving DecidableEq, Repr

/-- `RPMSG_CREATE_DEV_IOCTL` and `RPMSG_RELEASE_DEV_IOCTL` -/
inductive Command
  | createDev
  | releaseDev
  deriving DecidableEq, Repr

/-- A call of `ioctl()` -/
structure Request where
  command : Command
  info : EndpointInfo
  deriving DecidableEq, Repr

inductive Message
  | usage
  | invalidOption
  | failedToOpen (path : List Char)
  | failedTo (command : Command)
  deriving DecidableEq, Repr

inductive Ending
  | returned (ret : Int)
  | exited (code : Int)
  | crashed
  deriving DecidableEq, Repr

/-- What a run of the program has done when it ends. -/
structure Run where
  issued : List Request
  printed : List Message
  ending : Ending
  deriving DecidableEq, Repr

structure World where
  /- The pointers behind the null pointer that ends `argv`. -/
  behind : List (Option Word)
  /- The character behind the NUL of an empty string. -/
  past : Char
  ulongMax : Nat
  wide : 2 ^ 32 ≤ ulongMax + 1
  /- What `ept` holds before it is set. -/
  stack : EndpointInfo
  opens : Word -> Bool
  answers : Request -> Int

/-! ## The program -/

/-- `argv[index]`, unless it is null or not there at all. -/
def argument (world : World) (args : List Word) (index : Nat) : Option Word :=
  (args.map some ++ none :: world.behind)[index]?.join

/-- A null pointer is not followed. -/
def follow (pointer : Option Word) (body : Word -> Run) : Run :=
  match pointer with
  | none => { issued := [], printed := [], ending := .crashed }
  | some word => body word

/-- The character at the index, which is at most the one behind the NUL. -/
def World.charAt (world : World) (word : Word) (index : Nat) : Char :=
  (word.chars ++ [nul]).getD index world.past

/-- `usage()`, after what has been printed before it -/
def usage (printed : List Message) : Run where
  issued := []
  printed := printed ++ [.usage]
  ending := .exited 1

/-- The number, and whether `strtoul()` has read it to its end. -/
def World.number (world : World) (word : Word) : BitVec 32 × Bool :=
  let (value, rest) := strtoul world.ulongMax word.chars
  (BitVec.ofNat 32 value, rest.isEmpty)

/-- The end of `main()`, from the call of `ioctl()` on -/
def issue (world : World) (release : Bool) (info : EndpointInfo) : Run :=
  let request : Request := {
    command := if release then .releaseDev else .createDev
    info := info }
  let ret := world.answers request
  { issued := [request]
    printed := if ret < 0 then [.failedTo request.command] else []
    ending := .returned ret }

/-- `sizeof(ept.name)` -/
def nameSize : Nat := 32

/-- `main()` from `open()` on, where `release` says how far the arguments are shifted. -/
def exportDev (world : World) (args : List Word) (release : Bool) : Run :=
  let shift := if release then 1 else 0
  follow (argument world args 1) fun ctrl =>
    if world.opens ctrl = false then
      { issued := [], printed := [.failedToOpen ctrl.chars], ending := .exited 1 }
    else
      follow (argument world args (2 + shift)) fun name =>
        let copied := strncpy world.stack.name name.chars nameSize
        let ept := { world.stack with name := copied.set (nameSize - 1) nul }
        if 5 ≤ args.length then
          follow (argument world args (3 + shift)) fun src =>
            let ept := { ept with src := (world.number src).1 }
            if (world.number src).2 = false then usage []
            else
              follow (argument world args (4 + shift)) fun dst =>
                let ept := { ept with dst := (world.number dst).1 }
                if (world.number dst).2 = false then usage []
                else issue world release ept
        else issue world release ept

/-- `main()` -/
def main (world : World) (args : List Word) : Run :=
  follow (argument world args 2) fun second =>
    if world.charAt second 0 = '-' then
      follow (argument world args 1) fun first =>
        if world.charAt first 1 = 'd' then
          if args.length ≠ 4 ∧ args.length ≠ 6 then usage []
          else exportDev world args true
        else if world.charAt first 1 = 'h' then usage []
        else usage [.invalidOption]
    else if args.length ≠ 3 ∧ args.length ≠ 5 then usage []
    else exportDev world args false

/-! ## The usage -/

/-- The word is in the place of an option. -/
def Word.IsOption (word : Word) : Prop :=
  word.chars.head? = some '-'

instance (word : Word) : Decidable word.IsOption :=
  inferInstanceAs (Decidable (_ = _))

/-- The option `-d` -/
def Word.IsRelease (word : Word) : Prop :=
  word.chars = ['-', 'd']

/-- A decimal number from 0 to 2^32-1 -/
def Word.IsNumber (word : Word) : Prop :=
  IsDecimal word.chars ∧ decimal word.chars < 2 ^ 32

/-- What the arguments ask for. -/
structure Order where
  ctrl : Word
  command : Command
  name : Word
  address : Option (Word × Word)

/-- Which option releases the device of a path, and which words are numbers. -/
structure Reading where
  releases : Word -> Word -> Prop
  number : Word -> Prop

namespace Reading

/-- `<name> [<src> <dst>]` -/
inductive Names (reading : Reading) : List Word -> Word -> Option (Word × Word) -> Prop
  | alone (name : Word) : reading.Names [name] name none
  | addressed (name : Word) {src dst : Word} (srcNumber : reading.number src)
      (dstNumber : reading.number dst) : reading.Names [name, src, dst] name (some (src, dst))

/-- `<ctrl> [-d] <name> [<src> <dst>]`, behind the name of the program -/
inductive Matches (reading : Reading) : List Word -> Order -> Prop
  | create (program ctrl : Word) {rest : List Word} {name : Word}
      {address : Option (Word × Word)} (plain : ¬ name.IsOption)
      (names : reading.Names rest name address) :
      reading.Matches (program :: ctrl :: rest)
        { ctrl := ctrl, command := .createDev, name := name, address := address }
  | release (program : Word) {ctrl option : Word} {rest : List Word} {name : Word}
      {address : Option (Word × Word)} (releases : reading.releases ctrl option)
      (names : reading.Names rest name address) :
      reading.Matches (program :: ctrl :: option :: rest)
        { ctrl := ctrl, command := .releaseDev, name := name, address := address }

/-- The usage as it is printed: the path does not matter. -/
def documented : Reading where
  releases := fun _ option => option.IsRelease
  number := Word.IsNumber

/-- The usage as the program reads it. -/
def coded (world : World) : Reading where
  releases := fun ctrl option => option.IsOption ∧ world.charAt ctrl 1 = 'd'
  number := fun word => (world.number word).2 = true

instance (world : World) (ctrl option : Word) : Decidable ((coded world).releases ctrl option) :=
  inferInstanceAs (Decidable (_ ∧ _))

instance (world : World) (word : Word) : Decidable ((coded world).number word) :=
  inferInstanceAs (Decidable (_ = _))

end Reading

/-- The name, cut to what fits, and the numbers, where they were typed. -/
structure Order.Carried (order : Order) (info : EndpointInfo) : Prop where
  name : Holds info.name (order.name.chars.take (nameSize - 1))
  address : forall src dst, order.address = some (src, dst) ->
    info.src.toNat = decimal src.chars ∧ info.dst.toNat = decimal dst.chars

/-- A run issues a command if and only if the arguments ask for it by the usage and the
control device opens, with the name and the numbers that were typed, and only once. -/
structure Accepts (world : World) (args : List Word) (run : Run) : Prop where
  issues : forall command, (Exists fun info => { command := command, info := info } ∈ run.issued) ↔
    Exists fun order => Reading.documented.Matches args order ∧ order.command = command ∧
      world.opens order.ctrl = true
  carries : forall order info, Reading.documented.Matches args order ->
    { command := order.command, info := info } ∈ run.issued -> order.Carried info
  once : run.issued.length ≤ 1

/-- With a control device that opens: where there is an option, the path has a `d` as its
second character if and only if the option is `-d`, and where there are numbers, those that
are read to their ends are numbers.  What is refused by both is in order. -/
def ReadAsMeant (world : World) (args : List Word) : Prop :=
  match args with
  | [_, ctrl, option, _] =>
      world.opens ctrl = true -> option.IsOption ->
        (world.charAt ctrl 1 = 'd' ↔ option.IsRelease)
  | [_, ctrl, name, src, dst] =>
      world.opens ctrl = true -> ¬ name.IsOption ->
        (world.number src).2 = true -> (world.number dst).2 = true ->
          src.IsNumber ∧ dst.IsNumber
  | [_, ctrl, option, _, src, dst] =>
      world.opens ctrl = true -> option.IsOption ->
        if world.charAt ctrl 1 = 'd' then
          (world.number src).2 = true -> (world.number dst).2 = true ->
            option.IsRelease ∧ src.IsNumber ∧ dst.IsNumber
        else option.IsRelease -> ¬ (src.IsNumber ∧ dst.IsNumber)
  | _ => True

/-! ## Characters and numbers -/

theorem charAt_zero (world : World) (word : Word) :
    world.charAt word 0 = '-' ↔ word.IsOption := by
  rw [World.charAt, Word.IsOption]
  cases word.chars with
  | nil =>
      have other : nul ≠ '-' := by decide
      exact iff_of_false other nofun
  | cons c rest => exact Option.some_inj.symm

theorem Word.IsRelease.isOption {word : Word} (release : word.IsRelease) : word.IsOption :=
  congrArg List.head? release

/-- A number is read to its end, as its value. -/
theorem number_of_isNumber (world : World) {word : Word} (number : word.IsNumber) :
    (world.number word).2 = true ∧ (world.number word).1.toNat = decimal word.chars := by
  have fits : decimal word.chars ≤ world.ulongMax :=
    Nat.le_of_lt_succ (Nat.lt_of_lt_of_le number.2 world.wide)
  rw [World.number, strtoul_decimal number.1 fits]
  exact ⟨rfl, Nat.mod_eq_of_lt number.2⟩

/-! ## The orders that the arguments match -/

variable {reading other : Reading} {program ctrl option name src dst : Word}
  {args : List Word} {order second : Order}

theorem Reading.Names.unique {rest : List Word} {address : Option (Word × Word)} {name' : Word}
    {address' : Option (Word × Word)} (first : reading.Names rest name address)
    (second : other.Names rest name' address') : name = name' ∧ address = address' := by
  cases first <;> cases second <;> exact ⟨rfl, rfl⟩

/-- Two readings may differ in the command, but not in what it is for. -/
theorem Reading.Matches.unique (first : reading.Matches args order)
    (again : other.Matches args second) (same : order.command = second.command) :
    order = second := by
  cases first with
  | create program ctrl plain names =>
      cases again with
      | create _ _ _ names' =>
          rcases names.unique names' with ⟨rfl, rfl⟩
          rfl
      | release => exact nomatch same
  | release program releases names =>
      cases again with
      | create => exact nomatch same
      | release _ _ names' =>
          rcases names.unique names' with ⟨rfl, rfl⟩
          rfl

theorem matches_three : reading.Matches [program, ctrl, name] order ↔
    ¬ name.IsOption ∧
      order = { ctrl := ctrl, command := .createDev, name := name, address := none } := by
  constructor
  · intro matched
    cases matched with
    | create _ _ plain names =>
        cases names with
        | alone => exact ⟨plain, rfl⟩
    | release _ _ names => cases names
  · rintro ⟨plain, rfl⟩
    exact .create program ctrl plain (.alone name)

theorem matches_four : reading.Matches [program, ctrl, option, name] order ↔
    reading.releases ctrl option ∧
      order = { ctrl := ctrl, command := .releaseDev, name := name, address := none } := by
  constructor
  · intro matched
    cases matched with
    | create _ _ _ names => cases names
    | release _ releases names =>
        cases names with
        | alone => exact ⟨releases, rfl⟩
  · rintro ⟨releases, rfl⟩
    exact .release program releases (.alone name)

theorem matches_five : reading.Matches [program, ctrl, name, src, dst] order ↔
    (¬ name.IsOption ∧ reading.number src ∧ reading.number dst) ∧
      order = { ctrl := ctrl, command := .createDev, name := name, address := some (src, dst) } := by
  constructor
  · intro matched
    cases matched with
    | create _ _ plain names =>
        cases names with
        | addressed _ srcNumber dstNumber => exact ⟨⟨plain, srcNumber, dstNumber⟩, rfl⟩
    | release _ _ names => cases names
  · rintro ⟨⟨plain, srcNumber, dstNumber⟩, rfl⟩
    exact .create program ctrl plain (.addressed name srcNumber dstNumber)

theorem matches_six : reading.Matches [program, ctrl, option, name, src, dst] order ↔
    (reading.releases ctrl option ∧ reading.number src ∧ reading.number dst) ∧
      order = { ctrl := ctrl, command := .releaseDev, name := name, address := some (src, dst) } := by
  constructor
  · intro matched
    cases matched with
    | create _ _ _ names => cases names
    | release _ releases names =>
        cases names with
        | addressed _ srcNumber dstNumber => exact ⟨⟨releases, srcNumber, dstNumber⟩, rfl⟩
  · rintro ⟨⟨releases, srcNumber, dstNumber⟩, rfl⟩
    exact .release program releases (.addressed name srcNumber dstNumber)

/-- No other number of arguments matches. -/
theorem Reading.Matches.length (matched : reading.Matches args order) :
    3 ≤ args.length ∧ args.length ≤ 6 := by
  cases matched with
  | create _ _ _ names => cases names <;> simp only [List.length_cons, List.length_nil] <;> omega
  | release _ _ names => cases names <;> simp only [List.length_cons, List.length_nil] <;> omega

/-! ## What the program issues -/

variable {world : World}

/-- What the program makes of an order.  Numbers that are missing are what `ept` held. -/
def Order.request (world : World) (order : Order) : Request where
  command := order.command
  info := {
    name := (strncpy world.stack.name order.name.chars nameSize).set (nameSize - 1) nul
    src :=
      match order.address with
      | none => world.stack.src
      | some (src, _) => (world.number src).1
    dst :=
      match order.address with
      | none => world.stack.dst
      | some (_, dst) => (world.number dst).1 }

/-- The command for the flag `release` -/
def Command.ofFlag (release : Bool) : Command :=
  if release then .releaseDev else .createDev

/-- Without numbers. -/
theorem exportDev_alone {release : Bool} (atCtrl : argument world args 1 = some ctrl)
    (atName : argument world args (2 + if release then 1 else 0) = some name)
    (short : args.length < 5) :
    (exportDev world args release).issued =
      if world.opens ctrl = true then
        [Order.request world
          { ctrl := ctrl, command := .ofFlag release, name := name, address := none }]
      else [] := by
  by_cases opens : world.opens ctrl = true
  · simp only [exportDev, follow, atCtrl, atName, opens, if_neg (Nat.not_le.mpr short), Bool.true_eq_false, if_false,
      if_true]
    rfl
  · rw [Bool.not_eq_true] at opens
    simp only [exportDev, follow, atCtrl, opens, if_true, Bool.false_eq_true, if_false]

/-- With numbers. -/
theorem exportDev_addressed {release : Bool} (atCtrl : argument world args 1 = some ctrl)
    (atName : argument world args (2 + if release then 1 else 0) = some name)
    (long : 5 ≤ args.length)
    (atSrc : argument world args (3 + if release then 1 else 0) = some src)
    (atDst : argument world args (4 + if release then 1 else 0) = some dst) :
    (exportDev world args release).issued =
      if ((world.number src).2 = true ∧ (world.number dst).2 = true) ∧ world.opens ctrl = true then
        [Order.request world
          { ctrl := ctrl, command := .ofFlag release, name := name, address := some (src, dst) }]
      else [] := by
  by_cases opens : world.opens ctrl = true
  · cases srcRead : (world.number src).2 with
    | false =>
        simp only [exportDev, follow, atCtrl, atName, atSrc, opens, long, srcRead, if_true,
          Bool.true_eq_false, Bool.false_eq_true, if_false, false_and, usage]
    | true =>
        cases dstRead : (world.number dst).2 with
        | false =>
            simp only [exportDev, follow, atCtrl, atName, atSrc, atDst, opens, long, srcRead,
              dstRead, if_true, Bool.true_eq_false, Bool.false_eq_true, if_false, false_and,
              and_false, usage]
        | true =>
            simp only [exportDev, follow, atCtrl, atName, atSrc, atDst, opens, long, srcRead,
              dstRead, if_true, Bool.true_eq_false, if_false, and_self]
            rfl
  · rw [if_neg fun both => opens both.2]
    rw [Bool.not_eq_true] at opens
    simp only [exportDev, follow, atCtrl, opens, if_true]

/-- An option takes two more arguments, or four. -/
theorem main_option {first second : Word} (atSecond : argument world args 2 = some second)
    (atFirst : argument world args 1 = some first) (isOption : second.IsOption)
    (counted : args.length = 4 ∨ args.length = 6) :
    (main world args).issued =
      if world.charAt first 1 = 'd' then (exportDev world args true).issued else [] := by
  have dash := (charAt_zero world second).mpr isOption
  have accepted : ¬ (args.length ≠ 4 ∧ args.length ≠ 6) := by omega
  simp only [main, follow, atSecond, atFirst, dash, if_true, if_neg accepted]
  by_cases isD : world.charAt first 1 = 'd'
  · rw [if_pos isD, if_pos isD]
  · rw [if_neg isD, if_neg isD]
    split <;> rfl

theorem main_option_refused {second : Word} (atSecond : argument world args 2 = some second)
    (isOption : second.IsOption) (uncounted : args.length ≠ 4 ∧ args.length ≠ 6) :
    (main world args).issued = [] := by
  have dash := (charAt_zero world second).mpr isOption
  simp only [main, follow, atSecond, dash, if_true, if_pos uncounted]
  cases argument world args 1 with
  | none => rfl
  | some first =>
      dsimp only
      split
      · rfl
      · split <;> rfl

/-- Without an option there is one more argument, or there are three. -/
theorem main_plain {second : Word} (atSecond : argument world args 2 = some second)
    (plain : ¬ second.IsOption) (counted : args.length = 3 ∨ args.length = 5) :
    main world args = exportDev world args false := by
  have noDash : world.charAt second 0 ≠ '-' := fun dash => plain ((charAt_zero world second).mp dash)
  have accepted : ¬ (args.length ≠ 3 ∧ args.length ≠ 5) := by omega
  simp only [main, follow, atSecond, if_neg noDash, if_neg accepted]

theorem main_plain_refused {second : Word} (atSecond : argument world args 2 = some second)
    (plain : ¬ second.IsOption) (uncounted : args.length ≠ 3 ∧ args.length ≠ 5) :
    (main world args).issued = [] := by
  have noDash : world.charAt second 0 ≠ '-' := fun dash => plain ((charAt_zero world second).mp dash)
  simp only [main, follow, atSecond, if_neg noDash, if_pos uncounted]
  rfl

/-- Whatever lies behind the arguments, with another number of them nothing is issued. -/
theorem main_other (other : args.length < 3 ∨ 6 < args.length) :
    (main world args).issued = [] := by
  cases atSecond : argument world args 2 with
  | none => simp only [main, follow, atSecond]
  | some second =>
      by_cases isOption : second.IsOption
      · exact main_option_refused atSecond isOption (by omega)
      · exact main_plain_refused atSecond isOption (by omega)

/-- A run issues what the program's own reading of the arguments asks for. -/
structure Serves (world : World) (args : List Word) (run : Run) : Prop where
  issued : forall request, request ∈ run.issued ↔
    Exists fun order => (Reading.coded world).Matches args order ∧
      world.opens order.ctrl = true ∧ request = order.request world
  once : run.issued.length ≤ 1

/-- Arguments that can ask for one thing only. -/
theorem serves_of {run : Run} {accepted : Prop} [Decidable accepted] {asked : Order}
    (matched : forall order, (Reading.coded world).Matches args order ↔
      accepted ∧ order = asked)
    (issued : run.issued =
      if accepted ∧ world.opens asked.ctrl = true then [asked.request world] else []) :
    Serves world args run where
  issued := by
    intro request
    rw [issued]
    constructor
    · intro member
      split at member
      · rename_i both
        exact ⟨asked, (matched asked).mpr ⟨both.1, rfl⟩, both.2, List.mem_singleton.mp member⟩
      · exact nomatch member
    · rintro ⟨order, asks, opens, rfl⟩
      rcases (matched order).mp asks with ⟨holds, rfl⟩
      rw [if_pos ⟨holds, opens⟩]
      exact List.mem_singleton.mpr rfl
  once := by
    rw [issued]
    split <;> simp only [List.length_cons, List.length_nil] <;> omega

theorem serves_other (other : args.length < 3 ∨ 6 < args.length) :
    Serves world args (main world args) where
  issued := by
    intro request
    rw [main_other other]
    refine iff_of_false nofun ?_
    rintro ⟨order, asks, _⟩
    have counted := asks.length
    omega
  once := by
    rw [main_other other]
    exact Nat.zero_le 1

theorem serves_three (program ctrl name : Word) :
    Serves world [program, ctrl, name] (main world [program, ctrl, name]) := by
  apply serves_of fun order => matches_three
  have counted : [program, ctrl, name].length = 3 := rfl
  by_cases isOption : name.IsOption
  · rw [main_option_refused rfl isOption (by omega)]
    simp only [isOption, not_true_eq_false, false_and, if_false]
  · rw [main_plain rfl isOption (Or.inl counted), exportDev_alone rfl rfl (by omega)]
    simp only [isOption, not_false_eq_true, true_and]
    rfl

theorem serves_four (program ctrl option name : Word) :
    Serves world [program, ctrl, option, name] (main world [program, ctrl, option, name]) := by
  apply serves_of fun order => matches_four
  have counted : [program, ctrl, option, name].length = 4 := rfl
  by_cases isOption : option.IsOption
  · rw [main_option rfl rfl isOption (Or.inl counted), exportDev_alone rfl rfl (by omega)]
    by_cases isD : world.charAt ctrl 1 = 'd'
    · simp only [Reading.coded, isD, isOption, and_self, true_and, if_true]
      rfl
    · simp only [Reading.coded, isD, and_false, false_and, if_false]
  · rw [main_plain_refused rfl isOption (by omega)]
    simp only [Reading.coded, isOption, false_and, if_false]

theorem serves_five (program ctrl name src dst : Word) :
    Serves world [program, ctrl, name, src, dst] (main world [program, ctrl, name, src, dst]) := by
  apply serves_of fun order => matches_five
  have counted : [program, ctrl, name, src, dst].length = 5 := rfl
  by_cases isOption : name.IsOption
  · rw [main_option_refused rfl isOption (by omega)]
    simp only [isOption, not_true_eq_false, false_and, if_false]
  · rw [main_plain rfl isOption (Or.inr counted),
      exportDev_addressed rfl rfl (Nat.le_of_eq counted.symm) rfl rfl]
    simp only [Reading.coded, isOption, not_false_eq_true, true_and]
    rfl

theorem serves_six (program ctrl option name src dst : Word) :
    Serves world [program, ctrl, option, name, src, dst]
      (main world [program, ctrl, option, name, src, dst]) := by
  apply serves_of fun order => matches_six
  have counted : [program, ctrl, option, name, src, dst].length = 6 := rfl
  by_cases isOption : option.IsOption
  · rw [main_option rfl rfl isOption (Or.inr counted),
      exportDev_addressed rfl rfl (by omega) rfl rfl]
    by_cases isD : world.charAt ctrl 1 = 'd'
    · simp only [Reading.coded, isD, isOption, and_self, true_and, if_true]
      rfl
    · simp only [Reading.coded, isD, and_false, false_and, if_false]
  · rw [main_plain_refused rfl isOption (by omega)]
    simp only [Reading.coded, isOption, false_and, if_false]

/-- The program reads its arguments by a usage of the same form. -/
theorem main_serves (world : World) (args : List Word) : Serves world args (main world args) :=
  match args with
  | [] => serves_other (Or.inl (Nat.zero_lt_succ 2))
  | [_] => serves_other (Or.inl (Nat.lt_add_of_pos_left (Nat.zero_lt_succ 1)))
  | [_, _] => serves_other (Or.inl (Nat.lt_succ_self 2))
  | [program, ctrl, name] => serves_three program ctrl name
  | [program, ctrl, option, name] => serves_four program ctrl option name
  | [program, ctrl, name, src, dst] => serves_five program ctrl name src dst
  | [program, ctrl, option, name, src, dst] => serves_six program ctrl option name src dst
  | _ :: _ :: _ :: _ :: _ :: _ :: _ :: rest =>
      serves_other (Or.inr (Nat.lt_add_left rest.length (Nat.lt_succ_self 6)))

/-- The program has issued one call and returns its answer, or it has said why it did not and
exits. -/
def Orderly (world : World) (run : Run) : Prop :=
  (run.issued = [] ∧ run.printed ≠ [] ∧ run.ending = .exited 1) ∨
    Exists fun request => run.issued = [request] ∧
      run.ending = .returned (world.answers request)

theorem usage_orderly (printed : List Message) : Orderly world (usage printed) :=
  Or.inl ⟨rfl, List.append_ne_nil_of_right_ne_nil printed (List.cons_ne_nil _ _), rfl⟩

theorem argument_of_lt {index : Nat} (inside : index < args.length) :
    argument world args index = some args[index] := by
  have inFront : index < (args.map some).length := by
    rwa [List.length_map]
  rw [argument, List.getElem?_append_left inFront, List.getElem?_map,
    List.getElem?_eq_getElem inside]
  rfl

theorem exportDev_orderly {release : Bool} (name : 2 + (if release then 1 else 0) < args.length)
    (numbers : 5 ≤ args.length -> 4 + (if release then 1 else 0) < args.length) :
    Orderly world (exportDev world args release) := by
  unfold exportDev
  dsimp only
  generalize (if release then 1 else 0) = shift at name numbers ⊢
  have ctrl : 1 < args.length := by omega
  simp only [argument_of_lt ctrl, argument_of_lt name, follow]
  split
  · exact Or.inl ⟨rfl, List.cons_ne_nil _ _, rfl⟩
  · split
    · rename_i long
      have dst := numbers long
      have src : 3 + shift < args.length := by omega
      simp only [argument_of_lt src, argument_of_lt dst]
      split
      · exact usage_orderly []
      · split
        · exact usage_orderly []
        · exact Or.inr ⟨_, rfl, rfl⟩
    · exact Or.inr ⟨_, rfl, rfl⟩

/-- With at least two arguments no pointer is followed that is not there. -/
theorem main_orderly (enough : 3 ≤ args.length) : Orderly world (main world args) := by
  have first : 1 < args.length := by omega
  have second : 2 < args.length := by omega
  simp only [main, argument_of_lt first, argument_of_lt second, follow]
  split
  · split
    · split
      · exact usage_orderly []
      · apply exportDev_orderly
        · simp only [if_true]
          omega
        · simp only [if_true]
          omega
    · split
      · exact usage_orderly []
      · exact usage_orderly [.invalidOption]
  · split
    · exact usage_orderly []
    · apply exportDev_orderly
      · simp only [Bool.false_eq_true, if_false]
        omega
      · simp only [Bool.false_eq_true, if_false]
        omega

/-! ## When it accepts exactly the usage -/

theorem Order.request_carried (order : Order)
    (numbers : forall src dst, order.address = some (src, dst) -> src.IsNumber ∧ dst.IsNumber) :
    order.Carried (order.request world).info where
  name := strncpy_cut_holds world.stack.name order.name.chars (nameSize - 1)
  address := by
    intro src dst typed
    rcases numbers src dst typed with ⟨srcNumber, dstNumber⟩
    simp only [Order.request, typed]
    exact ⟨(number_of_isNumber world srcNumber).2, (number_of_isNumber world dstNumber).2⟩

theorem Reading.Matches.numbers (matched : reading.Matches args order)
    (typed : order.address = some (src, dst)) :
    reading.number src ∧ reading.number dst := by
  cases matched with
  | create _ _ _ names =>
      cases names with
      | alone => exact nomatch typed
      | addressed _ srcNumber dstNumber =>
          cases typed
          exact ⟨srcNumber, dstNumber⟩
  | release _ _ names =>
      cases names with
      | alone => exact nomatch typed
      | addressed _ srcNumber dstNumber =>
          cases typed
          exact ⟨srcNumber, dstNumber⟩

/-- The two readings agree on what can be ordered from a device that opens. -/
def Agree (world : World) (args : List Word) : Prop :=
  forall order, world.opens order.ctrl = true ->
    ((Reading.coded world).Matches args order ↔ Reading.documented.Matches args order)

theorem accepts_iff_agree (world : World) (args : List Word) :
    Accepts world args (main world args) ↔ Agree world args := by
  have serves := main_serves world args
  constructor
  · intro accepts order opens
    constructor
    · intro asks
      have issued := (serves.issued (order.request world)).mpr ⟨order, asks, opens, rfl⟩
      rcases (accepts.issues order.command).mp ⟨_, issued⟩ with ⟨meant, matched, same, _⟩
      rwa [asks.unique matched same.symm]
    · intro matched
      rcases (accepts.issues order.command).mpr ⟨order, matched, rfl, opens⟩ with ⟨info, issued⟩
      rcases (serves.issued _).mp issued with ⟨asked, asks, _, same⟩
      have command : order.command = asked.command := congrArg Request.command same
      rwa [matched.unique asks command]
  · intro agree
    exact {
      issues := by
        intro command
        constructor
        · rintro ⟨info, issued⟩
          rcases (serves.issued _).mp issued with ⟨order, asks, opens, same⟩
          exact ⟨order, (agree order opens).mp asks, (congrArg Request.command same).symm, opens⟩
        · rintro ⟨order, matched, rfl, opens⟩
          exact ⟨_, (serves.issued (order.request world)).mpr
            ⟨order, (agree order opens).mpr matched, opens, rfl⟩⟩
      carries := by
        intro order info matched issued
        rcases (serves.issued _).mp issued with ⟨asked, asks, _, same⟩
        have command : order.command = asked.command := congrArg Request.command same
        cases matched.unique asks command
        have sent : info = (order.request world).info := congrArg Request.info same
        rw [sent]
        exact order.request_carried fun src dst typed => matched.numbers typed
      once := serves.once }

/-- Arguments that can ask for one thing only, by either reading. -/
theorem agree_iff_of {accepted meant : Prop} {asked : Order}
    (codedMatches : forall order, (Reading.coded world).Matches args order ↔
      accepted ∧ order = asked)
    (documentedMatches : forall order, Reading.documented.Matches args order ↔
      meant ∧ order = asked) :
    Agree world args ↔ (world.opens asked.ctrl = true -> (accepted ↔ meant)) := by
  constructor
  · intro agree opens
    have same := agree asked opens
    rw [codedMatches, documentedMatches] at same
    simpa only [and_true] using same
  · intro same order opens
    rw [codedMatches, documentedMatches]
    constructor
    · rintro ⟨holds, rfl⟩
      exact ⟨(same opens).mp holds, rfl⟩
    · rintro ⟨holds, rfl⟩
      exact ⟨(same opens).mpr holds, rfl⟩

theorem agree_other (other : args.length < 3 ∨ 6 < args.length) : Agree world args := by
  intro order _
  constructor
  · intro asks
    have counted := asks.length
    omega
  · intro matched
    have counted := matched.length
    omega

theorem agree_three : Agree world [program, ctrl, name] := by
  rw [agree_iff_of (fun order => matches_three) (fun order => matches_three)]
  exact fun _ => Iff.rfl

theorem agree_four : Agree world [program, ctrl, option, name] ↔
    ReadAsMeant world [program, ctrl, option, name] := by
  rw [agree_iff_of (fun order => matches_four) (fun order => matches_four)]
  refine forall_congr' fun opens => ?_
  constructor
  · intro same isOption
    exact ⟨fun isD => same.mp ⟨isOption, isD⟩, fun release => (same.mpr release).2⟩
  · intro same
    exact ⟨fun both => (same both.1).mp both.2,
      fun release => ⟨release.isOption, (same release.isOption).mpr release⟩⟩

theorem agree_five : Agree world [program, ctrl, name, src, dst] ↔
    ReadAsMeant world [program, ctrl, name, src, dst] := by
  rw [agree_iff_of (fun order => matches_five) (fun order => matches_five)]
  refine forall_congr' fun opens => ?_
  constructor
  · intro same plain srcRead dstRead
    exact (same.mp ⟨plain, srcRead, dstRead⟩).2
  · intro numbers
    constructor
    · rintro ⟨plain, srcRead, dstRead⟩
      exact ⟨plain, numbers plain srcRead dstRead⟩
    · rintro ⟨plain, srcNumber, dstNumber⟩
      exact ⟨plain, (number_of_isNumber world srcNumber).1, (number_of_isNumber world dstNumber).1⟩

theorem agree_six : Agree world [program, ctrl, option, name, src, dst] ↔
    ReadAsMeant world [program, ctrl, option, name, src, dst] := by
  rw [agree_iff_of (fun order => matches_six) (fun order => matches_six)]
  refine forall_congr' fun opens => ?_
  by_cases isD : world.charAt ctrl 1 = 'd'
  · rw [if_pos isD]
    constructor
    · intro same isOption srcRead dstRead
      exact same.mp ⟨⟨isOption, isD⟩, srcRead, dstRead⟩
    · intro meant
      constructor
      · rintro ⟨⟨isOption, _⟩, srcRead, dstRead⟩
        exact meant isOption srcRead dstRead
      · rintro ⟨release, srcNumber, dstNumber⟩
        exact ⟨⟨release.isOption, isD⟩, (number_of_isNumber world srcNumber).1,
          (number_of_isNumber world dstNumber).1⟩
  · rw [if_neg isD]
    constructor
    · intro same isOption release numbers
      exact isD (same.mpr ⟨release, numbers⟩).1.2
    · intro refused
      constructor
      · exact fun accepted => absurd accepted.1.2 isD
      · exact fun meant => absurd meant.2 (refused meant.1.isOption meant.1)

/-- The program accepts exactly the usage if and only if its arguments are read as they are
meant: the option by the path, and the numbers by `strtoul()`. The arguments are any words, in
any number, and what the file system answers is arbitrary; an option is looked for where the path
stands. -/
theorem accepts_iff_readAsMeant (world : World) (args : List Word) :
    Accepts world args (main world args) ↔ ReadAsMeant world args := by
  rw [accepts_iff_agree]
  match args with
  | [] => exact iff_of_true (agree_other (Or.inl (Nat.zero_lt_succ 2))) trivial
  | [_] =>
      exact iff_of_true (agree_other (Or.inl (Nat.lt_add_of_pos_left (Nat.zero_lt_succ 1)))) trivial
  | [_, _] => exact iff_of_true (agree_other (Or.inl (Nat.lt_succ_self 2))) trivial
  | [_, _, _] => exact iff_of_true agree_three trivial
  | [_, _, _, _] => exact agree_four
  | [_, _, _, _, _] => exact agree_five
  | [_, _, _, _, _, _] => exact agree_six
  | _ :: _ :: _ :: _ :: _ :: _ :: _ :: rest =>
      exact iff_of_true
        (agree_other (Or.inr (Nat.lt_add_left rest.length (Nat.lt_succ_self 6)))) trivial

/-- A platform where every device opens, an `unsigned long` has 64 bits and every call
succeeds. -/
def working : World where
  behind := []
  past := nul
  ulongMax := 2 ^ 64 - 1
  wide := by decide
  stack := { name := List.replicate 32 nul, src := 0, dst := 0 }
  opens := fun _ => true
  answers := fun _ => 0

def word (chars : List Char) (proper : nul ∉ chars) : Word where
  chars := chars
  proper := proper

/-- `rpmsg_export_dev /dev/rpmsg_ctrl0 -x foo` -/
def otherOption : List Word :=
  [word "rpmsg_export_dev".toList (by decide), word "/dev/rpmsg_ctrl0".toList (by decide),
    word "-x".toList (by decide), word "foo".toList (by decide)]

/-- `rpmsg_export_dev rpmsg_ctrl0 -d foo` -/
def relativePath : List Word :=
  [word "rpmsg_export_dev".toList (by decide), word "rpmsg_ctrl0".toList (by decide),
    word "-d".toList (by decide), word "foo".toList (by decide)]

/-- An option that does not exist releases the device, and `-d` is refused for a path that
does not begin like `/dev`. -/
theorem otherOption_not_accepted :
    ((main working otherOption).issued.map Request.command = [.releaseDev] ∧
        ¬ Accepts working otherOption (main working otherOption)) ∧
      main working relativePath = usage [.invalidOption] ∧
        ¬ Accepts working relativePath (main working relativePath) := by
  have released : (main working otherOption).issued.map Request.command = [.releaseDev] := rfl
  have refused : main working relativePath = usage [.invalidOption] := rfl
  refine ⟨⟨released, fun accepts => ?_⟩, refused, fun accepts => ?_⟩
  · have member : Command.releaseDev ∈ (main working otherOption).issued.map Request.command := by
      rw [released]
      exact List.mem_singleton.mpr rfl
    rcases List.mem_map.mp member with ⟨⟨command, info⟩, issued, rfl⟩
    rcases (accepts.issues .releaseDev).mp ⟨info, issued⟩ with ⟨order, matched, _⟩
    have release : (word "-x".toList (by decide)).IsRelease := (matches_four.mp matched).1
    revert release
    rw [Word.IsRelease]
    decide
  · have release : (word "-d".toList (by decide)).IsRelease := rfl
    rcases (accepts.issues .releaseDev).mpr ⟨_, matches_four.mpr ⟨release, rfl⟩, rfl, rfl⟩ with
      ⟨info, issued⟩
    rw [refused] at issued
    exact nomatch issued

end ExportDev
end OpenAmpReference
