import OpenAmpReference.LegacyApps.EchoPing

namespace OpenAmpReference
namespace EchoTest

/-!
# The echo test under Linux

In each round the test sends payloads of growing size.  After each one it
reads without blocking until it gets something, compares the data with the
filling it has sent, and reads once more, whatever that read may return.  The
data are of type `char`, so how a byte compares with `0xA5` depends on the
platform.
-/

open EchoPing (fillPayload sizeofPayload marker)
open EchoPing.World (IsPayload)

/-- `NUM_PAYLOADS` -/
def numPayloads : Nat := 472

/-- The room for data in `i_payload` and `r_payload`, `PAYLOAD_MAX_SIZE` -/
def payloadMaxSize : Nat := 472

/-- How the platform is built and how the test is called. -/
structure Config where
  charIsSigned : Bool
  ntimes : Int
  deriving DecidableEq, Repr

/-- The value of a `char` in a comparison. -/
def promoted (charIsSigned : Bool) (byte : UInt8) : Int :=
  if charIsSigned then byte.toInt8.toInt else byte.toNat

/-- `r_payload->data[k] != 0xA5` for some `k < r_payload->size` -/
def corrupted (charIsSigned : Bool) (rPayload : ByteMemory) : Prop :=
  Exists fun k => k < rPayload.readLong 8 ∧ promoted charIsSigned (rPayload (16 + k)) ≠ 0xA5

instance (charIsSigned : Bool) (rPayload : ByteMemory) :
    Decidable (corrupted charIsSigned rPayload) :=
  inferInstanceAs (Decidable (Exists fun k => k < rPayload.readLong 8 ∧
    promoted charIsSigned (rPayload (16 + k)) ≠ 0xA5))

/-- The same within `r_payload->data`.  With a larger size field the loop goes on behind the
allocation, and what it reads there proves nothing about the echo. -/
def corruptedInside (charIsSigned : Bool) (rPayload : ByteMemory) : Prop :=
  Exists fun k => k < min (rPayload.readLong 8) payloadMaxSize ∧
    promoted charIsSigned (rPayload (16 + k)) ≠ 0xA5

instance (charIsSigned : Bool) (rPayload : ByteMemory) :
    Decidable (corruptedInside charIsSigned rPayload) :=
  inferInstanceAs (Decidable (Exists fun k => k < min (rPayload.readLong 8) payloadMaxSize ∧
    promoted charIsSigned (rPayload (16 + k)) ≠ 0xA5))

inductive Stage
  | atRound
  | sending
  | polling
  | discarding
  | done
  deriving DecidableEq, Repr

/-- What is known at the end of a round: whether every echo up to then was the message that
was sent, whether some echo of the round was not, and the counts of errors. -/
structure RoundEnd where
  faithful : Bool
  differed : Bool
  errBefore : Nat
  errCnt : Nat
  deriving DecidableEq, Repr

/-- The test, with a record of what was read and of the rounds that have ended. -/
structure World where
  stage : Stage
  j : Int
  i : Nat
  size : Nat
  errCnt : Nat
  iPayload : ByteMemory
  rPayload : ByteMemory
  faithful : Bool
  differed : Bool
  errBefore : Nat
  ended : List RoundEnd

namespace World

/-- The start of the rounds, with what `malloc()` has left in the payloads. -/
def initial (iPayload rPayload : ByteMemory) : World where
  stage := Stage.atRound
  j := 0
  i := 0
  size := 0
  errCnt := 0
  iPayload := iPayload
  rPayload := rPayload
  faithful := true
  differed := false
  errBefore := 0
  ended := []

/-- The end of a round, where the count of errors is printed. -/
def endRound (world : World) : World :=
  { world with
    stage := Stage.atRound
    j := world.j + 1
    ended := world.ended ++
      [{ faithful := world.faithful, differed := world.differed, errBefore := world.errBefore,
         errCnt := world.errCnt }] }

/-- The test of the loop over the payloads, and its body up to `write()` -/
def nextPayload (world : World) (i size : Nat) : World :=
  if i < numPayloads then
    { world with
      stage := Stage.sending
      i := i
      size := size
      iPayload := fillPayload world.iPayload i size }
  else { world with i := i, size := size }.endRound

/-- The test of the loop over the rounds -/
def nextRound (config : Config) (world : World) : World :=
  if world.j < config.ntimes then
    { world with differed := false, errBefore := world.errCnt }.nextPayload 0 1
  else { world with stage := Stage.done }

/-- The bytes that are written -/
def message (world : World) : List UInt8 :=
  world.iPayload.readBytes 0 (sizeofPayload + world.size)

/-- `write()` returns. -/
def writeReturned (world : World) (sent : Bool) : World :=
  if sent then { world with stage := Stage.polling, rPayload := world.rPayload.writeLong 0 0 }
  else world.endRound

/-- Bytes are read into `r_payload`. -/
def received (world : World) (bytes : List UInt8) : World :=
  { world with
    rPayload := world.rPayload.writeBytes 0 bytes
    faithful := world.faithful && decide (bytes = world.message)
    differed := world.differed || decide (bytes ≠ world.message) }

/-- The comparison of the data -/
def validate (config : Config) (world : World) : World :=
  { world with
    stage := Stage.discarding
    errCnt :=
      if corrupted config.charIsSigned world.rPayload then world.errCnt + 1 else world.errCnt }

/-- `read()` returns in the loop that waits for the echo. -/
def polled (config : Config) (world : World) (result : Option (List UInt8)) : World :=
  match result with
  | some bytes => (world.received bytes).validate config
  | none => world

/-- The second `read()` returns. -/
def discarded (world : World) (result : Option (List UInt8)) : World :=
  match result with
  | some bytes => (world.received bytes).nextPayload (world.i + 1) (world.size + 1)
  | none => world.nextPayload (world.i + 1) (world.size + 1)

end World

inductive Event
  | round
  | write (sent : Bool)
  | read (result : Option (List UInt8))

/-- What `read()` can return for a buffer of that size. -/
def readable : Option (List UInt8) -> Prop
  | some bytes => 0 < bytes.length ∧ bytes.length ≤ sizeofPayload + payloadMaxSize
  | none => True

instance : (result : Option (List UInt8)) -> Decidable (readable result)
  | some _ => inferInstanceAs (Decidable (_ ∧ _))
  | none => isTrue trivial

open World in
def step (config : Config) (world : World) (event : Event) : Option World :=
  match event with
  | Event.round => if world.stage = Stage.atRound then some (nextRound config world) else none
  | Event.write sent =>
      if world.stage = Stage.sending then some (world.writeReturned sent) else none
  | Event.read result =>
      if readable result then
        match world.stage with
        | Stage.polling => some (polled config world result)
        | Stage.discarding => some (world.discarded result)
        | Stage.atRound | Stage.sending | Stage.done => none
      else none

/-- The count is zero as long as every echo is the message, and has grown in every round in
which one is not. -/
structure Exact (world : World) : Prop where
  noFalseAlarm : forall round, round ∈ world.ended -> round.faithful = true -> round.errCnt = 0
  detects : forall round, round ∈ world.ended -> round.differed = true ->
    round.errBefore < round.errCnt

/-- The echo is judged rightly: it is the message and bytes compare as unsigned numbers, or
it is not and a byte of `r_payload->data` within its size field is not the filling.  What is
read after it is the message or nothing. -/
def Judged (config : Config) (world : World) (event : Event) : Prop :=
  match event with
  | Event.read (some bytes) =>
      if bytes = world.message then config.charIsSigned = false
      else world.stage = Stage.polling ∧
        corruptedInside config.charIsSigned (world.rPayload.writeBytes 0 bytes)
  | _ => True

instance judgedDecidable (config : Config) (world : World) :
    (event : Event) -> Decidable (Judged config world event)
  | Event.read (some bytes) =>
      inferInstanceAs (Decidable (if bytes = world.message then _ else _))
  | Event.read none | Event.round | Event.write _ => isTrue trivial

/-! ## The comparison -/

variable {config : Config} {world : World}

/-- An unsigned byte equals `0xA5` if it is that byte. -/
theorem promoted_marker : promoted false marker = 0xA5 := by
  rfl

/-- The echo of a payload shows no corruption where `char` is unsigned. -/
theorem not_corrupted_payload {number : Nat} {bytes : List UInt8}
    (payload : IsPayload number bytes) (rPayload : ByteMemory) :
    ¬ corrupted false (rPayload.writeBytes 0 bytes) := by
  rintro ⟨k, inside, differs⟩
  rw [payload.size] at inside
  rw [payload.marked rPayload k inside, promoted_marker] at differs
  exact differs rfl

/-- The loop finds what differs within the data. -/
theorem corrupted_of_inside {charIsSigned : Bool} {rPayload : ByteMemory}
    (inside : corruptedInside charIsSigned rPayload) : corrupted charIsSigned rPayload := by
  rcases inside with ⟨k, within, differs⟩
  exact ⟨k, Nat.lt_of_lt_of_le within (Nat.min_le_left _ _), differs⟩

/-! ## The invariant -/

/-- The payload that was filled in is the one of the loop. -/
def StageOk (world : World) : Prop :=
  match world.stage with
  | Stage.sending | Stage.polling | Stage.discarding =>
      IsPayload world.i world.message ∧ world.size = world.i + 1
  | Stage.atRound | Stage.done => True

/-- What the counts of errors say of the echoes so far, wherever the test is. -/
structure Counted (world : World) : Prop where
  exact : Exact world
  noFalseAlarm : world.faithful = true -> world.errCnt = 0
  grown : world.errBefore ≤ world.errCnt
  detects : world.differed = true -> world.errBefore < world.errCnt

structure Ok (world : World) : Prop where
  counted : Counted world
  stage : StageOk world

theorem ok_initial (iPayload rPayload : ByteMemory) : Ok (World.initial iPayload rPayload) where
  counted := {
    exact := { noFalseAlarm := nofun, detects := nofun }
    noFalseAlarm := fun _ => rfl
    grown := Nat.le_refl 0
    detects := nofun }
  stage := trivial

/-! ## The loops -/

theorem Counted.endRound (counted : Counted world) : Ok world.endRound := by
  refine { counted := { counted with exact := ?_ }, stage := trivial }
  constructor
  · intro round listed
    rcases List.mem_append.mp listed with before | last
    · exact counted.exact.noFalseAlarm round before
    · cases List.mem_singleton.mp last
      exact counted.noFalseAlarm
  · intro round listed
    rcases List.mem_append.mp listed with before | last
    · exact counted.exact.detects round before
    · cases List.mem_singleton.mp last
      exact counted.detects

theorem Counted.nextPayload (counted : Counted world) (number : Nat) :
    Ok (world.nextPayload number (number + 1)) := by
  unfold World.nextPayload
  split
  · rename_i more
    have small : number + 17 < 2 ^ 31 := by
      rw [numPayloads] at more
      omega
    have filled := EchoPing.World.isPayload_fill world.iPayload small
    exact { counted := { counted with exact := { counted.exact with } }, stage := ⟨filled, rfl⟩ }
  · exact @Counted.endRound { world with i := number, size := number + 1 }
      { counted with exact := { counted.exact with } }

theorem Counted.nextRound (counted : Counted world) : Ok (World.nextRound config world) := by
  unfold World.nextRound
  split
  · have fresh : Counted { world with differed := false, errBefore := world.errCnt } :=
      { counted with
        exact := { counted.exact with }
        grown := Nat.le_refl _
        detects := nofun }
    exact fresh.nextPayload 0
  · exact { counted := { counted with exact := { counted.exact with } }, stage := trivial }

/-! ## What is read -/

/-- The message is read back. -/
theorem received_message (world : World) :
    world.received world.message =
      { world with rPayload := world.rPayload.writeBytes 0 world.message } := by
  simp only [World.received, decide_true, Bool.and_true, ne_eq, not_true_eq_false, decide_false,
    Bool.or_false]

/-- The message that was sent is counted as no error. -/
theorem Ok.echoes (ok : Ok world) (polls : world.stage = Stage.polling)
    (unsigned : config.charIsSigned = false) :
    Ok ((world.received world.message).validate config) := by
  have stage := ok.stage
  rw [StageOk, polls] at stage
  have clean : ¬ corrupted config.charIsSigned (world.rPayload.writeBytes 0 world.message) := by
    rw [unsigned]
    exact not_corrupted_payload stage.1 world.rPayload
  rw [received_message, World.validate, if_neg clean]
  exact { counted := { ok.counted with exact := { ok.counted.exact with } }, stage := stage }

/-- An echo that shows its corruption is counted as an error. -/
theorem Ok.corrupts (ok : Ok world) (polls : world.stage = Stage.polling) {bytes : List UInt8}
    (different : bytes ≠ world.message)
    (shows : corrupted config.charIsSigned (world.rPayload.writeBytes 0 bytes)) :
    Ok ((world.received bytes).validate config) := by
  have stage := ok.stage
  rw [StageOk, polls] at stage
  have counts : ((world.received bytes).validate config).errCnt = world.errCnt + 1 := by
    have found : corrupted config.charIsSigned (world.received bytes).rPayload := shows
    simp only [World.validate, if_pos found]
    rfl
  have doubted : ((world.received bytes).validate config).faithful = false := by
    show (world.faithful && decide (bytes = world.message)) = false
    rw [decide_eq_false different, Bool.and_false]
  have more : world.errBefore < ((world.received bytes).validate config).errCnt := by
    rw [counts]
    exact Nat.lt_succ_of_le ok.counted.grown
  exact {
    counted := {
      exact := { ok.counted.exact with }
      noFalseAlarm := by
        rw [doubted]
        nofun
      grown := Nat.le_of_lt more
      detects := fun _ => more }
    stage := stage }

theorem Ok.polled (ok : Ok world) (polls : world.stage = Stage.polling)
    {result : Option (List UInt8)} (judged : Judged config world (Event.read result)) :
    Ok (World.polled config world result) := by
  cases result with
  | none => exact ok
  | some bytes =>
      by_cases same : bytes = world.message
      · rw [Judged, if_pos same] at judged
        subst same
        exact ok.echoes polls judged
      · rw [Judged, if_neg same] at judged
        exact ok.corrupts polls same (corrupted_of_inside judged.2)

theorem Ok.discarded (ok : Ok world) (discards : world.stage = Stage.discarding)
    {result : Option (List UInt8)} (judged : Judged config world (Event.read result)) :
    Ok (world.discarded result) := by
  have stage := ok.stage
  rw [StageOk, discards] at stage
  rw [World.discarded.eq_def, stage.2]
  cases result with
  | none => exact ok.counted.nextPayload (world.i + 1)
  | some bytes =>
      have same : bytes = world.message := by
        by_contra different
        rw [Judged, if_neg different, discards] at judged
        exact nomatch judged.1
      subst same
      dsimp only
      rw [received_message]
      exact @Counted.nextPayload
        { world with rPayload := world.rPayload.writeBytes 0 world.message }
        { ok.counted with exact := { ok.counted.exact with } } (world.i + 1)

/-! ## Runs -/

theorem Ok.step {next : World} {event : Event} (ok : Ok world) (judged : Judged config world event)
    (moved : EchoTest.step config world event = some next) : Ok next := by
  cases event with
  | round =>
      simp only [EchoTest.step, Option.ite_none_right_eq_some, Option.some.injEq] at moved
      exact moved.2 ▸ ok.counted.nextRound
  | write sent =>
      simp only [EchoTest.step, Option.ite_none_right_eq_some, Option.some.injEq] at moved
      rcases moved with ⟨sends, rfl⟩
      have stage := ok.stage
      rw [StageOk, sends] at stage
      cases sent with
      | false => exact ok.counted.endRound
      | true =>
          exact { counted := { ok.counted with exact := { ok.counted.exact with } }
                  stage := stage }
  | read result =>
      simp only [EchoTest.step, Option.ite_none_right_eq_some] at moved
      rcases moved with ⟨_, moved⟩
      cases place : world.stage with
      | polling =>
          simp only [place, Option.some.injEq] at moved
          exact moved ▸ ok.polled place judged
      | discarding =>
          simp only [place, Option.some.injEq] at moved
          exact moved ▸ ok.discarded place judged
      | atRound | sending | done => simp only [place, reduceCtorEq] at moved

/-- The count of errors is exact in every run whose echoes are judged rightly. The platform's
`char`, the number of rounds, what `malloc()` has left and every result of `read()` and `write()`
are arbitrary. The condition is on what is read and on the state it finds: the comparison looks
at no byte beyond the size field, and what the second `read()` of a turn returns is not compared
at all. -/
theorem judged_exact (config : Config) (iPayload rPayload : ByteMemory) (schedule : List Event)
    (judged : Transition.Guarded (Judged config) (step config)
      (World.initial iPayload rPayload) schedule) :
    Transition.Always Exact (step config) (World.initial iPayload rPayload) schedule := by
  apply Transition.always_of_guarded Ok
  · exact fun _ ok => ok.counted.exact
  · exact fun _ _ _ ok met moved => ok.step met moved
  · exact ok_initial iPayload rPayload
  · exact judged

/-- One round, which ends after its first payload has come back. -/
def oneEcho : List Event :=
  [Event.round, Event.write true, Event.read none,
    Event.read (some [0, 0, 0, 0, 0, 0, 0, 0, 1, 0, 0, 0, 0, 0, 0, 0, 0xA5]), Event.read none,
    Event.write false]

theorem oneEcho_exact :
    Transition.Guarded (Judged { charIsSigned := false, ntimes := 1 })
        (step { charIsSigned := false, ntimes := 1 })
        (World.initial (fun _ => 0) fun _ => 0) oneEcho ∧
      Transition.Always Exact (step { charIsSigned := false, ntimes := 1 })
        (World.initial (fun _ => 0) fun _ => 0) oneEcho := by
  have judged : Transition.Guarded (Judged { charIsSigned := false, ntimes := 1 })
      (step { charIsSigned := false, ntimes := 1 })
      (World.initial (fun _ => 0) fun _ => 0) oneEcho := by decide
  exact ⟨judged, judged_exact _ _ _ _ judged⟩

/-- Where `char` is signed a payload that comes back unchanged is counted as an error. -/
theorem signedChar_not_exact :
    ¬ forall (config : Config) (iPayload rPayload : ByteMemory) (schedule : List Event),
      Transition.Always Exact (step config) (World.initial iPayload rPayload) schedule := by
  intro always
  have ends : (Transition.run (step { charIsSigned := true, ntimes := 1 })
      (World.initial (fun _ => 0) fun _ => 0) oneEcho).map World.ended =
      some [{ faithful := true, differed := false, errBefore := 0, errCnt := 1 }] := by
    decide
  rcases Option.map_eq_some_iff.mp ends with ⟨world, reached, ended⟩
  have exact := (always _ _ _ oneEcho).last reached
  have none := exact.noFalseAlarm _ (by rw [ended]; exact List.mem_singleton.mpr rfl) rfl
  exact absurd none (by decide)

end EchoTest
end OpenAmpReference
