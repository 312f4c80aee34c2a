import OpenAmpReference.LegacyApps.EchoPing

namespace OpenAmpReference
namespace FloodPing

/-!
# The flood test

In a round the test sends packages of one size as fast as it can, and waits
until the last one has been echoed; the next round has packages that are one
byte longer.  The callback keeps the number behind the last one it has seen
and a count of the errors.  The peer and the link may deliver any message at
any time the test polls, and a message lies in a buffer that still holds
older bytes behind it.
-/

open EchoPing (asSize asInt sizeofPayload marker sendLength)

/-- The size of the transmit buffers and the number of packages are of type `int`. -/
structure Config where
  txBufferSize : Int
  numPkgs : Int
  txBufferSizeInt : txBufferSize < 2 ^ 31
  numPkgsInt : numPkgs < 2 ^ 31

/-- `RPMSG_ERR_NO_BUFF` -/
def rpmsgErrNoBuff : Int := -2002

/-- The largest size the callback accepts. -/
def sizeLimit : Nat := 496

inductive Stage
  | start
  | awaitReady
  | allocate
  | nextRound
  | sending
  | sendPolling
  | waiting
  | ended
  | failed
  /-- `memset()` has run over the end of `i_payload` -/
  | undefined
  deriving DecidableEq, Repr

/-- What is sent and what is received in a round. -/
structure Round where
  sent : List (List UInt8)
  received : List (List UInt8)
  deriving DecidableEq, Repr

namespace Round

def empty : Round where
  sent := []
  received := []

end Round

/-- The test, with a record of its rounds and of the bytes its callback must not use. -/
structure World where
  stage : Stage
  lept : Bool
  eptDeleted : Bool
  ret : Int
  i : Int
  s : Int
  rnum : Int
  errCnt : Nat
  iPayload : ByteMemory
  allocated : Nat
  current : Round
  finished : List Round
  completed : Bool
  trespassed : Bool

namespace World

def initial : World where
  stage := Stage.start
  lept := false
  eptDeleted := false
  ret := 0
  i := 0
  s := 0
  rnum := 0
  errCnt := 0
  iPayload := fun _ => 0
  allocated := 0
  current := Round.empty
  finished := []
  completed := false
  trespassed := false

/-! ## `rpmsg_endpoint_cb()` -/

/-- The first data byte that differs from `i_payload` -/
def firstMismatch (data iPayload : ByteMemory) (size : Nat) : Option Nat :=
  (List.range size).find? fun i => data (16 + i) != iPayload (16 + i)

/-- How many data bytes are compared: the loop is left at the first that differs. -/
def inspected (data iPayload : ByteMemory) (size : Nat) : Nat :=
  match firstMismatch data iPayload size with
  | some i => i + 1
  | none => size

/-- The size in the header is refused. -/
def refused (data : ByteMemory) : Prop :=
  data.readLong 8 = 0 ∨ sizeLimit < data.readLong 8

instance (data : ByteMemory) : Decidable (refused data) :=
  inferInstanceAs (Decidable (_ ∨ _))

/-- `rpmsg_endpoint_cb()`, where `len` is not looked at -/
def rpmsgEndpointCb (world : World) (data : ByteMemory) (len : Nat) : World :=
  if refused data then
    { world with
      errCnt := world.errCnt + 1
      trespassed := world.trespassed || decide (len < 16) }
  else
    let size := data.readLong 8
    { world with
      errCnt :=
        if (firstMismatch data world.iPayload size).isSome then world.errCnt + 1
        else world.errCnt
      rnum := asInt ((data.readLong 0 + 1) % 2 ^ 64)
      trespassed := world.trespassed ||
        decide (len < 16 + inspected data world.iPayload size ∨
          world.allocated < 16 + inspected data world.iPayload size) }

/-- A message is handed to the endpoint. -/
def deliver (world : World) (bytes : List UInt8) (buffer : ByteMemory) : World :=
  { world with
    current := { world.current with received := world.current.received ++ [bytes] }
  }.rpmsgEndpointCb (buffer.writeBytes 0 bytes) bytes.length

/-- `rpmsg_service_unbind()` -/
def rpmsgServiceUnbind (world : World) : World :=
  { world with lept := false, eptDeleted := true }

/-! ## `app()` -/

variable (config : Config)

/-- `max_size` after `max_size -= sizeof(struct _payload)` -/
def maxSize : Int := EchoPing.maxSize config.txBufferSize

/-- The end of `app()` after the loop -/
def finish (world : World) : World :=
  { world with stage := Stage.ended, lept := false }

def createEpt (world : World) (status : Int) : World :=
  if status ≠ 0 then { world with stage := Stage.failed, ret := status }
  else { world with stage := Stage.awaitReady, lept := true, ret := status }

/-- The endpoint is ready, and the size of its buffers is read. -/
def ready (world : World) : World :=
  if config.txBufferSize ≤ 0 then { world with stage := Stage.failed, lept := false }
  else { world with stage := Stage.allocate }

/-- The result of `metal_allocate_memory()`, and the `memset()` after it -/
def allocate (world : World) (memory : Option ByteMemory) : World :=
  match memory with
  | none => { world with stage := Stage.failed, lept := false }
  | some contents =>
      if maxSize config < 0 then { world with stage := Stage.undefined }
      else
        { world with
          stage := Stage.nextRound
          s := 1
          iPayload := contents.writeBytes 16 (List.replicate (maxSize config).toNat marker)
          allocated := config.txBufferSize.toNat }

/-- The test of the second inner loop, and what follows it -/
def awaitEchoes (world : World) : World :=
  if world.rnum < config.numPkgs ∧ world.errCnt = 0 ∧ world.eptDeleted = false then
    { world with stage := Stage.waiting }
  else if world.errCnt ≠ 0 ∨ world.eptDeleted = true then world.finish
  else
    { world with
      stage := Stage.nextRound
      s := world.s + 1
      finished := world.finished ++ [world.current] }

/-- What follows the loop over the packages -/
def afterPackages (world : World) : World :=
  if world.ret < 0 then world.finish else awaitEchoes config world

/-- The test of the first inner loop.  If it fails, so does the one behind the loop. -/
def trySend (world : World) : World :=
  if world.errCnt = 0 ∧ world.eptDeleted = false then { world with stage := Stage.sending }
  else afterPackages config world

/-- The test of the loop over the packages -/
def nextPackage (world : World) (i : Int) : World :=
  if i < config.numPkgs then
    trySend config { world with i := i, iPayload := world.iPayload.writeLong 0 (asSize i) }
  else afterPackages config { world with i := i }

/-- The test of the loop over the sizes -/
def nextRound (world : World) : World :=
  if world.s ≤ maxSize config then
    nextPackage config
      { world with
        iPayload := world.iPayload.writeLong 8 (asSize world.s)
        rnum := 0
        current := Round.empty } 0
  else { world with completed := true }.finish

/-- The bytes that `rpmsg_trysend()` takes -/
def message (world : World) : List UInt8 :=
  world.iPayload.readBytes 0 (sendLength world.s).toNat

/-- `rpmsg_trysend()` returns. -/
def trySendReturned (world : World) (status : Int) : World :=
  if status = rpmsgErrNoBuff then { world with stage := Stage.sendPolling, ret := status }
  else if status < 0 then afterPackages config { world with ret := status }
  else
    nextPackage config
      { world with
        ret := status
        current := { world.current with sent := world.current.sent ++ [world.message] } }
      (world.i + 1)

/-- `platform_poll()` returns. -/
def pollReturned (world : World) : World :=
  if world.stage = Stage.sendPolling then trySend config world
  else if world.stage = Stage.waiting then awaitEchoes config world
  else world

end World

inductive Event
  | createEpt (status : Int)
  | ready
  | allocate (memory : Option ByteMemory)
  | nextRound
  | trySendReturns (status : Int)
  | deliver (bytes : List UInt8) (buffer : ByteMemory)
  | unbind
  | pollReturns

/-- The test is in `platform_poll()`. -/
def Stage.polls (stage : Stage) : Prop :=
  stage = Stage.awaitReady ∨ stage = Stage.sendPolling ∨ stage = Stage.waiting

instance (stage : Stage) : Decidable stage.polls :=
  inferInstanceAs (Decidable (_ ∨ _))

open World in
def step (config : Config) (world : World) (event : Event) : Option World :=
  match event with
  | Event.createEpt status =>
      if world.stage = Stage.start then some (createEpt world status) else none
  | Event.ready =>
      if world.stage = Stage.awaitReady ∧ world.lept = true then some (ready config world)
      else none
  | Event.allocate memory =>
      if world.stage = Stage.allocate then some (allocate config world memory) else none
  | Event.nextRound =>
      if world.stage = Stage.nextRound then some (nextRound config world) else none
  | Event.trySendReturns status =>
      if world.stage = Stage.sending then some (trySendReturned config world status) else none
  | Event.deliver bytes buffer =>
      if world.stage.polls ∧ world.lept = true then some (world.deliver bytes buffer) else none
  | Event.unbind =>
      if world.stage.polls ∧ world.lept = true then some world.rpmsgServiceUnbind else none
  | Event.pollReturns =>
      if world.stage.polls then some (pollReturned config world) else none

/-! ## What a pass of the test should mean -/

/-- The package of that number and size, in whatever buffer it is received. -/
structure IsPackage (number size : Nat) (bytes : List UInt8) : Prop where
  length : bytes.length = 16 + size
  numField : forall buffer : ByteMemory, (buffer.writeBytes 0 bytes).readLong 0 = number
  sizeField : forall buffer : ByteMemory, (buffer.writeBytes 0 bytes).readLong 8 = size
  marked : forall (buffer : ByteMemory) (i : Nat), i < size ->
    buffer.writeBytes 0 bytes (16 + i) = marker

/-- In the round every package has been sent and has come back once, in order. -/
structure RoundSound (config : Config) (size : Nat) (round : Round) : Prop where
  echoed : round.received = round.sent
  all : round.sent.length = config.numPkgs.toNat
  packages : forall number (inside : number < round.sent.length),
    IsPackage number size round.sent[number]

/-- If all rounds are completed without an error and without an unbind, each of them is
sound, and the callback has used nothing but the message and `i_payload`. -/
structure Sound (config : Config) (world : World) : Prop where
  inside : world.trespassed = false
  passed : world.completed = true -> world.errCnt = 0 -> world.eptDeleted = false ->
    (world.finished.length : Int) = config.txBufferSize - 16 ∧
      forall earlier (inside : earlier < world.finished.length),
        RoundSound config (earlier + 1) world.finished[earlier]

/-- The message is the package that is to come back next. -/
def NextEcho (world : World) (bytes : List UInt8) : Prop :=
  world.current.sent[world.current.received.length]? = some bytes

/-- The callback counts an error, and all that it looks at is there. -/
def Detected (world : World) (bytes : List UInt8) (data : ByteMemory) : Prop :=
  16 ≤ bytes.length ∧
    (World.refused data ∨
      (World.firstMismatch data world.iPayload (data.readLong 8)).isSome = true ∧
        16 + World.inspected data world.iPayload (data.readLong 8) ≤ bytes.length ∧
        16 + World.inspected data world.iPayload (data.readLong 8) ≤ world.allocated)

/-- What arrives is the next echo, or an error that is detected. -/
def NextOrDetected (world : World) (event : Event) : Prop :=
  match event with
  | Event.deliver bytes buffer =>
      NextEcho world bytes ∨ Detected world bytes (buffer.writeBytes 0 bytes)
  | _ => True

instance nextOrDetectedDecidable (world : World) :
    (event : Event) -> Decidable (NextOrDetected world event)
  | Event.deliver _ _ => inferInstanceAs (Decidable (_ = _ ∨ (_ ∧ (_ ∨ _ ∧ _ ∧ _))))
  | Event.createEpt _ | Event.ready | Event.allocate _ | Event.nextRound | Event.trySendReturns _
  | Event.unbind | Event.pollReturns => isTrue trivial

/-! ## The packages -/

variable {config : Config} {world : World} {size count : Nat}

/-- The data of `i_payload` and the size in its header are filled in. -/
structure Filled (config : Config) (size : Nat) (iPayload : ByteMemory) : Prop where
  sizeField : iPayload.readLong 8 = size
  marked : forall i : Nat, (16 + i : Int) < config.txBufferSize -> iPayload (16 + i) = marker

theorem readLong_writeLong_of_disjoint (memory : ByteMemory) {address place : Nat} (value : Nat)
    (disjoint : address + 8 ≤ place ∨ place + 8 ≤ address) :
    (memory.writeLong address value).readLong place = memory.readLong place :=
  ByteMemory.readLong_congr fun _ _ =>
    ByteMemory.writeLong_of_disjoint memory value (by omega)

theorem Filled.number (filled : Filled config size world.iPayload) (i : Int) :
    Filled config size (world.iPayload.writeLong 0 (asSize i)) where
  sizeField := (readLong_writeLong_of_disjoint _ _ (Or.inl (Nat.le_refl 8))).trans filled.sizeField
  marked := by
    intro i inside
    rw [ByteMemory.writeLong_of_disjoint _ _ (Or.inr (by omega))]
    exact filled.marked i inside

/-- What is sent is the package with the number in the header. -/
theorem Filled.isPackage {iPayload : ByteMemory} (filled : Filled config size iPayload)
    (numbered : iPayload.readLong 0 = count) (room : (size + 16 : Int) ≤ config.txBufferSize) :
    IsPackage count size (iPayload.readBytes 0 (size + 16)) where
  length := by rw [ByteMemory.readBytes_length, Nat.add_comm]
  numField := by
    intro buffer
    rw [ByteMemory.readLong_carried _ _ _ (by omega), numbered]
  sizeField := by
    intro buffer
    rw [ByteMemory.readLong_carried _ _ _ (by omega), filled.sizeField]
  marked := by
    intro buffer i inside
    rw [ByteMemory.carried _ _ _ (by omega)]
    exact filled.marked i (by omega)

/-! ## The invariant -/

/-- The test is within a round, and so many packages have been sent. -/
structure InRound (config : Config) (world : World) (size count : Nat) : Prop where
  s : world.s = size
  positive : 1 ≤ size
  room : (size + 16 : Int) ≤ config.txBufferSize
  allocated : (world.allocated : Int) = config.txBufferSize
  filled : Filled config size world.iPayload
  finished : world.finished.length + 1 = size
  counted : world.current.sent.length = count
  bounded : count ≤ config.numPkgs.toNat
  packages : forall number (inside : number < world.current.sent.length),
    IsPackage number size world.current.sent[number]
  clean : world.errCnt = 0 ->
    world.current.received = world.current.sent.take world.current.received.length ∧
      world.rnum = world.current.received.length

/-- The next package is in `i_payload`. -/
structure Sending (config : Config) (world : World) (size count : Nat) : Prop where
  inRound : InRound config world size count
  i : world.i = count
  more : (count : Int) < config.numPkgs
  numbered : world.iPayload.readLong 0 = count

/-- The round with this size is to begin. -/
structure AtRound (config : Config) (world : World) (size : Nat) : Prop where
  s : world.s = size
  positive : 1 ≤ size
  reached : (size + 15 : Int) ≤ config.txBufferSize
  allocated : (world.allocated : Int) = config.txBufferSize
  marked : forall i : Nat, (16 + i : Int) < config.txBufferSize -> world.iPayload (16 + i) = marker
  finished : world.finished.length + 1 = size

def StageOk (config : Config) (world : World) : Prop :=
  match world.stage with
  | Stage.start | Stage.awaitReady => world.current.sent = [] ∧ world.finished = []
  | Stage.allocate => 0 < config.txBufferSize ∧ world.finished = []
  | Stage.nextRound => Exists fun size => AtRound config world size
  | Stage.sending | Stage.sendPolling => Exists fun size => Exists fun count =>
      Sending config world size count
  | Stage.waiting => Exists fun size => InRound config world size config.numPkgs.toNat
  | Stage.ended | Stage.failed | Stage.undefined => True

/-- What does not depend on the stage, while the test is not over. -/
structure Base (config : Config) (world : World) : Prop where
  inside : world.trespassed = false
  rounds : forall earlier (inside : earlier < world.finished.length),
    RoundSound config (earlier + 1) world.finished[earlier]
  running : world.completed = false

/-- The rounds have all been made, or the test goes on. -/
structure Ok (config : Config) (world : World) : Prop where
  inside : world.trespassed = false
  rounds : forall earlier (inside : earlier < world.finished.length),
    RoundSound config (earlier + 1) world.finished[earlier]
  completed : world.completed = true -> world.stage = Stage.ended ∧
    (world.finished.length : Int) = config.txBufferSize - 16
  stage : StageOk config world

theorem Ok.sound (ok : Ok config world) : Sound config world where
  inside := ok.inside
  passed := fun completed _ _ => ⟨(ok.completed completed).2, ok.rounds⟩

theorem Ok.base (ok : Ok config world) (running : world.stage ≠ Stage.ended) :
    Base config world where
  inside := ok.inside
  rounds := ok.rounds
  running := by
    cases ended : world.completed with
    | false => rfl
    | true => exact absurd (ok.completed ended).1 running

theorem Base.ok (base : Base config world) (stage : StageOk config world) : Ok config world where
  inside := base.inside
  rounds := base.rounds
  completed := by
    rw [base.running]
    nofun
  stage := stage

theorem ok_initial : Ok config World.initial where
  inside := rfl
  rounds := nofun
  completed := nofun
  stage := ⟨rfl, rfl⟩

/-! ## The loops of `app()` -/

namespace Base

theorem finish (base : Base config world) : Ok config world.finish :=
  @Base.ok config world.finish { base with } trivial

/-- A round that is over is sound, if no error was counted. -/
theorem roundSound (inRound : InRound config world size config.numPkgs.toNat)
    (clean : world.errCnt = 0) (ended : ¬ world.rnum < config.numPkgs) :
    RoundSound config size world.current := by
  rcases inRound.clean clean with ⟨received, rnum⟩
  have counted := inRound.counted
  have all : world.current.sent.length ≤ world.current.received.length := by omega
  exact {
    echoed := received.trans (List.take_of_length_le all)
    all := counted
    packages := inRound.packages }

theorem awaitEchoes (base : Base config world)
    (waits : world.errCnt ≠ 0 ∨ world.eptDeleted = true ∨
      InRound config world size config.numPkgs.toNat) :
    Ok config (World.awaitEchoes config world) := by
  unfold World.awaitEchoes
  split
  · rename_i goesOn
    have inRound := (waits.resolve_left (not_not.mpr goesOn.2.1)).resolve_left
      (by rw [goesOn.2.2]; nofun)
    exact @Base.ok config { world with stage := Stage.waiting } { base with }
      ⟨size, { inRound with }⟩
  · rename_i left
    split
    · exact base.finish
    · rename_i fine
      rw [not_or, not_not, Bool.not_eq_true] at fine
      have inRound := (waits.resolve_left (not_not.mpr fine.1)).resolve_left
        (by rw [fine.2]; nofun)
      have ended : ¬ world.rnum < config.numPkgs := fun less => left ⟨less, fine.1, fine.2⟩
      have sound := roundSound inRound fine.1 ended
      have room := inRound.room
      have finished := inRound.finished
      refine @Base.ok config _ { base with rounds := ?_ } ⟨size + 1, ?_⟩
      · intro earlier inside
        by_cases before : earlier < world.finished.length
        · simp only [List.getElem_append_left before]
          exact base.rounds earlier before
        · rw [List.length_append, List.length_singleton] at inside
          have last : earlier = world.finished.length := by omega
          rw [List.getElem_concat_length last, last, finished]
          exact sound
      · exact {
          s := by
            show world.s + 1 = _
            rw [inRound.s, Int.natCast_succ]
          positive := Nat.le_add_left 1 size
          reached := by omega
          allocated := inRound.allocated
          marked := inRound.filled.marked
          finished := by rw [List.length_append, List.length_singleton, finished] }

theorem afterPackages (base : Base config world)
    (waits : world.errCnt ≠ 0 ∨ world.eptDeleted = true ∨
      InRound config world size config.numPkgs.toNat) :
    Ok config (World.afterPackages config world) := by
  unfold World.afterPackages
  split
  · exact base.finish
  · exact base.awaitEchoes waits

theorem trySend (base : Base config world) (sending : Sending config world size count) :
    Ok config (World.trySend config world) := by
  unfold World.trySend
  split
  · exact @Base.ok config { world with stage := Stage.sending } { base with }
      ⟨size, count, { sending with inRound := { sending.inRound with } }⟩
  · rename_i stops
    refine @Base.afterPackages _ _ size base ?_
    by_cases clean : world.errCnt = 0
    · refine Or.inr (Or.inl ?_)
      rw [← Bool.not_eq_false]
      exact fun present => stops ⟨clean, present⟩
    · exact Or.inl clean

theorem nextPackage (base : Base config world) (inRound : InRound config world size count) :
    Ok config (World.nextPackage config world count) := by
  have bounded := inRound.bounded
  have small := config.numPkgsInt
  unfold World.nextPackage
  split
  · rename_i more
    refine @Base.trySend config _ size count { base with } ?_
    exact {
      inRound := { inRound with filled := inRound.filled.number count }
      i := rfl
      more := more
      numbered := by
        rw [ByteMemory.readLong_writeLong_same, EchoPing.World.asSize_of_nat (by omega),
          Nat.mod_eq_of_lt (by omega)] }
  · rename_i ended
    have all : count = config.numPkgs.toNat := by omega
    rw [all] at inRound
    exact @Base.afterPackages config { world with i := count } size { base with }
      (Or.inr (Or.inr { inRound with }))

end Base

/-! ## The steps -/

theorem Ok.createEpt (ok : Ok config world) (atStart : world.stage = Stage.start) (status : Int) :
    Ok config (world.createEpt status) := by
  have base := ok.base (by rw [atStart]; nofun)
  have stage := ok.stage
  rw [StageOk, atStart] at stage
  unfold World.createEpt
  split
  · exact @Base.ok config { world with stage := Stage.failed, ret := status } { base with } trivial
  · exact @Base.ok config
      { world with stage := Stage.awaitReady, lept := true, ret := status } { base with } stage

theorem Ok.ready (ok : Ok config world) (awaits : world.stage = Stage.awaitReady) :
    Ok config (World.ready config world) := by
  have base := ok.base (by rw [awaits]; nofun)
  have stage := ok.stage
  rw [StageOk, awaits] at stage
  unfold World.ready
  split
  · exact @Base.ok config { world with stage := Stage.failed, lept := false } { base with } trivial
  · rename_i positive
    exact @Base.ok config { world with stage := Stage.allocate } { base with }
      ⟨Int.not_le.mp positive, stage.2⟩

theorem Ok.allocate (ok : Ok config world) (allocates : world.stage = Stage.allocate)
    (memory : Option ByteMemory) : Ok config (World.allocate config world memory) := by
  have base := ok.base (by rw [allocates]; nofun)
  have stage := ok.stage
  rw [StageOk, allocates] at stage
  rcases stage with ⟨positive, fresh⟩
  have size := EchoPing.World.maxSize_eq positive config.txBufferSizeInt
  cases memory with
  | none =>
      exact @Base.ok config { world with stage := Stage.failed, lept := false } { base with }
        trivial
  | some contents =>
      unfold World.allocate
      dsimp only
      split
      · exact @Base.ok config { world with stage := Stage.undefined } { base with } trivial
      · rename_i room
        rw [World.maxSize, size] at room ⊢
        refine @Base.ok config _ { base with } ⟨1, ?_⟩
        exact {
          s := rfl
          positive := Nat.le_refl 1
          reached := by omega
          allocated := Int.toNat_of_nonneg (Int.le_of_lt positive)
          marked := by
            intro i inside
            have within : i < (List.replicate (config.txBufferSize - 16).toNat marker).length := by
              rw [List.length_replicate]
              omega
            show contents.writeBytes 16 _ (16 + i) = marker
            rw [ByteMemory.writeBytes_inside _ _ _ _ within, List.getElem_replicate]
          finished := by
            show world.finished.length + 1 = 1
            rw [fresh]
            rfl }

theorem Ok.nextRound (ok : Ok config world) (atRound : world.stage = Stage.nextRound) :
    Ok config (World.nextRound config world) := by
  have base := ok.base (by rw [atRound]; nofun)
  have stage := ok.stage
  rw [StageOk, atRound] at stage
  rcases stage with ⟨size, round⟩
  have reached := round.reached
  have positive := round.positive
  have limit := EchoPing.World.maxSize_eq (by omega) config.txBufferSizeInt
  have small := config.txBufferSizeInt
  unfold World.nextRound
  rw [round.s, World.maxSize, limit]
  split
  · rename_i more
    refine @Base.nextPackage config _ size 0 { base with } ?_
    exact {
      s := rfl
      positive := positive
      room := by omega
      allocated := round.allocated
      filled := {
        sizeField := by
          rw [ByteMemory.readLong_writeLong_same, EchoPing.World.asSize_of_nat (by omega),
            Nat.mod_eq_of_lt (by omega)]
        marked := by
          intro i inside
          show world.iPayload.writeLong 8 (asSize size) (16 + i) = marker
          rw [ByteMemory.writeLong_of_disjoint _ _ (Or.inr (by omega))]
          exact round.marked i inside }
      finished := round.finished
      counted := rfl
      bounded := Nat.zero_le _
      packages := nofun
      clean := fun _ => ⟨rfl, rfl⟩ }
  · rename_i last
    have finished := round.finished
    exact {
      inside := base.inside
      rounds := base.rounds
      completed := fun _ => ⟨rfl, by show (world.finished.length : Int) = _; omega⟩
      stage := trivial }

theorem Sending.message (sending : Sending config world size count) :
    IsPackage count size world.message := by
  have room := sending.inRound.room
  have small := config.txBufferSizeInt
  have length := EchoPing.World.sendLength_eq (by omega : size + 16 < 2 ^ 31)
  rw [World.message, sending.inRound.s, length, Int.toNat_natCast]
  exact sending.inRound.filled.isPackage sending.numbered room

/-- The package that was sent joins those of the round. -/
theorem Sending.sent (sending : Sending config world size count) (status : Int) :
    InRound config
      { world with
        ret := status
        current := { world.current with sent := world.current.sent ++ [world.message] } }
      size (count + 1) := by
  have more := sending.more
  have counted := sending.inRound.counted
  refine { sending.inRound with
    counted := by rw [List.length_append, List.length_singleton, counted]
    bounded := by omega
    packages := ?_
    clean := ?_ }
  · intro number inside
    by_cases before : number < world.current.sent.length
    · simp only [List.getElem_append_left before]
      exact sending.inRound.packages number before
    · rw [List.length_append, List.length_singleton] at inside
      have last : number = world.current.sent.length := by omega
      rw [List.getElem_concat_length last, last, counted]
      exact sending.message
  · intro clean
    rcases sending.inRound.clean clean with ⟨received, rnum⟩
    have shorter : world.current.received.length ≤ world.current.sent.length := by
      rw [received, List.length_take]
      exact Nat.min_le_right _ _
    refine ⟨?_, rnum⟩
    rw [List.take_append_of_le_length shorter]
    exact received

theorem Ok.trySendReturned (ok : Ok config world) (sends : world.stage = Stage.sending)
    (status : Int) : Ok config (World.trySendReturned config world status) := by
  have base := ok.base (by rw [sends]; nofun)
  have stage := ok.stage
  rw [StageOk, sends] at stage
  rcases stage with ⟨size, count, sending⟩
  unfold World.trySendReturned
  split
  · exact @Base.ok config { world with stage := Stage.sendPolling, ret := status } { base with }
      ⟨size, count, { sending with inRound := { sending.inRound with } }⟩
  · split
    · rename_i failed
      unfold World.afterPackages
      rw [if_pos failed]
      exact @Base.finish config { world with ret := status } { base with }
    · have next := @Base.nextPackage config _ size (count + 1)
        (by exact { base with }) (sending.sent status)
      rw [sending.i]
      exact next

theorem Ok.pollReturned (ok : Ok config world) : Ok config (World.pollReturned config world) := by
  unfold World.pollReturned
  split
  · rename_i polls
    have base := ok.base (by rw [polls]; nofun)
    have stage := ok.stage
    rw [StageOk, polls] at stage
    rcases stage with ⟨size, count, sending⟩
    exact base.trySend sending
  · split
    · rename_i polls
      have base := ok.base (by rw [polls]; nofun)
      have stage := ok.stage
      rw [StageOk, polls] at stage
      rcases stage with ⟨size, inRound⟩
      exact base.awaitEchoes (Or.inr (Or.inr inRound))
    · exact ok

/-! ## What arrives -/

/-- A message arrives; what the callback leaves of the counters is given. -/
def World.arrived (world : World) (bytes : List UInt8) (errCnt : Nat) (rnum : Int) : World :=
  { world with
    current := { world.current with received := world.current.received ++ [bytes] }
    errCnt := errCnt
    rnum := rnum }

/-- An error that is detected is counted. -/
theorem deliver_detected {bytes : List UInt8} {buffer : ByteMemory}
    (detected : Detected world bytes (buffer.writeBytes 0 bytes)) :
    Exists fun rnum =>
      world.deliver bytes buffer = world.arrived bytes (world.errCnt + 1) rnum := by
  rcases detected with ⟨header, found⟩
  unfold World.deliver World.rpmsgEndpointCb
  by_cases refuses : World.refused (buffer.writeBytes 0 bytes)
  · refine ⟨world.rnum, ?_⟩
    rw [if_pos refuses, decide_eq_false (Nat.not_lt.mpr header), Bool.or_false]
    rfl
  · rcases found.resolve_left refuses with ⟨differs, received, allocated⟩
    refine ⟨asInt (((buffer.writeBytes 0 bytes).readLong 0 + 1) % 2 ^ 64), ?_⟩
    rw [if_neg refuses]
    dsimp only
    rw [if_pos differs, decide_eq_false (not_or.mpr ⟨Nat.not_lt.mpr received,
      Nat.not_lt.mpr allocated⟩), Bool.or_false]
    rfl

/-- A package of the round has the bytes that `i_payload` has. -/
theorem firstMismatch_package {bytes : List UInt8} (isPackage : IsPackage count size bytes)
    (filled : Filled config size world.iPayload) (room : (size + 16 : Int) ≤ config.txBufferSize)
    (buffer : ByteMemory) :
    World.firstMismatch (buffer.writeBytes 0 bytes) world.iPayload size = none := by
  rw [World.firstMismatch, List.find?_eq_none]
  intro i member
  have inside := List.mem_range.mp member
  rw [isPackage.marked buffer i inside, filled.marked i (by omega), bne_self_eq_false]
  exact Bool.false_ne_true

/-- The echo that comes next is counted, unless its size is refused. -/
theorem deliver_package (inRound : InRound config world size count) {bytes : List UInt8}
    {number : Nat} (isPackage : IsPackage number size bytes) (small : number + 1 < 2 ^ 31)
    (accepted : size ≤ sizeLimit) (buffer : ByteMemory) :
    world.deliver bytes buffer = world.arrived bytes world.errCnt (number + 1) := by
  have positive := inRound.positive
  have room := inRound.room
  have allocated := inRound.allocated
  have length := isPackage.length
  have same := firstMismatch_package isPackage inRound.filled room buffer
  have accepts : ¬ World.refused (buffer.writeBytes 0 bytes) := by
    unfold World.refused
    rw [isPackage.sizeField]
    omega
  have counted : asInt ((number + 1) % 2 ^ 64) = number + 1 := by
    rw [Nat.mod_eq_of_lt (by omega), EchoPing.World.asInt_of_small small, Int.natCast_succ]
  have inspects : World.inspected (buffer.writeBytes 0 bytes) world.iPayload size = size := by
    rw [World.inspected, same]
  unfold World.deliver World.rpmsgEndpointCb
  rw [if_neg accepts]
  dsimp only
  rw [isPackage.sizeField, isPackage.numField, same, inspects, counted,
    decide_eq_false (by omega), Bool.or_false]
  rfl

/-- After an error the counters of the round no longer matter. -/
theorem InRound.errs (inRound : InRound config world size count) (bytes : List UInt8)
    (rnum : Int) : InRound config (world.arrived bytes (world.errCnt + 1) rnum) size count :=
  { inRound with clean := fun clean => absurd clean (Nat.succ_ne_zero _) }

theorem InRound.echoes (inRound : InRound config world size count) {bytes : List UInt8}
    (next : NextEcho world bytes) :
    InRound config
      (world.arrived bytes world.errCnt (world.current.received.length + 1)) size count := by
  refine { inRound with clean := ?_ }
  intro clean
  have received := (inRound.clean clean).1
  have more : world.current.received ++ [bytes] =
      world.current.sent.take (world.current.received.length + 1) := by
    rw [List.take_add_one, next, Option.toList_some, ← received]
  constructor
  · show world.current.received ++ [bytes] =
      world.current.sent.take (world.current.received ++ [bytes]).length
    rw [List.length_append, List.length_singleton]
    exact more
  · show ((world.current.received.length : Int) + 1) =
      ((world.current.received ++ [bytes]).length : Int)
    rw [List.length_append, List.length_singleton, Int.natCast_succ]

/-- In a round a message that is next or detected leaves a round. -/
theorem InRound.delivers (inRound : InRound config world size count) {bytes : List UInt8}
    {buffer : ByteMemory}
    (meets : NextEcho world bytes ∨ Detected world bytes (buffer.writeBytes 0 bytes)) :
    Exists fun errCnt => Exists fun rnum =>
      world.deliver bytes buffer = world.arrived bytes errCnt rnum ∧
        InRound config (world.arrived bytes errCnt rnum) size count := by
  have counts : Detected world bytes (buffer.writeBytes 0 bytes) ->
      Exists fun errCnt => Exists fun rnum =>
        world.deliver bytes buffer = world.arrived bytes errCnt rnum ∧
          InRound config (world.arrived bytes errCnt rnum) size count := by
    intro detected
    rcases deliver_detected detected with ⟨rnum, arrives⟩
    exact ⟨_, rnum, arrives, inRound.errs bytes rnum⟩
  rcases meets with next | detected
  · rcases List.getElem?_eq_some_iff.mp next with ⟨inside, sent⟩
    have isPackage := inRound.packages _ inside
    rw [sent] at isPackage
    have small := config.numPkgsInt
    have counted := inRound.counted
    have bounded := inRound.bounded
    by_cases accepted : size ≤ sizeLimit
    · exact ⟨_, _, deliver_package inRound isPackage (by omega) accepted buffer,
        inRound.echoes next⟩
    · refine counts ⟨?_, Or.inl (Or.inr ?_)⟩
      · rw [isPackage.length]
        exact Nat.le_add_right 16 size
      · rw [isPackage.sizeField]
        exact Nat.not_le.mp accepted
  · exact counts detected

theorem Ok.delivers (ok : Ok config world) (polls : world.stage.polls) {bytes : List UInt8}
    {buffer : ByteMemory}
    (meets : NextEcho world bytes ∨ Detected world bytes (buffer.writeBytes 0 bytes)) :
    Ok config (world.deliver bytes buffer) := by
  have stage := ok.stage
  rcases polls with awaits | sends | waits
  · have base := ok.base (by rw [awaits]; nofun)
    rw [StageOk, awaits] at stage
    have detected : Detected world bytes (buffer.writeBytes 0 bytes) := by
      refine meets.resolve_left ?_
      rw [NextEcho, stage.1]
      nofun
    rcases deliver_detected detected with ⟨rnum, arrives⟩
    rw [arrives]
    refine @Base.ok config (world.arrived bytes (world.errCnt + 1) rnum) { base with } ?_
    rw [StageOk, World.arrived, awaits]
    exact stage
  · have base := ok.base (by rw [sends]; nofun)
    rw [StageOk, sends] at stage
    rcases stage with ⟨size, count, sending⟩
    rcases sending.inRound.delivers meets with ⟨errCnt, rnum, arrives, inRound⟩
    rw [arrives]
    refine @Base.ok config (world.arrived bytes errCnt rnum) { base with } ?_
    simp only [StageOk, World.arrived, sends]
    exact ⟨size, count, { sending with inRound := { inRound with } }⟩
  · have base := ok.base (by rw [waits]; nofun)
    rw [StageOk, waits] at stage
    rcases stage with ⟨size, waiting⟩
    rcases waiting.delivers meets with ⟨errCnt, rnum, arrives, inRound⟩
    rw [arrives]
    refine @Base.ok config (world.arrived bytes errCnt rnum) { base with } ?_
    simp only [StageOk, World.arrived, waits]
    exact ⟨size, { inRound with }⟩

theorem Ok.unbinds (ok : Ok config world) : Ok config world.rpmsgServiceUnbind where
  inside := ok.inside
  rounds := ok.rounds
  completed := ok.completed
  stage := by
    have stage := ok.stage
    cases place : world.stage with
    | start | awaitReady | allocate =>
        simp only [StageOk, place, World.rpmsgServiceUnbind] at stage ⊢
        exact stage
    | nextRound =>
        simp only [StageOk, place, World.rpmsgServiceUnbind] at stage ⊢
        rcases stage with ⟨size, round⟩
        exact ⟨size, { round with }⟩
    | sending | sendPolling =>
        simp only [StageOk, place, World.rpmsgServiceUnbind] at stage ⊢
        rcases stage with ⟨size, count, sending⟩
        exact ⟨size, count, { sending with inRound := { sending.inRound with } }⟩
    | waiting =>
        simp only [StageOk, place, World.rpmsgServiceUnbind] at stage ⊢
        rcases stage with ⟨size, inRound⟩
        exact ⟨size, { inRound with }⟩
    | ended | failed | undefined => simp only [StageOk, place, World.rpmsgServiceUnbind]

/-! ## Runs -/

theorem Ok.step {next : World} {event : Event} (ok : Ok config world)
    (meets : NextOrDetected world event) (moved : FloodPing.step config world event = some next) :
    Ok config next := by
  cases event with
  | createEpt status =>
      simp only [FloodPing.step, Option.ite_none_right_eq_some, Option.some.injEq] at moved
      exact moved.2 ▸ ok.createEpt moved.1 status
  | ready =>
      simp only [FloodPing.step, Option.ite_none_right_eq_some, Option.some.injEq] at moved
      exact moved.2 ▸ ok.ready moved.1.1
  | allocate memory =>
      simp only [FloodPing.step, Option.ite_none_right_eq_some, Option.some.injEq] at moved
      exact moved.2 ▸ ok.allocate moved.1 memory
  | nextRound =>
      simp only [FloodPing.step, Option.ite_none_right_eq_some, Option.some.injEq] at moved
      exact moved.2 ▸ ok.nextRound moved.1
  | trySendReturns status =>
      simp only [FloodPing.step, Option.ite_none_right_eq_some, Option.some.injEq] at moved
      exact moved.2 ▸ ok.trySendReturned moved.1 status
  | deliver bytes buffer =>
      simp only [FloodPing.step, Option.ite_none_right_eq_some, Option.some.injEq] at moved
      exact moved.2 ▸ ok.delivers moved.1.1 meets
  | unbind =>
      simp only [FloodPing.step, Option.ite_none_right_eq_some, Option.some.injEq] at moved
      exact moved.2 ▸ ok.unbinds
  | pollReturns =>
      simp only [FloodPing.step, Option.ite_none_right_eq_some, Option.some.injEq] at moved
      exact moved.2 ▸ ok.pollReturned

/-- A test whose messages are each the next echo or an error it detects does not pass on a faulty
link. The link may lose, double, reorder and change messages as it likes. The condition is on
each message and the state it finds, by the tests that the callback makes itself: a message that
passes them all and is not the next echo is counted as an echo. -/
theorem nextOrDetected_sound (config : Config) (schedule : List Event)
    (meets : Transition.Guarded NextOrDetected (step config) World.initial schedule) :
    Transition.Always (Sound config) (step config) World.initial schedule := by
  apply Transition.always_of_guarded (Ok config)
  · exact fun _ ok => ok.sound
  · exact fun _ _ _ ok met moved => ok.step met moved
  · exact ok_initial
  · exact meets

/-- One round of two packages. -/
def twoPackages : Config where
  txBufferSize := 17
  numPkgs := 2
  txBufferSizeInt := by decide
  numPkgsInt := by decide

/-- The package of that number with one byte of data. -/
def smallPackage (number : UInt8) : List UInt8 :=
  [number, 0, 0, 0, 0, 0, 0, 0, 1, 0, 0, 0, 0, 0, 0, 0, 0xA5]

/-- Both packages are sent, and so many messages arrive before the poll returns. -/
def oneRound (arriving : List (List UInt8)) : List Event :=
  [Event.createEpt 0, Event.ready, Event.allocate (some fun _ => 0), Event.nextRound,
    Event.trySendReturns 17, Event.trySendReturns 17] ++
    (arriving.map fun bytes => Event.deliver bytes fun _ => 0) ++
    [Event.pollReturns, Event.nextRound]

theorem twoEchoes_sound :
    Transition.Guarded NextOrDetected (step twoPackages) World.initial
        (oneRound [smallPackage 0, smallPackage 1]) ∧
      Transition.Always (Sound twoPackages) (step twoPackages) World.initial
        (oneRound [smallPackage 0, smallPackage 1]) := by
  have meets : Transition.Guarded NextOrDetected (step twoPackages) World.initial
      (oneRound [smallPackage 0, smallPackage 1]) := by decide
  exact ⟨meets, nextOrDetected_sound twoPackages _ meets⟩

/-- The first echo is lost, and the test passes. -/
theorem lostEcho_not_sound :
    ¬ forall (config : Config) (schedule : List Event),
      Transition.Always (Sound config) (step config) World.initial schedule := by
  intro always
  have passes : (Transition.run (step twoPackages) World.initial
      (oneRound [smallPackage 1])).map (fun world =>
        (world.completed, world.errCnt, world.eptDeleted, world.finished)) =
      some (true, 0, false,
        [{ sent := [smallPackage 0, smallPackage 1], received := [smallPackage 1] }]) := by
    decide
  rcases Option.map_eq_some_iff.mp passes with ⟨world, reached, shows⟩
  simp only [Prod.mk.injEq] at shows
  rcases shows with ⟨completed, clean, present, finished⟩
  have sound := (always twoPackages (oneRound [smallPackage 1])).last reached
  have rounds := (sound.passed completed clean present).2
  rw [finished] at rounds
  have echoed := (rounds 0 (by decide)).echoed
  exact absurd echoed (by decide)

end FloodPing
end OpenAmpReference
