import OpenAmpReference.LegacyApps.FloodEcho
import OpenAmpReference.Library.Fairness

namespace OpenAmpReference
namespace FloodEcho

/-!
# The flood test ends

A message is worth more before it is sent than after, and more under way than consumed, so every
step of either party that has something to do brings the exchange nearer to its end.
-/

open FloodPing (Config Stage)
open EchoPing (shutdownMsg sendLength)

namespace System

/-! ## Who has something to do -/

section Rank

variable {link : Link} {config : Config} {system next : System}

/-- The rounds that are left when this size comes next -/
def rounds (config : Config) (s : Int) : Nat := (FloodPing.World.maxSize config + 1 - s).toNat

def roundPrice (config : Config) : Nat := 20 * config.numPkgs.toNat + 10

/-- What the client has still to do by itself, where a package has the price of its way. -/
def clientLeft (config : Config) (client : FloodPing.World) (farewell : Bool) : Nat :=
  match client.stage with
  | .start => 60 + roundPrice config * rounds config 1
  | .awaitReady => 40 + roundPrice config * rounds config 1
  | .allocate => 30 + roundPrice config * rounds config 1
  | .nextRound => 21 + roundPrice config * rounds config client.s
  | .sending =>
      22 + 20 * (config.numPkgs - client.i).toNat + roundPrice config * rounds config (client.s + 1)
  | .sendPolling =>
      21 + 20 * (config.numPkgs - client.i).toNat + roundPrice config * rounds config (client.s + 1)
  | .waiting => 22 + roundPrice config * rounds config (client.s + 1)
  | .ended => if farewell then 0 else 20
  | .failed | .undefined => 0

def serverLeft (server : ServerPc) (shutdownReq : Bool) : Nat :=
  match server with
  | .createEpt => 20 + 10 * shutdownReq.toNat
  | .polling | .destroyEpt => 10 * shutdownReq.toNat
  | .echoing _ => 14 + 10 * shutdownReq.toNat
  | .returning => 5 + 10 * shutdownReq.toNat
  | .returned => 0

def rank (config : Config) (system : System) : Nat :=
  clientLeft config system.client system.farewell + serverLeft system.server system.shutdownReq +
    system.toServer.weight 16 + system.toClient.weight 5

def ClientBusy (link : Link) (system : System) : Prop :=
  match system.client.stage with
  | .start | .allocate | .nextRound | .sending => True
  | .awaitReady | .sendPolling | .waiting =>
      system.toClient.kicked = true ∨ system.toClient.draining = true
  | .ended => system.farewell = false ∧ system.toServer.used < link.toServer
  | .failed | .undefined => False

def ServerBusy (link : Link) (system : System) : Prop :=
  match system.server with
  | .createEpt | .returning | .destroyEpt => True
  | .polling => system.toServer.kicked = true ∨ system.toServer.draining = true
  | .echoing _ => system.toClient.used < link.toClient
  | .returned => False

def Busy (link : Link) (system : System) : Party -> Prop
  | .client => system.ClientBusy link
  | .server => system.ServerBusy link

/-! ### The server -/

/-- Every step of the server pays, unless it is a vain attempt to send. -/
theorem ServerMoves.rank_lt (announced : Announced system)
    (moved : ServerMoves link system next) (busy : system.ServerBusy link) :
    next.rank config < system.rank config := by
  cases moved with
  | creates at_pc =>
      have posted := system.toClient.weight_post 5 .created
      simp only [rank, serverLeft, at_pc]
      omega
  | wakes at_pc sleeps rings =>
      have woken := Mailbox.weight_wake 16 rings sleeps
      simp only [rank]
      omega
  | settles at_pc drains through =>
      have settled := Mailbox.weight_settle 16 drains
      have told := system.toClient.weight_told 5 link.tells system.toServer
      cases asked : system.shutdownReq with
      | true =>
          simp only [rank, serverLeft, at_pc, asked, if_true]
          omega
      | false =>
          simp only [rank, serverLeft, at_pc, asked, Bool.false_eq_true, if_false]
          omega
  | receives item rest at_pc drains queue =>
      have taken := Mailbox.weight_take 16 queue
      have given := system.toServer.take.weight_giveBack 16
      cases item with
      | created =>
          simp only [serverReceives, rank, serverLeft, at_pc]
          omega
      | destroyed =>
          simp only [serverReceives, rank, serverLeft, at_pc, Bool.toNat_true]
          omega
      | message bytes =>
          simp only [serverReceives]
          split
          · simp only [rank, serverLeft, at_pc, Bool.toNat_true]
            omega
          · simp only [rank, serverLeft, at_pc]
            omega
  | echoes bytes at_pc room =>
      have posted := system.toClient.weight_post 5 (.message bytes)
      simp only [rank, serverLeft, at_pc]
      omega
  | waits bytes at_pc full =>
      simp only [ServerBusy, at_pc] at busy
      exact absurd busy full
  | returns at_pc =>
      have given := system.toServer.weight_giveBack 16
      simp only [rank, serverLeft, at_pc]
      omega
  | destroys at_pc =>
      have asked := announced.leaving (Or.inl at_pc)
      have posted := system.toClient.weight_post 5 .destroyed
      simp only [rank, serverLeft, at_pc, asked, Bool.toNat_true]
      split
      · omega
      · omega

/-- A vain attempt to send, and a rest without a notification, change nothing. -/
theorem ServerMoves.rests (moved : ServerMoves link system next)
    (idle : ¬ system.ServerBusy link) : next = system := by
  cases moved with
  | creates at_pc | returns at_pc | destroys at_pc =>
      simp only [ServerBusy, at_pc, not_true_eq_false] at idle
  | wakes at_pc sleeps rings =>
      simp only [ServerBusy, at_pc, rings, true_or, not_true_eq_false] at idle
  | settles at_pc drains through | receives item rest at_pc drains queue =>
      simp only [ServerBusy, at_pc, drains, or_true, not_true_eq_false] at idle
  | echoes bytes at_pc room =>
      simp only [ServerBusy, at_pc] at idle
      exact absurd room idle
  | waits bytes at_pc full => rfl

theorem serverPolls_some (link : Link)
    (busy : system.toServer.kicked = true ∨ system.toServer.draining = true) :
    Exists fun next => system.serverPolls link = some next := by
  unfold serverPolls
  split
  · split <;> exact ⟨_, rfl⟩
  · rename_i sleeps
    exact ⟨_, if_pos (busy.resolve_right sleeps)⟩

theorem serverStep_some (busy : system.ServerBusy link) :
    Exists fun next => system.serverStep link = some next := by
  cases at_pc : system.server with
  | createEpt | returning | destroyEpt => exact ⟨_, by rw [serverStep, at_pc]⟩
  | polling =>
      simp only [ServerBusy, at_pc] at busy
      rw [serverStep, at_pc]
      exact serverPolls_some link busy
  | echoing bytes =>
      simp only [ServerBusy, at_pc] at busy
      exact ⟨_, by rw [serverStep, at_pc]; exact if_pos busy⟩
  | returned => simp only [ServerBusy, at_pc] at busy

/-! ### The client -/

theorem rounds_succ {s : Int} (more : s ≤ FloodPing.World.maxSize config) :
    rounds config s = rounds config (s + 1) + 1 := by
  unfold rounds
  omega

theorem awaitEchoes_left {world : FloodPing.World} {flight : List (List UInt8)}
    (running : Running world flight) (farewell : Bool) :
    clientLeft config (FloodPing.World.awaitEchoes config world) farewell ≤
      22 + roundPrice config * rounds config (world.s + 1) := by
  unfold FloodPing.World.awaitEchoes
  by_cases less : world.rnum < config.numPkgs
  · rw [if_pos ⟨less, running.clean, running.present⟩]
    exact Nat.le_refl _
  · have fine : ¬ (world.errCnt ≠ 0 ∨ world.eptDeleted = true) := by
      rintro (errs | deleted)
      · exact errs running.clean
      · exact Bool.noConfusion (running.present.symm.trans deleted)
    rw [if_neg (fun waits => less waits.1), if_neg fine]
    exact Nat.add_le_add_right (by decide) _

theorem nextPackage_left {world : FloodPing.World} {flight : List (List UInt8)}
    (running : Running world flight) (ret : 0 ≤ world.ret) (i : Int) (farewell : Bool) :
    clientLeft config (FloodPing.World.nextPackage config world i) farewell ≤
      22 + 20 * (config.numPkgs - i).toNat + roundPrice config * rounds config (world.s + 1) := by
  unfold FloodPing.World.nextPackage
  split
  · unfold FloodPing.World.trySend
    rw [if_pos ⟨running.clean, running.present⟩]
    exact Nat.le_refl _
  · unfold FloodPing.World.afterPackages
    rw [if_neg (Int.not_lt.mpr ret)]
    have waits := @awaitEchoes_left config { world with i := i } flight { running with } farewell
    exact Nat.le_trans waits (Nat.add_le_add_right (Nat.le_add_right 22 _) _)

/-- A round costs what its packages cost, and a little more. -/
theorem nextRound_left {world : FloodPing.World} {ready draining : Bool}
    {flight : List (List UInt8)} (client : ClientOk config world ready draining flight)
    (at_stage : world.stage = .nextRound) (farewell : Bool) :
    clientLeft config (FloodPing.World.nextRound config world) farewell <
      clientLeft config world farewell := by
  have running := client.running (by rw [at_stage]; decide) (by rw [at_stage]; decide)
  have ret := client.ret (by rw [at_stage]; decide) (by rw [at_stage]; decide)
  have quiet := client.quiet (by rw [at_stage]; decide)
  have here :
      clientLeft config world farewell = 21 + roundPrice config * rounds config world.s := by
    simp only [clientLeft, at_stage]
  rw [here]
  unfold FloodPing.World.nextRound
  by_cases more : world.s ≤ FloodPing.World.maxSize config
  · rw [if_pos more, rounds_succ more, Nat.mul_add, Nat.mul_one]
    have next := @nextPackage_left config
      { world with
        iPayload := world.iPayload.writeLong 8 (EchoPing.asSize world.s)
        rnum := 0
        current := FloodPing.Round.empty } flight
      { running with carried := quiet.symm } ret 0 farewell
    rw [Int.sub_zero] at next
    refine Nat.lt_of_le_of_lt next ?_
    show 22 + 20 * config.numPkgs.toNat + roundPrice config * rounds config (world.s + 1) <
      21 + (roundPrice config * rounds config (world.s + 1) + (20 * config.numPkgs.toNat + 10))
    omega
  · rw [if_neg more]
    cases farewell with
    | true => exact Nat.lt_of_lt_of_le (show 0 < 21 by decide) (Nat.le_add_right 21 _)
    | false => exact Nat.lt_of_lt_of_le (show 20 < 21 by decide) (Nat.le_add_right 21 _)

/-- A package that goes out pays for its way. -/
theorem sends_left {world : FloodPing.World} {ready draining : Bool}
    {flight : List (List UInt8)} (client : ClientOk config world ready draining flight)
    (at_stage : world.stage = .sending) (farewell : Bool) :
    clientLeft config (FloodPing.World.trySendReturned config world (sendLength world.s)) farewell +
      20 ≤ clientLeft config world farewell := by
  have running := client.running (by rw [at_stage]; decide) (by rw [at_stage]; decide)
  have stage := client.ok.stage
  rw [FloodPing.StageOk, at_stage] at stage
  rcases stage with ⟨size, count, sending⟩
  have more := sending.more
  rw [← sending.i] at more
  have positive := client.sendLength_nonneg at_stage
  have next := @nextPackage_left config
    { world with
      ret := sendLength world.s
      current := { world.current with sent := world.current.sent ++ [world.message] } }
    (flight ++ [world.message])
    { running with
      carried := by
        show world.current.sent ++ [world.message] = _
        rw [running.carried, List.append_assoc] }
    positive (world.i + 1) farewell
  have here : clientLeft config world farewell =
      22 + 20 * (config.numPkgs - world.i).toNat +
        roundPrice config * rounds config (world.s + 1) := by
    simp only [clientLeft, at_stage]
  have fewer : (config.numPkgs - world.i).toNat = (config.numPkgs - (world.i + 1)).toNat + 1 := by
    omega
  unfold FloodPing.World.trySendReturned
  rw [if_neg (client.sendLength_ne at_stage), if_neg (Int.not_lt.mpr positive), here, fewer]
  refine Nat.le_trans (Nat.add_le_add_right next 20) ?_
  show 22 + 20 * (config.numPkgs - (world.i + 1)).toNat +
    roundPrice config * rounds config (world.s + 1) + 20 ≤ _
  omega

/-- The client comes out of `platform_poll()` hardly further back than it went in. -/
theorem polled_left (ok : Ok link config system) (fits : Fits config)
    (polls : system.client.stage.polls) (toClient toServer : Mailbox Item) :
    clientLeft config
        ({ system with toClient := toClient, toServer := toServer }.polled config).client
        system.farewell ≤ clientLeft config system.client system.farewell + 1 := by
  have client := ok.client
  have running := client.running (by rcases polls with at_stage | at_stage | at_stage <;>
    rw [at_stage] <;> decide) (by rcases polls with at_stage | at_stage | at_stage <;>
    rw [at_stage] <;> decide)
  unfold polled
  split
  · rename_i at_stage
    split
    · have positive : ¬ config.txBufferSize ≤ 0 := by
        have lower := fits.1
        omega
      unfold FloodPing.World.ready
      rw [if_neg positive]
      have here : clientLeft config system.client system.farewell =
          40 + roundPrice config * rounds config 1 := by
        simp only [clientLeft, show system.client.stage = .awaitReady from at_stage]
      rw [here]
      show 30 + roundPrice config * rounds config 1 ≤ _
      omega
    · exact Nat.le_succ _
  · rename_i bound
    unfold FloodPing.World.pollReturned
    dsimp only
    split
    · rename_i at_stage
      unfold FloodPing.World.trySend
      rw [if_pos ⟨running.clean, running.present⟩]
      simp only [clientLeft, at_stage]
      omega
    · rename_i elsewhere
      have at_stage := (polls.resolve_left bound).resolve_left elsewhere
      have here : clientLeft config system.client system.farewell =
          22 + roundPrice config * rounds config (system.client.s + 1) := by
        simp only [clientLeft, at_stage]
      rw [if_pos at_stage, here]
      exact Nat.le_succ_of_le (awaitEchoes_left running system.farewell)

/-- Every step of the client pays, unless it is a vain attempt to take leave. -/
theorem ClientMoves.rank_lt (ok : Ok link config system) (fits : Fits config)
    (moved : ClientMoves link config system next) (busy : system.ClientBusy link) :
    next.rank config < system.rank config := by
  cases moved with
  | starts at_stage =>
      have posted := system.toServer.weight_post 16 .created
      have here : clientLeft config system.client system.farewell =
          60 + roundPrice config * rounds config 1 := by
        simp only [clientLeft, at_stage]
      have there : clientLeft config (system.client.createEpt 0) system.farewell =
          40 + roundPrice config * rounds config 1 := rfl
      simp only [rank, here, there]
      omega
  | wakes polls sleeps rings =>
      have woken := Mailbox.weight_wake 5 rings sleeps
      simp only [rank]
      omega
  | receives old item rest polls drains queue =>
      rcases ok.receives fits old polls drains queue with ⟨after, ready, same, stage, s, i, -⟩
      have taken := Mailbox.weight_take 5 queue
      have given := system.toClient.take.weight_giveBack 5
      have unchanged : clientLeft config after system.farewell =
          clientLeft config system.client system.farewell := by
        simp only [clientLeft, stage, s, i]
      rw [same]
      simp only [rank, unchanged]
      omega
  | settles polls drains through =>
      have settled := Mailbox.weight_settle 5 drains
      have told := system.toServer.weight_told 16 link.tells system.toClient
      have left := polled_left ok fits polls system.toClient.settle
        (system.toServer.told link.tells system.toClient)
      rw [polled_eq]
      simp only [rank]
      omega
  | allocates old at_stage =>
      have here : clientLeft config system.client system.farewell =
          30 + roundPrice config * rounds config 1 := by
        simp only [clientLeft, at_stage]
      have room : ¬ FloodPing.World.maxSize config < 0 := by
        have lower := fits.1
        rw [FloodPing.World.maxSize, EchoPing.World.maxSize_eq (by omega) config.txBufferSizeInt]
        omega
      have there : clientLeft config
          (FloodPing.World.allocate config system.client (some old)) system.farewell =
            21 + roundPrice config * rounds config 1 := by
        simp only [FloodPing.World.allocate, if_neg room, clientLeft]
      simp only [rank, here, there]
      omega
  | nextRound at_stage =>
      have left := nextRound_left ok.client at_stage system.farewell
      simp only [rank]
      omega
  | sends at_stage room =>
      have left := sends_left ok.client at_stage system.farewell
      have posted := system.toServer.weight_post 16 (.message system.client.message)
      simp only [rank]
      omega
  | refused at_stage full =>
      have left : clientLeft config
          (FloodPing.World.trySendReturned config system.client FloodPing.rpmsgErrNoBuff)
            system.farewell < clientLeft config system.client system.farewell := by
        unfold FloodPing.World.trySendReturned
        rw [if_pos rfl]
        simp only [clientLeft, at_stage]
        omega
      simp only [rank]
      omega
  | parts at_stage stays room =>
      have posted := system.toServer.weight_post 16 .destroyed
      simp only [rank, clientLeft, at_stage, stays, Bool.false_eq_true, if_true, if_false]
      omega
  | lingers at_stage full =>
      simp only [ClientBusy, at_stage] at busy
      exact absurd busy.2 full

theorem ClientMoves.rests (moved : ClientMoves link config system next)
    (idle : ¬ system.ClientBusy link) : next = system := by
  have wakes : system.client.stage.polls ->
      ¬ (system.toClient.kicked = true ∨ system.toClient.draining = true) := by
    rintro (at_stage | at_stage | at_stage)
    · simpa only [ClientBusy, at_stage] using idle
    · simpa only [ClientBusy, at_stage] using idle
    · simpa only [ClientBusy, at_stage] using idle
  cases moved with
  | starts at_stage | allocates old at_stage | nextRound at_stage | sends at_stage room
  | refused at_stage full => simp only [ClientBusy, at_stage, not_true_eq_false] at idle
  | wakes polls sleeps rings => exact absurd (Or.inl rings) (wakes polls)
  | receives old item rest polls drains queue => exact absurd (Or.inr drains) (wakes polls)
  | settles polls drains through => exact absurd (Or.inr drains) (wakes polls)
  | parts at_stage stays room =>
      simp only [ClientBusy, at_stage] at idle
      exact absurd ⟨stays, room⟩ idle
  | lingers at_stage full => rfl

theorem clientPolls_some (link : Link) (old : ByteMemory)
    (busy : system.toClient.kicked = true ∨ system.toClient.draining = true) :
    Exists fun next => system.clientPolls link config old = some next := by
  unfold clientPolls
  split
  · split <;> exact ⟨_, rfl⟩
  · rename_i sleeps
    exact ⟨_, if_pos (busy.resolve_right sleeps)⟩

theorem clientStep_some (old : ByteMemory) (busy : system.ClientBusy link) :
    Exists fun next => system.clientStep link config old = some next := by
  cases at_stage : system.client.stage with
  | start | allocate | nextRound | sending => exact ⟨_, by rw [clientStep, at_stage]⟩
  | awaitReady | sendPolling | waiting =>
      simp only [ClientBusy, at_stage] at busy
      rw [clientStep, at_stage]
      exact clientPolls_some link old busy
  | ended =>
      simp only [ClientBusy, at_stage] at busy
      rw [clientStep, at_stage]
      simp only [busy.1, busy.2, Bool.false_eq_true, if_true, if_false]
      exact ⟨_, rfl⟩
  | failed | undefined => simp only [ClientBusy, at_stage] at busy

/-! ### What a side leaves to the other -/

theorem ServerMoves.keepsClientBusy (moved : ServerMoves link system next)
    (busy : system.ClientBusy link) : next.ClientBusy link := by
  rcases moved.client with ⟨client, -, farewell, draining⟩
  rcases moved.leaves with ⟨rings, used⟩
  unfold ClientBusy at busy ⊢
  rw [client, farewell, draining]
  cases at_stage : system.client.stage with
  | start | allocate | nextRound | sending => trivial
  | awaitReady | sendPolling | waiting =>
      rw [at_stage] at busy
      exact busy.imp_left rings
  | ended =>
      rw [at_stage] at busy
      exact ⟨busy.1, Nat.lt_of_le_of_lt used busy.2⟩
  | failed | undefined =>
      rw [at_stage] at busy
      exact busy

theorem ClientMoves.leaves (ok : Ok link config system) (fits : Fits config)
    (moved : ClientMoves link config system next) :
    next.server = system.server ∧ next.toServer.draining = system.toServer.draining ∧
      (system.toServer.kicked = true -> next.toServer.kicked = true) ∧
      next.toClient.used ≤ system.toClient.used := by
  cases moved with
  | starts | sends | parts => exact ⟨rfl, rfl, fun _ => rfl, Nat.le_refl _⟩
  | wakes | allocates | nextRound | refused | lingers => exact ⟨rfl, rfl, id, Nat.le_refl _⟩
  | receives old item rest polls drains queue =>
      rcases ok.receives fits old polls drains queue with ⟨after, ready, same, -⟩
      have taken : system.toClient.take.used = system.toClient.used := Mailbox.used_take queue
      rw [same]
      exact ⟨rfl, rfl, id, Nat.le_trans Mailbox.used_giveBack_le (Nat.le_of_eq taken)⟩
  | settles polls drains through =>
      rw [polled_eq]
      exact ⟨rfl, Mailbox.told_draining _ _, Mailbox.kicked_told _ _, Nat.le_refl _⟩

theorem ClientMoves.keepsServerBusy (ok : Ok link config system) (fits : Fits config)
    (moved : ClientMoves link config system next) (busy : system.ServerBusy link) :
    next.ServerBusy link := by
  rcases moved.leaves ok fits with ⟨server, draining, rings, used⟩
  unfold ServerBusy at busy ⊢
  rw [server, draining]
  cases at_pc : system.server with
  | createEpt | returning | destroyEpt => trivial
  | polling =>
      rw [at_pc] at busy
      exact busy.imp_left rings
  | echoing bytes =>
      rw [at_pc] at busy
      exact Nat.lt_of_le_of_lt used busy
  | returned =>
      rw [at_pc] at busy
      exact busy

/-! ### Nobody waits for ever -/

/-- Both programs have returned from `app()`. -/
def Finished (system : System) : Prop :=
  system.client.stage = .ended ∧ system.farewell = true ∧ system.server = .returned

theorem Ok.waiting_through (ok : Ok link config system) (at_stage : system.client.stage = .waiting)
    (asleep : system.toClient.draining = false) : system.inFlight ≠ [] := by
  intro nothing
  have less := ok.client.asks at_stage asleep
  have stage := ok.client.ok.stage
  rw [FloodPing.StageOk, at_stage] at stage
  rcases stage with ⟨size, inRound⟩
  have carried := ok.client.carried
  have rnum := (inRound.clean ok.client.clean).2
  have counted := inRound.counted
  rw [nothing, List.append_nil] at carried
  rw [← carried, counted] at rnum
  omega

/-- A server with nothing to do is asleep over an empty queue, is held up by full buffers,
or has returned. -/
theorem Ok.server_idle (ok : Ok link config system) (idle : ¬ system.ServerBusy link) :
    system.server = .polling ∧ system.toServer.draining = false ∧ system.toServer.queue = [] ∧
        system.toServer.owed = false ∧ system.toServer.used = 0 ∨
      (Exists fun bytes => system.server = .echoing bytes ∧
        ¬ system.toClient.used < link.toClient) ∨
      system.server = .returned := by
  cases at_pc : system.server with
  | createEpt | returning | destroyEpt =>
      simp only [ServerBusy, at_pc, not_true_eq_false] at idle
  | polling =>
      simp only [ServerBusy, at_pc, not_or, Bool.not_eq_true] at idle
      rcases ok.link.serverBox.nothing idle.2 idle.1 with ⟨queue, held, owed⟩
      refine Or.inl ⟨rfl, idle.2, queue, owed, ?_⟩
      rw [Mailbox.used, queue, held]
      rfl
  | echoing bytes =>
      simp only [ServerBusy, at_pc] at idle
      exact Or.inr (Or.inl ⟨bytes, rfl, idle⟩)
  | returned => exact Or.inr (Or.inr rfl)

theorem Ok.client_idle (ok : Ok link config system) (idle : ¬ system.ClientBusy link) :
    system.client.stage.polls ∧ system.toClient.draining = false ∧
        system.toClient.kicked = false ∧ system.toClient.queue = [] ∧ system.toClient.used = 0 ∨
      system.client.stage = .ended ∧
        (system.farewell = true ∨ ¬ system.toServer.used < link.toServer) := by
  have sleeps : system.client.stage.polls ->
      ¬ (system.toClient.kicked = true ∨ system.toClient.draining = true) ->
      system.client.stage.polls ∧ system.toClient.draining = false ∧
        system.toClient.kicked = false ∧ system.toClient.queue = [] ∧ system.toClient.used = 0 := by
    intro polls quiet
    rw [not_or, Bool.not_eq_true, Bool.not_eq_true] at quiet
    rcases ok.link.clientBox.nothing quiet.2 quiet.1 with ⟨queue, held, -⟩
    refine ⟨polls, quiet.2, quiet.1, queue, ?_⟩
    rw [Mailbox.used, queue, held]
    rfl
  cases at_stage : system.client.stage with
  | start | allocate | nextRound | sending =>
      simp only [ClientBusy, at_stage, not_true_eq_false] at idle
  | awaitReady =>
      simp only [ClientBusy, at_stage] at idle
      exact Or.inl (at_stage ▸ sleeps (Or.inl at_stage) idle)
  | sendPolling =>
      simp only [ClientBusy, at_stage] at idle
      exact Or.inl (at_stage ▸ sleeps (Or.inr (Or.inl at_stage)) idle)
  | waiting =>
      simp only [ClientBusy, at_stage] at idle
      exact Or.inl (at_stage ▸ sleeps (Or.inr (Or.inr at_stage)) idle)
  | ended =>
      simp only [ClientBusy, at_stage] at idle
      refine Or.inr ⟨rfl, ?_⟩
      cases parted : system.farewell with
      | true => exact Or.inl rfl
      | false => exact Or.inr (fun room => idle ⟨parted, room⟩)
  | failed => exact absurd at_stage ok.client.defined.1
  | undefined => exact absurd at_stage ok.client.defined.2

/-- Short of the end one of the two has something to do. -/
theorem Ok.somebody (ok : Ok link config system) (short : ¬ system.Finished) :
    Exists fun who => system.Busy link who := by
  by_contra nobody
  have clientIdle := ok.client_idle (fun busy => nobody ⟨.client, busy⟩)
  have serverIdle := ok.server_idle (fun busy => nobody ⟨.server, busy⟩)
  rcases clientIdle with ⟨polls, asleep, silent, queue, unused⟩ | ⟨ended, parting⟩
  · rcases serverIdle with ⟨at_pc, -, empty, owed, free⟩ | ⟨bytes, at_pc, full⟩ | returned
    · rcases polls with at_stage | at_stage | at_stage
      · have unbound := ok.client.unbound (Or.inr at_stage) asleep
        rcases ok.announced.created (by rw [at_pc]; exact ServerPc.noConfusion) with bound | member
        · exact Bool.noConfusion (unbound.symm.trans bound)
        · rw [queue] at member
          exact absurd member List.not_mem_nil
      · rcases ok.promises.refused at_stage asleep with rings | promised
        · exact Bool.noConfusion (silent.symm.trans rings)
        · unfold Promised at promised
          split at promised
          · rcases promised with owes | full
            · exact Bool.noConfusion (owed.symm.trans owes)
            · have some := link.someToServer
              omega
          · apply promised
            simp only [System.inFlight, queue, empty, at_pc, ServerPc.echoes, List.filterMap_nil,
              List.append_nil]
      · apply ok.waiting_through at_stage asleep
        simp only [System.inFlight, queue, empty, at_pc, ServerPc.echoes, List.filterMap_nil,
          List.append_nil]
    · have some := link.someToClient
      omega
    · have asked := ok.announced.leaving (Or.inr returned)
      have ended := (ok.announced.farewell (ok.announced.shutdownReq asked)).1
      rw [ended] at polls
      exact absurd polls (by decide)
  · have quiet := ok.client.quiet (by rw [ended]; decide)
    rcases serverIdle with ⟨at_pc, sleeps, empty, -, free⟩ | ⟨bytes, at_pc, -⟩ | returned
    · have some := link.someToServer
      have parted := parting.resolve_right (by omega)
      rcases (ok.announced.farewell parted).2 with asked | member
      · exact Bool.noConfusion (sleeps.symm.trans (ok.announced.serving asked at_pc))
      · rw [empty] at member
        exact absurd member List.not_mem_nil
    · simp only [System.inFlight, at_pc, ServerPc.echoes, List.append_eq_nil_iff,
        List.cons_ne_nil, and_false, false_and] at quiet
    · have asked := ok.announced.leaving (Or.inr returned)
      exact short ⟨ended, ok.announced.shutdownReq asked, returned⟩

theorem ranked (link : Link) (fits : Fits config) :
    Fairness.Ranked (step link config) Label.party (fun _ _ => True) (Ok link config) Finished
      (rank config) (Busy link) where
  preserved := fun _ _ _ ok _ moved => ok.step fits moved
  lowers := by
    intro system label ok _ busy
    cases label with
    | client old =>
        rcases clientStep_some old busy with ⟨next, moved⟩
        exact ⟨next, moved, (clientStep_moves moved).rank_lt ok fits busy⟩
    | server =>
        rcases serverStep_some busy with ⟨next, moved⟩
        exact ⟨next, moved, (serverStep_moves moved).rank_lt ok.announced busy⟩
  keeps := by
    intro system label next _ _ idle moved
    cases label with
    | client old => exact Nat.le_of_eq (congrArg _ ((clientStep_moves moved).rests idle))
    | server => exact Nat.le_of_eq (congrArg _ ((serverStep_moves moved).rests idle))
  stays := by
    intro system label next who ok _ busy other moved
    cases label with
    | client old =>
        cases who with
        | client => exact absurd rfl other
        | server => exact Or.inl ((clientStep_moves moved).keepsServerBusy ok fits busy)
    | server =>
        cases who with
        | client => exact Or.inl ((serverStep_moves moved).keepsClientBusy busy)
        | server => exact absurd rfl other
  somebody := fun _ ok short => ok.somebody short

end Rank

end System

/-! ## Whole runs -/

variable {link : Link} {config : Config}

/-- What holds at any time: each message that was sent has been received or is under way,
once and in order; the buffers suffice; the test has found no error and gone nowhere it
should not; the server leaves after the client; and until both have left somebody gets on. -/
structure Sound (link : Link) (config : Config) (system : System) : Prop where
  carried : system.client.current.sent = system.client.current.received ++ system.inFlight
  bounded : system.toServer.used ≤ link.toServer ∧ system.toClient.used ≤ link.toClient
  clean : system.client.errCnt = 0
  inside : system.client.trespassed = false
  rounds : forall earlier (inside : earlier < system.client.finished.length),
    FloodPing.RoundSound config (earlier + 1) system.client.finished[earlier]
  leaves : system.server = .returned -> system.farewell = true
  goesOn : ¬ system.Finished -> Exists fun label => Exists fun next =>
    System.step link config system label = some next ∧ next ≠ system

theorem System.Ok.sound {system : System} (ok : system.Ok link config) (fits : System.Fits config) :
    Sound link config system where
  carried := ok.client.carried
  bounded := ⟨ok.link.serverRoom, ok.link.clientRoom⟩
  clean := ok.client.clean
  inside := ok.client.ok.inside
  rounds := ok.client.ok.rounds
  leaves := fun returned => ok.announced.shutdownReq (ok.announced.leaving (Or.inr returned))
  goesOn := by
    intro short
    rcases ok.somebody short with ⟨who, busy⟩
    have goes : forall label : Label, label.party = who -> Exists fun next =>
        System.step link config system label = some next ∧ next ≠ system := by
      intro label mover
      rcases (System.ranked link fits).lowers system label ok trivial (mover ▸ busy) with
        ⟨next, moved, less⟩
      exact ⟨next, moved, fun same => Nat.lt_irrefl _ (same ▸ less)⟩
    cases who with
    | client => exact ⟨.client (fun _ => 0), goes _ rfl⟩
    | server => exact ⟨.server, goes _ rfl⟩

/-- Against the echo server the flood test is sound at any time, however the two are scheduled.
The buffers may be few, yet enough (`Link.enough`): one in each direction, and two towards the
server where nothing is said about those handed back. The sizes are those that the callback takes
for no error, 16 to 512 bytes. -/
theorem flood_sound (link : Link) (config : Config) (fits : System.Fits config)
    {performed : List Label} {system : System}
    (reached : Transition.run (System.step link config) System.initial performed = some system) :
    Sound link config system :=
  (Transition.run_invariant (fun _ _ _ ok moved => System.Ok.step ok fits moved)
    System.Ok.initially reached).sound fits

/-- The test has ended, and all its rounds are as they should be. -/
structure Passed (config : Config) (system : System) : Prop where
  finished : system.Finished
  completed : system.client.completed = true
  clean : system.client.errCnt = 0
  inside : system.client.trespassed = false
  all : (system.client.finished.length : Int) = config.txBufferSize - 16
  rounds : forall earlier (inside : earlier < system.client.finished.length),
    FloodPing.RoundSound config (earlier + 1) system.client.finished[earlier]

/-- Every fair schedule brings the flood test to its end and the server to its own, with every
package of every size echoed once and in order. The number of packages is arbitrary. The sizes
are those of packages that hold their header and that the callback takes for no error, 16 to 512
bytes, and the link has enough buffers (`Link.enough`), so that a side that waits for one gets
it. -/
theorem flood_passes (link : Link) (config : Config) (fits : System.Fits config)
    (schedule : Nat -> Label) (fair : Fairness.Fair Label.party schedule) :
    Exists fun n =>
      Passed config (Fairness.trace (System.step link config) System.initial schedule n) := by
  have ranked := System.ranked link fits
  rcases ranked.reaches System.Ok.initially (fun _ => trivial) fair with ⟨n, finished⟩
  have ok : System.Ok link config
      (Fairness.trace (System.step link config) System.initial schedule n) :=
    Fairness.trace_invariant ranked.preserved System.Ok.initially (fun _ => trivial) n
  have completed := ok.client.completed finished.1
  exact ⟨n, {
    finished := finished
    completed := completed
    clean := ok.client.clean
    inside := ok.client.ok.inside
    all := (ok.client.ok.completed completed).2
    rounds := ok.client.ok.rounds }⟩

/-- As few buffers as there can be, and nobody is told -/
def narrowLink : Link where
  toServer := 2
  toClient := 1
  tells := false
  someToServer := Nat.zero_lt_two
  someToClient := Nat.zero_lt_one
  enough := fun _ => Nat.le_refl 2

/-- The two in turn -/
def inTurn : Nat -> Label := Fairness.cycle (.client fun _ => 0) [.server]

theorem inTurn_fair : Fairness.Fair Label.party inTurn := by
  apply Fairness.cycle_fair
  intro who
  cases who with
  | client => exact ⟨_, List.mem_cons_self, rfl⟩
  | server => exact ⟨_, List.mem_cons_of_mem _ List.mem_cons_self, rfl⟩

theorem twoPackages_fit : System.Fits FloodPing.twoPackages := by
  constructor
  · decide
  · decide

/-- The announcement of the client is under way. -/
theorem announcing_sound : Sound narrowLink FloodPing.twoPackages
    { System.initial with
      client := FloodPing.World.initial.createEpt 0
      toServer := Mailbox.empty.post .created } := by
  have reached : Transition.run (System.step narrowLink FloodPing.twoPackages) System.initial
      [.client (fun _ => 0)] =
        some { System.initial with
          client := FloodPing.World.initial.createEpt 0
          toServer := Mailbox.empty.post .created } := rfl
  exact flood_sound narrowLink FloodPing.twoPackages twoPackages_fit reached

theorem twoPackages_passes : Exists fun n =>
    Passed FloodPing.twoPackages
      (Fairness.trace (System.step narrowLink FloodPing.twoPackages) System.initial inTurn n) :=
  flood_passes narrowLink FloodPing.twoPackages twoPackages_fit inTurn inTurn_fair

end FloodEcho
end OpenAmpReference
