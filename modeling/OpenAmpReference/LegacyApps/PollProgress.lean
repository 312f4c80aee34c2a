import OpenAmpReference.Library.Fairness
import OpenAmpReference.LegacyApps.PlatformPoll

namespace OpenAmpReference
namespace LegacyApps

/-!
# Every kick is answered

The poller comes out of its section again and again, and an interrupt that can
be taken again and again is taken at some time.  So a kick that finds the poller
parked does not stay unheard.

A peer that never stops kicking can keep the handler running, for which the
section waits.  So the peer is asked to fall silent at some time; the other
channels are not.
-/

/-! ## What the source still asks for -/

namespace Platform

/-- The bits belong to other channels. -/
def Foreign : Platform -> BitVec 32 -> Prop
  | zynqmpR5 mask, bits | zynqmp mask, bits => bits &&& mask.bits = 0#32
  | linuxGeneric, _ => True

/-- The statement of the handler after which the source asks for less. -/
def serving : Platform -> HandlerStatement
  | zynqmpR5 _ | zynqmp _ => .writeIsr
  | linuxGeneric => .readSocket

/-- The source after that statement. -/
def served : Platform -> Source -> Source
  | zynqmpR5 mask, source => (zynqmpR5 mask).acknowledge source
  | zynqmp mask, source => (zynqmp mask).acknowledge source
  | linuxGeneric, source => { source with unread := source.unread - 32 }

/-- At most so many interrupts will be taken if no kick comes any more. -/
def interrupts (platform : Platform) (source : Source) : Nat :=
  match platform with
  | zynqmpR5 _ | zynqmp _ => if platform.pending source then 1 else 0
  | linuxGeneric => source.unread

theorem pending_foreign {platform : Platform} {bits : BitVec 32} (foreign : platform.Foreign bits)
    (source : Source) :
    platform.pending { source with isr := source.isr ||| bits } = platform.pending source := by
  cases platform with
  | zynqmpR5 mask | zynqmp mask =>
      have other : bits &&& mask.bits = 0#32 := foreign
      simp only [pending, BitVec.and_or_distrib_right, other, BitVec.or_zero]
  | linuxGeneric => rfl

theorem interrupts_foreign {platform : Platform} {bits : BitVec 32}
    (foreign : platform.Foreign bits) (source : Source) :
    platform.interrupts { source with isr := source.isr ||| bits } =
      platform.interrupts source := by
  have same := pending_foreign foreign source
  cases platform with
  | zynqmpR5 mask | zynqmp mask => simp only [interrupts, same]
  | linuxGeneric => rfl

theorem interrupts_pos_iff (platform : Platform) (source : Source) :
    0 < platform.interrupts source ↔ platform.pending source = true := by
  cases platform with
  | zynqmpR5 mask | zynqmp mask =>
      simp only [interrupts]
      split <;> simp_all
  | linuxGeneric => simp [interrupts, pending, Nat.pos_iff_ne_zero]

/-- The status bits are cleared, and the socket is read in blocks of 32 bytes. -/
theorem interrupts_served (platform : Platform) (source : Source) :
    platform.interrupts (platform.served source) = platform.interrupts source - 32 := by
  cases platform with
  | zynqmpR5 mask | zynqmp mask =>
      have cleared : source.isr &&& ~~~mask.bits &&& mask.bits = 0#32 := by
        rw [BitVec.and_assoc, BitVec.and_comm (~~~mask.bits), BitVec.and_not_self]
        exact BitVec.and_zero
      have silent : (if source.isr &&& ~~~mask.bits &&& mask.bits != 0#32 then 1 else 0) = 0 := by
        rw [cleared]
        rfl
      have once : forall asks : Bool, 0 = (if asks then 1 else 0) - 32 := by decide
      exact silent.trans (once _)
  | linuxGeneric => rfl

end Platform

namespace Poll

variable {platform : Platform} {poll next : Poll}

/-! ## The rank -/

/-- The interrupts still to come when the handler has run. -/
def toCome (platform : Platform) (poll : Poll) : Nat :=
  if platform.serving ∈ poll.handler then platform.interrupts (platform.served poll.source)
  else platform.interrupts poll.source

/-- The statements left to the poller before it asks for the notifications, once the flag is
clear; before that it only goes round. -/
def pollerLeft (poll : Poll) : Nat :=
  match poll.poller with
  | .notify => 1
  | .enable => 2
  | .test => if poll.nokick then 9 else 3
  | .disable => if poll.nokick then 9 else 4
  | .returned | .resumed => if poll.nokick then 9 else 5
  | .notifying | .suspended => if poll.nokick then 9 else 6

def rank (platform : Platform) (poll : Poll) : Nat :=
  100 * poll.toCome platform + 10 * poll.handler.length + poll.pollerLeft

theorem pollerLeft_le (poll : Poll) : poll.pollerLeft ≤ 9 := by
  unfold pollerLeft
  split <;> first | omega | (split <;> omega)

theorem interrupt_lowers (pending : platform.pending poll.source = true)
    (idle : poll.handler = []) :
    rank platform { poll with handler := platform.irqHandler } < rank platform poll := by
  have fewer := platform.interrupts_served poll.source
  have asks := (platform.interrupts_pos_iff poll.source).mpr pending
  have serves : platform.serving ∈ platform.irqHandler := by
    cases platform <;> simp [Platform.serving, Platform.irqHandler]
  have short : platform.irqHandler.length ≤ 4 := by cases platform <;> simp [Platform.irqHandler]
  have before : poll.toCome platform = platform.interrupts poll.source := by
    rw [toCome, idle, if_neg List.not_mem_nil]
  have after : toCome platform { poll with handler := platform.irqHandler } =
      platform.interrupts (platform.served poll.source) := by
    rw [toCome, if_pos serves]
  have same : pollerLeft { poll with handler := platform.irqHandler } = poll.pollerLeft := rfl
  simp only [rank, before, after, same, idle, List.length_nil]
  omega

theorem toCome_rest {statement : HandlerStatement} {rest : List HandlerStatement}
    (at_pc : poll.handler = statement :: rest) (other : platform.serving ≠ statement) :
    toCome platform { poll with handler := rest } = poll.toCome platform := by
  simp only [toCome, at_pc, List.mem_cons, other, false_or]

theorem toCome_served {rest : List HandlerStatement}
    (at_pc : poll.handler = platform.serving :: rest) :
    toCome platform { poll with source := platform.served poll.source, handler := rest } ≤
      poll.toCome platform := by
  have again := platform.interrupts_served (platform.served poll.source)
  have before : poll.toCome platform = platform.interrupts (platform.served poll.source) := by
    rw [toCome, at_pc, if_pos List.mem_cons_self]
  have after :
      toCome platform { poll with source := platform.served poll.source, handler := rest } =
        if platform.serving ∈ rest then
          platform.interrupts (platform.served (platform.served poll.source))
        else platform.interrupts (platform.served poll.source) := rfl
  rw [before, after]
  split <;> omega

theorem handlerStep_frame (moved : poll.handlerStep platform = some next) :
    next.poller = poll.poller ∧ next.unreported = poll.unreported ∧
      (poll.nokick = false -> next.nokick = false) := by
  cases at_pc : poll.handler with
  | nil => simp only [handlerStep, at_pc, reduceCtorEq] at moved
  | cons statement rest =>
      cases statement with
      | checkStatus | clearFlag | writeIsr | resume =>
          simp only [handlerStep, at_pc, Option.some.injEq] at moved
          subst moved
          exact ⟨rfl, rfl, fun clear => by first | exact clear | rfl⟩
      | readSocket =>
          simp only [handlerStep, at_pc, Option.ite_none_left_eq_some, Option.some.injEq] at moved
          rcases moved with ⟨-, rfl⟩
          exact ⟨rfl, rfl, id⟩

theorem pollerStep_frame (moved : poll.pollerStep = some next) :
    next.handler = poll.handler ∧ next.source = poll.source ∧
      (poll.poller ≠ .notify -> next.unreported = poll.unreported) := by
  cases at_pc : poll.poller with
  | disable =>
      simp only [pollerStep, at_pc, Option.ite_none_right_eq_some, Option.some.injEq] at moved
      rcases moved with ⟨-, rfl⟩
      exact ⟨rfl, rfl, fun _ => rfl⟩
  | notify =>
      simp only [pollerStep, at_pc, Option.some.injEq] at moved
      subst moved
      exact ⟨rfl, rfl, fun silent => absurd rfl silent⟩
  | returned | test | enable | notifying | suspended | resumed =>
      simp only [pollerStep, at_pc, Option.some.injEq] at moved
      subst moved
      exact ⟨rfl, rfl, fun _ => rfl⟩

/-- The handler pays for every statement, also for the one that sends the poller on its way. -/
theorem handler_lowers (moved : poll.handlerStep platform = some next) :
    rank platform next < rank platform poll := by
  have fewer : next.toCome platform ≤ poll.toCome platform ∧
      next.handler.length < poll.handler.length := by
    cases at_pc : poll.handler with
    | nil => simp only [handlerStep, at_pc, reduceCtorEq] at moved
    | cons statement rest =>
        have shorter : rest.length < (statement :: rest).length := Nat.lt_succ_self _
        cases statement with
        | checkStatus =>
            simp only [handlerStep, at_pc, Option.some.injEq] at moved
            subst moved
            have other : platform.serving ≠ .checkStatus := by
              cases platform <;> exact HandlerStatement.noConfusion
            cases asks : platform.pending poll.source with
            | true =>
                rw [if_pos rfl]
                exact ⟨Nat.le_of_eq (toCome_rest at_pc other), shorter⟩
            | false =>
                rw [if_neg Bool.false_ne_true]
                have silent : ¬ 0 < platform.interrupts poll.source := by
                  rw [platform.interrupts_pos_iff, asks]
                  exact Bool.false_ne_true
                refine ⟨?_, Nat.succ_pos _⟩
                rw [toCome, if_neg List.not_mem_nil]
                exact Nat.le_trans (Nat.not_lt.mp silent) (Nat.zero_le _)
        | clearFlag =>
            simp only [handlerStep, at_pc, Option.some.injEq] at moved
            subst moved
            have other : platform.serving ≠ .clearFlag := by
              cases platform <;> exact HandlerStatement.noConfusion
            exact ⟨Nat.le_of_eq (toCome_rest at_pc other), shorter⟩
        | writeIsr =>
            simp only [handlerStep, at_pc, Option.some.injEq] at moved
            subst moved
            refine ⟨?_, shorter⟩
            cases platform with
            | zynqmpR5 mask | zynqmp mask => exact toCome_served at_pc
            | linuxGeneric => exact Nat.le_of_eq (toCome_rest at_pc HandlerStatement.noConfusion)
        | readSocket =>
            simp only [handlerStep, at_pc, Option.ite_none_left_eq_some, Option.some.injEq] at moved
            rcases moved with ⟨-, rfl⟩
            refine ⟨?_, shorter⟩
            cases platform with
            | zynqmpR5 mask | zynqmp mask =>
                exact Nat.le_of_eq (toCome_rest at_pc HandlerStatement.noConfusion)
            | linuxGeneric => exact toCome_served at_pc
        | resume =>
            simp only [handlerStep, at_pc, Option.some.injEq] at moved
            subst moved
            have other : platform.serving ≠ .resume := by
              cases platform <;> exact HandlerStatement.noConfusion
            exact ⟨Nat.le_of_eq (toCome_rest at_pc other), shorter⟩
  have bounded := next.pollerLeft_le
  unfold rank
  omega

/-- A poller that goes round keeps its rank, and one with a clear flag or past its test
lowers it. -/
theorem poller_keeps (moved : poll.pollerStep = some next) (silent : poll.poller ≠ .notify) :
    rank platform next ≤ rank platform poll ∧
      (poll.nokick = false ∨ poll.Taken -> rank platform next < rank platform poll) := by
  rcases pollerStep_frame moved with ⟨handler, source, -⟩
  have steps : next.pollerLeft ≤ poll.pollerLeft ∧
      (poll.nokick = false ∨ poll.Taken -> next.pollerLeft < poll.pollerLeft) := by
    cases at_pc : poll.poller with
    | notify => exact absurd at_pc silent
    | disable =>
        simp only [pollerStep, at_pc, Option.ite_none_right_eq_some, Option.some.injEq] at moved
        rcases moved with ⟨-, rfl⟩
        cases flag : poll.nokick <;> simp [pollerLeft, Taken, at_pc, flag]
    | returned | test | enable | notifying | suspended | resumed =>
        simp only [pollerStep, at_pc, Option.some.injEq] at moved
        subst moved
        cases flag : poll.nokick <;> simp [pollerLeft, Taken, at_pc, flag]
  have same : next.toCome platform = poll.toCome platform := by
    rw [toCome, toCome, handler, source]
  rw [rank, rank, same, handler]
  refine ⟨by omega, fun goes => ?_⟩
  have lower := steps.2 goes
  omega

/-! ## One event -/

/-- No kick; other channels may raise their bits. -/
def Quiet (platform : Platform) : PollEvent -> Prop
  | .kick => False
  | .raise bits => platform.Foreign bits
  | .interrupt | .handler | .poller => True

/-- An interrupt can be taken. -/
def Open (platform : Platform) (poll : Poll) : Prop :=
  platform.pending poll.source = true ∧ poll.handler = [] ∧ ¬ poll.poller.InSection

/-- The socket has bytes for a handler that is about to read them. -/
def Readable (poll : Poll) : Prop :=
  HandlerStatement.readSocket ∈ poll.handler -> poll.source.unread ≠ 0

variable {event : PollEvent}

/-- The handler reads the socket first, and only once. -/
theorem Ok.reads_once (ok : poll.Ok platform) {statement : HandlerStatement}
    {rest : List HandlerStatement} (at_pc : poll.handler = statement :: rest) :
    HandlerStatement.readSocket ∉ rest := by
  have shape := ok.shape
  rw [at_pc] at shape
  cases platform with
  | zynqmpR5 mask | zynqmp mask =>
      intro reads
      have member := shape.subset (List.mem_cons_of_mem _ reads)
      simp [Platform.irqHandler] at member
  | linuxGeneric =>
      simp only [Platform.irqHandler, List.suffix_cons_iff, List.suffix_nil, List.cons.injEq,
        reduceCtorEq, or_false] at shape
      rcases shape with ⟨rfl, rfl⟩ | ⟨rfl, rfl⟩ <;> decide

theorem Readable.step (readable : poll.Readable) (ok : poll.Ok platform)
    (genuine : event = .interrupt -> platform.pending poll.source = true)
    (moved : poll.step platform event = some next) : next.Readable := by
  cases event with
  | kick =>
      cases Option.some.inj moved
      intro reads
      cases platform with
      | zynqmpR5 mask | zynqmp mask => exact readable reads
      | linuxGeneric => exact Nat.succ_ne_zero _
  | raise bits =>
      cases Option.some.inj moved
      exact readable
  | interrupt =>
      simp only [Poll.step, Option.ite_none_right_eq_some, Option.some.injEq] at moved
      rcases moved with ⟨-, rfl⟩
      intro reads
      cases platform with
      | zynqmpR5 mask | zynqmp mask => simp [Platform.irqHandler] at reads
      | linuxGeneric => exact of_decide_eq_true (genuine rfl)
  | handler =>
      have moved : poll.handlerStep platform = some next := moved
      have later : HandlerStatement.readSocket ∉ next.handler := by
        cases at_pc : poll.handler with
        | nil => simp only [handlerStep, at_pc, reduceCtorEq] at moved
        | cons statement rest =>
            have once := ok.reads_once at_pc
            cases statement with
            | checkStatus =>
                simp only [handlerStep, at_pc, Option.some.injEq] at moved
                subst moved
                show HandlerStatement.readSocket ∉ if _ then _ else _
                split
                · exact once
                · exact List.not_mem_nil
            | clearFlag | writeIsr | resume =>
                simp only [handlerStep, at_pc, Option.some.injEq] at moved
                exact moved ▸ once
            | readSocket =>
                simp only [handlerStep, at_pc, Option.ite_none_left_eq_some,
                  Option.some.injEq] at moved
                exact moved.2 ▸ once
      exact fun reads => absurd reads later
  | poller =>
      have moved : poll.pollerStep = some next := moved
      rcases pollerStep_frame moved with ⟨handler, source, -⟩
      unfold Readable
      rw [handler, source]
      exact readable

theorem handlerStep_some (readable : poll.Readable) (busy : poll.handler ≠ []) :
    Exists fun next => poll.handlerStep platform = some next := by
  cases at_pc : poll.handler with
  | nil => exact absurd at_pc busy
  | cons statement rest =>
      cases statement with
      | checkStatus | clearFlag | writeIsr | resume => simp [handlerStep, at_pc]
      | readSocket =>
          have unread : poll.source.unread ≠ 0 := readable (by rw [at_pc]; exact List.mem_cons_self)
          simp [handlerStep, at_pc, unread]

/-- Short of the call a kick stays unreported. -/
theorem step_unreported (silent : event = .poller -> poll.poller ≠ .notify)
    (kicked : poll.unreported = true) (moved : poll.step platform event = some next) :
    next.unreported = true := by
  cases event with
  | kick => exact Option.some.inj moved ▸ rfl
  | raise bits => exact Option.some.inj moved ▸ kicked
  | interrupt =>
      simp only [Poll.step, Option.ite_none_right_eq_some, Option.some.injEq] at moved
      exact moved.2 ▸ kicked
  | handler => exact (handlerStep_frame moved).2.1.trans kicked
  | poller => exact ((pollerStep_frame moved).2.2 (silent rfl)).trans kicked

/-- Short of the call, and without a kick, the rank does not rise. -/
theorem step_keeps (quiet : Quiet platform event)
    (genuine : event = .interrupt -> platform.pending poll.source = true)
    (silent : event = .poller -> poll.poller ≠ .notify)
    (moved : poll.step platform event = some next) : rank platform next ≤ rank platform poll := by
  cases event with
  | kick => exact False.elim quiet
  | raise bits =>
      cases Option.some.inj moved
      have asks := Platform.interrupts_foreign quiet poll.source
      have served := platform.interrupts_served poll.source
      have servedAfter :=
        platform.interrupts_served { poll.source with isr := poll.source.isr ||| bits }
      rw [asks] at servedAfter
      have same : toCome platform
          { poll with source := { poll.source with isr := poll.source.isr ||| bits } } =
            poll.toCome platform := by
        rw [toCome, toCome, servedAfter, served, asks]
      rw [rank, rank, same]
      exact Nat.le_refl _
  | interrupt =>
      simp only [Poll.step, Option.ite_none_right_eq_some, Option.some.injEq] at moved
      rcases moved with ⟨⟨idle, -⟩, rfl⟩
      exact Nat.le_of_lt (interrupt_lowers (genuine rfl) idle)
  | handler => exact Nat.le_of_lt (handler_lowers moved)
  | poller => exact (poller_keeps moved (silent rfl)).1

/-- A running handler is left alone by everybody else. -/
theorem step_handler (other : event ≠ .handler) (busy : poll.handler ≠ [])
    (moved : poll.step platform event = some next) : next.handler = poll.handler := by
  cases event with
  | kick | raise bits => exact Option.some.inj moved ▸ rfl
  | interrupt =>
      simp only [Poll.step, Option.ite_none_right_eq_some] at moved
      exact absurd moved.1.1 busy
  | handler => exact absurd rfl other
  | poller => exact (pollerStep_frame moved).1

/-- A clear flag and a poller past its test wait for the poller. -/
theorem step_poller (other : event ≠ .poller) (moved : poll.step platform event = some next) :
    next.poller = poll.poller ∧ (poll.nokick = false -> next.nokick = false) := by
  cases event with
  | kick | raise bits => exact Option.some.inj moved ▸ ⟨rfl, id⟩
  | interrupt =>
      simp only [Poll.step, Option.ite_none_right_eq_some, Option.some.injEq] at moved
      exact moved.2 ▸ ⟨rfl, id⟩
  | handler => exact ⟨(handlerStep_frame moved).1, (handlerStep_frame moved).2.2⟩
  | poller => exact absurd rfl other

/-! ## Whole runs -/

abbrev stateAt (platform : Platform) (source : Source) (schedule : Nat -> PollEvent) (n : Nat) :
    Poll :=
  Fairness.trace (step platform) (initial platform source) schedule n

/-- What the processor is asked for.  The poller and the handler move again and again,
interrupts have a pending source, and one that can be taken again and again is taken. -/
structure Served (platform : Platform) (source : Source) (schedule : Nat -> PollEvent) : Prop where
  polls : forall n, Exists fun m => n ≤ m ∧ schedule m = .poller
  handles : forall n, Exists fun m => n ≤ m ∧ schedule m = .handler
  genuine : forall n, schedule n = .interrupt ->
    platform.pending (stateAt platform source schedule n).source = true
  heard : Fairness.Strong (fun n => (stateAt platform source schedule n).Open platform)
    (fun n => schedule n = .interrupt)

variable {source : Source} {schedule : Nat -> PollEvent} {n m : Nat}

theorem Served.ok (served : Served platform source schedule) (n : Nat) :
    (stateAt platform source schedule n).Ok platform ∧
      (stateAt platform source schedule n).Readable := by
  have initially : (initial platform source).Ok platform ∧ (initial platform source).Readable :=
    ⟨initial_ok platform source, fun reads => absurd reads List.not_mem_nil⟩
  exact @Fairness.trace_invariant _ _ (step platform) _ schedule
    (fun poll event => event = .interrupt -> platform.pending poll.source = true)
    (fun poll => poll.Ok platform ∧ poll.Readable)
    (fun _ _ _ before genuine moved =>
      ⟨before.1.step moved, before.2.step before.1 genuine moved⟩) initially served.genuine n

theorem unreported_stays
    (silent : forall m, n ≤ m -> schedule m = .poller ->
      (stateAt platform source schedule m).poller ≠ .notify)
    (kicked : (stateAt platform source schedule n).unreported = true) (after : n ≤ m) :
    (stateAt platform source schedule m).unreported = true := by
  induction m, after using Nat.le_induction with
  | base => exact kicked
  | succ m after inductionHypothesis =>
      exact Fairness.trace_next (fun state : Poll => state.unreported = true) inductionHypothesis
        (fun _ moved => step_unreported (silent m after) inductionHypothesis moved)

/-- From step `n` on the peer is quiet, but its kick is never answered. -/
structure Unheard (platform : Platform) (source : Source) (schedule : Nat -> PollEvent) (n : Nat) :
    Prop where
  served : Served platform source schedule
  quiet : forall m, n ≤ m -> Quiet platform (schedule m)
  kicked : (stateAt platform source schedule n).unreported = true
  silent : forall m, n ≤ m -> schedule m = .poller ->
    (stateAt platform source schedule m).poller ≠ .notify

theorem Unheard.falls (unheard : Unheard platform source schedule n) (after : n ≤ m) :
    rank platform (stateAt platform source schedule (m + 1)) ≤
      rank platform (stateAt platform source schedule m) :=
  Fairness.trace_next
    (fun state : Poll => rank platform state ≤ rank platform (stateAt platform source schedule m))
    (Nat.le_refl _)
    (fun _ moved => step_keeps (unheard.quiet m after) (unheard.served.genuine m)
      (unheard.silent m after) moved)

theorem Unheard.later (unheard : Unheard platform source schedule n) (after : n ≤ m) :
    Unheard platform source schedule m where
  served := unheard.served
  quiet := fun later passed => unheard.quiet later (Nat.le_trans after passed)
  kicked := unreported_stays unheard.silent unheard.kicked after
  silent := fun later passed => unheard.silent later (Nat.le_trans after passed)

/-- Nothing gets better any more. -/
structure Stuck (platform : Platform) (source : Source) (schedule : Nat -> PollEvent) (n : Nat) :
    Prop where
  unheard : Unheard platform source schedule n
  steady : forall m, n ≤ m -> rank platform (stateAt platform source schedule m) =
    rank platform (stateAt platform source schedule n)

namespace Stuck

theorem not_lower (stuck : Stuck platform source schedule n) (after : n ≤ m) {next : Poll}
    (moved : (stateAt platform source schedule m).step platform (schedule m) = some next) :
    ¬ rank platform next < rank platform (stateAt platform source schedule m) := by
  have same := stuck.steady (m + 1) (Nat.le_succ_of_le after)
  rw [stateAt, Fairness.trace_of_some moved, ← stuck.steady m after] at same
  exact Nat.not_lt.mpr (Nat.le_of_eq same.symm)

/-- A handler would end. -/
theorem idle (stuck : Stuck platform source schedule n) (after : n ≤ m) :
    (stateAt platform source schedule m).handler = [] := by
  by_contra busy
  have keeps : forall k, m ≤ k -> (stateAt platform source schedule k).handler ≠ [] ->
      ¬ schedule k = .handler -> (stateAt platform source schedule (k + 1)).handler ≠ [] := by
    intro k _ busy other
    refine Fairness.trace_next (fun state : Poll => state.handler ≠ []) busy (fun next moved => ?_)
    rw [step_handler other busy moved]
    exact busy
  rcases Fairness.holds_at_turn (fun k => (stateAt platform source schedule k).handler ≠ []) busy
    (stuck.unheard.served.handles m) keeps with ⟨k, later, turn, busy⟩
  rcases handlerStep_some (stuck.unheard.served.ok k).2 busy with ⟨next, moved⟩
  have performed : (stateAt platform source schedule k).step platform (schedule k) = some next := by
    rw [turn]
    exact moved
  exact stuck.not_lower (Nat.le_trans after later) performed (handler_lowers moved)

/-- So the poller moves whenever it is its turn. -/
theorem pollerStep_some (stuck : Stuck platform source schedule n) (after : n ≤ m) :
    Exists fun next => (stateAt platform source schedule m).pollerStep = some next := by
  have idle := stuck.idle after
  cases at_pc : (stateAt platform source schedule m).poller <;> simp [pollerStep, at_pc, idle]

/-- A poller with a clear flag, or past its test, would go on to its call. -/
theorem parked (stuck : Stuck platform source schedule n) (after : n ≤ m) :
    (stateAt platform source schedule m).nokick = true ∧
      ¬ (stateAt platform source schedule m).Taken := by
  by_contra goes
  have goes : (stateAt platform source schedule m).nokick = false ∨
      (stateAt platform source schedule m).Taken := by
    rw [not_and_or, not_not, Bool.not_eq_true] at goes
    exact goes
  have keeps : forall k, m ≤ k ->
      ((stateAt platform source schedule k).nokick = false ∨
        (stateAt platform source schedule k).Taken) ->
      ¬ schedule k = .poller ->
      ((stateAt platform source schedule (k + 1)).nokick = false ∨
        (stateAt platform source schedule (k + 1)).Taken) := by
    intro k _ goes other
    refine Fairness.trace_next (fun state : Poll => state.nokick = false ∨ state.Taken) goes
      (fun next moved => ?_)
    rcases step_poller other moved with ⟨same, flag⟩
    unfold Taken
    rw [same]
    exact goes.imp_left flag
  rcases Fairness.holds_at_turn (fun k => (stateAt platform source schedule k).nokick = false ∨
    (stateAt platform source schedule k).Taken) goes (stuck.unheard.served.polls m) keeps with
    ⟨k, later, turn, goes⟩
  have past := Nat.le_trans after later
  rcases stuck.pollerStep_some past with ⟨next, moved⟩
  have performed : (stateAt platform source schedule k).step platform (schedule k) = some next := by
    rw [turn]
    exact moved
  exact stuck.not_lower past performed
    ((poller_keeps moved (stuck.unheard.silent k past turn)).2 goes)

/-- What is left is the interrupt. -/
theorem pending (stuck : Stuck platform source schedule n) (after : n ≤ m) :
    platform.pending (stateAt platform source schedule m).source = true := by
  rcases (stuck.unheard.served.ok m).1.covered (stuck.unheard.later after).kicked with
    waiting | willClear | clear | taken
  · exact waiting
  · have member := willClear.1
    rw [stuck.idle after] at member
    exact absurd member List.not_mem_nil
  · exact Bool.noConfusion (clear.symm.trans (stuck.parked after).1)
  · exact absurd taken (stuck.parked after).2

end Stuck

/-- The statements before the poller is out of its section. -/
def depth : PollerPc -> Nat
  | .test => 3
  | .suspended => 2
  | .resumed => 1
  | .returned | .disable | .enable | .notify | .notifying => 0

theorem Stuck.outside (stuck : Stuck platform source schedule n) (after : n ≤ m) {bound : Nat}
    (bounded : depth (stateAt platform source schedule m).poller ≤ bound) :
    Exists fun k => m ≤ k ∧ ¬ (stateAt platform source schedule k).poller.InSection := by
  induction bound generalizing m with
  | zero =>
      refine ⟨m, Nat.le_refl m, fun inside => ?_⟩
      have parked := (stuck.parked after).2
      cases at_pc : (stateAt platform source schedule m).poller <;>
        simp_all [depth, Taken, PollerPc.InSection]
  | succ bound inductionHypothesis =>
      have keeps : forall k, m ≤ k ->
          depth (stateAt platform source schedule k).poller ≤ bound + 1 ->
          ¬ schedule k = .poller ->
          depth (stateAt platform source schedule (k + 1)).poller ≤ bound + 1 := by
        intro k _ bounded other
        refine Fairness.trace_next (fun state : Poll => depth state.poller ≤ bound + 1) bounded
          (fun next moved => ?_)
        rw [(step_poller other moved).1]
        exact bounded
      rcases Fairness.holds_at_turn
        (fun k => depth (stateAt platform source schedule k).poller ≤ bound + 1) bounded
        (stuck.unheard.served.polls m) keeps with ⟨k, later, turn, bounded⟩
      have past := Nat.le_trans after later
      by_cases inside : (stateAt platform source schedule k).poller.InSection
      · rcases stuck.pollerStep_some past with ⟨next, moved⟩
        have performed :
            (stateAt platform source schedule k).step platform (schedule k) = some next := by
          rw [turn]
          exact moved
        have parked := stuck.parked past
        have lower : depth next.poller ≤ bound := by
          cases at_pc : (stateAt platform source schedule k).poller <;>
            simp_all [pollerStep, depth, Taken, PollerPc.InSection]
          all_goals
            rw [← moved]
            simp only
            omega
        rw [← Fairness.trace_of_some performed] at lower
        rcases inductionHypothesis (Nat.le_succ_of_le past) lower with ⟨out, further, outside⟩
        exact ⟨out, by omega, outside⟩
      · exact ⟨k, later, inside⟩

/-- The interrupt is taken, so nothing is ever stuck. -/
theorem Stuck.impossible (stuck : Stuck platform source schedule n) : False := by
  have opens : forall i, Exists fun k => i ≤ k ∧
      (stateAt platform source schedule k).Open platform := by
    intro i
    rcases stuck.outside (Nat.le_max_right i n) (Nat.le_refl _) with ⟨k, later, outside⟩
    have past : n ≤ k := Nat.le_trans (Nat.le_max_right i n) later
    exact ⟨k, Nat.le_trans (Nat.le_max_left i n) later,
      stuck.pending past, stuck.idle past, outside⟩
  rcases stuck.unheard.served.heard opens n with ⟨k, past, open_, interrupts⟩
  have performed : (stateAt platform source schedule k).step platform (schedule k) =
      some { stateAt platform source schedule k with handler := platform.irqHandler } := by
    rw [interrupts, Poll.step, if_pos open_.2]
  exact stuck.not_lower past performed (interrupt_lowers open_.1 open_.2.1)

/-- If the peer falls silent at some time, every kick before is answered: after it a call of
`remoteproc_get_notification()` starts. The three ports are covered. The peer has to fall silent
because a flood of interrupts may keep the poller off for ever, and the schedule is one that
serves the handler and the poller when they can move. -/
theorem platformPoll_answers (platform : Platform) (source : Source) {schedule : Nat -> PollEvent}
    (served : Served platform source schedule) {last : Nat}
    (quiet : forall m, last ≤ m -> Quiet platform (schedule m)) {n : Nat}
    (kicked : (stateAt platform source schedule n).unreported = true) :
    Exists fun m => n ≤ m ∧ schedule m = .poller ∧
      (stateAt platform source schedule m).poller = .notify := by
  by_contra never
  have silent : forall m, n ≤ m -> schedule m = .poller ->
      (stateAt platform source schedule m).poller ≠ .notify :=
    fun m after turn notifies => never ⟨m, after, turn, notifies⟩
  have unheard : Unheard platform source schedule (max n last) :=
    { served := served
      quiet := fun m after => quiet m (Nat.le_trans (Nat.le_max_right n last) after)
      kicked := unreported_stays silent kicked (Nat.le_max_left n last)
      silent := fun m after => silent m (Nat.le_trans (Nat.le_max_left n last) after) }
  rcases Fairness.comes_to_rest (fun m => rank platform (stateAt platform source schedule m))
    (fun m after => unheard.falls after) with ⟨rest, after, steady⟩
  exact Stuck.impossible ⟨unheard.later after, steady⟩

/-! ### One kick -/

/-- Without a kick the source never asks for more. -/
theorem interrupts_falls (quiet : Quiet platform event)
    (moved : poll.step platform event = some next) :
    platform.interrupts next.source ≤ platform.interrupts poll.source := by
  cases event with
  | kick => exact False.elim quiet
  | raise bits =>
      cases Option.some.inj moved
      exact Nat.le_of_eq (Platform.interrupts_foreign quiet poll.source)
  | interrupt =>
      simp only [Poll.step, Option.ite_none_right_eq_some, Option.some.injEq] at moved
      exact Nat.le_of_eq (moved.2 ▸ rfl)
  | handler =>
      have fewer : platform.interrupts (platform.served poll.source) ≤
          platform.interrupts poll.source := by
        rw [platform.interrupts_served]
        exact Nat.sub_le _ _
      have moved : poll.handlerStep platform = some next := moved
      cases at_pc : poll.handler with
      | nil => simp only [handlerStep, at_pc, reduceCtorEq] at moved
      | cons statement rest =>
          cases statement with
          | checkStatus | clearFlag | resume =>
              simp only [handlerStep, at_pc, Option.some.injEq] at moved
              exact Nat.le_of_eq (moved ▸ rfl)
          | writeIsr =>
              simp only [handlerStep, at_pc, Option.some.injEq] at moved
              subst moved
              cases platform with
              | zynqmpR5 mask | zynqmp mask => exact fewer
              | linuxGeneric => exact Nat.le_refl _
          | readSocket =>
              simp only [handlerStep, at_pc, Option.ite_none_left_eq_some,
                Option.some.injEq] at moved
              rcases moved with ⟨-, rfl⟩
              cases platform with
              | zynqmpR5 mask | zynqmp mask => exact Nat.le_refl _
              | linuxGeneric => exact fewer
  | poller =>
      rw [(pollerStep_frame moved).2.1]

/-- A kick and its interrupt, and then the handler and the poller in turn. -/
def oneKick (n : Nat) : PollEvent :=
  if n = 0 then .kick
  else if n = 1 then .interrupt
  else if n % 2 = 0 then .handler
  else .poller

theorem oneKick_quiet (platform : Platform) {m : Nat} (later : 1 ≤ m) :
    Quiet platform (oneKick m) := by
  rw [oneKick, if_neg (Nat.ne_of_gt later)]
  split
  · trivial
  · split <;> trivial

def kicked (n : Nat) : Poll :=
  stateAt (.zynqmpR5 ⟨0x01000000#32, by decide⟩) ⟨0#32, 0⟩ oneKick n

/-- The handler has acknowledged the kick for good. -/
theorem kicked_acknowledged {m : Nat} (later : 7 ≤ m) :
    Platform.interrupts (.zynqmpR5 ⟨0x01000000#32, by decide⟩) (kicked m).source = 0 := by
  induction m, later using Nat.le_induction with
  | base => decide
  | succ m later inductionHypothesis =>
      have quiet := oneKick_quiet (.zynqmpR5 ⟨0x01000000#32, by decide⟩)
        (Nat.le_trans (by decide : 1 ≤ 7) later)
      exact Fairness.trace_next (fun state : Poll =>
          Platform.interrupts (.zynqmpR5 ⟨0x01000000#32, by decide⟩) state.source = 0)
        inductionHypothesis
        (fun _ moved => Nat.le_zero.mp (inductionHypothesis ▸ interrupts_falls quiet moved))

theorem oneKick_served :
    Served (.zynqmpR5 ⟨0x01000000#32, by decide⟩) ⟨0#32, 0⟩ oneKick where
  polls := by
    intro n
    refine ⟨2 * n + 3, by omega, ?_⟩
    rw [oneKick, if_neg (by omega), if_neg (by omega), if_neg (by omega)]
  handles := by
    intro n
    refine ⟨2 * n + 2, by omega, ?_⟩
    rw [oneKick, if_neg (by omega), if_neg (by omega), if_pos (by omega)]
  genuine := by
    intro n taken
    have second : n = 1 := by
      by_contra other
      rw [oneKick, if_neg other] at taken
      split at taken
      · cases taken
      · split at taken <;> cases taken
    subst second
    decide
  heard := by
    intro opens
    rcases opens 7 with ⟨m, later, open_, -⟩
    have asks := (Platform.interrupts_pos_iff _ _).mpr open_
    exact absurd asks (Nat.not_lt.mpr (Nat.le_of_eq (kicked_acknowledged later)))

theorem oneKick_answered :
    Exists fun m => 1 ≤ m ∧ oneKick m = .poller ∧ (kicked m).poller = .notify :=
  platformPoll_answers _ _ oneKick_served (fun _ later => oneKick_quiet _ later) (by decide)

end Poll
end LegacyApps
end OpenAmpReference
