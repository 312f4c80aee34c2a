import OpenAmpReference.Library.Transition
import Mathlib.Data.List.Infix

namespace OpenAmpReference
namespace LegacyApps

/-!
# `platform_poll()` and its interrupt handlers

The poller takes a flag that the handler clears, and then asks for the
notifications.  The IPI handlers clear the flag before they acknowledge the
coalescing status bit, the socket handler drains the socket before it clears
the flag; a kick may fall anywhere in between.  The poller's test lies in a
section that excludes the handler, so a handler that has acknowledged a kick
has its flag still clear, or still to be cleared.
-/

/-- The channel's bits in the IPI status register. -/
structure ChannelMask where
  bits : BitVec 32
  nonzero : bits ≠ 0#32
  deriving DecidableEq, Repr

/-- The IPI builds of two machines and the socket build of a third. -/
inductive Platform
  | zynqmpR5 (mask : ChannelMask)
  | zynqmp (mask : ChannelMask)
  | linuxGeneric
  deriving DecidableEq, Repr

/-- The IPI status register, and the bytes on the stream socket. -/
structure Source where
  isr : BitVec 32
  unread : Nat
  deriving DecidableEq, Repr

inductive HandlerStatement
  | checkStatus
  | clearFlag
  | writeIsr
  | readSocket
  | resume
  deriving DecidableEq, Repr

namespace Platform

/-- `zynqmp_r5_a53_proc_irq_handler()`, `zynqmp_linux_r5_proc_irq_handler()`
and `linux_proc_irq_handler()` -/
def irqHandler : Platform -> List HandlerStatement
  | .zynqmpR5 _ => [.checkStatus, .clearFlag, .writeIsr, .resume]
  | .zynqmp _ => [.checkStatus, .clearFlag, .writeIsr]
  | .linuxGeneric => [.readSocket, .clearFlag]

/-- `ipi_intr_status & ipi_chn_mask`, or whether the socket has bytes. -/
def pending : Platform -> Source -> Bool
  | .zynqmpR5 mask, source | .zynqmp mask, source => source.isr &&& mask.bits != 0#32
  | .linuxGeneric, source => decide (source.unread ≠ 0)

/-- The peer's kick sets the status bits again, or sends one more byte. -/
def kick : Platform -> Source -> Source
  | .zynqmpR5 mask, source | .zynqmp mask, source =>
      { source with isr := source.isr ||| mask.bits }
  | .linuxGeneric, source => { source with unread := source.unread + 1 }

/-- The status bits are cleared by writing ones. -/
def acknowledge : Platform -> Source -> Source
  | .zynqmpR5 mask, source | .zynqmp mask, source =>
      { source with isr := source.isr &&& ~~~mask.bits }
  | .linuxGeneric, source => source

/-- `ipi_nokick` is set on initialization; `sync` is clear. -/
def initialFlag : Platform -> Bool
  | .zynqmpR5 _ | .zynqmp _ => true
  | .linuxGeneric => false

theorem pending_kick (platform : Platform) (source : Source) :
    platform.pending (platform.kick source) = true := by
  cases platform with
  | zynqmpR5 mask | zynqmp mask =>
      have kept : (source.isr ||| mask.bits) &&& mask.bits = mask.bits := by
        ext i inside
        simp only [BitVec.getElem_and, BitVec.getElem_or]
        cases source.isr[i] <;> cases mask.bits[i] <;> rfl
      simp only [pending, kick, kept, bne_iff_ne, ne_eq]
      exact mask.nonzero
  | linuxGeneric => exact decide_eq_true (Nat.succ_ne_zero source.unread)

/-- The bits of other channels do not hide the channel's own. -/
theorem pending_raise (platform : Platform) (source : Source) (bits : BitVec 32)
    (before : platform.pending source = true) :
    platform.pending { source with isr := source.isr ||| bits } = true := by
  cases platform with
  | zynqmpR5 mask | zynqmp mask =>
      simp only [pending, bne_iff_ne, ne_eq] at before ⊢
      intro cleared
      apply before
      ext i inside
      have bit := congrArg (fun word => word[i]) cleared
      simp only [BitVec.getElem_and, BitVec.getElem_or, BitVec.getElem_zero] at bit ⊢
      cases own : mask.bits[i] with
      | false => rw [Bool.and_false]
      | true =>
          rw [own, Bool.and_true, Bool.or_eq_false_iff] at bit
          rw [bit.1, Bool.false_and]
  | linuxGeneric => exact before

end Platform

/-- Before the statements of `platform_poll()`; `returned` between its calls. -/
inductive PollerPc
  | returned
  | disable
  | test
  | enable
  | notify
  | notifying
  | suspended
  | resumed
  deriving DecidableEq, Repr

/-- The interrupts are disabled. -/
def PollerPc.InSection : PollerPc -> Prop
  | .test | .enable | .suspended | .resumed => True
  | .returned | .disable | .notify | .notifying => False

instance : DecidablePred PollerPc.InSection := fun pc =>
  match pc with
  | .test | .enable | .suspended | .resumed => isTrue trivial
  | .returned | .disable | .notify | .notifying => isFalse id

/-- A poller, its handler and their interrupt source.  `unreported` records a
kick that no later `remoteproc_get_notification()` has followed. -/
structure Poll where
  source : Source
  /- `ipi_nokick`, `sync` -/
  nokick : Bool
  handler : List HandlerStatement
  poller : PollerPc
  unreported : Bool
  deriving DecidableEq, Repr

/-- `raise` sets status bits of other channels. -/
inductive PollEvent
  | kick
  | raise (bits : BitVec 32)
  | interrupt
  | handler
  | poller
  deriving DecidableEq, Repr

namespace Poll

/-- A kick may have come before the initialization. -/
def initial (platform : Platform) (source : Source) : Poll where
  source := source
  nokick := platform.initialFlag
  handler := []
  poller := .returned
  unreported := platform.pending source

/-- One statement of the handler; the socket is read in blocks of 32 bytes. -/
def handlerStep (platform : Platform) (poll : Poll) : Option Poll :=
  match poll.handler with
  | [] => none
  | .checkStatus :: rest =>
      some { poll with handler := if platform.pending poll.source then rest else [] }
  | .clearFlag :: rest => some { poll with nokick := false, handler := rest }
  | .writeIsr :: rest =>
      some { poll with source := platform.acknowledge poll.source, handler := rest }
  | .readSocket :: rest =>
      if poll.source.unread = 0 then none
      else
        some { poll with
          source := { poll.source with unread := poll.source.unread - 32 }
          handler := rest }
  | .resume :: rest => some { poll with handler := rest }

/-- One statement of `platform_poll()`; disabling the interrupts waits for the
handler. -/
def pollerStep (poll : Poll) : Option Poll :=
  match poll.poller with
  | .returned => some { poll with poller := .disable }
  | .disable => if poll.handler = [] then some { poll with poller := .test } else none
  | .test =>
      some { poll with
        nokick := true
        poller := if poll.nokick then .suspended else .enable }
  | .enable => some { poll with poller := .notify }
  | .notify => some { poll with poller := .notifying, unreported := false }
  | .notifying => some { poll with poller := .returned }
  | .suspended => some { poll with poller := .resumed }
  | .resumed => some { poll with poller := .disable }

def step (platform : Platform) (poll : Poll) : PollEvent -> Option Poll
  | .kick => some { poll with source := platform.kick poll.source, unreported := true }
  | .raise bits =>
      some { poll with source := { poll.source with isr := poll.source.isr ||| bits } }
  | .interrupt =>
      if poll.handler = [] ∧ ¬ poll.poller.InSection then
        some { poll with handler := platform.irqHandler }
      else none
  | .handler => poll.handlerStep platform
  | .poller => poll.pollerStep

/-- The poller has taken the flag and is about to ask for the notifications. -/
def Taken (poll : Poll) : Prop :=
  poll.poller = .enable ∨ poll.poller = .notify

/-- The handler is past the check of its source and will clear the flag. -/
def WillClear (handler : List HandlerStatement) : Prop :=
  HandlerStatement.clearFlag ∈ handler ∧ HandlerStatement.checkStatus ∉ handler

structure Ok (platform : Platform) (poll : Poll) : Prop where
  shape : poll.handler <:+ platform.irqHandler
  excluded : poll.poller.InSection -> poll.handler = []
  cleared : poll.handler ≠ [] -> HandlerStatement.clearFlag ∈ poll.handler ∨ poll.nokick = false
  parked : poll.poller = .suspended -> poll.nokick = true
  covered : poll.unreported = true ->
    platform.pending poll.source = true ∨ WillClear poll.handler ∨ poll.nokick = false ∨
      poll.Taken

variable {platform : Platform} {poll next : Poll}

theorem initial_ok (platform : Platform) (source : Source) : (initial platform source).Ok platform where
  shape := List.nil_suffix
  excluded := False.elim
  cleared := fun running => absurd rfl running
  parked := nofun
  covered := Or.inl

/-- A handler checks its source first if at all, and clears the flag after it
has. -/
theorem irqHandler_suffix (platform : Platform) {statement : HandlerStatement}
    {rest : List HandlerStatement} (suffix : statement :: rest <:+ platform.irqHandler) :
    HandlerStatement.checkStatus ∉ rest ∧
      (statement = .checkStatus -> HandlerStatement.clearFlag ∈ rest) := by
  cases platform with
  | zynqmpR5 mask =>
      simp only [Platform.irqHandler, List.suffix_cons_iff, List.suffix_nil, List.cons.injEq,
        reduceCtorEq, or_false] at suffix
      rcases suffix with ⟨rfl, rfl⟩ | ⟨rfl, rfl⟩ | ⟨rfl, rfl⟩ | ⟨rfl, rfl⟩ <;> decide
  | zynqmp mask =>
      simp only [Platform.irqHandler, List.suffix_cons_iff, List.suffix_nil, List.cons.injEq,
        reduceCtorEq, or_false] at suffix
      rcases suffix with ⟨rfl, rfl⟩ | ⟨rfl, rfl⟩ | ⟨rfl, rfl⟩ <;> decide
  | linuxGeneric =>
      simp only [Platform.irqHandler, List.suffix_cons_iff, List.suffix_nil, List.cons.injEq,
        reduceCtorEq, or_false] at suffix
      rcases suffix with ⟨rfl, rfl⟩ | ⟨rfl, rfl⟩ <;> decide

theorem Ok.kicks (ok : poll.Ok platform) :
    Ok platform { poll with source := platform.kick poll.source, unreported := true } :=
  ⟨ok.shape, ok.excluded, ok.cleared, ok.parked, fun _ => Or.inl (platform.pending_kick poll.source)⟩

theorem Ok.raises (ok : poll.Ok platform) (bits : BitVec 32) :
    Ok platform { poll with source := { poll.source with isr := poll.source.isr ||| bits } } :=
  ⟨ok.shape, ok.excluded, ok.cleared, ok.parked,
    fun kicked => (ok.covered kicked).imp_left (platform.pending_raise poll.source bits)⟩

/-- A starting handler acknowledges nothing yet. -/
theorem Ok.interrupts (ok : poll.Ok platform) (idle : poll.handler = [])
    (outside : ¬ poll.poller.InSection) :
    Ok platform { poll with handler := platform.irqHandler } where
  shape := List.suffix_refl _
  excluded := fun inside => absurd inside outside
  cleared := by
    intro _
    apply Or.inl
    change HandlerStatement.clearFlag ∈ platform.irqHandler
    cases platform <;>
      simp only [Platform.irqHandler, List.mem_cons, reduceCtorEq, true_or, or_true]
  parked := fun suspended => absurd (by rw [suspended]; trivial) outside
  covered := by
    intro kicked
    rcases ok.covered kicked with waiting | willClear | clear | taken
    · exact Or.inl waiting
    · rw [idle] at willClear
      exact absurd willClear.1 List.not_mem_nil
    · exact Or.inr (Or.inr (Or.inl clear))
    · exact Or.inr (Or.inr (Or.inr taken))

/-- Before a statement of the handler, the kicks that its status bit stood for
are covered by the flag. -/
theorem Ok.running (ok : poll.Ok platform) {statement : HandlerStatement}
    {rest : List HandlerStatement} (at_pc : poll.handler = statement :: rest) :
    HandlerStatement.checkStatus ∉ rest ∧
      (statement = .clearFlag ∨ HandlerStatement.clearFlag ∈ rest ∨ poll.nokick = false) ∧
      ¬ poll.poller.InSection := by
  have shape := ok.shape
  have cleared := ok.cleared
  rw [at_pc] at shape cleared
  refine ⟨(irqHandler_suffix platform shape).1, ?_, ?_⟩
  · rcases cleared (List.cons_ne_nil _ _) with member | clear
    · exact (List.mem_cons.mp member).imp Eq.symm Or.inl
    · exact Or.inr (Or.inr clear)
  · intro inside
    have idle := ok.excluded inside
    rw [at_pc] at idle
    cases idle

/-- After a statement other than the check, the flag covers every kick. -/
theorem Ok.proceeds (ok : poll.Ok platform) {statement : HandlerStatement}
    {rest : List HandlerStatement} (at_pc : poll.handler = statement :: rest)
    (different : statement ≠ .clearFlag) (source : Source) :
    Ok platform { poll with source := source, handler := rest } := by
  rcases ok.running at_pc with ⟨past, covers, outside⟩
  have shape := ok.shape
  rw [at_pc] at shape
  have later : HandlerStatement.clearFlag ∈ rest ∨ poll.nokick = false :=
    covers.resolve_left different
  refine ⟨(List.suffix_cons statement rest).trans shape, fun inside => absurd inside outside,
    fun _ => later, ok.parked, fun _ => ?_⟩
  rcases later with member | clear
  · exact Or.inr (Or.inl ⟨member, past⟩)
  · exact Or.inr (Or.inr (Or.inl clear))

theorem Ok.handles (ok : poll.Ok platform) (moved : poll.handlerStep platform = some next) :
    next.Ok platform := by
  cases at_pc : poll.handler with
  | nil => simp only [handlerStep, at_pc, reduceCtorEq] at moved
  | cons statement rest =>
      rcases ok.running at_pc with ⟨past, covers, outside⟩
      cases statement with
      | checkStatus =>
          simp only [handlerStep, at_pc, Option.some.injEq] at moved
          cases waiting : platform.pending poll.source with
          | true =>
              rw [waiting, if_pos rfl] at moved
              exact moved ▸ ok.proceeds at_pc HandlerStatement.noConfusion poll.source
          | false =>
              rw [waiting, if_neg Bool.false_ne_true] at moved
              subst moved
              refine ⟨List.nil_suffix, fun _ => rfl, fun running => absurd rfl running, ok.parked, ?_⟩
              intro kicked
              rcases ok.covered kicked with pending | willClear | clear | taken
              · cases waiting.symm.trans pending
              · rw [at_pc] at willClear
                exact absurd List.mem_cons_self willClear.2
              · exact Or.inr (Or.inr (Or.inl clear))
              · exact Or.inr (Or.inr (Or.inr taken))
      | clearFlag =>
          simp only [handlerStep, at_pc, Option.some.injEq] at moved
          subst moved
          have shape := ok.shape
          rw [at_pc] at shape
          refine ⟨(List.suffix_cons _ rest).trans shape, fun inside => absurd inside outside,
            fun _ => Or.inr rfl, ?_, fun _ => Or.inr (Or.inr (Or.inl rfl))⟩
          intro suspended
          exact absurd (by rw [show poll.poller = .suspended from suspended]; trivial) outside
      | writeIsr =>
          simp only [handlerStep, at_pc, Option.some.injEq] at moved
          exact moved ▸ ok.proceeds at_pc HandlerStatement.noConfusion _
      | readSocket =>
          simp only [handlerStep, at_pc, Option.ite_none_left_eq_some, Option.some.injEq] at moved
          exact moved.2 ▸ ok.proceeds at_pc HandlerStatement.noConfusion _
      | resume =>
          simp only [handlerStep, at_pc, Option.some.injEq] at moved
          exact moved ▸ ok.proceeds at_pc HandlerStatement.noConfusion poll.source

/-- The poller moves without touching the flag or asking for notifications. -/
theorem Ok.goto (ok : poll.Ok platform) {poller : PollerPc}
    (excluded : poller.InSection -> poll.handler = []) (awake : poller ≠ .suspended)
    (taken : poll.Taken -> poller = .enable ∨ poller = .notify) :
    Ok platform { poll with poller := poller } :=
  ⟨ok.shape, excluded, ok.cleared, fun suspended => absurd suspended awake,
    fun kicked => (ok.covered kicked).imp_right
      (fun later => later.imp_right (fun last => last.imp_right taken))⟩

theorem Ok.polls (ok : poll.Ok platform) (moved : poll.pollerStep = some next) :
    next.Ok platform := by
  have notTaken : forall {pc : PollerPc}, poll.poller = pc -> pc ≠ .enable -> pc ≠ .notify ->
      ¬ poll.Taken := by
    intro pc at_pc notEnable notNotify taken
    rcases taken with taken | taken
    · exact notEnable (at_pc.symm.trans taken)
    · exact notNotify (at_pc.symm.trans taken)
  cases at_pc : poll.poller with
  | returned | resumed | notifying =>
      simp only [pollerStep, at_pc, Option.some.injEq] at moved
      exact moved ▸ ok.goto (False.elim) PollerPc.noConfusion
        (fun taken => absurd taken (notTaken at_pc PollerPc.noConfusion PollerPc.noConfusion))
  | disable =>
      simp only [pollerStep, at_pc, Option.ite_none_right_eq_some, Option.some.injEq] at moved
      exact moved.2 ▸ ok.goto (fun _ => moved.1) PollerPc.noConfusion
        (fun taken => absurd taken (notTaken at_pc PollerPc.noConfusion PollerPc.noConfusion))
  | suspended =>
      simp only [pollerStep, at_pc, Option.some.injEq] at moved
      have idle := ok.excluded (by rw [at_pc]; trivial)
      exact moved ▸ ok.goto (fun _ => idle) PollerPc.noConfusion
        (fun taken => absurd taken (notTaken at_pc PollerPc.noConfusion PollerPc.noConfusion))
  | enable =>
      simp only [pollerStep, at_pc, Option.some.injEq] at moved
      exact moved ▸ ok.goto (False.elim) PollerPc.noConfusion
        (fun _ => Or.inr rfl)
  | notify =>
      simp only [pollerStep, at_pc, Option.some.injEq] at moved
      exact moved ▸ ⟨ok.shape, False.elim, ok.cleared, nofun, nofun⟩
  | test =>
      simp only [pollerStep, at_pc, Option.some.injEq] at moved
      have idle := ok.excluded (by rw [at_pc]; trivial)
      subst moved
      refine ⟨ok.shape, fun _ => idle, fun running => absurd idle running, fun _ => rfl, ?_⟩
      intro kicked
      rcases ok.covered kicked with waiting | willClear | clear | taken
      · exact Or.inl waiting
      · rw [idle] at willClear
        exact absurd willClear.1 List.not_mem_nil
      · simp only [Taken, clear, Bool.false_eq_true, if_false, true_or, or_true]
      · exact absurd taken (notTaken at_pc PollerPc.noConfusion PollerPc.noConfusion)

theorem Ok.step (ok : poll.Ok platform) {event : PollEvent}
    (moved : poll.step platform event = some next) : next.Ok platform := by
  cases event with
  | kick => exact Option.some.inj moved ▸ ok.kicks
  | raise bits => exact Option.some.inj moved ▸ ok.raises bits
  | interrupt =>
      simp only [Poll.step, Option.ite_none_right_eq_some, Option.some.injEq] at moved
      exact moved.2 ▸ ok.interrupts moved.1.1 moved.1.2
  | handler => exact ok.handles moved
  | poller => exact ok.polls moved

/-- Whatever the order of kicks, handler and polls: after a kick that no call
of `remoteproc_get_notification()` has followed, the source is pending, the
handler is in progress, the flag is clear, or the poller has taken it.  A
parked poller has its source pending. -/
theorem platformPoll_losesNone (platform : Platform) (source : Source)
    {schedule : List PollEvent} {poll : Poll}
    (reached : Transition.run (step platform) (initial platform source) schedule = some poll) :
    (poll.unreported = true -> platform.pending poll.source = true ∨ poll.handler ≠ [] ∨
      poll.nokick = false ∨ poll.Taken) ∧
    (poll.poller = .suspended -> poll.unreported = true ->
      platform.pending poll.source = true) := by
  have ok : poll.Ok platform :=
    Transition.run_invariant (fun _ _ _ before moved => Ok.step before moved)
      (initial_ok platform source) reached
  constructor
  · intro kicked
    rcases ok.covered kicked with waiting | willClear | clear | taken
    · exact Or.inl waiting
    · exact Or.inr (Or.inl (List.ne_nil_of_mem willClear.1))
    · exact Or.inr (Or.inr (Or.inl clear))
    · exact Or.inr (Or.inr (Or.inr taken))
  · intro suspended kicked
    have idle := ok.excluded (by rw [suspended]; trivial)
    rcases ok.covered kicked with waiting | willClear | clear | taken
    · exact waiting
    · rw [idle] at willClear
      exact absurd willClear.1 List.not_mem_nil
    · cases (ok.parked suspended).symm.trans clear
    · rcases taken with taken | taken <;> cases suspended.symm.trans taken

/-- Two kicks merge, the second between the clearing of the flag and the
acknowledgement, and the poller reports both. -/
theorem mergedKicks_losesNone :
    (Exists fun poll =>
      Transition.run (step (.zynqmpR5 ⟨0x01000000#32, by decide⟩))
        (initial (.zynqmpR5 ⟨0x01000000#32, by decide⟩) ⟨0#32, 0⟩)
        [.kick, .interrupt, .handler, .handler, .kick, .handler, .handler] = some poll ∧
      poll.unreported = true ∧
      (Platform.pending (.zynqmpR5 ⟨0x01000000#32, by decide⟩) poll.source = true ∨
        poll.handler ≠ [] ∨ poll.nokick = false ∨ poll.Taken)) := by
  have reached : Transition.run (step (.zynqmpR5 ⟨0x01000000#32, by decide⟩))
      (initial (.zynqmpR5 ⟨0x01000000#32, by decide⟩) ⟨0#32, 0⟩)
      [.kick, .interrupt, .handler, .handler, .kick, .handler, .handler] =
      some { source := ⟨0#32, 0⟩, nokick := false, handler := [], poller := .returned,
             unreported := true } := by
    decide
  exact ⟨_, reached, rfl, (platformPoll_losesNone _ _ reached).1 rfl⟩

end Poll
end LegacyApps
end OpenAmpReference
