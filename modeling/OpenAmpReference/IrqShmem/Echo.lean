import OpenAmpReference.IrqShmem.HostInvariant
import OpenAmpReference.IrqShmem.RemoteInvariant

namespace OpenAmpReference
namespace IrqShmem

/-!
# The echo over every interleaving

The invariant holds when the host starts, both programs keep it, and the
interrupt handlers touch nothing it mentions.  It therefore holds after every
schedule, and everything the two sides rely on can be read off it.
-/

namespace Invariant

variable {layout : Layout} {traffic : Traffic layout.pkgsTotal}

theorem bufferCleanUp_readWord {layout : Layout} (memory : ByteMemory) (offset : Nat)
    (inside : offset + 4 ≤ layout.shm0DescSize + layout.shm1DescSize + layout.shmPayloadSize) :
    (System.bufferCleanUp layout memory).readWord (layout.remoteShmIo.base + offset) = 0 := by
  have cleared : forall place, layout.remoteShmIo.base ≤ place ->
      place < layout.remoteShmIo.base +
        (layout.shm0DescSize + layout.shm1DescSize + layout.shmPayloadSize) ->
      System.bufferCleanUp layout memory place = 0 := by
    intro place after before
    exact if_pos ⟨after, before⟩
  unfold ByteMemory.readWord
  rw [cleared _ (by omega) (by omega), cleared _ (by omega) (by omega),
    cleared _ (by omega) (by omega), cleared _ (by omega) (by omega)]
  rfl

theorem initially (fits : layout.Fits) (memory : ByteMemory) :
    Invariant layout traffic (System.initial layout memory) := by
  have areas := fits.areas
  constructor
  · rfl
  · exact ⟨⟨rfl, rfl, rfl, Nat.le_refl _, Nat.le_refl _⟩, rfl, Nat.zero_le _⟩
  · constructor
    · apply Spsc.View.initial
      · exact bufferCleanUp_readWord memory 0 (by omega)
      · exact bufferCleanUp_readWord memory _ (by omega)
    · apply Spsc.View.initial
      · exact bufferCleanUp_readWord memory _ (by omega)
      · show (System.bufferCleanUp layout memory).readWord
          (layout.remoteShmIo.base + layout.shm0DescSize + 4) = 0
        rw [Nat.add_assoc]
        exact bufferCleanUp_readWord memory _ (by omega)
  · rfl
  · rfl
  · rfl

/-- Every step of the system keeps the invariant. -/
theorem step_keeps (fits : layout.Fits) {port : Port} {system after : System} {actor : Actor}
    (invariant : Invariant layout traffic system)
    (moved : system.step layout traffic.timestamps port actor = some after) :
    Invariant layout traffic after := by
  cases actor with
  | host => exact invariant.hostStep_keeps fits moved
  | remote => exact invariant.remoteStep_keeps fits moved
  | remoteIsr | hostIsr =>
      have same := Option.some.inj moved
      subst same
      exact { invariant with }

theorem run_keeps (fits : layout.Fits) {port : Port} {memory : ByteMemory}
    {schedule : List Actor} {system : System}
    (reached : Transition.run (System.step layout traffic.timestamps port)
      (System.initial layout memory) schedule = some system) :
    Invariant layout traffic system :=
  Transition.run_invariant (fun _ _ _ invariant moved => invariant.step_keeps fits moved)
    (initially fits memory) reached

/-- The counters in memory are where the programs are. -/
theorem counters (fits : layout.Fits) {system : System}
    (invariant : Invariant layout traffic system) :
    system.h2rAvail layout = system.host.published layout.toConfig ∧
      system.h2rUsed layout = system.remote.rxCount ∧
      system.r2hAvail layout = system.remote.published layout.toConfig ∧
      system.r2hUsed layout = system.host.used := by
  unfold System.h2rAvail System.h2rUsed System.r2hAvail System.r2hUsed
  rw [fits.sameDescriptor0, fits.sameDescriptor1]
  refine ⟨?_, ?_, ?_, ?_⟩
  · exact invariant.streams.hToR.avail.trans (Host.progress_avail _ _ _)
  · exact invariant.streams.hToR.used.trans (Host.progress_used _ _ _)
  · exact invariant.streams.rToH.avail.trans (Remote.progress_avail _ _ _)
  · exact invariant.streams.rToH.used.trans (Remote.progress_used _ _ _)

theorem accepted_le (host : Host) : host.accepted ≤ host.used := by
  unfold Host.accepted Host.used
  cases host.pc with
  | readTx | compare => exact Nat.le_succ _
  | clearPayload | clearHostToRemote | clearRemoteToHost | send | testAndSet | yield | readAvail
  | readAddr | readHdr | readBody | writeUsed | shutdown | done | failed => exact Nat.le_refl _

end Invariant

/-- What holds of the system at every point of a run. -/
structure EchoCorrect (layout : Layout) (traffic : Traffic layout.pkgsTotal) (system : System) :
    Prop where
  /- No counter overtakes the one that feeds it. -/
  counters : system.r2hUsed layout ≤ system.r2hAvail layout ∧
    system.r2hAvail layout ≤ system.h2rUsed layout ∧
    system.h2rUsed layout ≤ system.h2rAvail layout ∧
    system.h2rAvail layout ≤ layout.pkgsTotal + 1
  /- The `k`-th message the host wrote carries the `k`-th timestamp, or the shutdown marker. -/
  written : system.sent = (List.range (system.h2rAvail layout)).map traffic.messageAt
  /- The remote has consumed the first of them, and the host verified the first of those. -/
  consumed : system.consumed = system.sent.take (system.h2rUsed layout)
  verified : system.verified = system.sent.take system.verified.length
  verifiedUsed : system.verified.length ≤ system.r2hUsed layout
  /- Neither side takes an error branch, and neither ends early. -/
  hostRuns : system.host.pc ≠ .failed
  remoteRuns : system.remote.pc ≠ .failed
  hostEnds : system.host.pc = .done -> system.verified.length = layout.pkgsTotal
  remoteEnds : system.remote.pc = .done -> system.consumed.length = layout.pkgsTotal + 1

theorem Traffic.firstMessages_take {pkgsTotal : Nat} (traffic : Traffic pkgsTotal)
    {fewer more : Nat} (ordered : fewer ≤ more) :
    (traffic.firstMessages more).take fewer = traffic.firstMessages fewer := by
  have initial := List.prefix_iff_eq_take.mp (traffic.firstMessages_prefix ordered)
  rw [traffic.firstMessages_length] at initial
  exact initial.symm

theorem Invariant.echoCorrect {layout : Layout} {traffic : Traffic layout.pkgsTotal}
    (fits : layout.Fits) {system : System} (invariant : Invariant layout traffic system) :
    EchoCorrect layout traffic system := by
  have ordered := invariant.ordered
  have accepted := accepted_le system.host
  rcases invariant.counters fits with ⟨h2rAvail, h2rUsed, r2hAvail, r2hUsed⟩
  have verifiedLength : system.verified.length = system.host.accepted := by
    rw [invariant.verified, traffic.firstMessages_length]
  constructor
  · rw [h2rAvail, h2rUsed, r2hAvail, r2hUsed]
    exact ordered
  · rw [h2rAvail]
    exact invariant.sent
  · rw [h2rUsed, invariant.sent, traffic.firstMessages_take ordered.2.2.1]
    exact invariant.consumed
  · rw [verifiedLength, invariant.sent, traffic.firstMessages_take (by omega)]
    exact invariant.verified
  · rw [verifiedLength, r2hUsed]
    exact accepted
  · intro at_pc
    have ok := invariant.host
    simp only [Host.Ok, at_pc] at ok
  · intro at_pc
    have ok := invariant.remote
    simp only [Remote.Ok, at_pc] at ok
  · intro at_pc
    have ok := invariant.host
    simp only [Host.Ok, at_pc] at ok
    rw [verifiedLength]
    simp only [Host.accepted, at_pc]
    exact ok.1
  · intro at_pc
    have ok := invariant.remote
    simp only [Remote.Ok, at_pc] at ok
    rw [invariant.consumed, traffic.firstMessages_length]
    exact ok.1

/-- For every layout that fits, every sequence of timestamps and every interleaving of accesses,
kicks and interrupts, the echo is correct at every point, that is between any two single
accesses, on either port. What the memory holds at the start does not matter, as the host clears
it. The layout has to fit because neither program checks where the areas lie or how many messages
they have room for. -/
theorem echo_correct (layout : Layout) (fits : layout.Fits) (traffic : Traffic layout.pkgsTotal)
    (port : Port) (memory : ByteMemory) (schedule : List Actor) (system : System)
    (reached : Transition.run (System.step layout traffic.timestamps port)
      (System.initial layout memory) schedule = some system) :
    EchoCorrect layout traffic system :=
  (Invariant.run_keeps fits reached).echoCorrect fits

/-- A timestamp of zero is no shutdown marker. -/
def smallTraffic : Traffic 1 where
  timestamps := fun _ => 0
  packets := by decide
  plain := fun _ _ => by decide

/-- The host clears and sends, the remote echoes, the host verifies and shuts
down, the remote stops. -/
def smallSchedule : List Actor :=
  List.replicate 119 Actor.host ++ List.replicate 4 Actor.remoteIsr ++
    List.replicate 42 Actor.remote ++ List.replicate 4 Actor.hostIsr ++
    List.replicate 60 Actor.host ++ List.replicate 4 Actor.remoteIsr ++
    List.replicate 22 Actor.remote

/-- A complete run of both programs. -/
theorem smallLayout_echo_correct : Exists fun system =>
    Transition.run (System.step smallLayout smallTraffic.timestamps .generic)
      (System.initial smallLayout (fun _ => 0)) smallSchedule = some system ∧
    system.host.pc = .done ∧ system.remote.pc = .done ∧
    EchoCorrect smallLayout smallTraffic system := by
  have complete : (Transition.run (System.step smallLayout smallTraffic.timestamps .generic)
      (System.initial smallLayout (fun _ => 0)) smallSchedule).map
        (fun system => (system.host.pc, system.remote.pc)) = some (.done, .done) := by
    decide +kernel
  rcases Option.map_eq_some_iff.mp complete with ⟨system, reached, ends⟩
  exact ⟨system, reached, congrArg Prod.fst ends, congrArg Prod.snd ends,
    echo_correct smallLayout smallLayout_fits smallTraffic .generic (fun _ => 0) smallSchedule
      system reached⟩

end IrqShmem
end OpenAmpReference
