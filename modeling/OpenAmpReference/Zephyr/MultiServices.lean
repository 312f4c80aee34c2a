import OpenAmpReference.Zephyr.ResponderInvariant
import OpenAmpReference.Zephyr.ClientSample

namespace OpenAmpReference
namespace Zephyr

/-!
# The three services of `rpmsg_multi_services`

The services share the transport but no state, so a run of the sample
interleaves a run of each.  The sample serves its endpoints throughout a run
exactly when every step of each service is orderly.
-/

/-- The sample once the remote processor is bound. -/
structure MultiServices where
  client : ClientSample
  tty : Responder
  raw : Responder

inductive ServiceEvent
  | client (event : ClientEvent)
  | tty (event : Event)
  | raw (event : Event)
  deriving DecidableEq, Repr

namespace MultiServices

/-- The stacks of the responders hold arbitrary bytes. -/
def initial (ttyTxBuff rawBuff : ByteMemory) : MultiServices where
  client := ClientSample.initial
  tty := Responder.initial ttyTxBuff
  raw := Responder.initial rawBuff

variable (accepts : Nat -> Bool) (addr : UInt32)

/-- `accepts` tells for which lengths `rpmsg_send()` succeeds. -/
def step (services : MultiServices) : ServiceEvent -> Option MultiServices
  | .client event =>
      (services.client.step accepts event).map (fun client => { services with client := client })
  | .tty event =>
      (services.tty.step accepts Service.tty event).map (fun tty => { services with tty := tty })
  | .raw event =>
      (services.raw.step accepts (Service.raw addr) event).map
        (fun raw => { services with raw := raw })

/-- Each service answers its messages once and in order, the buffers held are
the recorded ones, and no access faults. -/
structure Serves (services : MultiServices) : Prop where
  client : services.client.Serves
  tty : services.tty.Serves Service.tty
  raw : services.raw.Serves (Service.raw addr)

def Orderly (services : MultiServices) : ServiceEvent -> Prop
  | .client event => services.client.Orderly accepts event
  | .tty event => services.tty.Orderly accepts Service.tty event
  | .raw event => services.raw.Orderly accepts (Service.raw addr) event

structure Ok (services : MultiServices) : Prop where
  client : services.client.Ok
  tty : services.tty.Ok Service.tty
  raw : services.raw.Ok (Service.raw addr)

theorem initial_ok (ttyTxBuff rawBuff : ByteMemory) : (initial ttyTxBuff rawBuff).Ok addr where
  client := ClientSample.initial_ok
  tty := Responder.initial_ok Service.tty ttyTxBuff
  raw := Responder.initial_ok (Service.raw addr) rawBuff

variable {accepts addr} {services next : MultiServices}

theorem Ok.step (ok : services.Ok addr) {event : ServiceEvent}
    (orderly : services.Orderly accepts addr event)
    (moved : services.step accepts addr event = some next) : next.Ok addr := by
  cases event with
  | client event =>
      rcases Option.map_eq_some_iff.mp moved with ⟨client, performed, after⟩
      exact after ▸ ⟨ok.client.step accepts orderly performed, ok.tty, ok.raw⟩
  | tty event =>
      rcases Option.map_eq_some_iff.mp moved with ⟨tty, performed, after⟩
      exact after ▸ ⟨ok.client, ok.tty.step accepts orderly performed, ok.raw⟩
  | raw event =>
      rcases Option.map_eq_some_iff.mp moved with ⟨raw, performed, after⟩
      exact after ▸ ⟨ok.client, ok.tty, ok.raw.step accepts orderly performed⟩

theorem Ok.orderly (ok : services.Ok addr) {event : ServiceEvent}
    (moved : services.step accepts addr event = some next) (serves : next.Serves addr) :
    services.Orderly accepts addr event := by
  cases event with
  | client event =>
      rcases Option.map_eq_some_iff.mp moved with ⟨client, performed, after⟩
      subst after
      exact ok.client.orderly accepts performed serves.client
  | tty event =>
      rcases Option.map_eq_some_iff.mp moved with ⟨tty, performed, after⟩
      subst after
      exact ok.tty.orderly accepts performed serves.tty
  | raw event =>
      rcases Option.map_eq_some_iff.mp moved with ⟨raw, performed, after⟩
      subst after
      exact ok.raw.orderly accepts performed serves.raw

/-- The sample serves its endpoints throughout a run exactly when every message arrives for an
empty slot that the responder is not about to clear, and every reply fits. The steps of the three
services interleave in any way, and nothing is assumed of the messages, of the address or of what
the transmit buffers held. -/
theorem serves_iff_orderly (accepts : Nat -> Bool) (addr : UInt32)
    (ttyTxBuff rawBuff : ByteMemory) (schedule : List ServiceEvent) :
    Transition.Always (Serves addr) (step accepts addr) (initial ttyTxBuff rawBuff) schedule ↔
      Transition.Guarded (Orderly accepts addr) (step accepts addr) (initial ttyTxBuff rawBuff)
        schedule :=
  Transition.always_iff_guarded (Ok addr)
    (fun _ ok => ⟨ok.client.serves, ok.tty.serves, ok.raw.serves⟩)
    (fun _ _ _ ok orderly moved => ok.step orderly moved)
    (fun _ _ _ ok moved serves => ok.orderly moved serves) schedule
    (initial_ok addr ttyTxBuff rawBuff)

/-- Two tty messages in one virtqueue notification. -/
def twoTtyMessages : List ServiceEvent :=
  List.replicate 4 (.tty .run) ++
    [.tty (.receive 0 { data := { address := 0, bytes := [104, 105] }, src := 1024 }),
      .tty (.receive 0 { data := { address := 512, bytes := [104, 111] }, src := 1024 })]

/-- The second message takes the slot of the first, whose buffer stays held
though no slot records it any more. -/
theorem twoTtyMessages_not_served :
    ¬ Transition.Always (Serves 1024) (step (fun length => decide (length ≤ 496)) 1024)
      (initial (fun _ => 0) (fun _ => 0)) twoTtyMessages := by
  have leaks : (Transition.run (step (fun length => decide (length ≤ 496)) 1024)
      (initial (fun _ => 0) (fun _ => 0)) twoTtyMessages).map
        (fun services => ((services.tty.ept 0).held,
          (services.tty.ept 0).recorded (services.tty.pc.stage 0))) =
      some ([{ address := 0, bytes := [104, 105] }, { address := 512, bytes := [104, 111] }],
        [{ address := 512, bytes := [104, 111] }]) := by
    decide +kernel
  rcases Option.map_eq_some_iff.mp leaks with ⟨services, reached, ends⟩
  intro always
  have recorded := (always.last reached).tty.heldRecorded 0
  rw [Prod.mk.injEq] at ends
  rw [ends.1, ends.2] at recorded
  cases recorded

end MultiServices
end Zephyr
end OpenAmpReference
