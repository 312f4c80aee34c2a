import Mathlib.Data.BitVec
import OpenAmpReference.Library.CString
import OpenAmpReference.Library.Fairness

namespace OpenAmpReference
namespace SampleEcho

/-!
# The sample echo

The sample client sends `MSG_LIMIT` greetings, each when the echo of the last
one has been counted, and waits until the service is destroyed.  The sample
server echoes `MSG_LIMIT` messages and destroys the service.  A program whose
endpoint cannot be created returns at once.

A step is a call of one of the two programs or a callback within its
`platform_poll()`, which goes on until the queue is empty; the channel is a
queue in each direction, in which the announcements of the name service travel
with the messages.  A label says whether the call may send: creating and
destroying an endpoint sends an announcement too, also when the client destroys
its own in the callback that tells it of the server's end.  That the client has
created its endpoint tells the server an address only, which every message tells
again, and is not put into the queue.
-/

open CString

def msgLimit : Nat := 100

/-- `HELLO_MSG` -/
def helloMsg : List Char := ['h', 'e', 'l', 'l', 'o', ' ', 'w', 'o', 'r', 'l', 'd', '!']

/-- `BYE_MSG` -/
def byeMsg : List Char := ['g', 'o', 'o', 'd', 'b', 'y', 'e', '!']

def rpmsgBufferSize : Nat := 512

/-- What the client finds in its queue. -/
inductive Arrival
  | announced
  | echo (data : List Char)
  | destroyed
  deriving DecidableEq, Repr

/-- What the server finds in its queue. -/
inductive Incoming
  | message (data : List Char)
  | destroyed
  deriving DecidableEq, Repr

/-- Where the client is in `app()`; `failed` is the return after an endpoint that could not
be created. -/
inductive ClientPc
  | createEpt
  | waitReady
  | send
  | polling
  | reporting
  | returned
  | failed
  deriving DecidableEq, Repr

inductive ServerPc
  | createEpt
  | polling
  | destroyEpt
  | returned
  | failed
  deriving DecidableEq, Repr

/-- `accepted` records the echoes the client has counted. -/
structure World where
  client : ClientPc
  lept : Bool
  ready : Bool
  eptDeleted : Bool
  i : Nat
  rnum : Nat
  errCnt : Nat
  accepted : List (List Char)
  toServer : List Incoming
  toClient : List Arrival
  server : ServerPc
  count : Nat
  shutdownReq : Bool
  deriving DecidableEq, Repr

/-- Who moves, and whether what it sends goes out. -/
inductive Label
  | client (sends : Bool)
  | server (sends : Bool)
  deriving DecidableEq, Repr

inductive Party
  | client
  | server
  deriving DecidableEq, Repr

def Label.party : Label -> Party
  | .client _ => .client
  | .server _ => .server

namespace World

def initial : World where
  client := .createEpt
  lept := false
  ready := false
  eptDeleted := false
  i := 0
  rnum := 0
  errCnt := 0
  accepted := []
  toServer := []
  toClient := []
  server := .createEpt
  count := 0
  shutdownReq := false

/-! ## The client -/

/-- The text the client sends as message number `i`, counted from one. -/
def request (i : Nat) : List Char := if i < msgLimit then helloMsg else byeMsg

/-- `seed` in `rpmsg_endpoint_cb()` of the client -/
def seed (rnum : Nat) : List Char := if rnum = msgLimit - 1 then byeMsg else helloMsg

/-- `payload` after `memset()` and `memcpy()` -/
def payload (data : List Char) : List Char :=
  data ++ List.replicate (rpmsgBufferSize - data.length) nul

/-- `rpmsg_endpoint_cb()` of the client -/
def clientEndpointCb (world : World) (data : List Char) : World :=
  if strncmp (payload data) (seed world.rnum ++ [nul]) data.length then
    { world with rnum := world.rnum + 1, accepted := world.accepted ++ [data] }
  else { world with errCnt := world.errCnt + 1 }

/-- `rpmsg_service_unbind()` of the client -/
def clientServiceUnbind (world : World) (sends : Bool) : World :=
  { world with
    lept := false
    eptDeleted := true
    toServer := if sends then world.toServer ++ [.destroyed] else world.toServer }

/-- An arrival is handed to the name service or to the endpoint, if there is one. -/
def deliver (world : World) (sends : Bool) : Arrival -> World
  | .announced => { world with ready := world.ready || world.lept }
  | .echo data => if world.lept then world.clientEndpointCb data else world
  | .destroyed => if world.lept then world.clientServiceUnbind sends else world

/-- The `for` loop of the client from its condition on -/
def nextMessage (world : World) (i : Nat) : World :=
  if i ≤ msgLimit then { world with i := i, client := .send }
  else { world with i := i, client := .reporting }

/-- What follows when `platform_poll()` has returned. -/
def polled (world : World) : World :=
  match world.client with
  | .waitReady => if world.ready then world.nextMessage 1 else world
  | .polling =>
      if world.rnum < world.i ∧ world.errCnt = 0 then world else world.nextMessage (world.i + 1)
  | .reporting => if world.eptDeleted then { world with client := .returned } else world
  | _ => world

def clientStep (sends : Bool) (world : World) : Option World :=
  match world.client with
  | .createEpt =>
      some (if sends then { world with client := .waitReady, lept := true }
        else { world with client := .failed })
  | .send =>
      some (if sends && world.lept then
          { world with
            toServer := world.toServer ++ [.message (request world.i)], client := .polling }
        else { world with client := .reporting })
  | .waitReady | .polling | .reporting =>
      match world.toClient with
      | arrival :: rest => some ({ world with toClient := rest }.deliver sends arrival)
      | [] => some world.polled
  | .returned | .failed => none

/-! ## The server -/

/-- `rpmsg_endpoint_cb()` of the server; `count` is an `uint32_t`. -/
def serverEndpointCb (sends : Bool) (world : World) (data : List Char) : World :=
  if (world.count + 1) % 2 ^ 32 ≤ msgLimit then
    if sends then
      { world with
        count := (world.count + 1) % 2 ^ 32
        toClient := world.toClient ++ [.echo data]
        shutdownReq := world.shutdownReq || (world.count + 1) % 2 ^ 32 == msgLimit }
    else { world with count := (world.count + 1) % 2 ^ 32, shutdownReq := true }
  else { world with count := (world.count + 1) % 2 ^ 32 }

/-- `rpmsg_service_unbind()` of the server -/
def serverServiceUnbind (world : World) : World :=
  { world with shutdownReq := true }

def serverStep (sends : Bool) (world : World) : Option World :=
  match world.server with
  | .createEpt =>
      some (if sends then
          { world with server := .polling, toClient := world.toClient ++ [.announced] }
        else { world with server := .failed })
  | .polling =>
      match world.toServer with
      | .message data :: rest => some ({ world with toServer := rest }.serverEndpointCb sends data)
      | .destroyed :: rest => some { world with toServer := rest }.serverServiceUnbind
      | [] => some (if world.shutdownReq then { world with server := .destroyEpt } else world)
  | .destroyEpt =>
      some { world with
        server := .returned
        toClient := if sends then world.toClient ++ [.destroyed] else world.toClient }
  | .returned | .failed => none

end World

def step (world : World) : Label -> Option World
  | .client sends => world.clientStep sends
  | .server sends => world.serverStep sends

/-! ## The states of an undisturbed exchange -/

namespace World

/-- The first requests, in the order in which they are sent. -/
def requests (count : Nat) : List (List Char) :=
  (List.range count).map (fun k => request (k + 1))

theorem requests_succ (count : Nat) :
    requests (count + 1) = requests count ++ [request (count + 1)] := by
  rw [requests, List.range_succ, List.map_append]
  rfl

/-- The client counts the echo of the message it is waiting for. -/
theorem accepts_request {k : Nat} (bounded : k < msgLimit) :
    strncmp (payload (request (k + 1))) (seed k ++ [nul]) (request (k + 1)).length = true := by
  have same : seed k = request (k + 1) := by
    unfold seed request
    unfold msgLimit at bounded ⊢
    by_cases last : k = 100 - 1
    · rw [if_pos last, if_neg (by omega)]
    · rw [if_neg last, if_pos (by omega)]
  have proper : nul ∉ request (k + 1) := by
    unfold request
    split <;> decide
  rw [same, strncmp_length proper]
  exact decide_eq_true (List.prefix_append _ _)

/-- What the server has still to do after an echo.  `untold` is the end of a server whose
last announcement does not go out. -/
inductive Tail
  | serving
  | asked
  | destroying
  | told
  | untold
  deriving DecidableEq, Repr

def Tail.pc : Tail -> ServerPc
  | .serving | .asked => .polling
  | .destroying => .destroyEpt
  | .told | .untold => .returned

def Tail.queue : Tail -> List Arrival
  | .told => [.destroyed]
  | _ => []

/-- The server goes on for as long as the limit is not reached. -/
def Tail.Fits (k : Nat) : Tail -> Prop
  | .serving => k + 1 < msgLimit
  | _ => k + 1 = msgLimit

/-- Message number `k + 1` is about to be sent. -/
def exchange (k : Nat) : World where
  client := .send
  lept := true
  ready := true
  eptDeleted := false
  i := k + 1
  rnum := k
  errCnt := 0
  accepted := requests k
  toServer := []
  toClient := []
  server := .polling
  count := k
  shutdownReq := false

/-- The server has answered message number `k + 1`, and what is left in the client's queue. -/
def answered (k : Nat) (tail : Tail) (queue : List Arrival) : World :=
  { exchange k with
    client := .polling
    toClient := queue ++ tail.queue
    server := tail.pc
    count := k + 1
    shutdownReq := tail ≠ .serving }

/-- The client has counted the echo of message number `k + 1`. -/
def counted (k : Nat) (tail : Tail) : World :=
  { answered k tail [] with rnum := k + 1, accepted := requests (k + 1) }

/-- What the client leaves in the server's queue when it destroys its endpoint -/
def farewell (sent : Bool) : List Incoming :=
  if sent then [.destroyed] else []

/-- All echoes are counted, and the endpoint of the client is gone. -/
def unbound (sent : Bool) : World :=
  { exchange 99 with
    toServer := farewell sent
    client := .polling
    lept := false
    eptDeleted := true
    rnum := 100
    accepted := requests 100
    server := .returned
    count := 100
    shutdownReq := true }

inductive Flow : World -> Prop
  | unannounced : Flow initial
  | created : Flow { initial with client := .waitReady, lept := true }
  | announced : Flow { initial with server := .polling, toClient := [.announced] }
  | waiting :
      Flow { initial with
        client := .waitReady, lept := true, server := .polling, toClient := [.announced] }
  | ready :
      Flow { initial with client := .waitReady, lept := true, ready := true, server := .polling }
  | sending (k : Nat) (bounded : k < msgLimit) : Flow (exchange k)
  | requested (k : Nat) (bounded : k < msgLimit) :
      Flow { exchange k with client := .polling, toServer := [.message (request (k + 1))] }
  | answered (k : Nat) (tail : Tail) (fits : tail.Fits k) (told : tail ≠ .untold) :
      Flow (answered k tail [.echo (request (k + 1))])
  | counted (k : Nat) (tail : Tail) (fits : tail.Fits k) (told : tail ≠ .untold) :
      Flow (counted k tail)
  | unbound (sent : Bool) : Flow (unbound sent)
  | reporting (tail : Tail) (fits : tail.Fits 99) (told : tail ≠ .untold) :
      Flow { World.counted 99 tail with client := .reporting, i := 101 }
  | reportingUnbound (sent : Bool) : Flow { World.unbound sent with client := .reporting, i := 101 }
  | returned (sent : Bool) : Flow { World.unbound sent with client := .returned, i := 101 }

/-- The states after something has not gone out. -/
inductive Stuck : World -> Prop
  | clientFailed (toClient : List Arrival) (server : ServerPc)
      (starting : server = .createEpt ∨ server = .polling ∨ server = .failed)
      (announcing : forall arrival, arrival ∈ toClient -> arrival = .announced) :
      Stuck { initial with client := .failed, server := server, toClient := toClient }
  | serverFailed (client : ClientPc) (lept : Bool)
      (starting : client = .createEpt ∧ lept = false ∨ client = .waitReady ∧ lept = true) :
      Stuck { initial with client := client, lept := lept, server := .failed }
  | sendFailed (k : Nat) (bounded : k < msgLimit) : Stuck { exchange k with client := .reporting }
  | echoFailed (k : Nat) (tail : Tail) (bounded : k < msgLimit) (asked : tail ≠ .serving) :
      Stuck (answered k tail [])
  | abandoned (k : Nat) (bounded : k < msgLimit) (sent : Bool) :
      Stuck { World.answered k .untold [] with
        lept := false, eptDeleted := true, toServer := farewell sent }
  | untold : Stuck (answered 99 .untold [.echo (request 100)])
  | countedUntold : Stuck (counted 99 .untold)
  | reportingUntold : Stuck { World.counted 99 .untold with client := .reporting, i := 101 }

/-- The server is about to echo a message. -/
def nextEchoes (world : World) : Bool :=
  match world.toServer with
  | .message _ :: _ => decide ((world.count + 1) % 2 ^ 32 ≤ msgLimit)
  | _ => false

/-- What the mover sends in this step does not go out.  That the client has destroyed its
endpoint, which it says after the server has done so, is not meant: nobody waits for it. -/
def SendFails (world : World) : Label -> Prop
  | .client sends => sends = false ∧ (world.client = .createEpt ∨ world.client = .send)
  | .server sends =>
      sends = false ∧ (world.server = .createEpt ∨ world.server = .destroyEpt ∨
        world.server = .polling ∧ world.nextEchoes = true)

/-- The mover's endpoint cannot be created, and its `app()` returns. -/
def CreateFails (world : World) : Label -> Prop
  | .client sends => sends = false ∧ world.client = .createEpt
  | .server sends => sends = false ∧ world.server = .createEpt

instance (world : World) (label : Label) : Decidable (world.SendFails label) :=
  match label with
  | .client _ => inferInstanceAs (Decidable (_ ∧ _))
  | .server _ => inferInstanceAs (Decidable (_ ∧ _))

variable {world next : World}

theorem Tail.Fits.lt {k : Nat} {tail : Tail} (fits : tail.Fits k) : k < msgLimit := by
  cases tail with
  | serving => exact Nat.lt_of_succ_lt fits
  | asked | destroying | told | untold => exact Nat.lt_of_succ_le (Nat.le_of_eq fits)

/-- Only the last message leaves the server something to do besides serving. -/
theorem Tail.Fits.last {k : Nat} {tail : Tail} (fits : tail.Fits k) (ends : tail ≠ .serving) :
    k = 99 := by
  cases tail with
  | serving => exact absurd rfl ends
  | asked | destroying | told | untold => exact Nat.succ.inj fits

/-! ### Steps of the client -/

/-- The echo that the client is waiting for is counted. -/
theorem answered_counted {k : Nat} (bounded : k < msgLimit) (tail : Tail) (sends : Bool) :
    { answered k tail [] with toClient := tail.queue }.deliver sends (.echo (request (k + 1))) =
      World.counted k tail := by
  show World.clientEndpointCb _ (request (k + 1)) = _
  unfold clientEndpointCb
  have accepted := accepts_request bounded
  simp only [answered, exchange, accepted, if_true, counted, requests_succ, List.nil_append]

/-- A counted echo is followed by the next message, or by the end of the loop. -/
theorem counted_polled {k : Nat} (tail : Tail) :
    (counted k tail).polled = (counted k tail).nextMessage (k + 2) := by
  have counts : ¬ (k + 1 < k + 1 ∧ (0 : Nat) = 0) := fun waits => Nat.lt_irrefl _ waits.1
  exact if_neg counts

theorem Flow.clientStep (flow : world.Flow) {sends : Bool}
    (kept : ¬ world.SendFails (.client sends))
    (moved : world.clientStep sends = some next) : next.Flow := by
  cases flow with
  | unannounced =>
      cases sends with
      | false => exact absurd ⟨rfl, Or.inl rfl⟩ kept
      | true => exact Option.some.inj moved ▸ .created
  | announced =>
      cases sends with
      | false => exact absurd ⟨rfl, Or.inl rfl⟩ kept
      | true => exact Option.some.inj moved ▸ .waiting
  | created => exact Option.some.inj moved ▸ .created
  | waiting => exact Option.some.inj moved ▸ .ready
  | ready => exact Option.some.inj moved ▸ .sending 0 (by decide)
  | sending k bounded =>
      cases sends with
      | false => exact absurd ⟨rfl, Or.inr rfl⟩ kept
      | true => exact Option.some.inj moved ▸ .requested k bounded
  | requested k bounded =>
      have waits : ({ exchange k with
            client := .polling, toServer := [.message (request (k + 1))] } : World).polled =
          { exchange k with client := .polling, toServer := [.message (request (k + 1))] } :=
        if_pos ⟨Nat.lt_succ_self k, rfl⟩
      have same := (Option.some.inj moved).symm.trans waits
      exact same ▸ .requested k bounded
  | answered k tail fits told =>
      have same := (Option.some.inj moved).symm.trans (answered_counted fits.lt tail sends)
      exact same ▸ .counted k tail fits told
  | counted k tail fits told =>
      cases tail with
      | serving =>
          have more : (World.counted k .serving).nextMessage (k + 2) = exchange (k + 1) :=
            if_pos (Nat.succ_le_of_lt fits)
          have same := (Option.some.inj moved).symm.trans ((counted_polled .serving).trans more)
          exact same ▸ .sending (k + 1) fits
      | asked | destroying =>
          have last := fits.last (by decide)
          subst last
          exact Option.some.inj moved ▸ .reporting _ rfl (by decide)
      | told =>
          have last := fits.last (by decide)
          subst last
          exact Option.some.inj moved ▸ .unbound sends
      | untold => exact absurd rfl told
  | unbound sent => exact Option.some.inj moved ▸ .reportingUnbound sent
  | reporting tail fits told =>
      cases tail with
      | serving => exact absurd fits (Nat.lt_irrefl msgLimit)
      | asked => exact Option.some.inj moved ▸ .reporting .asked rfl (by decide)
      | destroying => exact Option.some.inj moved ▸ .reporting .destroying rfl (by decide)
      | told => exact Option.some.inj moved ▸ .reportingUnbound sends
      | untold => exact absurd rfl told
  | reportingUnbound sent => exact Option.some.inj moved ▸ .returned sent
  | returned => cases moved

/-! ### Steps of the server -/

/-- The echo of message number `k + 1`, and whether it was the last one. -/
theorem requested_answered {k : Nat} (bounded : k < msgLimit) :
    Exists fun tail : Tail => tail.Fits k ∧ tail ≠ .untold ∧
      { exchange k with client := .polling }.serverEndpointCb true (request (k + 1)) =
        answered k tail [.echo (request (k + 1))] := by
  have small : (k + 1) % 2 ^ 32 = k + 1 :=
    Nat.mod_eq_of_lt (Nat.lt_of_le_of_lt (Nat.succ_le_of_lt bounded) (by decide))
  have within : k + 1 ≤ msgLimit := bounded
  by_cases last : k + 1 = msgLimit
  · have ninetyNine : k = 99 := Nat.succ.inj last
    subst ninetyNine
    exact ⟨.asked, rfl, by decide, rfl⟩
  · refine ⟨.serving, Nat.lt_of_le_of_ne within last, by decide, ?_⟩
    simp only [serverEndpointCb, exchange, answered, small, within, if_true, List.nil_append,
      Tail.queue, Tail.pc, List.append_nil, beq_eq_false_iff_ne.mpr last, Bool.or_false, ne_eq,
      not_true_eq_false, decide_false]

theorem Flow.serverStep (flow : world.Flow) {sends : Bool}
    (kept : ¬ world.SendFails (.server sends))
    (moved : world.serverStep sends = some next) : next.Flow := by
  cases flow with
  | unannounced =>
      cases sends with
      | false => exact absurd ⟨rfl, Or.inl rfl⟩ kept
      | true => exact Option.some.inj moved ▸ .announced
  | created =>
      cases sends with
      | false => exact absurd ⟨rfl, Or.inl rfl⟩ kept
      | true => exact Option.some.inj moved ▸ .waiting
  | announced => exact Option.some.inj moved ▸ .announced
  | waiting => exact Option.some.inj moved ▸ .waiting
  | ready => exact Option.some.inj moved ▸ .ready
  | sending k bounded => exact Option.some.inj moved ▸ .sending k bounded
  | requested k bounded =>
      have small : (k + 1) % 2 ^ 32 ≤ msgLimit :=
        Nat.le_trans (Nat.mod_le _ _) (Nat.succ_le_of_lt bounded)
      cases sends with
      | false =>
          exact absurd ⟨rfl, Or.inr (Or.inr ⟨rfl, decide_eq_true small⟩)⟩ kept
      | true =>
          rcases requested_answered bounded with ⟨tail, fits, told, echoed⟩
          have same := (Option.some.inj moved).symm.trans echoed
          exact same ▸ .answered k tail fits told
  | answered k tail fits told =>
      cases tail with
      | serving => exact Option.some.inj moved ▸ .answered k .serving fits told
      | asked => exact Option.some.inj moved ▸ .answered k .destroying fits (by decide)
      | destroying =>
          cases sends with
          | false => exact absurd ⟨rfl, Or.inr (Or.inl rfl)⟩ kept
          | true => exact Option.some.inj moved ▸ .answered k .told fits (by decide)
      | told => cases moved
      | untold => exact absurd rfl told
  | counted k tail fits told =>
      cases tail with
      | serving => exact Option.some.inj moved ▸ .counted k .serving fits told
      | asked => exact Option.some.inj moved ▸ .counted k .destroying fits (by decide)
      | destroying =>
          cases sends with
          | false => exact absurd ⟨rfl, Or.inr (Or.inl rfl)⟩ kept
          | true => exact Option.some.inj moved ▸ .counted k .told fits (by decide)
      | told => cases moved
      | untold => exact absurd rfl told
  | reporting tail fits told =>
      cases tail with
      | serving => exact absurd fits (Nat.lt_irrefl msgLimit)
      | asked => exact Option.some.inj moved ▸ .reporting .destroying fits (by decide)
      | destroying =>
          cases sends with
          | false => exact absurd ⟨rfl, Or.inr (Or.inl rfl)⟩ kept
          | true => exact Option.some.inj moved ▸ .reporting .told fits (by decide)
      | told => cases moved
      | untold => exact absurd rfl told
  | unbound | reportingUnbound | returned => cases moved

theorem Flow.step (flow : world.Flow) {label : Label} (kept : ¬ world.SendFails label)
    (moved : SampleEcho.step world label = some next) : next.Flow := by
  cases label with
  | client sends => exact flow.clientStep kept moved
  | server sends => exact flow.serverStep kept moved

/-! ### What does not go out -/

theorem Flow.fails (flow : world.Flow) {label : Label} (lost : world.SendFails label)
    (moved : SampleEcho.step world label = some next) : next.Stuck := by
  cases label with
  | client sends =>
      rcases lost with ⟨rfl, creates | sends⟩
      · cases flow with
        | unannounced =>
            exact Option.some.inj moved ▸ .clientFailed [] .createEpt (Or.inl rfl)
              (fun _ absent => absurd absent List.not_mem_nil)
        | announced =>
            exact Option.some.inj moved ▸ .clientFailed [.announced] .polling (Or.inr (Or.inl rfl))
              (fun _ member => List.mem_singleton.mp member)
        | created | waiting | ready | sending | requested | answered | counted | unbound
        | reporting | reportingUnbound | returned => cases creates
      · cases flow with
        | sending k bounded => exact Option.some.inj moved ▸ .sendFailed k bounded
        | unannounced | announced | created | waiting | ready | requested | answered | counted
        | unbound | reporting | reportingUnbound | returned => cases sends
  | server sends =>
      rcases lost with ⟨rfl, creates | destroys | ⟨serves, echoes⟩⟩
      · cases flow with
        | unannounced =>
            exact Option.some.inj moved ▸ .serverFailed .createEpt false (Or.inl ⟨rfl, rfl⟩)
        | created =>
            exact Option.some.inj moved ▸ .serverFailed .waitReady true (Or.inr ⟨rfl, rfl⟩)
        | answered k tail | counted k tail | reporting tail => cases tail <;> cases creates
        | announced | waiting | ready | sending | requested | unbound | reportingUnbound
        | returned => cases creates
      · cases flow with
        | answered k tail fits told =>
            cases tail with
            | destroying =>
                have last := fits.last (by decide)
                subst last
                exact Option.some.inj moved ▸ .untold
            | serving | asked | told | untold => cases destroys
        | counted k tail fits told =>
            cases tail with
            | destroying =>
                have last := fits.last (by decide)
                subst last
                exact Option.some.inj moved ▸ .countedUntold
            | serving | asked | told | untold => cases destroys
        | reporting tail fits told =>
            cases tail with
            | destroying => exact Option.some.inj moved ▸ .reportingUntold
            | serving | asked | told | untold => cases destroys
        | unannounced | announced | created | waiting | ready | sending | requested | unbound
        | reportingUnbound | returned => cases destroys
      · cases flow with
        | requested k bounded =>
            have small : (k + 1) % 2 ^ 32 = k + 1 :=
              Nat.mod_eq_of_lt (Nat.lt_of_le_of_lt (Nat.succ_le_of_lt bounded) (by decide))
            have stops : { exchange k with client := .polling }.serverEndpointCb false
                (request (k + 1)) = World.answered k .asked [] := by
              have within : k + 1 ≤ msgLimit := bounded
              simp only [serverEndpointCb, exchange, World.answered, small, within, if_true,
                Bool.false_eq_true, if_false, Tail.queue, Tail.pc, List.append_nil, ne_eq,
                reduceCtorEq, not_false_eq_true, decide_true]
            have same := (Option.some.inj moved).symm.trans stops
            exact same ▸ .echoFailed k .asked bounded (by decide)
        | unannounced | announced | created | waiting | ready | sending | answered | counted
        | reporting => exact Bool.noConfusion echoes
        | unbound | reportingUnbound | returned => cases serves

/-- Nothing gets the two programs out of there. -/
theorem Stuck.step (stuck : world.Stuck) {label : Label}
    (moved : SampleEcho.step world label = some next) : next.Stuck := by
  cases stuck with
  | clientFailed toClient server starting announcing =>
      cases label with
      | client sends => cases moved
      | server sends =>
          rcases starting with rfl | rfl | rfl
          · cases sends with
            | false =>
                exact Option.some.inj moved ▸
                  .clientFailed _ .failed (Or.inr (Or.inr rfl)) announcing
            | true =>
                refine Option.some.inj moved ▸ .clientFailed _ .polling (Or.inr (Or.inl rfl)) ?_
                intro arrival member
                rcases List.mem_append.mp member with earlier | last
                · exact announcing arrival earlier
                · exact List.mem_singleton.mp last
          · exact Option.some.inj moved ▸ .clientFailed _ .polling (Or.inr (Or.inl rfl)) announcing
          · cases moved
  | serverFailed client lept starting =>
      cases label with
      | client sends =>
          rcases starting with ⟨rfl, rfl⟩ | ⟨rfl, rfl⟩
          · cases sends with
            | false =>
                exact Option.some.inj moved ▸ .clientFailed [] .failed (Or.inr (Or.inr rfl))
                  (fun _ absent => absurd absent List.not_mem_nil)
            | true =>
                exact Option.some.inj moved ▸ .serverFailed .waitReady true (Or.inr ⟨rfl, rfl⟩)
          · exact Option.some.inj moved ▸ .serverFailed .waitReady true (Or.inr ⟨rfl, rfl⟩)
      | server sends => cases moved
  | sendFailed k bounded =>
      cases label with
      | client sends => exact Option.some.inj moved ▸ .sendFailed k bounded
      | server sends => exact Option.some.inj moved ▸ .sendFailed k bounded
  | echoFailed k tail bounded asked =>
      cases label with
      | client sends =>
          have waits : k < k + 1 ∧ (0 : Nat) = 0 := ⟨Nat.lt_succ_self k, rfl⟩
          cases tail with
          | serving => exact absurd rfl asked
          | told => exact Option.some.inj moved ▸ .abandoned k bounded sends
          | asked | destroying | untold =>
              have same := (Option.some.inj moved).symm.trans (if_pos waits)
              exact same ▸ .echoFailed k _ bounded (by decide)
      | server sends =>
          cases tail with
          | serving => exact absurd rfl asked
          | asked => exact Option.some.inj moved ▸ .echoFailed k .destroying bounded (by decide)
          | destroying =>
              cases sends with
              | false => exact Option.some.inj moved ▸ .echoFailed k .untold bounded (by decide)
              | true => exact Option.some.inj moved ▸ .echoFailed k .told bounded (by decide)
          | told | untold => cases moved
  | abandoned k bounded sent =>
      cases label with
      | client sends =>
          have waits : k < k + 1 ∧ (0 : Nat) = 0 := ⟨Nat.lt_succ_self k, rfl⟩
          have same := (Option.some.inj moved).symm.trans (if_pos waits)
          exact same ▸ .abandoned k bounded sent
      | server sends => cases moved
  | untold =>
      cases label with
      | client sends =>
          have last : 99 < msgLimit := by decide
          have same := (Option.some.inj moved).symm.trans (answered_counted last .untold sends)
          exact same ▸ .countedUntold
      | server sends => cases moved
  | countedUntold =>
      cases label with
      | client sends => exact Option.some.inj moved ▸ .reportingUntold
      | server sends => cases moved
  | reportingUntold =>
      cases label with
      | client sends => exact Option.some.inj moved ▸ .reportingUntold
      | server sends => cases moved

/-! ## What holds at every point -/

/-- The echo is a message on its way back. -/
def isEcho : Arrival -> Bool
  | .echo _ => true
  | _ => false

def isMessage : Incoming -> Bool
  | .message _ => true
  | .destroyed => false

/-- Nothing is lost, doubled, reordered or mistaken, whatever does not go out: the client
has counted the first of its requests, in order, and nothing else; no more than one message
is under way; and the client comes to the end of `app()` only after a complete exchange, or
returns from it before any message. -/
structure Sound (world : World) : Prop where
  noError : world.errCnt = 0
  inOrder : world.accepted = requests world.rnum
  counts : world.rnum ≤ world.count ∧ world.count ≤ world.rnum + 1 ∧ world.count ≤ msgLimit
  oneInFlight :
    (world.toServer.filter isMessage).length + (world.toClient.filter isEcho).length ≤ 1
  complete : world.client = .returned ->
    world.rnum = msgLimit ∧ world.count = msgLimit ∧ world.server = .returned
  early : world.client = .failed -> world.rnum = 0 ∧ world.count = 0 ∧ world.toServer = []
  deleted : world.eptDeleted = true -> world.server = .returned

theorem Tail.filter_queue (tail : Tail) : tail.queue.filter isEcho = [] := by
  cases tail <;> rfl

/-- As long as the client has not returned from its end, and has not been told of the
server's end. -/
theorem sound_of_running (running : world.client ≠ .returned) (kept : world.eptDeleted = false)
    (noError : world.errCnt = 0) (inOrder : world.accepted = requests world.rnum)
    (counts : world.rnum ≤ world.count ∧ world.count ≤ world.rnum + 1 ∧ world.count ≤ msgLimit)
    (oneInFlight :
      (world.toServer.filter isMessage).length + (world.toClient.filter isEcho).length ≤ 1)
    (early : world.client = .failed -> world.rnum = 0 ∧ world.count = 0 ∧ world.toServer = []) :
    world.Sound where
  early := early
  noError := noError
  inOrder := inOrder
  counts := counts
  oneInFlight := oneInFlight
  complete := fun returned => absurd returned running
  deleted := fun deleted => Bool.noConfusion (kept.symm.trans deleted)

/-- When the server has returned. -/
theorem sound_of_ended (ended : world.server = .returned) (noError : world.errCnt = 0)
    (inOrder : world.accepted = requests world.rnum)
    (counts : world.rnum ≤ world.count ∧ world.count ≤ world.rnum + 1 ∧ world.count ≤ msgLimit)
    (oneInFlight :
      (world.toServer.filter isMessage).length + (world.toClient.filter isEcho).length ≤ 1)
    (complete : world.client = .returned -> world.rnum = msgLimit ∧ world.count = msgLimit)
    (created : world.client ≠ .failed) : world.Sound where
  early := fun failed => absurd failed created
  noError := noError
  inOrder := inOrder
  counts := counts
  oneInFlight := oneInFlight
  complete := fun returned => ⟨(complete returned).1, (complete returned).2, ended⟩
  deleted := fun _ => ended

theorem answered_sound {k : Nat} (bounded : k < msgLimit) (tail : Tail) (queue : List Arrival)
    (single : (queue.filter isEcho).length ≤ 1) : (answered k tail queue).Sound := by
  apply sound_of_running (ClientPc.noConfusion) rfl rfl rfl
  · exact ⟨Nat.le_succ _, Nat.le_refl _, Nat.succ_le_of_lt bounded⟩
  · show 0 + ((queue ++ tail.queue).filter isEcho).length ≤ 1
    rw [List.filter_append, tail.filter_queue, List.append_nil, Nat.zero_add]
    exact single
  · exact fun failed => ClientPc.noConfusion failed

theorem counted_sound {k : Nat} (bounded : k < msgLimit) (tail : Tail) (client : ClientPc)
    (running : client ≠ .returned ∧ client ≠ .failed) (i : Nat) :
    { counted k tail with client := client, i := i }.Sound := by
  apply sound_of_running running.1 rfl rfl rfl
  · exact ⟨Nat.le_refl _, Nat.le_succ _, Nat.succ_le_of_lt bounded⟩
  · show 0 + (([] ++ tail.queue).filter isEcho).length ≤ 1
    rw [List.nil_append, tail.filter_queue]
    exact Nat.zero_le _
  · exact fun failed => absurd failed running.2

theorem exchange_sound {k : Nat} (bounded : k < msgLimit) (client : ClientPc)
    (running : client ≠ .returned ∧ client ≠ .failed) (toServer : List Incoming)
    (single : (toServer.filter isMessage).length ≤ 1) :
    { exchange k with client := client, toServer := toServer }.Sound := by
  apply sound_of_running running.1 rfl rfl rfl
  · exact ⟨Nat.le_refl _, Nat.le_succ _, Nat.le_of_lt bounded⟩
  · exact single
  · exact fun failed => absurd failed running.2

/-- The client's farewell is no message. -/
theorem farewell_filter (sent : Bool) : (farewell sent).filter isMessage = [] := by
  cases sent <;> rfl

theorem farewell_single (sent : Bool) :
    ((farewell sent).filter isMessage).length + (([] : List Arrival).filter isEcho).length ≤ 1 := by
  rw [farewell_filter]
  exact Nat.zero_le _

theorem unbound_sound (sent : Bool) (client : ClientPc) (created : client ≠ .failed) (i : Nat) :
    { unbound sent with client := client, i := i }.Sound :=
  sound_of_ended rfl rfl rfl ⟨Nat.le_refl 100, Nat.le_succ 100, Nat.le_refl 100⟩
    (farewell_single sent) (fun _ => ⟨rfl, rfl⟩) created

theorem Flow.sound (flow : world.Flow) : world.Sound := by
  cases flow with
  | unannounced | created | announced | waiting | ready =>
      exact sound_of_running ClientPc.noConfusion rfl rfl rfl (by decide) (by decide)
        (fun failed => ClientPc.noConfusion failed)
  | sending k bounded => exact exchange_sound bounded .send (by decide) [] (by decide)
  | requested k bounded => exact exchange_sound bounded .polling (by decide) _ (Nat.le_refl _)
  | answered k tail fits told => exact answered_sound fits.lt tail _ (Nat.le_refl _)
  | counted k tail fits told => exact counted_sound fits.lt tail .polling (by decide) (k + 1)
  | reporting tail fits told => exact counted_sound fits.lt tail .reporting (by decide) 101
  | unbound sent => exact unbound_sound sent .polling (by decide) 100
  | reportingUnbound sent => exact unbound_sound sent .reporting (by decide) 101
  | returned sent => exact unbound_sound sent .returned (by decide) 101

theorem Stuck.sound (stuck : world.Stuck) : world.Sound := by
  cases stuck with
  | clientFailed toClient server starting announcing =>
      have none : toClient.filter isEcho = [] := by
        apply List.filter_eq_nil_iff.mpr
        intro arrival member
        rw [announcing arrival member]
        exact Bool.false_ne_true
      apply sound_of_running ClientPc.noConfusion rfl rfl rfl
        ⟨Nat.le_refl 0, Nat.le_succ 0, Nat.zero_le _⟩
      · show 0 + (toClient.filter isEcho).length ≤ 1
        rw [none]
        exact Nat.zero_le _
      · exact fun _ => ⟨rfl, rfl, rfl⟩
  | serverFailed client lept starting =>
      rcases starting with ⟨rfl, rfl⟩ | ⟨rfl, rfl⟩
      · exact sound_of_running ClientPc.noConfusion rfl rfl rfl (by decide) (by decide)
          (fun failed => ClientPc.noConfusion failed)
      · exact sound_of_running ClientPc.noConfusion rfl rfl rfl (by decide) (by decide)
          (fun failed => ClientPc.noConfusion failed)
  | sendFailed k bounded => exact exchange_sound bounded .reporting (by decide) [] (by decide)
  | echoFailed k tail bounded asked => exact answered_sound bounded tail [] (by decide)
  | abandoned k bounded sent =>
      exact sound_of_ended rfl rfl rfl
        ⟨Nat.le_succ _, Nat.le_refl _, Nat.succ_le_of_lt bounded⟩ (farewell_single sent)
        (fun returned => ClientPc.noConfusion returned) ClientPc.noConfusion
  | untold => exact answered_sound (by decide) .untold _ (Nat.le_refl _)
  | countedUntold => exact counted_sound (by decide) .untold .polling (by decide) 100
  | reportingUntold => exact counted_sound (by decide) .untold .reporting (by decide) 101

/-- Both programs have returned from `app()`, be it that they could not create their
endpoints. -/
def Ended (world : World) : Prop :=
  (world.client = .returned ∨ world.client = .failed) ∧
    (world.server = .returned ∨ world.server = .failed)

/-- After something has not gone out, both return only without endpoints. -/
theorem Stuck.ended (stuck : world.Stuck) (ended : world.Ended) :
    world.client = .failed ∧ world.server = .failed := by
  rcases ended with ⟨client, server⟩
  cases stuck with
  | clientFailed toClient pc starting announcing =>
      rcases starting with rfl | rfl | rfl
      · rcases server with returned | failed
        · cases returned
        · cases failed
      · rcases server with returned | failed
        · cases returned
        · cases failed
      · exact ⟨rfl, rfl⟩
  | serverFailed pc lept starting =>
      rcases starting with ⟨rfl, rfl⟩ | ⟨rfl, rfl⟩
      · exact absurd client (by decide)
      · exact absurd client (by decide)
  | sendFailed | echoFailed | abandoned | untold | countedUntold | reportingUntold =>
      rcases client with returned | failed
      · cases returned
      · cases failed

/-! ## Who has something to do -/

/-- The work left from a place in the client's `app()` on. -/
def clientLeft (i : Nat) : ClientPc -> Nat
  | .createEpt => 1016
  | .waitReady => 1012
  | .send => 10 * (101 - i) + 5
  | .polling => 10 * (101 - i) + 2
  | .reporting => 1
  | .returned | .failed => 0

def serverLeft : ServerPc -> Nat
  | .createEpt => 5
  | .polling => 3
  | .destroyEpt => 2
  | .returned | .failed => 0

/-- A request in its queue stands for its echo, too, and the client's endpoint for the
announcement that it is destroyed. -/
def rank (world : World) : Nat :=
  clientLeft world.i world.client + serverLeft world.server + 2 * world.toServer.length +
    world.toClient.length + 3 * world.lept.toNat

/-- The client goes on for as long as it finds this. -/
def ClientBusy (world : World) : Prop :=
  match world.client with
  | .createEpt | .send => True
  | .waitReady => world.toClient ≠ [] ∨ world.ready = true
  | .polling => world.toClient ≠ [] ∨ ¬ (world.rnum < world.i ∧ world.errCnt = 0)
  | .reporting => world.toClient ≠ [] ∨ world.eptDeleted = true
  | .returned | .failed => False

def ServerBusy (world : World) : Prop :=
  match world.server with
  | .createEpt | .destroyEpt => True
  | .polling => world.toServer ≠ [] ∨ world.shutdownReq = true
  | .returned | .failed => False

def Busy (world : World) : Party -> Prop
  | .client => world.ClientBusy
  | .server => world.ServerBusy

theorem deliver_rank (world : World) (sends : Bool) (arrival : Arrival) :
    (world.deliver sends arrival).rank ≤ world.rank := by
  cases arrival with
  | announced => exact Nat.le_refl _
  | echo data =>
      simp only [deliver, clientEndpointCb]
      split
      · split <;> exact Nat.le_refl _
      · exact Nat.le_refl _
  | destroyed =>
      simp only [deliver]
      split
      · rename_i created
        simp only [clientServiceUnbind, rank, created, Bool.toNat_true, Bool.toNat_false]
        cases sends with
        | true => simp only [if_true, List.length_append, List.length_singleton]; omega
        | false => simp only [Bool.false_eq_true, if_false]; omega
      · exact Nat.le_refl _

theorem nextMessage_rank (world : World) (i : Nat) :
    (world.nextMessage i).rank <
      10 * (102 - i) + 2 + serverLeft world.server + 2 * world.toServer.length +
        world.toClient.length + 3 * world.lept.toNat := by
  unfold nextMessage msgLimit
  split
  · simp only [rank, clientLeft]
    omega
  · simp only [rank, clientLeft]
    omega

/-- An arrival is taken out of the queue. -/
theorem delivered_rank {arrival : Arrival} {rest : List Arrival}
    (queue : world.toClient = arrival :: rest) (sends : Bool) :
    ({ world with toClient := rest }.deliver sends arrival).rank < world.rank := by
  refine Nat.lt_of_le_of_lt (deliver_rank _ sends arrival) ?_
  simp only [rank, queue, List.length_cons]
  omega

/-- The client is within `platform_poll()`. -/
def Polls (world : World) : Prop :=
  world.client = .waitReady ∨ world.client = .polling ∨ world.client = .reporting

theorem clientStep_of_nil (polls : world.Polls) (queue : world.toClient = []) (sends : Bool) :
    world.clientStep sends = some world.polled := by
  rcases polls with at_pc | at_pc | at_pc <;> rw [World.clientStep, at_pc, queue]

theorem clientStep_of_cons (polls : world.Polls) {arrival : Arrival} {rest : List Arrival}
    (queue : world.toClient = arrival :: rest) (sends : Bool) :
    world.clientStep sends = some ({ world with toClient := rest }.deliver sends arrival) := by
  rcases polls with at_pc | at_pc | at_pc <;> rw [World.clientStep, at_pc, queue]

/-- With an empty queue the client gets on when it need not wait. -/
theorem polled_rank (polls : world.Polls) (empty : world.toClient = [])
    (busy : world.ClientBusy) :
    world.polled.rank < world.rank := by
  rcases polls with at_pc | at_pc | at_pc
  · simp only [ClientBusy, at_pc, empty, ne_eq, not_true_eq_false, false_or] at busy
    have following : world.polled = world.nextMessage 1 := by
      simp only [polled, at_pc, busy, if_true]
    rw [following]
    refine Nat.lt_of_lt_of_le (world.nextMessage_rank 1) ?_
    simp only [rank, at_pc, clientLeft]
    omega
  · simp only [ClientBusy, at_pc, empty, ne_eq, not_true_eq_false, false_or] at busy
    have following : world.polled = world.nextMessage (world.i + 1) := by
      simp only [polled, at_pc, busy, if_false]
    rw [following]
    refine Nat.lt_of_lt_of_le (world.nextMessage_rank (world.i + 1)) ?_
    simp only [rank, at_pc, clientLeft]
    omega
  · simp only [ClientBusy, at_pc, empty, ne_eq, not_true_eq_false, false_or] at busy
    simp only [polled, at_pc, busy, if_true, rank, clientLeft]
    omega

theorem clientStep_lowers (busy : world.ClientBusy) (sends : Bool) :
    Exists fun next => world.clientStep sends = some next ∧ next.rank < world.rank := by
  cases at_pc : world.client with
  | createEpt =>
      refine ⟨_, by rw [World.clientStep, at_pc], ?_⟩
      cases sends with
      | true =>
          simp only [rank, at_pc, clientLeft, if_true, Bool.toNat_true]
          omega
      | false =>
          simp only [rank, at_pc, clientLeft, Bool.false_eq_true, if_false]
          omega
  | send =>
      refine ⟨_, by rw [World.clientStep, at_pc], ?_⟩
      split
      · simp only [rank, at_pc, clientLeft, List.length_append, List.length_singleton]
        omega
      · simp only [rank, at_pc, clientLeft]
        omega
  | waitReady | polling | reporting =>
      have polls : world.Polls := by simp only [Polls, at_pc, reduceCtorEq, true_or, or_true]
      cases queue : world.toClient with
      | nil => exact ⟨_, clientStep_of_nil polls queue sends, polled_rank polls queue busy⟩
      | cons arrival rest =>
          exact ⟨_, clientStep_of_cons polls queue sends, delivered_rank queue sends⟩
  | returned | failed => simp only [ClientBusy, at_pc] at busy

/-- A client with nothing to do polls and leaves everything as it is. -/
theorem clientStep_rests (idle : ¬ world.ClientBusy) {sends : Bool}
    (moved : world.clientStep sends = some next) : next = world := by
  cases at_pc : world.client with
  | createEpt | send => simp only [ClientBusy, at_pc, not_true_eq_false] at idle
  | waitReady | polling | reporting =>
      simp only [ClientBusy, at_pc, not_or, not_not] at idle
      simp only [World.clientStep, at_pc, idle.1, polled, idle.2, if_true, Bool.false_eq_true,
        if_false, Option.some.injEq, and_self] at moved
      exact moved.symm
  | returned | failed => simp only [World.clientStep, at_pc, reduceCtorEq] at moved

theorem serverStep_lowers (busy : world.ServerBusy) (sends : Bool) :
    Exists fun next => world.serverStep sends = some next ∧ next.rank < world.rank := by
  cases at_pc : world.server with
  | createEpt =>
      refine ⟨_, by rw [World.serverStep, at_pc], ?_⟩
      cases sends with
      | true =>
          simp only [rank, at_pc, serverLeft, if_true, List.length_append, List.length_singleton]
          omega
      | false => simp only [rank, at_pc, serverLeft, Bool.false_eq_true, if_false]; omega
  | polling =>
      cases queue : world.toServer with
      | nil =>
          simp only [ServerBusy, at_pc, queue, ne_eq, not_true_eq_false, false_or] at busy
          refine ⟨_, by rw [World.serverStep, at_pc, queue], ?_⟩
          simp only [rank, at_pc, queue, busy, if_true, serverLeft]
          omega
      | cons incoming rest =>
          cases incoming with
          | message data =>
              refine ⟨_, by rw [World.serverStep, at_pc, queue], ?_⟩
              unfold serverEndpointCb
              split
              · cases sends with
                | true =>
                    simp only [rank, at_pc, serverLeft, queue, if_true, List.length_append,
                      List.length_cons, List.length_nil]
                    omega
                | false =>
                    simp only [rank, at_pc, serverLeft, queue, Bool.false_eq_true, if_false,
                      List.length_cons]
                    omega
              · simp only [rank, at_pc, serverLeft, queue, List.length_cons]
                omega
          | destroyed =>
              refine ⟨_, by rw [World.serverStep, at_pc, queue], ?_⟩
              simp only [serverServiceUnbind, rank, at_pc, serverLeft, queue, List.length_cons]
              omega
  | destroyEpt =>
      refine ⟨_, by rw [World.serverStep, at_pc], ?_⟩
      cases sends with
      | true =>
          simp only [rank, at_pc, serverLeft, if_true, List.length_append, List.length_singleton]
          omega
      | false => simp only [rank, at_pc, serverLeft, Bool.false_eq_true, if_false]; omega
  | returned | failed => simp only [ServerBusy, at_pc] at busy

theorem serverStep_rests (idle : ¬ world.ServerBusy) {sends : Bool}
    (moved : world.serverStep sends = some next) : next = world := by
  cases at_pc : world.server with
  | createEpt | destroyEpt => simp only [ServerBusy, at_pc, not_true_eq_false] at idle
  | polling =>
      simp only [ServerBusy, at_pc, not_or, not_not] at idle
      simp only [World.serverStep, at_pc, idle.1, idle.2, Option.some.injEq] at moved
      exact moved.symm
  | returned | failed => simp only [World.serverStep, at_pc, reduceCtorEq] at moved

/-! ### What a program leaves to the other -/

/-- What the client does with an arrival concerns only itself. -/
theorem deliver_frame (world : World) (sends : Bool) (arrival : Arrival) :
    (world.deliver sends arrival).server = world.server ∧
      (world.deliver sends arrival).shutdownReq = world.shutdownReq ∧
      world.toServer <+: (world.deliver sends arrival).toServer := by
  have quiet : world.toServer <+: world.toServer := List.prefix_refl _
  cases arrival with
  | announced => exact ⟨rfl, rfl, quiet⟩
  | echo data =>
      simp only [deliver, clientEndpointCb]
      split
      · split <;> exact ⟨rfl, rfl, quiet⟩
      · exact ⟨rfl, rfl, quiet⟩
  | destroyed =>
      simp only [deliver]
      split
      · cases sends with
        | true => exact ⟨rfl, rfl, List.prefix_append _ _⟩
        | false => exact ⟨rfl, rfl, quiet⟩
      · exact ⟨rfl, rfl, quiet⟩

theorem deliver_client (world : World) (sends : Bool) (arrival : Arrival) :
    (world.deliver sends arrival).client = world.client := by
  cases arrival with
  | announced => rfl
  | echo data =>
      simp only [deliver, clientEndpointCb]
      split
      · split <;> rfl
      · rfl
  | destroyed =>
      simp only [deliver]
      split <;> rfl

theorem polled_created (world : World) (created : world.client ≠ .failed) :
    world.polled.client ≠ .failed := by
  have following : forall i, (world.nextMessage i).client ≠ .failed := by
    intro i
    unfold nextMessage
    split <;> exact ClientPc.noConfusion
  cases at_pc : world.client with
  | waitReady =>
      simp only [polled, at_pc]
      split
      · exact following 1
      · exact created
  | polling =>
      simp only [polled, at_pc]
      split
      · exact created
      · exact following (world.i + 1)
  | reporting =>
      simp only [polled, at_pc]
      split
      · exact ClientPc.noConfusion
      · exact created
  | createEpt | send | returned =>
      simp only [polled, at_pc]
      exact ClientPc.noConfusion
  | failed => exact absurd at_pc created

theorem serverEndpointCb_server (world : World) (sends : Bool) (data : List Char) :
    (world.serverEndpointCb sends data).server = world.server := by
  unfold serverEndpointCb
  split
  · split <;> rfl
  · rfl

theorem polled_frame (world : World) :
    world.polled.server = world.server ∧ world.polled.shutdownReq = world.shutdownReq ∧
      world.polled.toServer = world.toServer := by
  have following : forall i, (world.nextMessage i).server = world.server ∧
      (world.nextMessage i).shutdownReq = world.shutdownReq ∧
      (world.nextMessage i).toServer = world.toServer := by
    intro i
    unfold nextMessage
    split <;> exact ⟨rfl, rfl, rfl⟩
  cases at_pc : world.client with
  | waitReady =>
      simp only [polled, at_pc]
      split
      · exact following 1
      · exact ⟨rfl, rfl, rfl⟩
  | polling =>
      simp only [polled, at_pc]
      split
      · exact ⟨rfl, rfl, rfl⟩
      · exact following (world.i + 1)
  | reporting =>
      simp only [polled, at_pc]
      split <;> exact ⟨rfl, rfl, rfl⟩
  | createEpt | send | returned | failed => simp only [polled, at_pc, and_self]

/-- A step of the client hands the server nothing but further requests. -/
theorem clientStep_frame {sends : Bool} (moved : world.clientStep sends = some next) :
    next.server = world.server ∧ next.shutdownReq = world.shutdownReq ∧
      world.toServer <+: next.toServer := by
  cases at_pc : world.client with
  | createEpt =>
      simp only [World.clientStep, at_pc, Option.some.injEq] at moved
      subst moved
      split <;> exact ⟨rfl, rfl, List.prefix_refl _⟩
  | send =>
      simp only [World.clientStep, at_pc, Option.some.injEq] at moved
      subst moved
      split
      · exact ⟨rfl, rfl, List.prefix_append _ _⟩
      · exact ⟨rfl, rfl, List.prefix_refl _⟩
  | waitReady | polling | reporting =>
      have polls : world.Polls := by simp only [Polls, at_pc, reduceCtorEq, true_or, or_true]
      cases queue : world.toClient with
      | nil =>
          rw [← Option.some.inj ((clientStep_of_nil polls queue sends).symm.trans moved)]
          have frame := world.polled_frame
          exact ⟨frame.1, frame.2.1, [], by rw [List.append_nil, frame.2.2]⟩
      | cons arrival rest =>
          rw [← Option.some.inj ((clientStep_of_cons polls queue sends).symm.trans moved)]
          exact { world with toClient := rest }.deliver_frame sends arrival
  | returned | failed => simp only [World.clientStep, at_pc, reduceCtorEq] at moved

/-- A step of the server hands the client nothing but further arrivals. -/
theorem serverStep_frame {sends : Bool} (moved : world.serverStep sends = some next) :
    next.client = world.client ∧ next.ready = world.ready ∧ next.eptDeleted = world.eptDeleted ∧
      next.i = world.i ∧ next.rnum = world.rnum ∧ next.errCnt = world.errCnt ∧
      world.toClient <+: next.toClient := by
  have quiet : world.toClient <+: world.toClient := List.prefix_refl _
  cases at_pc : world.server with
  | createEpt =>
      simp only [World.serverStep, at_pc, Option.some.injEq] at moved
      subst moved
      split
      · exact ⟨rfl, rfl, rfl, rfl, rfl, rfl, List.prefix_append _ _⟩
      · exact ⟨rfl, rfl, rfl, rfl, rfl, rfl, quiet⟩
  | polling =>
      cases queue : world.toServer with
      | nil =>
          simp only [World.serverStep, at_pc, queue, Option.some.injEq] at moved
          subst moved
          split <;> exact ⟨rfl, rfl, rfl, rfl, rfl, rfl, quiet⟩
      | cons incoming rest =>
          cases incoming with
          | message data =>
              simp only [World.serverStep, at_pc, queue, Option.some.injEq] at moved
              subst moved
              unfold serverEndpointCb
              split
              · split
                · exact ⟨rfl, rfl, rfl, rfl, rfl, rfl, List.prefix_append _ _⟩
                · exact ⟨rfl, rfl, rfl, rfl, rfl, rfl, quiet⟩
              · exact ⟨rfl, rfl, rfl, rfl, rfl, rfl, quiet⟩
          | destroyed =>
              simp only [World.serverStep, at_pc, queue, Option.some.injEq] at moved
              subst moved
              exact ⟨rfl, rfl, rfl, rfl, rfl, rfl, quiet⟩
  | destroyEpt =>
      simp only [World.serverStep, at_pc, Option.some.injEq] at moved
      subst moved
      refine ⟨rfl, rfl, rfl, rfl, rfl, rfl, ?_⟩
      cases sends with
      | true => exact List.prefix_append _ _
      | false => exact quiet
  | returned | failed => simp only [World.serverStep, at_pc, reduceCtorEq] at moved

theorem clientBusy_stays (busy : world.ClientBusy) {sends : Bool}
    (moved : world.serverStep sends = some next) : next.ClientBusy := by
  rcases serverStep_frame moved with
    ⟨client, ready, deleted, i, rnum, errCnt, more, toClient⟩
  have kept : world.toClient ≠ [] -> next.toClient ≠ [] := by
    intro waits
    rw [← toClient]
    exact List.append_ne_nil_of_left_ne_nil waits more
  unfold ClientBusy at busy ⊢
  rw [client, ready, i, rnum, errCnt, deleted]
  cases at_pc : world.client with
  | createEpt | send => trivial
  | waitReady | polling | reporting =>
      rw [at_pc] at busy
      exact busy.imp_left kept
  | returned | failed =>
      rw [at_pc] at busy
      exact busy

theorem serverBusy_stays (busy : world.ServerBusy) {sends : Bool}
    (moved : world.clientStep sends = some next) : next.ServerBusy := by
  rcases clientStep_frame moved with ⟨server, shutdownReq, more, toServer⟩
  have kept : world.toServer ≠ [] -> next.toServer ≠ [] := by
    intro waits
    rw [← toServer]
    exact List.append_ne_nil_of_left_ne_nil waits more
  unfold ServerBusy at busy ⊢
  rw [server, shutdownReq]
  cases at_pc : world.server with
  | createEpt | destroyEpt => trivial
  | polling =>
      rw [at_pc] at busy
      exact busy.imp_left kept
  | returned | failed =>
      rw [at_pc] at busy
      exact busy

/-! ### Somebody gets on -/

/-- Short of the end there is something to do for one of the programs. -/
theorem Flow.somebody (flow : world.Flow) (running : ¬ world.Ended) :
    Exists fun who => world.Busy who := by
  cases flow with
  | unannounced | announced => exact ⟨.client, trivial⟩
  | created => exact ⟨.server, trivial⟩
  | waiting => exact ⟨.client, Or.inl (List.cons_ne_nil _ _)⟩
  | ready => exact ⟨.client, Or.inr rfl⟩
  | sending k bounded => exact ⟨.client, trivial⟩
  | requested k bounded => exact ⟨.server, Or.inl (List.cons_ne_nil _ _)⟩
  | answered k tail fits told => exact ⟨.client, Or.inl (List.cons_ne_nil _ _)⟩
  | counted k tail fits told =>
      exact ⟨.client, Or.inr (fun waits => Nat.lt_irrefl _ waits.1)⟩
  | unbound => exact ⟨.client, Or.inr (fun waits => Nat.lt_irrefl _ waits.1)⟩
  | reporting tail fits told =>
      cases tail with
      | serving => exact absurd fits (Nat.lt_irrefl msgLimit)
      | asked => exact ⟨.server, Or.inr rfl⟩
      | destroying => exact ⟨.server, trivial⟩
      | told => exact ⟨.client, Or.inl (List.cons_ne_nil _ _)⟩
      | untold => exact absurd rfl told
  | reportingUnbound => exact ⟨.client, Or.inr rfl⟩
  | returned sent => exact absurd ⟨Or.inl rfl, Or.inl rfl⟩ running

/-- As long as everything goes out, fair schedules end. -/
theorem ranked : Fairness.Ranked SampleEcho.step Label.party
    (fun world label => ¬ world.SendFails label) Flow Ended rank Busy where
  preserved := fun _ _ _ flow kept moved => flow.step kept moved
  lowers := by
    intro world label _ _ busy
    cases label with
    | client sends => exact clientStep_lowers busy sends
    | server sends => exact serverStep_lowers busy sends
  keeps := by
    intro world label next _ _ idle moved
    cases label with
    | client sends => exact Nat.le_of_eq (congrArg rank (clientStep_rests idle moved))
    | server sends => exact Nat.le_of_eq (congrArg rank (serverStep_rests idle moved))
  stays := by
    intro world label next who _ _ busy other moved
    cases label with
    | client sends =>
        cases who with
        | client => exact absurd rfl other
        | server => exact Or.inl (serverBusy_stays busy moved)
    | server sends =>
        cases who with
        | client => exact Or.inl (clientBusy_stays busy moved)
        | server => exact absurd rfl other
  somebody := fun _ flow running => flow.somebody running

end World

/-! ## Whole runs -/

/-- Where the two programs can get: an undisturbed exchange, or what a failed send left. -/
def Reachable (world : World) : Prop := world.Flow ∨ world.Stuck

theorem Reachable.step {world next : World} {label : Label} (before : Reachable world)
    (moved : step world label = some next) : Reachable next := by
  rcases before with flow | stuck
  · by_cases lost : world.SendFails label
    · exact Or.inr (flow.fails lost moved)
    · exact Or.inl (flow.step lost moved)
  · exact Or.inr (stuck.step moved)

theorem reachable_of_run {performed : List Label} {world : World}
    (reached : Transition.run step World.initial performed = some world) : Reachable world :=
  Transition.run_invariant (fun _ _ _ before moved => before.step moved) (Or.inl .unannounced)
    reached

/-- Whatever goes out or does not, in every state that is reached the client has counted exactly
the first echoes, each once and in order, without an error; no more than one message is under
way; and the client only comes to the end of `app()` after all of them. A client that returns
early has not been able to create its endpoint, and has neither sent nor counted anything. -/
theorem run_sound {performed : List Label} {world : World}
    (reached : Transition.run step World.initial performed = some world) : world.Sound := by
  rcases reachable_of_run reached with flow | stuck
  · exact flow.sound
  · exact stuck.sound

/-- The echo of the first greeting is under way. -/
theorem first_echo_sound :
    { World.exchange 0 with
      client := .polling
      toClient := [.echo helloMsg]
      count := 1 }.Sound := by
  have reached : Transition.run step World.initial
      [.client true, .server true, .client true, .client true, .client true, .server true] =
        some { World.exchange 0 with
          client := .polling
          toClient := [.echo helloMsg]
          count := 1 } := rfl
  exact run_sound reached

/-- A call that fails to send is a step all the same. -/
theorem World.SendFails.moves {world : World} {label : Label} (lost : world.SendFails label) :
    Exists fun next => step world label = some next := by
  cases label with
  | client sends =>
      rcases lost with ⟨-, at_pc | at_pc⟩
      · exact ⟨_, by rw [step, World.clientStep, at_pc]⟩
      · exact ⟨_, by rw [step, World.clientStep, at_pc]⟩
  | server sends =>
      rcases lost with ⟨-, at_pc | at_pc | ⟨at_pc, echoes⟩⟩
      · exact ⟨_, by rw [step, World.serverStep, at_pc]⟩
      · exact ⟨_, by rw [step, World.serverStep, at_pc]⟩
      · cases queue : world.toServer with
        | nil =>
            rw [World.nextEchoes, queue] at echoes
            exact Bool.noConfusion echoes
        | cons incoming rest =>
            cases incoming with
            | message data => exact ⟨_, by rw [step, World.serverStep, at_pc, queue]⟩
            | destroyed => exact ⟨_, by rw [step, World.serverStep, at_pc, queue]⟩

/-- A program that has returned moves no more. -/
theorem step_of_clientEnded {world next : World} {label : Label}
    (ended : world.client = .returned ∨ world.client = .failed)
    (moved : step world label = some next) : next.client = world.client := by
  cases label with
  | client sends =>
      rcases ended with at_pc | at_pc
      · simp only [step, World.clientStep, at_pc, reduceCtorEq] at moved
      · simp only [step, World.clientStep, at_pc, reduceCtorEq] at moved
  | server sends => exact (World.serverStep_frame moved).1

theorem step_of_serverEnded {world next : World} {label : Label}
    (ended : world.server = .returned ∨ world.server = .failed)
    (moved : step world label = some next) : next.server = world.server := by
  cases label with
  | client sends => exact (World.clientStep_frame moved).1
  | server sends =>
      rcases ended with at_pc | at_pc
      · simp only [step, World.serverStep, at_pc, reduceCtorEq] at moved
      · simp only [step, World.serverStep, at_pc, reduceCtorEq] at moved

theorem World.Ended.stays {world next : World} {label : Label} (ended : world.Ended)
    (moved : step world label = some next) : next.Ended := by
  rw [World.Ended, step_of_clientEnded ended.1 moved, step_of_serverEnded ended.2 moved]
  exact ended

/-- Whoever polls has its endpoint. -/
theorem World.polls_not_failed {world next : World} {sends : Bool} (polls : world.Polls)
    (moved : world.clientStep sends = some next) : next.client ≠ .failed := by
  have created : world.client ≠ .failed := by
    rcases polls with at_pc | at_pc | at_pc <;> rw [at_pc] <;> exact ClientPc.noConfusion
  cases queue : world.toClient with
  | nil =>
      rw [← Option.some.inj ((clientStep_of_nil polls queue sends).symm.trans moved)]
      exact world.polled_created created
  | cons arrival rest =>
      rw [← Option.some.inj ((clientStep_of_cons polls queue sends).symm.trans moved),
        deliver_client]
      exact created

theorem World.serverPolls_not_failed {world next : World} {sends : Bool}
    (polls : world.server = .polling) (moved : world.serverStep sends = some next) :
    next.server ≠ .failed := by
  cases queue : world.toServer with
  | nil =>
      simp only [World.serverStep, polls, queue, Option.some.injEq] at moved
      subst moved
      split
      · exact ServerPc.noConfusion
      · rw [polls]
        exact ServerPc.noConfusion
  | cons incoming rest =>
      cases incoming with
      | message data =>
          simp only [World.serverStep, polls, queue, Option.some.injEq] at moved
          rw [← moved, serverEndpointCb_server]
          exact ServerPc.noConfusion
      | destroyed =>
          simp only [World.serverStep, polls, queue, Option.some.injEq] at moved
          rw [← moved]
          exact ServerPc.noConfusion

/-- Only a failed creation leads to the early return. -/
theorem clientCreateFails_of_failed {world next : World} {label : Label}
    (moved : step world label = some next) (failed : next.client = .failed) :
    world.client = .failed ∨ label.party = .client ∧ world.CreateFails label := by
  cases label with
  | server sends => exact Or.inl ((World.serverStep_frame moved).1.symm.trans failed)
  | client sends =>
      cases at_pc : world.client with
      | failed => exact Or.inl rfl
      | createEpt =>
          cases sends with
          | false => exact Or.inr ⟨rfl, rfl, at_pc⟩
          | true =>
              simp only [step, World.clientStep, at_pc, if_true, Option.some.injEq] at moved
              rw [← moved] at failed
              cases failed
      | send =>
          simp only [step, World.clientStep, at_pc, Option.some.injEq] at moved
          rw [← moved] at failed
          split at failed <;> cases failed
      | waitReady | polling | reporting =>
          have polls : world.Polls := by
            simp only [World.Polls, at_pc, reduceCtorEq, true_or, or_true]
          exact absurd failed (World.polls_not_failed polls moved)
      | returned => simp only [step, World.clientStep, at_pc, reduceCtorEq] at moved

theorem serverCreateFails_of_failed {world next : World} {label : Label}
    (moved : step world label = some next) (failed : next.server = .failed) :
    world.server = .failed ∨ label.party = .server ∧ world.CreateFails label := by
  cases label with
  | client sends => exact Or.inl ((World.clientStep_frame moved).1.symm.trans failed)
  | server sends =>
      cases at_pc : world.server with
      | failed => exact Or.inl rfl
      | createEpt =>
          cases sends with
          | false => exact Or.inr ⟨rfl, rfl, at_pc⟩
          | true =>
              simp only [step, World.serverStep, at_pc, if_true, Option.some.injEq] at moved
              rw [← moved] at failed
              cases failed
      | polling => exact absurd failed (World.serverPolls_not_failed at_pc moved)
      | destroyEpt =>
          simp only [step, World.serverStep, at_pc, Option.some.injEq] at moved
          rw [← moved] at failed
          cases failed
      | returned => simp only [step, World.serverStep, at_pc, reduceCtorEq] at moved

/-- A program that cannot create its endpoint has returned from then on. -/
theorem failed_of_createFails {world next : World} {label : Label}
    (fails : world.CreateFails label) (moved : step world label = some next) :
    match label.party with
    | .client => next.client = .failed
    | .server => next.server = .failed := by
  cases label with
  | client sends =>
      rcases fails with ⟨rfl, at_pc⟩
      simp only [step, World.clientStep, at_pc, Bool.false_eq_true, if_false,
        Option.some.injEq] at moved
      exact moved ▸ rfl
  | server sends =>
      rcases fails with ⟨rfl, at_pc⟩
      simp only [step, World.serverStep, at_pc, Bool.false_eq_true, if_false,
        Option.some.injEq] at moved
      exact moved ▸ rfl

theorem World.CreateFails.sendFails {world : World} {label : Label}
    (fails : world.CreateFails label) : world.SendFails label := by
  cases label with
  | client sends => exact ⟨fails.1, Or.inl fails.2⟩
  | server sends => exact ⟨fails.1, Or.inl fails.2⟩

section Runs

variable (schedule : Nat -> Label)

/-- The state before step number `n` of an endless schedule. -/
abbrev stateAt (n : Nat) : World := Fairness.trace step World.initial schedule n

/-- One of the programs cannot create its endpoint. -/
def Uncreated (who : Party) : Prop :=
  Exists fun n => (schedule n).party = who ∧ (stateAt schedule n).CreateFails (schedule n)

variable {schedule}

/-- If something has not gone out and both return all the same, then neither of them has an
endpoint. -/
theorem uncreated_of_ended {n m : Nat} (ended : (stateAt schedule n).Ended)
    (lost : (stateAt schedule m).SendFails (schedule m)) (who : Party) : Uncreated schedule who := by
  have stuck : (stateAt schedule (m + 1)).Stuck := by
    rcases lost.moves with ⟨next, moved⟩
    rcases Fairness.trace_reached step World.initial schedule m with ⟨performed, reached⟩
    rw [stateAt, Fairness.trace_of_some moved]
    rcases reachable_of_run reached with flow | stuck
    · exact flow.fails lost moved
    · exact stuck.step moved
  have stuckLater : (stateAt schedule (m + 1 + n)).Stuck :=
    Fairness.trace_stays (fun _ _ _ before moved => before.step moved) stuck n
  have endedLater : (stateAt schedule (n + (m + 1))).Ended :=
    Fairness.trace_stays (fun _ _ _ before moved => before.stays moved) ended (m + 1)
  rw [Nat.add_comm] at endedLater
  have failed := stuckLater.ended endedLater
  cases who with
  | client =>
      exact Fairness.trace_caused (fun _ _ _ => clientCreateFails_of_failed)
        ClientPc.noConfusion failed.1
  | server =>
      exact Fairness.trace_caused (fun _ _ _ => serverCreateFails_of_failed)
        ServerPc.noConfusion failed.2

theorem ended_of_uncreated (uncreated : forall who, Uncreated schedule who) :
    Exists fun n => (stateAt schedule n).Ended := by
  rcases uncreated .client with ⟨first, client, clientFails⟩
  rcases uncreated .server with ⟨second, server, serverFails⟩
  have clientFailed : (stateAt schedule (first + 1)).client = .failed := by
    rcases clientFails.sendFails.moves with ⟨next, moved⟩
    have failed := failed_of_createFails clientFails moved
    rw [client] at failed
    rw [stateAt, Fairness.trace_of_some moved]
    exact failed
  have serverFailed : (stateAt schedule (second + 1)).server = .failed := by
    rcases serverFails.sendFails.moves with ⟨next, moved⟩
    have failed := failed_of_createFails serverFails moved
    rw [server] at failed
    rw [stateAt, Fairness.trace_of_some moved]
    exact failed
  have clientLater : (stateAt schedule (first + 1 + (second + 1))).client = .failed :=
    Fairness.trace_stays (fun _ _ _ (before : World.client _ = .failed) moved =>
      (step_of_clientEnded (Or.inr before) moved).trans before) clientFailed (second + 1)
  have serverLater : (stateAt schedule (second + 1 + (first + 1))).server = .failed :=
    Fairness.trace_stays (fun _ _ _ (before : World.server _ = .failed) moved =>
      (step_of_serverEnded (Or.inr before) moved).trans before) serverFailed (first + 1)
  rw [Nat.add_comm] at serverLater
  exact ⟨_, Or.inr clientLater, Or.inr serverLater⟩

end Runs

/-- In a fair schedule both programs return in two cases only.  Either everything they send
goes out, the client's announcement apart that nobody waits for: a message, an echo or an
announcement that does not leaves one of them polling for ever.  Or neither can announce its
endpoint, and both return at once.  Fairness is needed because a program that is never
scheduled does not return. -/
theorem ends_iff (schedule : Nat -> Label) (fair : Fairness.Fair Label.party schedule) :
    (Exists fun n => (stateAt schedule n).Ended) ↔
      (forall n, ¬ (stateAt schedule n).SendFails (schedule n)) ∨
        forall who, Uncreated schedule who := by
  constructor
  · rintro ⟨n, ended⟩
    by_cases sent : forall m, ¬ (stateAt schedule m).SendFails (schedule m)
    · exact Or.inl sent
    · rw [not_forall] at sent
      rcases sent with ⟨m, lost⟩
      exact Or.inr (uncreated_of_ended ended (not_not.mp lost))
  · rintro (sent | uncreated)
    · exact World.ranked.reaches .unannounced sent fair
    · exact ended_of_uncreated uncreated

/-- The two programs in turn, and everything goes out. -/
def alternating : Nat -> Label := Fairness.cycle (.client true) [.server true]

theorem alternating_fair : Fairness.Fair Label.party alternating := by
  apply Fairness.cycle_fair
  intro who
  cases who with
  | client => exact ⟨_, List.mem_cons_self, rfl⟩
  | server => exact ⟨_, List.mem_cons_of_mem _ List.mem_cons_self, rfl⟩

theorem alternating_ends : Exists fun n => (stateAt alternating n).Ended := by
  refine (ends_iff alternating alternating_fair).mpr (Or.inl ?_)
  intro n lost
  have turn : alternating n ∈ [Label.client true, .server true] := Fairness.cycle_mem _ _ n
  rw [List.mem_pair] at turn
  rcases turn with mine | theirs
  · rw [mine] at lost
    exact Bool.noConfusion lost.1
  · rw [theirs] at lost
    exact Bool.noConfusion lost.1

end SampleEcho
end OpenAmpReference
