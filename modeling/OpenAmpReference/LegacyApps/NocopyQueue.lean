import OpenAmpReference.Library.Fifo
import OpenAmpReference.LegacyApps.NocopyEcho

namespace OpenAmpReference
namespace NocopyEcho

open LinkedHeap Transition

/-!
# The queue of the echo servers

At every moment the messages that have been echoed, followed by those in
`rpmsg_list`, are the accepted ones, and the same holds of the buffers that were
released and are held, and of the nodes that were freed and are listed.  The
first node is ahead of this while the loop works on it.  It stays ahead when a
probe of the transmit buffers fails, as the loop is then left before the node is
dequeued, so the invariant lasts until that node is sent again.
-/

/-- How many listed nodes have been sent. -/
def Pc.sent : Pc -> Nat
  | release => 1
  | getTx => 1
  | releaseTx => 1
  | dequeue => 1
  | _ => 0

/-- How many listed nodes no longer hold their buffer. -/
def Pc.released : Pc -> Nat
  | getTx => 1
  | releaseTx => 1
  | dequeue => 1
  | _ => 0

theorem Pc.released_le_sent (pc : Pc) : pc.released ≤ pc.sent := by
  cases pc <;> simp only [Pc.released, Pc.sent, Nat.le_refl, Nat.zero_le]

namespace World

/-- The count of sent nodes, with the node that a failed probe has left behind. -/
def sent (world : World) : Nat :=
  if world.probeFailed then 1 else world.pc.sent

/-- The count of released nodes, with the node that a failed probe has left behind. -/
def released (world : World) : Nat :=
  if world.probeFailed then 1 else world.pc.released

theorem released_le_sent (world : World) : world.released ≤ world.sent := by
  rw [released, sent]
  split
  · exact Nat.le_refl 1
  · exact world.pc.released_le_sent

/-- The invariant, with the nodes of `rpmsg_list`. -/
structure QueueOf (world : World) (nodes : List (Nat × RcvMsg)) : Prop where
  noFault : world.pc ≠ Pc.fault
  chain : Chain world.heap world.rpmsgList nodes
  live : forall address, address ∈ world.heap ↔ address ∈ addresses nodes
  freed : world.allocations = world.frees ++ addresses nodes
  ahead : world.sent ≤ nodes.length
  echoes : world.accepted = world.echoed ++
    (nodes.drop world.sent).map fun node => messageOf world.buffers node.2
  releasing : world.holds = world.releases ++ (nodes.drop world.released).map Prod.snd
  holding : world.held = (nodes.drop world.released).map fun node => node.2.data
  once : world.held.Nodup
  numbered : world.accepted.map Message.ticket = List.range world.accepted.length
  holdsNumbered : world.holds.map RcvMsg.ticket = List.range world.accepted.length
  sending : forall message, world.pc = Pc.send message -> nodes.head?.map Prod.snd = some message
  stuck : world.probeFailed = true -> world.pc.sent = 0
  sentFirst : world.sent = 1 -> forall node, nodes.head? = some node ->
    node.2.ticket ∈ world.echoed.map Message.ticket

theorem queueOf_initial (buffers : Nat -> ByteMemory) (i : Nat) (lost : Option Nat) :
    QueueOf (initial buffers i lost) [] where
  noFault := nofun
  chain := Chain.nil
  live := fun _ => by rfl
  freed := rfl
  ahead := Nat.le_refl 0
  echoes := rfl
  releasing := rfl
  holding := rfl
  once := List.nodup_nil
  numbered := rfl
  holdsNumbered := rfl
  sending := nofun
  stuck := nofun
  sentFirst := nofun

namespace QueueOf

variable {world : World} {nodes : List (Nat × RcvMsg)}

/-! ## The buffers -/

theorem messageOf_update (buffers : Nat -> ByteMemory) {data : Nat} (written : ByteMemory)
    {message : RcvMsg} (other : message.data ≠ data) :
    messageOf (Function.update buffers data written) message = messageOf buffers message := by
  simp only [messageOf, Function.update_of_ne other]

/-- The buffer of a message that has not been sent is held. -/
theorem unsent_held (queue : QueueOf world nodes) {node : Nat × RcvMsg}
    (unsent : node ∈ nodes.drop world.sent) : node.2.data ∈ world.held := by
  rw [queue.holding]
  have unreleased := (List.drop_sublist_drop_left nodes world.released_le_sent).subset unsent
  exact List.mem_map_of_mem unreleased

theorem aheadReleased (queue : QueueOf world nodes) : world.released ≤ nodes.length :=
  Nat.le_trans world.released_le_sent queue.ahead

/-- A node that has been sent and not dequeued is the first one. -/
theorem head_of_sent (queue : QueueOf world nodes) (one : world.sent = 1) :
    Exists fun first => nodes.head? = some first := by
  cases split : nodes with
  | nil =>
      have ahead := queue.ahead
      rw [one, split] at ahead
      exact absurd ahead (by decide)
  | cons first rest => exact ⟨first, rfl⟩

/-- Writing a buffer that is not held changes no message that is still to be sent. -/
theorem write (queue : QueueOf world nodes) {data : Nat} (free : data ∉ world.held)
    (written : ByteMemory) :
    QueueOf { world with buffers := Function.update world.buffers data written } nodes where
  noFault := queue.noFault
  chain := queue.chain
  live := queue.live
  freed := queue.freed
  ahead := queue.ahead
  echoes := by
    refine queue.echoes.trans (congrArg (world.echoed ++ ·) (List.map_congr_left ?_))
    intro node unsent
    refine (messageOf_update world.buffers written ?_).symm
    intro same
    exact free (same ▸ queue.unsent_held unsent)
  releasing := queue.releasing
  holding := queue.holding
  once := queue.once
  numbered := queue.numbered
  holdsNumbered := queue.holdsNumbered
  sending := queue.sending
  stuck := queue.stuck
  sentFirst := queue.sentFirst

/-! ## The callbacks -/

/-- The server may go where the first node is as far as it has been. -/
theorem goto (queue : QueueOf world nodes) {pc : Pc} {probeFailed shutdownReq : Bool} {i : Nat}
    (next : World)
    (moved : next = { world with
      pc := pc, probeFailed := probeFailed, shutdownReq := shutdownReq, i := i })
    (noFault : pc ≠ Pc.fault) (sent : next.sent = world.sent)
    (released : next.released = world.released)
    (sending : forall message, pc = Pc.send message -> nodes.head?.map Prod.snd = some message)
    (stuck : probeFailed = true -> pc.sent = 0) : QueueOf next nodes := by
  subst moved
  exact {
    noFault := noFault
    chain := queue.chain
    live := queue.live
    freed := queue.freed
    ahead := sent ▸ queue.ahead
    echoes := sent ▸ queue.echoes
    releasing := released ▸ queue.releasing
    holding := released ▸ queue.holding
    once := queue.once
    numbered := queue.numbered
    holdsNumbered := queue.holdsNumbered
    sending := sending
    stuck := stuck
    sentFirst := sent ▸ queue.sentFirst }

theorem shutdown (queue : QueueOf world nodes) :
    QueueOf { world with shutdownReq := true } nodes :=
  queue.goto _ rfl queue.noFault rfl rfl queue.sending queue.stuck

/-- A node that is put behind the others is not among those that are ahead. -/
theorem map_drop_concat {alpha beta : Type*} (f : alpha -> beta) {items : List alpha}
    {count : Nat} (within : count ≤ items.length) (last : alpha) :
    ((items ++ [last]).drop count).map f = (items.drop count).map f ++ [f last] := by
  rw [List.drop_append_of_le_length within, List.map_append, List.map_singleton]

theorem head?_concat_of_mem {alpha : Type*} {items : List alpha} {first : alpha}
    (present : items.head? = some first) (last : alpha) :
    (items ++ [last]).head? = some first := by
  rw [List.head?_append, present, Option.some_or]

/-- An accepted message is the last one of the list. -/
theorem accept (queue : QueueOf world nodes) {heap : Heap RcvMsg} {list : Option Nat}
    {address : Nat} {message : RcvMsg} (chain : Chain heap list (nodes ++ [(address, message)]))
    (live : forall place, place ∈ heap ↔ place = address ∨ place ∈ world.heap)
    (free : message.data ∉ world.held) (number : message.ticket = world.accepted.length) :
    QueueOf { world with
      heap := heap
      rpmsgList := list
      held := world.held ++ [message.data]
      accepted := world.accepted ++ [messageOf world.buffers message]
      holds := world.holds ++ [message]
      allocations := world.allocations ++ [address] } (nodes ++ [(address, message)]) where
  noFault := queue.noFault
  chain := chain
  live := by
    intro place
    rw [live place, queue.live place, addresses_append, List.mem_append, addresses_cons,
      addresses_nil, List.mem_singleton, or_comm]
  freed := by
    rw [queue.freed, addresses_append, List.append_assoc]
    rfl
  ahead := by
    rw [List.length_append]
    exact Nat.le_trans queue.ahead (Nat.le_add_right _ _)
  echoes := by
    have grown := map_drop_concat (fun node : Nat × RcvMsg => messageOf world.buffers node.2)
      queue.ahead (address, message)
    refine (congrArg (· ++ _) queue.echoes).trans ?_
    rw [List.append_assoc]
    exact congrArg (world.echoed ++ ·) grown.symm
  releasing := by
    have grown := map_drop_concat Prod.snd queue.aheadReleased (address, message)
    refine (congrArg (· ++ _) queue.releasing).trans ?_
    rw [List.append_assoc]
    exact congrArg (world.releases ++ ·) grown.symm
  holding := by
    have grown := map_drop_concat (fun node : Nat × RcvMsg => node.2.data) queue.aheadReleased
      (address, message)
    exact (congrArg (· ++ _) queue.holding).trans grown.symm
  once := List.nodup_append.mpr ⟨queue.once, List.nodup_singleton message.data, by
    intro buffer held other last same
    exact free (List.mem_singleton.mp last ▸ same ▸ held)⟩
  numbered := by
    rw [List.map_append, queue.numbered, List.length_append, List.length_singleton,
      List.range_succ, List.map_singleton, ← number]
    rfl
  holdsNumbered := by
    rw [List.map_append, queue.holdsNumbered, List.length_append, List.length_singleton,
      List.range_succ, List.map_singleton, number]
  sending := by
    intro sent atSend
    have first := queue.sending sent atSend
    rcases Option.map_eq_some_iff.mp first with ⟨node, present, same⟩
    rw [head?_concat_of_mem present, Option.map_some, same]
  stuck := queue.stuck
  sentFirst := by
    intro one node present
    rcases queue.head_of_sent one with ⟨first, was⟩
    rw [head?_concat_of_mem was] at present
    exact Option.some.inj present ▸ queue.sentFirst one first was

theorem callback (queue : QueueOf world nodes) {data : Nat} (free : data ∉ world.held)
    (len : Nat) {node : Option Nat} (fresh : Fresh world.heap node) :
    Exists fun later => QueueOf (world.rpmsgEndpointCb data len node) later := by
  unfold rpmsgEndpointCb
  split
  · exact ⟨nodes, queue.shutdown⟩
  · cases node with
    | none => exact ⟨nodes, queue⟩
    | some address =>
        rcases queue.chain.append_spec (fresh address rfl)
          { data := data, len := len, ticket := world.accepted.length } with
          ⟨result, appended, chain, live⟩
        simp only [appended]
        exact ⟨_, queue.accept chain live free rfl⟩

/-- The library writes only buffers that are not held, and then calls the callback. -/
theorem deliver (queue : QueueOf world nodes) {data : Nat} (free : data ∉ world.held)
    (payload : List UInt8) {node : Option Nat} (fresh : Fresh world.heap node) :
    Exists fun later => QueueOf (world.deliver data payload node) later :=
  (queue.write free _).callback free payload.length fresh

/-! ## The loop -/

/-- The server may go to a place where as many nodes are ahead. -/
theorem move (queue : QueueOf world nodes) (pc : Pc) (noFault : pc ≠ Pc.fault)
    (sent : pc.sent = world.pc.sent) (released : pc.released = world.pc.released)
    (sending : forall message, pc = Pc.send message -> nodes.head?.map Prod.snd = some message) :
    QueueOf { world with pc := pc } nodes := by
  refine queue.goto _ rfl noFault ?_ ?_ sending fun failed => sent.trans (queue.stuck failed)
  · simp only [World.sent, sent]
  · simp only [World.released, released]

theorem polled (queue : QueueOf world nodes) (atPoll : world.pc = Pc.poll) :
    QueueOf world.polled nodes := by
  unfold World.polled
  split
  · exact queue.move Pc.returned nofun (by rw [atPoll]; rfl) (by rw [atPoll]; rfl) nofun
  · exact queue.move Pc.drain nofun (by rw [atPoll]; rfl) (by rw [atPoll]; rfl) nofun

/-- The message that is sent is the first one of the list. -/
theorem drain (queue : QueueOf world nodes) (atDrain : world.pc = Pc.drain) :
    QueueOf world.drain nodes := by
  have chain := queue.chain
  cases nodes with
  | nil =>
      have done : world.drain = { world with pc := Pc.poll } := by
        simp only [World.drain, chain.head_of_nil]
      rw [done]
      exact queue.move Pc.poll nofun (by rw [atDrain]; rfl) (by rw [atDrain]; rfl) nofun
  | cons node rest =>
      have head := chain.head_eq
      rw [head] at chain
      rcases chain.lookup_head with ⟨_, next, here, _⟩
      have done : world.drain = { world with pc := Pc.send node.2 } := by
        simp only [World.drain, head, here]
      rw [done]
      refine queue.move (Pc.send node.2) nofun (by rw [atDrain]; rfl) (by rw [atDrain]; rfl) ?_
      intro message same
      exact congrArg some (Pc.send.inj same)

/-- An echo of the first node. -/
theorem sendSucceeded (queue : QueueOf world nodes) {message : RcvMsg}
    (atSend : world.pc = Pc.send message) (fit : world.probeFailed = false) :
    QueueOf (world.sendReturned message true) nodes := by
  rcases Option.map_eq_some_iff.mp (queue.sending message atSend) with ⟨node, present, same⟩
  cases nodes with
  | nil => cases present
  | cons first rest =>
      cases present
      have notSent : world.sent = 0 := by
        simp only [World.sent, fit, atSend, Pc.sent, Bool.false_eq_true, if_false]
      have notReleased : world.released = 0 := by
        simp only [World.released, fit, atSend, Pc.released, Bool.false_eq_true, if_false]
      have nowSent : (world.sendReturned message true).sent = 1 := by
        simp only [World.sendReturned, World.sent, fit, Pc.sent, Bool.false_eq_true, if_false,
          if_true]
      have nowReleased : (world.sendReturned message true).released = 0 := by
        simp only [World.sendReturned, World.released, fit, Pc.released, Bool.false_eq_true,
          if_false, if_true]
      exact {
        noFault := nofun
        chain := queue.chain
        live := queue.live
        freed := queue.freed
        ahead := by
          rw [nowSent, List.length_cons]
          exact Nat.succ_le_succ (Nat.zero_le _)
        echoes := by
          have echoes := queue.echoes
          rw [notSent, List.drop_zero, List.map_cons, same, List.append_cons] at echoes
          rw [nowSent]
          exact echoes
        releasing := nowReleased ▸ notReleased ▸ queue.releasing
        holding := nowReleased ▸ notReleased ▸ queue.holding
        once := queue.once
        numbered := queue.numbered
        holdsNumbered := queue.holdsNumbered
        sending := nofun
        stuck := fun failed => nomatch fit.symm.trans failed
        sentFirst := by
          intro _ other present
          cases present
          have last := List.mem_append_right world.echoed
            (List.mem_singleton_self (messageOf world.buffers message))
          exact List.mem_map.mpr ⟨_, last, congrArg RcvMsg.ticket same.symm⟩ }

theorem sendFailed (queue : QueueOf world nodes) {message : RcvMsg}
    (atSend : world.pc = Pc.send message) : QueueOf (world.sendReturned message false) nodes :=
  queue.move Pc.returned nofun (by rw [atSend]; rfl) (by rw [atSend]; rfl) nofun

/-- The loop works on a first node that is listed. -/
theorem working (queue : QueueOf world nodes) (works : world.pc.sent = 1) :
    world.probeFailed = false ∧ Exists fun node => Exists fun rest => nodes = node :: rest := by
  have fit : world.probeFailed = false := by
    cases failed : world.probeFailed with
    | false => rfl
    | true => exact nomatch works.symm.trans (queue.stuck failed)
  have one : world.sent = 1 := by
    rw [World.sent, fit]
    exact works
  rcases queue.head_of_sent one with ⟨node, present⟩
  rcases List.head?_eq_some_iff.mp present with ⟨rest, split⟩
  exact ⟨fit, node, rest, split⟩

/-- The buffer of the first node is released. -/
theorem releaseFirst {node : Nat × RcvMsg} {rest : List (Nat × RcvMsg)}
    (queue : QueueOf world (node :: rest)) (atRelease : world.pc = Pc.release)
    (fit : world.probeFailed = false) (pc : Pc) (next : pc = Pc.getTx ∨ pc = Pc.dequeue)
    (i : Nat) : QueueOf { world with
      held := world.held.erase node.2.data
      releases := world.releases ++ [node.2]
      i := i
      pc := pc } (node :: rest) := by
  have counts : pc.sent = 1 ∧ pc.released = 1 ∧ pc ≠ Pc.fault ∧
      forall message, pc ≠ Pc.send message := by
    rcases next with rfl | rfl <;> exact ⟨rfl, rfl, nofun, nofun⟩
  have wasSent : world.sent = 1 := by
    simp only [World.sent, fit, atRelease, Pc.sent, Bool.false_eq_true, if_false]
  have notReleased : world.released = 0 := by
    simp only [World.released, fit, atRelease, Pc.released, Bool.false_eq_true, if_false]
  have isSent : World.sent { world with
      held := world.held.erase node.2.data
      releases := world.releases ++ [node.2]
      i := i
      pc := pc } = 1 := by
    simp only [World.sent, fit, counts.1, Bool.false_eq_true, if_false]
  have isReleased : World.released { world with
      held := world.held.erase node.2.data
      releases := world.releases ++ [node.2]
      i := i
      pc := pc } = 1 := by
    simp only [World.released, fit, counts.2.1, Bool.false_eq_true, if_false]
  exact {
    noFault := counts.2.2.1
    chain := queue.chain
    live := queue.live
    freed := queue.freed
    ahead := isSent ▸ wasSent ▸ queue.ahead
    echoes := isSent ▸ wasSent ▸ queue.echoes
    releasing := by
      have releasing := queue.releasing
      rw [notReleased, List.drop_zero, List.map_cons, List.append_cons] at releasing
      rw [isReleased]
      exact releasing
    holding := by
      have holding := queue.holding
      rw [notReleased, List.drop_zero, List.map_cons] at holding
      rw [isReleased, holding, List.erase_cons_head]
      rfl
    once := queue.once.erase _
    numbered := queue.numbered
    holdsNumbered := queue.holdsNumbered
    sending := fun message atSend => absurd atSend (counts.2.2.2 message)
    stuck := fun failed => nomatch fit.symm.trans failed
    sentFirst := fun _ => queue.sentFirst wasSent }

theorem releaseRx (queue : QueueOf world nodes) (atRelease : world.pc = Pc.release)
    (probes : Nat -> Bool) : QueueOf (World.releaseRx probes world) nodes := by
  rcases queue.working (by rw [atRelease]; rfl) with ⟨fit, node, rest, rfl⟩
  have chain := queue.chain
  have head := chain.head_eq
  rw [head] at chain
  rcases chain.lookup_head with ⟨_, next, here, _⟩
  simp only [World.releaseRx, head, Option.bind_some, here]
  refine head ▸ queue.releaseFirst atRelease fit _ ?_ _
  split
  · exact Or.inl rfl
  · exact Or.inr rfl

/-- A failed probe leaves the first node in the list. -/
theorem leaveDrain (queue : QueueOf world nodes) (sent : world.sent = 1)
    (released : world.released = 1) : QueueOf world.leaveDrain nodes := by
  refine queue.goto _ rfl nofun ?_ ?_ nofun fun _ => rfl
  · rw [sent]
    rfl
  · rw [released]
    rfl

theorem gotTx (queue : QueueOf world nodes) (atGetTx : world.pc = Pc.getTx)
    (buffer : Option Nat) : QueueOf (world.gotTx buffer) nodes := by
  rcases queue.working (by rw [atGetTx]; rfl) with ⟨fit, _⟩
  unfold World.gotTx
  split
  · refine queue.leaveDrain ?_ ?_
    · simp only [World.sent, fit, atGetTx, Pc.sent, Bool.false_eq_true, if_false]
    · simp only [World.released, fit, atGetTx, Pc.released, Bool.false_eq_true, if_false]
  · exact queue.move Pc.releaseTx nofun (by rw [atGetTx]; rfl) (by rw [atGetTx]; rfl) nofun

theorem releasedTx (queue : QueueOf world nodes) (atReleaseTx : world.pc = Pc.releaseTx)
    (ok : Bool) : QueueOf (world.releasedTx ok) nodes := by
  rcases queue.working (by rw [atReleaseTx]; rfl) with ⟨fit, _⟩
  unfold World.releasedTx
  split
  · exact queue.move Pc.dequeue nofun (by rw [atReleaseTx]; rfl) (by rw [atReleaseTx]; rfl) nofun
  · refine queue.leaveDrain ?_ ?_
    · simp only [World.sent, fit, atReleaseTx, Pc.sent, Bool.false_eq_true, if_false]
    · simp only [World.released, fit, atReleaseTx, Pc.released, Bool.false_eq_true, if_false]

/-- The first node is freed, and the others stay in order. -/
theorem dequeueNode (queue : QueueOf world nodes) (atDequeue : world.pc = Pc.dequeue) :
    QueueOf world.dequeueNode nodes.tail := by
  rcases queue.working (by rw [atDequeue]; rfl) with ⟨fit, node, rest, rfl⟩
  rcases queue.chain.dequeue_spec with ⟨result, dequeued, chain, live⟩
  have wasSent : world.sent = 1 := by
    simp only [World.sent, fit, atDequeue, Pc.sent, Bool.false_eq_true, if_false]
  have wasReleased : world.released = 1 := by
    simp only [World.released, fit, atDequeue, Pc.released, Bool.false_eq_true, if_false]
  have done : world.dequeueNode = { world with
      heap := result.1
      rpmsgList := result.2
      frees := world.frees ++ [node.1]
      pc := Pc.drain } := by
    rw [queue.chain.head_eq] at dequeued
    simp only [World.dequeueNode, queue.chain.head_eq, dequeued, Option.toList_some]
  have notSent : world.dequeueNode.sent = 0 := by
    simp only [done, World.sent, fit, Pc.sent, Bool.false_eq_true, if_false]
  have notReleased : world.dequeueNode.released = 0 := by
    simp only [done, World.released, fit, Pc.released, Bool.false_eq_true, if_false]
  rw [done] at notSent notReleased ⊢
  exact {
    noFault := nofun
    chain := chain
    live := by
      intro place
      have distinct := (List.nodup_cons.mp queue.chain.nodup).1
      rw [live place, queue.live place, addresses_cons, List.mem_cons]
      constructor
      · rintro ⟨other, same | later⟩
        · exact absurd same other
        · exact later
      · intro later
        exact ⟨fun same => distinct (same ▸ later), Or.inr later⟩
    freed := by
      rw [queue.freed, addresses_cons, List.append_cons]
      rfl
    ahead := notSent ▸ Nat.zero_le _
    echoes := by
      have echoes := queue.echoes
      rw [wasSent] at echoes
      rw [notSent]
      exact echoes
    releasing := by
      have releasing := queue.releasing
      rw [wasReleased] at releasing
      rw [notReleased]
      exact releasing
    holding := by
      have holding := queue.holding
      rw [wasReleased] at holding
      rw [notReleased]
      exact holding
    once := queue.once
    numbered := queue.numbered
    holdsNumbered := queue.holdsNumbered
    sending := nofun
    stuck := fun failed => nomatch fit.symm.trans failed
    sentFirst := fun one => nomatch notSent.symm.trans one }

end QueueOf

/-- The list is in order. -/
def Queued (world : World) : Prop :=
  Exists fun nodes => QueueOf world nodes

/-- No message is sent once a probe has failed. -/
def SendsFit (world : World) (event : Event) : Prop :=
  event = Event.sendReturns true -> world.probeFailed = false

instance sendsFitDecidable (world : World) (event : Event) : Decidable (SendsFit world event) :=
  inferInstanceAs (Decidable (event = Event.sendReturns true -> world.probeFailed = false))

section Steps

variable {probes : Nat -> Bool} {world next : World} {nodes : List (Nat × RcvMsg)}

/-- A call returns only where it was made. -/
theorem step_sendReturns {ok : Bool}
    (moved : step probes world (Event.sendReturns ok) = some next) :
    Exists fun message => world.pc = Pc.send message ∧ next = world.sendReturned message ok := by
  cases place : world.pc with
  | send message =>
      simp only [step, place, Option.some.injEq] at moved
      exact ⟨message, rfl, moved.symm⟩
  | poll | drain | release | getTx | releaseTx | dequeue | returned | fault =>
      simp only [step, place, reduceCtorEq] at moved

theorem step_unbind (moved : step probes world Event.unbind = some next) :
    next = world.rpmsgServiceUnbind := by
  rw [step, Option.ite_none_right_eq_some] at moved
  exact (Option.some.inj moved.2).symm

theorem step_pollReturns (moved : step probes world Event.pollReturns = some next) :
    world.pc = Pc.poll ∧ next = world.polled := by
  cases place : world.pc with
  | poll =>
      simp only [step, place, Option.some.injEq] at moved
      exact ⟨rfl, moved.symm⟩
  | drain | send | release | getTx | releaseTx | dequeue | returned | fault =>
      simp only [step, place, reduceCtorEq] at moved

theorem step_txBuffer {buffer : Option Nat}
    (moved : step probes world (Event.txBuffer buffer) = some next) :
    world.pc = Pc.getTx ∧ next = world.gotTx buffer := by
  cases place : world.pc with
  | getTx =>
      simp only [step, place, Option.some.injEq] at moved
      exact ⟨rfl, moved.symm⟩
  | poll | drain | send | release | releaseTx | dequeue | returned | fault =>
      simp only [step, place, reduceCtorEq] at moved

theorem step_txReleased {ok : Bool}
    (moved : step probes world (Event.txReleased ok) = some next) :
    world.pc = Pc.releaseTx ∧ next = world.releasedTx ok := by
  cases place : world.pc with
  | releaseTx =>
      simp only [step, place, Option.some.injEq] at moved
      exact ⟨rfl, moved.symm⟩
  | poll | drain | send | release | getTx | dequeue | returned | fault =>
      simp only [step, place, reduceCtorEq] at moved

theorem Queued.step (queued : Queued world) {event : Event} (fit : SendsFit world event)
    (moved : step probes world event = some next) : Queued next := by
  rcases queued with ⟨nodes, queue⟩
  cases event with
  | advance =>
      rcases step_advance moved with ⟨place, rfl⟩ | ⟨place, rfl⟩ | ⟨place, rfl⟩
      · exact ⟨nodes, queue.drain place⟩
      · exact ⟨nodes, queue.releaseRx place probes⟩
      · exact ⟨nodes.tail, queue.dequeueNode place⟩
  | deliver data payload node =>
      rw [NocopyEcho.step, Option.ite_none_right_eq_some] at moved
      rcases moved with ⟨⟨_, free, fresh⟩, same⟩
      cases same
      exact queue.deliver free payload fresh
  | unbind =>
      exact ⟨nodes, step_unbind moved ▸ queue.shutdown⟩
  | pollReturns =>
      rcases step_pollReturns moved with ⟨place, rfl⟩
      exact ⟨nodes, queue.polled place⟩
  | sendReturns ok =>
      rcases step_sendReturns moved with ⟨message, place, rfl⟩
      cases ok with
      | false => exact ⟨nodes, queue.sendFailed place⟩
      | true => exact ⟨nodes, queue.sendSucceeded place (fit rfl)⟩
  | txBuffer buffer =>
      rcases step_txBuffer moved with ⟨place, rfl⟩
      exact ⟨nodes, queue.gotTx place buffer⟩
  | txReleased ok =>
      rcases step_txReleased moved with ⟨place, rfl⟩
      exact ⟨nodes, queue.releasedTx place ok⟩

end Steps

/-! ## The server without probes -/

/-- No probe is made. -/
def Plain (world : World) : Prop :=
  world.probeFailed = false ∧ world.pc ≠ Pc.getTx ∧ world.pc ≠ Pc.releaseTx

/-- The messages that were echoed and those in the list are the accepted ones, in
order, and accepted is what is delivered: each message that finds a node and does not
ask for the shutdown, as it was delivered, and nothing else.  A buffer is held while its
node is listed and not yet released, and every node that was allocated is listed or has
been freed. -/
structure InOrder (world : World) (nodes : List (Nat × RcvMsg)) : Prop where
  noFault : world.pc ≠ Pc.fault
  listed : Chain world.heap world.rpmsgList nodes
  echoes : world.accepted = world.echoed ++
    (nodes.drop world.pc.sent).map fun node => messageOf world.buffers node.2
  echoedOnce : (world.echoed.map Message.ticket).Nodup
  holding : world.held = (nodes.drop world.pc.released).map fun node => node.2.data
  heldOnce : world.held.Nodup
  releasing : world.holds = world.releases ++ (nodes.drop world.pc.released).map Prod.snd
  releasedOnce : (world.releases.map RcvMsg.ticket).Nodup
  live : forall address, address ∈ world.heap ↔ address ∈ addresses nodes
  freed : world.allocations = world.frees ++ addresses nodes
  accepts : forall data payload address, address ∉ world.heap ->
    ((world.buffers data).writeBytes 0 payload).readWord 0 ≠ shutdownMsg ->
      (world.deliver data payload (some address)).accepted =
        world.accepted ++ [{ ticket := world.accepted.length, bytes := payload }]
  keeps : forall event next, nocopyEcho world event = some next ->
    (forall data payload node, event ≠ .deliver data payload node) ->
      next.accepted = world.accepted

/-- No message has been sent and no buffer has been released twice. -/
def Once (world : World) : Prop :=
  (world.echoed.map Message.ticket).Nodup ∧ (world.releases.map RcvMsg.ticket).Nodup

theorem QueueOf.once_of {world : World} {nodes : List (Nat × RcvMsg)}
    (queue : QueueOf world nodes) : Once world := by
  have accepted := queue.numbered ▸ List.nodup_range
  have holds := queue.holdsNumbered ▸ List.nodup_range
  rw [queue.echoes, List.map_append] at accepted
  rw [queue.releasing, List.map_append] at holds
  exact ⟨accepted.of_append_left, holds.of_append_left⟩

/-- What is accepted is what was delivered. -/
theorem QueueOf.deliver_accepted {world : World} {nodes : List (Nat × RcvMsg)}
    (queue : QueueOf world nodes) (data : Nat) (payload : List UInt8) {address : Nat}
    (fresh : address ∉ world.heap)
    (data_ne : ((world.buffers data).writeBytes 0 payload).readWord 0 ≠ shutdownMsg) :
    (world.deliver data payload (some address)).accepted =
      world.accepted ++ [{ ticket := world.accepted.length, bytes := payload }] := by
  rcases queue.chain.append_spec fresh
    { data := data, len := payload.length, ticket := world.accepted.length } with
    ⟨result, appended, _⟩
  simp only [World.deliver, rpmsgEndpointCb, Function.update_self, if_neg data_ne, appended,
    messageOf, ByteMemory.readBytes_writeBytes_same]

/-- Only a delivery adds to what is accepted. -/
theorem accepted_of_step {probes : Nat -> Bool} {world next : World} {event : Event}
    (moved : step probes world event = some next)
    (other : forall data payload node, event ≠ .deliver data payload node) :
    next.accepted = world.accepted := by
  cases event with
  | advance =>
      rcases step_advance moved with ⟨_, rfl⟩ | ⟨_, rfl⟩ | ⟨_, rfl⟩
      · unfold drain
        split
        · rfl
        · split <;> rfl
      · unfold releaseRx
        split <;> rfl
      · unfold dequeueNode
        split <;> rfl
  | deliver data payload node => exact absurd rfl (other data payload node)
  | unbind => rw [step_unbind moved, rpmsgServiceUnbind]
  | pollReturns => rw [(step_pollReturns moved).2, polled]
  | sendReturns ok =>
      rcases step_sendReturns moved with ⟨message, _, rfl⟩
      cases ok <;> rfl
  | txBuffer buffer =>
      rw [(step_txBuffer moved).2]
      unfold gotTx
      split <;> rfl
  | txReleased ok =>
      rw [(step_txReleased moved).2]
      cases ok <;> rfl

theorem QueueOf.inOrder {world : World} {nodes : List (Nat × RcvMsg)}
    (queue : QueueOf world nodes) (fit : world.probeFailed = false) : InOrder world nodes := by
  have sent : world.sent = world.pc.sent := by
    simp only [World.sent, fit, Bool.false_eq_true, if_false]
  have released : world.released = world.pc.released := by
    simp only [World.released, fit, Bool.false_eq_true, if_false]
  exact {
    noFault := queue.noFault
    listed := queue.chain
    echoes := sent ▸ queue.echoes
    echoedOnce := queue.once_of.1
    holding := released ▸ queue.holding
    heldOnce := queue.once
    releasing := released ▸ queue.releasing
    releasedOnce := queue.once_of.2
    live := queue.live
    freed := queue.freed
    accepts := fun data payload _ fresh plain => queue.deliver_accepted data payload fresh plain
    keeps := fun _ _ moved => accepted_of_step moved }

theorem callback_pc (world : World) (data len : Nat) (node : Option Nat) :
    (world.rpmsgEndpointCb data len node).probeFailed = world.probeFailed ∧
      ((world.rpmsgEndpointCb data len node).pc = world.pc ∨
        (world.rpmsgEndpointCb data len node).pc = Pc.fault) := by
  unfold rpmsgEndpointCb
  split
  · exact ⟨rfl, Or.inl rfl⟩
  · cases node with
    | none => exact ⟨rfl, Or.inl rfl⟩
    | some address =>
        simp only
        split
        · exact ⟨rfl, Or.inr rfl⟩
        · exact ⟨rfl, Or.inl rfl⟩

theorem deliver_pc (world : World) (data : Nat) (payload : List UInt8) (node : Option Nat) :
    (world.deliver data payload node).probeFailed = world.probeFailed ∧
      ((world.deliver data payload node).pc = world.pc ∨
        (world.deliver data payload node).pc = Pc.fault) :=
  callback_pc _ data payload.length node

theorem Plain.goto {world : World} (plain : Plain world) {pc : Pc} (next : World)
    (moved : next.probeFailed = world.probeFailed ∧ next.pc = pc)
    (place : pc ≠ Pc.getTx ∧ pc ≠ Pc.releaseTx) : Plain next :=
  ⟨moved.1.trans plain.1, moved.2 ▸ place.1, moved.2 ▸ place.2⟩

/-- The server of the example never gets to a transmit buffer. -/
theorem Plain.step {world next : World} {event : Event} (plain : Plain world)
    (moved : nocopyEcho world event = some next) : Plain next := by
  cases event with
  | advance =>
      rcases step_advance moved with ⟨_, rfl⟩ | ⟨_, rfl⟩ | ⟨_, rfl⟩
      · unfold drain
        split
        · exact plain.goto _ ⟨rfl, rfl⟩ ⟨Pc.noConfusion, Pc.noConfusion⟩
        · split <;> exact plain.goto _ ⟨rfl, rfl⟩ ⟨Pc.noConfusion, Pc.noConfusion⟩
      · unfold releaseRx
        split <;> exact plain.goto _ ⟨rfl, rfl⟩ ⟨Pc.noConfusion, Pc.noConfusion⟩
      · unfold dequeueNode
        split <;> exact plain.goto _ ⟨rfl, rfl⟩ ⟨Pc.noConfusion, Pc.noConfusion⟩
  | deliver data payload node =>
      rw [nocopyEcho, NocopyEcho.step, Option.ite_none_right_eq_some] at moved
      cases moved.2
      have stays := deliver_pc world data payload node
      rcases stays.2 with same | fault
      · exact plain.goto _ ⟨stays.1, same⟩ plain.2
      · exact plain.goto _ ⟨stays.1, fault⟩ ⟨Pc.noConfusion, Pc.noConfusion⟩
  | unbind =>
      rw [step_unbind moved]
      exact plain
  | pollReturns =>
      rw [(step_pollReturns moved).2, polled]
      split <;> exact plain.goto _ ⟨rfl, rfl⟩ ⟨Pc.noConfusion, Pc.noConfusion⟩
  | sendReturns ok =>
      rcases step_sendReturns moved with ⟨message, _, rfl⟩
      unfold sendReturned
      split <;> exact plain.goto _ ⟨rfl, rfl⟩ ⟨Pc.noConfusion, Pc.noConfusion⟩
  | txBuffer buffer => exact absurd (step_txBuffer moved).1 plain.2.1
  | txReleased ok => exact absurd (step_txReleased moved).1 plain.2.2

/-! ## The service they render -/

/-- The callback accepts one message, or none. -/
theorem callback_logs (world : World) (data len : Nat) (node : Option Nat) :
    Fifo.Grows world.accepted world.echoed (world.rpmsgEndpointCb data len node).accepted
      (world.rpmsgEndpointCb data len node).echoed := by
  unfold rpmsgEndpointCb
  split
  · exact Fifo.Grows.stays rfl rfl
  · cases node with
    | none => exact Fifo.Grows.stays rfl rfl
    | some address =>
        simp only
        split
        · exact Fifo.Grows.stays rfl rfl
        · exact Fifo.Grows.takes _ rfl rfl

/-- A step accepts or echoes one message at most. -/
theorem step_logs {probes : Nat -> Bool} {world next : World} {event : Event}
    (moved : step probes world event = some next) :
    Fifo.Grows world.accepted world.echoed next.accepted next.echoed := by
  cases event with
  | advance =>
      rcases step_advance moved with ⟨_, rfl⟩ | ⟨_, rfl⟩ | ⟨_, rfl⟩
      · unfold drain
        split
        · exact Fifo.Grows.stays rfl rfl
        · split <;> exact Fifo.Grows.stays rfl rfl
      · unfold releaseRx
        split <;> exact Fifo.Grows.stays rfl rfl
      · unfold dequeueNode
        split <;> exact Fifo.Grows.stays rfl rfl
  | deliver data payload node =>
      rw [NocopyEcho.step, Option.ite_none_right_eq_some] at moved
      cases moved.2
      let written := (world.buffers data).writeBytes 0 payload
      exact callback_logs { world with buffers := Function.update world.buffers data written }
        data payload.length node
  | unbind =>
      rw [step_unbind moved]
      exact Fifo.Grows.stays rfl rfl
  | pollReturns =>
      rw [(step_pollReturns moved).2]
      exact Fifo.Grows.stays rfl rfl
  | sendReturns ok =>
      rcases step_sendReturns moved with ⟨message, _, rfl⟩
      cases ok with
      | false => exact Fifo.Grows.stays rfl rfl
      | true => exact Fifo.Grows.hands _ rfl rfl
  | txBuffer buffer =>
      rw [(step_txBuffer moved).2]
      unfold gotTx
      split <;> exact Fifo.Grows.stays rfl rfl
  | txReleased ok =>
      rw [(step_txReleased moved).2]
      unfold releasedTx
      split <;> exact Fifo.Grows.stays rfl rfl

theorem Queued.ordered {world : World} (queued : Queued world) :
    world.echoed <+: world.accepted := by
  rcases queued with ⟨nodes, queue⟩
  rw [queue.echoes]
  exact List.prefix_append world.echoed _

/-- As long as no message is sent after a failed probe, both servers are queues. -/
theorem simulates_fifo (probes : Nat -> Bool) :
    Simulates SendsFit (step probes) Fifo.step
      (fun world queue => Queued world ∧ Fifo.Logs accepted echoed world queue) :=
  Fifo.simulates_of_logs Queued accepted echoed
    (fun _ _ _ queued fit moved => queued.step fit moved) (fun _ queued => queued.ordered)
    (fun _ _ _ _ _ moved => step_logs moved)

/-- The accepted messages arrive at a queue that serves the echoed ones. -/
theorem refines_fifo (probes : Nat -> Bool) (buffers : Nat -> ByteMemory) (i : Nat)
    (lost : Option Nat) {schedule : List Event} {world : World}
    (guarded : Guarded SendsFit (step probes) (initial buffers i lost) schedule)
    (reached : run (step probes) (initial buffers i lost) schedule = some world) :
    Exists fun events => Exists fun queue => run Fifo.step Fifo.empty events = some queue ∧
      queue.served = world.echoed ∧ Fifo.arrivals events = world.accepted :=
  Fifo.run_of_simulates (simulates_fifo probes) ⟨[], queueOf_initial buffers i lost⟩
    { served := rfl, arrived := rfl } guarded reached

open Transition

/-- At every point of every run the echo server has its messages, its buffers and its nodes in
order. Deliveries come between any two of its steps and within its calls to the library, the
allocator may fail or return any address that is free, and sends may fail. -/
theorem echoes_in_order (buffers : Nat -> ByteMemory) (schedule : List Event) :
    Always (fun world => Exists fun nodes => InOrder world nodes) nocopyEcho
      (initial buffers 0 none) schedule := by
  refine always_of_invariant (fun world => Queued world ∧ Plain world) ?_ ?_ schedule
    ⟨⟨[], queueOf_initial buffers 0 none⟩, rfl, nofun, nofun⟩
  · rintro world ⟨⟨nodes, queue⟩, plain⟩
    exact ⟨nodes, queue.inOrder plain.1⟩
  · rintro world event next ⟨queued, plain⟩ moved
    exact ⟨queued.step (fun _ => plain.1) moved, plain.step moved⟩

/-! ## The server with probes -/

/-- A message that is sent after a failed probe has been sent before. -/
theorem QueueOf.fit_of_once {world : World} {nodes : List (Nat × RcvMsg)}
    (queue : QueueOf world nodes) {event : Event} {next : World}
    (moved : testNocopyEcho world event = some next) (once : Once next) : SendsFit world event := by
  rintro rfl
  rcases step_sendReturns moved with ⟨message, place, rfl⟩
  by_contra failed
  have sent : world.sent = 1 := by
    rw [Bool.not_eq_false] at failed
    rw [World.sent, failed]
    rfl
  rcases Option.map_eq_some_iff.mp (queue.sending message place) with ⟨node, present, same⟩
  have before := queue.sentFirst sent node present
  have echoed := once.1
  simp only [sendReturned, if_true, List.map_append, List.map_singleton] at echoed
  exact (List.nodup_append.mp echoed).2.2 _ before _ (List.mem_singleton_self _)
    (congrArg RcvMsg.ticket same)

/-- Every message is echoed and every buffer released at most once exactly as long as no message
is sent after a failed probe. A failed probe leaves the loop before the message is taken from the
list, so the next send is that of the same message. Any transmit buffer may be lost, or none. -/
theorem once_iff_sendsFit (buffers : Nat -> ByteMemory) (lost : Option Nat)
    (schedule : List Event) :
    Always Once testNocopyEcho (initial buffers 9 lost) schedule ↔
      Guarded SendsFit testNocopyEcho (initial buffers 9 lost) schedule := by
  refine always_iff_guarded Queued ?_ ?_ ?_ schedule ⟨[], queueOf_initial buffers 9 lost⟩
  · rintro world ⟨nodes, queue⟩
    exact queue.once_of
  · intro world event next queued fit moved
    exact queued.step fit moved
  · rintro world event next ⟨nodes, queue⟩ moved once
    exact queue.fit_of_once moved once

/-- A message that is sent, released and dequeued. -/
def echoOne : List Event :=
  [Event.advance, Event.sendReturns true, Event.advance, Event.advance]

/-- Five messages arrive.  After the fifth one the server asks for a transmit buffer,
gets none, and polls again. -/
def probeFails : List Event :=
  (List.range 5).map (fun n => Event.deliver n [0, 0, 0, 0] (some (n + 1))) ++
    [Event.pollReturns] ++ echoOne ++ echoOne ++ echoOne ++ echoOne ++
    [Event.advance, Event.sendReturns true, Event.advance, Event.txBuffer none] ++
    [Event.pollReturns, Event.advance, Event.sendReturns true, Event.advance]

/-- The fifth message is sent and its buffer released twice. -/
theorem failed_probe_sends_twice :
    (run testNocopyEcho (initial (fun _ _ => 0) 9 none) probeFails).map
        (fun world => (world.echoed.map Message.ticket, world.releases.map RcvMsg.ticket)) =
      some ([0, 1, 2, 3, 4, 4], [0, 1, 2, 3, 4, 4]) ∧
      ¬ Always Once testNocopyEcho (initial (fun _ _ => 0) 9 none) probeFails := by
  have ran : (run testNocopyEcho (initial (fun _ _ => 0) 9 none) probeFails).map
        (fun world => (world.echoed.map Message.ticket, world.releases.map RcvMsg.ticket)) =
      some ([0, 1, 2, 3, 4, 4], [0, 1, 2, 3, 4, 4]) := by decide
  refine ⟨ran, fun always => ?_⟩
  rcases Option.map_eq_some_iff.mp ran with ⟨final, reached, logs⟩
  have sentOnce := (always.last reached).1
  have twice : final.echoed.map Message.ticket = [0, 1, 2, 3, 4, 4] := congrArg Prod.fst logs
  rw [twice] at sentOnce
  exact absurd sentOnce (by decide)

end World
end NocopyEcho
end OpenAmpReference
