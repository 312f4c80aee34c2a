import OpenAmpReference.Zephyr.ResponderInvariant

namespace OpenAmpReference
namespace Zephyr
namespace ReplyContent

/-!
# What a reply of the tty and of the raw service contains

The documentation promises the received message behind a prefix.  The prefix is
printed into a buffer one byte longer than it leaves room for, the message is
copied over its terminator, and the length that is sent counts one byte more
than both: the last byte of a reply is whatever the buffer has held there.  The
buffer is never cleared, so that byte belongs to an earlier message, or to the
stack.
-/

open Responder

variable {service : Service}

/-! ## Replies to a sequence of messages -/

/-- A message for one of the service's endpoints; a buffer of the virtqueue
carries at most 496 bytes. -/
structure Incoming (service : Service) where
  ept : Nat
  data : RxBuffer
  ept_lt : ept < service.maxEpt
  nonempty : 0 < data.bytes.length
  fits : data.bytes.length ≤ 496

/-- What a message has been answered with; `sent` is empty if the transport
refused the reply, and `inside` is false if a write left the buffer. -/
structure Answer where
  ept : Nat
  bytes : List UInt8
  sent : Option (List UInt8)
  inside : Bool
  deriving DecidableEq, Repr

/-- The responder's buffer and the answers so far. -/
structure Thread where
  txBuff : ByteMemory
  answers : List Answer

def started (txBuff : ByteMemory) : Thread where
  txBuff := txBuff
  answers := []

/-- The reply to one message. -/
def answer (accepts : Nat -> Bool) (service : Service) (txBuff : ByteMemory)
    (incoming : Incoming service) : Answer where
  ept := incoming.ept
  bytes := incoming.data.bytes
  sent :=
    if accepts (replyLength service incoming.data.bytes.length) then
      some ((compose service txBuff incoming.ept incoming.data
        incoming.data.bytes.length).readBytes 0 (replyLength service incoming.data.bytes.length))
    else none
  inside := decide (service.dataOffset + 1 ≤ txBuffSize ∧
    service.dataOffset + incoming.data.bytes.length ≤ txBuffSize)

/-- The body of the responder's loop for one recorded message. -/
def serve (accepts : Nat -> Bool) (thread : Thread) (incoming : Incoming service) :
    Option Thread :=
  some {
    txBuff := compose service thread.txBuff incoming.ept incoming.data
      incoming.data.bytes.length
    answers := thread.answers ++ [answer accepts service thread.txBuff incoming] }

/-- The responder's statements of `Responder` on a recorded message are `serve`. -/
theorem sendReply_serves (accepts : Nat -> Bool) (responder : Responder)
    (incoming : Incoming service) (answers : List Answer)
    (recorded : (responder.ept incoming.ept).slot.data = some incoming.data)
    (counted : (responder.ept incoming.ept).slot.len = incoming.data.bytes.length)
    (small : replyLength service incoming.data.bytes.length ≤ txBuffSize) :
    serve accepts { txBuff := responder.txBuff, answers := answers } incoming = some {
        txBuff := (responder.sendReply accepts service incoming.ept).txBuff
        answers := answers ++ [answer accepts service responder.txBuff incoming] } ∧
      ((responder.sendReply accepts service incoming.ept).ept incoming.ept).sent.map Reply.bytes =
        (responder.ept incoming.ept).sent.map Reply.bytes ++
          (answer accepts service responder.txBuff incoming).sent.toList := by
  have room : ¬ txBuffSize < replyLength service incoming.data.bytes.length :=
    Nat.not_lt.mpr small
  simp only [sendReply, recorded, counted, if_neg room, serve, answer]
  refine ⟨trivial, ?_⟩
  rw [update_ept, List.map_append]
  apply congrArg
  by_cases accepted : accepts (replyLength service incoming.data.bytes.length) = true
  · rw [if_pos accepted, if_pos accepted]
    rfl
  · rw [if_neg accepted, if_neg accepted]
    rfl

/-! ## The promised content -/

def space : UInt8 := 0x20

/-- The prefix a reply should have, of which `snprintf()` has room for the first
`dataOffset` characters. -/
structure Prefix (service : Service) where
  body : Nat -> List UInt8
  label_eq : forall ept, service.label ept = (body ept ++ [space]).take service.dataOffset

namespace Prefix

def text (pre : Prefix service) (ept : Nat) : List UInt8 :=
  pre.body ept ++ [space]

/-- `"TTY %d: "` -/
def tty : Prefix Service.tty where
  body := fun i => asciis (['T', 'T', 'Y', ' '] ++ Nat.toDigits 10 i ++ [':'])
  label_eq := by
    intro i
    change ttyLabel i = _
    simp only [ttyLabel, asciis, List.map_append, List.append_assoc]
    rfl

/-- `"from ept 0x%04x: "` -/
def raw (addr : UInt32) : Prefix (Service.raw addr) where
  body := fun i => asciis (['f', 'r', 'o', 'm', ' ', 'e', 'p', 't', ' ', '0', 'x'] ++
    List.leftpad 4 '0' (Nat.toDigits 16 (if i = 0 then addr else 0x1).toNat) ++ [':'])
  label_eq := by
    intro i
    change rawLabel _ = _
    simp only [rawLabel, asciis, List.map_append, List.append_assoc]
    rfl

/-- A prefix one character too long is cut before its final space. -/
theorem text_eq (pre : Prefix service) {ept : Nat}
    (long : (pre.text ept).length = service.dataOffset + 1) :
    pre.text ept = service.label ept ++ [space] := by
  have body : (pre.body ept).length = service.dataOffset := by
    rw [text, List.length_append, List.length_singleton] at long
    exact Nat.add_right_cancel long
  rw [pre.label_eq, ← body, List.take_left, text]

end Prefix

/-- Every message has been answered with the prefix and the message, and the
reply was built inside the buffer. -/
def Exact (pre : Prefix service) (thread : Thread) : Prop :=
  forall answer, answer ∈ thread.answers ->
    answer.sent = some (pre.text answer.ept ++ answer.bytes) ∧ answer.inside = true

/-! ## When a reply is exact -/

/-- A list is its own shift by one place only if all its entries are equal. -/
theorem shifted_iff (bytes : List UInt8) (first last : UInt8) :
    bytes ++ [last] = first :: bytes ↔
      (forall byte, byte ∈ bytes -> byte = first) ∧ last = first := by
  induction bytes generalizing first with
  | nil => simp only [List.nil_append, List.cons.injEq, and_true, List.not_mem_nil,
      false_implies, implies_true, true_and]
  | cons byte rest inductionHypothesis =>
      rw [List.cons_append, List.cons.injEq, inductionHypothesis, List.forall_mem_cons]
      constructor
      · rintro ⟨rfl, all, rfl⟩
        exact ⟨⟨rfl, all⟩, rfl⟩
      · rintro ⟨⟨rfl, all⟩, rfl⟩
        exact ⟨rfl, all, rfl⟩

/-- The label, the message and one more byte are the prefix and the message only if
the prefix lacks its space, and the message and the byte supply it. -/
theorem reply_iff (pre : Prefix service) (ept : Nat) (bytes : List UInt8) (last : UInt8) :
    service.label ept ++ bytes ++ [last] = pre.text ept ++ bytes ↔
      (pre.text ept).length = service.dataOffset + 1 ∧
        (forall byte, byte ∈ bytes -> byte = space) ∧ last = space := by
  constructor
  · intro same
    have long : (pre.text ept).length = service.dataOffset + 1 := by
      have lengths := congrArg List.length same
      simp only [List.length_append, service.label_length, List.length_singleton] at lengths
      omega
    rw [pre.text_eq long, List.append_assoc, List.append_assoc] at same
    exact ⟨long, (shifted_iff bytes space last).mp (List.append_cancel_left same)⟩
  · rintro ⟨long, shifted⟩
    rw [pre.text_eq long, List.append_assoc, List.append_assoc,
      (shifted_iff bytes space last).mpr shifted, List.singleton_append]

/-- The byte behind the data is the one the buffer held before. -/
theorem compose_behind (txBuff : ByteMemory) (i : Nat) (data : RxBuffer)
    (nonempty : 0 < data.bytes.length) :
    compose service txBuff i data data.bytes.length
        (service.dataOffset + data.bytes.length) =
      txBuff (service.dataOffset + data.bytes.length) := by
  rw [compose, List.take_length,
    ByteMemory.writeBytes_outside _ _ (Or.inr (Nat.le_refl _)),
    ByteMemory.writeBytes_outside _ _ (Or.inr _)]
  rw [Nat.zero_add, List.length_append, service.label_length, List.length_singleton]
  exact Nat.add_le_add_left nonempty _

/-- What has to coincide for the reply to a message to be exact. -/
structure Coincides (accepts : Nat -> Bool) (pre : Prefix service) (thread : Thread)
    (incoming : Incoming service) : Prop where
  cut : (pre.text incoming.ept).length = service.dataOffset + 1
  spaces : forall byte, byte ∈ incoming.data.bytes -> byte = space
  behind : thread.txBuff (service.dataOffset + incoming.data.bytes.length) = space
  accepted : accepts (replyLength service incoming.data.bytes.length) = true
  inside : service.dataOffset + incoming.data.bytes.length ≤ txBuffSize

theorem answer_exact_iff (accepts : Nat -> Bool) (pre : Prefix service) (thread : Thread)
    (incoming : Incoming service) :
    (answer accepts service thread.txBuff incoming).sent =
          some (pre.text incoming.ept ++ incoming.data.bytes) ∧
        (answer accepts service thread.txBuff incoming).inside = true ↔
      Coincides accepts pre thread incoming := by
  have content := reply_iff pre incoming.ept incoming.data.bytes
    (thread.txBuff (service.dataOffset + incoming.data.bytes.length))
  rw [← compose_behind thread.txBuff incoming.ept incoming.data incoming.nonempty,
    ← compose_answers service thread.txBuff incoming.ept incoming.data,
    compose_behind thread.txBuff incoming.ept incoming.data incoming.nonempty] at content
  simp only [answer, Option.ite_none_right_eq_some, Option.some.injEq, decide_eq_true_eq, content]
  constructor
  · rintro ⟨⟨accepted, cut, spaces, behind⟩, _, inside⟩
    exact ⟨cut, spaces, behind, accepted, inside⟩
  · intro coincides
    have label : service.dataOffset + 1 ≤ txBuffSize :=
      Nat.le_trans (Nat.add_le_add_left incoming.nonempty _) coincides.inside
    exact ⟨⟨coincides.accepted, coincides.cut, coincides.spaces, coincides.behind⟩,
      label, coincides.inside⟩

/-- One message keeps the replies exact only if everything coincides. -/
theorem exact_serve_iff {accepts : Nat -> Bool} {pre : Prefix service} {thread next : Thread}
    {incoming : Incoming service} (exact : Exact pre thread)
    (served : serve accepts thread incoming = some next) :
    Exact pre next ↔ Coincides accepts pre thread incoming := by
  rw [← answer_exact_iff, ← Option.some.inj served, Exact, List.forall_mem_append,
    List.forall_mem_singleton]
  exact and_iff_right exact

/-- The same for a whole sequence of messages, under any wording of the condition. -/
theorem exact_iff (accepts : Nat -> Bool) (pre : Prefix service)
    (condition : Thread -> Incoming service -> Prop)
    (same : forall thread incoming,
      condition thread incoming ↔ Coincides accepts pre thread incoming)
    (txBuff : ByteMemory) (messages : List (Incoming service)) :
    Transition.Always (Exact pre) (serve accepts) (started txBuff) messages ↔
      Transition.Guarded condition (serve accepts) (started txBuff) messages := by
  apply Transition.always_iff_guarded (Exact pre)
  · exact fun _ exact => exact
  · intro thread incoming next exact met served
    exact (exact_serve_iff exact served).mpr ((same thread incoming).mp met)
  · intro thread incoming next exact served after
    exact (same thread incoming).mpr ((exact_serve_iff exact served).mp after)
  · exact fun _ member => absurd member List.not_mem_nil

/-! ## The two services -/

/-- The tty prefix fits: its instances have one digit. -/
theorem tty_not_coincides (accepts : Nat -> Bool) (thread : Thread)
    (incoming : Incoming Service.tty) : ¬ Coincides accepts Prefix.tty thread incoming := by
  intro coincides
  have cut := coincides.cut
  have one : (Nat.toDigits 10 incoming.ept).length = 1 := by
    apply Nat.le_antisymm _ Nat.length_toDigits_pos
    exact (Nat.length_toDigits_le_iff (by decide) (by decide)).mpr
      (Nat.lt_trans incoming.ept_lt (by decide))
  simp only [Prefix.text, Prefix.tty, asciis, List.length_append, List.length_map,
    List.length_cons, List.length_nil, one] at cut
  exact absurd cut (by decide)

/-- The tty service writes inside its buffer. -/
theorem tty_inside (accepts : Nat -> Bool) (txBuff : ByteMemory)
    (incoming : Incoming Service.tty) :
    (answer accepts Service.tty txBuff incoming).inside = true :=
  decide_eq_true ⟨by decide,
    Nat.le_trans (Nat.add_le_add_left incoming.fits _) (by decide : 7 + 496 ≤ txBuffSize)⟩

/-- The raw prefix of an address with five hexadecimal digits loses its space. -/
theorem raw_cut_iff (addr : UInt32) (ept : Nat) :
    ((Prefix.raw addr).text ept).length = (Service.raw addr).dataOffset + 1 ↔
      ept = 0 ∧ 0x10000 ≤ addr.toNat ∧ addr.toNat < 0x100000 := by
  have lengths : ((Prefix.raw addr).text ept).length =
      13 + max 4 (Nat.toDigits 16 (if ept = 0 then addr else 0x1).toNat).length := by
    simp only [Prefix.text, Prefix.raw, asciis, List.length_append, List.length_map,
      List.length_cons, List.length_nil, List.length_leftpad]
    omega
  have offset : (Service.raw addr).dataOffset = 17 := rfl
  have atMost := fun digits (positive : 0 < digits) =>
    @Nat.length_toDigits_le_iff 16 (if ept = 0 then addr else 0x1).toNat digits
      (by decide) positive
  have four := atMost 4 (by decide)
  have five := atMost 5 (by decide)
  rw [lengths, offset]
  by_cases first : ept = 0
  · rw [if_pos first] at *
    omega
  · rw [if_neg first] at *
    have one : (0x1 : UInt32).toNat = 1 := rfl
    omega

/-- The raw service leaves its buffer with the longest message. -/
theorem raw_inside_iff (accepts : Nat -> Bool) (txBuff : ByteMemory) (addr : UInt32)
    (incoming : Incoming (Service.raw addr)) :
    (answer accepts (Service.raw addr) txBuff incoming).inside = true ↔
      incoming.data.bytes.length ≠ 496 := by
  have fits := incoming.fits
  have offset : (Service.raw addr).dataOffset = 17 := rfl
  have size : txBuffSize = 512 := rfl
  rw [answer, decide_eq_true_eq, offset, size]
  omega

/-- A message of spaces to the first raw endpoint, whose address has five
hexadecimal digits, when the buffer holds a space behind the data and the transport
accepts the reply. -/
structure Lucky (accepts : Nat -> Bool) (addr : UInt32) (thread : Thread)
    (incoming : Incoming (Service.raw addr)) : Prop where
  first : incoming.ept = 0
  fiveDigits : 0x10000 ≤ addr.toNat ∧ addr.toNat < 0x100000
  spaces : forall byte, byte ∈ incoming.data.bytes -> byte = space
  behind : thread.txBuff (17 + incoming.data.bytes.length) = space
  accepted : accepts (incoming.data.bytes.length + 18) = true
  short : incoming.data.bytes.length ≠ 496

theorem lucky_iff (accepts : Nat -> Bool) (addr : UInt32) (thread : Thread)
    (incoming : Incoming (Service.raw addr)) :
    Lucky accepts addr thread incoming ↔
      Coincides accepts (Prefix.raw addr) thread incoming := by
  have fits := incoming.fits
  constructor
  · intro lucky
    have cut := (raw_cut_iff addr incoming.ept).mpr ⟨lucky.first, lucky.fiveDigits⟩
    have room : 17 + incoming.data.bytes.length ≤ 512 := by
      have short := lucky.short
      omega
    exact ⟨cut, lucky.spaces, lucky.behind, lucky.accepted, room⟩
  · intro coincides
    have cut := (raw_cut_iff addr incoming.ept).mp coincides.cut
    have room : 17 + incoming.data.bytes.length ≤ 512 := coincides.inside
    exact ⟨cut.1, cut.2, coincides.spaces, coincides.behind, coincides.accepted, by omega⟩

/-- No message gets the tty service's exact reply; the raw service's replies are exact only while
every message is a lucky one. The messages are any sequence, accepted or not, and the transmit
buffer is reused: what follows the message in a reply is left there by an earlier one, which is
where luck comes in. -/
theorem replies_exact_iff (accepts : Nat -> Bool) (txBuff : ByteMemory) (addr : UInt32) :
    (forall messages : List (Incoming Service.tty),
      Transition.Always (Exact Prefix.tty) (serve accepts) (started txBuff) messages ↔
        messages = []) ∧
    (forall messages : List (Incoming (Service.raw addr)),
      Transition.Always (Exact (Prefix.raw addr)) (serve accepts) (started txBuff) messages ↔
        Transition.Guarded (Lucky accepts addr) (serve accepts) (started txBuff) messages) := by
  constructor
  · intro messages
    rw [exact_iff accepts Prefix.tty (fun _ _ => False)
      (fun thread incoming => iff_of_false id (tty_not_coincides accepts thread incoming))]
    cases messages with
    | nil => exact iff_of_true trivial rfl
    | cons incoming rest => exact iff_of_false (fun guarded => guarded.1) (List.cons_ne_nil _ _)
  · exact exact_iff accepts (Prefix.raw addr) _ (lucky_iff accepts addr) txBuff

/-- `"AB"` for the first tty instance. -/
def longer : Incoming Service.tty where
  ept := 0
  data := { address := 0, bytes := [0x41, 0x42] }
  ept_lt := by decide
  nonempty := by decide
  fits := by decide

/-- `"C"` for the first tty instance. -/
def shorter : Incoming Service.tty where
  ept := 0
  data := { address := 0, bytes := [0x43] }
  ept_lt := by decide
  nonempty := by decide
  fits := by decide

/-- The second reply reveals the second byte of the first message. -/
theorem shorter_reveals_longer :
    (Transition.run (serve fun _ => true) (started fun _ => 0) [longer, shorter]).map
        (fun thread => thread.answers.map Answer.sent) =
      some [some [0x54, 0x54, 0x59, 0x20, 0x30, 0x3a, 0x20, 0x41, 0x42, 0x00],
        some [0x54, 0x54, 0x59, 0x20, 0x30, 0x3a, 0x20, 0x43, 0x42]] ∧
    ¬ Transition.Always (Exact Prefix.tty) (serve fun _ => true) (started fun _ => 0)
      [longer, shorter] := by
  constructor
  · decide
  · intro always
    have answered := (always.tail rfl).head _ (List.mem_singleton.mpr rfl)
    exact absurd answered.1 (by decide)

end ReplyContent
end Zephyr
end OpenAmpReference
