import Mathlib.Data.List.Infix
import OpenAmpReference.RpcServers.RpcDemod

namespace OpenAmpReference
namespace RpcServers
namespace RpcDemod

/-!
# Requests that reach behind their message

The callback checks that a message has a header and copies at most 1024 bytes of it.  The
path to open and the data to write follow the header; how far they go is up to the message,
and nothing compares it with what was received.
-/

variable {Fs : Type}

/-- A call uses nothing but the message: its path with the terminator, or its data, lies
behind the header, and it is not given a negative count. -/
def UsesOnly (message : List UInt8) : SysCall -> Prop
  | .openFile name _ _ => name ++ [0] <+: message.drop headerSize
  | .writeFile _ bytes => bytes <+: message.drop headerSize
  | .writeNegative _ _ => False
  | .closeFile _ | .readFile _ _ => True

/-- The message is rejected, or the call that is issued uses nothing but the message. -/
def Confined (message : List UInt8) (before : Demod Fs) (result : Demod Fs × Exchange) : Prop :=
  (before.errCnt < result.1.errCnt ∧ result.2.call = none) ∨
    forall call, result.2.call = some call -> UsesOnly message call

/-- The callback, when `copy_from_shbuf()` succeeds and when it fails -/
def receive (os : HostOs Fs) (demod : Demod Fs) (residue : Residue) (message : List UInt8)
    (copied : Bool) : Demod Fs × Exchange :=
  if headerSize ≤ message.length ∧ copied = false then (demod, ⟨none, none⟩)
  else rpmsgEndpointCb os demod residue message

/-- What was copied of the message holds the path with its terminator, or all of the data
to write. -/
def Bounded (request : List UInt8) : Prop :=
  match SyscallId.ofNumber (sysId (plain request)) with
  | some .openSyscallId => 0 ∈ request.drop headerSize
  | some .writeSyscallId =>
      0 ≤ (intField2 (plain request)).toInt ∧
        headerSize + (intField2 (plain request)).toNat ≤ request.length
  | some .closeSyscallId | some .readSyscallId | some .termSyscallId | none => True

theorem handleRpc_call (os : HostOs Fs) (demod : Demod Fs) (syscall frame : ByteMemory) :
    (handleRpc os demod syscall frame).exchange.call = callOf readCount syscall := by
  unfold handleRpc callOf
  cases SyscallId.ofNumber (sysId syscall) with
  | none => rfl
  | some id => cases id <;> rfl

section Request

variable {request message : List UInt8} {memory : ByteMemory}

theorem id_received (whole : headerSize ≤ request.length) :
    sysId (memory.writeBytes 0 request) = sysId (plain request) :=
  plain_readInt memory (Nat.le_trans (by decide) whole)

theorem intField2_received (whole : headerSize ≤ request.length) :
    intField2 (memory.writeBytes 0 request) = intField2 (plain request) :=
  plain_readInt memory (Nat.le_trans (by decide) whole)

/-- A bounded request issues a call that uses nothing but what was copied. -/
theorem usesOnly_of_bounded (whole : headerSize ≤ request.length)
    (short : request.length ≤ rpcBuffSize) (bounded : Bounded request) {call : SysCall}
    (issued : callOf readCount (memory.writeBytes 0 request) = some call) :
    UsesOnly request call := by
  rw [callOf, id_received whole] at issued
  rw [Bounded] at bounded
  cases known : SyscallId.ofNumber (sysId (plain request)) with
  | none => simp only [known, reduceCtorEq] at issued
  | some id =>
      simp only [known] at issued bounded
      cases id with
      | openSyscallId =>
          rcases List.eq_append_cons_of_mem bounded with ⟨name, rest, split, noNul⟩
          have length := congrArg List.length split
          rw [List.length_drop, List.length_append, List.length_cons] at length
          have stored : (memory.writeBytes 0 request).readBytes headerSize (name.length + 1) =
              name ++ [0] := by
            rw [ByteMemory.readBytes_written memory (by omega), split,
              List.append_cons name 0 rest]
            exact List.take_left' List.length_append
          have limit : rpcBuffSize < pathMax := by decide
          have path := ByteMemory.cString_eq stored noNul
            (show name.length < pathMax by omega)
          cases issued
          rw [UsesOnly, path, split, List.append_cons name 0 rest]
          exact List.prefix_append _ _
      | writeSyscallId =>
          have nonneg : ¬ (intField2 (plain request)).toInt < 0 := Int.not_lt.mpr bounded.1
          rw [writeCall, intField2_received whole, if_neg nonneg] at issued
          cases issued
          rw [UsesOnly, ByteMemory.readBytes_written memory bounded.2]
          exact List.take_prefix _ _
      | closeSyscallId | readSyscallId =>
          cases issued
          trivial
      | termSyscallId => cases issued

/-- Bytes from behind the request are not those of the message, if the buffer held
something else. -/
theorem not_covered (whole : headerSize ≤ request.length) {count : Nat}
    (different : message[request.length]? ≠ some (memory request.length))
    (beyond : request.length < headerSize + count) :
    ¬ (memory.writeBytes 0 request).readBytes headerSize count <+:
      message.drop headerSize := by
  intro covered
  have inside : request.length - headerSize <
      ((memory.writeBytes 0 request).readBytes headerSize count).length := by
    rw [ByteMemory.readBytes_length]
    omega
  have same := covered.getElem inside
  have place : headerSize + (request.length - headerSize) = request.length :=
    Nat.add_sub_cancel' whole
  simp only [ByteMemory.readBytes, List.getElem_map, List.getElem_range, List.getElem_drop,
    place] at same
  rw [ByteMemory.writeBytes_outside memory request (Or.inr (Nat.le_of_eq (Nat.zero_add _)))] at same
  exact different (List.getElem?_eq_some_iff.mpr ⟨_, same.symm⟩)

/-- A request that uses nothing but its message over such a buffer is bounded. -/
theorem bounded_of_usesOnly (whole : headerSize ≤ request.length)
    (short : request.length ≤ rpcBuffSize)
    (different : message[request.length]? ≠ some (memory request.length))
    (only : forall call, callOf readCount (memory.writeBytes 0 request) = some call ->
      UsesOnly message call) : Bounded request := by
  unfold callOf at only
  rw [id_received whole] at only
  rw [Bounded]
  cases known : SyscallId.ofNumber (sysId (plain request)) with
  | none => trivial
  | some id =>
      simp only [known] at only ⊢
      cases id with
      | openSyscallId =>
          by_contra unterminated
          have noNul : forall i, i < request.length - headerSize ->
              memory.writeBytes 0 request (headerSize + i) ≠ 0 := by
            intro i small nul
            have inside : headerSize + i < request.length := by omega
            rw [plain_inside memory inside, plain_getElem inside] at nul
            refine unterminated (List.mem_iff_getElem.mpr ⟨i, ?_, ?_⟩)
            · rwa [List.length_drop]
            · rw [List.getElem_drop]
              exact nul
          have limit : rpcBuffSize < pathMax := by decide
          have covered := ByteMemory.readBytes_prefix_cString noNul
            (show request.length - headerSize < pathMax by omega)
          exact not_covered whole different (by omega) (covered.trans (only _ rfl))
      | writeSyscallId =>
          have written := only _ rfl
          rw [writeCall, intField2_received whole] at written
          split at written
          · exact written.elim
          · rename_i nonneg
            refine ⟨Int.not_lt.mp nonneg, ?_⟩
            by_contra beyond
            exact not_covered whole different (Nat.lt_of_not_le beyond) written
      | closeSyscallId | readSyscallId | termSyscallId => trivial

end Request

/-! ## Messages -/

theorem UsesOnly.extend {first second : List UInt8} (shorter : first <+: second)
    {call : SysCall} (only : UsesOnly first call) : UsesOnly second call := by
  cases call with
  | openFile name _ _ => exact List.IsPrefix.trans only (shorter.drop headerSize)
  | writeFile _ bytes => exact List.IsPrefix.trans only (shorter.drop headerSize)
  | writeNegative _ _ => exact only
  | closeFile _ | readFile _ _ => trivial

section Messages

variable (os : HostOs Fs) (demod : Demod Fs) {message : List UInt8}

/-- What the callback issues for a message with a header -/
theorem receive_call (residue : Residue) (long : headerSize ≤ message.length) :
    (receive os demod residue message true).2.call =
      callOf readCount (residue.buf.writeBytes 0 (message.take rpcBuffSize)) := by
  rw [receive, if_neg (fun failed => nomatch failed.2), rpmsgEndpointCb,
    if_neg (Nat.not_lt.mpr long)]
  exact handleRpc_call _ _ _ _

theorem take_whole (long : headerSize ≤ message.length) :
    headerSize ≤ (message.take rpcBuffSize).length := by
  rw [List.length_take]
  exact Nat.le_min.mpr ⟨by decide, long⟩

theorem confined_of_bounded (residue : Residue) (copied : Bool)
    (bounded : message.length < headerSize ∨ copied = false ∨
      Bounded (message.take rpcBuffSize)) :
    Confined message demod (receive os demod residue message copied) := by
  by_cases rejected : message.length < headerSize
  · have notLong : ¬ (headerSize ≤ message.length ∧ copied = false) :=
      fun long => absurd rejected (Nat.not_lt.mpr long.1)
    rw [receive, if_neg notLong, rpmsgEndpointCb, if_pos rejected]
    exact Or.inl ⟨Nat.lt_succ_self _, rfl⟩
  · have long := Nat.le_of_not_lt rejected
    cases copied with
    | false =>
        rw [receive, if_pos ⟨long, rfl⟩]
        refine Or.inr fun call issued => ?_
        cases issued
    | true =>
        refine Or.inr fun call issued => ?_
        rw [receive_call os demod residue long] at issued
        have request := (bounded.resolve_left rejected).resolve_left (by decide)
        exact (usesOnly_of_bounded (take_whole long) (List.length_take_le _ _) request
          issued).extend (List.take_prefix _ _)

/-- A buffer that holds something other than the message where the copy ends -/
def otherwise (message : List UInt8) : Residue where
  buf := fun _ => message.getD rpcBuffSize 0 + 1
  frame := fun _ => 0

theorem otherwise_different :
    message[(message.take rpcBuffSize).length]? ≠
      some ((otherwise message).buf (message.take rpcBuffSize).length) := by
  intro same
  rcases List.getElem?_eq_some_iff.mp same with ⟨inside, value⟩
  have end_ : (message.take rpcBuffSize).length = rpcBuffSize := by
    rw [List.length_take] at inside ⊢
    omega
  simp only [end_] at value inside
  have changed : message[rpcBuffSize] = message[rpcBuffSize] + 1 :=
    value.trans (by rw [List.getElem_eq_getD 0]; rfl)
  exact absurd ((UInt8.add_right_inj _).mp (changed.symm.trans (UInt8.add_zero _).symm)) (by decide)

theorem bounded_of_confined (copied : Bool)
    (confined : Confined message demod (receive os demod (otherwise message) message copied)) :
    message.length < headerSize ∨ copied = false ∨ Bounded (message.take rpcBuffSize) := by
  by_cases rejected : message.length < headerSize
  · exact Or.inl rejected
  · have long := Nat.le_of_not_lt rejected
    cases copied with
    | false => exact Or.inr (Or.inl rfl)
    | true =>
        refine Or.inr (Or.inr ?_)
        refine bounded_of_usesOnly (take_whole long) (List.length_take_le _ _)
          (@otherwise_different message) fun call issued => ?_
        rw [← receive_call os demod (otherwise message) long] at issued
        rcases confined with ⟨_, none⟩ | only
        · exact nomatch none.symm.trans issued
        · exact only call issued

/-- A message of any length and contents is confined, whatever the stack held, exactly if it is
too short, cannot be copied, or is bounded by what is copied of it. The first two are the tests
that the callback makes; the length that the message itself states is the one that it does not
test. -/
theorem confined_iff_bounded (message : List UInt8) (copied : Bool) :
    (forall residue, Confined message demod (receive os demod residue message copied)) ↔
      message.length < headerSize ∨ copied = false ∨ Bounded (message.take rpcBuffSize) :=
  ⟨fun confined => bounded_of_confined os demod copied (confined _),
    fun bounded residue => confined_of_bounded os demod residue copied bounded⟩

/-- A request to open that ends with its header -/
def namelessOpen : List UInt8 := [1, 0, 0, 0] ++ List.replicate 12 0

/-- A request to write minus one bytes -/
def negativeWrite : List UInt8 :=
  [3, 0, 0, 0] ++ List.replicate 4 0 ++ List.replicate 4 255 ++ List.replicate 4 0

theorem not_confined :
    ¬ (forall residue, Confined namelessOpen (initial [])
        (receive HostOs.queue (initial []) residue namelessOpen true)) ∧
      ¬ (forall residue, Confined negativeWrite (initial [])
        (receive HostOs.queue (initial []) residue negativeWrite true)) := by
  refine ⟨?_, ?_⟩
  · intro confined
    rcases bounded_of_confined HostOs.queue (initial []) true (confined _) with
      short | failed | bounded
    · exact absurd short (by decide)
    · exact nomatch failed
    · have nul : 0 ∈ (namelessOpen.take rpcBuffSize).drop headerSize := bounded
      exact absurd nul (by decide)
  · intro confined
    rcases bounded_of_confined HostOs.queue (initial []) true (confined _) with
      short | failed | bounded
    · exact absurd short (by decide)
    · exact nomatch failed
    · exact absurd bounded.1 (by decide)

end Messages

end RpcDemod
end RpcServers
end OpenAmpReference
