import OpenAmpReference.LinuxRpc.Simulation

namespace OpenAmpReference
namespace LinuxRpc

/-!
# The buffers of a remote read

A requested length goes to the server, and a count comes back.  The server bounds what it
stores by the requested length, or not at all; the callback copies the whole buffer of the
response, whatever the count; `app()` puts a terminator after the last byte.  Which calls
respect the caller's buffer depends on the length, the data and the error of the read.
-/

variable {Fs : Type}

namespace Call

/-- `rpmsg_read()` and `rpmsg_input()` -/
def Reads : Call -> Prop
  | .rpmsgRead _ _ _ | .rpmsgInput _ _ => True
  | .rpmsgOpen _ _ _ | .rpmsgWrite _ _ _ | .rpmsgClose _ => False

def buflen : Call -> BitVec 32
  | .rpmsgRead _ _ buflen | .rpmsgInput _ buflen => buflen
  | .rpmsgOpen _ _ _ | .rpmsgWrite _ _ _ | .rpmsgClose _ => 0

end Call

/-- The buffer of the caller -/
def Client.buffer (client : Client) : FuncId -> ByteMemory
  | .inputId => client.inputReqBuffer
  | .openId | .closeId | .writeId | .readId => client.readReqBuffer

/-- The count that `rpmsg_handle_read()` passes to `read()` -/
def readCount (fd buflen : BitVec 32) : Nat :=
  if fd = 0 then maxStringLen else buflen.toNat

namespace ServerOs

/-- What `read()` answers to the handler -/
def readAnswer (os : ServerOs Fs) (fs : Fs) (fd buflen : BitVec 32) : Answer :=
  (os.perform fs (.readFile fd (readCount fd buflen))).2

/-- How many bytes the server stores in the buffer of its response, those of a word with
its terminator -/
def stored (os : ServerOs Fs) (fs : Fs) (id : FuncId) (request : ByteMemory) : Nat :=
  match id with
  | .readId => (os.readAnswer fs (request.readInt 0) (request.readInt 4)).data.length
  | .inputId => (os.scanf fs).2.length + 1
  | .openId | .closeId | .writeId => 0

end ServerOs

/-- What the two stacks and the two receive buffers hold besides -/
structure Surroundings where
  clientStack : ByteMemory
  requestResidue : ByteMemory
  serverStack : ByteMemory
  responseResidue : ByteMemory

namespace Surroundings

def request (around : Surroundings) (call : Call) : ByteMemory :=
  call.received around.clientStack around.requestResidue

/-- The client when the call returns: its send has failed, or it has got its response. -/
def after (around : Surroundings) (os : ServerOs Fs) (fs : Fs) (client : Client) (call : Call)
    (sent : Bool) : Client :=
  let started := client.start call around.clientStack
  if sent then
    match (os.demod.handle fs call.id (around.request call) around.serverStack).2 with
    | none => started
    | some (status, payload) =>
        started.callback (Response.delivery
          { ticket := 0, id := call.id, status := status, payload := payload }
          around.responseResidue)
  else started

end Surroundings

/-- `sizeof(rbuff)` -/
def sizeofRbuff : BitVec 32 := 300

/-- The server stores no more than fits; the count is not above the requested length; no
byte from the count on is changed; and `rbuff[bytes_read]` lies inside `rbuff`. -/
structure Respects (os : ServerOs Fs) (fs : Fs) (client : Client) (call : Call) (sent : Bool)
    (around : Surroundings) : Prop where
  stored : sent = true -> os.stored fs call.id (around.request call) ≤ maxStringLen
  returned : (around.after os fs client call sent).bytesRead.toInt ≤ call.buflen.toInt
  kept : forall place : Nat, (around.after os fs client call sent).bytesRead.toInt ≤ place ->
    (around.after os fs client call sent).buffer call.id place =
      (client.start call around.clientStack).buffer call.id place
  terminated : call.id = FuncId.readId -> call.buflen = sizeofRbuff ->
    0 ≤ (around.after os fs client call sent).bytesRead.toInt ∧
      (around.after os fs client call sent).bytesRead.toInt < sizeofRbuff.toInt

/-- A failed send needs a length that is not negative.  A read may fail, if `app()` is not
the caller, or find nothing, or fill the whole buffer of the response for a caller who has
asked for more; a word has to fit that buffer, and the caller's has to be as large. -/
def Fits (os : ServerOs Fs) (fs : Fs) (call : Call) (sent : Bool) : Prop :=
  match call, sent with
  | .rpmsgRead fd _ buflen, true =>
      ((os.readAnswer fs fd buflen).value = -1 ∧ -1 ≤ buflen.toInt ∧ buflen ≠ sizeofRbuff) ∨
        ((os.readAnswer fs fd buflen).value = 0 ∧ 0 ≤ buflen.toInt) ∨
        ((os.readAnswer fs fd buflen).data.length = maxStringLen ∧ maxStringLen < buflen.toInt)
  | .rpmsgInput _ buflen, true =>
      (os.scanf fs).2.length < maxStringLen ∧ maxStringLen ≤ buflen.toInt
  | call, _ => 0 ≤ call.buflen.toInt

/-! ## What the callback leaves -/

section Delivered

variable (stack residue : ByteMemory) (data : List UInt8) (value : BitVec 32)

theorem count_delivered :
    (residue.writeBytes 0 (bufPayload stack data value)).readInt 0 = value := by
  rw [bufPayload, ByteMemory.readInt_carried _ _ _ (by decide), ByteMemory.readInt_writeInt_same]

/-- Behind the data the response carries what the server's stack held. -/
theorem rest_delivered {place : Nat} (beyond : data.length ≤ place)
    (inside : place < maxStringLen) :
    residue.writeBytes 0 (bufPayload stack data value) (4 + place) = stack (4 + place) := by
  have small : place < 300 := inside
  rw [bufPayload, ByteMemory.carried _ _ _ (by omega),
    ByteMemory.writeInt_of_disjoint _ _ (by omega), ByteMemory.writeBytes_outside _ _ (by omega)]

end Delivered

theorem copyBuf_inside {buffer delivered : ByteMemory} {place : Nat}
    (positive : 0 < (delivered.readInt 0).toInt) (inside : place < maxStringLen) :
    Client.copyBuf buffer delivered place = delivered (4 + place) := by
  have within : place < (delivered.readBytes 4 maxStringLen).length := by
    rwa [ByteMemory.readBytes_length]
  have copied := buffer.writeBytes_inside 0 _ place within
  rw [Nat.zero_add] at copied
  rw [Client.copyBuf, if_pos positive, copied]
  simp only [ByteMemory.readBytes, List.getElem_map, List.getElem_range]

theorem copyBuf_outside {buffer delivered : ByteMemory} {place : Nat}
    (outside : maxStringLen ≤ place) : Client.copyBuf buffer delivered place = buffer place := by
  unfold Client.copyBuf
  split
  · refine ByteMemory.writeBytes_outside _ _ (Or.inr ?_)
    rwa [ByteMemory.readBytes_length, Nat.zero_add]
  · rfl

/-- The callback keeps the bytes from the count on, if there is no count or it is that of
the whole buffer. -/
theorem copyBuf_kept {buffer delivered : ByteMemory} {place : Nat}
    (whole : (delivered.readInt 0).toInt ≤ 0 ∨ (delivered.readInt 0).toInt = maxStringLen)
    (beyond : (delivered.readInt 0).toInt ≤ place) :
    Client.copyBuf buffer delivered place = buffer place := by
  rcases whole with none | all
  · rw [Client.copyBuf, if_neg (Int.not_lt.mpr none)]
  · refine copyBuf_outside ?_
    rw [all] at beyond
    exact Int.ofNat_le.mp beyond

section After

variable (os : ServerOs Fs) (fs : Fs) (client : Client) (around : Surroundings)

theorem after_read (fd buflen : BitVec 32) (buffer : Option ByteMemory) :
    (around.after os fs client (.rpmsgRead fd buffer buflen) true).bytesRead =
        (os.readAnswer fs fd buflen).int ∧
      (around.after os fs client (.rpmsgRead fd buffer buflen) true).buffer .readId =
        Client.copyBuf (buffer.getD client.readReqBuffer)
          (around.responseResidue.writeBytes 0 (bufPayload around.serverStack
            (os.readAnswer fs fd buflen).data (os.readAnswer fs fd buflen).int)) := by
  rcases read_received around.clientStack around.requestResidue fd buffer buflen with
    ⟨fdRead, buflenRead⟩
  have value := count_delivered around.serverStack around.responseResidue
    (os.readAnswer fs fd buflen).data (os.readAnswer fs fd buflen).int
  simp only [ServerOs.readAnswer, readCount] at value ⊢
  simp only [Surroundings.after, if_true, ServerOs.demod, Call.id, Surroundings.request,
    ServerOs.rpmsgHandleRead, fdRead, buflenRead, Client.callback, Response.delivery,
    Client.start, rpmsgRpcOk, ne_eq, not_true_eq_false, if_false, value, Client.buffer, and_self]

theorem after_input (buflen : BitVec 32) (buffer : Option ByteMemory) :
    (around.after os fs client (.rpmsgInput buffer buflen) true).bytesRead =
        BitVec.ofNat 32 maxStringLen ∧
      (around.after os fs client (.rpmsgInput buffer buflen) true).buffer .inputId =
        Client.copyBuf (buffer.getD client.inputReqBuffer)
          (around.responseResidue.writeBytes 0 (bufPayload around.serverStack
            ((os.scanf fs).2 ++ [0]) (BitVec.ofNat 32 maxStringLen))) := by
  have value := count_delivered around.serverStack around.responseResidue
    ((os.scanf fs).2 ++ [0]) (BitVec.ofNat 32 maxStringLen)
  simp only [Surroundings.after, if_true, ServerOs.demod, Call.id, ServerOs.rpmsgHandleInput,
    Client.callback, Response.delivery, Client.start, rpmsgRpcOk, ne_eq, not_true_eq_false,
    if_false, value, Client.buffer, and_self]

/-! ## A read -/

theorem readAnswer_cases (fd buflen : BitVec 32) :
    ((os.readAnswer fs fd buflen).value = -1 ∧ (os.readAnswer fs fd buflen).data = []) ∨
      ((os.readAnswer fs fd buflen).value =
          BitVec.ofNat 64 (os.readAnswer fs fd buflen).data.length ∧
        (os.readAnswer fs fd buflen).data.length < 2 ^ 32) := by
  refine (os.read_answer fs fd (readCount fd buflen)).imp_right fun counted => ⟨counted.1, ?_⟩
  refine Nat.lt_of_le_of_lt counted.2 ?_
  unfold readCount
  split
  · decide
  · exact buflen.isLt

/-- The count as the client gets it -/
theorem int_of_counted {answer : Answer}
    (counted : answer.value = BitVec.ofNat 64 answer.data.length)
    (fits : answer.data.length ≤ maxStringLen) : answer.int.toInt = answer.data.length := by
  have small : answer.data.length ≤ 300 := fits
  rw [Answer.int_toInt (show answer.data.length < 2 ^ 31 by omega) (Or.inr counted), counted]
  exact Answer.toInt_ofNat (by omega)

theorem toNat_of_counted {answer : Answer}
    (counted : answer.value = BitVec.ofNat 64 answer.data.length)
    (small : answer.data.length < 2 ^ 32) : answer.value.toNat = answer.data.length := by
  rw [counted, BitVec.toNat_ofNat, Nat.mod_eq_of_lt (by omega)]

theorem stored_read (fd buflen : BitVec 32) (buffer : Option ByteMemory) :
    os.stored fs .readId (around.request (.rpmsgRead fd buffer buflen)) =
      (os.readAnswer fs fd buflen).data.length := by
  rcases read_received around.clientStack around.requestResidue fd buffer buflen with
    ⟨fdRead, buflenRead⟩
  rw [ServerOs.stored, Surroundings.request, fdRead, buflenRead]

/-- Nothing of the buffer is changed beyond a count of the kind that `copyBuf_kept` asks for. -/
theorem read_kept {fd buflen : BitVec 32} {buffer : Option ByteMemory}
    (whole : (os.readAnswer fs fd buflen).int.toInt ≤ 0 ∨
      (os.readAnswer fs fd buflen).int.toInt = maxStringLen) (place : Nat)
    (beyond : (around.after os fs client (.rpmsgRead fd buffer buflen) true).bytesRead.toInt ≤
      place) :
    (around.after os fs client (.rpmsgRead fd buffer buflen) true).buffer .readId place =
      (buffer.getD client.readReqBuffer) place := by
  rcases after_read os fs client around fd buflen buffer with ⟨count, copied⟩
  have delivered := count_delivered around.serverStack around.responseResidue
    (os.readAnswer fs fd buflen).data (os.readAnswer fs fd buflen).int
  rw [count] at beyond
  rw [copied]
  exact copyBuf_kept (by rwa [delivered]) (by rwa [delivered])

theorem respects_read {fd buflen : BitVec 32} {buffer : Option ByteMemory}
    (fits : Fits os fs (.rpmsgRead fd buffer buflen) true) :
    Respects os fs client (.rpmsgRead fd buffer buflen) true around := by
  have count := (after_read os fs client around fd buflen buffer).1
  have stored := stored_read os fs around fd buflen buffer
  have bound : sizeofRbuff.toInt = 300 := by decide
  have limit : maxStringLen = 300 := rfl
  rcases readAnswer_cases os fs fd buflen with ⟨failed, none⟩ | ⟨counted, small⟩
  · have negative : (os.readAnswer fs fd buflen).int.toInt = -1 := by
      rw [Answer.int, failed]
      decide
    have allowed : -1 ≤ buflen.toInt ∧ buflen ≠ sizeofRbuff := by
      rcases fits with ⟨_, allowed⟩ | ⟨zero, _⟩ | ⟨full, _⟩
      · exact allowed
      · exact absurd (failed.symm.trans zero) (by decide)
      · rw [none] at full
        exact absurd full (by decide)
    exact {
      stored := fun _ => by
        rw [Call.id, stored, none]
        exact Nat.zero_le _
      returned := by
        rw [count, negative]
        exact allowed.1
      kept := read_kept os fs client around (Or.inl (by rw [negative]; decide))
      terminated := fun _ requested => absurd requested allowed.2 }
  · have value := toNat_of_counted counted small
    have cases : (os.readAnswer fs fd buflen).data.length = 0 ∧ 0 ≤ buflen.toInt ∨
        (os.readAnswer fs fd buflen).data.length = maxStringLen ∧ maxStringLen < buflen.toInt := by
      rcases fits with ⟨failed, _⟩ | ⟨zero, nonneg⟩ | full
      · rw [failed] at value
        have huge : (-1 : BitVec 64).toNat = 2 ^ 64 - 1 := by decide
        omega
      · rw [zero] at value
        exact Or.inl ⟨value.symm, nonneg⟩
      · exact Or.inr full
    have length := int_of_counted counted (by omega)
    exact {
      stored := fun _ => by
        rw [Call.id, stored]
        omega
      returned := by
        rw [count, length]
        show (_ : Int) ≤ buflen.toInt
        omega
      kept := read_kept os fs client around (by omega)
      terminated := fun _ requested => by
        have length300 : buflen.toInt = 300 := by
          rw [show buflen = sizeofRbuff from requested, bound]
        rw [count, length]
        omega }

/-- With stacks that differ from the caller's buffer where they can, only the calls that fit
respect it. -/
theorem fits_of_respects_read {fd buflen : BitVec 32} {contents : ByteMemory}
    (respects : forall around,
      Respects os fs client (.rpmsgRead fd (some contents) buflen) true around) :
    Fits os fs (.rpmsgRead fd (some contents) buflen) true := by
  let around : Surroundings := {
    clientStack := contents
    requestResidue := contents
    serverStack := fun place => contents (place - 4) + 1
    responseResidue := contents }
  have respected := respects around
  rcases after_read os fs client around fd buflen (some contents) with ⟨count, copied⟩
  have stored := respected.stored rfl
  rw [Call.id, stored_read] at stored
  have returned : (os.readAnswer fs fd buflen).int.toInt ≤ buflen.toInt := by
    have returned := respected.returned
    rwa [count] at returned
  have terminated : buflen = sizeofRbuff -> 0 ≤ (os.readAnswer fs fd buflen).int.toInt ∧
      (os.readAnswer fs fd buflen).int.toInt < 300 := by
    intro requested
    have terminated := respected.terminated rfl requested
    rwa [count] at terminated
  have limit : maxStringLen = 300 := rfl
  rcases readAnswer_cases os fs fd buflen with ⟨failed, none⟩ | ⟨counted, small⟩
  · have negative : (os.readAnswer fs fd buflen).int.toInt = -1 := by
      rw [Answer.int, failed]
      decide
    rw [negative] at returned terminated
    exact Or.inl ⟨failed, returned, fun requested => absurd (terminated requested).1 (by decide)⟩
  · have length := int_of_counted counted stored
    rw [length] at returned terminated
    by_cases empty : (os.readAnswer fs fd buflen).data.length = 0
    · refine Or.inr (Or.inl ⟨?_, by omega⟩)
      rw [counted, empty]
      rfl
    · by_cases full : (os.readAnswer fs fd buflen).data.length = maxStringLen
      · refine Or.inr (Or.inr ⟨full, ?_⟩)
        have other : buflen.toInt ≠ 300 := by
          intro requested
          have same : buflen = sizeofRbuff := BitVec.eq_of_toInt_eq requested
          have inside := (terminated same).2
          omega
        omega
      · -- the first byte behind the data comes from the stack of the server
        have kept := respected.kept (os.readAnswer fs fd buflen).data.length
          (by rw [count, length])
        have delivered := count_delivered around.serverStack around.responseResidue
          (os.readAnswer fs fd buflen).data (os.readAnswer fs fd buflen).int
        rw [Call.id, copied, copyBuf_inside (by rw [delivered, length]; omega) (by omega),
          rest_delivered _ _ _ _ (Nat.le_refl _) (by omega)] at kept
        have changed : contents (4 + (os.readAnswer fs fd buflen).data.length - 4) + 1 =
            contents (os.readAnswer fs fd buflen).data.length := kept
        rw [Nat.add_sub_cancel_left] at changed
        have added := (UInt8.add_right_inj _).mp (changed.trans (UInt8.add_zero _).symm)
        exact absurd added (by decide)

/-! ## An input -/

/-- The count of an input is always that of the whole buffer. -/
theorem respects_input_iff {buflen : BitVec 32} {buffer : Option ByteMemory} :
    Respects os fs client (.rpmsgInput buffer buflen) true around ↔
      Fits os fs (.rpmsgInput buffer buflen) true := by
  rcases after_input os fs client around buflen buffer with ⟨count, copied⟩
  have delivered := count_delivered around.serverStack around.responseResidue
    ((os.scanf fs).2 ++ [0]) (BitVec.ofNat 32 maxStringLen)
  have full : (BitVec.ofNat 32 maxStringLen).toInt = maxStringLen := by decide
  constructor
  · intro respects
    have returned := respects.returned
    rw [count, full] at returned
    exact ⟨respects.stored rfl, returned⟩
  · rintro ⟨short, large⟩
    exact {
      stored := fun _ => short
      returned := by
        rw [count, full]
        exact large
      kept := by
        intro place beyond
        rw [count] at beyond
        rw [Call.id, copied]
        exact copyBuf_kept (Or.inr (by rw [delivered, full])) (by rwa [delivered])
      terminated := nofun }

/-! ## A failed send -/

theorem respects_unsent_iff {call : Call} (reads : call.Reads) :
    Respects os fs client call false around ↔ 0 ≤ call.buflen.toInt := by
  have zero : (around.after os fs client call false).bytesRead = 0 := by
    cases call with
    | rpmsgRead _ _ _ | rpmsgInput _ _ => rfl
    | rpmsgOpen _ _ _ | rpmsgWrite _ _ _ | rpmsgClose _ => exact reads.elim
  constructor
  · intro respects
    have returned := respects.returned
    rwa [zero] at returned
  · intro nonneg
    exact {
      stored := nofun
      returned := by rwa [zero]
      kept := fun _ _ => rfl
      terminated := fun _ _ => by
        rw [zero]
        decide }

end After

/-! ## Every call -/

/-- An accepted read or input respects the caller's buffer, whatever the stacks and the receive
buffers hold, exactly if it fits. The surroundings are quantified because the server sends its
whole structure and the client copies the whole field: what is not written there comes from the
stacks. A rejected call makes no request. -/
theorem respects_iff_fits (os : ServerOs Fs) (fs : Fs) (client : Client) {call : Call} (sent : Bool)
    (reads : call.Reads) (accepted : ¬ call.Rejected) :
    (forall around, Respects os fs client call sent around) ↔ Fits os fs call sent := by
  have somewhere : Surroundings := {
    clientStack := fun _ => 0
    requestResidue := fun _ => 0
    serverStack := fun _ => 0
    responseResidue := fun _ => 0 }
  cases sent with
  | false =>
      have fits : Fits os fs call false ↔ 0 ≤ call.buflen.toInt := by
        cases call <;> exact Iff.rfl
      rw [fits]
      constructor
      · exact fun respects => (respects_unsent_iff os fs client somewhere reads).mp (respects _)
      · exact fun nonneg around => (respects_unsent_iff os fs client around reads).mpr nonneg
  | true =>
      cases call with
      | rpmsgRead fd buffer buflen =>
          cases buffer with
          | none => exact absurd (Or.inl rfl) accepted
          | some contents =>
              exact ⟨fits_of_respects_read os fs client,
                fun fits around => respects_read os fs client around fits⟩
      | rpmsgInput buffer buflen =>
          constructor
          · exact fun respects => (respects_input_iff os fs client somewhere).mp (respects _)
          · exact fun fits around => (respects_input_iff os fs client around).mpr fits
      | rpmsgOpen _ _ _ | rpmsgWrite _ _ _ | rpmsgClose _ => exact reads.elim

/-- Files as a queue, and a word on the standard input -/
def typed (word : List UInt8) : ServerOs (List UInt8) where
  toFileSystem := FileSystem.queue
  scanf contents := (contents, word)

/-- A word for a buffer of 300 bytes -/
theorem input_respects :
    Fits (typed [104, 105]) [] (.rpmsgInput (some fun _ => 0) 300) true ∧
      forall around, Respects (typed [104, 105]) [] Client.initial
        (.rpmsgInput (some fun _ => 0) 300) true around := by
  have reads : (Call.rpmsgInput (some fun _ => 0) 300).Reads := trivial
  have fits : Fits (typed [104, 105]) [] (.rpmsgInput (some fun _ => 0) 300) true :=
    ⟨by decide, by decide⟩
  exact ⟨fits,
    (respects_iff_fits (typed [104, 105]) [] Client.initial true reads (by decide)).mpr fits⟩

/-- A short file leaves more in the caller's buffer than its bytes, and an input into a
buffer of 50 bytes returns 300. -/
theorem not_respects :
    ¬ (forall around, Respects (typed []) [7] Client.initial
        (.rpmsgRead 3 (some fun _ => 0) 300) true around) ∧
      ¬ (forall around, Respects (typed [104, 105]) [] Client.initial
        (.rpmsgInput (some fun _ => 0) 50) true around) := by
  refine ⟨?_, ?_⟩
  · intro respects
    rcases fits_of_respects_read _ _ _ respects with ⟨failed, _⟩ | ⟨zero, _⟩ | ⟨full, _⟩
    · exact absurd failed (by decide)
    · exact absurd zero (by decide)
    · exact absurd full (by decide)
  · intro respects
    let around : Surroundings :=
      ⟨fun _ => 0, fun _ => 0, fun _ => 0, fun _ => 0⟩
    have fits := (respects_input_iff _ _ _ around).mp (respects around)
    exact absurd fits.2 (by decide)

end LinuxRpc
end OpenAmpReference
