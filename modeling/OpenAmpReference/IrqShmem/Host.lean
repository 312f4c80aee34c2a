import OpenAmpReference.IrqShmem.Access

namespace OpenAmpReference
namespace IrqShmem

/-!
# The host program

`irq_shmem_echo()` of the host: it clears the shared memory, floods the remote
with `PKGS_TOTAL` timestamped messages, then waits for the echoes, compares
each with the message it sent, and finally sends the shutdown message.

`Host.access` names the next shared access, and `Host.next` is the local
computation after it, given the value the access read.  A block operation
keeps the number of bytes done in the program counter.  Masking interrupts in
`wait_for_notified()` only removes interleavings and is left out.
-/

inductive HostPc where
  | clearPayload (done : Nat)
  | clearHostToRemote (done : Nat)
  | clearRemoteToHost (done : Nat)
  | send (step : SendStep)
  | testAndSet
  | yield
  | readAvail
  | readAddr
  | readHdr (done : Nat)
  | readBody (done : Nat)
  | writeUsed
  | readTx (done : Nat)
  | compare
  | shutdown (step : SendStep)
  | done
  | failed
  deriving DecidableEq, Repr

/-- The local variables of `irq_shmem_echo()`. -/
structure Host where
  pc : HostPc
  i : Nat
  txAddrOffset : Nat
  rxAddrOffset : Nat
  txDataOffset : Nat
  rxDataOffset : Nat
  rxAvail : Nat
  txbuf : List UInt8
  rxbuf : List UInt8
  deriving DecidableEq, Repr

/-- The first two words of a message buffer: `msg_hdr->index`, `msg_hdr->len`. -/
def msgIndex (buffer : List UInt8) : Nat :=
  ByteMemory.wordOfBytes (buffer.getD 0 0) (buffer.getD 1 0) (buffer.getD 2 0) (buffer.getD 3 0)

def msgLen (buffer : List UInt8) : Nat :=
  ByteMemory.wordOfBytes (buffer.getD 4 0) (buffer.getD 5 0) (buffer.getD 6 0) (buffer.getD 7 0)

/-- The eight bytes of an `unsigned long long`. -/
def timestampBytes (timestamp : UInt64) : List UInt8 :=
  ByteMemory.bytesOfWord timestamp.toNat ++ ByteMemory.bytesOfWord (timestamp.toNat / 2 ^ 32)

/-- A message: index, length and body. -/
def message (index : Nat) (body : List UInt8) : List UInt8 :=
  ByteMemory.bytesOfWord index ++ ByteMemory.bytesOfWord body.length ++ body

namespace Host

/-- The host as it enters `irq_shmem_echo()`, about to clear the payload. -/
def initial : Host where
  pc := .clearPayload 0
  i := 0
  txAddrOffset := 0
  rxAddrOffset := 0
  txDataOffset := 0
  rxDataOffset := 0
  rxAvail := 0
  txbuf := []
  rxbuf := []

/-! ## Control flow between accesses -/

/-- `while (i != PKGS_TOTAL)`: wait for the remote, or start the shutdown
message. -/
def verifyLoop (config : Config) (host : Host) : Host :=
  if host.i ≠ config.pkgsTotal then { host with pc := .testAndSet }
  else { host with txbuf := message host.i shutdownBytes, pc := .shutdown (.writeMsg 0) }

/-- `while (i != rx_avail)`: take the next echo, or leave the inner loop. -/
def drainLoop (config : Config) (host : Host) : Host :=
  if host.i ≠ host.rxAvail then { host with pc := .readAddr } else host.verifyLoop config

/-- `for (...; i < PKGS_TOTAL; ...)`: build the next message, or turn to the
echoes. -/
def sendLoop (config : Config) (timestamps : Nat -> UInt64) (host : Host) : Host :=
  if host.i < config.pkgsTotal then
    { host with
      txbuf := message host.i (timestampBytes (timestamps host.i))
      pc := .send (.writeMsg 0) }
  else
    { host with i := 0, txDataOffset := config.hostHToRPayloadStart }.verifyLoop config

/-- Set the offsets after clearing, and enter the send loop. -/
def startSending (config : Config) (timestamps : Nat -> UInt64) (host : Host) : Host :=
  { host with
    i := 0
    txAddrOffset := config.hostHToRDescAddrStart
    rxAddrOffset := config.hostRToHDescAddrStart
    txDataOffset := config.hostHToRPayloadStart
    rxDataOffset := config.hostRToHPayloadStart }.sendLoop config timestamps

/-- `(uint32_t)metal_io_phys(payload_io, tx_data_offset)` -/
def txPhyAddr32 (layout : Layout) (host : Host) : Nat :=
  layout.hostShmIo.metalIoPhys host.txDataOffset % 2 ^ 32

/-- Every error branch leaves the function. -/
def fail (host : Host) : Host := { host with pc := .failed }

/-! ## The next access -/

def sendAccess (layout : Layout) (host : Host) (avail : Nat) : SendStep -> Access
  | .writeMsg done =>
      if done < sizeofMsgHdr + msgLen host.txbuf then
        .writeByte .hostShm (host.txDataOffset + done) (host.txbuf.getD done 0)
      else .compute
  | .writeAddr =>
      if host.txPhyAddr32 layout = metalBad32 then .compute
      else .writeAddr .hostToRemoteDesc host.txAddrOffset (host.txPhyAddr32 layout)
  | .writeAvail => .writeAvail .hostToRemoteDesc shmDescAvailOffset avail
  | .kick => .irqKick

def access (layout : Layout) (host : Host) : Access :=
  match host.pc with
  | .clearPayload done =>
      if done < layout.shmPayloadSize then .setByte .hostShm done else .compute
  | .clearHostToRemote done =>
      if done < layout.shm0DescSize then .setByte .hostToRemoteDesc done else .compute
  | .clearRemoteToHost done =>
      if done < layout.shm1DescSize then .setByte .remoteToHostDesc done else .compute
  | .send step => host.sendAccess layout ((host.i + 1) % 2 ^ 32) step
  | .testAndSet => .testAndSetNkicked
  | .yield => .compute
  | .readAvail => .readAvail .remoteToHostDesc shmDescAvailOffset
  | .readAddr => .readAddr .remoteToHostDesc host.rxAddrOffset
  | .readHdr done =>
      if done < sizeofMsgHdr then .readByte .hostShm (host.rxDataOffset + done) else .compute
  | .readBody done =>
      if done < msgLen host.rxbuf then .readByte .hostShm (host.rxDataOffset + done) else .compute
  | .writeUsed => .writeUsed .remoteToHostDesc shmDescUsedOffset ((host.i + 1) % 2 ^ 32)
  | .readTx done =>
      if done < sizeofMsgHdr + sizeofTimestamp then
        .readByte .hostShm (host.txDataOffset + done)
      else .compute
  | .compare => .compute
  | .shutdown step => host.sendAccess layout ((layout.pkgsTotal + 1) % 2 ^ 32) step
  | .done => .exit
  | .failed => .exit

/-! ## The local computation after it -/

/-- After an access of the send loop. -/
def nextSend (layout : Layout) (timestamps : Nat -> UInt64) (host : Host) : SendStep -> Host
  | .writeMsg done =>
      if done < sizeofMsgHdr + msgLen host.txbuf then
        { host with pc := .send (.writeMsg (done + 1)) }
      else { host with pc := .send .writeAddr }
  | .writeAddr =>
      if host.txPhyAddr32 layout = metalBad32 then host.fail
      else
        { host with
          txDataOffset := Config.nextData host.txDataOffset (msgLen host.txbuf)
          txAddrOffset := layout.hostNextTxAddr host.txAddrOffset
          pc := .send .writeAvail }
  | .writeAvail => { host with pc := .send .kick }
  | .kick =>
      { host with i := (host.i + 1) % 2 ^ 32 }.sendLoop layout.toConfig timestamps

/-- After an access that hands over the shutdown message. -/
def nextShutdown (layout : Layout) (host : Host) : SendStep -> Host
  | .writeMsg done =>
      if done < sizeofMsgHdr + msgLen host.txbuf then
        { host with pc := .shutdown (.writeMsg (done + 1)) }
      else { host with pc := .shutdown .writeAddr }
  | .writeAddr =>
      if host.txPhyAddr32 layout = metalBad32 then host.fail
      else { host with pc := .shutdown .writeAvail }
  | .writeAvail => { host with pc := .shutdown .kick }
  | .kick => { host with pc := .done }

def next (layout : Layout) (timestamps : Nat -> UInt64) (host : Host) (reply : Nat) : Host :=
  match host.pc with
  | .clearPayload done =>
      if done < layout.shmPayloadSize then { host with pc := .clearPayload (done + 1) }
      else { host with pc := .clearHostToRemote 0 }
  | .clearHostToRemote done =>
      if done < layout.shm0DescSize then { host with pc := .clearHostToRemote (done + 1) }
      else { host with pc := .clearRemoteToHost 0 }
  | .clearRemoteToHost done =>
      if done < layout.shm1DescSize then { host with pc := .clearRemoteToHost (done + 1) }
      else host.startSending layout.toConfig timestamps
  | .send step => host.nextSend layout timestamps step
  | .testAndSet => if reply = 0 then { host with pc := .readAvail } else { host with pc := .yield }
  | .yield => { host with pc := .testAndSet }
  | .readAvail => { host with rxAvail := reply }.drainLoop layout.toConfig
  | .readAddr =>
      if layout.hostShmIo.metalIoPhysToOffset reply = hostMetalBad then host.fail
      else
        { host with
          rxDataOffset := layout.hostShmIo.metalIoPhysToOffset reply
          rxAddrOffset := Config.nextAddr host.rxAddrOffset
          rxbuf := []
          pc := .readHdr 0 }
  | .readHdr done =>
      if done < sizeofMsgHdr then
        { host with rxbuf := host.rxbuf ++ [UInt8.ofNat reply], pc := .readHdr (done + 1) }
      else if msgIndex host.rxbuf ≠ host.i then host.fail
      else if msgLen host.rxbuf ≠ sizeofTimestamp then host.fail
      else { host with rxDataOffset := host.rxDataOffset + sizeofMsgHdr, pc := .readBody 0 }
  | .readBody done =>
      if done < msgLen host.rxbuf then
        { host with rxbuf := host.rxbuf ++ [UInt8.ofNat reply], pc := .readBody (done + 1) }
      else { host with rxDataOffset := host.rxDataOffset + msgLen host.rxbuf, pc := .writeUsed }
  | .writeUsed => { host with txbuf := [], pc := .readTx 0 }
  | .readTx done =>
      if done < sizeofMsgHdr + sizeofTimestamp then
        { host with txbuf := host.txbuf ++ [UInt8.ofNat reply], pc := .readTx (done + 1) }
      else
        { host with
          txDataOffset := host.txDataOffset + (sizeofMsgHdr + sizeofTimestamp)
          pc := .compare }
  | .compare =>
      if host.rxbuf = host.txbuf then
        { host with i := (host.i + 1) % 2 ^ 32 }.drainLoop layout.toConfig
      else host.fail
  | .shutdown step => host.nextShutdown layout step
  | .done => host
  | .failed => host

/-! ## Messages handed over and echoes verified -/

/-- The message whose number the host is about to publish. -/
def publishes (host : Host) : List (List UInt8) :=
  match host.pc with
  | .send .writeAvail => [host.txbuf]
  | .shutdown .writeAvail => [host.txbuf]
  | _ => []

/-- The echo the host is about to accept. -/
def verifies (host : Host) : List (List UInt8) :=
  match host.pc with
  | .compare => if host.rxbuf = host.txbuf then [host.rxbuf] else []
  | _ => []

end Host
end IrqShmem
end OpenAmpReference
