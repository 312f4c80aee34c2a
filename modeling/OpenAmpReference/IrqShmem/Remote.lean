import OpenAmpReference.IrqShmem.Host

namespace OpenAmpReference
namespace IrqShmem

/-!
# The remote program

`demo()` of the remote from its wait loop on: it suspends until an interrupt,
reads how many messages are available, and for each of them reads header and
body, counts it as used, stops if it is the shutdown message, and otherwise
writes it back and publishes the echo.  The same division into the next access
and the local computation after it is used as for the host.
-/

inductive RemotePc where
  | suspend
  | parked
  | readAvail
  | readAddr
  | readHdr (done : Nat)
  | readBody (done : Nat)
  | writeUsed
  | send (step : SendStep)
  | done
  | failed
  deriving DecidableEq, Repr

/-- The local variables of `demo()`. -/
structure Remote where
  pc : RemotePc
  rxCount : Nat
  rxAvail : Nat
  txAddrOffset : Nat
  rxAddrOffset : Nat
  txDataOffset : Nat
  rxDataOffset : Nat
  lbuf : List UInt8
  deriving DecidableEq, Repr

namespace Remote

/-- The remote as it reaches its wait loop. -/
def initial (config : Config) : Remote where
  pc := .suspend
  rxCount := 0
  rxAvail := 0
  txAddrOffset := config.remoteRToHDescAddrStart
  rxAddrOffset := config.remoteHToRDescAddrStart
  txDataOffset := config.remoteRToHPayloadStart
  rxDataOffset := 0
  lbuf := []

/-- `while (rx_count != rx_avail)`: take the next message, or suspend. -/
def drainLoop (remote : Remote) : Remote :=
  if remote.rxCount ≠ remote.rxAvail then { remote with pc := .readAddr }
  else { remote with pc := .suspend }

/-- The received body is the shutdown marker. -/
def isShutdown (remote : Remote) : Bool :=
  decide (msgLen remote.lbuf = shutdownBytes.length ∧
    (remote.lbuf.drop sizeofMsgHdr).take shutdownBytes.length = shutdownBytes)

/-- `(uint32_t)metal_io_phys(ch->shm_io, tx_data_offset)` -/
def bufPhyAddr (layout : Layout) (remote : Remote) : Nat :=
  layout.remoteShmIo.metalIoPhys remote.txDataOffset % 2 ^ 32

/-- Every error branch leaves the function. -/
def fail (remote : Remote) : Remote := { remote with pc := .failed }

/-- The accesses that echo the message in `lbuf`. -/
def sendAccess (layout : Layout) (remote : Remote) : SendStep -> Access
  | .writeMsg done =>
      if done < sizeofMsgHdr + msgLen remote.lbuf then
        .writeByte .remoteShm (remote.txDataOffset + done) (remote.lbuf.getD done 0)
      else .compute
  | .writeAddr =>
      if remote.bufPhyAddr layout = metalBad32 then .compute
      else .writeAddr .remoteShm remote.txAddrOffset (remote.bufPhyAddr layout)
  | .writeAvail =>
      .writeAvail .remoteShm (layout.shmDescOffsetRToH + shmDescAvailOffset) remote.rxCount
  | .kick => .irqKick

def access (layout : Layout) (remote : Remote) : Access :=
  match remote.pc with
  | .suspend => .systemSuspend
  | .parked => .parked
  | .readAvail => .readAvail .remoteShm (layout.shmDescOffsetHToR + shmDescAvailOffset)
  | .readAddr => .readAddr .remoteShm remote.rxAddrOffset
  | .readHdr done =>
      if done < sizeofMsgHdr then .readByte .remoteShm (remote.rxDataOffset + done) else .compute
  | .readBody done =>
      if done < msgLen remote.lbuf then .readByte .remoteShm (remote.rxDataOffset + done)
      else .compute
  | .writeUsed =>
      .writeUsed .remoteShm (layout.shmDescOffsetHToR + shmDescUsedOffset)
        ((remote.rxCount + 1) % 2 ^ 32)
  | .send step => remote.sendAccess layout step
  | .done => .exit
  | .failed => .exit

/-- After an access that echoes. -/
def nextSend (layout : Layout) (remote : Remote) : SendStep -> Remote
  | .writeMsg done =>
      if done < sizeofMsgHdr + msgLen remote.lbuf then
        { remote with pc := .send (.writeMsg (done + 1)) }
      else { remote with pc := .send .writeAddr }
  | .writeAddr =>
      if remote.bufPhyAddr layout = metalBad32 then remote.fail
      else
        { remote with
          txDataOffset := Config.nextData remote.txDataOffset (msgLen remote.lbuf)
          txAddrOffset := Config.nextAddr remote.txAddrOffset
          pc := .send .writeAvail }
  | .writeAvail => { remote with pc := .send .kick }
  | .kick => remote.drainLoop

def next (layout : Layout) (remote : Remote) (reply : Nat) : Remote :=
  match remote.pc with
  | .suspend =>
      if reply = 0 then { remote with pc := .parked } else { remote with pc := .readAvail }
  | .parked =>
      if reply = 0 then { remote with pc := .suspend } else { remote with pc := .readAvail }
  | .readAvail => { remote with rxAvail := reply }.drainLoop
  | .readAddr =>
      if layout.remoteShmIo.metalIoPhysToOffset reply = metalBad32 then remote.fail
      else
        { remote with
          rxDataOffset := layout.remoteShmIo.metalIoPhysToOffset reply
          rxAddrOffset := Config.nextAddr remote.rxAddrOffset
          lbuf := []
          pc := .readHdr 0 }
  | .readHdr done =>
      if done < sizeofMsgHdr then
        { remote with lbuf := remote.lbuf ++ [UInt8.ofNat reply], pc := .readHdr (done + 1) }
      else if msgLen remote.lbuf > bufSizeMax - sizeofMsgHdr then remote.fail
      else { remote with rxDataOffset := remote.rxDataOffset + sizeofMsgHdr, pc := .readBody 0 }
  | .readBody done =>
      if done < msgLen remote.lbuf then
        { remote with lbuf := remote.lbuf ++ [UInt8.ofNat reply], pc := .readBody (done + 1) }
      else { remote with rxDataOffset := remote.rxDataOffset + msgLen remote.lbuf, pc := .writeUsed }
  | .writeUsed =>
      if remote.isShutdown then
        { remote with rxCount := (remote.rxCount + 1) % 2 ^ 32, pc := .done }
      else { remote with rxCount := (remote.rxCount + 1) % 2 ^ 32, pc := .send (.writeMsg 0) }
  | .send step => remote.nextSend layout step
  | .done => remote
  | .failed => remote

/-- The message the remote is about to count as used. -/
def consumes (remote : Remote) : List (List UInt8) :=
  match remote.pc with
  | .writeUsed => [remote.lbuf]
  | _ => []

end Remote
end IrqShmem
end OpenAmpReference
