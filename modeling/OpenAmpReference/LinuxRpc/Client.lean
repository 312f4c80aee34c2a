import OpenAmpReference.Library.Transition
import OpenAmpReference.Library.ByteMemory

namespace OpenAmpReference
namespace LinuxRpc

/-!
# The client of `linux_rpc_demo`

Five calls share the flag `wait_resp` and three result variables.  Each call
sets the flag, sends its request and waits until a response callback clears
the flag.  A callback may run at any point once its response has arrived, also
before the send has returned.  The transport decides whether a send succeeds;
the server is a parameter.
-/

/-- `OPEN_ID`, `CLOSE_ID`, `WRITE_ID`, `READ_ID`, `INPUT_ID` -/
inductive FuncId
  | openId
  | closeId
  | writeId
  | readId
  | inputId
  deriving DecidableEq, Repr

/-- `MAX_STRING_LEN` -/
def maxStringLen : Nat := 300

/-- `MAX_FILE_NAME_LEN` -/
def maxFileNameLen : Nat := 10

/-- A call with its arguments; a buffer is given by what it contains, and a null
buffer is `none`. -/
inductive Call
  | rpmsgOpen (filename : List UInt8) (flags mode : BitVec 32)
  | rpmsgRead (fd : BitVec 32) (buffer : Option ByteMemory) (buflen : BitVec 32)
  | rpmsgWrite (fd : BitVec 32) (ptr : ByteMemory) (len : BitVec 32)
  | rpmsgClose (fd : BitVec 32)
  | rpmsgInput (buffer : Option ByteMemory) (buflen : BitVec 32)

namespace Call

def id : Call -> FuncId
  | .rpmsgOpen _ _ _ => .openId
  | .rpmsgRead _ _ _ => .readId
  | .rpmsgWrite _ _ _ => .writeId
  | .rpmsgClose _ => .closeId
  | .rpmsgInput _ _ => .inputId

/-- The arguments for which the call returns `-EINVAL` at once. -/
def Rejected : Call -> Prop
  | .rpmsgRead _ buffer buflen | .rpmsgInput buffer buflen => buffer.isNone ∨ buflen = 0
  | .rpmsgOpen _ _ _ | .rpmsgWrite _ _ _ | .rpmsgClose _ => False

instance : DecidablePred Rejected := fun call =>
  match call with
  | .rpmsgRead _ buffer buflen | .rpmsgInput buffer buflen =>
      inferInstanceAs (Decidable (buffer.isNone ∨ buflen = 0))
  | .rpmsgOpen _ _ _ | .rpmsgWrite _ _ _ | .rpmsgClose _ => isFalse not_false

/-- `struct rpmsg_rpc_req_open` and its siblings as the call leaves them on its
stack, with two bytes of padding after the file name. -/
def request (stack : ByteMemory) : Call -> ByteMemory
  | .rpmsgOpen filename flags mode =>
      ((stack.writeInt 12 flags).writeInt 16 mode).writeBytes 0 (filename ++ [0])
  | .rpmsgRead fd _ buflen => (stack.writeInt 0 fd).writeInt 4 buflen
  | .rpmsgWrite fd ptr len =>
      ((stack.writeInt 0 fd).writeBytes 8 (ptr.readBytes 0 (len.toInt + 1).toNat)).writeInt 4 len
  | .rpmsgClose fd => stack.writeInt 0 fd
  | .rpmsgInput _ buflen => stack.writeInt 0 buflen

/-- The size of the request structure. -/
def payloadSize : Call -> Nat
  | .rpmsgOpen _ _ _ => 20
  | .rpmsgRead _ _ _ => 8
  | .rpmsgWrite _ _ _ => 308
  | .rpmsgClose _ => 4
  | .rpmsgInput _ _ => 4

/-- The bytes that the call passes to `rpmsg_rpc_client_send()`. -/
def payload (stack : ByteMemory) (call : Call) : List UInt8 :=
  (call.request stack).readBytes 0 call.payloadSize

end Call

/-- Where the caller is. -/
inductive Pc
  | idle
  | prepared (call : Call) (payload : List UInt8)
  | sending (call : Call) (payload : List UInt8)
  | inSend (call : Call)
  | waiting (call : Call)

/-- The variables of the client. -/
structure Client where
  pc : Pc
  fileD : BitVec 32
  bytesRead : BitVec 32
  bytesWritten : BitVec 32
  readReqBuffer : ByteMemory
  inputReqBuffer : ByteMemory
  waitResp : Bool

/-- A request behind its id; the ticket names the call it belongs to. -/
structure Request where
  ticket : Nat
  id : FuncId
  payload : List UInt8
  deriving DecidableEq, Repr

structure Response where
  ticket : Nat
  id : FuncId
  status : BitVec 32
  payload : List UInt8
  deriving DecidableEq, Repr

/-- A server answers a request from its id, its payload in the receive buffer
and what its stack holds; it may fail to answer. -/
structure Server (S : Type) where
  handle : S -> FuncId -> ByteMemory -> ByteMemory -> S × Option (BitVec 32 × List UInt8)

/-- A response as its callback sees it. -/
structure Delivery where
  ticket : Nat
  id : FuncId
  status : BitVec 32
  data : ByteMemory

/-- The payload at the start of the receive buffer. -/
def Response.delivery (response : Response) (residue : ByteMemory) : Delivery where
  ticket := response.ticket
  id := response.id
  status := response.status
  data := residue.writeBytes 0 response.payload

/-- A call that has returned, whether its send failed, and the variables at
that point. -/
structure Returned where
  ticket : Nat
  call : Call
  sendFailed : Bool
  client : Client

/-- Client, server and the two channels.  `outstanding` holds the tickets of
the requests that were accepted and not answered yet; `delivered` and `returned`
are the history. -/
structure World (S : Type) where
  client : Client
  server : S
  requests : List Request
  responses : List Response
  ticket : Nat
  outstanding : List Nat
  delivered : List Delivery
  returned : List Returned

inductive Event
  | call (call : Call) (stack : ByteMemory)
  | client
  | send (accepted : Bool)
  | serve (residue stack : ByteMemory)
  | deliver (residue : ByteMemory)

namespace Client

/-- `app()` sets the flag before the first call. -/
def initial : Client where
  pc := .idle
  fileD := 0
  bytesRead := 0
  bytesWritten := 0
  readReqBuffer := fun _ => 0
  inputReqBuffer := fun _ => 0
  waitResp := true

/-- The statements of a call before it sets the flag. -/
def start (client : Client) (call : Call) (stack : ByteMemory) : Client :=
  match call with
  | .rpmsgOpen _ _ _ | .rpmsgClose _ =>
      { client with pc := .prepared call (call.payload stack) }
  | .rpmsgRead _ buffer _ =>
      { client with
        pc := .prepared call (call.payload stack)
        readReqBuffer := buffer.getD client.readReqBuffer
        bytesRead := 0 }
  | .rpmsgWrite _ _ _ =>
      { client with
        pc := .prepared call (call.payload stack)
        bytesWritten := 0 }
  | .rpmsgInput buffer _ =>
      { client with
        pc := .prepared call (call.payload stack)
        inputReqBuffer := buffer.getD client.inputReqBuffer
        bytesRead := 0 }

/-- `if (resp->bytes_read > 0) memcpy(read_req_buffer, resp->buf, sizeof(resp->buf))` -/
def copyBuf (buffer data : ByteMemory) : ByteMemory :=
  if 0 < (data.readInt 0).toInt then buffer.writeBytes 0 (data.readBytes 4 maxStringLen)
  else buffer

/-- `rpmsg_open_cb()` and its siblings -/
def callback (client : Client) (delivery : Delivery) : Client :=
  match delivery.id with
  | .openId =>
      { client with
        fileD := if delivery.status ≠ 0 then 0 else delivery.data.readInt 0
        waitResp := false }
  | .closeId => { client with waitResp := false }
  | .writeId =>
      { client with
        bytesWritten := if delivery.status ≠ 0 then 0 else delivery.data.readInt 0
        waitResp := false }
  | .readId =>
      if delivery.status ≠ 0 then { client with bytesRead := 0, waitResp := false }
      else
        { client with
          readReqBuffer := copyBuf client.readReqBuffer delivery.data
          bytesRead := delivery.data.readInt 0
          waitResp := false }
  | .inputId =>
      if delivery.status ≠ 0 then { client with bytesRead := 0, waitResp := false }
      else
        { client with
          inputReqBuffer := copyBuf client.inputReqBuffer delivery.data
          bytesRead := delivery.data.readInt 0
          waitResp := false }

/-- The result variable that a call exposes. -/
def result (client : Client) : FuncId -> Option (BitVec 32)
  | .openId => some client.fileD
  | .readId | .inputId => some client.bytesRead
  | .writeId => some client.bytesWritten
  | .closeId => none

end Client

/-- What a response sets the result to. -/
def Delivery.result (delivery : Delivery) : Option (BitVec 32) :=
  match delivery.id with
  | .openId | .readId | .inputId | .writeId =>
      some (if delivery.status ≠ 0 then 0 else delivery.data.readInt 0)
  | .closeId => none

namespace World

variable {S : Type}

def initial (server : S) : World S where
  client := Client.initial
  server := server
  requests := []
  responses := []
  ticket := 0
  outstanding := []
  delivered := []
  returned := []

/-- The call returns with the variables as they are. -/
def return_ (world : World S) (call : Call) (sendFailed : Bool) : World S :=
  { world with
    client := { world.client with pc := .idle, waitResp := true }
    returned := world.returned ++
      [{ ticket := world.ticket, call := call, sendFailed := sendFailed, client := world.client }] }

/-- What a call does when its send fails: `rpmsg_open()` polls and sends again,
`rpmsg_close()` waits all the same. -/
def sendFails (world : World S) (call : Call) : World S :=
  match call with
  | .rpmsgOpen _ _ _ => world
  | .rpmsgClose _ => { world with client := { world.client with pc := .waiting call } }
  | .rpmsgRead _ _ _ | .rpmsgWrite _ _ _ | .rpmsgInput _ _ => world.return_ call true

def sendSucceeds (world : World S) (call : Call) (payload : List UInt8) : World S :=
  { world with
    client := { world.client with pc := .inSend call }
    requests := world.requests ++ [{ ticket := world.ticket, id := call.id, payload := payload }]
    outstanding := world.outstanding ++ [world.ticket] }

/-- A statement of the client other than a call and the decision of its send;
the loop on `wait_resp` sets the flag each time it tests it. -/
def clientStep (world : World S) : Option (World S) :=
  match world.client.pc with
  | .prepared call payload =>
      some { world with
        client := { world.client with pc := .sending call payload, waitResp := true } }
  | .inSend call => some { world with client := { world.client with pc := .waiting call } }
  | .waiting call => if world.client.waitResp then some world else some (world.return_ call false)
  | .idle | .sending _ _ => none

def step (server : Server S) (world : World S) : Event -> Option (World S)
  | .call call stack =>
      match world.client.pc with
      | .idle =>
          if call.Rejected then some world
          else
            some { world with
              client := world.client.start call stack
              ticket := world.ticket + 1 }
      | .prepared _ _ | .sending _ _ | .inSend _ | .waiting _ => none
  | .client => world.clientStep
  | .send accepted =>
      match world.client.pc with
      | .sending call payload =>
          if accepted then some (world.sendSucceeds call payload)
          else some (world.sendFails call)
      | .idle | .prepared _ _ | .inSend _ | .waiting _ => none
  | .serve residue stack =>
      match world.requests with
      | [] => none
      | request :: rest =>
          let answer := server.handle world.server request.id
            (residue.writeBytes 0 request.payload) stack
          some { world with
            server := answer.1
            requests := rest
            responses := world.responses ++
              answer.2.toList.map (fun (status, payload) =>
                { ticket := request.ticket, id := request.id, status := status,
                  payload := payload }) }
  | .deliver residue =>
      match world.responses with
      | [] => none
      | response :: rest =>
          some { world with
            client := world.client.callback (response.delivery residue)
            responses := rest
            outstanding := world.outstanding.erase response.ticket
            delivered := world.delivered ++ [response.delivery residue] }

end World
end LinuxRpc
end OpenAmpReference
