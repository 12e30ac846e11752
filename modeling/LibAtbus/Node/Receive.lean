/-
Module: LibAtbus.Node.Receive
Layer: Node
Purpose: How a node takes what its channels deliver, from `src/atbus_connection.cpp` and
  `src/atbus_node.cpp`: `connection::unpack`, `node::on_recv`, the callback of the stream channel
  and the receive loops of the memory channels. The `unpack` of msgpack is a parameter. An
  exception, and a pointer that is followed although it is NULL, leaves the loops by another way
  than by returning.
Trusted boundary: human-reviewed spec
Main exports: Unpack, Escape, Payload, unpackMsg, selfSent, dispatchWithin, onRecv, receive,
  iostreamOnRecvCb, memProcFn, shmProcFn, ReceiveCall, receiveCall
-/
import LibAtbus.Node.Dispatch
import LibAtbus.Node.MsgCodec

namespace LibAtbus.Node

open Packing

/-- `msgpack::unpack`: the object the bytes begin with and the bytes behind it. It throws when there
    is no complete object. -/
abbrev Unpack := List UInt8 → Option (PackedObject × List UInt8)

/-- What ends a receive loop other than returning. -/
inductive Escape where
  | unpackError
  | typeError (error : TypeError)
  | nullPointer (pointer : NullPointer)
deriving DecidableEq, Repr

/-- A block of a channel with what its handling meets: what the handlers call, the endpoint that is
    removed when the fault they count is one too many, and the bytes the `src_bus_id` of the new
    message has. -/
structure Payload where
  bytes : List UInt8
  env : HandlerEnv
  faulty : Option Endpoint
  srcBusId : BusId

/-- What became of a payload: what its dispatch did, if there was one, and what was reported beside
    it. -/
structure Received where
  node : NodeState
  dispatched : Option Dispatched := none
  events : List NodeEvent := []

/-- `connection::unpack`. A nil object is not a message, which is reported by the caller. -/
def unpackMsg (unpack : Unpack) (payload : Payload) : Except Escape (Option Msg) :=
  match unpack payload.bytes with
  | none => .error .unpackError
  | some (.nil, _) => .ok none
  | some (object, _) =>
      match convertMsg object (.fresh payload.srcBusId) with
      | .error error => .error (.typeError error)
      | .ok m => .ok (some m)

/-! ### Messages of a node to itself -/

/-- The response that `send_transfer_rsp` passes to the node itself. -/
def transferRspToSelf (node : BusNode) (ctrl : Link) (m : Msg) (ret : ErrorType) : List Msg :=
  match m.body.forward with
  | none => []
  | some data => (sendMsg node ctrl data.fromId (transferRsp m data node.id ret)).toSelf.toList

/-- The messages that `on_recv_data_transfer_req` passes to the node itself. -/
def dataTransferToSelf (node : BusNode) (links : Links) (sequence : BitVec 32) (m : Msg)
    (data : ForwardData) : List Msg :=
  if data.toId = node.id then
    if data.checkFlag flagRequireRsp then transferRspToSelf node links.ctrl m .success else []
  else if ttlSize node.ttl ≤ data.router.length then transferRspToSelf node links.ctrl m .atnodeTtl
  else
    let first := sendMsg node links.data data.toId m
    if !first.res.failed && node.isChildNode data.toId then
      match first.epOut.filter fun toEp =>
        node.isChildNode m.head.srcBusId && node.isChildNode toEp.id with
      | none => []
      | some toEp =>
          (connectAddress toEp.listen).toList.flatMap fun address =>
            (sendMsg node links.ctrl m.head.srcBusId
              (connSyn node.id address sequence)).toSelf.toList
    else
      let last := resend node links.data data.toId first
      last.toSelf.toList ++
        if last.res.failed || data.checkFlag flagRequireRsp then
          transferRspToSelf node links.ctrl last.msg last.res
        else []

/-- The messages that the handler of a message passes to the node itself. -/
def selfSent (env : HandlerEnv) (n : NodeState) (conn : PeerConn) (m : Msg) : List Msg :=
  match m.head.cmd with
  | .dataTransformReq =>
      m.body.forward.toList.flatMap fun data =>
        dataTransferToSelf n.tables env.links env.sequence m data
  | .nodePing =>
      match m.body.ping, conn.binding with
      | some _, some ep =>
          (sendMsg n.tables env.links.ctrl ep.id
            (m.init n.tables.id .nodePong 0 0 m.head.sequence)).toSelf.toList
      | _, _ => []
  | _ => []

/-- The dispatches of messages of the node to itself, which have no connection. -/
def dispatchSelf (env : HandlerEnv) (n : NodeState) : List Msg → Except NullPointer Unit
  | [] => .ok ()
  | m :: later => do
      let _ ← dispatchMsg env n none (some m)
      dispatchSelf env n later

/-- The dispatch of a message over a connection, with the dispatches of what it makes the node send
    to itself. -/
def dispatchWithin (env : HandlerEnv) (n : NodeState) (conn : PeerConn) (m : Msg) :
    Except NullPointer Dispatched := do
  let done ← dispatchMsg env n (some conn) (some m)
  dispatchSelf env n (selfSent env n conn m)
  return done

/-! ### Receiving -/

/-- `node::add_endpoint_fault`, of the endpoint for which one more fault is too many. -/
def NodeState.addEndpointFault (n : NodeState) (faulty : Option Endpoint) : NodeState :=
  match faulty with
  | some ep => (n.removeEndpoint ep.id).2
  | none => n

/-- `node::on_recv` without a message, for an error of the channel. -/
def onRecvFailed (n : NodeState) (faulty : Option Endpoint) (status : Int) : Received :=
  { node := n.addEndpointFault faulty, events := [.error status] }

/-- `node::on_recv` with a message, or with none although there was no error. -/
def onRecv (n : NodeState) (conn : PeerConn) (m : Option Msg) (payload : Payload) :
    Except NullPointer Received := do
  let done ←
    match m with
    | none => dispatchMsg payload.env n (some conn) none
    | some m => dispatchWithin payload.env n conn m
  return { node := done.node.addEndpointFault payload.faulty, dispatched := some done }

/-- What all receive loops do with a block: the message is unpacked and dispatched. -/
def receive (unpack : Unpack) (n : NodeState) (conn : PeerConn) (payload : Payload) :
    Except Escape Received :=
  match unpackMsg unpack payload with
  | .error escape => .error escape
  | .ok none => .ok { node := n, events := [.error ErrorType.unpack.code] }
  | .ok (some m) => (onRecv n conn (some m) payload).mapError .nullPointer

/-- What a receive function did: its result, the node it leaves, what it reported of the channel,
    and what became of the payloads, in order. -/
structure ReceiveDone where
  ret : Int
  node : NodeState
  events : List NodeEvent := []
  received : List Received := []

/-- `connection::iostream_on_recv_cb`. The payload of a connection that was released is dropped, and
    an empty one is no message. -/
def iostreamOnRecvCb (unpack : Unpack) (n : NodeState) (conn : Option PeerConn) (status : ErrorType)
    (payload : Payload) : Except Escape ReceiveDone :=
  if status.failed then
    let failure := onRecvFailed n payload.faulty status.code
    .ok { ret := 0, node := failure.node, events := failure.events }
  else
    match conn with
    | none => .ok { ret := 0, node := n, received := [{ node := n }] }
    | some conn => do
        let got ←
          if payload.bytes = [] then (onRecv n conn none payload).mapError .nullPointer
          else receive unpack n conn payload
        return { ret := 0, node := got.node, received := [got] }

/-- A call of `mem_recv` or `shm_recv`: what it returns, the block it copies, and the connection as
    it is then. -/
structure RecvCall where
  res : ErrorType
  conn : PeerConn
  payload : Payload

/-- The loop of `mem_proc_fn` and `shm_proc_fn`; behind the last of the calls there is no data. -/
def procLoop (unpack : Unpack) : Nat → List RecvCall → NodeState → Int → Except Escape ReceiveDone
  | 0, _, n, ret => .ok { ret := ret, node := n }
  | _ + 1, [], n, ret => .ok { ret := ret, node := n }
  | leftTimes + 1, call :: calls, n, ret =>
      if call.res = .noData then .ok { ret := ret, node := n }
      else if call.res.failed then
        let failure := onRecvFailed n call.payload.faulty call.res.code
        .ok { ret := call.res.code, node := failure.node, events := failure.events }
      else do
        let got ← receive unpack n call.conn call.payload
        let rest ← procLoop unpack leftTimes calls got.node
            (if got.dispatched.isSome then ret + 1 else ret)
        return { rest with received := got :: rest.received }

/-- The common text of `mem_proc_fn` and `shm_proc_fn`; a node that is not initialised has no static
    buffer. -/
def procFn (unpack : Unpack) (n : NodeState) (staticBuffer : Bool) (loopTimes : Nat)
    (calls : List RecvCall) : Except Escape ReceiveDone :=
  if staticBuffer then procLoop unpack loopTimes calls n 0
  else .ok
    { ret := ErrorType.notInited.code, node := n, events := [.error ErrorType.notInited.code] }

/-- `connection::mem_proc_fn`; the calls are those of `mem_recv`. -/
def memProcFn (unpack : Unpack) (n : NodeState) (staticBuffer : Bool) (loopTimes : Nat)
    (calls : List RecvCall) :
    Except Escape ReceiveDone := procFn unpack n staticBuffer loopTimes calls

/-- `connection::shm_proc_fn`; the calls are those of `shm_recv`. -/
def shmProcFn (unpack : Unpack) (n : NodeState) (staticBuffer : Bool) (loopTimes : Nat)
    (calls : List RecvCall) :
    Except Escape ReceiveDone := procFn unpack n staticBuffer loopTimes calls

/-! ### Runs -/

/-- A call of a receive function. -/
inductive ReceiveCall where
  | stream (conn : Option PeerConn) (status : ErrorType) (payload : Payload)
  | mem (staticBuffer : Bool) (loopTimes : Nat) (calls : List RecvCall)
  | shm (staticBuffer : Bool) (loopTimes : Nat) (calls : List RecvCall)

/-- What the call does. -/
def receiveCall (unpack : Unpack) (n : NodeState) : ReceiveCall → Except Escape ReceiveDone
  | .stream conn status payload => iostreamOnRecvCb unpack n conn status payload
  | .mem staticBuffer loopTimes calls => memProcFn unpack n staticBuffer loopTimes calls
  | .shm staticBuffer loopTimes calls => shmProcFn unpack n staticBuffer loopTimes calls

/-- The blocks a loop takes from its channel. -/
def deliveredCalls (loopTimes : Nat) (calls : List RecvCall) : List RecvCall :=
  (calls.take loopTimes).takeWhile fun call => !call.res.failed

/-- The payloads the channel delivers to the call. -/
def ReceiveCall.delivered : ReceiveCall → List Payload
  | .stream _ status payload => if status.failed then [] else [payload]
  | .mem staticBuffer loopTimes calls | .shm staticBuffer loopTimes calls =>
      if staticBuffer then (deliveredCalls loopTimes calls).map RecvCall.payload else []

/-- A call on a node; once something escaped, nothing is received any more. -/
def ReceiveStep (unpack : Unpack) (before : Except Escape NodeState) (call : ReceiveCall)
    (after : Except Escape NodeState) : Prop :=
  after = before.bind fun n => (receiveCall unpack n call).map ReceiveDone.node

end LibAtbus.Node
