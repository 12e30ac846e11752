/-
Module: LibAtbus.Node.MsgHandler
Layer: Node
Purpose: The data transfer of a node: `node::send_data` of `src/atbus_node.cpp`, and of
  `src/atbus_msg_handler.cpp` the handlers of a data request and of its response, and the sending of
  that response. A handler says what it returns, which messages it transmitted and which callbacks
  it made.
Trusted boundary: human-reviewed spec
Main exports: Links, NodeEvent, Handled, sendData, sendTransferRsp, onRecvDataTransferReq,
  onRecvDataTransferRsp
-/
import LibAtbus.Node.Routing

namespace LibAtbus.Node

/-- The connections of a node: what `get_data_connection` and `get_ctrl_connection` find. -/
structure Links where
  data : Link
  ctrl : Link

/-- All connections are there and take everything. -/
def openLinks : Links := ⟨fun _ => some fun _ => .success, fun _ => some fun _ => .success⟩

/-- The callbacks of a node, and its calls of `send_transfer_rsp` with the response they build. -/
inductive NodeEvent where
  | recvData (type : Int) (content : List UInt8)
  | sendDataFailed (m : Msg)
  | error (status : Int)
  | transferRsp (rsp : Msg)
  | reg (status : Int)
  | customCmd (fromId : BusId) (commands : List (List UInt8))
deriving DecidableEq, Repr

/-- What a handler did. -/
structure Handled where
  res : ErrorType
  sent : List (Endpoint × Msg) := []
  events : List NodeEvent := []
deriving DecidableEq, Repr

namespace Handled

/-- The data it passed to `on_recv_data`. -/
def deliveries (handled : Handled) : List (Int × List UInt8) :=
  handled.events.filterMap fun event =>
    match event with
    | .recvData type content => some (type, content)
    | _ => none

/-- The responses it built with `send_transfer_rsp`. -/
def responses (handled : Handled) : List Msg :=
  handled.events.filterMap fun event =>
    match event with
    | .transferRsp rsp => some rsp
    | _ => none

/-- The messages it reported with `on_send_data_failed`. -/
def failures (handled : Handled) : List Msg :=
  handled.events.filterMap fun event =>
    match event with
    | .sendDataFailed m => some m
    | _ => none

/-- The requests it sent on. -/
def onward (handled : Handled) : List (Endpoint × Msg) :=
  handled.sent.filter fun packet => packet.2.head.cmd = .dataTransformReq

/-- The responses it sent. -/
def answers (handled : Handled) : List (Endpoint × Msg) :=
  handled.sent.filter fun packet => packet.2.head.cmd = .dataTransformRsp

end Handled

/-! ### Sending -/

/-- The request `send_data` builds. -/
def dataRequest (id tid : BusId) (type : Int) (content : List UInt8) (requireRsp : Bool)
    (sequence : BitVec 32) : Msg :=
  let data : ForwardData :=
    { fromId := id, toId := tid, router := [], content := content, flags := 0#32 }
  { head :=
      { cmd := .dataTransformReq
        type := type
        ret := 0
        sequence := sequence
        srcBusId := id }
    body := { forward := some (if requireRsp then data.setFlag flagRequireRsp else data) } }

/-- `node::send_data`; the sequence is the one `alloc_msg_seq` hands out. -/
def sendData (node : BusNode) (links : Links) (sequence : BitVec 32) (tid : BusId) (type : Int)
    (content : List UInt8) (requireRsp : Bool) : Handled :=
  if node.msgSize ≤ content.length then { res := .buffLimit }
  else if tid = node.id then { res := .success, events := [.recvData type content] }
  else
    let sending :=
      sendMsg node links.data tid (dataRequest node.id tid type content requireRsp sequence)
    { res := sending.res, sent := sending.sent.toList }

/-! ### Receiving -/

/-- `on_recv_data_transfer_rsp`; `conn` tells whether there is a connection. -/
def onRecvDataTransferRsp (conn : Bool) (m : Msg) : Handled :=
  if m.body.forward.isNone || !conn then
    { res := .badData, events := [.error ErrorType.badData.code] }
  else { res := .success, events := [.error m.head.ret, .sendDataFailed m] }

/-- The response to a request, which is built in the message of the request. -/
def transferRsp (m : Msg) (data : ForwardData) (id : BusId) (ret : ErrorType) : Msg :=
  { m.init id .dataTransformRsp 0 ret.code m.head.sequence with
    body := { m.body with forward := some { data with toId := data.fromId, fromId := id } } }

/-- `send_transfer_rsp`. -/
def sendTransferRsp (node : BusNode) (ctrl : Link) (m : Msg) (ret : ErrorType) : Handled :=
  match m.body.forward with
  | none => { res := .badData }  -- not reached: the handler has checked the body
  | some data =>
      let rsp := transferRsp m data node.id ret
      let sending := sendMsg node ctrl data.fromId rsp
      { res := sending.res
        sent := sending.sent.toList
        -- a response to the node itself is handled without a connection
        events := .transferRsp rsp :: sending.toSelf.toList.flatMap fun m =>
          (onRecvDataTransferRsp false m).events }

/-- `static_cast<size_t>(ttl)`. -/
def ttlSize (ttl : Int) : Nat := (BitVec.ofInt 64 ttl).toNat

/-- The address of an endpoint that a control channel can connect to, which is not one in memory. -/
def connectAddress (listen : List String) : Option String :=
  (listen.find? fun address =>
    let scheme := (address.toList.take 3).map Char.toLower
    scheme != "mem".toList && scheme != "shm".toList).filter fun address => address != ""

/-- `ATBUS_CMD_NODE_CONN_SYN`. -/
def connSyn (id : BusId) (address : String) (sequence : BitVec 32) : Msg :=
  { head :=
      { cmd := .nodeConnSyn
        type := 0
        ret := 0
        sequence := sequence
        srcBusId := id }
    body := { conn := some { address := address } } }

/-- The request was sent on to a child. When it came from a child, that one is told to connect to
    the other. -/
def forwardedToChild (node : BusNode) (links : Links) (sequence : BitVec 32) (directFrom : BusId)
    (sending : SendResult) : Handled :=
  let syn := do
    let toEp ← sending.epOut
    if node.isChildNode directFrom && node.isChildNode toEp.id then connectAddress toEp.listen
      else none
  match syn with
  | none => { res := sending.res, sent := sending.sent.toList }
  | some address =>
      let syncing := sendMsg node links.ctrl directFrom (connSyn node.id address sequence)
      { res := syncing.res, sent := sending.sent.toList ++ syncing.sent.toList }

/-- The second attempt: a request for a sibling that was not sent goes to the parent, unless it came
    from there or was to go there. -/
def resend (node : BusNode) (data : Link) (toId : BusId) (first : SendResult) : SendResult :=
  if first.res.failed && !node.isParentNode first.msg.head.srcBusId && node.isBrotherNode toId then
    match node.father with
    | none => first
    | some father =>
        if first.epOut.any fun toEp => node.isParentNode toEp.id then first
        else sendMsg node data father.id first.msg
  else first

/-- The request is for the node itself. -/
def deliver (node : BusNode) (ctrl : Link) (m : Msg) (data : ForwardData) : Handled :=
  let got := NodeEvent.recvData m.head.type data.content
  if data.checkFlag flagRequireRsp then
    let answer := sendTransferRsp node ctrl m .success
    { answer with events := got :: answer.events }
  else { res := .success, events := [got] }

/-- After the last attempt: only a failure is answered, or a request that asks for it, as in
    ICMP. -/
def conclude (node : BusNode) (ctrl : Link) (asked : Bool) (last : SendResult) : Handled :=
  if last.res.failed || asked then
    let answer := sendTransferRsp node ctrl last.msg last.res
    { res := answer.res
      sent := last.sent.toList ++ answer.sent
      events := answer.events ++ if answer.res.failed then [.error answer.res.code] else [] }
  else { res := last.res, sent := last.sent.toList }

/-- The request is for another node. -/
def relay (node : BusNode) (links : Links) (sequence : BitVec 32) (m : Msg) (data : ForwardData) :
    Handled :=
  let first := sendMsg node links.data data.toId m
  if !first.res.failed && node.isChildNode data.toId then
    forwardedToChild node links sequence m.head.srcBusId first
  else conclude node links.ctrl (data.checkFlag flagRequireRsp)
    (resend node links.data data.toId first)

/-- `on_recv_data_transfer_req`. -/
def onRecvDataTransferReq (node : BusNode) (links : Links) (sequence : BitVec 32) (conn : Bool)
    (m : Msg) : Handled :=
  match m.body.forward.filter fun _ => conn with
  | none => { res := .badData, events := [.error ErrorType.badData.code] }
  | some data =>
      if data.toId = node.id then deliver node links.ctrl m data
      else if ttlSize node.ttl ≤ data.router.length
        then sendTransferRsp node links.ctrl m .atnodeTtl
      else relay node links sequence m data

end LibAtbus.Node
