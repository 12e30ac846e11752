/-
Module: LibAtbus.Node.Dispatch
Layer: Node
Purpose: `dispatch_msg` of `src/atbus_msg_handler.cpp` and the handlers it selects, with the
  registration of nodes. A pointer to a body or a connection may be missing; following one that is
  ends the program. The handlers of data transfer are those of the module on message handling. A
  message a node sends to itself is dispatched anew, without a connection, which is a dispatch of
  its own.
Trusted boundary: human-reviewed spec
Main exports: PeerConn, NullPointer, HandlerEnv, Dispatched, RegDecision, sendRegRsp,
  onRecvNodeRegReq, onRecvNodeRegRsp, onRecvNodePing, dispatchMsg
-/
import LibAtbus.Node.Binding
import LibAtbus.Node.Lifecycle
import LibAtbus.Node.MsgHandler

namespace LibAtbus.Node

/-- `connection`, as a handler sees it. -/
structure PeerConn where
  state : ConnState
  binding : Option Endpoint
  regFd : Bool
  accessShareHost : Bool
  address : String
deriving DecidableEq, Repr

/-- A pointer that is followed although it is NULL. -/
inductive NullPointer where
  | body
  | connection
deriving DecidableEq, Repr

/-- What a handler calls: the links of the node and the sequence it allocates, the pushing of a
    message to the connection, the adding of the connection to an endpoint, and the connecting to an
    address. -/
structure HandlerEnv where
  links : Links
  sequence : BitVec 32
  push : Msg → ErrorType
  addConnection : Bool
  connect : String → ErrorType

/-- What a handler did: the code it returns, the node it leaves, the messages it transmitted to
    endpoints and the one it sent back on the connection, and its callbacks. -/
structure Dispatched where
  res : Int
  node : NodeState
  sent : List (Endpoint × Msg) := []
  reply : Option Msg := none
  events : List NodeEvent := []

namespace NodeState

/-- `connection::disconnect`, as far as the node goes. -/
def disconnectConn (n : NodeState) (conn : PeerConn) : NodeState :=
  if conn.state = .disconnected ∨ conn.state = .disconnecting then n
    else n.onDisconnect conn.address

/-- The endpoint of a connection is to be checked. -/
def checkBinding (n : NodeState) (conn : PeerConn) : NodeState :=
  match conn.binding with
  | some ep => n.addCheckList ep
  | none => n

/-- The message `send_reg` builds. -/
def regMsg (n : NodeState) (cmd : ProtocolCmd) (ret : Int) (sequence : BitVec 32) : Msg where
  head :=
    { cmd := cmd
      type := 0
      ret := ret
      sequence := sequence
      srcBusId := n.tables.id }
  body :=
    { reg := some
        { busId := n.tables.id
          pid := n.tables.self.pid
          hostname := n.tables.self.hostname
          channels := n.tables.self.listen.map ChannelData.mk
          childrenIdMask := BitVec.ofNat 32 n.tables.self.childrenMask
          hasGlobalTree := n.tables.self.globalRouter } }

end NodeState

/-- A handler of data transfer changes nothing of the node. -/
def Handled.dispatched (handled : Handled) (n : NodeState) : Dispatched :=
  { res := handled.res.code
    node := n
    sent := handled.sent
    events := handled.events }

/-! ### Registration -/

/-- What `on_recv_node_reg_req` finds about a request that is complete. -/
inductive RegDecision where
  | notMatch
  | connected
  | existed (ep : Endpoint)
  | denied (code : ErrorType)
  | create (ep : Endpoint)
deriving DecidableEq, Repr

/-- The checks of `on_recv_node_reg_req` up to the creation of a new endpoint. -/
def NodeState.regDecision (n : NodeState) (conn : PeerConn) (reg : RegData) : RegDecision :=
  if conn.state = .connected then
    if conn.binding.any fun ep => ep.id = reg.busId then .connected else .notMatch
  else
    match n.tables.getEndpoint reg.busId with
    | some ep => .existed ep
    | none =>
        if n.tables.isChildNode reg.busId && (reg.hasGlobalTree && !n.tables.self.globalRouter) then
          .denied .accessDeny
        else if n.tables.isChildNode reg.busId && decide
          (n.tables.self.childrenMask ≤ reg.childrenIdMask.toNat) then
          .denied .atnodeMaskConflict
        else .create
          { id := reg.busId
            childrenMask := reg.childrenIdMask.toNat
            globalRouter := reg.hasGlobalTree
            listen := []
            pid := reg.pid
            hostname := reg.hostname }

/-- The answer to a registration: its code, the node and the connection after it, and the callbacks
    made. -/
structure RegAnswer where
  code : ErrorType
  node : NodeState
  conn : PeerConn
  events : List NodeEvent := []

/-- The addresses of an endpoint that could be connected to are those it listens on. -/
def Endpoint.listeningOn (ep : Endpoint) (results : List (String × ErrorType)) : Endpoint :=
  { ep with listen := (results.filter fun result => !result.2.failed).map Prod.fst }

/-- The end of `on_recv_node_reg_req` for a new endpoint, which listens on the addresses that could
    be connected to; one with no such address is checked soon. -/
def NodeState.register (n : NodeState) (env : HandlerEnv) (conn : PeerConn) (ep : Endpoint)
    (channels : List ChannelData) : RegAnswer :=
  let results := channels.map fun channel => (channel.address, env.connect channel.address)
  let listening := ep.listeningOn results
  let added := n.addEndpoint listening
  if added.1.failed then
    { code := added.1, node := added.2, conn := conn, events := [.error added.1.code] }
  else
    { code := .success
      node := if listening.listen.isEmpty then added.2.addCheckList listening else added.2
      conn := conn
      events := (results.filter fun result => result.2.failed).map fun result =>
        .error result.2.code }

/-- What `on_recv_node_reg_req` does on a request that is complete. A request for another id than
    that of the endpoint of the connection resets the connection. -/
def NodeState.answerReg (n : NodeState) (env : HandlerEnv) (conn : PeerConn) (reg : RegData) :
    RegAnswer :=
  match n.regDecision conn reg with
  | .notMatch =>
      { code := .atnodeBusIdNotMatch
        node := n.disconnectConn conn
        conn :=
          { conn with
            state := .disconnected
            binding := none
            regFd := false
            accessShareHost := false }
        events := [.error ErrorType.atnodeBusIdNotMatch.code] }
  | .connected => { code := .success, node := n, conn := conn }
  | .existed ep =>
      -- the host and the process must be the same
      if ep.pid ≠ reg.pid ∨ ep.hostname ≠ reg.hostname then
        { code := .atnodeIdConflict, node := n, conn := conn,
            events := [.error ErrorType.atnodeIdConflict.code] }
      else if env.addConnection then { code := .success, node := n, conn := conn }
      else
        { code := .atnodeNoConnection
          node := n
          conn := conn
          events := [.error ErrorType.atnodeNoConnection.code] }
  | .denied code => { code := code, node := n, conn := conn }
  | .create ep => n.register env conn ep reg.channels

/-- The end of `on_recv_node_reg_req`: a connection with a descriptor gets a response. -/
def sendRegRsp (env : HandlerEnv) (answer : RegAnswer) (sequence : BitVec 32) : Dispatched :=
  if answer.conn.regFd then
    let rsp :=
      answer.node.regMsg .nodeRegRsp answer.code.code
        (if sequence = 0#32 then env.sequence else sequence)
    { res := (env.push rsp).code
      node := if answer.code.failed then answer.node.disconnectConn answer.conn else answer.node
      reply := if (env.push rsp).failed then none else some rsp
      events := answer.events }
  else { res := 0, node := answer.node, events := answer.events }

/-- `on_recv_node_reg_req`. -/
def onRecvNodeRegReq (env : HandlerEnv) (n : NodeState) (conn : Option PeerConn) (m : Msg) :
    Dispatched :=
  match conn with
  | none => { res := 0, node := n }
  | some conn =>
      match m.body.reg with
      | none => sendRegRsp env { code := .badData, node := n, conn := conn } m.head.sequence
      | some reg => sendRegRsp env (n.answerReg env conn reg) m.head.sequence

/-- `on_recv_node_reg_rsp`: the node is up when the response is from its parent. -/
def onRecvNodeRegRsp (n : NodeState) (conn : Option PeerConn) (m : Msg) :
    Except NullPointer Dispatched :=
  match conn with
  | none => .ok { res := ErrorType.badData.code, node := n }
  | some conn =>
      if m.head.ret < 0 then
        let closed := (n.checkBinding conn).disconnectConn conn
        .ok
          { res := m.head.ret
            node :=
              if conn.address = n.fatherAddress && !n.actived then { closed with shutdown := true }
                else closed
            events := [.reg m.head.ret, .error m.head.ret] }
      else if n.status = .connectingParent then
        match m.body.reg with
        | none => .error .body
        | some reg =>
            -- the endpoint of the parent may not be there yet
            let registered :=
              if n.tables.isParentNode reg.busId then n.onParentRegDone.onActived
              else if n.tables.id ≠ reg.busId ∧
                  childrenMinId reg.busId reg.childrenIdMask.toNat ≤ n.tables.id ∧
                  n.tables.id ≤ childrenMaxId reg.busId reg.childrenIdMask.toNat
                    then n.onParentRegDone
              else n
            .ok { res := 0, node := registered, events := [.reg m.head.ret] }
      else .ok { res := 0, node := n, events := [.reg m.head.ret] }

/-! ### The other handlers -/

/-- `on_recv_custom_cmd_req`. -/
def onRecvCustomCmdReq (n : NodeState) (m : Msg) : Dispatched :=
  match m.body.custom with
  | none => { res := ErrorType.badData.code, node := n, events := [.error ErrorType.badData.code] }
  | some data => { res := 0, node := n, events := [.customCmd data.fromId data.commands] }

/-- `on_recv_node_conn_syn`. -/
def onRecvNodeConnSyn (env : HandlerEnv) (n : NodeState) (conn : Option PeerConn) (m : Msg) :
    Dispatched :=
  match m.body.conn.filter fun _ => conn.isSome with
  | none => { res := ErrorType.badData.code, node := n, events := [.error ErrorType.badData.code] }
  | some data =>
      let ret := env.connect data.address
      { res := 0, node := n, events := if ret.failed then [.error ret.code] else [] }

/-- `on_recv_node_ping`. -/
def onRecvNodePing (env : HandlerEnv) (n : NodeState) (conn : Option PeerConn) (m : Msg) :
    Dispatched :=
  match m.body.ping with
  | none => { res := ErrorType.badData.code, node := n }
  | some _ =>
      match conn.bind PeerConn.binding with
      | none => { res := 0, node := n }
      | some ep =>
          let sending :=
            sendMsg n.tables env.links.ctrl ep.id (m.init n.tables.id .nodePong 0 0 m.head.sequence)
          { res := sending.res.code, node := n, sent := sending.sent.toList }

/-- `on_recv_node_pong`, but for the statistics. -/
def onRecvNodePong (n : NodeState) (m : Msg) : Dispatched :=
  match m.body.ping with
  | none => { res := ErrorType.badData.code, node := n }
  | some _ => { res := 0, node := n }

/-- `dispatch_msg`. With `on_debug` set the binding of a missing connection is looked up first. -/
def dispatchMsg (env : HandlerEnv) (n : NodeState) (conn : Option PeerConn) (m : Option Msg) :
    Except NullPointer Dispatched :=
  match m with
  | none => .ok { res := ErrorType.badData.code, node := n }
  | some m =>
      if n.onDebug && conn.isNone then .error .connection
      else
        match m.head.cmd with
        | .invalid => .ok { res := ErrorType.atnodeInvalidMsg.code, node := n }
        | .other _ _ => .ok { res := ErrorType.atnodeInvalidMsg.code, node := n }
        | .dataTransformReq =>
            .ok ((onRecvDataTransferReq n.tables env.links env.sequence conn.isSome m).dispatched n)
        | .dataTransformRsp => .ok ((onRecvDataTransferRsp conn.isSome m).dispatched n)
        | .customCmdReq => .ok (onRecvCustomCmdReq n m)
        | .nodeSyncReq => .ok { res := 0, node := n }
        | .nodeSyncRsp => .ok { res := 0, node := n }
        | .nodeRegReq => .ok (onRecvNodeRegReq env n conn m)
        | .nodeRegRsp => onRecvNodeRegRsp n conn m
        | .nodeConnSyn => .ok (onRecvNodeConnSyn env n conn m)
        | .nodePing => .ok (onRecvNodePing env n conn m)
        | .nodePong => .ok (onRecvNodePong n m)

end LibAtbus.Node
