/-
Module: LibAtbus.Node.StreamCallbacks
Layer: Node
Purpose: The callbacks that a node gives to its stream channel, from `src/atbus_connection.cpp`, and
  the events that the channel calls them with. What a callback does is kept with the pointer it
  followed although it was NULL, so that what was done before is seen.
Trusted boundary: human-reviewed spec
Main exports: LinkConn, StreamNode, StreamEvent, CallbackDone, iostreamOnAccepted,
  iostreamOnListenCb, iostreamOnConnectedCb, iostreamOnRecved, iostreamOnDisconnected,
  StreamEvent.handle, StreamSource, StreamSource.events
-/
import LibAtbus.Channel.ConnPool
import LibAtbus.Channel.IoStream
import LibAtbus.Channel.StreamSetup
import LibAtbus.Node.Receive

namespace LibAtbus.Node

open Channel

/-- `connection`, with the `io_stream_connection` in `conn_data_` once the functions of the stream
    channel are set. -/
structure LinkConn where
  peer : PeerConn
  ios : Option Nat := none
deriving DecidableEq, Repr

/-- A node with the connections it has created, and for each `io_stream_connection` which of them
    `data` points to. -/
structure StreamNode where
  state : NodeState
  conns : List LinkConn
  data : Nat → Option Nat

/-- What the callbacks meet: what the handlers of a message call, the endpoint that one more fault
    removes, and the bytes the `src_bus_id` of a new message has. -/
structure CallbackEnv where
  handlers : HandlerEnv
  faulty : Option Endpoint
  srcBusId : BusId

def CallbackEnv.payload (env : CallbackEnv) (bytes : List UInt8) : Payload where
  bytes := bytes
  env := env.handlers
  faulty := env.faulty
  srcBusId := env.srcBusId

/-- What a callback did: the node, what was reported, and what ended it early. -/
structure CallbackDone where
  node : StreamNode
  events : List NodeEvent := []
  escape : Option Escape := none

namespace StreamNode

variable (n : StreamNode)

/-- The `data` of an `io_stream_connection`. -/
def connOf (fd : Nat) : Option PeerConn := (n.data fd).bind fun i => n.conns[i]?.map LinkConn.peer

def setConn (i : Nat) (change : LinkConn → LinkConn) : StreamNode :=
  { n with conns := n.conns.modify i change }

/-- `connection::reset`. The functions of the stream channel release the `io_stream_connection`. -/
def resetConn (i : Nat) : StreamNode :=
  match n.conns[i]? with
  | none => n
  | some conn =>
      let closed := n.setConn i fun conn =>
        { conn with
          peer :=
            { conn.peer with
              state := .disconnected, binding := none, regFd := false, accessShareHost := false }
          ios := none }
      if conn.peer.state = .disconnected ∨ conn.peer.state = .disconnecting then closed
      else
        { closed with
          state := n.state.disconnectConn conn.peer
          data := match conn.ios with
            | some fd => Function.update n.data fd none
            | none => n.data }

/-- `node::on_new_connection`: the node registers itself, unless it is a temporary one. -/
def onNewConnection (env : CallbackEnv) (i : Nat) : CallbackDone :=
  if n.state.tables.id = 0#64 then { node := n }
  else
    let pushed := env.handlers.push (n.state.regMsg .nodeRegReq 0 env.handlers.sequence)
    if pushed.failed then { node := n.resetConn i, events := [.error pushed.code] }
      else { node := n }

end StreamNode

/-- A callback follows the connection it was called with. -/
def nullConnection (n : StreamNode) : CallbackDone :=
  { node := n, escape := some (.nullPointer .connection) }

/-! ### Callbacks -/

/-- `connection::iostream_on_accepted`; without a node the new connection is closed, which NULL
    cannot be. -/
def iostreamOnAccepted (env : CallbackEnv) (owner : Option StreamNode) (report : StreamReport) :
    Option CallbackDone :=
  owner.map fun n =>
    let i := n.conns.length
    let conn : LinkConn :=
      { peer :=
          { state := .handshaking, binding := none, regFd := true, accessShareHost := false
            address := "" }
        ios := report.conn }
    let created := { n with conns := n.conns ++ [conn] }
    match report.conn with
    | none => nullConnection created
    | some fd => { created with
        data := Function.update created.data fd (some i) }.onNewConnection env i

/-- `connection::iostream_on_listen_cb`, for the connection of its `connection_async_data`. -/
def iostreamOnListenCb (n : StreamNode) (i : Nat) (report : StreamReport) : CallbackDone :=
  if report.errcode.failed then
    { node := n.setConn i fun conn => { conn with
      peer := { conn.peer with state := .disconnected } }
      events := [.error report.errcode.code] }
  else
    let listening := n.setConn i fun conn =>
      { conn with
        peer := { conn.peer with state := .connected, regFd := true }, ios := report.conn }
    match report.conn with
    | none => nullConnection listening
    | some fd => { node := { listening with data := Function.update n.data fd (some i) } }

/-- `connection::iostream_on_connected_cb`. -/
def iostreamOnConnectedCb (env : CallbackEnv) (n : StreamNode) (i : Nat) (report : StreamReport) :
    CallbackDone :=
  if report.errcode.failed then { node := n.resetConn i, events := [.error report.errcode.code] }
  else
    let connected := n.setConn i fun conn =>
      { conn with
        peer :=
          { conn.peer with
            regFd := true
            state := if conn.peer.binding.isNone then .handshaking else .connected }
        ios := report.conn }
    match report.conn with
    | none => nullConnection connected
    | some fd => { connected with data := Function.update n.data fd (some i) }.onNewConnection env i

/-- `connection::iostream_on_recv_cb`, which follows the `io_stream_connection` first of all. -/
def iostreamOnRecved (unpack : Unpack) (env : CallbackEnv) (n : StreamNode) (conn : Option Nat)
    (status : ErrorType) (bytes : List UInt8) : CallbackDone :=
  match conn with
  | none => nullConnection n
  | some fd =>
      match iostreamOnRecvCb unpack n.state (n.connOf fd) status (env.payload bytes) with
      | .error escape => { node := n, escape := some escape }
      | .ok done =>
          { node := { n with state := done.node }
            events := done.events ++ done.received.flatMap Received.events }

/-- `connection::iostream_on_disconnected`. A connection that was closed actively is released
    already. -/
def iostreamOnDisconnected (n : StreamNode) (conn : Option Nat) : CallbackDone :=
  match conn with
  | none => nullConnection n
  | some fd =>
      match n.data fd with
      | none => { node := n }
      | some i => { node := n.resetConn i }

/-! ### Events -/

/-- A call of one of the callbacks. -/
inductive StreamEvent where
  | accepted (report : StreamReport)
  | listened (i : Nat) (report : StreamReport)
  | connected (i : Nat) (report : StreamReport)
  | received (conn : Option Nat) (status : ErrorType) (bytes : List UInt8)
  | disconnected (conn : Option Nat)
deriving DecidableEq, Repr

/-- The channel of a node has it as its `data`. -/
def StreamEvent.handle (unpack : Unpack) (env : CallbackEnv) (n : StreamNode) :
    StreamEvent → CallbackDone
  | .accepted report => (iostreamOnAccepted env (some n) report).getD { node := n }
  | .listened i report => iostreamOnListenCb n i report
  | .connected i report => iostreamOnConnectedCb env n i report
  | .received conn status bytes => iostreamOnRecved unpack env n conn status bytes
  | .disconnected conn => iostreamOnDisconnected n conn

/-- What makes the channel call the callbacks: a listener that is called by libuv, with what becomes
    of the new connection; a call to listen or connect for one of the node's connections; the end of
    a lookup or of a connect; a read; and the end of a close. -/
inductive StreamSource where
  | accept (pipe : Bool) (channel : StreamChannel) (status : Int) (uv : UvOutcome)
  | call (op : StreamOp) (i : Nat) (channel : Option StreamChannel) (addr : ChannelAddress)
      (uv : UvOutcome)
  | resolved (op : StreamOp) (i : Nat) (channel : StreamChannel) (addr : ChannelAddress)
      (status : Int) (res : Option AddrInfo) (uv : UvOutcome)
  | allConnected (i : Nat) (channel : StreamChannel) (pipe : Bool) (status : Int) (uv : UvOutcome)
  | read (fd : Nat) (conf : StreamConf) (heap : Detail.Heap) (conn : StreamConnection) (nread : Int)
  | onClose (pool : ConnPoolState) (conn : Nat) (connection : Channel.Connection)

/-- The callback that a listen or a connect is given. -/
def StreamEvent.reported : StreamOp → Nat → StreamReport → StreamEvent
  | .listen => .listened
  | .connect => .connected

/-- The callback of a listener. -/
def acceptCb (pipe : Bool) : StreamChannel → Int → UvOutcome → StreamReport :=
  if pipe then ioStreamPipeConnectionCb else ioStreamTcpConnectionCb

/-- The events of a read, which are for the connection that was read from. -/
def readEvents (fd : Nat) (conf : StreamConf) (heap : Detail.Heap) (conn : StreamConnection)
    (nread : Int) : List StreamEvent :=
  match ioStreamOnRecvReadFn conf heap conn nread with
  | .error _ => []
  | .ok (_, made) => made.map fun recved => .received (some fd) recved.status recved.data

/-- The events of a close; the callback of an active disconnect is none of the node's. -/
def closedEvents (pool : ConnPoolState) (conn : Nat) (connection : Channel.Connection) :
    List StreamEvent :=
  (closeEvents pool conn connection).filterMap fun event =>
    match event with
    | .disconnected found => some (.disconnected (some found))
    | .actDisconnected _ => none

def StreamSource.events : StreamSource → List StreamEvent
  | .accept pipe channel status uv => [.accepted (acceptCb pipe channel status uv)]
  | .call op i channel addr uv => (op.call channel addr uv).reports.map (.reported op i)
  | .resolved op i channel addr status res uv =>
      (op.dnsCb channel addr status res uv).reports.map (.reported op i)
  | .allConnected i channel pipe status uv =>
      [.connected i (ioStreamAllConnectedCb channel pipe status uv)]
  | .read fd conf heap conn nread => readEvents fd conf heap conn nread
  | .onClose pool conn connection => closedEvents pool conn connection

end LibAtbus.Node
