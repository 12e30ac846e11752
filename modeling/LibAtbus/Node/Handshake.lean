/-
Module: LibAtbus.Node.Handshake
Layer: Node
Purpose: The registration of two nodes with each other over one stream connection, from
  `src/atbus_connection.cpp`, `src/atbus_node.cpp` and `src/atbus_msg_handler.cpp`. Both sides of
  the connection register when it comes to be: the request of each is on its way while the other
  sends its own. What the tables of a node are when a message arrives, and what its channels return,
  is given with each event. A side that closes the connection may lose messages that are still on
  their way; the other side gets the end of the stream behind the rest.
Trusted boundary: human-reviewed spec
Main exports: StreamItem, PeerConn.reset, PeerConn.opened, PeerConn.onNewConnection,
  PeerConn.onMessage, HandshakeEvent, PeerConn.handle, handshake, HandshakeStart
-/
import LibAtbus.Foundation.Duplex
import LibAtbus.Node.Registration

namespace LibAtbus.Node

open Transitions

/-- What arrives over a stream: a message, or that the other side closed it. -/
inductive StreamItem where
  | msg (m : Msg)
  | closed
deriving DecidableEq, Repr

namespace PeerConn

/-- `connection::reset`, as far as the connection goes. -/
def reset (conn : PeerConn) : PeerConn :=
  { conn with
    state := .disconnected
    binding := none
    regFd := false
    accessShareHost := false }

/-- `iostream_on_accepted` and `iostream_on_connected_cb`, up to the registration. -/
def opened (conn : PeerConn) : PeerConn :=
  { conn with
    regFd := true
    state := if conn.binding.isNone then .handshaking else .connected }

/-- `node::on_new_connection`, which registers the node, unless it is a temporary one. -/
def onNewConnection (conn : PeerConn) (env : RegEnv) (n : NodeState) : PeerConn × List StreamItem :=
  if n.tables.id = 0#64 then (conn, [])
  else
    let m := n.regMsg .nodeRegReq 0 env.sequence
    if (env.send conn m).failed then (conn.reset, [.closed]) else (conn, [.msg m])

/-- What the other side sees of a connection that was closed. -/
def closing (conn : PeerConn) : List StreamItem := if conn.takesPush then [] else [.closed]

/-- What a message does to the connection it arrives over: a request is handled, a refusal
    disconnects, and no other message is about the connection. -/
def onMessage (conn : PeerConn) (env : RegEnv) (n : NodeState) (m : Msg) :
    PeerConn × List StreamItem :=
  match m.head.cmd with
  | .nodeRegReq =>
      let handled := regReq env n conn m
      (handled.conn, handled.done.reply.toList.map .msg ++ handled.conn.closing)
  | .nodeRegRsp => if m.head.ret < 0 then (conn.disconnect, conn.disconnect.closing) else (conn, [])
  | _ => (conn, [])

end PeerConn

/-- What happens at one side: the connection comes to be, what arrived is taken, the node resets the
    connection, an endpoint that is reset lets go of it, or the node sends another message over
    it. -/
inductive HandshakeEvent where
  | opened (n : NodeState) (env : RegEnv)
  | received (n : NodeState) (env : RegEnv)
  | reset
  | released
  | sent (m : Msg)

/-- The message is about a registration. -/
def Msg.isReg (m : Msg) : Bool := m.head.cmd = .nodeRegReq || m.head.cmd = .nodeRegRsp

/-- What arrived is about a registration. -/
def StreamItem.isReg : StreamItem → Bool
  | .msg m => m.isReg
  | .closed => false

/-- What an event does, with what arrived if it takes something: the connection after it, and what
    is sent. -/
def PeerConn.handle (conn : PeerConn) :
    HandshakeEvent → Option StreamItem → Option (PeerConn × List StreamItem)
  | .opened n env, none =>
      if conn.state = .connecting then some (conn.opened.onNewConnection env n) else none
  | .received n env, some (.msg m) => if conn.takesPush then some (conn.onMessage env n m) else none
  | .received _ _, some .closed =>
      if conn.state = .disconnected then none else some (conn.reset, [])
  | .reset, none => if conn.state = .disconnected then none else some (conn.reset, [.closed])
  | .released,
      none => if conn.state = .disconnected then none else some ({ conn with binding := none }, [])
  | .sent m, none => if conn.takesPush && !m.isReg then some (conn, [.msg m]) else none
  | _, _ => none

/-- Two endpoints are of one process. -/
def Endpoint.SameProcess (ep other : Endpoint) : Prop :=
  ep.id = other.id ∧ ep.pid = other.pid ∧ ep.hostname = other.hostname

/-- The event happens at a node that is of the process of an endpoint. -/
def HandshakeEvent.At (self : Endpoint) : HandshakeEvent → Prop
  | .opened n _ => n.tables.self.SameProcess self
  | .received n _ => n.tables.self.SameProcess self
  | .reset => True
  | .released => True
  | .sent _ => True

/-- What the two nodes do at their sides; `uv_close` drops what was not written yet. -/
def handshake (selves : Peer → Endpoint) : Protocol PeerConn StreamItem HandshakeEvent where
  behaves s event conn item after sent :=
    event.At (selves s) ∧ conn.handle event item = some (after, sent)
  loses conn item := conn.state = .disconnected ∧ item ≠ .closed

/-- Where a connection begins: nothing is on its way, and a side that connects may have its endpoint
    already. -/
structure HandshakeStart (d : Duplex PeerConn StreamItem) : Prop where
  connecting : ∀ s, (d.party s).state = .connecting
  inbox : ∀ s, d.inbox s = []

end LibAtbus.Node
