/-
Module: LibAtbus.Node.StreamHandshake
Layer: Node
Purpose: The registration of two nodes over the bytes of their stream. What a side sends is packed,
  framed and written by `msg_handler::send_msg`; it arrives in reads of any size, of which each
  completed message is one callback of `iostream_on_recv_cb` in `src/atbus_connection.cpp`. Between
  two callbacks both sides may do anything else. A side that closes the connection with `uv_close`
  drops the end of what it has written; behind the rest the other side reads the end of the stream.
Trusted boundary: human-reviewed spec; `malloc` has memory for what is read
Main exports: Inbound, Writes, CallbackSetting, PeerConn.onRecved, StreamDuplex,
  StreamHandshakeEvent, StreamHandshakeStep, StreamHandshakeStart
-/
import LibAtbus.Node.Handshake
import LibAtbus.Node.Links

namespace LibAtbus.Node

open Channel Detail Transitions

/-- The stream to one side: what was written and not read yet, whether nothing comes behind it any
    more, the connection that reads it, and the callbacks of the last read that are still to be
    made. -/
structure Inbound where
  wire : List UInt8
  ended : Bool
  stream : StreamState
  recved : List Recved

/-- What a side sends, put on the stream to the other side. A message that is sent was accepted by
    `send_msg`; whatever was queued for writing then is not told. -/
inductive Writes (pack : Msg → List UInt8) (conf : NodeConf) :
    List StreamItem → Inbound → Inbound → Prop where
  | nothing {inbound : Inbound} : Writes pack conf [] inbound inbound
  | msg {m : Msg} {items : List StreamItem} {inbound after : Inbound} {heap : Heap} {reqSize : Nat}
      {uvWrite : Int}
      {writeBuffers : BufferManager} {result : Channel.SendResult} (open' : inbound.ended = false)
      (sending : MsgHandler.sendMsg pack conf heap reqSize uvWrite writeBuffers m = .ok result)
      (accepted : result.res = .success)
      (later :
        Writes pack conf items { inbound with wire := inbound.wire ++ wireBytes result } after) :
      Writes pack conf (.msg m :: items) inbound after
  | closed {items : List StreamItem} {inbound after : Inbound} {kept lost : List UInt8}
      (open' : inbound.ended = false) (split : inbound.wire = kept ++ lost)
      (later : Writes pack conf items { inbound with wire := kept, ended := true } after) :
      Writes pack conf (.closed :: items) inbound after

/-- What a callback meets: the node, what its handlers call, and the bytes the `src_bus_id` of the
    new message has. -/
structure CallbackSetting where
  node : NodeState
  env : RegEnv
  srcBusId : BusId

/-- What is unpacked in a callback. -/
def CallbackSetting.payload (setting : CallbackSetting) (bytes : List UInt8) : Payload where
  bytes := bytes
  env := setting.env.toHandlerEnv
  faulty := none
  srcBusId := setting.srcBusId

/-- `iostream_on_recv_cb`, as far as the connection goes. A connection that was released meanwhile
    is no longer known to its stream. -/
def PeerConn.onRecved (unpack : Unpack) (conn : PeerConn) (setting : CallbackSetting)
    (recved : Recved) : Except Escape (PeerConn × List StreamItem) :=
  if recved.status.failed ∨ recved.data = [] then .ok (conn, [])
  else if conn.takesPush then
    match unpackMsg unpack (setting.payload recved.data) with
    | .error escape => .error escape
    | .ok none => .ok (conn, [])
    | .ok (some m) => .ok (conn.onMessage setting.env setting.node m)
  else .ok (conn, [])

/-- Both sides of the connection, and the stream to each of them. -/
structure StreamDuplex where
  party : Peer → PeerConn
  inbound : Peer → Inbound

/-- What happens at a side, with what it sends: something that nothing arrived for, a read, a
    callback, or the end of the stream. -/
inductive StreamHandshakeEvent where
  | acted (event : HandshakeEvent) (sent : List StreamItem)
  | read
  | called (sent : List StreamItem)
  | ended

/-- What is sent. -/
def StreamHandshakeEvent.sent : StreamHandshakeEvent → List StreamItem
  | .acted _ sent => sent
  | .read => []
  | .called sent => sent
  | .ended => []

/-- One event at a side. The callbacks of a read are made before the next read. -/
inductive StreamHandshakeStep (pack : Msg → List UInt8) (unpack : Unpack) (conf : Peer → NodeConf)
    (selves : Peer → Endpoint) (d : StreamDuplex) : Peer × StreamHandshakeEvent → StreamDuplex →
      Prop where
  | acted {s : Peer} {event : HandshakeEvent} {after : PeerConn} {sent : List StreamItem}
      {inbound : Inbound}
      (at' : event.At (selves s)) (handled : (d.party s).handle event none = some (after, sent))
      (written : Writes pack (conf s) sent (d.inbound s.other) inbound) :
      StreamHandshakeStep pack unpack conf selves d (s, .acted event sent)
        ⟨Function.update d.party s after, Function.update d.inbound s.other inbound⟩
  | read {s : Peer} {chunk rest : List UInt8} {heap : Heap} {stream : StreamState}
      (takes : (d.party s).takesPush = true) (called : (d.inbound s).recved = [])
      (arrived : (d.inbound s).wire = chunk ++ rest) (memory : ∀ size, (heap size).isSome = true)
      (taken : recvStep (getIostreamConf (conf s)) (d.inbound s).stream ⟨chunk, heap⟩ stream) :
      StreamHandshakeStep pack unpack conf selves d (s, .read)
        { d with
          inbound := Function.update d.inbound s
            { d.inbound s with
              wire := rest
              stream := stream
              recved := stream.made.drop (d.inbound s).stream.made.length } }
  | called {s : Peer} {setting : CallbackSetting} {recved : Recved} {later : List Recved}
      {after : PeerConn} {sent : List StreamItem} {inbound : Inbound}
        (at' : setting.node.tables.self.SameProcess (selves s))
      (next : (d.inbound s).recved = recved :: later)
      (handled : (d.party s).onRecved unpack setting recved = .ok (after, sent))
      (written : Writes pack (conf s) sent (d.inbound s.other) inbound) :
      StreamHandshakeStep pack unpack conf selves d (s, .called sent)
        ⟨Function.update d.party s after,
          Function.update (Function.update d.inbound s { d.inbound s with recved := later }) s.other
            inbound⟩
  | ended {s : Peer} (takes : (d.party s).takesPush = true) (called : (d.inbound s).recved = [])
      (read : (d.inbound s).wire = []) (ended : (d.inbound s).ended = true) :
      StreamHandshakeStep pack unpack conf selves d (s, .ended)
        { d with party := Function.update d.party s (d.party s).reset }

/-- Where a connection begins: nothing was written yet, and both ends of the stream are fresh. -/
structure StreamHandshakeStart (conf : Peer → NodeConf) (heap : Peer → Heap)
    (d : StreamDuplex) : Prop where
  connecting : ∀ s, (d.party s).state = .connecting
  fresh : ∀ s, ∃ contents, d.inbound s =
    { wire := []
      ended := false
      stream := .start (getIostreamConf (conf s)) (heap s) contents
      recved := [] }

end LibAtbus.Node
