/-
Module: LibAtbus.Node.Links
Layer: Node
Purpose: The messages of one node to another over one channel: `msg_handler::send_msg` of
  `src/atbus_msg_handler.cpp` on the one side, and on the other the loop of `mem_proc_fn` with the
  calls of `mem_recv` it makes, into the static buffer of `node::init`, or `iostream_on_recv_cb` for
  what a read of the stream completes. How a message is packed and unpacked is a parameter. The
  receiving node also does other things meanwhile, which may leave it in any state.
Trusted boundary: human-reviewed spec; what libuv was given for writing arrives in order, in pieces
  of any size, and `malloc` has memory for what is read
Main exports: RecvSetting, LinkEvent, MsgHandler.sendMsgMem, memRecvCalls, MemLink, MemLinkStep,
  iostreamCallbacks, StreamLink, StreamLinkStep
-/
import LibAtbus.Channel.MemChannel
import LibAtbus.Node.Receive
import LibAtbus.Node.Registration
import LibAtbus.Node.StreamLink

namespace LibAtbus.Node

open Channel Detail

/-- What the receiving of a block meets, and what its handling meets; a stream does not look at the
    clock. -/
structure RecvSetting where
  clock : Nat
  conn : PeerConn
  env : HandlerEnv
  faulty : Option Endpoint
  srcBusId : BusId

/-- A block that is delivered. -/
def RecvSetting.payload (setting : RecvSetting) (bytes : List UInt8) : Payload where
  bytes := bytes
  env := setting.env
  faulty := setting.faulty
  srcBusId := setting.srcBusId

/-- A message is sent, the node takes what its channel delivers, with what became of it and what was
    reported of the channel, or does so until the handling of a block released the connection and
    the receiving goes on with `next`, or it goes on with something else. -/
inductive LinkEvent where
  | sent (m : Msg) (conn : PeerConn) (res : ErrorType)
  | received (settings : List RecvSetting) (received : List Received) (events : List NodeEvent)
  | released (settings : List RecvSetting) (next : RecvSetting) (received : List Received)
      (events : List NodeEvent)
  | elsewhere (n : NodeState)

/-! ### Memory channels -/

/-- The size of the static buffer that `node::init` makes. -/
def NodeConf.staticBufferSize (conf : NodeConf) : Nat := Word64.wrap (conf.msgSize + headSize + 16)

/-- `msg_handler::send_msg` on a connection that pushes to a memory channel. -/
def MsgHandler.sendMsgMem (pack : Msg → List UInt8) (conf : NodeConf) (conn : PeerConn)
    (channel : MemChannel) (m : Msg) : Option (ErrorType × MemChannel) :=
  let packed := pack m
  if conf.msgSize ≤ packed.length then some (.buffLimit, channel)
  else if conn.takesPush then memSend channel packed
  else some (.notInited, channel)

/-- `iostream_on_recv_cb` for the callbacks of a read, in order. -/
def iostreamCallbacks (unpack : Unpack) :
    List (RecvSetting × Recved) → NodeState →
      Except Escape (NodeState × List Received × List NodeEvent)
  | [], n => .ok (n, [], [])
  | (setting, recved) :: later, n => do
      let done ← iostreamOnRecvCb unpack n (some setting.conn) recved.status
          (setting.payload recved.data)
      let (after, received, events) ← iostreamCallbacks unpack later done.node
      return (after, done.received ++ received, done.events ++ events)

/-- What was written and not read yet, the receiving side of the stream, and the node there. -/
structure StreamLink where
  wire : List UInt8
  stream : StreamState
  receiver : NodeState

/-- One event over a stream that stays open. Whatever is queued for writing then, a message is sent
    over a connection that takes it or is not; a read brings some of the bytes that were written. -/
inductive StreamLinkStep (pack : Msg → List UInt8) (unpack : Unpack) (conf : NodeConf)
    (peer : StreamConf) (link : StreamLink) : LinkEvent → StreamLink → Prop where
  | sent {m : Msg} {conn : PeerConn} {heap : Heap} {reqSize : Nat} {uvWrite : Int}
      {writeBuffers : BufferManager} {result : Channel.SendResult} (takes : conn.takesPush = true)
      (sending : MsgHandler.sendMsg pack conf heap reqSize uvWrite writeBuffers m = .ok result) :
      StreamLinkStep pack unpack conf peer link (.sent m conn result.res)
        { link with wire := link.wire ++ wireBytes result }
  | unsent {m : Msg} {conn : PeerConn} (down : conn.takesPush = false) :
      StreamLinkStep pack unpack conf peer link
        (.sent m conn (if conf.msgSize ≤ (pack m).length then .buffLimit else .notInited)) link
  | received {chunk rest : List UInt8} {heap : Heap} {stream : StreamState}
      {settings : List RecvSetting}
      {n : NodeState} {received : List Received} {events : List NodeEvent}
        (arrived : link.wire = chunk ++ rest)
      (memory : ∀ size, (heap size).isSome = true)
        (read : recvStep peer link.stream ⟨chunk, heap⟩ stream)
      (called : settings.length = (stream.made.drop link.stream.made.length).length)
      (handled :
        iostreamCallbacks unpack (settings.zip (stream.made.drop link.stream.made.length))
        link.receiver =
        .ok (n, received, events)) :
      StreamLinkStep pack unpack conf peer link (.received settings received events) ⟨rest, stream,
        n⟩
  | elsewhere {n : NodeState} :
      StreamLinkStep pack unpack conf peer link (.elsewhere n) { link with receiver := n }

end LibAtbus.Node
