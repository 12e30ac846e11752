/-
Module: LibAtbus.Node.StreamLink
Layer: Node
Purpose: A node on a stream channel: `node::get_iostream_conf`, which makes the configuration of the
  channel from that of the node, and `msg_handler::send_msg` on such a connection. How a message is
  packed is a parameter.
Trusted boundary: human-reviewed spec
Main exports: NodeConf, getIostreamConf, MsgHandler.sendMsg, wireBytes
-/
import LibAtbus.Channel.IoStream
import LibAtbus.Node.Protocol

namespace LibAtbus.Node

open Channel Detail

/-- The sizes of `node::conf_t`; a stream does not use `recv_buffer_size`. -/
structure NodeConf where
  msgSize : Nat
  recvBufferSize : Nat
  sendBufferSize : Nat
  sendBufferNumber : Nat
deriving DecidableEq, Repr

/-- `node::get_iostream_conf`. -/
def getIostreamConf (conf : NodeConf) : StreamConf :=
  { ioStreamInitConfigure with
    recvBufferLimitSize := conf.msgSize
    recvBufferMaxSize := conf.msgSize
    sendBufferStatic := conf.sendBufferNumber
    sendBufferMaxSize := conf.sendBufferSize
    sendBufferLimitSize := conf.msgSize }

/-- `msg_handler::send_msg` on a stream connection, with what is queued there. -/
def MsgHandler.sendMsg (pack : Msg → List UInt8) (conf : NodeConf) (heap : Heap) (reqSize : Nat)
    (uvWrite : Int) (writeBuffers : BufferManager) (m : Msg) : Except Fault Channel.SendResult :=
  let packed := pack m
  if conf.msgSize ≤ packed.length then .ok ⟨.buffLimit, writeBuffers, none⟩
  else ioStreamSend (getIostreamConf conf) heap reqSize uvWrite writeBuffers packed

/-- The bytes libuv writes: as many of the frame as the length it was given says. -/
def wireBytes (result : Channel.SendResult) : List UInt8 :=
  match result.frame with
  | some (bytes, length) => bytes.take length
  | none => []

end LibAtbus.Node
