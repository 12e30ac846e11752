/-
Module: LibAtbus.Channel.IoStream
Layer: Channel
Purpose: The framing of `src/channel_io_stream.cpp`: the frame `io_stream_send` builds, and the two
  libuv callbacks that take a byte stream apart again, with the small head buffer and the block a
  larger frame is collected in. Every access to either is checked against the bytes it may touch,
  and the assertions on `nread` are checked; a failing check ends the call with a fault. The
  callbacks of the user are recorded, not run.
Trusted boundary: human-reviewed spec; libuv puts the bytes of a read into the buffer it was offered
Main exports: StreamConf, ioStreamInitConfigure, ioStreamSend, StreamConnection,
  makeStreamConnection, ioStreamOnRecvAllocFn, ioStreamOnRecvReadFn, recvStep
-/
import LibAtbus.Channel.ConnPool
import LibAtbus.Detail.Buffer
import LibAtbus.Detail.Crc
import LibAtbus.Detail.Vint

namespace LibAtbus.Channel

open Detail Word64 ByteMemory

/-- The buffer settings of `io_stream_conf`. -/
structure StreamConf where
  sendBufferStatic : Nat
  recvBufferStatic : Nat
  sendBufferMaxSize : Nat
  sendBufferLimitSize : Nat
  recvBufferMaxSize : Nat
  recvBufferLimitSize : Nat
deriving DecidableEq, Repr

/-- `ATBUS_MACRO_MSG_LIMIT`. -/
def msgLimit : Nat := 65536

/-- `io_stream_init_configure`. -/
def ioStreamInitConfigure : StreamConf :=
  { sendBufferStatic := 0, recvBufferStatic := 2
    sendBufferMaxSize := 0, sendBufferLimitSize := msgLimit
    recvBufferMaxSize := msgLimit * 2, recvBufferLimitSize := msgLimit }

/-- `ATBUS_MACRO_DATA_SMALL_SIZE`, the size of the head buffer. -/
def dataSmallSize : Nat := 512

/-- How `io_stream_make_connection` sets up a buffer manager. -/
def makeBuffers (heap : Heap) (maxSize static : Nat) : BufferManager :=
  let manager := BufferManager.reset.setLimit maxSize 0
  if 0 < maxSize ∧ 0 < static then .setMode heap maxSize static else manager

/-! ### Sending -/

/-- What a call of `io_stream_send` leaves: its result, the send queue, and, if the frame went to
    libuv, the bytes behind the request in its block and the length given to `uv_buf_init`. -/
structure SendResult where
  res : ErrorType
  writeBuffers : BufferManager
  frame : Option (List UInt8 × Nat)

/-- The checksum field of a frame. -/
def crcField (payload : List UInt8) : List UInt8 := toLE 4 (crc32 0 payload).toNat

/-- `io_stream_send` on a connection, where `reqSize` is `sizeof(uv_write_t)` and `uvWrite` what
    `uv_write` returns. -/
def ioStreamSend (conf : StreamConf) (heap : Heap) (reqSize : Nat) (uvWrite : Int)
    (writeBuffers : BufferManager) (buf : List UInt8) : Except Fault SendResult :=
  if 0 < conf.sendBufferLimitSize ∧ conf.sendBufferLimitSize < buf.length then
    .ok ⟨.invalidSize, writeBuffers, none⟩
  else
    let vint := writeVint buf.length 16
    let total := wrap (reqSize + 4 + vint.1 + buf.length)
    match writeBuffers.pushBack heap total with
    | (.success, writeBuffers) => do
        let writeBuffers ← writeBuffers.writeBack reqSize (crcField buf)
        let writeBuffers ← writeBuffers.writeBack (reqSize + 4) (vint.2.take vint.1)
        let writeBuffers ← writeBuffers.writeBack (reqSize + 4 + vint.1) buf
        let frame ← writeBuffers.readBack reqSize (sub total reqSize)
        if uvWrite ≠ 0 then
          return ⟨.writeFailed, (writeBuffers.popBack total true).2, none⟩
        else return ⟨.success, writeBuffers, some (frame, sub total reqSize % 2 ^ 32)⟩
    | (res, writeBuffers) => .ok ⟨res, writeBuffers, none⟩

/-! ### Receiving -/

/-- `read_head_t`. -/
structure ReadHead where
  buffer : Memory
  len : Nat

/-- The receiving part of `io_stream_connection`. -/
structure StreamConnection where
  status : ConnStatus
  readHead : ReadHead
  readBuffers : BufferManager

/-- A connection from `io_stream_make_connection` that has been set connected; the head buffer holds
    whatever it holds. -/
def makeStreamConnection (conf : StreamConf) (heap : Heap) (contents : Memory) : StreamConnection :=
  { status := .connected
    readHead := { buffer := contents, len := 0 }
    readBuffers := makeBuffers heap conf.recvBufferMaxSize conf.recvBufferStatic }

namespace StreamConnection

/-- `io_stream_disconnect`, as far as receiving sees it. -/
def disconnect (conn : StreamConnection) : StreamConnection :=
  if conn.status = .connected then { conn with status := .disconnecting } else conn

/-- The received part of the head buffer. -/
def head (conn : StreamConnection) : List UInt8 :=
  readBytes conn.readHead.buffer 0 conn.readHead.len

/-- Whether a read goes to the head buffer: there is no block, or none with room. -/
def inHead (conn : StreamConnection) : Bool :=
  match conn.readBuffers.back with
  | none => true
  | some block => block.size = 0

end StreamConnection

/-- The `uv_buf_t` of a read: a range of the head buffer or of the block at the back. -/
inductive UvBuf where
  | null
  | head (offset len : Nat)
  | block (offset len : Nat)
deriving DecidableEq, Repr

/-- The length of a `uv_buf_t`. -/
def UvBuf.len : UvBuf → Nat
  | .null => 0
  | .head _ len => len
  | .block _ len => len

/-- `io_stream_on_recv_alloc_fn`. On a connection that is not connected it clears the buffer and
    goes on. -/
def ioStreamOnRecvAllocFn (conn : StreamConnection) : UvBuf :=
  match conn.readBuffers.back with
  | some block =>
      if block.size ≠ 0 then .block block.used block.size
      else if sub dataSmallSize conn.readHead.len = 0 then .null
      else .head conn.readHead.len (sub dataSmallSize conn.readHead.len)
  | none =>
      if sub dataSmallSize conn.readHead.len = 0 then .null
      else .head conn.readHead.len (sub dataSmallSize conn.readHead.len)

/-- libuv puts the bytes it has read into the buffer it was offered. -/
def uvFill (conn : StreamConnection) (buf : UvBuf) (bytes : List UInt8) :
    Except Fault StreamConnection :=
  match buf with
  | .null => .ok conn
  | .head offset _ =>
      .ok { conn with
        readHead := { conn.readHead with buffer := writeBytes conn.readHead.buffer offset bytes } }
  | .block offset _ => do
      let readBuffers ← conn.readBuffers.writeBack offset bytes
      return { conn with readBuffers := readBuffers }

/-- A `RECVED` callback: the `error_code` of the channel, the status and the bytes of the range. -/
structure Recved where
  errorCode : Int
  status : ErrorType
  data : List UInt8
deriving DecidableEq, Repr

/-- The callback for a complete frame: the checksum decides first, then the limit on the length. -/
def recvedFrame (conf : StreamConf) (crc payload : List UInt8) : Recved :=
  { errorCode := 0
    status :=
      if (crc32 0 payload).toNat ≠ fromLE crc then .badData
      else if 0 < conf.recvBufferLimitSize ∧ conf.recvBufferLimitSize < payload.length
        then .invalidSize
      else .success
    data := payload }

/-- What the loop over the head buffer leaves: the bytes behind the last one it has used, the
    blocks, whether the connection is to be closed, and the callbacks made. -/
structure HeadLoop where
  left : List UInt8
  readBuffers : BufferManager
  isFree : Bool
  made : List Recved

/-- A range of the received part of the head buffer, counted from `buff_start`. -/
def headRange (left : List UInt8) (offset len : Nat) : Except Fault (List UInt8) :=
  if offset + len ≤ left.length then .ok ((left.drop offset).take len) else .error .headRead

/-- The loop over the head buffer, where `left` are the bytes from `buff_start` on. Each round but
    the last consumes bytes, so as many rounds as there are bytes are enough. -/
def headLoop (conf : StreamConf) (heap : Heap) (readBuffers : BufferManager) :
    Nat → List UInt8 → Except Fault HeadLoop
  | 0, left => .ok ⟨left, readBuffers, false, []⟩
  | rounds + 1, left =>
      if 4 < left.length then
        let vint := readVint (left.drop 4)
        let vintLen := vint.1
        let msgLen := vint.2
        if vintLen = 0 then .ok ⟨left, readBuffers, false, []⟩
        else if wrap (4 + vintLen + msgLen) ≤ left.length then do
          let payload ← headRange left (4 + vintLen) msgLen
          let crc ← headRange left 0 4
          let rest ← headLoop conf heap readBuffers rounds (left.drop (wrap (4 + vintLen + msgLen)))
          return { rest with made := recvedFrame conf crc payload :: rest.made }
        else
          -- a frame that is not complete goes to a block of its own, with its checksum but not its
          -- length
          match readBuffers.pushBack heap (wrap (4 + msgLen)) with
          | (.success, readBuffers) => do
              let readBuffers ← readBuffers.writeBack 0 (left.take 4)
              let readBuffers ← readBuffers.writeBack 4 (left.drop (4 + vintLen))
              return ⟨[], (readBuffers.popBack (left.length - vintLen) false).2, false, []⟩
          | (_, readBuffers) => .ok ⟨left.drop (4 + vintLen), readBuffers, true, []⟩
      else .ok ⟨left, readBuffers, false, []⟩

/-- The end of `io_stream_on_recv_read_fn`: a block without room left is handed out and freed. -/
def deliverBlock (conf : StreamConf) (readBuffers : BufferManager) :
    Except Fault (BufferManager × List Recved) :=
  match readBuffers.front with
  | none => .ok (readBuffers, [])
  | some block =>
      if block.size ≠ 0 then .ok (readBuffers, [])
      else do
        let sread := sub block.rawSize block.size
        let payload ← block.read 4 (sub sread 4)
        let crc ← block.read 0 4
        return ((readBuffers.popFront 0 true).2, [recvedFrame conf crc payload])

/-- `UV_EAGAIN`, `UV_EAI_AGAIN` and `UV_EINTR`. -/
def uvRetry : List Int := [-11, -3001, -4]

/-- `io_stream_on_recv_read_fn`: the connection afterwards and the callbacks made, in order. -/
def ioStreamOnRecvReadFn (conf : StreamConf) (heap : Heap) (conn : StreamConnection) (nread : Int) :
    Except Fault (StreamConnection × List Recved) :=
  if conn.status ≠ .connected then .ok (conn, [])
  else if nread = 0 ∨ nread ∈ uvRetry then .ok (conn, [])
  else if nread < 0 then .ok (conn.disconnect, [⟨nread, .readFailed, []⟩])
  else if conn.inHead then
    if nread.toNat ≤ sub dataSmallSize conn.readHead.len then do
      let conn := { conn with
        readHead := { conn.readHead with len := conn.readHead.len + nread.toNat } }
      let loop ← headLoop conf heap conn.readBuffers conn.head.length conn.head
      let (readBuffers, delivered) ← deliverBlock conf loop.readBuffers
      let conn := { conn with
        readHead :=
          { buffer := writeBytes conn.readHead.buffer 0 loop.left, len := loop.left.length }
        readBuffers := readBuffers }
      if loop.isFree then
        let refused := if 0 < conn.readHead.len then [⟨0, .invalidSize, conn.head⟩] else []
        return (conn.disconnect, loop.made ++ delivered ++ refused)
      else return (conn, loop.made ++ delivered)
    else .error .assertion
  else
    match conn.readBuffers.back with
    | none => .error .assertion
    | some block =>
        if nread.toNat ≤ block.size then do
          let (readBuffers, delivered) ←
            deliverBlock conf (conn.readBuffers.popBack nread.toNat false).2
          return ({ conn with readBuffers := readBuffers }, delivered)
        else .error .assertion

/-! ### Reads one after the other -/

/-- A read: the bytes libuv has for the connection and what `malloc` answers meanwhile. -/
structure ReadEvent where
  chunk : List UInt8
  heap : Heap

/-- A connection with what it has received so far, the callbacks it has made and the fault that
    stopped it, if any. -/
structure StreamState where
  conn : StreamConnection
  received : List UInt8
  made : List Recved
  fault : Option Fault

/-- A fresh connected connection. -/
def StreamState.start (conf : StreamConf) (heap : Heap) (contents : Memory) : StreamState :=
  { conn := makeStreamConnection conf heap contents, received := [], made := [], fault := none }

/-- The buffer is asked for, filled and handled. -/
def onRead (conf : StreamConf) (conn : StreamConnection) (event : ReadEvent) :
    Except Fault (StreamConnection × List Recved) := do
  let conn ← uvFill conn (ioStreamOnRecvAllocFn conn) event.chunk
  ioStreamOnRecvReadFn conf event.heap conn event.chunk.length

/-- The state after a read. -/
def StreamState.recv (conf : StreamConf) (state : StreamState) (event : ReadEvent) : StreamState :=
  match onRead conf state.conn event with
  | .ok (conn, made) =>
      { conn := conn, received := state.received ++ event.chunk, made := state.made ++ made,
          fault := none }
  | .error fault =>
      { state with received := state.received ++ event.chunk, fault := some fault }

/-- A read delivers between one byte and the length of the buffer it was offered. -/
def recvStep (conf : StreamConf) (state : StreamState) (event : ReadEvent)
    (after : StreamState) : Prop :=
  state.fault = none ∧ 0 < event.chunk.length ∧
    event.chunk.length ≤ (ioStreamOnRecvAllocFn state.conn).len ∧ after = state.recv conf event

end LibAtbus.Channel
