/-
Module: LibAtbus.Channel.StreamWrite
Layer: Channel
Purpose: The sending of `src/channel_io_stream.cpp` together with its completions: `io_stream_send`,
  which puts a request and its frame into one block of `write_buffers`, and
  `io_stream_on_written_fn`, which finds the frame again in the block at the front. The assertions
  of a debug build are checked, and so is every access to a block. The callback of the user runs
  between the two halves of a completion and may send.
Trusted boundary: human-reviewed spec; libuv calls back every request it took once and in order,
  writes to no more of a block than the request, and leaves the `data` of the request alone; no
  object has 2^63 bytes
Main exports: StreamWriter, StreamWriter.pushBack, ioStreamSendMapped, ioStreamOnWrittenFn, Written,
  WriteState, WriteEvent, writeStep
-/
import LibAtbus.Channel.IoStream
import LibAtbus.Detail.BufferBytes

namespace LibAtbus.Channel

open Detail Word64 ByteMemory

/-! ### write_buffers -/

/-- `write_buffers`, with the addresses `malloc` returned for its blocks. In static mode nothing
    looks at these: the pointers count from the start of the static buffer. -/
structure StreamWriter where
  buffers : MappedManager
  addresses : List Nat

namespace StreamWriter

/-- The live blocks, from the front. -/
def blocks (writer : StreamWriter) : List BufferBlock := writer.buffers.manager.liveBlocks

/-- A pointer into a block, as the program has it. -/
def place (writer : StreamWriter) (address data : Nat) : Nat :=
  match writer.buffers.manager.staticBuffer with
  | none => address + data
  | some _ => data

/-- `front`. -/
def front (writer : StreamWriter) : BufferView :=
  let view := writer.buffers.manager.frontView
  { view with pointer := view.pointer.map fun data => writer.place (writer.addresses.headD 0) data }

/-- `push_back`, for which `malloc` returns an address. -/
def pushBack (heap : Heap) (address : Nat) (writer : StreamWriter) (s : Nat) :
    Except Fault (Pushed StreamWriter) := do
  let (res, pointer, buffers) ← writer.buffers.call (.pushBack heap s)
  let addresses := if res.failed then writer.addresses else writer.addresses ++ [address]
  return (res, pointer.map fun data => writer.place address data,
    { buffers := buffers, addresses := addresses })

/-- `pop_back` that frees what is exhausted. -/
def popBack (writer : StreamWriter) (s : Nat) : StreamWriter :=
  let buffers : MappedManager :=
    { manager := (writer.buffers.manager.popBack s true).2
      bytes := writer.buffers.callBytes (.popBack s true) none }
  { buffers := buffers, addresses := writer.addresses.take buffers.manager.liveBlocks.length }

/-- `pop_front` that frees what is exhausted. -/
def popFront (writer : StreamWriter) (s : Nat) : StreamWriter :=
  let buffers : MappedManager :=
    { manager := (writer.buffers.manager.popFront s true).2
      bytes := writer.buffers.callBytes (.popFront s true) none }
  { buffers := buffers
    addresses := writer.addresses.drop (writer.blocks.length - buffers.manager.liveBlocks.length) }

/-- A write through the pointer that `push_back` has set. -/
def writeBack (writer : StreamWriter) (offset : Nat) (bytes : List UInt8) :
    Except Fault StreamWriter :=
  match writer.buffers.manager.block? (writer.blocks.length - 1) with
  | none => .error .blockWrite
  | some block =>
      if offset + bytes.length ≤ block.rawSize then
        .ok { writer with buffers := writer.buffers.write (writer.blocks.length - 1) offset bytes }
      else .error .blockWrite

/-- A read through the pointer that `front` has set. -/
def readFront (writer : StreamWriter) (offset len : Nat) : Except Fault (List UInt8) :=
  match writer.buffers.manager.front with
  | none => .error .blockRead
  | some block =>
      if block.used + offset + len ≤ block.rawSize then
        .ok (readBytes (writer.buffers.byteAt block) (block.used + offset) len)
      else .error .blockRead

end StreamWriter

/-! ### Sending -/

/-- The size of the block for a payload of `len` bytes, where `reqSize` is `sizeof(uv_write_t)`. -/
def totalBufferSize (reqSize len : Nat) : Nat := wrap (reqSize + 4 + (writeVint len 16).1 + len)

/-- `io_stream_send`: its result, the request that libuv took, if any, and what it leaves of
    `write_buffers`. What `uv_write` returns is an argument. -/
def ioStreamSendMapped (conf : StreamConf) (heap : Heap) (address reqSize : Nat) (uvWrite : Int)
    (writer : StreamWriter) (buf : List UInt8) : Except Fault (Pushed StreamWriter) :=
  if 0 < conf.sendBufferLimitSize ∧ conf.sendBufferLimitSize < buf.length
    then .ok (.invalidSize, none, writer)
  else do
    let vint := writeVint buf.length 16
    let total := totalBufferSize reqSize buf.length
    let (res, req, writer) ← writer.pushBack heap address total
    if res.failed then return (res, none, writer)
    else
      let writer ← writer.writeBack reqSize (crcField buf)
      let writer ← writer.writeBack (reqSize + 4) (vint.2.take vint.1)
      let writer ← writer.writeBack (reqSize + 4 + vint.1) buf
      if uvWrite ≠ 0 then return (.writeFailed, none, writer.popBack total)
      else return (.success, req, writer)

/-! ### Completions -/

/-- A `WRITEN` callback: the `error_code` of the channel, the status, and the bytes of the range. -/
structure Written where
  errorCode : Int
  status : ErrorType
  data : List UInt8
deriving DecidableEq, Repr

/-- The locals of `io_stream_on_written_fn` while the callback of the user runs. -/
structure Completion where
  req : Nat
  status : Int
  data : Nat
  nwrite : Nat
deriving DecidableEq, Repr

/-- A round of the loop of `io_stream_on_written_fn` up to the callback, or nothing when there is no
    block. -/
def ioStreamOnWrittenFn (reqSize : Nat) (writer : StreamWriter) (req : Nat) (status : Int) :
    Except Fault (Option (StreamWriter × Completion × Written)) :=
  let view := writer.front
  match view.pointer with
  | none => .ok none
  | some data => do
      let popped := if view.nwrite = 0 then writer.popFront 0 else writer
      check (view.nread = 0)
      check (req = data)
      let bytes ← writer.readFront (reqSize + 4) (sub (sub view.nwrite reqSize) 4)
      let (vintLen, out) := readVint bytes
      check (out = sub (sub (sub view.nwrite vintLen) 4) reqSize)
      let payload ← writer.readFront (reqSize + 4 + vintLen) out
      let completion : Completion :=
        { req := req, status := status, data := data, nwrite := view.nwrite }
      let code : ErrorType := if req = data then .success else .nodeTimeout
      return some (popped, completion, { errorCode := status, status := code, data := payload })

/-! ### Runs -/

/-- A connection that sends: its `write_buffers`, the `active_reqs` of its channel and the requests
    of the channel that are not writes of the connection, the requests that libuv has taken and not
    called back, the completion whose callback runs, what was sent successfully and what was called
    back so far, and the fault that stopped it. -/
structure WriteState where
  writer : StreamWriter
  activeReqs : BitVec 32
  otherReqs : Nat
  pending : List Nat
  within : Option Completion
  accepted : List (List UInt8)
  callbacks : List Written
  fault : Option Fault

namespace WriteState

/-- A connection from `io_stream_make_connection`, on a channel with requests of others. -/
def start (conf : StreamConf) (heap : Heap) (bytes : Memory) (others : Nat) : WriteState :=
  { writer :=
      { buffers := ⟨makeBuffers heap conf.sendBufferMaxSize conf.sendBufferStatic, bytes⟩
        addresses := [] }
    activeReqs := BitVec.ofNat 32 others
    otherReqs := others
    pending := []
    within := none
    accepted := []
    callbacks := []
    fault := none }

/-- The state after `io_stream_send` has returned. -/
def sent (state : WriteState) (buf : List UInt8) (done : Pushed StreamWriter) : WriteState :=
  if done.1 = .success then
    { state with
      writer := done.2.2
      activeReqs := state.activeReqs + 1
      pending := state.pending ++ done.2.1.toList
      accepted := state.accepted ++ [buf] }
  else { state with writer := done.2.2 }

/-- A round of the loop of `io_stream_on_written_fn`, up to its callback. -/
def round (reqSize : Nat) (state : WriteState) (req : Nat) (status : Int) : WriteState :=
  match ioStreamOnWrittenFn reqSize state.writer req status with
  | .error fault => { state with fault := some fault }
  | .ok none => { state with within := none }
  | .ok (some (writer, completion, made)) =>
      { state with
        writer := writer
        within := some completion
        callbacks := state.callbacks ++ [made] }

/-- `io_stream_on_written_fn` up to its first callback. -/
def written (reqSize : Nat) (state : WriteState) (req : Nat) (rest : List Nat) (status : Int) :
    WriteState :=
  if state.activeReqs = 0 then { state with pending := rest, fault := some .assertion }
  else { state with pending := rest, activeReqs := state.activeReqs - 1 }.round reqSize req status

/-- The part of `io_stream_on_written_fn` behind a callback: the block is removed, and the loop goes
    on unless it was that of the request. -/
def finished (reqSize : Nat) (state : WriteState) (completion : Completion) : WriteState :=
  let popped := { state with writer := state.writer.popFront completion.nwrite }
  if completion.req = completion.data then { popped with within := none }
  else popped.round reqSize completion.req completion.status

/-- libuv writes to the request in a live block. -/
def touched (state : WriteState) (i offset : Nat) (bytes : List UInt8) : WriteState :=
  { state with
    writer := { state.writer with buffers := state.writer.buffers.write i offset bytes } }

end WriteState

/-- What happens to a connection that sends. -/
inductive WriteEvent where
  | send (buf : List UInt8) (res : ErrorType)
  | written (status : Int)
  | finished
  | touched (i offset : Nat) (bytes : List UInt8)
  | otherStarted
  | otherEnded

/-- One event. Sends may come at any time, also while a callback runs; libuv runs one completion
    after the other. -/
inductive writeStep (conf : StreamConf) (reqSize : Nat) :
    WriteState → WriteEvent → WriteState → Prop where
  | send {state : WriteState} {buf : List UInt8} {heap : Heap} {address : Nat} {uvWrite : Int}
      {done : Pushed StreamWriter} (alive : state.fault = none) (object : buf.length < 2 ^ 63)
      (mallocs : state.writer.buffers.manager.Mallocs heap (totalBufferSize reqSize buf.length))
      (returned :
        ioStreamSendMapped conf heap address reqSize uvWrite state.writer buf = .ok done) :
      writeStep conf reqSize state (.send buf done.1) (state.sent buf done)
  | written {state : WriteState} {req : Nat} {rest : List Nat} {status : Int}
      (alive : state.fault = none)
      (idle : state.within = none) (oldest : state.pending = req :: rest) :
      writeStep conf reqSize state (.written status) (state.written reqSize req rest status)
  | finished {state : WriteState} {completion : Completion} (alive : state.fault = none)
      (called : state.within = some completion) :
      writeStep conf reqSize state .finished (state.finished reqSize completion)
  | touched {state : WriteState} {i offset : Nat} {bytes : List UInt8} {block : BufferBlock}
      (alive : state.fault = none) (live : state.writer.buffers.manager.block? i = some block)
      (inside : offset + bytes.length ≤ reqSize) :
      writeStep conf reqSize state (.touched i offset bytes) (state.touched i offset bytes)
  | otherStarted {state : WriteState} (alive : state.fault = none) :
      writeStep conf reqSize state .otherStarted
        { state with activeReqs := state.activeReqs + 1, otherReqs := state.otherReqs + 1 }
  | otherEnded {state : WriteState} {n : Nat} (alive : state.fault = none)
      (some : state.otherReqs = n + 1) :
      writeStep conf reqSize state .otherEnded { state with
      activeReqs := state.activeReqs - 1, otherReqs := n }

end LibAtbus.Channel
