/-
Module: LibAtbus.Channel.MemChannel
Layer: Channel
Purpose: The memory channel of `src/channel_mem.cpp`: the channel header, the node heads and the
  data area, and the functions that initialise, attach to, write to and read from them. The
  functions follow the source statement by statement. `mem_send_real` is cut at its atomic accesses
  into `memFetchOperationSeq`, `memReserve`, `memStartBlock`, `memTagNode`, `memStoreBlock` and
  `memFinishBlock`, so that the concurrent models can interleave the same pieces.
Trusted boundary: human-reviewed spec
Main exports: MemChannel, memAttach, memInit, memAttachElseInit, memSendReal, memSend, memRecv
-/
import LibAtbus.Detail.Crc
import LibAtbus.Detail.ErrorType
import LibAtbus.Foundation.ByteMemory
import LibAtbus.Foundation.RingIndex
import LibAtbus.Foundation.Word64
import Mathlib.Logic.Function.Basic

namespace LibAtbus.Channel

open ByteMemory

/-! ### Layout -/

/-- `mem_block::channel_head_size`, the size of `mem_channel_head_align`. -/
abbrev channelHeadSize : Nat := 4 * 1024
/-- `mem_block::node_data_size`. -/
abbrev nodeDataSize : Nat := 128
/-- `mem_block::node_head_size`. -/
abbrev nodeHeadSize : Nat := 8
/-- `mem_block::block_head_size`. -/
abbrev blockHeadSize : Nat := 16
/-- The smallest buffer that holds a channel: the header and one node. -/
abbrev channelMinSize : Nat := channelHeadSize + nodeDataSize + nodeHeadSize

/-- `MEM_CHANNEL_NAME`, the eight characters of `ATBUSMEM`. -/
def memChannelName : List UInt8 := [65, 84, 66, 85, 83, 77, 69, 77]

/-- `MEM_FLAG`. -/
inductive MemFlag where
  | writen
  | startNode
deriving DecidableEq, Repr

/-- The bit of a flag. -/
def MemFlag.bit : MemFlag → Nat
  | .writen => 1
  | .startNode => 2

def checkFlag (flag : Nat) (checked : MemFlag) : Bool := flag &&& checked.bit != 0

def setFlag (flag : Nat) (checked : MemFlag) : Nat := flag ||| checked.bit

/-- `mem_node_head`. -/
structure MemNodeHead where
  flag : Nat
  operationSeq : Nat
deriving DecidableEq, Repr, Inhabited

/-- The head of a node no block uses. -/
def MemNodeHead.clean : MemNodeHead := ⟨0, 0⟩

/-- `mem_conf`, without the receiver identity that nothing reads. -/
structure MemConf where
  protectNodeCount : Nat
  protectMemorySize : Nat
  confSendTimeoutMs : Nat
  writeRetryTimes : Nat
deriving DecidableEq, Repr, Inhabited

/-- `mem_channel` together with the two areas behind it. Node heads are indexed by node; the data
    area is addressed from `area_data_offset` on. -/
structure MemChannel where
  nodeMagic : List UInt8
  nodeSize : Nat
  nodeSizeBinPower : Nat
  nodeCount : Nat
  atomicReadCur : Nat
  atomicWriteCur : Nat
  firstFailedWritingTime : Nat
  atomicOperationSeq : Nat
  conf : MemConf
  areaChannelOffset : Nat
  areaHeadOffset : Nat
  areaDataOffset : Nat
  areaEndOffset : Nat
  blockBadCount : Nat
  blockTimeoutCount : Nat
  nodeBadCount : Nat
  nodeHeads : Nat → MemNodeHead
  dataArea : Memory

/-- The first bytes of the header as they lie in memory on a little-endian machine: the magic text
    is directly followed by `node_size`. -/
def MemChannel.headerByte (channel : MemChannel) (i : Nat) : UInt8 :=
  (channel.nodeMagic ++ toLE 8 channel.nodeSize ++ toLE 8 channel.nodeSizeBinPower ++
    toLE 8 channel.nodeCount).getD i 0

/-! ### Attaching and initialising -/

/-- `tolower` of the C locale. -/
def toLower (c : UInt8) : UInt8 := if 65 ≤ c ∧ c ≤ 90 then c + 32 else c

/-- `strcasecmp` of a string literal with the zero-terminated string at `right`: the difference of
    the first pair of characters that differ in more than case, the terminators included. -/
def strCaseCmp : List UInt8 → Memory → Nat → Int
  | [], right, i => 0 - (toLower (right i)).toNat
  | c :: cs, right, i =>
      let difference : Int := (toLower c).toNat - (toLower (right i)).toNat
      if difference = 0 then strCaseCmp cs right (i + 1) else difference

/-- `mem_attach` on a buffer with the given first bytes. It writes nothing. -/
def memAttach (header : Memory) (len : Nat) : ErrorType :=
  if len < channelMinSize then .channelSizeTooSmall
  else if strCaseCmp memChannelName header 0 ≠ 0 then .channelBufferInvalid
  else .success

/-- The loop that finds `node_size_bin_power`. -/
def binPower : Nat → Nat → Nat
  | 0, _ => 0
  | fuel + 1, size => if 1 < size then binPower fuel (size >>> 1) + 1 else 0

/-- `mem_default_conf`. -/
def memDefaultConf (channel : MemChannel) : MemChannel :=
  let count :=
    if channel.conf.protectNodeCount = 0 ∧ channel.conf.protectMemorySize ≠ 0 then
      (channel.conf.protectMemorySize + nodeDataSize - 1) / nodeDataSize
    else if channel.conf.protectNodeCount = 0 then channel.nodeCount >>> 7
    else channel.conf.protectNodeCount
  let count := if count > channel.nodeCount then channel.nodeCount else count
  { channel with
    conf :=
      { protectNodeCount := count
        protectMemorySize := count * nodeDataSize
        confSendTimeoutMs := 4
        writeRetryTimes := 4 } }

/-- `mem_init`. A non-null `conf` is the address of the caller's configuration: the source copies
    `sizeof(conf)` bytes from `&conf`, so it is the pointer and not the structure that ends up in
    the first field of the channel's configuration. -/
def memInit (len : Nat) (conf : Option Nat) : Except ErrorType MemChannel :=
  if len < channelMinSize then .error .channelSizeTooSmall
  else
    let nodeCount := (len - channelHeadSize) / (nodeDataSize + nodeHeadSize)
    let areaDataOffset := channelHeadSize + nodeCount * nodeHeadSize
    let channel : MemChannel :=
      { nodeMagic := memChannelName
        nodeSize := nodeDataSize
        nodeSizeBinPower := binPower nodeDataSize nodeDataSize
        nodeCount := nodeCount
        atomicReadCur := 0
        atomicWriteCur := 0
        firstFailedWritingTime := 0
        atomicOperationSeq := 0
        conf := ⟨0, 0, 0, 0⟩
        areaChannelOffset := 0
        areaHeadOffset := channelHeadSize
        areaDataOffset := areaDataOffset
        areaEndOffset := areaDataOffset + nodeCount * nodeDataSize
        blockBadCount := 0
        blockTimeoutCount := 0
        nodeBadCount := 0
        nodeHeads := fun _ => .clean
        dataArea := fun _ => 0 }
    match conf with
    | some address => .ok { channel with conf := { channel.conf with protectNodeCount := address } }
    | none => .ok (memDefaultConf channel)

/-- The sequence `connection::listen` and `connection::connect` run for a `mem://` address: attach
    to what is in the buffer, and initialise it when that fails. -/
def memAttachElseInit (channel : MemChannel) (len : Nat) : ErrorType × MemChannel :=
  if (memAttach channel.headerByte len).failed then
    match memInit len none with
    | .ok fresh => (.success, fresh)
    | .error res => (res, channel)
  else (.success, channel)

/-! ### Index and size computations -/

/-- `mem_next_index`. -/
def memNextIndex (channel : MemChannel) (index offset : Nat) : Nat :=
  RingIndex.slot channel.nodeCount index offset

/-- `mem_calc_node_num`, in `size_t` arithmetic. -/
def memCalcNodeNum (channel : MemChannel) (len : Nat) : Nat :=
  Word64.wrap (len + blockHeadSize + channel.nodeSize - 1) >>> channel.nodeSizeBinPower

/-- `mem_fast_check`. -/
def memFastCheck (bytes : List UInt8) : Nat := (Detail.crc64 0 bytes).toNat

/-- The address of a node's data in the data area, also that of the block head of a block starting
    there. -/
def nodeDataAddr (index : Nat) : Nat := index * nodeDataSize

/-- The `data_len` of `mem_get_block_head`: the bytes from behind the block head to the end of the
    channel. -/
def blockDataLen (channel : MemChannel) (index : Nat) : Nat :=
  channel.areaEndOffset - channel.areaDataOffset - nodeDataAddr index - blockHeadSize

/-- `block_head->buffer_size` of a block starting at a node. -/
def blockBufferSize (channel : MemChannel) (index : Nat) : Nat :=
  fromLE (readBytes channel.dataArea (nodeDataAddr index) 8)

/-- `block_head->fast_check` of a block starting at a node. -/
def blockFastCheck (channel : MemChannel) (index : Nat) : Nat :=
  fromLE (readBytes channel.dataArea (nodeDataAddr index + 8) 8)

/-- The nodes a writer finds available between the two cursors it loaded: one node stays free as the
    tail, and the protected nodes are left out. -/
def memAvailableNode (nodeCount protectNodeCount readCur writeCur : Nat) : Nat :=
  let available :=
    Word64.sub (Word64.sub (Word64.wrap (readCur + nodeCount)) writeCur) 1 % nodeCount
  if available ≥ protectNodeCount then available - protectNodeCount else 0

/-- A block that could not fit even an empty channel is refused before anything else happens. -/
def memExceedsChannel (nodeCount protectNodeCount blockNodes : Nat) : Bool :=
  blockNodes ≥ Word64.sub nodeCount protectNodeCount

/-! ### Sending -/

/-- `mem_fetch_operation_seq`: the next sequence number, which is never zero. -/
def memFetchOperationSeq (channel : MemChannel) : Nat × MemChannel :=
  let ret := channel.atomicOperationSeq
  let next := if (ret + 1) % 2 ^ 32 ≠ 0 then (ret + 1) % 2 ^ 32 else (ret + 2) % 2 ^ 32
  (next, { channel with atomicOperationSeq := next })

/-- The cursor loop of `mem_send_real` when nobody interferes: it compares the space and moves the
    write cursor. The results are the old and the new write cursor. -/
def memReserve (channel : MemChannel) (blockNodes : Nat) : Option (Nat × Nat × MemChannel) :=
  let writeCur := channel.atomicWriteCur
  if blockNodes > memAvailableNode channel.nodeCount channel.conf.protectNodeCount
      channel.atomicReadCur writeCur then none
  else
    let newWriteCur := (writeCur + blockNodes) % channel.nodeCount
    some (writeCur, newWriteCur, { channel with atomicWriteCur := newWriteCur })

/-- Clear the block head and mark the first node. -/
def memStartBlock (channel : MemChannel) (writeCur oprSeq : Nat) : MemChannel :=
  let head := channel.nodeHeads writeCur
  { channel with
    dataArea := writeBytes channel.dataArea (nodeDataAddr writeCur) (List.replicate blockHeadSize 0)
    nodeHeads := Function.update channel.nodeHeads writeCur
      ⟨setFlag head.flag .startNode, oprSeq⟩ }

/-- One round of the tagging loop: a node that already carries a sequence number is a conflict. -/
def memTagNode (channel : MemChannel) (index oprSeq : Nat) : Option MemChannel :=
  let head := channel.nodeHeads index
  if head.operationSeq ≠ 0 then none
  else some { channel with
    nodeHeads := Function.update channel.nodeHeads index ⟨setFlag head.flag .writen, oprSeq⟩ }

/-- The tagging loop from node `index` to the new write cursor. The boolean tells whether it ran to
    its end; the outer `none` means that the fuel did not suffice. -/
def memTagNodes (newWriteCur oprSeq : Nat) : Nat → Nat → MemChannel → Option (Bool × MemChannel)
  | 0, _, _ => none
  | fuel + 1, index, channel =>
      if index = newWriteCur then some (true, channel)
      else match memTagNode channel index oprSeq with
        | none => some (false, channel)
        | some tagged =>
            memTagNodes newWriteCur oprSeq fuel (memNextIndex channel index 1) tagged

/-- Store the size, the data (in two pieces when the block crosses the end of the area) and the
    check code. -/
def memStoreBlock (channel : MemChannel) (writeCur newWriteCur : Nat) (buf : List UInt8) :
    MemChannel :=
  let blockHead := nodeDataAddr writeCur
  let bufferStart := blockHead + blockHeadSize
  let bufferLen := blockDataLen channel writeCur
  let sized := writeBytes channel.dataArea blockHead (toLE 8 buf.length)
  let copied :=
    if newWriteCur ≠ 0 ∧ newWriteCur < writeCur then
      let copyLen := if buf.length > bufferLen then bufferLen else buf.length
      writeBytes (writeBytes sized bufferStart (buf.take copyLen)) (nodeDataAddr 0)
        (buf.drop copyLen)
    else writeBytes sized bufferStart buf
  { channel with dataArea := writeBytes copied (blockHead + 8) (toLE 8 (memFastCheck buf)) }

/-- Mark the block as written and look once more for a conflicting writer. -/
def memFinishBlock (channel : MemChannel) (writeCur oprSeq : Nat) : ErrorType × MemChannel :=
  let head := channel.nodeHeads writeCur
  let finished := { channel with
    nodeHeads := Function.update channel.nodeHeads writeCur
      ⟨setFlag head.flag .writen, head.operationSeq⟩ }
  (if oprSeq ≠ head.operationSeq then .nodeBadBlockCseqId else .success, finished)

/-- The part of `mem_send_real` behind the cursor loop, run without interruption on the nodes from
    `writeCur` to `newWriteCur`. -/
def memWriteBlock (channel : MemChannel) (writeCur newWriteCur oprSeq : Nat) (buf : List UInt8) :
    Option (ErrorType × MemChannel) :=
  let started := memStartBlock channel writeCur oprSeq
  match memTagNodes newWriteCur oprSeq started.nodeCount (memNextIndex started writeCur 1)
    started with
  | none => none
  | some (false, tagged) => some (.nodeBadBlockWseqId, tagged)
  | some (true, tagged) =>
      some (memFinishBlock (memStoreBlock tagged writeCur newWriteCur buf) writeCur oprSeq)

/-- `mem_send_real`. -/
def memSendReal (channel : MemChannel) (buf : List UInt8) : Option (ErrorType × MemChannel) :=
  if buf.length = 0 then some (.success, channel)
  else
    let blockNodes := memCalcNodeNum channel buf.length
    if memExceedsChannel channel.nodeCount channel.conf.protectNodeCount blockNodes then
      some (.buffLimit, channel)
    else
      let (oprSeq, channel) := memFetchOperationSeq channel
      match memReserve channel blockNodes with
      | none => some (.buffLimit, channel)
      | some (writeCur, newWriteCur, channel) =>
          memWriteBlock channel writeCur newWriteCur oprSeq buf

/-- The retry loop of `mem_send`. The inner `ret` of the source shadows the outer one, so running
    out of attempts returns the initial zero. -/
def memSendTry : Nat → MemChannel → List UInt8 → Option (ErrorType × MemChannel)
  | 0, channel, _ => some (.success, channel)
  | leftTryTimes + 1, channel, buf =>
      match memSendReal channel buf with
      | none => none
      | some (ret, channel) =>
          if ret = .nodeBadBlockCseqId ∨ ret = .nodeBadBlockWseqId then
            memSendTry leftTryTimes channel buf
          else some (ret, channel)

/-- `mem_send`. -/
def memSend (channel : MemChannel) (buf : List UInt8) : Option (ErrorType × MemChannel) :=
  memSendTry channel.conf.writeRetryTimes channel buf

/-! ### Receiving -/

/-- `(uint64_t)clock() * (CLOCKS_PER_SEC / 1000)` with the POSIX value of `CLOCKS_PER_SEC`. -/
def clockStamp (clock : Nat) : Nat := Word64.wrap (clock * 1000)

/-- The distance of two clock stamps as `mem_recv` computes it. -/
def stampDistance (cnow first : Nat) : Nat := if cnow > first then cnow - first else first - cnow

/-- The loop that clears the heads of a block: it stops at the write cursor or at the first node
    with another sequence number. The results are where it stopped and the heads. -/
def memClearTags (channel : MemChannel) (writeCur checkOprSeq : Nat) :
    Nat → Nat → (Nat → MemNodeHead) → Option (Nat × (Nat → MemNodeHead))
  | 0, _, _ => none
  | fuel + 1, readEndCur, heads =>
      if readEndCur = writeCur then some (readEndCur, heads)
      else if (heads readEndCur).operationSeq ≠ checkOprSeq then some (readEndCur, heads)
      else memClearTags channel writeCur checkOprSeq fuel (memNextIndex channel readEndCur 1)
        (Function.update heads readEndCur .clean)

/-- The loop that resets the heads of the nodes skipped as bad. -/
def memResetHeads (channel : MemChannel) (stop : Nat) :
    Nat → Nat → (Nat → MemNodeHead) → Option (Nat → MemNodeHead)
  | 0, _, _ => none
  | fuel + 1, index, heads =>
      if index = stop then some heads
      else memResetHeads channel stop fuel (memNextIndex channel index 1)
        (Function.update heads index .clean)

/-- The locals of `mem_recv` that its scanning loop works on. -/
structure RecvScan where
  channel : MemChannel
  ret : ErrorType
  readBeginCur : Nat
  readEndCur : Nat
  recvSize : Option Nat

/-- The scanning loop of `mem_recv`: skip what is no readable block, then stop at the write cursor,
    at an unfinished block, at a block too large for the caller or behind the block to deliver. -/
def memRecvScan (clock len writeCur : Nat) : Nat → RecvScan → Option RecvScan
  | 0, _ => none
  | fuel + 1, scan =>
      let channel := scan.channel
      let cursor := scan.readBeginCur
      let next := memNextIndex channel cursor 1
      let head := channel.nodeHeads cursor
      if cursor = writeCur then
        some { scan with readEndCur := cursor, ret := scan.ret.orElse .noData }
      else if !checkFlag head.flag .startNode then
        memRecvScan clock len writeCur fuel
          { scan with
            readEndCur := cursor
            readBeginCur := next
            channel := { channel with nodeBadCount := Word64.wrap (channel.nodeBadCount + 1) } }
      else if !checkFlag head.flag .writen then
        let cnow := clockStamp clock
        if channel.firstFailedWritingTime = 0 then
          some { scan with
            readEndCur := cursor
            ret := scan.ret.orElse .noData
            channel := { channel with firstFailedWritingTime := cnow } }
        else if stampDistance cnow channel.firstFailedWritingTime > channel.blockTimeoutCount then
          memRecvScan clock len writeCur fuel
            { scan with
              readEndCur := cursor
              readBeginCur := next
              channel := { channel with
                blockBadCount := Word64.wrap (channel.blockBadCount + 1)
                nodeBadCount := Word64.wrap (channel.nodeBadCount + 1)
                blockTimeoutCount := Word64.wrap (channel.blockTimeoutCount + 1)
                firstFailedWritingTime := 0 } }
        else some { scan with readEndCur := cursor, ret := scan.ret.orElse .noData }
      else
        let bufferSize := blockBufferSize channel cursor
        let sizeLimit := Word64.sub (channel.areaEndOffset - channel.areaDataOffset)
          channel.conf.protectMemorySize
        if bufferSize = 0 ∨ bufferSize ≥ sizeLimit then
          memRecvScan clock len writeCur fuel
            { scan with
              readEndCur := cursor
              ret := scan.ret.orElse .nodeBadBlockBuffSize
              readBeginCur := next
              channel := { channel with nodeBadCount := Word64.wrap (channel.nodeBadCount + 1) } }
        else if bufferSize > len then
          some { scan with
            readEndCur := cursor
            ret := scan.ret.orElse .buffLimit
            recvSize := some bufferSize }
        else
          match memClearTags channel writeCur head.operationSeq (channel.nodeCount + 1) cursor
              channel.nodeHeads with
          | none => none
          | some (readEndCur, heads) =>
              let nodesNum := (readEndCur + channel.nodeCount - cursor) % channel.nodeCount
              if memCalcNodeNum channel bufferSize ≠ nodesNum then
                memRecvScan clock len writeCur fuel
                  { scan with
                    readEndCur := readEndCur
                    ret := scan.ret.orElse .nodeBadBlockNodeNum
                    readBeginCur := next
                    channel := { channel with
                      nodeHeads := heads
                      nodeBadCount := Word64.wrap (channel.nodeBadCount + 1)
                      blockBadCount := Word64.wrap (channel.blockBadCount + 1) } }
              else
                some { scan with
                  readEndCur := readEndCur
                  channel := { channel with nodeHeads := heads } }

/-- The bytes of a block, in two pieces when it crosses the end of the data area. -/
def memCopyBlock (channel : MemChannel) (index : Nat) : List UInt8 :=
  let bufferStart := nodeDataAddr index + blockHeadSize
  let bufferLen := blockDataLen channel index
  let bufferSize := blockBufferSize channel index
  if bufferSize ≤ bufferLen then readBytes channel.dataArea bufferStart bufferSize
  else readBytes channel.dataArea bufferStart bufferLen ++
    readBytes channel.dataArea (nodeDataAddr 0) (bufferSize - bufferLen)

/-- What a call of `mem_recv` gives back: the code, `*recv_size` when it was set, the bytes copied
    to the caller's buffer, and the channel after the call. -/
structure RecvResult where
  ret : ErrorType
  recvSize : Option Nat
  buf : List UInt8
  channel : MemChannel

/-- The part of `mem_recv` behind the scanning loop that delivers a block. -/
def memDeliver (scan : RecvScan) : RecvResult :=
  if scan.ret ≠ .success then ⟨scan.ret, scan.recvSize, [], scan.channel⟩
  else
    let buf := memCopyBlock scan.channel scan.readBeginCur
    let ret :=
      if memFastCheck buf ≠ blockFastCheck scan.channel scan.readBeginCur then .badData
        else .success
    ⟨ret, some (blockBufferSize scan.channel scan.readBeginCur), buf,
      { scan.channel with firstFailedWritingTime := 0 }⟩

/-- `mem_recv` with a destination of `len` bytes, at the given reading of `clock()`. -/
def memRecv (clock : Nat) (channel : MemChannel) (len : Nat) : Option RecvResult :=
  let oriReadCur := channel.atomicReadCur
  match memRecvScan clock len channel.atomicWriteCur (channel.nodeCount + 1)
      ⟨channel, .success, oriReadCur, oriReadCur, none⟩ with
  | none => none
  | some scan =>
      let delivered := memDeliver scan
      match memResetHeads channel scan.readBeginCur (channel.nodeCount + 1) oriReadCur
          delivered.channel.nodeHeads with
      | none => none
      | some heads =>
          some { delivered with
            channel := { delivered.channel with
              nodeHeads := heads
              atomicReadCur := scan.readEndCur } }

/-! ### Calls one at a time -/

/-- A call of the channel's user; a receive comes with the reading of `clock()` it makes. -/
inductive MemCall where
  | send (buf : List UInt8)
  | recv (clock len : Nat)
deriving DecidableEq, Repr

/-- What a call gives back to its caller. -/
inductive MemReply where
  | send (ret : ErrorType)
  | recv (ret : ErrorType) (recvSize : Option Nat) (buf : List UInt8)
deriving DecidableEq, Repr

/-- One call of the channel. -/
def memCall (channel : MemChannel) : MemCall → Option (MemReply × MemChannel)
  | .send buf => (memSend channel buf).map fun sent => (.send sent.1, sent.2)
  | .recv clock len => (memRecv clock channel len).map fun got =>
      (.recv got.ret got.recvSize got.buf, got.channel)

/-- A sequence of calls, one after the other, with their replies. -/
def memCalls : MemChannel → List MemCall → Option (List MemReply × MemChannel)
  | channel, [] => some ([], channel)
  | channel, call :: calls => do
      let (reply, channel) ← memCall channel call
      let (replies, channel) ← memCalls channel calls
      return (reply :: replies, channel)

end LibAtbus.Channel
