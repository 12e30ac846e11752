/-
Module: LibAtbus.Channel.MemChecked
Layer: Channel
Purpose: `mem_recv` with every access checked. The assertions of `mem_get_node_head` and
  `mem_get_block_head` are those of the source; besides, each access to a head, to a block head, to
  the data of a block and to the caller's buffer has to lie in its area, and a loop that goes on for
  longer than there are nodes is a fault.
Trusted boundary: human-reviewed spec
Main exports: MemFault, memRecvScanChecked, memDeliverChecked, memRecvChecked
-/
import LibAtbus.Channel.MemChannel

namespace LibAtbus.Channel

open ByteMemory

/-- An access to a node head, to the data area or to the buffer of the caller that lies outside, or
    a loop that does not end. -/
inductive MemFault where
  | head
  | data
  | buffer
  | endless
deriving DecidableEq, Repr

/-- A condition without which an access is a fault. -/
def require (condition : Prop) [Decidable condition] (fault : MemFault) : Except MemFault Unit :=
  if condition then .ok () else .error fault

/-- The bytes of the data area. -/
def MemChannel.dataBytes (channel : MemChannel) : Nat :=
  channel.areaEndOffset - channel.areaDataOffset

/-- `mem_get_node_head` with its assertion, for the heads as they are at the moment. -/
def memGetNodeHead (channel : MemChannel) (heads : Nat → MemNodeHead) (index : Nat) :
    Except MemFault MemNodeHead := do
  require (index < channel.nodeCount) .head
  return heads index

/-- `mem_get_block_head` with its assertion, where the block head is read. -/
def memGetBlockHead (channel : MemChannel) (index : Nat) : Except MemFault Unit := do
  require (index < channel.nodeCount) .head
  require (nodeDataAddr index + blockHeadSize ≤ channel.dataBytes) .data

/-- The loop that clears the heads of a block. -/
def memClearTagsChecked (channel : MemChannel) (writeCur checkOprSeq : Nat) :
    Nat → Nat → (Nat → MemNodeHead) → Except MemFault (Nat × (Nat → MemNodeHead))
  | 0, _, _ => .error .endless
  | fuel + 1, readEndCur, heads =>
      if readEndCur = writeCur then .ok (readEndCur, heads)
      else do
        let head ← memGetNodeHead channel heads readEndCur
        if head.operationSeq ≠ checkOprSeq then return (readEndCur, heads)
        else
          let cleared := Function.update heads readEndCur .clean
          memClearTagsChecked channel writeCur checkOprSeq fuel (memNextIndex channel readEndCur 1)
            cleared

/-- The loop that resets the heads of the nodes skipped as bad. -/
def memResetHeadsChecked (channel : MemChannel) (stop : Nat) :
    Nat → Nat → (Nat → MemNodeHead) → Except MemFault (Nat → MemNodeHead)
  | 0, _, _ => .error .endless
  | fuel + 1, index, heads =>
      if index = stop then .ok heads
      else do
        require (index < channel.nodeCount) .head
        memResetHeadsChecked channel stop fuel (memNextIndex channel index 1)
          (Function.update heads index .clean)

/-- The scanning loop of `mem_recv`. -/
def memRecvScanChecked (clock len writeCur : Nat) : Nat → RecvScan → Except MemFault RecvScan
  | 0, _ => .error .endless
  | fuel + 1, scan => do
      let channel := scan.channel
      let cursor := scan.readBeginCur
      let next := memNextIndex channel cursor 1
      if cursor = writeCur then
        return { scan with readEndCur := cursor, ret := scan.ret.orElse .noData }
      else
        let head ← memGetNodeHead channel channel.nodeHeads cursor
        if !checkFlag head.flag .startNode then
          memRecvScanChecked clock len writeCur fuel
            { scan with
              readEndCur := cursor
              readBeginCur := next
              channel := { channel with nodeBadCount := Word64.wrap (channel.nodeBadCount + 1) } }
        else if !checkFlag head.flag .writen then
          let cnow := clockStamp clock
          if channel.firstFailedWritingTime = 0 then
            return { scan with
              readEndCur := cursor
              ret := scan.ret.orElse .noData
              channel := { channel with firstFailedWritingTime := cnow } }
          else if stampDistance cnow channel.firstFailedWritingTime > channel.blockTimeoutCount then
            memRecvScanChecked clock len writeCur fuel
              { scan with
                readEndCur := cursor
                readBeginCur := next
                channel := { channel with
                  blockBadCount := Word64.wrap (channel.blockBadCount + 1)
                  nodeBadCount := Word64.wrap (channel.nodeBadCount + 1)
                  blockTimeoutCount := Word64.wrap (channel.blockTimeoutCount + 1)
                  firstFailedWritingTime := 0 } }
          else return { scan with readEndCur := cursor, ret := scan.ret.orElse .noData }
        else
          memGetBlockHead channel cursor
          let bufferSize := blockBufferSize channel cursor
          let sizeLimit := Word64.sub (channel.areaEndOffset - channel.areaDataOffset)
            channel.conf.protectMemorySize
          if bufferSize = 0 ∨ bufferSize ≥ sizeLimit then
            memRecvScanChecked clock len writeCur fuel
              { scan with
                readEndCur := cursor
                ret := scan.ret.orElse .nodeBadBlockBuffSize
                readBeginCur := next
                channel := { channel with nodeBadCount := Word64.wrap (channel.nodeBadCount + 1) } }
          else if bufferSize > len then
            return { scan with
              readEndCur := cursor
              ret := scan.ret.orElse .buffLimit
              recvSize := some bufferSize }
          else
            let (readEndCur, heads) ← memClearTagsChecked channel writeCur head.operationSeq
                (channel.nodeCount + 1)
              cursor channel.nodeHeads
            let nodesNum := (readEndCur + channel.nodeCount - cursor) % channel.nodeCount
            if memCalcNodeNum channel bufferSize ≠ nodesNum then
              memRecvScanChecked clock len writeCur fuel
                { scan with
                  readEndCur := readEndCur
                  ret := scan.ret.orElse .nodeBadBlockNodeNum
                  readBeginCur := next
                  channel := { channel with
                    nodeHeads := heads
                    nodeBadCount := Word64.wrap (channel.nodeBadCount + 1)
                    blockBadCount := Word64.wrap (channel.blockBadCount + 1) } }
            else
              return { scan with
                readEndCur := readEndCur
                channel := { channel with nodeHeads := heads } }

/-- A `memcpy` out of the data area to the buffer of the caller. -/
def memCopyOut (channel : MemChannel) (address offset len size : Nat) :
    Except MemFault (List UInt8) := do
  require (address + size ≤ channel.dataBytes) .data
  require (offset + size ≤ len) .buffer
  return readBytes channel.dataArea address size

/-- The copy of a block to a buffer of `len` bytes, in two pieces when it crosses the end of the
    data area. -/
def memCopyBlockChecked (channel : MemChannel) (index len : Nat) :
    Except MemFault (List UInt8) := do
  let bufferStart := nodeDataAddr index + blockHeadSize
  let bufferLen := blockDataLen channel index
  let bufferSize := blockBufferSize channel index
  if bufferSize ≤ bufferLen then memCopyOut channel bufferStart 0 len bufferSize
  else
    let first ← memCopyOut channel bufferStart 0 len bufferLen
    require (0 < channel.nodeCount) .head
    let second ← memCopyOut channel (nodeDataAddr 0) bufferLen len (bufferSize - bufferLen)
    return first ++ second

/-- The part of `mem_recv` behind the scanning loop that delivers a block. -/
def memDeliverChecked (len : Nat) (scan : RecvScan) : Except MemFault RecvResult := do
  if scan.ret ≠ .success then return ⟨scan.ret, scan.recvSize, [], scan.channel⟩
  else
    memGetBlockHead scan.channel scan.readBeginCur
    let buf ← memCopyBlockChecked scan.channel scan.readBeginCur len
    let ret :=
      if memFastCheck buf ≠ blockFastCheck scan.channel scan.readBeginCur then .badData
        else .success
    return ⟨ret, some (blockBufferSize scan.channel scan.readBeginCur), buf,
      { scan.channel with firstFailedWritingTime := 0 }⟩

/-- `mem_recv` with its accesses checked. -/
def memRecvChecked (clock : Nat) (channel : MemChannel) (len : Nat) :
    Except MemFault RecvResult := do
  let oriReadCur := channel.atomicReadCur
  let scan ← memRecvScanChecked clock len channel.atomicWriteCur (channel.nodeCount + 1)
    ⟨channel, .success, oriReadCur, oriReadCur, none⟩
  let delivered ← memDeliverChecked len scan
  let heads ← memResetHeadsChecked channel scan.readBeginCur (channel.nodeCount + 1) oriReadCur
    delivered.channel.nodeHeads
  return { delivered with
    channel := { delivered.channel with
      nodeHeads := heads
      atomicReadCur := scan.readEndCur } }

end LibAtbus.Channel
