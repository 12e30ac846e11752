/-
Module: LibAtbus.Proofs.MemRecvSafety
Layer: Proofs
Purpose: `mem_recv` is safe on a channel with any contents: all its accesses lie in their areas, and
  the checked function does what the function does. The loops only come to nodes of the ring, and
  the two pieces of a copy lie in the data area because the size of the block is below the limit.
Trusted boundary: none
Main exports: memRecvChecked_eq, RecvSafe, memRecv_safe
-/
import LibAtbus.Channel.MemChecked
import LibAtbus.Proofs.MemFifo
import LibAtbus.Proofs.MemScan

namespace LibAtbus.Channel

open ByteMemory RingIndex

/-! ### The loops -/

section

variable {channel : MemChannel} {heads : Nat → MemNodeHead}
  {writeCur oprSeq clock len index stop : Nat} {scan : RecvScan}

/-- What follows an access that is allowed. -/
theorem require_bind {α : Type} {condition : Prop} [Decidable condition] {fault : MemFault}
    {next : Unit → Except MemFault α} (holds : condition) :
    (require condition fault >>= next) = next () := by
  rw [require, if_pos holds]
  rfl

theorem after_ok {α β : Type} (value : α) (next : α → Except MemFault β) :
    (Except.ok value >>= next) = next value := rfl

theorem memGetNodeHead_ok (inside : index < channel.nodeCount) :
    memGetNodeHead channel heads index = .ok (heads index) :=
  require_bind inside

theorem memGetBlockHead_ok (inside : index < channel.nodeCount)
    (data : channel.dataBytes = channel.nodeCount * nodeDataSize) :
    memGetBlockHead channel index = .ok () := by
  have area := nodeDataAddr_lt inside
  have room : nodeDataAddr index + blockHeadSize ≤ channel.dataBytes := by
    rw [data]
    unfold nodeDataSize blockHeadSize at *
    omega
  rw [memGetBlockHead, require_bind inside, require, if_pos room]

/-- The clearing loop stays on the ring. -/
theorem memClearTagsChecked_eq {fuel : Nat} : ∀ {index : Nat} {heads : Nat → MemNodeHead},
    index < channel.nodeCount → memClearTagsChecked channel writeCur oprSeq fuel index heads =
      (memClearTags channel writeCur oprSeq fuel index heads).elim (.error .endless) .ok := by
  induction fuel with
  | zero =>
      intro index heads inside
      rfl
  | succ fuel ih =>
      intro index heads inside
      have next : memNextIndex channel index 1 < channel.nodeCount :=
        slot_lt (Nat.zero_lt_of_lt inside)
      rw [memClearTagsChecked, memClearTags]
      by_cases atWrite : index = writeCur
      · rw [if_pos atWrite, if_pos atWrite]
        rfl
      · rw [if_neg atWrite, if_neg atWrite, memGetNodeHead_ok inside]
        by_cases other : (heads index).operationSeq ≠ oprSeq
        · rw [if_pos other]
          exact if_pos other
        · rw [if_neg other, ← ih next]
          exact if_neg other

/-- The resetting loop stays on the ring. -/
theorem memResetHeadsChecked_eq {fuel : Nat} : ∀ {index : Nat} {heads : Nat → MemNodeHead},
    index < channel.nodeCount → memResetHeadsChecked channel stop fuel index heads =
      (memResetHeads channel stop fuel index heads).elim (.error .endless) .ok := by
  induction fuel with
  | zero =>
      intro index heads inside
      rfl
  | succ fuel ih =>
      intro index heads inside
      have next : memNextIndex channel index 1 < channel.nodeCount :=
        slot_lt (Nat.zero_lt_of_lt inside)
      rw [memResetHeadsChecked, memResetHeads]
      by_cases atStop : index = stop
      · rw [if_pos atStop, if_pos atStop]
        rfl
      · rw [if_neg atStop, if_neg atStop, require_bind inside]
        exact ih next

/-- The scanning loop stays on the ring. -/
theorem memRecvScanChecked_eq {fuel : Nat} :
    ∀ {scan : RecvScan}, scan.readBeginCur < scan.channel.nodeCount →
    scan.channel.dataBytes = scan.channel.nodeCount * nodeDataSize →
    memRecvScanChecked clock len writeCur fuel scan =
      (memRecvScan clock len writeCur fuel scan).elim (.error .endless) .ok := by
  induction fuel with
  | zero =>
      intro scan inside data
      rfl
  | succ fuel ih =>
      intro scan inside data
      have next : memNextIndex scan.channel scan.readBeginCur 1 < scan.channel.nodeCount :=
        slot_lt (Nat.zero_lt_of_lt inside)
      rw [memRecvScanChecked, memRecvScan]
      dsimp only
      by_cases atWrite : scan.readBeginCur = writeCur
      · rw [if_pos atWrite, if_pos atWrite]
        rfl
      rw [if_neg atWrite, if_neg atWrite, memGetNodeHead_ok inside, after_ok]
      by_cases notStart :
          (!checkFlag (scan.channel.nodeHeads scan.readBeginCur).flag .startNode) = true
      · rw [if_pos notStart, if_pos notStart]
        exact ih next data
      rw [if_neg notStart, if_neg notStart]
      by_cases unwritten :
          (!checkFlag (scan.channel.nodeHeads scan.readBeginCur).flag .writen) = true
      · rw [if_pos unwritten, if_pos unwritten]
        split
        · rfl
        · split
          · exact ih next data
          · rfl
      rw [if_neg unwritten, if_neg unwritten, memGetBlockHead_ok inside data, after_ok]
      split
      · exact ih next data
      · split
        · rfl
        · rw [memClearTagsChecked_eq inside]
          cases memClearTags scan.channel writeCur
            (scan.channel.nodeHeads scan.readBeginCur).operationSeq
            (scan.channel.nodeCount + 1) scan.readBeginCur scan.channel.nodeHeads with
          | none => rfl
          | some cleared =>
              obtain ⟨readEnd, heads⟩ := cleared
              dsimp only [Option.elim_some]
              rw [after_ok]
              dsimp only
              split
              · exact ih next data
              · rfl

end

/-! ### The copy -/

section

variable {channel : MemChannel} {clock len index address offset size : Nat} {scan : RecvScan}

theorem memCopyOut_ok (source : address + size ≤ channel.dataBytes) (target : offset + size ≤ len) :
    memCopyOut channel address offset len size = .ok (readBytes channel.dataArea address size) := by
  rw [memCopyOut, require_bind source, require_bind target]
  rfl

/-- The two pieces of a copy lie in the data area when the size of the block is below that of the
    area. -/
theorem memCopyBlockChecked_ok (inside : index < channel.nodeCount)
    (data : channel.dataBytes = channel.nodeCount * nodeDataSize)
    (below : blockBufferSize channel index ≤ channel.dataBytes)
    (fits : blockBufferSize channel index ≤ len) :
    memCopyBlockChecked channel index len = .ok (memCopyBlock channel index) := by
  have area := nodeDataAddr_lt inside
  have dataLen : blockDataLen channel index = channel.dataBytes - nodeDataAddr index -
      blockHeadSize := rfl
  have start : nodeDataAddr 0 = 0 := Nat.zero_mul _
  rw [memCopyBlockChecked, memCopyBlock, dataLen, start]
  unfold nodeDataSize at data area
  unfold blockHeadSize
  split
  · exact memCopyOut_ok (by omega) (by omega)
  · rw [memCopyOut_ok (by omega) (by omega), after_ok, require_bind (Nat.zero_lt_of_lt inside),
      memCopyOut_ok (by omega) (by omega)]
    rfl

/-- A copy has the size of the block. -/
theorem memCopyBlock_length :
    (memCopyBlock channel index).length = blockBufferSize channel index := by
  rw [memCopyBlock]
  split
  · exact readBytes_length
  · rw [List.length_append, readBytes_length, readBytes_length]
    omega

theorem memDeliverChecked_ok (inside : scan.readBeginCur < scan.channel.nodeCount)
    (data : scan.channel.dataBytes = scan.channel.nodeCount * nodeDataSize)
    (bounds :
      scan.ret = .success →
        blockBufferSize scan.channel scan.readBeginCur ≤ scan.channel.dataBytes ∧
      blockBufferSize scan.channel scan.readBeginCur ≤ len) :
    memDeliverChecked len scan = .ok (memDeliver scan) := by
  rw [memDeliverChecked, memDeliver]
  split
  · rfl
  · rename_i success
    obtain ⟨below, fits⟩ := bounds (not_not.mp success)
    rw [memGetBlockHead_ok inside data, after_ok, memCopyBlockChecked_ok inside data below fits]
    rfl

/-- Sizes that `mem_recv` accepts are below the size of the data area. -/
theorem MemChannel.Formatted.plausible_lt (formatted : channel.Formatted)
    (sizeIn : channel.Plausible size) : size ≤ channel.dataBytes := by
  have small := formatted.nodeCount_lt
  have protect := formatted.protectNode
  have data : channel.dataBytes = channel.nodeCount * nodeDataSize := formatted.dataLength
  rw [MemChannel.Plausible, formatted.dataLength, formatted.protectMemory] at sizeIn
  unfold nodeDataSize at *
  rw [Word64.sub_of_le (by omega) (by omega)] at sizeIn
  omega

/-- All accesses of `mem_recv` are allowed, and the checks change nothing. -/
theorem memRecvChecked_eq (formatted : channel.Formatted) (cursors : channel.CursorsIn)
    (clock len : Nat) :
    ∃ result, memRecvChecked clock channel len = .ok result ∧
      memRecv clock channel len = some result ∧ Receives channel clock len result := by
  have data : channel.dataBytes = channel.nodeCount * nodeDataSize := formatted.dataLength
  obtain ⟨scan, looped, j, ended⟩ := memRecvScan_start cursors clock len
  obtain ⟨reset, walked, clean, others⟩ :=
    memResetHeads_start cursors ended.inside (memDeliver scan).channel.nodeHeads
  obtain ⟨dropped, heads, blockBad, nodeBad, first, same⟩ := ended.others
  have inside : scan.readBeginCur < scan.channel.nodeCount := by
    rw [ended.begins, same]
    exact cursors.nodeAt_lt j
  have delivered : memDeliverChecked len scan = .ok (memDeliver scan) := by
    apply memDeliverChecked_ok inside
    · rw [same]
      exact data
    · intro success
      obtain ⟨m, clears⟩ := ended.clears success
      rw [ended.begins, same]
      exact ⟨formatted.plausible_lt clears.size, clears.fits⟩
  refine ⟨memRecvResult scan reset, ?_, ?_, ended.receives reset clean others⟩
  · have scans := @memRecvScanChecked_eq channel.atomicWriteCur clock len (channel.nodeCount + 1)
      ⟨channel, .success, channel.atomicReadCur, channel.atomicReadCur, none⟩ cursors.read data
    rw [looped] at scans
    rw [memRecvChecked, scans, Option.elim_some, after_ok, delivered, after_ok,
      memResetHeadsChecked_eq cursors.read, ended.begins, walked]
    rfl
  · rw [memRecv]
    dsimp only
    rw [looped]
    dsimp only
    rw [ended.begins, walked]
    rfl

end

/-! ### Safety -/

/-- What a call may do: it copies no more than the buffer holds, changes no data and only heads of
    unread nodes, leaves the read cursor between where it was and the write cursor, and returns
    success only for bytes that have the check code of their block. -/
structure RecvSafe (channel : MemChannel) (len : Nat) (result : RecvResult) : Prop where
  copied : result.buf.length ≤ len
  dataArea : result.channel.dataArea = channel.dataArea
  heads : ∀ index, result.channel.nodeHeads index ≠ channel.nodeHeads index →
    ∃ k < channel.unread, index = channel.nodeAt k
  readCur : result.channel.atomicReadCur < channel.nodeCount
  between : RingIndex.dist channel.nodeCount channel.atomicReadCur result.channel.atomicReadCur ≤
    channel.unread
  checked : result.ret = .success →
    ∃ k < channel.unread, result.buf = memCopyBlock channel (channel.nodeAt k) ∧
    memFastCheck result.buf = blockFastCheck channel (channel.nodeAt k)

section

variable {channel : MemChannel} {clock len : Nat} {result : RecvResult}

theorem Receives.copied (receives : Receives channel clock len result) :
    result.buf.length ≤ len := by
  cases receives with
  | drained => exact Nat.zero_le _
  | unfinished => exact Nat.zero_le _
  | tooLarge => exact Nat.zero_le _
  | passed => exact Nat.zero_le _
  | delivered path clears =>
      have fits := clears.fits
      dsimp only
      rw [memCopyBlock_length]
      exact fits

theorem Receives.checked (receives : Receives channel clock len result)
    (success : result.ret = .success) :
    ∃ k < channel.unread, result.buf = memCopyBlock channel (channel.nodeAt k) ∧
      memFastCheck result.buf = blockFastCheck channel (channel.nodeAt k) := by
  cases receives with
  | drained => exact absurd success (orElse_ne (by decide))
  | unfinished => exact absurd success (orElse_ne (by decide))
  | tooLarge => exact absurd success (orElse_ne (by decide))
  | passed _ _ _ failed => exact absurd success failed
  | delivered path clears =>
      dsimp only at success ⊢
      refine ⟨_, clears.inside, rfl, ?_⟩
      by_contra differs
      rw [if_pos differs] at success
      cases success

theorem Receives.safe (receives : Receives channel clock len result) (cursors : channel.CursorsIn) :
    RecvSafe channel len result := by
  have below := cursors.unread_lt
  obtain ⟨e, ret, dropped, c, -, -, -, last, -, moved, -⟩ := receives.ended
  refine ⟨receives.copied, moved.dataArea, ?_, ?_, ?_, receives.checked⟩
  · intro index changed
    by_contra apart
    apply changed
    apply moved.kept
    intro i before same
    exact apart ⟨i, by omega, same⟩
  · rw [moved.readCur]
    exact cursors.nodeAt_lt c
  · rw [moved.readCur, MemChannel.nodeAt, dist_slot cursors.read (by omega)]
    exact last

/-- A channel with other cursors and other contents of its areas. -/
def MemChannel.replaced (channel : MemChannel) (readCur writeCur : Nat) (heads : Nat → MemNodeHead)
    (data : Memory) : MemChannel :=
  { channel with
    atomicReadCur := readCur, atomicWriteCur := writeCur, nodeHeads := heads, dataArea := data }

theorem MemChannel.Formatted.replaced (formatted : channel.Formatted) (readCur writeCur : Nat)
    (heads : Nat → MemNodeHead) (data : Memory) :
    (channel.replaced readCur writeCur heads data).Formatted :=
  { formatted with }

/-- On a channel of `mem_init` whose cursors, heads and data are replaced by anything, every call
    returns, all its accesses are allowed, and it is safe. -/
theorem memRecv_safe {size : Nat} {made : MemChannel} (word : size < 2 ^ 64)
    (init : memInit size none = .ok made) {readCur writeCur : Nat} (read : readCur < made.nodeCount)
    (write : writeCur < made.nodeCount) (heads : Nat → MemNodeHead) (data : Memory)
    (clock len : Nat) :
    ∃ result, memRecvChecked clock (made.replaced readCur writeCur heads data) len = .ok result ∧
      memRecv clock (made.replaced readCur writeCur heads data) len = some result ∧
      RecvSafe (made.replaced readCur writeCur heads data) len result := by
  have formatted :=
    (memInit_serialRing word init).1.ring.formatted.replaced readCur writeCur heads data
  have cursors : (made.replaced readCur writeCur heads data).CursorsIn := ⟨read, write⟩
  obtain ⟨result, checked, called, receives⟩ := memRecvChecked_eq formatted cursors clock len
  exact ⟨result, checked, called, receives.safe cursors⟩

/-- Heads that all start a written block, over bytes that are all ones. -/
theorem memRecv_safe_corrupted : ∃ made result, memInit 8192 none = .ok made ∧
    memRecv 5 (made.replaced 7 3 (fun _ => ⟨3, 9⟩) fun _ => 255) 64 = some result ∧
    RecvSafe (made.replaced 7 3 (fun _ => ⟨3, 9⟩) fun _ => 255) 64 result := by
  have init : memInit 8192 none = .ok _ := rfl
  have word : 8192 < 2 ^ 64 := by decide
  obtain ⟨result, -, called, safe⟩ :=
    memRecv_safe word init (show 7 < 30 by decide) (show 3 < 30 by decide)
    (fun _ => ⟨3, 9⟩) (fun _ => 255) 5 64
  exact ⟨_, result, init, called, safe⟩

end

end LibAtbus.Channel
