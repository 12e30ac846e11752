/-
Module: LibAtbus.Proofs.MemRead
Layer: Proofs
Purpose: What `mem_recv` does on a channel whose ring of blocks is known: nothing on an empty ring,
  nothing but starting its clock on an unfinished first block, nothing on a first block too large
  for the caller, and otherwise it hands out the first block's message, clears its nodes and moves
  behind it.
Trusted boundary: none
Main exports: memRecv_empty, memRecv_unfinished, memRecv_tooLarge, memRecv_taken
-/
import LibAtbus.Proofs.MemRing

namespace LibAtbus.Channel

open ByteMemory RingIndex TiledRing

section

variable {channel : MemChannel} {rest : List Block} {block : Block} {clock len : Nat}

/-! ### The shape of a receive that skips nothing -/

/-- When the scanning loop stays at the read cursor no head is reset afterwards. -/
theorem memRecv_of_scan {scan : RecvScan}
    (scanned : memRecvScan clock len channel.atomicWriteCur (channel.nodeCount + 1)
      ⟨channel, .success, channel.atomicReadCur, channel.atomicReadCur, none⟩ = some scan)
    (stays : scan.readBeginCur = channel.atomicReadCur) :
    memRecv clock channel len = some { memDeliver scan with
      channel := { (memDeliver scan).channel with atomicReadCur := scan.readEndCur } } := by
  unfold memRecv
  dsimp only
  rw [scanned]
  dsimp only
  rw [stays, memResetHeads, if_pos rfl]

/-- An empty ring answers `NO_DATA` and stays as it is. -/
theorem memRecv_empty (ring : MemRing channel []) :
    memRecv clock channel len = some ⟨.noData, none, [], channel⟩ := by
  have atWrite : channel.atomicReadCur = channel.atomicWriteCur := by
    rw [ring.writeCur, extent_nil, slot_zero ring.readCur_lt]
  have scanned : memRecvScan clock len channel.atomicWriteCur (channel.nodeCount + 1)
      ⟨channel, .success, channel.atomicReadCur, channel.atomicReadCur, none⟩ =
        some ⟨channel, .noData, channel.atomicReadCur, channel.atomicReadCur, none⟩ := by
    rw [memRecvScan]
    exact if_pos atWrite
  rw [memRecv_of_scan scanned rfl]
  rfl

/-- The nodes from the read cursor on belong to the first block. -/
theorem MemRing.headAt (ring : MemRing channel (block :: rest)) {j : Nat}
    (below : j < block.nodes) :
    channel.nodeHeads (slot channel.nodeCount channel.atomicReadCur j) = block.head j := by
  have first : firstNode channel [] = channel.atomicReadCur := slot_zero ring.readCur_lt
  have head : channel.nodeHeads (slot channel.nodeCount (firstNode channel []) j) = block.head j :=
    MemRing.head ring below
  rwa [first] at head

theorem MemRing.firstHead (ring : MemRing channel (block :: rest)) :
    channel.nodeHeads channel.atomicReadCur = block.head 0 := by
  have head := ring.headAt Block.nodes_pos
  rwa [slot_zero ring.readCur_lt] at head

theorem MemRing.notAtWrite (ring : MemRing channel (block :: rest)) :
    channel.atomicReadCur ≠ channel.atomicWriteCur := by
  have room := ring.extent_lt
  have nonempty := @Block.nodes_pos block
  rw [extent_cons] at room
  have apart := slot_ne (s := channel.atomicReadCur) ring.formatted.nodeCount_pos ring.extent_lt
    (by rw [extent_cons]; omega)
  rwa [slot_zero ring.readCur_lt, ← ring.writeCur] at apart

/-- On an unfinished first block the reader starts its clock if it has not done so, and waits as
    long as the time is not out. -/
theorem memRecv_unfinished (ring : MemRing channel (block :: rest))
    (head : block.head 0 = ⟨2, block.oprSeq⟩)
    (waits : channel.firstFailedWritingTime = 0 ∨
      stampDistance (clockStamp clock) channel.firstFailedWritingTime ≤ channel.blockTimeoutCount) :
    memRecv clock channel len = some ⟨.noData, none, [], { channel with
      firstFailedWritingTime :=
        if channel.firstFailedWritingTime = 0 then clockStamp clock
        else channel.firstFailedWritingTime }⟩ := by
  have started : checkFlag (block.head 0).flag .startNode = true := by
    rw [head]
    simp [checkFlag, MemFlag.bit]
  have unwritten : checkFlag (block.head 0).flag .writen = false := by
    rw [head]
    simp [checkFlag, MemFlag.bit]
  have scanned : memRecvScan clock len channel.atomicWriteCur (channel.nodeCount + 1)
      ⟨channel, .success, channel.atomicReadCur, channel.atomicReadCur, none⟩ =
        some ⟨{ channel with
          firstFailedWritingTime :=
            if channel.firstFailedWritingTime = 0 then clockStamp clock
            else channel.firstFailedWritingTime },
          .noData, channel.atomicReadCur, channel.atomicReadCur, none⟩ := by
    rw [memRecvScan]
    dsimp only
    rw [if_neg ring.notAtWrite, ring.firstHead, started, unwritten]
    simp only [Bool.not_true, Bool.not_false, if_true, Bool.false_eq_true, if_false]
    by_cases fresh : channel.firstFailedWritingTime = 0
    · rw [if_pos fresh, if_pos fresh]
      rfl
    · rw [if_neg fresh, if_neg fresh, if_neg (by omega)]
      rfl
  rw [memRecv_of_scan scanned rfl]
  rfl

/-! ### The first block once it is written -/

/-- The bytes of the block of a message lie from a node on. -/
def HoldsBlock (channel : MemChannel) (index : Nat) (msg : List UInt8) : Prop :=
  ∀ i (inside : i < (blockBytes msg).length),
    channel.dataArea (slot (channel.nodeCount * nodeDataSize) (nodeDataAddr index) i) =
      (blockBytes msg)[i]

section

variable {index : Nat} {msg : List UInt8}

/-- The size word of a block. -/
theorem HoldsBlock.size (holds : HoldsBlock channel index msg) (below : index < channel.nodeCount)
    (small : msg.length < 2 ^ 64) : blockBufferSize channel index = msg.length := by
  have area := nodeDataAddr_lt below
  unfold nodeDataSize at area
  have start : nodeDataAddr index < channel.nodeCount * 128 := by omega
  have word : readBytes channel.dataArea (nodeDataAddr index + 0) 8 =
      readRing channel.dataArea (channel.nodeCount * 128) (nodeDataAddr index) 0 8 :=
    readBytes_straight start (by omega)
  have found : readRing channel.dataArea (channel.nodeCount * 128) (nodeDataAddr index) 0
      (toLE 8 msg.length).length =
      toLE 8 msg.length := by
    refine readRing_eq fun i inside => ?_
    have byte := holds i (by rw [blockBytes_length]; simp [blockHeadSize] at inside ⊢; omega)
    rw [Nat.zero_add]
    exact byte.trans (List.getElem_append_left inside)
  rw [toLE_length] at found
  rw [blockBufferSize, ← Nat.add_zero (nodeDataAddr _), word, found, fromLE_toLE small]

/-- The check code of a block. -/
theorem HoldsBlock.fastCheck (holds : HoldsBlock channel index msg)
    (below : index < channel.nodeCount) : blockFastCheck channel index = memFastCheck msg := by
  have area := nodeDataAddr_lt below
  unfold nodeDataSize at area
  have start : nodeDataAddr index < channel.nodeCount * 128 := by omega
  have word : readBytes channel.dataArea (nodeDataAddr index + 8) 8 =
      readRing channel.dataArea (channel.nodeCount * 128) (nodeDataAddr index) 8 8 :=
    readBytes_straight start (by omega)
  have found : readRing channel.dataArea (channel.nodeCount * 128) (nodeDataAddr index) 8
      (toLE 8 (memFastCheck msg)).length = toLE 8 (memFastCheck msg) := by
    refine readRing_eq fun i inside => ?_
    have behind : (toLE 8 msg.length).length ≤ 8 + i := by simp
    have byte := holds (8 + i) (by rw [blockBytes_length]; simp [blockHeadSize] at inside ⊢; omega)
    rw [byte]
    simp only [blockBytes]
    rw [List.getElem_append_right behind, List.getElem_append_left (by simp at inside ⊢; omega)]
    congr 1
    simp
  rw [toLE_length] at found
  have fits : memFastCheck msg < 256 ^ 8 := (Detail.crc64 0 msg).toNat_lt
  rw [blockFastCheck, word, found, fromLE_toLE fits]

/-- The copy of a block, in one piece or in two, is its message. -/
theorem HoldsBlock.copy (holds : HoldsBlock channel index msg) (shaped : channel.Shaped)
    (below : index < channel.nodeCount)
    (room : msg.length + blockHeadSize < channel.nodeCount * nodeDataSize) :
    memCopyBlock channel index = msg := by
  have few := shaped.nodeCount_lt
  have area := nodeDataAddr_lt below
  unfold nodeDataSize at area room
  unfold blockHeadSize at room
  have start : nodeDataAddr index < channel.nodeCount * 128 := by omega
  have whole : readRing channel.dataArea (channel.nodeCount * 128)
      (nodeDataAddr index) 16 msg.length = msg := by
    refine readRing_eq fun i inside => ?_
    have byte := holds (16 + i) (by rw [blockBytes_length]; simp [blockHeadSize]; omega)
    rw [byte]
    simp only [blockBytes]
    rw [List.getElem_append_right (by simp; omega), List.getElem_append_right (by simp; omega)]
    congr 1
    simp
    omega
  unfold memCopyBlock
  dsimp only
  rw [holds.size below (by omega), blockDataLen, shaped.dataLength]
  unfold blockHeadSize nodeDataSize
  split
  · rename_i straight
    rw [readBytes_straight start (by omega), whole]
  · rename_i crosses
    have atStart : nodeDataAddr 0 = 0 := Nat.zero_mul _
    rw [readBytes_straight start (by omega), atStart, readBytes_wrapped start (by omega)]
    obtain ⟨front, seam⟩ : ∃ front, channel.nodeCount * 128 - nodeDataAddr index = 16 + front :=
      ⟨channel.nodeCount * 128 - nodeDataAddr index - 16, by omega⟩
    rw [seam, Nat.add_sub_cancel_left] at crosses ⊢
    rw [readRing_append, Nat.add_sub_cancel' (by omega), whole]

end

/-- The bytes of a first block whose contents are stored. -/
theorem MemRing.firstBytes (ring : MemRing channel (block :: rest)) (has : block.HasBytes) :
    HoldsBlock channel channel.atomicReadCur block.msg := by
  intro i inside
  have holds : block.byteHolds i (channel.dataArea (slot (channel.nodeCount * nodeDataSize)
      (channel.atomicReadCur * nodeDataSize) (extent Block.room [] + i))) :=
    Laid.cell ring.bytes (Nat.lt_of_lt_of_le inside Block.bytes_le_room)
  have holds := holds has
  rw [extent_nil, Nat.zero_add, Block.bytes, List.getElem?_eq_getElem inside] at holds
  exact holds.symm

/-- The size word of the first block. -/
theorem blockBufferSize_first (ring : MemRing channel (block :: rest)) (has : block.HasBytes) :
    blockBufferSize channel channel.atomicReadCur = block.msg.length := by
  have small := (ring.valid block (by simp)).msg_le
  unfold channelMinSize channelHeadSize nodeHeadSize at small
  exact (ring.firstBytes has).size ring.readCur_lt (by omega)

/-- The check code of the first block. -/
theorem blockFastCheck_first (ring : MemRing channel (block :: rest)) (has : block.HasBytes) :
    blockFastCheck channel channel.atomicReadCur = memFastCheck block.msg :=
  (ring.firstBytes has).fastCheck ring.readCur_lt

/-- The copy of the first block is its message. -/
theorem memCopyBlock_first (ring : MemRing channel (block :: rest)) (has : block.HasBytes) :
    memCopyBlock channel channel.atomicReadCur = block.msg := by
  have room := ring.extent_lt
  have large := @le_blockNodes_mul block.msg.length
  rw [extent_cons] at room
  unfold Block.nodes nodeDataSize blockHeadSize at *
  apply (ring.firstBytes has).copy ring.formatted.shaped ring.readCur_lt
  unfold nodeDataSize blockHeadSize
  omega

/-! ### Taking the first block -/

/-- The clearing loop runs over the nodes that carry the sequence number of the block and stops at
    the write cursor or at the first node that does not. -/
theorem memClearTags_walk {writeCur oprSeq start count remaining : Nat} :
    ∀ {cursor fuel : Nat} {heads : Nat → MemNodeHead},
      cursor + remaining = count → count < channel.nodeCount → remaining < fuel →
      (∀ j, cursor ≤ j → j < count → slot channel.nodeCount start j ≠ writeCur ∧
        (heads (slot channel.nodeCount start j)).operationSeq = oprSeq) →
      (slot channel.nodeCount start count = writeCur ∨
        (heads (slot channel.nodeCount start count)).operationSeq ≠ oprSeq) →
      ∃ heads',
        memClearTags channel writeCur oprSeq fuel (slot channel.nodeCount start cursor) heads =
          some (slot channel.nodeCount start count, heads') ∧
        (∀ j, cursor ≤ j → j < count → heads' (slot channel.nodeCount start j) = .clean) ∧
        (∀ index, (∀ j, cursor ≤ j → j < count → index ≠ slot channel.nodeCount start j) →
          heads' index = heads index) := by
  induction remaining with
  | zero =>
      intro cursor fuel heads total below enough same stop
      obtain ⟨fuel, rfl⟩ : ∃ rounds, fuel = rounds + 1 := ⟨fuel - 1, by omega⟩
      obtain rfl : cursor = count := by omega
      refine ⟨heads, ?_, fun j lower upper => by omega, fun _ _ => rfl⟩
      rw [memClearTags]
      rcases stop with atWrite | other
      · rw [if_pos atWrite]
      · rw [if_pos other]
        split <;> rfl
  | succ remaining ih =>
      intro cursor fuel heads total below enough same stop
      obtain ⟨fuel, rfl⟩ : ∃ rounds, fuel = rounds + 1 := ⟨fuel - 1, by omega⟩
      obtain ⟨notWrite, tagged⟩ := same cursor le_rfl (by omega)
      have others : ∀ k < channel.nodeCount, k ≠ cursor →
          Function.update heads (slot channel.nodeCount start cursor) MemNodeHead.clean
            (slot channel.nodeCount start k) = heads (slot channel.nodeCount start k) :=
        fun k inside differs => Function.update_of_ne (slot_ne inside (by omega) differs) _ _
      obtain ⟨heads', walk, cleared, kept⟩ := @ih (cursor + 1) fuel
        (Function.update heads (slot channel.nodeCount start cursor) .clean)
        (by omega) below (by omega)
        (fun j lower upper => by
          rw [others j (by omega) (by omega)]
          exact same j (by omega) upper)
        (by
          rw [others count below (by omega)]
          exact stop)
      refine ⟨heads', ?_, ?_, ?_⟩
      · rw [memClearTags, if_neg notWrite, if_neg (fun differs => differs tagged), memNextIndex,
          slot_slot]
        exact walk
      · intro j lower upper
        rcases Nat.lt_or_eq_of_le lower with later | rfl
        · exact cleared j later upper
        · rw [kept _ fun k lower' upper' => slot_ne (by omega) (by omega) (by omega),
            Function.update_self]
      · intro index apart
        rw [kept index fun j lower upper => apart j (by omega) upper,
          Function.update_of_ne (apart cursor le_rfl (by omega))]

/-- The size of a block passes the sanity check of the reader. -/
theorem MemRing.firstSize (ring : MemRing channel (block :: rest)) :
    ¬(block.msg.length = 0 ∨ block.msg.length ≥
      Word64.sub (channel.areaEndOffset - channel.areaDataOffset)
        channel.conf.protectMemorySize) := by
  have valid := ring.valid block (by simp)
  have small := ring.formatted.nodeCount_lt
  have protect := ring.formatted.protectNode
  have large := @le_blockNodes_mul block.msg.length
  have few := valid.nodes_lt
  have nonempty : block.msg.length ≠ 0 :=
    fun zero => valid.msg_ne (List.eq_nil_of_length_eq_zero zero)
  rw [ring.formatted.dataLength, ring.formatted.protectMemory]
  unfold Block.nodes nodeDataSize blockHeadSize at *
  rw [Word64.sub_of_le (by omega) (by omega)]
  omega

/-- A first block that is too large for the caller is reported and stays. -/
theorem memRecv_tooLarge (ring : MemRing channel (block :: rest)) (phase : block.phase = .writen)
    (larger : len < block.msg.length) :
    memRecv clock channel len = some ⟨.buffLimit, some block.msg.length, [], channel⟩ := by
  have head : block.head 0 = ⟨3, block.oprSeq⟩ := by rw [Block.head, phase]; rfl
  have started : checkFlag (block.head 0).flag .startNode = true := by
    rw [head]
    simp [checkFlag, MemFlag.bit]
  have written : checkFlag (block.head 0).flag .writen = true := by
    rw [head]
    simp [checkFlag, MemFlag.bit]
  have scanned : memRecvScan clock len channel.atomicWriteCur (channel.nodeCount + 1)
      ⟨channel, .success, channel.atomicReadCur, channel.atomicReadCur, none⟩ =
        some ⟨channel, .buffLimit, channel.atomicReadCur, channel.atomicReadCur,
          some block.msg.length⟩ := by
    rw [memRecvScan]
    dsimp only
    rw [if_neg ring.notAtWrite, ring.firstHead, started, written,
      blockBufferSize_first ring (Or.inr phase)]
    simp only [Bool.not_true, Bool.false_eq_true, if_false]
    rw [if_neg ring.firstSize, if_pos larger]
    rfl
  rw [memRecv_of_scan scanned rfl]
  rfl

/-- Taking the first block off the ring, once its nodes are clean. -/
theorem MemRing.dropFirst {heads : Nat → MemNodeHead} {firstFailed : Nat}
    (ring : MemRing channel (block :: rest))
    (cleared : ∀ j < block.nodes,
      heads (slot channel.nodeCount channel.atomicReadCur j) = .clean)
    (kept : ∀ k < channel.nodeCount, block.nodes ≤ k →
      heads (slot channel.nodeCount channel.atomicReadCur k) =
        channel.nodeHeads (slot channel.nodeCount channel.atomicReadCur k)) :
    MemRing { channel with
      nodeHeads := heads
      firstFailedWritingTime := firstFailed
      atomicReadCur := slot channel.nodeCount channel.atomicReadCur block.nodes } rest := by
  have room := ring.extent_lt
  rw [extent_cons] at room
  refine
    { formatted := { ring.formatted with }
      readCur_lt := slot_lt ring.formatted.nodeCount_pos
      extent_lt := Nat.lt_of_le_of_lt (Nat.le_add_left _ _) room
      writeCur := ?_
      heads := ring.heads.dropFirst ring.extent_lt.le cleared kept
      bytes := ?_
      valid := fun other member => { ring.valid other (List.mem_cons_of_mem _ member) with } }
  · rw [slot_slot, ← extent_cons]
    exact ring.writeCur
  · have dropped := ring.bytes.dropFirst
      (by rw [extent_room]; exact Nat.mul_le_mul_right _ ring.extent_lt.le)
      (fun _ _ => trivial) (fun k _ _ => Eq.refl (channel.dataArea _))
    rw [Block.room, ← slot_mul] at dropped
    exact dropped

/-- The clearing loop on a written first block clears exactly its nodes. -/
theorem memClearTags_first (ring : MemRing channel (block :: rest)) (phase : block.phase = .writen)
    (next : ∀ other ∈ rest.head?, (other.head 0).operationSeq ≠ block.oprSeq) :
    ∃ heads, memClearTags channel channel.atomicWriteCur block.oprSeq (channel.nodeCount + 1)
        channel.atomicReadCur channel.nodeHeads =
          some (slot channel.nodeCount channel.atomicReadCur block.nodes, heads) ∧
      (∀ j < block.nodes, heads (slot channel.nodeCount channel.atomicReadCur j) = .clean) ∧
      ∀ k < channel.nodeCount, block.nodes ≤ k →
        heads (slot channel.nodeCount channel.atomicReadCur k) =
          channel.nodeHeads (slot channel.nodeCount channel.atomicReadCur k) := by
  have room := ring.extent_lt
  have total : extent Block.nodes (block :: rest) = block.nodes + extent Block.nodes rest :=
    extent_cons
  have same : ∀ j, 0 ≤ j → j < block.nodes →
      slot channel.nodeCount channel.atomicReadCur j ≠ channel.atomicWriteCur ∧
        (channel.nodeHeads (slot channel.nodeCount channel.atomicReadCur j)).operationSeq =
          block.oprSeq := by
    intro j _ below
    rw [ring.writeCur, ring.headAt below, Block.head, phase]
    refine ⟨slot_ne (by omega) room (by omega), ?_⟩
    dsimp only
    split <;> rfl
  have stop : slot channel.nodeCount channel.atomicReadCur block.nodes = channel.atomicWriteCur ∨
      (channel.nodeHeads (slot channel.nodeCount channel.atomicReadCur block.nodes)).operationSeq ≠
        block.oprSeq := by
    cases rest with
    | nil =>
        left
        rw [ring.writeCur, total, extent_nil, Nat.add_zero]
    | cons other others =>
        right
        have head : channel.nodeHeads (slot channel.nodeCount (firstNode channel [block]) 0) =
            other.head 0 := MemRing.head ring Block.nodes_pos
        rw [firstNode, slot_slot, extent_cons, extent_nil, Nat.add_zero] at head
        rw [head]
        exact next other rfl
  obtain ⟨heads, walk, cleared, kept⟩ := memClearTags_walk (Nat.zero_add block.nodes) (by omega)
    (show block.nodes < channel.nodeCount + 1 by omega) same stop
  rw [slot_zero ring.readCur_lt] at walk
  refine ⟨heads, walk, fun j => cleared j (Nat.zero_le j),
    fun k inside behind => kept _ fun j _ upper => ?_⟩
  exact slot_ne inside (by omega) (by omega)

/-- A first block that fits is handed out: its nodes become clean, the read cursor moves behind it,
    and nothing else but the reader's clock changes. The block behind it must not carry the same
    sequence number, since only that tells the two apart. -/
theorem memRecv_taken (ring : MemRing channel (block :: rest)) (phase : block.phase = .writen)
    (fits : block.msg.length ≤ len)
    (next : ∀ other ∈ rest.head?, (other.head 0).operationSeq ≠ block.oprSeq) :
    ∃ heads, memRecv clock channel len = some ⟨.success, some block.msg.length, block.msg,
        { channel with
          nodeHeads := heads
          firstFailedWritingTime := 0
          atomicReadCur := slot channel.nodeCount channel.atomicReadCur block.nodes }⟩ ∧
      MemRing { channel with
          nodeHeads := heads
          firstFailedWritingTime := 0
          atomicReadCur := slot channel.nodeCount channel.atomicReadCur block.nodes } rest ∧
      ∀ k < channel.nodeCount, block.nodes ≤ k →
        heads (slot channel.nodeCount channel.atomicReadCur k) =
          channel.nodeHeads (slot channel.nodeCount channel.atomicReadCur k) := by
  obtain ⟨heads, clears, cleared, kept⟩ := memClearTags_first ring phase next
  refine ⟨heads, ?_, ring.dropFirst cleared kept, kept⟩
  have head : block.head 0 = ⟨3, block.oprSeq⟩ := by rw [Block.head, phase]; rfl
  have started : checkFlag (block.head 0).flag .startNode = true := by
    rw [head]
    simp [checkFlag, MemFlag.bit]
  have written : checkFlag (block.head 0).flag .writen = true := by
    rw [head]
    simp [checkFlag, MemFlag.bit]
  have room := ring.extent_lt
  rw [extent_cons] at room
  have nodesNum : (slot channel.nodeCount channel.atomicReadCur block.nodes + channel.nodeCount -
      channel.atomicReadCur) % channel.nodeCount = block.nodes :=
    dist_slot ring.readCur_lt (by omega)
  have scanned : memRecvScan clock len channel.atomicWriteCur (channel.nodeCount + 1)
      ⟨channel, .success, channel.atomicReadCur, channel.atomicReadCur, none⟩ =
        some ⟨{ channel with nodeHeads := heads }, .success, channel.atomicReadCur,
          slot channel.nodeCount channel.atomicReadCur block.nodes, none⟩ := by
    rw [memRecvScan]
    dsimp only
    rw [if_neg ring.notAtWrite, ring.firstHead, started, written,
      blockBufferSize_first ring (Or.inr phase), head]
    simp only [Bool.not_true, Bool.false_eq_true, if_false]
    rw [if_neg ring.firstSize, if_neg (by omega), clears]
    dsimp only
    rw [nodesNum, memCalcNodeNum_eq ring.formatted.shaped (ring.valid block (by simp)).msg_le,
      if_neg (fun differs => differs rfl)]
  rw [memRecv_of_scan scanned rfl]
  have copy := memCopyBlock_first ring (Or.inr phase)
  have check := blockFastCheck_first ring (Or.inr phase)
  have size := blockBufferSize_first ring (Or.inr phase)
  have delivered : memDeliver ⟨{ channel with nodeHeads := heads }, .success, channel.atomicReadCur,
      slot channel.nodeCount channel.atomicReadCur block.nodes, none⟩ =
        ⟨if memFastCheck (memCopyBlock channel channel.atomicReadCur) ≠
            blockFastCheck channel channel.atomicReadCur then .badData else .success,
          some (blockBufferSize channel channel.atomicReadCur),
          memCopyBlock channel channel.atomicReadCur,
          { channel with nodeHeads := heads, firstFailedWritingTime := 0 }⟩ := rfl
  rw [delivered, copy, check, size, if_neg (fun differs => differs rfl)]

end

end LibAtbus.Channel
