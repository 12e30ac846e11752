/-
Module: LibAtbus.Proofs.MemRing
Layer: Proofs
Purpose: The invariant of the memory channel. The nodes from the read cursor to the write cursor are
  tiled by blocks, each as far as its writer has come; the nodes behind them are clean. One lemma
  for each atomic piece of `mem_send_real` says which block it changes and how.
Trusted boundary: none
Main exports: Block, MemChannel.Formatted, MemRing, memReserve_ring, memStartBlock_ring,
  memTagNode_ring, memStoreBlock_ring, memFinishBlock_ring
-/
import LibAtbus.Channel.MemChannel
import LibAtbus.Foundation.TiledRing

namespace LibAtbus.Channel

open ByteMemory RingIndex TiledRing

/-! ### Blocks -/

/-- How far the writer of a block has come: its nodes are reserved, the first node is started and
    `tagged` more are tagged, the contents are stored, the block is marked as written. -/
inductive BlockPhase where
  | reserved
  | tagging (tagged : Nat)
  | stored
  | writen
deriving DecidableEq, Repr

/-- A block of the channel between its reservation and its consumption. -/
structure Block where
  msg : List UInt8
  oprSeq : Nat
  phase : BlockPhase

/-- The nodes a block of `len` bytes takes, its block head included. -/
def blockNodes (len : Nat) : Nat := (len + blockHeadSize + nodeDataSize - 1) / nodeDataSize

/-- The nodes of a block. -/
def Block.nodes (block : Block) : Nat := blockNodes block.msg.length

/-- The head of the `j`-th node of a block. -/
def Block.head (block : Block) (j : Nat) : MemNodeHead :=
  match block.phase with
  | .reserved => .clean
  | .tagging tagged =>
      if j = 0 then ⟨2, block.oprSeq⟩ else if j ≤ tagged then ⟨1, block.oprSeq⟩ else .clean
  | .stored => if j = 0 then ⟨2, block.oprSeq⟩ else ⟨1, block.oprSeq⟩
  | .writen => if j = 0 then ⟨3, block.oprSeq⟩ else ⟨1, block.oprSeq⟩

/-- The bytes of a block from its block head on: size, check code, message. -/
def blockBytes (msg : List UInt8) : List UInt8 :=
  toLE 8 msg.length ++ (toLE 8 (memFastCheck msg) ++ msg)

/-- The bytes of a block. -/
def Block.bytes (block : Block) : List UInt8 := blockBytes block.msg

/-- The contents of a block lie in the data area from the store on. -/
def Block.HasBytes (block : Block) : Prop := block.phase = .stored ∨ block.phase = .writen

/-- What a block asks of its `j`-th byte in the data area. -/
def Block.byteHolds (block : Block) (j : Nat) (byte : UInt8) : Prop :=
  block.HasBytes → (block.bytes[j]?).getD byte = byte

/-- The block with its writer at another place. -/
def Block.withPhase (block : Block) (phase : BlockPhase) : Block := { block with phase := phase }

/-- The data bytes of a block's nodes. -/
def Block.room (block : Block) : Nat := block.nodes * nodeDataSize

section

variable {block : Block} {phase : BlockPhase} {len : Nat}

@[simp] theorem Block.withPhase_oprSeq : (block.withPhase phase).oprSeq = block.oprSeq := rfl

@[simp] theorem Block.withPhase_phase : (block.withPhase phase).phase = phase := rfl

@[simp] theorem Block.withPhase_nodes : (block.withPhase phase).nodes = block.nodes := rfl

@[simp] theorem Block.withPhase_room : (block.withPhase phase).room = block.room := rfl

theorem blockNodes_pos : 0 < blockNodes len := by
  unfold blockNodes blockHeadSize nodeDataSize
  omega

/-- The nodes of a block hold the block head and the message. -/
theorem le_blockNodes_mul : len + blockHeadSize ≤ blockNodes len * nodeDataSize := by
  unfold blockNodes blockHeadSize nodeDataSize
  omega

theorem Block.nodes_pos : 0 < block.nodes := blockNodes_pos

@[simp] theorem blockBytes_length {msg : List UInt8} :
    (blockBytes msg).length = msg.length + blockHeadSize := by
  simp [blockBytes, blockHeadSize]
  omega

theorem Block.bytes_le_room : block.bytes.length ≤ block.room := by
  rw [Block.bytes, blockBytes_length]
  exact le_blockNodes_mul

end

/-! ### The invariant -/

/-- The fields of the channel header that no operation changes, as `mem_init` leaves them. -/
structure MemChannel.Formatted (channel : MemChannel) : Prop where
  nodeSize : channel.nodeSize = nodeDataSize
  nodeSizeBinPower : channel.nodeSizeBinPower = 7
  nodeCount_pos : 0 < channel.nodeCount
  nodeCount_lt : channel.nodeCount < 2 ^ 57
  dataLength : channel.areaEndOffset - channel.areaDataOffset = channel.nodeCount * nodeDataSize
  protectNode : channel.conf.protectNodeCount ≤ channel.nodeCount
  protectMemory : channel.conf.protectMemorySize = channel.conf.protectNodeCount * nodeDataSize
  writeRetry : 0 < channel.conf.writeRetryTimes

/-- The fields of the channel header that say how large nodes are and where they lie, as `mem_init`
    leaves them. -/
structure MemChannel.Shaped (channel : MemChannel) : Prop where
  nodeSize : channel.nodeSize = nodeDataSize
  nodeSizeBinPower : channel.nodeSizeBinPower = 7
  nodeCount_lt : channel.nodeCount < 2 ^ 57
  dataLength : channel.areaEndOffset - channel.areaDataOffset = channel.nodeCount * nodeDataSize

theorem MemChannel.Formatted.shaped {channel : MemChannel} (formatted : channel.Formatted) :
    channel.Shaped :=
  { formatted with }

/-- What every block of the channel satisfies. Its message lay in the address space beside the
    channel. -/
structure Block.Valid (channel : MemChannel) (block : Block) : Prop where
  msg_ne : block.msg ≠ []
  msg_le : block.msg.length + channelMinSize ≤ 2 ^ 64
  oprSeq_ne : block.oprSeq ≠ 0
  nodes_lt : block.nodes < channel.nodeCount - channel.conf.protectNodeCount

/-- The ring of the channel: the blocks lie between the two cursors, in order and each in its phase,
    and every other node is clean. -/
structure MemRing (channel : MemChannel) (blocks : List Block) : Prop where
  formatted : channel.Formatted
  readCur_lt : channel.atomicReadCur < channel.nodeCount
  extent_lt : extent Block.nodes blocks < channel.nodeCount
  writeCur : channel.atomicWriteCur =
    slot channel.nodeCount channel.atomicReadCur (extent Block.nodes blocks)
  heads : Laid Block.nodes (fun block j head => head = block.head j) (· = .clean)
    channel.nodeCount channel.atomicReadCur channel.nodeHeads blocks
  bytes : Laid Block.room Block.byteHolds (fun _ => True) (channel.nodeCount * nodeDataSize)
    (channel.atomicReadCur * nodeDataSize) channel.dataArea blocks
  valid : ∀ block ∈ blocks, block.Valid channel

/-- The first node of the block behind the blocks `before`. -/
def firstNode (channel : MemChannel) (before : List Block) : Nat :=
  slot channel.nodeCount channel.atomicReadCur (extent Block.nodes before)

theorem extent_room (blocks : List Block) :
    extent Block.room blocks = extent Block.nodes blocks * nodeDataSize := by
  induction blocks with
  | nil => simp
  | cons block blocks ih => rw [extent_cons, extent_cons, ih, Nat.add_mul, Block.room]

section

variable {channel : MemChannel} {left right : List Block} {block : Block}

/-- The data bytes of a block, counted from the read cursor or from the block's own first node. -/
theorem slot_byte {i : Nat} :
    slot (channel.nodeCount * nodeDataSize) (channel.atomicReadCur * nodeDataSize)
        (extent Block.room left + i) =
      slot (channel.nodeCount * nodeDataSize) (firstNode channel left * nodeDataSize) i := by
  rw [extent_room, firstNode, slot_mul, slot_slot]

/-- The `j`-th node of a block. -/
theorem slot_node {j : Nat} :
    slot channel.nodeCount channel.atomicReadCur (extent Block.nodes left + j) =
      slot channel.nodeCount (firstNode channel left) j := by
  rw [firstNode, slot_slot]

theorem MemRing.firstNode_lt (ring : MemRing channel (left ++ block :: right)) :
    firstNode channel left < channel.nodeCount :=
  slot_lt ring.formatted.nodeCount_pos

/-- The nodes of a block of the ring have the heads of its phase. -/
theorem MemRing.head (ring : MemRing channel (left ++ block :: right)) {j : Nat}
    (below : j < block.nodes) :
    channel.nodeHeads (slot channel.nodeCount (firstNode channel left) j) = block.head j := by
  rw [← slot_node]
  exact ring.heads.cell below

theorem MemRing.nodes_lt (ring : MemRing channel (left ++ block :: right)) :
    extent Block.nodes left + block.nodes + extent Block.nodes right < channel.nodeCount := by
  have total := ring.extent_lt
  simp only [extent_append, extent_cons] at total
  omega

/-- What the writer of a block may do to the channel: the heads of the block's nodes and the bytes
    of its data become those of its new phase, and nothing else changes. -/
theorem MemRing.advance {phase : BlockPhase} {heads : Nat → MemNodeHead} {bytes : Memory}
    (ring : MemRing channel (left ++ block :: right))
    (headsInside : ∀ j < block.nodes,
      heads (slot channel.nodeCount (firstNode channel left) j) = (block.withPhase phase).head j)
    (headsOutside : ∀ index, (∀ j < block.nodes,
      index ≠ slot channel.nodeCount (firstNode channel left) j) →
        heads index = channel.nodeHeads index)
    (bytesInside : ∀ i < block.room, (block.withPhase phase).byteHolds i
      (bytes (slot (channel.nodeCount * nodeDataSize) (firstNode channel left * nodeDataSize) i)))
    (bytesOutside : ∀ i < channel.nodeCount * nodeDataSize, block.room ≤ i →
      bytes (slot (channel.nodeCount * nodeDataSize) (firstNode channel left * nodeDataSize) i) =
        channel.dataArea
          (slot (channel.nodeCount * nodeDataSize) (firstNode channel left * nodeDataSize) i)) :
    MemRing { channel with nodeHeads := heads, dataArea := bytes }
      (left ++ block.withPhase phase :: right) := by
  have room := ring.nodes_lt
  have sameExtent : extent Block.nodes (left ++ block.withPhase phase :: right) =
      extent Block.nodes (left ++ block :: right) := by simp
  refine
    { formatted := { ring.formatted with }
      readCur_lt := ring.readCur_lt
      extent_lt := ?_
      writeCur := ?_
      heads := ?_
      bytes := ?_
      valid := ?_ }
  · rw [sameExtent]
    exact ring.extent_lt
  · rw [sameExtent]
    exact ring.writeCur
  · refine ring.heads.replace ring.extent_lt.le rfl ?_ ?_
    · intro j below
      rw [slot_node]
      exact headsInside j below
    · intro k below apart
      refine headsOutside _ fun j inside same => ?_
      rw [← slot_node, slot_inj below (by omega)] at same
      omega
  · refine ring.bytes.replace ?_ rfl ?_ ?_
    · rw [extent_room]
      exact Nat.mul_le_mul_right _ ring.extent_lt.le
    · intro i below
      rw [slot_byte]
      exact bytesInside i below
    · intro k below apart
      have leftRoom : extent Block.room left + block.room ≤ channel.nodeCount * nodeDataSize := by
        rw [extent_room, Block.room, ← Nat.add_mul]
        exact Nat.mul_le_mul_right _ (by omega)
      have origin : slot (channel.nodeCount * nodeDataSize)
          (channel.atomicReadCur * nodeDataSize) (extent Block.room left) =
            firstNode channel left * nodeDataSize := by
        rw [extent_room, firstNode, slot_mul]
      rw [slot_from (show extent Block.room left ≤ channel.nodeCount * nodeDataSize by omega),
        origin]
      refine bytesOutside _ ?_ ?_ <;> split <;> omega
  · intro member inside
    have original : member ∈ left ++ block :: right ∨ member = block.withPhase phase := by
      simp only [List.mem_append, List.mem_cons] at inside ⊢
      tauto
    rcases original with old | rfl
    · exact { ring.valid member old with }
    · exact { ring.valid block (by simp) with }

end

/-! ### The pieces of a send -/

section

variable {channel : MemChannel} {left right : List Block} {block : Block}

/-- A node index lies in the ring of data bytes. -/
theorem nodeDataAddr_lt {index : Nat} (below : index < channel.nodeCount) :
    nodeDataAddr index + nodeDataSize ≤ channel.nodeCount * nodeDataSize := by
  have scaled := Nat.mul_le_mul_right nodeDataSize (Nat.succ_le_of_lt below)
  rw [Nat.succ_mul] at scaled
  exact scaled

/-- Two words and the data behind them, once the data is in place, are the bytes of one block. -/
theorem writeBlock_slot {memory copied : Memory} {size start i : Nat}
    {first second data : List UInt8} (firstWord : first.length = 8) (secondWord : second.length = 8)
    (below : start < size) (room : blockHeadSize ≤ size - start) (inside : i < size)
    (dataWritten : copied (slot size start i) =
      if blockHeadSize ≤ i then (data[i - blockHeadSize]?).getD
        (writeBytes memory start first (slot size start i))
      else writeBytes memory start first (slot size start i)) :
    writeBytes copied (start + 8) second (slot size start i) =
      ((first ++ (second ++ data))[i]?).getD (memory (slot size start i)) := by
  unfold blockHeadSize at *
  have firstWrite : writeBytes memory start first (slot size start i) =
      (first[i]?).getD (memory (slot size start i)) := by
    have written : writeBytes memory (start + 0) first (slot size start i) = _ :=
      writeBytes_slot below (by omega) inside
    simpa using written
  rw [writeBytes_slot below (by omega) inside, dataWritten, firstWrite, List.getElem?_append,
    List.getElem?_append, firstWord, secondWord]
  by_cases inFirst : i < 8
  · rw [if_neg (by omega), if_neg (by omega), if_pos inFirst]
  · have noFirst : first[i]? = none := List.getElem?_eq_none (by omega)
    by_cases inSecond : i - 8 < 8
    · rw [if_pos (by omega), if_neg (by omega), if_neg inFirst, if_pos inSecond, noFirst]
      rfl
    · have noSecond : second[i - 8]? = none := List.getElem?_eq_none (by omega)
      have index : i - 8 - 8 = i - 16 := by omega
      rw [if_pos (by omega), if_pos (by omega), if_neg inFirst, if_neg inSecond, noFirst, noSecond,
        index]
      rfl

/-- The store of a block writes its bytes one after the other along the ring of data bytes, whether
    or not the copy is split at the end of the area, and no other byte. -/
theorem memStoreBlock_dataArea (shaped : channel.Shaped) {index : Nat} {msg : List UInt8}
    (below : index < channel.nodeCount) (fits : blockNodes msg.length < channel.nodeCount) {i : Nat}
    (inside : i < channel.nodeCount * nodeDataSize) :
    (memStoreBlock channel index (slot channel.nodeCount index (blockNodes msg.length))
      msg).dataArea
        (slot (channel.nodeCount * nodeDataSize) (nodeDataAddr index) i) =
      ((blockBytes msg)[i]?).getD (channel.dataArea
        (slot (channel.nodeCount * nodeDataSize) (nodeDataAddr index) i)) := by
  have area := nodeDataAddr_lt below
  have large := @le_blockNodes_mul msg.length
  have nodeRoom : blockNodes msg.length * nodeDataSize ≤ channel.nodeCount * nodeDataSize :=
    Nat.mul_le_mul_right _ fits.le
  have dataLen : blockDataLen channel index =
      channel.nodeCount * nodeDataSize - nodeDataAddr index - blockHeadSize := by
    rw [blockDataLen, shaped.dataLength]
  have target := slot_eq below fits
  unfold memStoreBlock
  rw [dataLen]
  unfold nodeDataSize blockHeadSize at *
  have start : nodeDataAddr index < channel.nodeCount * 128 := by omega
  refine writeBlock_slot (toLE_length 8 _) (toLE_length 8 _) start
    (by unfold blockHeadSize; omega) inside ?_
  have address : nodeDataAddr index = index * 128 := rfl
  by_cases splits : slot channel.nodeCount index (blockNodes msg.length) ≠ 0 ∧
      slot channel.nodeCount index (blockNodes msg.length) < index
  · rw [if_pos splits]
    have crosses : channel.nodeCount < index + blockNodes msg.length := by
      rw [target] at splits
      split at splits <;> omega
    have longer : channel.nodeCount * 128 - nodeDataAddr index - 16 < msg.length := by
      unfold blockNodes blockHeadSize nodeDataSize at crosses
      omega
    rw [if_pos longer]
    exact writeBytes_slot_split start (by omega) (by omega) inside
  · rw [if_neg splits]
    have straight : index + blockNodes msg.length ≤ channel.nodeCount := by
      rw [target] at splits
      split at splits <;> omega
    exact writeBytes_slot start (by omega) inside

/-- Setting the head of one node of a block, together with a change of the block's data. -/
theorem MemRing.advanceNode {phase : BlockPhase} {head : MemNodeHead} {bytes : Memory} {node : Nat}
    (ring : MemRing channel (left ++ block :: right)) (ofBlock : node < block.nodes)
    (newHead : ∀ j, (block.withPhase phase).head j = if j = node then head else block.head j)
    (bytesInside : ∀ i < block.room, (block.withPhase phase).byteHolds i
      (bytes (slot (channel.nodeCount * nodeDataSize) (firstNode channel left * nodeDataSize) i)))
    (bytesOutside : ∀ i < channel.nodeCount * nodeDataSize, block.room ≤ i →
      bytes (slot (channel.nodeCount * nodeDataSize) (firstNode channel left * nodeDataSize) i) =
        channel.dataArea
          (slot (channel.nodeCount * nodeDataSize) (firstNode channel left * nodeDataSize) i)) :
    MemRing { channel with
      nodeHeads := Function.update channel.nodeHeads
        (slot channel.nodeCount (firstNode channel left) node) head
      dataArea := bytes } (left ++ block.withPhase phase :: right) := by
  have room := ring.nodes_lt
  refine ring.advance ?_ ?_ bytesInside bytesOutside
  · intro j below
    rw [newHead]
    by_cases same : j = node
    · rw [if_pos same, same, Function.update_self]
    · rw [if_neg same, Function.update_of_ne (slot_ne (by omega) (by omega) same)]
      exact ring.head below
  · intro index outside
    exact Function.update_of_ne (outside node ofBlock) _ _

/-- Setting the head of one node of a block and nothing else. -/
theorem MemRing.markNode {phase : BlockPhase} {head : MemNodeHead} {node : Nat}
    (ring : MemRing channel (left ++ block :: right)) (ofBlock : node < block.nodes)
    (newHead : ∀ j, (block.withPhase phase).head j = if j = node then head else block.head j)
    (hasBytes : (block.withPhase phase).HasBytes → block.HasBytes) :
    MemRing { channel with
      nodeHeads := Function.update channel.nodeHeads
        (slot channel.nodeCount (firstNode channel left) node) head }
      (left ++ block.withPhase phase :: right) := by
  refine ring.advanceNode ofBlock newHead ?_ fun _ _ _ => rfl
  intro i below has
  rw [← slot_byte]
  exact ring.bytes.cell below (hasBytes has)

/-- The first node of a reserved block is started. -/
theorem memStartBlock_ring (ring : MemRing channel (left ++ block :: right))
    (phase : block.phase = .reserved) :
    MemRing (memStartBlock channel (firstNode channel left) block.oprSeq)
      (left ++ block.withPhase (.tagging 0) :: right) := by
  have index : slot channel.nodeCount (firstNode channel left) 0 = firstNode channel left :=
    slot_zero ring.firstNode_lt
  have clean : channel.nodeHeads (firstNode channel left) = .clean := by
    rw [← index, ring.head Block.nodes_pos, Block.head, phase]
  have started : MemRing { channel with
      nodeHeads := Function.update channel.nodeHeads
        (slot channel.nodeCount (firstNode channel left) 0) ⟨2, block.oprSeq⟩
      dataArea := writeBytes channel.dataArea (nodeDataAddr (firstNode channel left))
        (List.replicate blockHeadSize 0) } (left ++ block.withPhase (.tagging 0) :: right) := by
    refine ring.advanceNode Block.nodes_pos ?_ ?_ ?_
    · intro j
      by_cases first : j = 0
      · simp [Block.head, first]
      · simp [Block.head, first, phase]
    · intro i below has
      simp [Block.HasBytes] at has
    · intro i inside outside
      have area := nodeDataAddr_lt ring.firstNode_lt
      have pos := ring.formatted.nodeCount_pos
      have large := @Block.nodes_pos block
      unfold Block.room nodeDataSize at *
      have untouched : writeBytes channel.dataArea (nodeDataAddr (firstNode channel left) + 0)
          (List.replicate blockHeadSize 0) (slot (channel.nodeCount * 128)
            (nodeDataAddr (firstNode channel left)) i) = _ :=
        writeBytes_slot (by omega) (by unfold blockHeadSize; rw [List.length_replicate]; omega)
          inside
      rw [if_pos (Nat.zero_le _), List.getElem?_eq_none (by simp [blockHeadSize]; omega)]
        at untouched
      exact untouched
  rw [index] at started
  unfold memStartBlock
  rw [clean]
  exact started

/-- The next node of a started block is tagged: the tagging never meets a conflict. -/
theorem memTagNode_ring {tagged : Nat} (ring : MemRing channel (left ++ block :: right))
    (phase : block.phase = .tagging tagged) (more : tagged + 1 < block.nodes) :
    ∃ heads, memTagNode channel (slot channel.nodeCount (firstNode channel left) (tagged + 1))
        block.oprSeq = some { channel with nodeHeads := heads } ∧
      MemRing { channel with nodeHeads := heads }
        (left ++ block.withPhase (.tagging (tagged + 1)) :: right) := by
  have clean := ring.head more
  rw [Block.head, phase] at clean
  simp only [Nat.add_eq_zero_iff, one_ne_zero, and_false, if_false, Nat.not_succ_le_self] at clean
  refine ⟨Function.update channel.nodeHeads
    (slot channel.nodeCount (firstNode channel left) (tagged + 1)) ⟨1, block.oprSeq⟩, ?_, ?_⟩
  · unfold memTagNode
    rw [clean]
    rfl
  · refine ring.markNode more ?_ ?_
    · intro j
      simp only [Block.head, Block.withPhase_phase, phase, Block.withPhase_oprSeq]
      split_ifs <;> first | rfl | omega
    · simp [Block.HasBytes]

/-- The contents of a fully tagged block are stored. -/
theorem memStoreBlock_ring {newWriteCur : Nat} (ring : MemRing channel (left ++ block :: right))
    (phase : block.phase = .tagging (block.nodes - 1))
    (target : newWriteCur = slot channel.nodeCount (firstNode channel left) block.nodes) :
    MemRing (memStoreBlock channel (firstNode channel left) newWriteCur block.msg)
      (left ++ block.withPhase .stored :: right) := by
  have room := ring.nodes_lt
  have few : blockNodes block.msg.length < channel.nodeCount :=
    show block.nodes < channel.nodeCount by omega
  have stored := fun i (inside : i < channel.nodeCount * nodeDataSize) =>
    memStoreBlock_dataArea ring.formatted.shaped ring.firstNode_lt few inside
  subst target
  refine ring.advance ?_ (fun _ _ => rfl) ?_ ?_
  · intro j below
    rw [ring.head below]
    have last : j ≤ block.nodes - 1 := by omega
    simp only [Block.head, Block.withPhase_phase, phase, Block.withPhase_oprSeq, last, if_true]
  · intro i below has
    have inside : i < channel.nodeCount * nodeDataSize := by
      unfold Block.room nodeDataSize at *
      omega
    have written : _ = (block.bytes[i]?).getD _ := stored i inside
    show (block.bytes[i]?).getD ((memStoreBlock _ _ _ _).dataArea _) =
        (memStoreBlock _ _ _ _).dataArea _
    unfold Block.nodes
    cases found : block.bytes[i]? with
    | none => rfl
    | some byte =>
        rw [found] at written
        exact written.symm
  · intro i inside outside
    have written : _ = (block.bytes[i]?).getD _ := stored i inside
    rw [List.getElem?_eq_none (Block.bytes_le_room.trans outside)] at written
    exact written

/-- The first node of a stored block is marked: the block can be read. -/
theorem memFinishBlock_ring (ring : MemRing channel (left ++ block :: right))
    (phase : block.phase = .stored) :
    ∃ heads, memFinishBlock channel (firstNode channel left) block.oprSeq =
        (.success, { channel with nodeHeads := heads }) ∧
      MemRing { channel with nodeHeads := heads } (left ++ block.withPhase .writen :: right) := by
  have index : slot channel.nodeCount (firstNode channel left) 0 = firstNode channel left :=
    slot_zero ring.firstNode_lt
  have started : channel.nodeHeads (firstNode channel left) = ⟨2, block.oprSeq⟩ := by
    rw [← index, ring.head Block.nodes_pos, Block.head, phase]
    rfl
  refine ⟨Function.update channel.nodeHeads
    (slot channel.nodeCount (firstNode channel left) 0) ⟨3, block.oprSeq⟩, ?_, ?_⟩
  · unfold memFinishBlock
    rw [index, started]
    simp [setFlag, MemFlag.bit]
  · refine ring.markNode Block.nodes_pos ?_ fun _ => Or.inl phase
    intro j
    by_cases first : j = 0
    · simp [Block.head, first]
    · simp [Block.head, first, phase]

/-- The space a writer computes from the two cursors: all nodes but the tail, the occupied and the
    protected ones. -/
theorem memAvailableNode_eq {nodeCount protectNodeCount readCur writeCur : Nat}
    (small : nodeCount ≤ 2 ^ 63) (read : readCur < nodeCount) (write : writeCur < nodeCount) :
    memAvailableNode nodeCount protectNodeCount readCur writeCur =
      nodeCount - 1 - dist nodeCount readCur writeCur - protectNodeCount := by
  have wrapped : Word64.wrap (readCur + nodeCount) = readCur + nodeCount :=
    Word64.wrap_of_lt (by omega)
  have first : Word64.sub (readCur + nodeCount) writeCur = readCur + nodeCount - writeCur :=
    Word64.sub_of_le (by omega) (by omega)
  have second : Word64.sub (readCur + nodeCount - writeCur) 1 = readCur + nodeCount - writeCur -
      1 :=
    Word64.sub_of_le (by omega) (by omega)
  have free : (readCur + nodeCount - writeCur - 1) % nodeCount =
      nodeCount - 1 - dist nodeCount readCur writeCur := by
    unfold RingIndex.dist
    by_cases ahead : readCur ≤ writeCur
    · have behind : writeCur + nodeCount - readCur = writeCur - readCur + nodeCount := by omega
      rw [behind, Nat.add_mod_right, Nat.mod_eq_of_lt (by omega), Nat.mod_eq_of_lt (by omega)]
      omega
    · have lap : readCur + nodeCount - writeCur - 1 = readCur - writeCur - 1 + nodeCount := by omega
      rw [lap, Nat.add_mod_right, Nat.mod_eq_of_lt (by omega), Nat.mod_eq_of_lt (by omega)]
      omega
  unfold memAvailableNode
  rw [wrapped, first, second, free]
  dsimp only
  split <;> omega

/-- Reserving nodes appends a reserved block, or finds no room and changes nothing. -/
theorem memReserve_ring {blocks : List Block} (ring : MemRing channel blocks)
    (valid : block.Valid channel) (phase : block.phase = .reserved) :
    memReserve channel block.nodes = none ∨
      (memReserve channel block.nodes = some (firstNode channel blocks,
          slot channel.nodeCount (firstNode channel blocks) block.nodes,
          { channel with
            atomicWriteCur := slot channel.nodeCount (firstNode channel blocks) block.nodes }) ∧
        MemRing { channel with
          atomicWriteCur := slot channel.nodeCount (firstNode channel blocks) block.nodes }
          (blocks ++ [block])) := by
  have room := ring.extent_lt
  have small := ring.formatted.nodeCount_lt
  have writeCur : channel.atomicWriteCur = firstNode channel blocks := ring.writeCur
  have occupied : dist channel.nodeCount channel.atomicReadCur (firstNode channel blocks) =
      extent Block.nodes blocks := dist_slot ring.readCur_lt room
  have below : firstNode channel blocks < channel.nodeCount :=
    slot_lt ring.formatted.nodeCount_pos
  unfold memReserve
  dsimp only
  rw [writeCur, memAvailableNode_eq (by omega) ring.readCur_lt below, occupied]
  split
  · exact Or.inl rfl
  · rename_i enough
    refine Or.inr ⟨rfl, ?_⟩
    have fits : extent Block.nodes blocks + block.nodes < channel.nodeCount := by omega
    have total : extent Block.nodes (blocks ++ [block]) =
        extent Block.nodes blocks + block.nodes := by simp
    exact
      { formatted := { ring.formatted with }
        readCur_lt := ring.readCur_lt
        extent_lt := by rw [total]; exact fits
        writeCur := by rw [total, firstNode, slot_slot]
        heads := ring.heads.append fits.le (by
          intro j head _ clean
          rw [Block.head, phase]
          exact clean)
        bytes := ring.bytes.append (by
          rw [extent_room, Block.room, ← Nat.add_mul]
          exact Nat.mul_le_mul_right _ fits.le) (by
          intro j byte _ _ has
          simp [Block.HasBytes, phase] at has)
        valid := by
          intro member inside
          rcases List.mem_append.mp inside with old | new
          · exact { ring.valid member old with }
          · rw [List.mem_singleton.mp new]
            exact { valid with } }

/-- The tagging loop runs to the new write cursor: it tags every node left and meets no conflict. -/
theorem memTagNodes_ring {left right : List Block} {remaining : Nat} :
    ∀ {channel : MemChannel} {block : Block} {tagged fuel : Nat},
      MemRing channel (left ++ block :: right) → block.phase = .tagging tagged →
      tagged + 1 + remaining = block.nodes → remaining < fuel →
      ∃ heads,
        memTagNodes (slot channel.nodeCount (firstNode channel left) block.nodes) block.oprSeq
          fuel (slot channel.nodeCount (firstNode channel left) (tagged + 1)) channel =
            some (true, { channel with nodeHeads := heads }) ∧
        MemRing { channel with nodeHeads := heads }
          (left ++ block.withPhase (.tagging (block.nodes - 1)) :: right) := by
  induction remaining with
  | zero =>
      intro channel block tagged fuel ring phase rest enough
      obtain ⟨fuel, rfl⟩ : ∃ rounds, fuel = rounds + 1 := ⟨fuel - 1, by omega⟩
      have last : block.nodes - 1 = tagged := by omega
      have same : block.withPhase (.tagging (block.nodes - 1)) = block := by
        rw [last, ← phase]
        rfl
      refine ⟨channel.nodeHeads, ?_, ?_⟩
      · rw [memTagNodes, ← rest]
        exact if_pos rfl
      · rw [same]
        exact ring
  | succ remaining ih =>
      intro channel block tagged fuel ring phase rest enough
      obtain ⟨fuel, rfl⟩ : ∃ rounds, fuel = rounds + 1 := ⟨fuel - 1, by omega⟩
      have room := ring.nodes_lt
      obtain ⟨heads, tags, ring'⟩ := memTagNode_ring ring phase (by omega)
      obtain ⟨heads', loop, ring''⟩ := ih ring' rfl
        (show tagged + 1 + 1 + remaining = block.nodes by omega)
        (show remaining < fuel by omega)
      refine ⟨heads', ?_, ring''⟩
      have more : slot channel.nodeCount (firstNode channel left) (tagged + 1) ≠
          slot channel.nodeCount (firstNode channel left) block.nodes :=
        slot_ne (by omega) (by omega) (by omega)
      rw [memTagNodes, if_neg more, tags]
      dsimp only
      rw [memNextIndex, slot_slot]
      exact loop

/-- A writer that nobody interferes with takes its block from reserved to written. -/
theorem memWriteBlock_ring (ring : MemRing channel (left ++ block :: right))
    (phase : block.phase = .reserved) :
    ∃ after, memWriteBlock channel (firstNode channel left)
        (slot channel.nodeCount (firstNode channel left) block.nodes) block.oprSeq block.msg =
          some (.success, after) ∧
      after.atomicOperationSeq = channel.atomicOperationSeq ∧
      MemRing after (left ++ block.withPhase .writen :: right) := by
  have room := ring.nodes_lt
  have nonempty := @Block.nodes_pos block
  have started := memStartBlock_ring ring phase
  obtain ⟨heads, tags, tagged⟩ := memTagNodes_ring started rfl
    (show 0 + 1 + (block.nodes - 1) = block.nodes by omega)
    (show block.nodes - 1 < channel.nodeCount by omega)
  have stored := memStoreBlock_ring tagged rfl rfl
  obtain ⟨heads', finish, finished⟩ := memFinishBlock_ring stored rfl
  refine ⟨_, ?write, ?counter, finished⟩
  case counter => rfl
  have loop : memTagNodes (slot channel.nodeCount (firstNode channel left) block.nodes) block.oprSeq
      (memStartBlock channel (firstNode channel left) block.oprSeq).nodeCount
      (memNextIndex (memStartBlock channel (firstNode channel left) block.oprSeq)
        (firstNode channel left) 1)
      (memStartBlock channel (firstNode channel left) block.oprSeq) = _ := tags
  rw [memWriteBlock]
  simp only [loop]
  exact congrArg some finish

/-- The number of nodes of a message that does not reach to the end of the address space. -/
theorem memCalcNodeNum_of_le {len : Nat} (shaped : channel.Shaped)
    (small : len + blockHeadSize + nodeDataSize ≤ 2 ^ 64) :
    memCalcNodeNum channel len = blockNodes len := by
  unfold memCalcNodeNum blockNodes
  rw [shaped.nodeSize, shaped.nodeSizeBinPower, Nat.shiftRight_eq_div_pow]
  unfold nodeDataSize blockHeadSize at *
  rw [Word64.wrap_of_lt (by omega)]

/-- The number of nodes the source computes for a message that lies beside the channel. -/
theorem memCalcNodeNum_eq {len : Nat} (shaped : channel.Shaped)
    (small : len + channelMinSize ≤ 2 ^ 64) : memCalcNodeNum channel len = blockNodes len := by
  apply memCalcNodeNum_of_le shaped
  unfold channelMinSize channelHeadSize nodeDataSize nodeHeadSize at small
  unfold blockHeadSize nodeDataSize
  omega

theorem memExceedsChannel_iff {nodes : Nat} (formatted : channel.Formatted) :
    memExceedsChannel channel.nodeCount channel.conf.protectNodeCount nodes = true ↔
      channel.nodeCount - channel.conf.protectNodeCount ≤ nodes := by
  have small := formatted.nodeCount_lt
  unfold memExceedsChannel
  rw [Word64.sub_of_le (by omega) formatted.protectNode, decide_eq_true_iff]

/-- The sequence number the next send uses. -/
def nextOprSeq (channel : MemChannel) : Nat := (memFetchOperationSeq channel).1

theorem nextOprSeq_ne : nextOprSeq channel ≠ 0 := by
  unfold nextOprSeq memFetchOperationSeq
  dsimp only
  split <;> omega

/-- The sequence counter and the reader's clock are no part of the ring. -/
theorem MemRing.counters {blocks : List Block} {oprSeq firstFailed : Nat}
    (ring : MemRing channel blocks) :
    MemRing { channel with
      atomicOperationSeq := oprSeq
      firstFailedWritingTime := firstFailed } blocks :=
  { formatted := { ring.formatted with }
    readCur_lt := ring.readCur_lt
    extent_lt := ring.extent_lt
    writeCur := ring.writeCur
    heads := ring.heads
    bytes := ring.bytes
    valid := fun block member => { ring.valid block member with } }

/-- A send that nobody interferes with either appends its block, written, or finds no room and then
    changes nothing but the sequence counter. -/
theorem memSendReal_ring {blocks : List Block} {msg : List UInt8} (ring : MemRing channel blocks)
    (nonempty : msg ≠ []) (small : msg.length + channelMinSize ≤ 2 ^ 64) :
    memSendReal channel msg = some (.buffLimit, channel) ∨
      memSendReal channel msg = some (.buffLimit,
        { channel with atomicOperationSeq := nextOprSeq channel }) ∨
      ∃ after, memSendReal channel msg = some (.success, after) ∧
        after.atomicOperationSeq = nextOprSeq channel ∧
        MemRing after (blocks ++ [⟨msg, nextOprSeq channel, .writen⟩]) := by
  have long : msg.length ≠ 0 := fun zero => nonempty (List.eq_nil_of_length_eq_zero zero)
  unfold memSendReal
  rw [if_neg long, memCalcNodeNum_eq ring.formatted.shaped small]
  dsimp only
  by_cases exceeds : memExceedsChannel channel.nodeCount channel.conf.protectNodeCount
      (blockNodes msg.length) = true
  · exact Or.inl (if_pos exceeds)
  · rw [if_neg exceeds]
    rw [memExceedsChannel_iff ring.formatted] at exceeds
    have valid : Block.Valid { channel with atomicOperationSeq := nextOprSeq channel }
        ⟨msg, nextOprSeq channel, .reserved⟩ :=
      ⟨nonempty, small, nextOprSeq_ne, Nat.lt_of_not_le exceeds⟩
    right
    have fetched : MemRing { channel with atomicOperationSeq := nextOprSeq channel } blocks :=
      ring.counters
    have fetch : memFetchOperationSeq channel =
        (nextOprSeq channel, { channel with atomicOperationSeq := nextOprSeq channel }) := rfl
    rw [fetch]
    dsimp only
    rcases memReserve_ring fetched valid rfl with full | ⟨reserve, reserved⟩
    · left
      unfold Block.nodes at full
      rw [full]
    · right
      obtain ⟨after, write, sameSeq, written⟩ := memWriteBlock_ring reserved rfl
      refine ⟨after, ?_, sameSeq, written⟩
      unfold Block.nodes at reserve
      rw [reserve]
      exact write

end

end LibAtbus.Channel
