/-
Module: LibAtbus.Proofs.MemWrite
Layer: Proofs
Purpose: What `mem_send_real` does on any contents of the node heads and the data area. Each of its
  pieces keeps off everything but the nodes that the call reserved, and the pieces compose. A call
  finds no room, or meets a node that already carries a sequence number, or publishes its block.
Trusted boundary: none
Main exports: KeepsOff, KeepsOff.trans, Published, Reserves, memWriteBlock_spec, memSendReal_cases
-/
import LibAtbus.Proofs.MemScan

namespace LibAtbus.Channel

open ByteMemory RingIndex

/-! ### What a writer keeps off -/

/-- Between two states of a channel only the heads and the data slots of `nodes` nodes from `start`
    on have changed. -/
structure KeepsOff (before after : MemChannel) (start nodes : Nat) : Prop where
  header : after = { before with nodeHeads := after.nodeHeads, dataArea := after.dataArea }
  heads : ∀ index, (∀ j < nodes, index ≠ slot before.nodeCount start j) →
    after.nodeHeads index = before.nodeHeads index
  data : ∀ address, (∀ i < nodes * nodeDataSize,
      address ≠ slot (before.nodeCount * nodeDataSize) (nodeDataAddr start) i) →
    after.dataArea address = before.dataArea address

section

variable {channel before middle after : MemChannel} {start nodes node oprSeq : Nat}
  {msg : List UInt8}

theorem KeepsOff.nodeCount (keeps : KeepsOff before after start nodes) :
    after.nodeCount = before.nodeCount := by
  rw [keeps.header]

theorem KeepsOff.shaped (keeps : KeepsOff before after start nodes) (shaped : before.Shaped) :
    after.Shaped := by
  rw [keeps.header]
  exact { shaped with }

theorem KeepsOff.trans (first : KeepsOff before middle start nodes)
    (second : KeepsOff middle after start nodes) :
    KeepsOff before after start nodes where
  header := by
    rw [second.header, first.header]
  heads index outside := by
    rw [second.heads index, first.heads index outside]
    rw [first.nodeCount]
    exact outside
  data address outside := by
    rw [second.data address, first.data address outside]
    rw [first.nodeCount]
    exact outside

/-- A write that does not cross the end of the area and stays in the data slots. -/
theorem writeBytes_apart {memory : Memory} {size origin offset room address : Nat}
    {bytes : List UInt8} (below : origin < size) (straight : offset + bytes.length ≤ size - origin)
    (fits : offset + bytes.length ≤ room) (outside : ∀ i < room, address ≠ slot size origin i) :
    writeBytes memory (origin + offset) bytes address = memory address := by
  apply writeBytes_outside
  by_contra overlap
  have place : slot size origin (address - origin) = address := by
    rw [slot_eq below (by omega), if_pos (by omega)]
    omega
  exact outside (address - origin) (by omega) place.symm

/-- Starting a block touches its first node alone. -/
theorem memStartBlock_keepsOff (below : start < channel.nodeCount) (nonempty : 0 < nodes) :
    KeepsOff channel (memStartBlock channel start oprSeq) start nodes where
  header := rfl
  heads index outside := by
    apply Function.update_of_ne
    have other := outside 0 nonempty
    rwa [slot_zero below] at other
  data address outside := by
    have area := nodeDataAddr_lt below
    unfold nodeDataSize at area outside
    have apart :=
      @writeBytes_apart channel.dataArea (channel.nodeCount * 128) (nodeDataAddr start) 0
        (nodes * 128)
      address (List.replicate blockHeadSize 0) (by omega) (by simp [blockHeadSize]; omega)
      (by simp [blockHeadSize]; omega) outside
    exact apart

/-- Storing a block touches nothing behind the data area. -/
theorem memStoreBlock_beyond (shaped : channel.Shaped) (below : start < channel.nodeCount)
    (fits : blockNodes msg.length < channel.nodeCount) {address : Nat}
    (beyond : channel.nodeCount * nodeDataSize ≤ address) :
    (memStoreBlock channel start (slot channel.nodeCount start (blockNodes msg.length))
      msg).dataArea address =
      channel.dataArea address := by
  have area := nodeDataAddr_lt below
  have large := @le_blockNodes_mul msg.length
  have ringed : blockNodes msg.length * nodeDataSize ≤ channel.nodeCount * nodeDataSize :=
    Nat.mul_le_mul_right _ fits.le
  have dataLen : blockDataLen channel start =
      channel.nodeCount * nodeDataSize - nodeDataAddr start - blockHeadSize := by
    rw [blockDataLen, shaped.dataLength]
  have target := slot_eq below fits
  have atStart : nodeDataAddr 0 = 0 := Nat.zero_mul _
  have position : nodeDataAddr start = start * nodeDataSize := rfl
  unfold memStoreBlock
  rw [dataLen, atStart]
  unfold nodeDataSize blockHeadSize at *
  dsimp only
  rw [writeBytes_outside (.inr (by rw [toLE_length]; omega))]
  split
  · rw [writeBytes_outside (.inr (by rw [List.length_drop]; split <;> omega))]
    rw [writeBytes_outside (.inr (by rw [List.length_take]; split <;> omega))]
    apply writeBytes_outside
    rw [toLE_length]
    omega
  · rename_i straight
    have room : start + blockNodes msg.length ≤ channel.nodeCount := by
      rw [target] at straight
      split at straight <;> omega
    rw [writeBytes_outside (.inr (by omega))]
    apply writeBytes_outside
    rw [toLE_length]
    omega

/-- Storing a block touches the data slots of its nodes alone. -/
theorem memStoreBlock_keepsOff (shaped : channel.Shaped) (below : start < channel.nodeCount)
    (fits : blockNodes msg.length < channel.nodeCount) :
    KeepsOff channel
      (memStoreBlock channel start (slot channel.nodeCount start (blockNodes msg.length)) msg) start
      (blockNodes msg.length) where
  header := rfl
  heads _ _ := rfl
  data address outside := by
    have large := @le_blockNodes_mul msg.length
    have ringed : blockNodes msg.length * nodeDataSize ≤ channel.nodeCount * nodeDataSize :=
      Nat.mul_le_mul_right _ fits.le
    have area := nodeDataAddr_lt below
    by_cases inside : address < channel.nodeCount * nodeDataSize
    · have origin : nodeDataAddr start < channel.nodeCount * nodeDataSize := by
        unfold nodeDataSize at *
        omega
      have place := slot_dist origin.le inside
      have distance := @dist_lt (channel.nodeCount * nodeDataSize) (nodeDataAddr start) address
        (Nat.zero_lt_of_lt inside)
      have stored := memStoreBlock_dataArea shaped below fits distance
      rw [place] at stored
      rw [stored, List.getElem?_eq_none, Option.getD_none]
      rw [blockBytes_length]
      by_contra short
      exact outside _ (by omega) place.symm
    · exact memStoreBlock_beyond shaped below fits (Nat.le_of_not_lt inside)

/-- Marking a block as written touches its first node alone. -/
theorem memFinishBlock_keepsOff (below : start < channel.nodeCount) (nonempty : 0 < nodes) :
    KeepsOff channel (memFinishBlock channel start oprSeq).2 start nodes where
  header := rfl
  heads index outside := by
    apply Function.update_of_ne
    have other := outside 0 nonempty
    rwa [slot_zero below] at other
  data _ _ := rfl

/-! ### The tagging loop -/

/-- What the tagging loop leaves when it runs over the nodes from one place up to another: it comes
    through exactly when none of them carries a sequence number, and then all of them carry the new
    one. -/
structure Tags (channel : MemChannel) (oprSeq start cursor count : Nat) (done : Bool)
    (heads : Nat → MemNodeHead) : Prop where
  others : ∀ index, (∀ j, cursor ≤ j → j < count → index ≠ slot channel.nodeCount start j) →
    heads index = channel.nodeHeads index
  tagged : done = true → ∀ j, cursor ≤ j → j < count →
    (heads (slot channel.nodeCount start j)).operationSeq = oprSeq
  through : done = true ↔
    ∀ j, cursor ≤ j → j < count →
      (channel.nodeHeads (slot channel.nodeCount start j)).operationSeq = 0

/-- The loop stops at a node with a sequence number. -/
theorem tags_conflict {cursor count : Nat} (before : cursor < count)
    (conflict : (channel.nodeHeads (slot channel.nodeCount start cursor)).operationSeq ≠ 0) :
    Tags channel oprSeq start cursor count false channel.nodeHeads where
  others _ _ := rfl
  tagged done := by cases done
  through := by
    constructor
    · intro done
      cases done
    · intro free
      exact absurd (free cursor le_rfl before) conflict

/-- One round of the loop tags one node more; the nodes behind it are those of the channel before
    the round. -/
theorem Tags.round {cursor count : Nat} {done : Bool} {heads : Nat → MemNodeHead}
    (before : cursor < count) (below : count < channel.nodeCount)
    (free : (channel.nodeHeads (slot channel.nodeCount start cursor)).operationSeq = 0) {flag : Nat}
    (tags : Tags { channel with
        nodeHeads :=
          Function.update channel.nodeHeads (slot channel.nodeCount start cursor) ⟨flag, oprSeq⟩ }
      oprSeq start (cursor + 1) count done heads) :
    Tags channel oprSeq start cursor count done heads := by
  have apart : ∀ j, cursor + 1 ≤ j → j < count →
      slot channel.nodeCount start cursor ≠ slot channel.nodeCount start j := by
    intro j lower upper
    exact slot_ne (by omega) (by omega) (by omega)
  have same : ∀ j, cursor + 1 ≤ j → j < count →
      Function.update channel.nodeHeads (slot channel.nodeCount start cursor) ⟨flag, oprSeq⟩
        (slot channel.nodeCount start j) = channel.nodeHeads (slot channel.nodeCount start j) := by
    intro j lower upper
    exact Function.update_of_ne (apart j lower upper).symm _ _
  refine ⟨?others, ?tagged, ?through⟩
  case others =>
    intro index outside
    rw [tags.others index fun j lower upper => outside j (by omega) upper]
    exact Function.update_of_ne (outside cursor le_rfl before) _ _
  case tagged =>
    intro finished j lower upper
    rcases Nat.eq_or_lt_of_le lower with rfl | later
    · rw [tags.others _ apart]
      simp
    · exact tags.tagged finished j later upper
  case through =>
    rw [tags.through]
    constructor
    · intro rest j lower upper
      rcases Nat.eq_or_lt_of_le lower with rfl | later
      · exact free
      · rw [← same j later upper]
        exact rest j later upper
    · intro rest j lower upper
      dsimp only
      rw [same j lower upper]
      exact rest j (by omega) upper

/-- The loop stops at the new write cursor or at the first node with a sequence number. -/
theorem memTagNodes_walk {count remaining : Nat} : ∀ {cursor fuel : Nat} {channel : MemChannel},
    cursor + remaining = count → count < channel.nodeCount → remaining < fuel →
    ∃ done heads,
      memTagNodes (slot channel.nodeCount start count) oprSeq fuel
        (slot channel.nodeCount start cursor)
        channel = some (done, { channel with nodeHeads := heads }) ∧
      Tags channel oprSeq start cursor count done heads := by
  induction remaining with
  | zero =>
      intro cursor fuel channel total below enough
      obtain ⟨fuel, rfl⟩ : ∃ rounds, fuel = rounds + 1 := ⟨fuel - 1, by omega⟩
      obtain rfl : cursor = count := total
      refine ⟨true, channel.nodeHeads, ?_, fun _ _ => rfl, fun _ j lower upper => by omega, ?_⟩
      · rw [memTagNodes, if_pos rfl]
      · exact ⟨fun _ j lower upper => by omega, fun _ => rfl⟩
  | succ remaining ih =>
      intro cursor fuel channel total below enough
      obtain ⟨fuel, rfl⟩ : ∃ rounds, fuel = rounds + 1 := ⟨fuel - 1, by omega⟩
      have before : cursor < count := by omega
      have onward : slot channel.nodeCount start cursor ≠ slot channel.nodeCount start count :=
        slot_ne (by omega) below (by omega)
      rw [memTagNodes, if_neg onward]
      by_cases conflict : (channel.nodeHeads (slot channel.nodeCount start cursor)).operationSeq ≠ 0
      · refine ⟨false, channel.nodeHeads, ?_, tags_conflict before conflict⟩
        rw [memTagNode, if_pos conflict]
      · rw [memTagNode, if_neg conflict]
        dsimp only
        rw [memNextIndex, slot_slot]
        obtain ⟨done, heads, loop, tags⟩ := @ih (cursor + 1) fuel
          { channel with
            nodeHeads := Function.update channel.nodeHeads (slot channel.nodeCount start cursor)
              ⟨setFlag (channel.nodeHeads (slot channel.nodeCount start cursor)).flag .writen,
                oprSeq⟩ }
          (by omega) below (by omega)
        exact ⟨done, heads, loop, tags.round before below (Decidable.not_not.mp conflict)⟩

theorem Tags.keepsOff {done : Bool} {heads : Nat → MemNodeHead} {cursor : Nat}
    (tags : Tags channel oprSeq start cursor nodes done heads) :
    KeepsOff channel { channel with nodeHeads := heads } start nodes where
  header := rfl
  heads index outside := tags.others index fun j _ upper => outside j upper
  data _ _ := rfl

/-! ### A published block -/

/-- A block with a message lies published at the nodes from `start` on: its first node is marked as
    such and as written, its nodes carry one sequence number, and its block head and data are those
    of the message. -/
structure Published (channel : MemChannel) (start nodes : Nat) (msg : List UInt8)
    (oprSeq : Nat) : Prop where
  first : Starts (channel.nodeHeads start)
  writen : Writen (channel.nodeHeads start)
  oprSeq_ne : oprSeq ≠ 0
  tagged : ∀ j < nodes, (channel.nodeHeads (slot channel.nodeCount start j)).operationSeq = oprSeq
  size : blockBufferSize channel start = msg.length
  fastCheck : blockFastCheck channel start = memFastCheck msg
  copy : memCopyBlock channel start = msg
  bytes : HoldsBlock channel start msg

theorem checkFlag_setFlag (flag : Nat) (set : MemFlag) :
    checkFlag (setFlag flag set) set = true := by
  cases set <;> simp [checkFlag, setFlag, MemFlag.bit, Nat.and_or_distrib_right]

theorem checkFlag_setFlag_of {flag : Nat} {checked : MemFlag} (set : MemFlag)
    (before : checkFlag flag checked = true) : checkFlag (setFlag flag set) checked = true := by
  simp only [checkFlag, setFlag, Nat.and_or_distrib_right, bne_iff_ne, ne_eq, Nat.or_eq_zero_iff]
    at before ⊢
  exact fun both => before both.1

/-- None of the nodes of a block carries a sequence number, the first one left out. -/
def Untagged (channel : MemChannel) (start nodes : Nat) : Prop :=
  ∀ j < nodes, 0 < j → (channel.nodeHeads (slot channel.nodeCount start j)).operationSeq = 0

instance : Decidable (Untagged channel start nodes) := inferInstanceAs (Decidable (∀ _ < _, _))

/-- A writer starts its block and runs the tagging loop. It comes through exactly when the nodes
    behind the first carry no sequence number, and then all of them carry its own. -/
theorem memTagNodes_started (below : start < channel.nodeCount) (nonempty : 0 < nodes)
    (fits : nodes < channel.nodeCount) :
    ∃ done tagged, memTagNodes (slot channel.nodeCount start nodes) oprSeq channel.nodeCount
        (memNextIndex (memStartBlock channel start oprSeq) start 1)
          (memStartBlock channel start oprSeq) =
          some (done, tagged) ∧
      KeepsOff channel tagged start nodes ∧ (done = true ↔ Untagged channel start nodes) ∧
      Starts (tagged.nodeHeads start) ∧
      (done = true → ∀ j < nodes, (tagged.nodeHeads (slot channel.nodeCount start j)).operationSeq =
        oprSeq) := by
  obtain ⟨done, heads, loop, tags⟩ :=
    @memTagNodes_walk start oprSeq nodes (nodes - 1) 1 channel.nodeCount
    (memStartBlock channel start oprSeq) (by omega) fits (by omega)
  have apart : ∀ j, 1 ≤ j → j < nodes → start ≠ slot channel.nodeCount start j := by
    intro j lower upper
    have other := @slot_ne channel.nodeCount start 0 j (by omega) (by omega) (by omega)
    rwa [slot_zero below] at other
  have same : ∀ j, 1 ≤ j → j < nodes →
      (memStartBlock channel start oprSeq).nodeHeads (slot channel.nodeCount start j) =
        channel.nodeHeads (slot channel.nodeCount start j) := by
    intro j lower upper
    exact Function.update_of_ne (apart j lower upper).symm _ _
  have first : heads start = ⟨setFlag (channel.nodeHeads start).flag .startNode, oprSeq⟩ := by
    rw [tags.others start apart]
    exact Function.update_self _ _ _
  refine ⟨done, _, loop, (memStartBlock_keepsOff below nonempty).trans tags.keepsOff, ?through,
    ?starts, ?tagged⟩
  case through =>
    rw [tags.through]
    constructor
    · intro free j upper lower
      rw [← same j lower upper]
      exact free j lower upper
    · intro free j lower upper
      rw [← free j upper lower]
      exact congrArg MemNodeHead.operationSeq (same j lower upper)
  case starts =>
    show Starts (heads start)
    rw [first]
    exact checkFlag_setFlag _ .startNode
  case tagged =>
    intro finished j inside
    rcases Nat.eq_zero_or_pos j with rfl | later
    · rw [slot_zero below]
      exact congrArg MemNodeHead.operationSeq first
    · exact tags.tagged finished j later inside

/-- A stored block lies in its data slots. -/
theorem memStoreBlock_holds (shaped : channel.Shaped) (below : start < channel.nodeCount)
    (fits : blockNodes msg.length < channel.nodeCount) :
    HoldsBlock
      (memStoreBlock channel start (slot channel.nodeCount start (blockNodes msg.length)) msg)
      start msg := by
  intro i inside
  have large := @le_blockNodes_mul msg.length
  have ringed : blockNodes msg.length * nodeDataSize ≤ channel.nodeCount * nodeDataSize :=
    Nat.mul_le_mul_right _ fits.le
  have place : i < channel.nodeCount * nodeDataSize := by
    rw [blockBytes_length] at inside
    omega
  have written := memStoreBlock_dataArea shaped below fits place
  rw [List.getElem?_eq_getElem inside, Option.getD_some] at written
  exact written

/-- Marking the first node publishes a block that is tagged and stored. -/
theorem memFinishBlock_published (shaped : channel.Shaped) (below : start < channel.nodeCount)
    (fits : blockNodes msg.length < channel.nodeCount) (some_ne : oprSeq ≠ 0)
    (first : Starts (channel.nodeHeads start))
    (same :
      ∀ j < blockNodes msg.length,
        (channel.nodeHeads (slot channel.nodeCount start j)).operationSeq = oprSeq)
        (holds : HoldsBlock channel start msg) :
    ∃ after, memFinishBlock channel start oprSeq = (.success, after) ∧
      KeepsOff channel after start (blockNodes msg.length) ∧
      Published after start (blockNodes msg.length) msg oprSeq := by
  have few := shaped.nodeCount_lt
  have large := @le_blockNodes_mul msg.length
  have ringed : blockNodes msg.length * nodeDataSize + nodeDataSize ≤ channel.nodeCount *
      nodeDataSize :=
    nodeDataAddr_lt fits
  have own : (channel.nodeHeads start).operationSeq = oprSeq := by
    have zeroth := same 0 blockNodes_pos
    rwa [slot_zero below] at zeroth
  have keeps : KeepsOff channel (memFinishBlock channel start oprSeq).2 start
      (blockNodes msg.length) :=
    memFinishBlock_keepsOff below blockNodes_pos
  have success : (memFinishBlock channel start oprSeq).1 = .success := by
    rw [memFinishBlock, own]
    exact if_neg fun differ => differ rfl
  have written : HoldsBlock (memFinishBlock channel start oprSeq).2 start msg := holds
  have head : (memFinishBlock channel start oprSeq).2.nodeHeads start =
      ⟨setFlag (channel.nodeHeads start).flag .writen, oprSeq⟩ := by
    rw [← own]
    exact Function.update_self _ _ _
  refine ⟨_, Prod.ext success rfl, keeps, ?_⟩
  exact
    { first := by
        rw [head]
        exact checkFlag_setFlag_of .writen first
      writen := by
        rw [head]
        exact checkFlag_setFlag _ .writen
      oprSeq_ne := some_ne
      tagged := by
        intro j inside
        rw [keeps.nodeCount]
        by_cases here : slot channel.nodeCount start j = start
        · rw [here, head]
        · rw [← same j inside]
          exact congrArg MemNodeHead.operationSeq (Function.update_of_ne here _ _)
      size := written.size below (by unfold nodeDataSize blockHeadSize at *; omega)
      fastCheck := written.fastCheck below
      copy :=
        written.copy (keeps.shaped shaped) below
          (by rw [keeps.nodeCount]; unfold nodeDataSize at *; omega)
      bytes := written }

/-- A writer on any contents keeps off all nodes but its own. It publishes its block exactly when
    none of them but the first carries a sequence number, and stops with a conflict otherwise. -/
theorem memWriteBlock_spec (shaped : channel.Shaped) (below : start < channel.nodeCount)
    (fits : blockNodes msg.length < channel.nodeCount) (some_ne : oprSeq ≠ 0) :
    ∃ ret after,
      memWriteBlock channel start (slot channel.nodeCount start (blockNodes msg.length)) oprSeq
        msg =
        some (ret, after) ∧
      KeepsOff channel after start (blockNodes msg.length) ∧
      ((Untagged channel start (blockNodes msg.length) ∧ ret = .success ∧
          Published after start (blockNodes msg.length) msg oprSeq) ∨
        (¬Untagged channel start (blockNodes msg.length) ∧ ret = .nodeBadBlockWseqId)) := by
  obtain ⟨done, tagged, loop, keeps, through, starts, all⟩ :=
    @memTagNodes_started channel start (blockNodes msg.length) oprSeq below blockNodes_pos fits
  have path : memTagNodes (slot channel.nodeCount start (blockNodes msg.length)) oprSeq
      (memStartBlock channel start oprSeq).nodeCount
      (memNextIndex (memStartBlock channel start oprSeq) start 1)
      (memStartBlock channel start oprSeq) = _ := loop
  rw [memWriteBlock]
  simp only [path]
  cases done with
  | false =>
      refine ⟨_, _, rfl, keeps, .inr ⟨fun free => ?_, rfl⟩⟩
      exact absurd (through.mpr free) Bool.false_ne_true
  | true =>
      have shaped' := keeps.shaped shaped
      have all := all rfl
      rw [← keeps.nodeCount] at below fits all
      have stored := memStoreBlock_keepsOff shaped' below fits
      obtain ⟨after, finish, finished, published⟩ :=
        memFinishBlock_published (stored.shaped shaped') below fits some_ne
        starts all (memStoreBlock_holds shaped' below fits)
      rw [keeps.nodeCount] at finish
      exact ⟨_, _, congrArg some finish, (keeps.trans stored).trans finished,
        .inl ⟨through.mp rfl, rfl, published⟩⟩

/-! ### One attempt -/

/-- The nodes a writer may still take: all but the unread ones, the tail and the protected ones. -/
def MemChannel.freeNodes (channel : MemChannel) : Nat :=
  channel.nodeCount - 1 - channel.unread - channel.conf.protectNodeCount

/-- The channel when a writer has drawn its sequence number and moved the write cursor behind its
    nodes. -/
def MemChannel.reserved (channel : MemChannel) (nodes : Nat) : MemChannel :=
  { channel with
    atomicWriteCur := slot channel.nodeCount channel.atomicWriteCur nodes
    atomicOperationSeq := nextOprSeq channel }

/-- The channel when a writer was refused: it has drawn a sequence number unless its block exceeds
    the channel. -/
def MemChannel.refused (channel : MemChannel) (nodes : Nat) : MemChannel :=
  if memExceedsChannel channel.nodeCount channel.conf.protectNodeCount nodes then channel
  else { channel with atomicOperationSeq := nextOprSeq channel }

theorem MemChannel.refused_cases (channel : MemChannel) (nodes : Nat) :
    channel.refused nodes = channel ∨
      channel.refused nodes = { channel with atomicOperationSeq := nextOprSeq channel } := by
  unfold MemChannel.refused
  split
  · exact .inl rfl
  · exact .inr rfl

theorem KeepsOff.cursorsIn (keeps : KeepsOff before after start nodes)
    (cursors : before.CursorsIn) : after.CursorsIn := by
  rw [keeps.header]
  exact ⟨cursors.read, cursors.write⟩

theorem KeepsOff.freeNodes (keeps : KeepsOff before after start nodes) :
    after.freeNodes = before.freeNodes := by
  rw [keeps.header]
  rfl

/-- The nodes of a reservation are no longer free. -/
theorem MemChannel.reserved_freeNodes (cursors : channel.CursorsIn)
    (room : nodes ≤ channel.freeNodes) :
    (channel.reserved nodes).freeNodes + nodes = channel.freeNodes := by
  have few := cursors.unread_lt
  unfold MemChannel.freeNodes at *
  have target : slot channel.nodeCount channel.atomicWriteCur nodes =
      slot channel.nodeCount channel.atomicReadCur (channel.unread + nodes) := by
    rw [← cursors.nodeAt_unread, MemChannel.nodeAt, slot_slot]
  have unread : (channel.reserved nodes).unread = channel.unread + nodes := by
    have distance :=
      @dist_slot channel.nodeCount channel.atomicReadCur (channel.unread + nodes) cursors.read
        (by omega)
    rwa [← target] at distance
  rw [unread]
  unfold MemChannel.reserved
  dsimp only
  omega

theorem MemChannel.reserved_cursorsIn (cursors : channel.CursorsIn) :
    (channel.reserved nodes).CursorsIn :=
  ⟨cursors.read, slot_lt (Nat.zero_lt_of_lt cursors.write)⟩

/-- What is refused before the cursors are looked at has no room between them either. -/
theorem MemChannel.freeNodes_lt (shaped : channel.Shaped) (nonempty : 0 < nodes)
    (exceeds : memExceedsChannel channel.nodeCount channel.conf.protectNodeCount nodes = true) :
    channel.freeNodes < nodes := by
  have few := shaped.nodeCount_lt
  unfold MemChannel.freeNodes
  by_cases protect : channel.conf.protectNodeCount ≤ channel.nodeCount
  · unfold memExceedsChannel at exceeds
    rw [Word64.sub_of_le (by omega) protect, decide_eq_true_iff] at exceeds
    omega
  · omega

/-- The cursor loop finds room exactly when enough nodes are free. -/
theorem memReserve_eq (shaped : channel.Shaped) (cursors : channel.CursorsIn) :
    memReserve { channel with atomicOperationSeq := nextOprSeq channel } nodes =
      if channel.freeNodes < nodes then none
      else
        some (channel.atomicWriteCur, slot channel.nodeCount channel.atomicWriteCur nodes,
          channel.reserved nodes) := by
  have few := shaped.nodeCount_lt
  have free :=
    @memAvailableNode_eq channel.nodeCount channel.conf.protectNodeCount channel.atomicReadCur
    channel.atomicWriteCur (by omega) cursors.read cursors.write
  unfold memReserve
  dsimp only
  rw [free]
  rfl

/-- An attempt on a channel with any contents: there is no room, and nothing but the operation
    sequence changes; or the call takes its nodes and keeps off everything else, publishes its block
    or stops with a conflict. -/
theorem memSendReal_cases (shaped : channel.Shaped) (cursors : channel.CursorsIn)
    (nonempty : msg ≠ []) (small : msg.length + blockHeadSize + nodeDataSize ≤ 2 ^ 64) :
    (channel.freeNodes < blockNodes msg.length ∧
      memSendReal channel msg = some (.buffLimit, channel.refused (blockNodes msg.length))) ∨
    (blockNodes msg.length ≤ channel.freeNodes ∧
      ∃ ret after, memSendReal channel msg = some (ret, after) ∧
      KeepsOff (channel.reserved (blockNodes msg.length)) after channel.atomicWriteCur
        (blockNodes msg.length) ∧
      ((Untagged channel channel.atomicWriteCur (blockNodes msg.length) ∧ ret = .success ∧
          Published after channel.atomicWriteCur (blockNodes msg.length) msg (nextOprSeq channel)) ∨
        (¬Untagged channel channel.atomicWriteCur (blockNodes msg.length) ∧
          ret = .nodeBadBlockWseqId))) := by
  have long : msg.length ≠ 0 := fun zero => nonempty (List.eq_nil_of_length_eq_zero zero)
  have fetch : memFetchOperationSeq channel =
      (nextOprSeq channel, { channel with atomicOperationSeq := nextOprSeq channel }) := rfl
  unfold memSendReal
  rw [if_neg long, memCalcNodeNum_of_le shaped small]
  dsimp only
  by_cases exceeds : memExceedsChannel channel.nodeCount channel.conf.protectNodeCount
    (blockNodes msg.length) = true
  · left
    rw [if_pos exceeds, MemChannel.refused, if_pos exceeds]
    exact ⟨MemChannel.freeNodes_lt shaped blockNodes_pos exceeds, rfl⟩
  · rw [if_neg exceeds, fetch, MemChannel.refused, if_neg exceeds]
    dsimp only
    rw [memReserve_eq shaped cursors]
    by_cases full : channel.freeNodes < blockNodes msg.length
    · left
      rw [if_pos full]
      exact ⟨full, rfl⟩
    · right
      rw [if_neg full]
      have room := Nat.le_of_not_lt full
      have fits : blockNodes msg.length < channel.nodeCount := by
        have inside := cursors.write
        unfold MemChannel.freeNodes at room
        omega
      have reservedShaped : (channel.reserved (blockNodes msg.length)).Shaped := { shaped with }
      exact ⟨room, memWriteBlock_spec reservedShaped cursors.write fits nextOprSeq_ne⟩

/-- On a ring an attempt that has room appends its block, written, and one without changes nothing
    but the operation sequence. -/
theorem MemRing.send_cases {blocks : List Block} (ring : MemRing channel blocks)
    (nonempty : msg ≠ []) (small : msg.length + channelMinSize ≤ 2 ^ 64) :
    (channel.freeNodes < blockNodes msg.length ∧
      memSendReal channel msg = some (.buffLimit, channel.refused (blockNodes msg.length))) ∨
    (blockNodes msg.length ≤ channel.freeNodes ∧
      ∃ after, memSendReal channel msg = some (.success, after) ∧
      KeepsOff (channel.reserved (blockNodes msg.length)) after channel.atomicWriteCur
        (blockNodes msg.length) ∧
      MemRing after (blocks ++ [⟨msg, nextOprSeq channel, .writen⟩])) := by
  have write : channel.atomicWriteCur < channel.nodeCount := by
    rw [ring.writeCur]
    exact slot_lt ring.formatted.nodeCount_pos
  have fits : msg.length + blockHeadSize + nodeDataSize ≤ 2 ^ 64 := by
    unfold channelMinSize channelHeadSize nodeHeadSize at small
    unfold blockHeadSize
    omega
  rcases memSendReal_cases ring.formatted.shaped ⟨ring.readCur_lt, write⟩ nonempty fits with
    full | ⟨room, ret, after, sent, keeps, outcome⟩
  · exact .inl full
  · right
    have other : ∀ after', memSendReal channel msg ≠ some (.buffLimit, after') := by
      intro after' full
      rw [sent] at full
      rcases outcome with ⟨-, rfl, -⟩ | ⟨-, rfl⟩
      · cases full
      · cases full
    rcases memSendReal_ring ring nonempty small with full | full | ⟨after', sent', -, ring'⟩
    · exact absurd full (other _)
    · exact absurd full (other _)
    · rw [sent] at sent'
      cases sent'
      exact ⟨room, after, sent, keeps, ring'⟩

end

end LibAtbus.Channel
