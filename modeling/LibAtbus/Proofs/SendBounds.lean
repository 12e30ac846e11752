/-
Module: LibAtbus.Proofs.SendBounds
Layer: Proofs
Purpose: `mem_send_real` writes only what it reserved. The nodes it takes hold the block head and
  the message, whether or not the block crosses the end of the ring, as long as the rounding sum of
  `mem_calc_node_num` does not wrap. A call with no bytes reserves nothing and says so with success.
Trusted boundary: none
Main exports: WritesReserved, send_writes_reserved
-/
import LibAtbus.Proofs.MemRecvSafety
import LibAtbus.Proofs.MemWrite

namespace LibAtbus.Channel

open ByteMemory RingIndex

/-- The block of a message lies along the ring of data bytes, each of its bytes at a place of its
    own in the data slots of the nodes from `start` on. -/
structure CopiedOnce (channel : MemChannel) (start nodes : Nat) (msg : List UInt8) : Prop where
  bytes : HoldsBlock channel start msg
  inside : (blockBytes msg).length ≤ nodes * nodeDataSize
  once : ∀ i < (blockBytes msg).length, ∀ k < (blockBytes msg).length,
    slot (channel.nodeCount * nodeDataSize) (nodeDataAddr start) i =
      slot (channel.nodeCount * nodeDataSize) (nodeDataAddr start) k → i = k

/-- A call finds no room and changes nothing but the operation sequence; or it has taken a number of
    nodes that hold the block head and the message, keeps off everything else and, when it succeeds,
    has copied the message once. -/
def WritesReserved (channel : MemChannel) (msg : List UInt8) : Prop :=
  ∃ ret after, memSendReal channel msg = some (ret, after) ∧
    ((ret = .buffLimit ∧
      (after = channel ∨ after = { channel with atomicOperationSeq := nextOprSeq channel })) ∨
      ∃ nodes < channel.nodeCount,
        after.atomicWriteCur = memNextIndex channel channel.atomicWriteCur nodes ∧
        msg.length + blockHeadSize ≤ channel.nodeSize * nodes ∧
        KeepsOff (channel.reserved nodes) after channel.atomicWriteCur nodes ∧
        (ret = .success → CopiedOnce after channel.atomicWriteCur nodes msg))

section

variable {channel after : MemChannel} {msg : List UInt8} {start nodes oprSeq : Nat}

/-- A published block is copied once. -/
theorem Published.copiedOnce (published :
    Published channel start (blockNodes msg.length) msg oprSeq)
    (fits : blockNodes msg.length < channel.nodeCount) :
    CopiedOnce channel start (blockNodes msg.length) msg where
  bytes := published.bytes
  inside := by
    rw [blockBytes_length]
    exact le_blockNodes_mul
  once i first k second same := by
    have large := @le_blockNodes_mul msg.length
    have ringed : blockNodes msg.length * nodeDataSize ≤ channel.nodeCount * nodeDataSize :=
      Nat.mul_le_mul_right _ fits.le
    rw [blockBytes_length] at first second
    exact (slot_inj (by omega) (by omega)).mp same

/-- A call with bytes whose rounding sum does not wrap writes only what it reserved. -/
theorem writesReserved (shaped : channel.Shaped) (cursors : channel.CursorsIn) (nonempty : msg ≠ [])
    (small : msg.length + blockHeadSize + nodeDataSize ≤ 2 ^ 64) : WritesReserved channel msg := by
  rcases memSendReal_cases shaped cursors nonempty small with
    ⟨-, sent⟩ | ⟨room, ret, after, sent, keeps, outcome⟩
  · exact ⟨_, _, sent, .inl ⟨rfl, MemChannel.refused_cases _ _⟩⟩
  · have below := cursors.write
    have fits : blockNodes msg.length < channel.nodeCount := by
      unfold MemChannel.freeNodes at room
      omega
    refine ⟨ret, after, sent, .inr ⟨blockNodes msg.length, fits, ?moved, ?holds, keeps, ?copied⟩⟩
    case moved =>
      rw [keeps.header]
      rfl
    case holds =>
      rw [shaped.nodeSize, Nat.mul_comm]
      exact le_blockNodes_mul
    case copied =>
      intro success
      rcases outcome with ⟨-, -, published⟩ | ⟨-, conflict⟩
      · apply published.copiedOnce
        rw [keeps.nodeCount]
        exact fits
      · rw [conflict] at success
        cases success

/-- On a channel of `mem_init`, with its cursors anywhere and any contents, every call writes only
    what it reserved. A call with no bytes succeeds and changes nothing. -/
theorem send_writes_reserved {size : Nat} {made : MemChannel} (word : size < 2 ^ 64)
    (init : memInit size none = .ok made) {readCur writeCur : Nat} (read : readCur < made.nodeCount)
    (write : writeCur < made.nodeCount) (heads : Nat → MemNodeHead) (data : Memory)
    (small : msg.length + blockHeadSize + nodeDataSize ≤ 2 ^ 64) :
    (msg = [] → memSendReal (made.replaced readCur writeCur heads data) msg =
      some (.success, made.replaced readCur writeCur heads data)) ∧
    (msg ≠ [] → WritesReserved (made.replaced readCur writeCur heads data) msg) := by
  have formatted :=
    (memInit_serialRing word init).1.ring.formatted.replaced readCur writeCur heads data
  constructor
  · rintro rfl
    rfl
  · intro nonempty
    exact writesReserved formatted.shaped ⟨read, write⟩ nonempty small

/-- A block of three nodes from the last node of the ring on. -/
theorem send_writes_reserved_wrapped : ∃ made, memInit 8192 none = .ok made ∧
    (List.replicate 300 (7 : UInt8) = [] →
      memSendReal (made.replaced 4 29 (fun _ => .clean) fun _ => 255)
      (List.replicate 300 7) = some (.success, made.replaced 4 29 (fun _ => .clean) fun _ => 255)) ∧
    (List.replicate 300 (7 : UInt8) ≠ [] →
      WritesReserved (made.replaced 4 29 (fun _ => .clean) fun _ => 255)
        (List.replicate 300 7)) := by
  have init : memInit 8192 none = .ok _ := rfl
  have word : 8192 < 2 ^ 64 := by decide
  have small : (List.replicate 300 (7 : UInt8)).length + blockHeadSize + nodeDataSize ≤ 2 ^ 64 := by
    rw [List.length_replicate]
    decide
  exact ⟨_, init, send_writes_reserved word init (show 4 < 30 by decide) (show 29 < 30 by decide)
    (fun _ => .clean)
    (fun _ => 255) small⟩

/-! ### Lengths outside -/

/-- A call with no bytes says success without a node that would hold a block head. -/
theorem not_writesReserved_nil {size : Nat} {made : MemChannel} (word : size < 2 ^ 64)
    (init : memInit size none = .ok made) : ¬WritesReserved made [] := by
  have serial := (memInit_serialRing word init).1.ring
  have below : made.atomicWriteCur < made.nodeCount := by
    rw [serial.writeCur]
    exact slot_lt serial.formatted.nodeCount_pos
  rintro ⟨ret, after, sent, ⟨full, -⟩ | ⟨nodes, fits, moved, holds, -⟩⟩
  · cases sent
    cases full
  · cases sent
    have none : nodes = 0 := by
      have here : slot made.nodeCount made.atomicWriteCur nodes =
          slot made.nodeCount made.atomicWriteCur 0 := by
        rw [slot_zero below]
        exact moved.symm
      exact (slot_inj fits (Nat.zero_lt_of_lt fits)).mp here
    rw [none, Nat.mul_zero] at holds
    exact absurd holds (by decide)

/-- A writer that took a single node meets nothing. -/
theorem memWriteBlock_single (below : start < channel.nodeCount) :
    ∃ after, memWriteBlock channel start (slot channel.nodeCount start 1) oprSeq msg =
      some (.success, after) ∧
      after.atomicWriteCur = channel.atomicWriteCur := by
  obtain ⟨fuel, rounds⟩ : ∃ fuel, channel.nodeCount = fuel + 1 := ⟨channel.nodeCount - 1, by omega⟩
  have started : (memStartBlock channel start oprSeq).nodeCount = fuel + 1 := rounds
  have through : memTagNodes (slot channel.nodeCount start 1) oprSeq
      (memStartBlock channel start oprSeq).nodeCount
      (memNextIndex (memStartBlock channel start oprSeq) start 1)
      (memStartBlock channel start oprSeq) =
        some (true, memStartBlock channel start oprSeq) := by
    rw [started, memTagNodes]
    exact if_pos rfl
  have head :
      ((memStoreBlock (memStartBlock channel start oprSeq) start (slot channel.nodeCount start 1)
        msg).nodeHeads
      start).operationSeq = oprSeq := by
    show (Function.update channel.nodeHeads start _ start).operationSeq = oprSeq
    rw [Function.update_self]
  rw [memWriteBlock]
  simp only [through]
  rw [memFinishBlock, head]
  exact ⟨_, congrArg some (Prod.ext (if_neg fun differ => differ rfl) rfl), rfl⟩

/-- The rounding sum of the greatest length wraps: the call takes one node for all of it. -/
theorem not_writesReserved_wrapped {made : MemChannel} (init : memInit 8192 none = .ok made)
    (long : msg.length = 2 ^ 64 - 1) : ¬WritesReserved made msg := by
  have formatted := (memInit_serialRing (by decide) init).1.ring.formatted
  have nodeCount : made.nodeCount = 30 := by
    cases init
    rfl
  have protect : made.conf.protectNodeCount = 0 := by
    cases init
    rfl
  have cursors : made.CursorsIn := by
    cases init
    exact ⟨by decide, by decide⟩
  have free : made.freeNodes = 29 := by
    cases init
    rfl
  have some_bytes : msg.length ≠ 0 := by
    rw [long]
    decide
  have one : memCalcNodeNum made msg.length = 1 := by
    rw [memCalcNodeNum, long, formatted.nodeSize, formatted.nodeSizeBinPower]
    decide
  obtain ⟨after, write, sameCur⟩ :=
    @memWriteBlock_single (made.reserved 1) msg made.atomicWriteCur (nextOprSeq made)
    cursors.write
  have sent : memSendReal made msg = some (.success, after) := by
    have fetch : memFetchOperationSeq made =
        (nextOprSeq made, { made with atomicOperationSeq := nextOprSeq made }) :=
      rfl
    unfold memSendReal
    rw [if_neg some_bytes, one, nodeCount, protect]
    dsimp only
    rw [if_neg (by decide), fetch]
    dsimp only
    rw [memReserve_eq formatted.shaped cursors, free, if_neg (by decide)]
    exact write
  rintro ⟨ret, after', sent', ⟨full, -⟩ | ⟨nodes, fits, moved, holds, -⟩⟩
  · rw [sent] at sent'
    cases sent'
    cases full
  · rw [sent] at sent'
    cases sent'
    have here : slot made.nodeCount made.atomicWriteCur nodes =
        slot made.nodeCount made.atomicWriteCur 1 :=
      moved.symm.trans sameCur
    have single : nodes = 1 := (slot_inj fits (by rw [nodeCount]; decide)).mp here
    rw [single, long, formatted.nodeSize] at holds
    exact absurd holds (by decide)

/-- No bytes and the greatest length, on a channel of thirty nodes that nobody has used. -/
theorem send_reserves_too_little : ∃ made, memInit 8192 none = .ok made ∧ ¬WritesReserved made [] ∧
    ¬WritesReserved made (List.replicate (2 ^ 64 - 1) 0) := by
  have init : memInit 8192 none = .ok _ := rfl
  refine ⟨_, init, not_writesReserved_nil (by decide) init, not_writesReserved_wrapped init ?_⟩
  exact List.length_replicate

end

end LibAtbus.Channel
