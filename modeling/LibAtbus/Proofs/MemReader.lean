/-
Module: LibAtbus.Proofs.MemReader
Layer: Proofs
Purpose: Writers and reader interleaved. Every live writer owns a block of the ring, at the cursor
  it holds in its locals and in the phase it has come to. While the reader finds the block at its
  cursor started, it never leaves the block of a live writer behind; a block that is reserved and
  not yet started is taken for debris.
Trusted boundary: none
Main exports: ReaderKeepsOff, ReaderSettled, WritersInvariant, writersStep_safe, reader_keeps_off,
  reader_abandons_reserved_block
-/
import LibAtbus.Channel.MemWriters
import LibAtbus.Foundation.Transitions
import LibAtbus.Proofs.MemFifo

namespace LibAtbus.Channel

open RingIndex TiledRing Transitions

/-! ### The property and its condition -/

/-- A receive does not move the read cursor past the first node of a block that a live writer has
    not marked as written, and does not touch the heads of its nodes. -/
def ReaderKeepsOff (t : Transition WritersState WritersLabel) : Prop :=
  ∀ clock len, t.label = .recv clock len →
    ∀ writer writeCur newWriteCur, (t.pre.writers writer).claimed = some (writeCur, newWriteCur) →
      dist t.pre.channel.nodeCount t.pre.channel.atomicReadCur t.post.channel.atomicReadCur ≤
          dist t.pre.channel.nodeCount t.pre.channel.atomicReadCur writeCur ∧
        ∀ k < dist t.pre.channel.nodeCount writeCur newWriteCur,
          t.post.channel.nodeHeads (slot t.pre.channel.nodeCount writeCur k) =
            t.pre.channel.nodeHeads (slot t.pre.channel.nodeCount writeCur k)

/-- The clock has not advanced since the reader first met the unfinished block it stands at. -/
def ClockStill (t : Transition WritersState WritersLabel) : Prop :=
  ∀ clock len met, t.label = .recv clock len → readerWaits t.pre.channel = true →
    t.pre.metClock = some met → clock = met

/-- What a receive finds at its cursor: nothing, or a started block; and behind a written block the
    write cursor or a node with another sequence number. -/
def ReaderSettled (t : Transition WritersState WritersLabel) : Prop :=
  ∀ clock len, t.label = .recv clock len →
    t.pre.channel.atomicReadCur = t.pre.channel.atomicWriteCur ∨
      checkFlag (t.pre.channel.nodeHeads t.pre.channel.atomicReadCur).flag .startNode = true ∧
        (checkFlag (t.pre.channel.nodeHeads t.pre.channel.atomicReadCur).flag .writen = true →
          memNextIndex t.pre.channel t.pre.channel.atomicReadCur
              (memCalcNodeNum t.pre.channel
                (blockBufferSize t.pre.channel t.pre.channel.atomicReadCur)) =
              t.pre.channel.atomicWriteCur ∨
            (t.pre.channel.nodeHeads (memNextIndex t.pre.channel t.pre.channel.atomicReadCur
              (memCalcNodeNum t.pre.channel
                (blockBufferSize t.pre.channel t.pre.channel.atomicReadCur)))).operationSeq ≠
              (t.pre.channel.nodeHeads t.pre.channel.atomicReadCur).operationSeq)

/-! ### Blocks by their first node -/

/-- A block of the ring with its first node at `index`. -/
def BlockAt (channel : MemChannel) (blocks : List Block) (index : Nat) (block : Block) : Prop :=
  ∃ left right, blocks = left ++ block :: right ∧ firstNode channel left = index

section

variable {channel : MemChannel} {left right blocks : List Block} {block other : Block} {index : Nat}

/-- A block exchanged for one of the same width leaves the blocks at other nodes where they are. -/
theorem BlockAt.replace {block' : Block}
    (found : BlockAt channel (left ++ block :: right) index other)
    (apart : firstNode channel left ≠ index) (sameNodes : block'.nodes = block.nodes) :
    BlockAt channel (left ++ block' :: right) index other := by
  obtain ⟨left', right', split, atIndex⟩ := found
  rcases List.append_eq_append_iff.mp split with ⟨middle, behind, rest⟩ | ⟨middle, before, rest⟩
  · cases middle with
    | nil =>
        rw [List.append_nil] at behind
        rw [behind] at atIndex
        exact absurd atIndex apart
    | cons first middle =>
        rw [List.cons_append, List.cons.injEq] at rest
        obtain ⟨rfl, rest⟩ := rest
        refine ⟨left ++ block' :: middle, right', ?_, ?_⟩
        · rw [rest, List.append_assoc, List.cons_append]
        · rw [← atIndex, behind]
          simp only [firstNode, extent_append, extent_cons, sameNodes]
  · cases middle with
    | nil =>
        rw [List.append_nil] at before
        rw [← before] at atIndex
        exact absurd atIndex apart
    | cons first middle =>
        rw [List.cons_append, List.cons.injEq] at rest
        obtain ⟨rfl, rest⟩ := rest
        refine ⟨left', middle ++ block' :: right, ?_, atIndex⟩
        rw [before, List.append_assoc, List.cons_append]

/-- A block appended to the ring leaves the others where they are. -/
theorem BlockAt.append {new : Block} (found : BlockAt channel blocks index other) :
    BlockAt channel (blocks ++ [new]) index other := by
  obtain ⟨left, right, rfl, atIndex⟩ := found
  exact ⟨left, right ++ [new], by simp, atIndex⟩

/-- Blocks start at different nodes: an appended block starts where no other does. -/
theorem BlockAt.ne_append (ring : MemRing channel blocks)
    (found : BlockAt channel blocks index other) : index ≠ firstNode channel blocks := by
  obtain ⟨left, right, rfl, atIndex⟩ := found
  have room := ring.extent_lt
  have nonempty := @Block.nodes_pos other
  rw [← atIndex, firstNode, firstNode]
  simp only [extent_append, extent_cons] at room ⊢
  exact slot_ne (by omega) (by omega) (by omega)

/-- Taking off a first block leaves a block that is not it where it is. -/
theorem BlockAt.dropFirst {heads : Nat → MemNodeHead} {firstFailed : Nat}
    (found : BlockAt channel (block :: right) index other) (apart : other.phase ≠ block.phase) :
    BlockAt { channel with
      nodeHeads := heads
      firstFailedWritingTime := firstFailed
      atomicReadCur := slot channel.nodeCount channel.atomicReadCur block.nodes }
      right index other := by
  obtain ⟨left', right', split, atIndex⟩ := found
  cases left' with
  | nil =>
      rw [List.nil_append, List.cons.injEq] at split
      rw [split.1] at apart
      exact absurd rfl apart
  | cons first left' =>
      rw [List.cons_append, List.cons.injEq] at split
      obtain ⟨rfl, rfl⟩ := split
      refine ⟨left', right', rfl, ?_⟩
      rw [← atIndex, firstNode, firstNode, extent_cons, slot_slot]

end

/-! ### The invariant -/

/-- What is known of a writer's block: its message and sequence number, and that its phase is the
    place the writer has come to. -/
def WriterOwns (channel : MemChannel) (blocks : List Block) : BlockWriter → Prop
  | .idle => True
  | .fetched buf oprSeq => Block.Valid channel ⟨buf, oprSeq, .reserved⟩
  | .reserved buf oprSeq writeCur newWriteCur =>
      newWriteCur = slot channel.nodeCount writeCur (blockNodes buf.length) ∧
        BlockAt channel blocks writeCur ⟨buf, oprSeq, .reserved⟩
  | .tagging buf oprSeq writeCur newWriteCur index =>
      newWriteCur = slot channel.nodeCount writeCur (blockNodes buf.length) ∧
        ∃ tagged < blockNodes buf.length, index = slot channel.nodeCount writeCur (tagged + 1) ∧
          BlockAt channel blocks writeCur ⟨buf, oprSeq, .tagging tagged⟩
  | .stored oprSeq writeCur newWriteCur =>
      ∃ buf, newWriteCur = slot channel.nodeCount writeCur (blockNodes buf.length) ∧
        BlockAt channel blocks writeCur ⟨buf, oprSeq, .stored⟩

/-- Every live writer owns its block, no two the same, and the reader's clock was started when it
    met the block it stands at. -/
structure WritersInvariant (state : WritersState) (blocks : List Block) : Prop where
  ring : MemRing state.channel blocks
  owns : ∀ writer, WriterOwns state.channel blocks (state.writers writer)
  apart : ∀ i j first last first' last', i ≠ j → (state.writers i).claimed = some (first, last) →
    (state.writers j).claimed = some (first', last') → first ≠ first'
  clock : state.channel.firstFailedWritingTime ≠ 0 → ∃ met, state.metClock = some met ∧
    state.channel.firstFailedWritingTime = clockStamp met

section

variable {state : WritersState} {channel channel' : MemChannel}
  {blocks blocks' left right : List Block} {block : Block} {place : BlockWriter} {writer : Nat}

/-- A live writer's block is in the ring and not yet written. -/
theorem WriterOwns.blockAt (owns : WriterOwns channel blocks place) {first last : Nat}
    (claims : place.claimed = some (first, last)) :
    ∃ block, BlockAt channel blocks first block ∧ block.phase ≠ .writen ∧
      last = slot channel.nodeCount first block.nodes := by
  cases place with
  | idle => cases claims
  | fetched buf oprSeq => cases claims
  | reserved buf oprSeq writeCur newWriteCur =>
      cases claims
      obtain ⟨target, found⟩ := owns
      exact ⟨_, found, by simp, target⟩
  | tagging buf oprSeq writeCur newWriteCur index =>
      cases claims
      obtain ⟨target, tagged, _, _, found⟩ := owns
      exact ⟨_, found, by simp, target⟩
  | stored oprSeq writeCur newWriteCur =>
      cases claims
      obtain ⟨buf, target, found⟩ := owns
      exact ⟨_, found, by simp, target⟩

/-- What a writer owns it keeps when its block stays where it is. -/
theorem WriterOwns.transfer (owns : WriterOwns channel blocks place)
    (sameCount : channel'.nodeCount = channel.nodeCount) (sameConf : channel'.conf = channel.conf)
    (kept : ∀ first last block, place.claimed = some (first, last) → block.phase ≠ .writen →
      BlockAt channel blocks first block → BlockAt channel' blocks' first block) :
    WriterOwns channel' blocks' place := by
  cases place with
  | idle => trivial
  | fetched buf oprSeq =>
      have fits := owns.nodes_lt
      rw [← sameCount, ← sameConf] at fits
      exact ⟨owns.msg_ne, owns.msg_le, owns.oprSeq_ne, fits⟩
  | reserved buf oprSeq writeCur newWriteCur =>
      obtain ⟨target, found⟩ := owns
      rw [← sameCount] at target
      exact ⟨target, kept _ _ _ rfl (by simp) found⟩
  | tagging buf oprSeq writeCur newWriteCur index =>
      obtain ⟨target, tagged, below, here, found⟩ := owns
      rw [← sameCount] at target here
      exact ⟨target, tagged, below, here, kept _ _ _ rfl (by simp) found⟩
  | stored oprSeq writeCur newWriteCur =>
      obtain ⟨buf, target, found⟩ := owns
      rw [← sameCount] at target
      exact ⟨buf, target, kept _ _ _ rfl (by simp) found⟩

/-- A step of one writer: the others keep their blocks, and what the writer claims no other does. -/
theorem WritersInvariant.move (holds : WritersInvariant state blocks)
    (ring : MemRing channel' blocks') (sameCount : channel'.nodeCount = state.channel.nodeCount)
    (sameConf : channel'.conf = state.channel.conf)
    (sameClock : channel'.firstFailedWritingTime = state.channel.firstFailedWritingTime)
    (kept : ∀ other first last block, other ≠ writer →
      (state.writers other).claimed = some (first, last) → block.phase ≠ .writen →
        BlockAt state.channel blocks first block → BlockAt channel' blocks' first block)
    (owned : WriterOwns channel' blocks' place)
    (unclaimed : ∀ other first last first' last', other ≠ writer →
      (state.writers other).claimed = some (first, last) → place.claimed = some (first', last') →
        first ≠ first') :
    WritersInvariant (state.move channel' writer place) blocks' where
  ring := ring
  owns := by
    intro other
    by_cases same : other = writer
    · subst same
      simp only [WritersState.move, Function.update_self]
      exact owned
    · simp only [WritersState.move, Function.update_of_ne same]
      exact (holds.owns other).transfer sameCount sameConf fun first last block claims =>
        kept other first last block same claims
  apart := by
    intro i j first last first' last' differ claims claims'
    by_cases isWriter : i = writer
    · subst isWriter
      simp only [WritersState.move, Function.update_self] at claims
      simp only [WritersState.move, Function.update_of_ne (Ne.symm differ)] at claims'
      exact (unclaimed j first' last' first last (Ne.symm differ) claims' claims).symm
    · simp only [WritersState.move, Function.update_of_ne isWriter] at claims
      by_cases isWriter' : j = writer
      · subst isWriter'
        simp only [WritersState.move, Function.update_self] at claims'
        exact unclaimed i first last first' last' isWriter claims claims'
      · simp only [WritersState.move, Function.update_of_ne isWriter'] at claims'
        exact holds.apart i j first last first' last' differ claims claims'
  clock := by
    intro started
    obtain ⟨met, stored, stamp⟩ := holds.clock (sameClock ▸ started)
    exact ⟨met, stored, sameClock.trans stamp⟩

/-- What a writer does that takes its block further: it still claims it, unless it is written
    now. -/
structure Advanced (state after : WritersState) (writer : Nat) (left right : List Block)
    (block : Block) (phase : BlockPhase) : Prop where
  sameNodes : ∀ before, firstNode after.channel before = firstNode state.channel before
  others : ∀ other, other ≠ writer → after.writers other = state.writers other
  claims : ∃ last, (state.writers writer).claimed = some (firstNode state.channel left, last) ∧
    ((after.writers writer).claimed = none ∧ phase = .writen ∨
      (after.writers writer).claimed = some (firstNode state.channel left, last))

/-- What a writer does that has no block yet. -/
structure Unclaiming (state after : WritersState) (writer : Nat) : Prop where
  sameNodes : ∀ before, firstNode after.channel before = firstNode state.channel before
  others : ∀ other, other ≠ writer → after.writers other = state.writers other
  unclaimed : (state.writers writer).claimed = none

/-- A writer that takes its block one phase further. -/
theorem WritersInvariant.advance {phase : BlockPhase} {first last : Nat} {heads : Nat → MemNodeHead}
    {bytes : ByteMemory.Memory} (holds : WritersInvariant state (left ++ block :: right))
    (claims : (state.writers writer).claimed = some (first, last))
    (found : firstNode state.channel left = first)
    (ring : MemRing { state.channel with nodeHeads := heads, dataArea := bytes }
      (left ++ block.withPhase phase :: right))
    (owned : WriterOwns { state.channel with nodeHeads := heads, dataArea := bytes }
      (left ++ block.withPhase phase :: right) place)
    (samePlace : place.claimed = none ∧ phase = .writen ∨ place.claimed = some (first, last)) :
    WritersInvariant
        (state.move { state.channel with nodeHeads := heads, dataArea := bytes } writer place)
        (left ++ block.withPhase phase :: right) ∧
      Advanced state (state.move { state.channel with
        nodeHeads := heads, dataArea := bytes } writer place)
        writer left right block phase := by
  refine ⟨holds.move ring rfl rfl rfl ?_ owned ?_,
    ⟨fun _ => rfl, fun other differ => ?_, last, ?_, ?_⟩⟩
  · intro other first' last' block' differ claims' _ there
    have apart := holds.apart writer other first last first' last' (Ne.symm differ) claims claims'
    exact there.replace (fun same => apart (found.symm.trans same)) rfl
  · intro other first' last' first'' last'' differ claims' claims''
    rcases samePlace with ⟨none, _⟩ | same
    · rw [none] at claims''
      cases claims''
    · rw [same] at claims''
      cases claims''
      exact (holds.apart writer other first last first' last' (Ne.symm differ) claims claims').symm
  · simp only [WritersState.move, Function.update_of_ne differ]
  · rw [found]
    exact claims
  · rw [found]
    simpa only [WritersState.move, Function.update_self] using samePlace

/-! ### The steps of a writer -/

theorem fetch_invariant (holds : WritersInvariant state blocks) {buf : List UInt8}
    {after : WritersState} (taken : writersStep state (.fetch writer buf) = some after) :
    WritersInvariant after blocks ∧ Unclaiming state after writer := by
  simp only [writersStep] at taken
  split at taken
  · rename_i idle
    split at taken
    · cases taken
    · rename_i proper
      split at taken
      · cases taken
        exact ⟨holds, fun _ => rfl, fun _ _ => rfl, by rw [idle]; rfl⟩
      · rename_i fits
        have nonempty : buf ≠ [] := fun none => proper (Or.inl (by rw [none]; rfl))
        have small : buf.length + channelMinSize ≤ 2 ^ 64 := by omega
        rw [memCalcNodeNum_eq holds.ring.formatted.shaped small,
          memExceedsChannel_iff holds.ring.formatted] at fits
        have ring : MemRing { state.channel with atomicOperationSeq := nextOprSeq state.channel }
            blocks := holds.ring.counters
        have owned : WriterOwns { state.channel with
            atomicOperationSeq := nextOprSeq state.channel }
            blocks (.fetched buf (nextOprSeq state.channel)) :=
          ⟨nonempty, small, nextOprSeq_ne, Nat.lt_of_not_le fits⟩
        cases taken
        refine ⟨holds.move ring rfl rfl rfl (fun _ _ _ _ _ _ _ found => found) owned
          (fun _ _ _ _ _ _ _ claims => nomatch claims), fun _ => rfl, fun other differ => ?_, ?_⟩
        · simp only [WritersState.move, Function.update_of_ne differ]
        · rw [idle]
          rfl
  · cases taken

/-- A writer that finds no room for its block gives up, and one that does has it at the end of the
    ring. -/
theorem reserve_invariant (holds : WritersInvariant state blocks) {after : WritersState}
    (taken : writersStep state (.reserve writer) = some after) :
    Unclaiming state after writer ∧
      (WritersInvariant after blocks ∧ after.writers writer = .idle ∨
        ∃ buf oprSeq last, state.writers writer = .fetched buf oprSeq ∧
          after.writers writer = .reserved buf oprSeq (firstNode state.channel blocks) last ∧
          WritersInvariant after (blocks ++ [⟨buf, oprSeq, .reserved⟩])) := by
  simp only [writersStep] at taken
  have owns := holds.owns writer
  split at taken
  · rename_i buf oprSeq here
    rw [here] at owns
    rw [memCalcNodeNum_eq holds.ring.formatted.shaped owns.msg_le] at taken
    have others : ∀ (channel : MemChannel) (place : BlockWriter) other, other ≠ writer →
        (state.move channel writer place).writers other = state.writers other := by
      intro channel place other differ
      simp only [WritersState.move, Function.update_of_ne differ]
    rcases memReserve_ring holds.ring owns rfl with full | ⟨reserve, ring⟩
    · rw [show memReserve state.channel (blockNodes buf.length) = none from full] at taken
      cases taken
      refine ⟨⟨fun _ => rfl, others _ _, by rw [here]; rfl⟩, Or.inl ⟨?_, ?_⟩⟩
      · exact holds.move holds.ring rfl rfl rfl (fun _ _ _ _ _ _ _ found => found) trivial
          (fun _ _ _ _ _ _ _ claims => nomatch claims)
      · simp only [WritersState.move, Function.update_self]
    · rw [show memReserve state.channel (blockNodes buf.length) = _ from reserve] at taken
      cases taken
      refine ⟨⟨fun _ => rfl, others _ _, by rw [here]; rfl⟩,
        Or.inr ⟨buf, oprSeq, _, here, Function.update_self ..,
          holds.move ring rfl rfl rfl ?_ ?_ ?_⟩⟩
      · intro other first last block _ _ _ found
        exact found.append
      · exact ⟨rfl, blocks, [], rfl, rfl⟩
      · intro other first last first' last' _ claims claims'
        cases claims'
        obtain ⟨block, found, _⟩ := (holds.owns other).blockAt claims
        exact found.ne_append holds.ring
  · cases taken

theorem start_invariant (holds : WritersInvariant state blocks) {after : WritersState}
    (taken : writersStep state (.start writer) = some after) :
    ∃ left right block phase, blocks = left ++ block :: right ∧
      WritersInvariant after (left ++ block.withPhase phase :: right) ∧
      Advanced state after writer left right block phase := by
  simp only [writersStep] at taken
  have owns := holds.owns writer
  split at taken
  · rename_i buf oprSeq writeCur newWriteCur here
    rw [here] at owns
    obtain ⟨target, left, right, rfl, found⟩ := owns
    have ring := memStartBlock_ring holds.ring rfl
    rw [found] at ring
    cases taken
    refine ⟨left, right, _, _, rfl, holds.advance (by rw [here]; rfl) found ring ?_ (Or.inr rfl)⟩
    exact ⟨target, 0, blockNodes_pos, rfl, left, right, rfl, found⟩
  · cases taken

theorem tag_invariant (holds : WritersInvariant state blocks) {after : WritersState}
    (taken : writersStep state (.tag writer) = some after) :
    ∃ left right block phase, blocks = left ++ block :: right ∧
      WritersInvariant after (left ++ block.withPhase phase :: right) ∧
      Advanced state after writer left right block phase ∧ phase ≠ .writen := by
  simp only [writersStep] at taken
  have owns := holds.owns writer
  split at taken
  · rename_i buf oprSeq writeCur newWriteCur index here
    rw [here] at owns
    obtain ⟨target, tagged, below, node, left, right, rfl, found⟩ := owns
    split at taken
    · cases taken
    · rename_i notLast
      have more : tagged + 1 < blockNodes buf.length := by
        have differ : tagged + 1 ≠ blockNodes buf.length := by
          intro same
          rw [node, target, same] at notLast
          exact notLast rfl
        omega
      obtain ⟨heads, tags, ring⟩ := memTagNode_ring holds.ring rfl more
      rw [found, ← node] at tags
      rw [tags] at taken
      cases taken
      refine ⟨left, right, _, .tagging (tagged + 1), rfl,
        and_assoc.mp ⟨holds.advance (by rw [here]; rfl) found ring ?_ (Or.inr rfl), by simp⟩⟩
      refine ⟨target, tagged + 1, more, ?_, left, right, rfl, found⟩
      rw [node, memNextIndex, slot_slot]
  · cases taken

theorem store_invariant (holds : WritersInvariant state blocks) {after : WritersState}
    (taken : writersStep state (.store writer) = some after) :
    ∃ left right block phase, blocks = left ++ block :: right ∧
      WritersInvariant after (left ++ block.withPhase phase :: right) ∧
      Advanced state after writer left right block phase := by
  simp only [writersStep] at taken
  have owns := holds.owns writer
  split at taken
  · rename_i buf oprSeq writeCur newWriteCur index here
    rw [here] at owns
    obtain ⟨target, tagged, below, node, left, right, rfl, found⟩ := owns
    split at taken
    · rename_i last
      have room := holds.ring.nodes_lt
      have nodes : Block.nodes ⟨buf, oprSeq, .tagging tagged⟩ = blockNodes buf.length := rfl
      have whole : tagged + 1 = blockNodes buf.length := by
        rw [node, target, slot_inj (by omega) (by omega)] at last
        exact last
      have phase : (⟨buf, oprSeq, .tagging tagged⟩ : Block).phase =
          .tagging (Block.nodes ⟨buf, oprSeq, .tagging tagged⟩ - 1) := by
        rw [nodes, ← whole]
        rfl
      rw [← found] at target
      have ring := memStoreBlock_ring holds.ring phase target
      rw [found] at ring target
      cases taken
      refine ⟨left, right, _, _, rfl, holds.advance (by rw [here]; rfl) found ring ?_ (Or.inr rfl)⟩
      exact ⟨buf, target, left, right, rfl, found⟩
    · cases taken
  · cases taken

theorem finish_invariant (holds : WritersInvariant state blocks) {after : WritersState}
    (taken : writersStep state (.finish writer) = some after) :
    ∃ left right block phase, blocks = left ++ block :: right ∧
      WritersInvariant after (left ++ block.withPhase phase :: right) ∧
      Advanced state after writer left right block phase := by
  simp only [writersStep] at taken
  have owns := holds.owns writer
  split at taken
  · rename_i oprSeq writeCur newWriteCur here
    rw [here] at owns
    obtain ⟨buf, target, left, right, rfl, found⟩ := owns
    obtain ⟨heads, finish, ring⟩ := memFinishBlock_ring holds.ring rfl
    rw [found] at finish
    rw [show memFinishBlock state.channel writeCur oprSeq = _ from finish] at taken
    cases taken
    exact ⟨left, right, _, _, rfl,
      holds.advance (by rw [here]; rfl) found ring trivial (Or.inl ⟨rfl, rfl⟩)⟩
  · cases taken

/-! ### The step of the reader -/

/-- A step of the reader: it keeps the blocks of the live writers where they are. -/
theorem WritersInvariant.read {metClock : Option Nat} (holds : WritersInvariant state blocks)
    (ring : MemRing channel' blocks') (sameCount : channel'.nodeCount = state.channel.nodeCount)
    (sameConf : channel'.conf = state.channel.conf)
    (kept : ∀ first block, block.phase ≠ .writen →
      BlockAt state.channel blocks first block → BlockAt channel' blocks' first block)
    (clock : channel'.firstFailedWritingTime ≠ 0 → ∃ met, metClock = some met ∧
      channel'.firstFailedWritingTime = clockStamp met) :
    WritersInvariant { state with channel := channel', metClock := metClock } blocks' where
  ring := ring
  owns := fun writer => (holds.owns writer).transfer sameCount sameConf
    fun first _ block _ => kept first block
  apart := holds.apart
  clock := clock

/-- A receive that leaves cursor and heads alone keeps off every writer's block. -/
theorem ReaderKeepsOff.of_unmoved {after : WritersState} {clock len : Nat}
    (cursor : after.channel.atomicReadCur = state.channel.atomicReadCur)
    (heads : after.channel.nodeHeads = state.channel.nodeHeads)
    (inRing : state.channel.atomicReadCur < state.channel.nodeCount) :
    ReaderKeepsOff ⟨state, .recv clock len, after⟩ := by
  intro clock' len' _ writer writeCur newWriteCur _
  constructor
  · show dist state.channel.nodeCount state.channel.atomicReadCur after.channel.atomicReadCur ≤ _
    rw [cursor, dist_self inRing]
    exact Nat.zero_le _
  · intro k _
    show after.channel.nodeHeads _ = state.channel.nodeHeads _
    rw [heads]

/-- A receive that takes a written first block keeps off every writer's block. -/
theorem ReaderKeepsOff.of_taken {after : WritersState} {clock len : Nat} {rest : List Block}
    (holds : WritersInvariant state (block :: rest)) (phase : block.phase = .writen)
    (cursor : after.channel.atomicReadCur =
      slot state.channel.nodeCount state.channel.atomicReadCur block.nodes)
    (heads : ∀ k < state.channel.nodeCount, block.nodes ≤ k →
      after.channel.nodeHeads (slot state.channel.nodeCount state.channel.atomicReadCur k) =
        state.channel.nodeHeads (slot state.channel.nodeCount state.channel.atomicReadCur k)) :
    ReaderKeepsOff ⟨state, .recv clock len, after⟩ := by
  intro clock' len' _ writer writeCur newWriteCur claims
  obtain ⟨other, ⟨left, right, split, found⟩, unwritten, target⟩ :=
    (holds.owns writer).blockAt claims
  have room := holds.ring.extent_lt
  have inRing := holds.ring.readCur_lt
  cases left with
  | nil =>
      rw [List.nil_append, List.cons.injEq] at split
      rw [← split.1] at unwritten
      exact absurd phase unwritten
  | cons first left =>
      rw [List.cons_append, List.cons.injEq] at split
      obtain ⟨rfl, rfl⟩ := split
      rw [extent_cons, extent_append, extent_cons] at room
      have start : writeCur = slot state.channel.nodeCount state.channel.atomicReadCur
          (block.nodes + extent Block.nodes left) := by
        rw [← found, firstNode, extent_cons]
      constructor
      · show dist state.channel.nodeCount state.channel.atomicReadCur after.channel.atomicReadCur ≤
          dist state.channel.nodeCount state.channel.atomicReadCur writeCur
        rw [cursor, start, dist_slot inRing (by omega), dist_slot inRing (by omega)]
        exact Nat.le_add_right _ _
      · intro k inside
        have first : writeCur < state.channel.nodeCount := by
          rw [start]
          exact slot_lt holds.ring.formatted.nodeCount_pos
        have below : k < dist state.channel.nodeCount writeCur newWriteCur := inside
        rw [target, dist_slot first (by omega)] at below
        show after.channel.nodeHeads (slot state.channel.nodeCount writeCur k) =
          state.channel.nodeHeads (slot state.channel.nodeCount writeCur k)
        rw [start, slot_slot]
        exact heads _ (by omega) (by omega)

/-- What a receive does to the blocks of the ring: it waits, reports a block that does not fit, or
    takes the first one when it is written. -/
inductive Reads (state after : WritersState) (clock len : Nat) :
    List Block → List Block → Prop where
  | waits (blocks : List Block)
      (got : memRecv clock state.channel len = some ⟨.noData, none, [], after.channel⟩)
      (nodes : ∀ before, firstNode after.channel before = firstNode state.channel before) :
      Reads state after clock len blocks blocks
  | tooLarge (block : Block) (rest : List Block) (larger : len < block.msg.length)
      (got : memRecv clock state.channel len =
        some ⟨.buffLimit, some block.msg.length, [], after.channel⟩)
      (nodes : ∀ before, firstNode after.channel before = firstNode state.channel before) :
      Reads state after clock len (block :: rest) (block :: rest)
  | taken (block : Block) (rest : List Block) (phase : block.phase = .writen)
      (got : memRecv clock state.channel len =
        some ⟨.success, some block.msg.length, block.msg, after.channel⟩)
      (nodes :
        ∀ before, firstNode after.channel before = firstNode state.channel (block :: before)) :
      Reads state after clock len (block :: rest) rest

/-- What the condition says about a written first block: the next block has another sequence
    number. -/
theorem settled_next {rest : List Block} (ring : MemRing state.channel (block :: rest))
    (phase : block.phase = .writen)
    (settled : memNextIndex state.channel state.channel.atomicReadCur
          (memCalcNodeNum state.channel
            (blockBufferSize state.channel state.channel.atomicReadCur)) =
          state.channel.atomicWriteCur ∨
        (state.channel.nodeHeads (memNextIndex state.channel state.channel.atomicReadCur
          (memCalcNodeNum state.channel
            (blockBufferSize state.channel state.channel.atomicReadCur)))).operationSeq ≠
          (state.channel.nodeHeads state.channel.atomicReadCur).operationSeq) :
    ∀ other ∈ rest.head?, (other.head 0).operationSeq ≠ block.oprSeq := by
  intro other isNext
  have room := ring.extent_lt
  rw [blockBufferSize_first ring (Or.inr phase),
    memCalcNodeNum_eq ring.formatted.shaped (ring.valid block (by simp)).msg_le, memNextIndex,
    ring.firstHead] at settled
  have seq : (block.head 0).operationSeq = block.oprSeq := by
    rw [Block.head, phase]
    rfl
  cases rest with
  | nil => cases isNext
  | cons next rest =>
      cases isNext
      have nonempty := @Block.nodes_pos other
      rw [extent_cons, extent_cons] at room
      have head : state.channel.nodeHeads
          (slot state.channel.nodeCount (firstNode state.channel [block]) 0) = other.head 0 :=
        MemRing.head ring nonempty
      rw [firstNode, slot_slot, extent_cons, extent_nil, Nat.add_zero] at head
      rcases settled with atWrite | differs
      · have nodes : blockNodes block.msg.length = block.nodes := rfl
        rw [ring.writeCur, extent_cons, extent_cons, nodes,
          slot_inj (by omega) (by omega)] at atWrite
        omega
      · rw [seq] at differs
        rw [← head]
        exact differs

/-- A receive that finds an unfinished first block waits for it. -/
theorem recv_unfinished {rest : List Block} (holds : WritersInvariant state (block :: rest))
    (head : block.head 0 = ⟨2, block.oprSeq⟩) {clock len : Nat} {after : WritersState}
    (taken : writersStep state (.recv clock len) = some after)
    (still : readerWaits state.channel = true → ∀ met, state.metClock = some met → clock = met) :
    WritersInvariant after (block :: rest) ∧ ReaderKeepsOff ⟨state, .recv clock len, after⟩ ∧
      Reads state after clock len (block :: rest) (block :: rest) := by
  have waiting : readerWaits state.channel = true := by
    unfold readerWaits
    rw [holds.ring.firstHead, head]
    simp [holds.ring.notAtWrite, checkFlag, MemFlag.bit]
  have waits : state.channel.firstFailedWritingTime = 0 ∨
      stampDistance (clockStamp clock) state.channel.firstFailedWritingTime ≤
        state.channel.blockTimeoutCount := by
    by_cases fresh : state.channel.firstFailedWritingTime = 0
    · exact Or.inl fresh
    · obtain ⟨met, stored, stamp⟩ := holds.clock fresh
      right
      rw [stamp, still waiting met stored]
      simp [stampDistance]
  have got := @memRecv_unfinished state.channel rest block clock len holds.ring head waits
  rw [writersStep, got] at taken
  cases taken
  refine ⟨holds.read holds.ring.counters rfl rfl (fun _ _ _ found => found) ?_,
    .of_unmoved rfl rfl holds.ring.readCur_lt, .waits _ got fun _ => rfl⟩
  intro started
  dsimp only at started ⊢
  rw [if_neg (fun differs => differs rfl), waiting]
  by_cases fresh : state.channel.firstFailedWritingTime = 0
  · rw [if_pos fresh]
    cases met : state.metClock with
    | none => exact ⟨clock, rfl, rfl⟩
    | some first =>
        rw [still waiting first met]
        exact ⟨first, rfl, rfl⟩
  · rw [if_neg fresh]
    obtain ⟨met, stored, stamp⟩ := holds.clock fresh
    rw [stored]
    exact ⟨met, rfl, stamp⟩

/-- A receive that changes nothing keeps the invariant. -/
theorem recv_unchanged {clock len : Nat} {ret : ErrorType} {recvSize : Option Nat}
    {buf : List UInt8} {after : WritersState} (holds : WritersInvariant state blocks)
    (got : memRecv clock state.channel len = some ⟨ret, recvSize, buf, state.channel⟩)
    (taken : writersStep state (.recv clock len) = some after) :
    WritersInvariant after blocks ∧ ReaderKeepsOff ⟨state, .recv clock len, after⟩ ∧
      after.channel = state.channel := by
  rw [writersStep, got] at taken
  cases taken
  refine ⟨holds.read holds.ring rfl rfl (fun _ _ _ found => found) ?_,
    .of_unmoved rfl rfl holds.ring.readCur_lt, rfl⟩
  intro started
  obtain ⟨met, stored, stamp⟩ := holds.clock started
  dsimp only
  rw [if_neg (fun differs => differs rfl), stored]
  exact ⟨met, by simp, stamp⟩

/-- The step lemma of the reader: it waits, reports a block that does not fit, or takes a written
    one. -/
theorem recv_invariant (holds : WritersInvariant state blocks) {clock len : Nat}
    {after : WritersState} (taken : writersStep state (.recv clock len) = some after)
    (still : ClockStill ⟨state, .recv clock len, after⟩)
    (settled : ReaderSettled ⟨state, .recv clock len, after⟩) :
    ∃ blocks', WritersInvariant after blocks' ∧ ReaderKeepsOff ⟨state, .recv clock len, after⟩ ∧
      Reads state after clock len blocks blocks' := by
  cases blocks with
  | nil =>
      have got := @memRecv_empty state.channel clock len holds.ring
      obtain ⟨invariant, keepsOff, same⟩ := recv_unchanged holds got taken
      exact ⟨[], invariant, keepsOff, .waits _ (same ▸ got) fun _ => by rw [same]⟩
  | cons block rest =>
      rcases settled clock len rfl with atWrite | ⟨started, behind⟩
      · exact absurd atWrite holds.ring.notAtWrite
      · dsimp only at started behind
        have front := holds.ring.firstHead
        have waits := fun waiting met => still clock len met rfl waiting
        cases phase : block.phase with
        | reserved =>
            rw [front, Block.head, phase] at started
            simp [checkFlag, MemNodeHead.clean] at started
        | tagging tagged =>
            have head : block.head 0 = ⟨2, block.oprSeq⟩ := by
              rw [Block.head, phase]
              rfl
            exact ⟨_, recv_unfinished holds head taken waits⟩
        | stored =>
            have head : block.head 0 = ⟨2, block.oprSeq⟩ := by
              rw [Block.head, phase]
              rfl
            exact ⟨_, recv_unfinished holds head taken waits⟩
        | writen =>
            by_cases fits : block.msg.length ≤ len
            · have written : checkFlag (state.channel.nodeHeads
                  state.channel.atomicReadCur).flag .writen = true := by
                rw [front, Block.head, phase]
                simp [checkFlag, MemFlag.bit]
              obtain ⟨heads, got, ring, kept⟩ := @memRecv_taken state.channel rest block clock len
                holds.ring phase fits (settled_next holds.ring phase (behind written))
              rw [writersStep, got] at taken
              cases taken
              refine ⟨rest, holds.read ring rfl rfl ?_ ?_, .of_taken holds phase rfl kept,
                .taken block rest phase got fun before => ?_⟩
              · intro first other unwritten found
                exact found.dropFirst (by rw [phase]; exact unwritten)
              · intro restarted
                exact absurd rfl restarted
              · rw [firstNode, firstNode, extent_cons, ← slot_slot]
            · have larger := Nat.lt_of_not_le fits
              have got :=
                @memRecv_tooLarge state.channel rest block clock len holds.ring phase larger
              obtain ⟨invariant, keepsOff, same⟩ := recv_unchanged holds got taken
              exact ⟨_, invariant, keepsOff,
                .tooLarge block rest larger (same ▸ got) fun _ => by rw [same]⟩

end

/-- The states of the system in which some ring of blocks explains channel and writers. -/
def WritersExplained (state : WritersState) : Prop := ∃ blocks, WritersInvariant state blocks

/-- The step lemma of the system. -/
theorem writersStep_safe (t : Transition WritersState WritersLabel) (holds : WritersExplained t.pre)
    (taken : writersStep t.pre t.label = some t.post) (meets : ClockStill t ∧ ReaderSettled t) :
    WritersExplained t.post ∧ ReaderKeepsOff t := by
  obtain ⟨state, label, after⟩ := t
  obtain ⟨blocks, invariant⟩ := holds
  cases label with
  | fetch writer buf =>
      exact ⟨⟨blocks, (fetch_invariant invariant taken).1⟩, fun _ _ isRecv => nomatch isRecv⟩
  | reserve writer =>
      rcases (reserve_invariant invariant taken).2 with ⟨kept, _⟩ | ⟨_, _, _, _, _, appended⟩
      · exact ⟨⟨_, kept⟩, fun _ _ isRecv => nomatch isRecv⟩
      · exact ⟨⟨_, appended⟩, fun _ _ isRecv => nomatch isRecv⟩
  | start writer =>
      obtain ⟨_, _, _, _, _, advanced, _⟩ := start_invariant invariant taken
      exact ⟨⟨_, advanced⟩, fun _ _ isRecv => nomatch isRecv⟩
  | tag writer =>
      obtain ⟨_, _, _, _, _, advanced, _, _⟩ := tag_invariant invariant taken
      exact ⟨⟨_, advanced⟩, fun _ _ isRecv => nomatch isRecv⟩
  | store writer =>
      obtain ⟨_, _, _, _, _, advanced, _⟩ := store_invariant invariant taken
      exact ⟨⟨_, advanced⟩, fun _ _ isRecv => nomatch isRecv⟩
  | finish writer =>
      obtain ⟨_, _, _, _, _, advanced, _⟩ := finish_invariant invariant taken
      exact ⟨⟨_, advanced⟩, fun _ _ isRecv => nomatch isRecv⟩
  | recv clock len =>
      obtain ⟨blocks', kept, keepsOff, _⟩ := recv_invariant invariant taken meets.1 meets.2
      exact ⟨⟨blocks', kept⟩, keepsOff⟩

/-! ### Runs -/

/-- The system on a channel, before any writer begins. -/
def writersStart (channel : MemChannel) : WritersState :=
  { channel := channel, writers := fun _ => .idle, metClock := none }

/-- On a freshly initialised channel, in every run whose receives find nothing or a started block at
    their cursor, with the write cursor or another sequence number behind a written block, and whose
    clock stands still while the reader waits: no receive leaves the block of a live writer behind
    or touches its heads. -/
theorem reader_keeps_off {len : Nat} {channel : MemChannel} {final : WritersState}
    {made : List (Transition WritersState WritersLabel)} (small : len < 2 ^ 64)
    (init : memInit len none = .ok channel)
    (run :
      Run (fun state label after => writersStep state label = some after) (writersStart channel)
      made final)
    (still : ∀ t ∈ made, ClockStill t) (settled : ∀ t ∈ made, ReaderSettled t) :
    ∀ t ∈ made, ReaderKeepsOff t := by
  have serial := (memInit_serialRing small init).1
  have fresh : channel.firstFailedWritingTime = 0 := by
    unfold memInit at init
    split at init
    · cases init
    · cases init
      rfl
  have initial : WritersExplained (writersStart channel) :=
    ⟨[], serial.ring, fun _ => trivial, fun _ _ _ _ _ _ _ claims => (nomatch claims),
      fun started => absurd fresh started⟩
  have steps := run.forall_transition initial writersStep_safe
    (fun t member => ⟨still t member, settled t member⟩)
  exact steps.2

/-- A writer starts its block, and the reader runs and waits. -/
theorem reader_keeps_off_started_block :
    ∃ channel made final, memInit 4368 none = .ok channel ∧ made ≠ [] ∧
      Run (fun state label after => writersStep state label = some after) (writersStart channel)
        made final ∧
      ∀ t ∈ made, ReaderKeepsOff t := by
  have facts : (do
      let channel ← (memInit 4368 none).toOption
      let fetched ← writersStep (writersStart channel) (.fetch 0 [7])
      let reserved ← writersStep fetched (.reserve 0)
      let started ← writersStep reserved (.start 0)
      let _ ← writersStep started (.recv 0 100)
      return (started.metClock, started.channel.nodeHeads started.channel.atomicReadCur)) =
      some (none, ⟨2, 1⟩) := by decide +kernel
  cases init : memInit 4368 none with
  | error res =>
      rw [init] at facts
      cases facts
  | ok channel =>
      rw [init] at facts
      obtain ⟨_, same, facts⟩ := Option.bind_eq_some_iff.mp facts
      cases same
      obtain ⟨fetched, first, facts⟩ := Option.bind_eq_some_iff.mp facts
      obtain ⟨reserved, second, facts⟩ := Option.bind_eq_some_iff.mp facts
      obtain ⟨started, third, facts⟩ := Option.bind_eq_some_iff.mp facts
      obtain ⟨read, fourth, facts⟩ := Option.bind_eq_some_iff.mp facts
      simp only [Option.pure_def, Option.some.injEq, Prod.mk.injEq] at facts
      obtain ⟨notMet, head⟩ := facts
      have run : Run (fun state label after => writersStep state label = some after)
          (writersStart channel) _ read :=
        (((Run.refl.tail first).tail second).tail third).tail fourth
      have small : 4368 < 2 ^ 64 := by decide
      refine ⟨channel, _, read, rfl, by simp, run, reader_keeps_off small init run ?_ ?_⟩
      · intro t member clock len met isRecv _ isMet
        simp only [List.nil_append, List.cons_append, List.mem_cons, List.not_mem_nil,
          or_false] at member
        rcases member with rfl | rfl | rfl | rfl
        · cases isRecv
        · cases isRecv
        · cases isRecv
        · rw [notMet] at isMet
          cases isMet
      · intro t member clock len isRecv
        simp only [List.nil_append, List.cons_append, List.mem_cons, List.not_mem_nil,
          or_false] at member
        rcases member with rfl | rfl | rfl | rfl
        · cases isRecv
        · cases isRecv
        · cases isRecv
        · right
          dsimp only
          rw [head]
          exact ⟨by decide, fun written => absurd written (by decide)⟩

/-- A writer reserves its block, the reader runs before the writer has started the first node, and
    the read cursor moves past it. No unfinished block was met, so no clock is involved. -/
theorem reader_abandons_reserved_block :
    ∃ channel made final, memInit 4368 none = .ok channel ∧
      Run (fun state label after => writersStep state label = some after) (writersStart channel)
        made final ∧
      (∀ t ∈ made, ClockStill t) ∧ ∃ t ∈ made, ¬ReaderKeepsOff t := by
  have facts : (do
      let channel ← (memInit 4368 none).toOption
      let fetched ← writersStep (writersStart channel) (.fetch 0 [7])
      let reserved ← writersStep fetched (.reserve 0)
      let read ← writersStep reserved (.recv 0 100)
      return ((reserved.writers 0).claimed, reserved.metClock, reserved.channel.nodeCount,
        reserved.channel.atomicReadCur, read.channel.atomicReadCur)) =
      some (some (0, 1), none, 2, 0, 1) := by decide +kernel
  cases init : memInit 4368 none with
  | error res =>
      rw [init] at facts
      cases facts
  | ok channel =>
      rw [init] at facts
      obtain ⟨_, same, facts⟩ := Option.bind_eq_some_iff.mp facts
      cases same
      obtain ⟨fetched, first, facts⟩ := Option.bind_eq_some_iff.mp facts
      obtain ⟨reserved, second, facts⟩ := Option.bind_eq_some_iff.mp facts
      obtain ⟨read, third, facts⟩ := Option.bind_eq_some_iff.mp facts
      simp only [Option.pure_def, Option.some.injEq, Prod.mk.injEq] at facts
      obtain ⟨claims, notMet, nodeCount, cursor, moved⟩ := facts
      refine ⟨channel, _, read, rfl, ((Run.refl.tail first).tail second).tail third, ?_,
        ⟨reserved, .recv 0 100, read⟩, by simp, ?_⟩
      · intro t member clock len met isRecv _ isMet
        simp only [List.nil_append, List.cons_append, List.mem_cons, List.not_mem_nil,
          or_false] at member
        rcases member with rfl | rfl | rfl
        · cases isRecv
        · cases isRecv
        · rw [notMet] at isMet
          cases isMet
      · intro keepsOff
        have passed := (keepsOff 0 100 rfl 0 0 1 claims).1
        dsimp only at passed
        rw [nodeCount, cursor, moved] at passed
        exact absurd passed (by decide)

end LibAtbus.Channel
