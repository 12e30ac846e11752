/-
Module: LibAtbus.Proofs.LiveBlocks
Layer: Proofs
Purpose: The live blocks of a buffer manager as one list, in both modes: they are the chunks of its
  deque, a push adds one at its side and returns the pointer to its data, a pop that exhausts one
  takes it away, and a write leaves them where they are.
Trusted boundary: none
Main exports: Simulates.liveBlocks, block?_eq, Simulates.front_eq, LivePushed,
  Simulates.liveBlocks_push, Simulates.liveBlocks_pop, liveBlocks_write, BufferBlock.chunk,
  Simulates.chunks, SameBlock, Simulates.sameBlocks
-/
import LibAtbus.Proofs.BufferDeque

namespace LibAtbus.Detail

open Word64 ByteMemory RingIndex CircularLayout ByteDeque

section

variable {mapped : MappedManager} {deque : List Chunk} {side : Side} {s : Nat} {heap : Heap}
  {after : BufferManager} {res : ErrorType} {pointer : Option Nat} {buffer : StaticBuffer}
  {regions : List Region} {free : Nat} {manager : BufferManager}

theorem liveBlocks_dynamic (mode : manager.staticBuffer = none) :
    manager.liveBlocks = manager.dynamicBuffer := by
  simp only [BufferManager.liveBlocks, mode]

/-- The live blocks of an arranged static buffer are those of its regions. -/
theorem Arranged.liveBlocks (arranged : Arranged buffer regions free)
    (mode : manager.staticBuffer = some buffer) :
    manager.liveBlocks = regions.map fun region => buffer.blocks region.start := by
  simp only [BufferManager.liveBlocks, mode, arranged.count_eq]
  apply List.ext_getElem
  · simp
  · intro i left right
    have below : i < regions.length := by simpa using right
    have stored : buffer.entry (buffer.liveIndex i) = some regions[i].start :=
      arranged.entry_live below
    simp [StaticBuffer.blockAt, stored]

theorem Idle.liveBlocks (idle : Idle buffer) (mode : manager.staticBuffer = some buffer) :
    manager.liveBlocks = [] := by
  simp only [BufferManager.liveBlocks, mode, idle.count, List.range_zero, List.map_nil]

/-- The block at a place. -/
theorem block?_eq (manager : BufferManager) (i : Nat) :
    manager.block? i = manager.liveBlocks[i]? := by
  cases mode : manager.staticBuffer with
  | none => simp only [BufferManager.block?, BufferManager.liveBlocks, mode]
  | some buffer =>
      simp only [BufferManager.block?, BufferManager.liveBlocks, mode, List.getElem?_map]
      by_cases live : i < buffer.count
      · rw [if_pos live, List.getElem?_range live, Option.map_some]
      · rw [if_neg live, List.getElem?_eq_none (by simpa using live), Option.map_none]

/-- The live blocks are the chunks of the deque. -/
theorem Simulates.liveBlocks (simulates : Simulates mapped deque) :
    List.Forall₂ (fun block chunk => Shows block (mapped.byteAt block) chunk ∧
      block.size = chunk.remaining)
      mapped.manager.liveBlocks deque := by
  cases simulates with
  | dynamic mode shown space counts =>
      rw [liveBlocks_dynamic mode]
      apply shown.imp
      rintro block chunk ⟨occupies, shows⟩
      refine ⟨shows.congr fun k _ => ?_, shows.remaining occupies⟩
      simp only [MappedManager.byteAt, mode]
  | static buffer regions free mode arranged shown word counts =>
      rw [arranged.liveBlocks mode, List.forall₂_map_left_iff]
      apply forall₂_imp_mem shown
      intro region member chunk shows
      have occupies := arranged.occupied region member
      refine ⟨shows.shows.congr fun k _ => ?_, shows.shows.remaining occupies⟩
      simp only [MappedManager.byteAt, mode, occupies.pointer]
  | idle buffer mode idle none counts =>
      rw [idle.liveBlocks mode, none]
      exact .nil

/-- `front` shows the first live block. -/
theorem Simulates.front_eq (simulates : Simulates mapped deque) :
    mapped.manager.front = mapped.manager.liveBlocks.head? := by
  cases simulates with
  | dynamic mode shown space counts =>
      rw [liveBlocks_dynamic mode]
      simp only [BufferManager.front, mode]
  | static buffer regions free mode arranged shown word counts =>
      rw [arranged.liveBlocks mode]
      simp only [BufferManager.front, mode]
      cases regions with
      | nil => rw [if_pos (arranged.empty_iff.mpr rfl), List.map_nil, List.head?_nil]
      | cons first rest =>
          have live : ¬buffer.empty = true :=
            fun empty => List.cons_ne_nil _ _ (arranged.empty_iff.mp empty)
          rw [if_neg live, List.map_cons, List.head?_cons, StaticBuffer.blockAt,
            arranged.entry_head, Option.getD_some]
  | idle buffer mode idle none counts =>
      rw [idle.liveBlocks mode]
      simp only [BufferManager.front, mode, if_pos idle.empty, List.head?_nil]

/-- A push that failed leaves the live blocks; one that succeeded adds one, to whose data it returns
    the pointer. -/
inductive LivePushed (s : Nat) (side : Side) (before after : BufferManager) (res : ErrorType)
    (pointer : Option Nat) : Prop where
  | refused (failed : res.failed = true) (same : after.liveBlocks = before.liveBlocks)
  | added (block : BufferBlock) (succeeded : res = .success) (found : pointer = some block.data)
      (size : block.rawSize = s) (unused : block.used = 0)
      (more : after.liveBlocks = side.put block before.liveBlocks)

/-- A push into an arranged static buffer. -/
theorem livePushed_static {pushedBuffer : StaticBuffer} (arranged : Arranged buffer regions free)
    (sized : Sized s)
    (before : manager.liveBlocks = regions.map fun region => buffer.blocks region.start)
    (mode : after.staticBuffer = some pushedBuffer)
    (pushed : buffer.pushSide s side = .ok (res, pointer, pushedBuffer)) :
    LivePushed s side manager after res pointer := by
  rcases arranged.pushed sized pushed with ⟨rfl, rfl, rfl⟩ | ⟨rfl, start, rfl, put⟩
  · exact .refused rfl ((arranged.liveBlocks mode).trans before.symm)
  · obtain ⟨free', placed⟩ := put.arranged
    obtain ⟨contents, created⟩ := put.block
    have others : (regions.map fun region => pushedBuffer.blocks region.start) =
        regions.map fun region => buffer.blocks region.start := by
      apply List.map_congr_left
      intro region member
      apply put.others
      have long := (arranged.occupied region member).length_pos
      exact ((placed.apart_side member).start_ne sized.pos long).symm
    refine .added (.created start s contents) rfl rfl rfl rfl ?_
    rw [placed.liveBlocks mode, Side.map_put, created, others, before]

/-- What a push that returns does to the live blocks. -/
theorem Simulates.liveBlocks_push (simulates : Simulates mapped deque) (side : Side)
    (sized : Sized s) (result : mapped.manager.pushSide heap s side = .ok (res, pointer, after)) :
    LivePushed s side mapped.manager after res pointer ∧
      after.staticBuffer.isSome = mapped.manager.staticBuffer.isSome := by
  cases pushWith_ok result with
  | limited refused null => exact ⟨.refused (refused ▸ rfl) rfl, rfl⟩
  | dynamic blocks mode pushed =>
      refine ⟨?_, rfl⟩
      rw [dynamicPush_eq sized] at pushed
      cases memory : heap (fullSize s) with
      | none =>
          rw [memory] at pushed
          cases pushed
          exact .refused rfl ((liveBlocks_dynamic mode).trans (liveBlocks_dynamic mode).symm)
      | some contents =>
          rw [memory] at pushed
          cases pushed
          refine .added (.created 0 s fun i => contents (headSize + i)) rfl rfl rfl rfl ?_
          rw [liveBlocks_dynamic mode]
          exact liveBlocks_dynamic mode
  | static buffer pushedBuffer mode pushed =>
      refine ⟨?_, by simp [mode]⟩
      cases simulates with
      | dynamic mode' =>
          rw [mode] at mode'
          cases mode'
      | static buffer' regions free mode' arranged =>
          cases mode.symm.trans mode'
          exact livePushed_static arranged sized (arranged.liveBlocks mode) rfl pushed
      | idle buffer' mode' idle =>
          cases mode.symm.trans mode'
          have before := idle.liveBlocks mode
          rcases idle with ⟨fresh, -⟩ | ⟨-, short⟩
          · rw [fresh.pushSide_eq] at pushed
            exact livePushed_static fresh.emptyInit sized before rfl pushed
          · rw [idle_push_faults short] at pushed
            cases pushed

/-- A pop that exhausts the chunk at its side takes its block away. -/
theorem Simulates.liveBlocks_pop {chunk : Chunk} {chunks : List Chunk}
    (simulates : Simulates mapped (side.put chunk chunks)) (exhausts : chunk.exhausted s = true) :
    ∃ block,
      mapped.manager.liveBlocks = side.put block (mapped.manager.popSide s true side).2.liveBlocks ∧
      (mapped.manager.popSide s true side).2.staticBuffer.isSome =
        mapped.manager.staticBuffer.isSome := by
  generalize whole : side.put chunk chunks = deque at simulates
  cases simulates with
  | dynamic mode shown space counts =>
      rcases side.nil_or_put mapped.manager.dynamicBuffer with held | ⟨block, kept, held⟩
      · rw [held, List.forall₂_nil_left_iff] at shown
        exact absurd (whole.trans shown) Side.put_ne_nil
      · rw [held, ← whole, Side.forall₂_put] at shown
        obtain ⟨⟨occupies, shows⟩, -⟩ := shown
        have removed : removes block s true = true := by
          rw [shows.removes occupies, exhausts, Bool.and_true]
        rw [dynamic_popSide mode held occupies, if_pos removed, liveBlocks_dynamic mode]
        refine ⟨block, ?_, rfl⟩
        rw [liveBlocks_dynamic]
        · exact held
        · exact mode
  | static buffer regions free mode arranged shown word counts =>
      rcases side.nil_or_put regions with rfl | ⟨region, rest, rfl⟩
      · rw [List.forall₂_nil_left_iff] at shown
        exact absurd (whole.trans shown) Side.put_ne_nil
      · rw [← whole, Side.forall₂_put] at shown
        have occupies := arranged.occupied region (Side.mem_put.mpr (.inl rfl))
        have live : ¬buffer.empty = true :=
          fun empty => Side.put_ne_nil (arranged.empty_iff.mp empty)
        have removed : removes (buffer.blocks region.start) s true = true := by
          rw [shown.1.shows.removes occupies, exhausts, Bool.and_true]
        obtain ⟨after, popped, ⟨free', arranged'⟩, -, others, -⟩ := arranged.popped s true
        rw [if_pos removed] at arranged'
        refine ⟨buffer.blocks region.start, ?_, by simp [static_popSide mode live, mode]⟩
        have kept : (rest.map fun region => after.blocks region.start) =
            rest.map fun region => buffer.blocks region.start := by
          apply List.map_congr_left
          intro other member
          apply others
          have long := (arranged.occupied other (Side.mem_put.mpr (.inr member))).length_pos
          exact ((arranged.apart_side member).start_ne occupies.length_pos long).symm
        rw [static_popSide mode live, popped, arranged.liveBlocks mode, Side.map_put]
        rw [arranged'.liveBlocks rfl, kept]
  | idle buffer mode idle none counts => exact absurd (whole.trans none) Side.put_ne_nil

/-- A write leaves the live blocks where they are. -/
theorem liveBlocks_write (mapped : MappedManager) (i offset : Nat) (bytes : List UInt8) :
    (mapped.write i offset bytes).manager.liveBlocks.map BufferBlock.data =
      mapped.manager.liveBlocks.map BufferBlock.data ∧
      (mapped.write i offset bytes).manager.staticBuffer = mapped.manager.staticBuffer := by
  cases mode : mapped.manager.staticBuffer with
  | none =>
      have written : (mapped.write i offset bytes).manager.staticBuffer = none := by
        simp only [MappedManager.write, mode]
      refine ⟨?_, written⟩
      rw [liveBlocks_dynamic mode, liveBlocks_dynamic written]
      simp only [MappedManager.write, mode]
      apply map_modify_eq
      intro block
      rfl
  | some buffer => simp only [MappedManager.write, mode, BufferManager.liveBlocks, and_self]

end

/-! ### The bytes of the live blocks -/

/-- The chunk of a block, with all of its bytes written. -/
def BufferBlock.chunk (block : BufferBlock) (byte : Nat → UInt8) : Chunk :=
  { size := block.rawSize
    consumed := block.used
    written := fun k => if k < block.rawSize then some (byte k) else none }

/-- The chunks of the live blocks. -/
def MappedManager.chunks (mapped : MappedManager) : List Chunk :=
  mapped.manager.liveBlocks.map fun block => block.chunk (mapped.byteAt block)

/-- Two blocks of two managers, of one size, consumed alike and with the same bytes. -/
structure SameBlock (before after : MappedManager) (block other : BufferBlock) : Prop where
  rawSize : other.rawSize = block.rawSize
  used : other.used = block.used
  bytes : ∀ k < block.rawSize, after.byteAt other k = before.byteAt block k

section

variable {mapped after : MappedManager} {deque : List Chunk} {block : BufferBlock}
  {byte byte' : Nat → UInt8}

theorem shows_chunk (same : ∀ k < block.rawSize, byte' k = byte k) :
    Shows block byte' (block.chunk byte) := by
  refine ⟨rfl, rfl, fun k value written => ?_⟩
  simp only [BufferBlock.chunk] at written
  split at written
  case isTrue below => exact ⟨below, (same k below).trans (Option.some.inj written)⟩
  case isFalse => cases written

/-- Which bytes were written makes no difference for the counters. -/
theorem Simulates.counts_chunks (simulates : Simulates mapped deque) :
    Counts mapped.manager.limit mapped.chunks := by
  have blocks := simulates.liveBlocks
  have counts := simulates.counts
  refine ⟨?_, ?_⟩
  · rw [counts.number, MappedManager.chunks, List.length_map, blocks.length_eq]
  · have left : (mapped.manager.liveBlocks.map fun block => block.rawSize - block.used) =
        deque.map Chunk.remaining := by
      apply forall₂_map_eq blocks
      rintro block - chunk ⟨shows, -⟩
      rw [shows.size, shows.consumed, Chunk.remaining]
    rw [counts.size, load, load, MappedManager.chunks, List.map_map, ← left]
    rfl

/-- A manager holds the chunks of its live blocks. -/
theorem Simulates.chunks (simulates : Simulates mapped deque) : Simulates mapped mapped.chunks := by
  have counts := simulates.counts_chunks
  unfold MappedManager.chunks at counts ⊢
  cases simulates with
  | dynamic mode shown space =>
      rw [liveBlocks_dynamic mode] at counts ⊢
      have held : List.Forall₂ ShowsDynamic mapped.manager.dynamicBuffer
          (mapped.manager.dynamicBuffer.map fun block => block.chunk (mapped.byteAt block)) := by
        apply forall₂_map_self shown
        rintro block - chunk ⟨occupies, -⟩
        refine ⟨occupies, shows_chunk fun k _ => ?_⟩
        simp only [MappedManager.byteAt, mode]
      refine .dynamic mode held ?_ counts
      rw [extent_dynamic held, ← extent_dynamic shown]
      exact space
  | static buffer regions free mode arranged shown word =>
      rw [arranged.liveBlocks mode, List.map_map] at counts ⊢
      refine .static buffer regions free mode arranged ?_ word counts
      apply forall₂_map_self shown
      intro region member chunk shows
      have occupies := arranged.occupied region member
      refine ⟨shows_chunk fun k _ => ?_, shows.header⟩
      simp only [MappedManager.byteAt, mode, occupies.pointer]
  | idle buffer mode idle none =>
      rw [idle.liveBlocks mode] at counts ⊢
      exact .idle buffer mode idle rfl counts

/-- What holds the chunks of the live blocks of another manager has the same blocks. -/
theorem Simulates.sameBlocks (simulates : Simulates after mapped.chunks) :
    List.Forall₂ (SameBlock mapped after) mapped.manager.liveBlocks after.manager.liveBlocks := by
  have blocks := simulates.liveBlocks
  rw [MappedManager.chunks, List.forall₂_map_right_iff] at blocks
  apply blocks.flip.imp
  rintro block other ⟨shows, -⟩
  refine ⟨shows.size, shows.consumed, fun k below => ?_⟩
  exact (shows.bytes k _ (if_pos below)).2

end

end LibAtbus.Detail
