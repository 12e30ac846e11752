/-
Module: LibAtbus.Proofs.BufferSimulation
Layer: Proofs
Purpose: A manager holds the chunks of a deque: in blocks of their own, in the regions of a static
  buffer, or there are none yet. Every push, pop and write keeps that, for the deque that it leaves;
  there is one lemma for each, in both modes and at both sides.
Trusted boundary: none
Main exports: Simulates, Simulates.push, Simulates.pushPoints, Simulates.pop, Simulates.write
-/
import LibAtbus.Proofs.BufferChunks

namespace LibAtbus.Detail

open Word64 ByteMemory RingIndex CircularLayout ByteDeque

/-! ### The invariant of a run -/

/-- A static buffer without blocks that no push has changed yet; without entries in its circle none
    ever will. -/
def Idle (buffer : StaticBuffer) : Prop :=
  (Fresh buffer ∧ buffer.size < 2 ^ 64) ∨
    (buffer.head = buffer.tail ∧ buffer.circleIndex.length < 2)

/-- A block of its own `malloc` is a chunk. -/
def ShowsDynamic (block : BufferBlock) (chunk : Chunk) : Prop :=
  Occupies block ⟨0, fullSize block.rawSize⟩ ∧ Shows block block.store chunk

/-- The manager holds the chunks of a deque: in blocks of their own, in the regions of a static
    buffer, or there are none. -/
inductive Simulates (mapped : MappedManager) (deque : List Chunk) : Prop where
  | dynamic (mode : mapped.manager.staticBuffer = none)
      (blocks : List.Forall₂ ShowsDynamic mapped.manager.dynamicBuffer deque)
      (space : extent deque ≤ 2 ^ 64) (counts : Counts mapped.manager.limit deque)
  | static (buffer : StaticBuffer) (regions : List Region) (free : Nat)
      (mode : mapped.manager.staticBuffer = some buffer) (arranged : Arranged buffer regions free)
      (blocks : List.Forall₂ (Shown buffer mapped.bytes) regions deque)
      (word : buffer.size < 2 ^ 64) (counts : Counts mapped.manager.limit deque)
  | idle (buffer : StaticBuffer) (mode : mapped.manager.staticBuffer = some buffer)
      (idle : Idle buffer) (none : deque = []) (counts : Counts mapped.manager.limit deque)

section

variable {mapped : MappedManager} {deque : List Chunk} {side : Side} {s : Nat}
  {freeUnwritable : Bool} {heap : Heap} {after : BufferManager} {res : ErrorType}
  {pointer : Option Nat} {buffer : StaticBuffer} {regions : List Region} {free : Nat}
  {bytes : Memory} {blocks : List BufferBlock}

theorem Idle.empty (idle : Idle buffer) : buffer.empty = true := by
  rcases idle with ⟨fresh, -⟩ | ⟨same, -⟩
  · exact fresh.empty
  · exact decide_eq_true same

theorem Idle.count (idle : Idle buffer) : buffer.count = 0 := by
  have same : buffer.head = buffer.tail := of_decide_eq_true idle.empty
  rw [StaticBuffer.count, RingIndex.dist, same, Nat.add_sub_cancel_left, Nat.mod_self]

/-- The chunks of blocks with their own `malloc` take what was allocated for the blocks. -/
theorem extent_dynamic (shown : List.Forall₂ ShowsDynamic blocks deque) :
    extent deque = (blocks.map fun block => fullSize block.rawSize).sum := by
  have sizes : (blocks.map fun block => fullSize block.rawSize) = deque.map fun chunk =>
    fullSize chunk.size :=
    forall₂_map_eq shown fun block _ chunk shows => congrArg fullSize shows.2.size
  rw [extent, sizes]

theorem sized_dynamic (shown : List.Forall₂ ShowsDynamic blocks deque) :
    ∀ chunk ∈ deque, Sized chunk.size := by
  intro chunk member
  obtain ⟨block, -, occupies, shows⟩ := forall₂_mem_right shown member
  rw [← shows.size]
  exact occupies.sized

/-- The chunks of a static buffer take no more than there is. -/
theorem extent_static (arranged : Arranged buffer regions free)
    (shown : List.Forall₂ (Shown buffer bytes) regions deque) : extent deque ≤ buffer.size := by
  have lengths : regions.map Region.length = deque.map fun chunk => fullSize chunk.size := by
    refine forall₂_map_eq shown fun region member chunk shows => ?_
    rw [(arranged.occupied region member).length, shows.shows.size]
  rw [extent, ← lengths]
  exact arranged.circular.sum_le

theorem sized_static (arranged : Arranged buffer regions free)
    (shown : List.Forall₂ (Shown buffer bytes) regions deque) :
    ∀ chunk ∈ deque, Sized chunk.size := by
  intro chunk member
  obtain ⟨region, there, shows⟩ := forall₂_mem_right shown member
  rw [← shows.shows.size]
  exact (arranged.occupied region there).sized

/-! ### Pushes -/

/-- A push in dynamic mode. -/
theorem simulates_dynamicPush (mode : mapped.manager.staticBuffer = none)
    (shown : List.Forall₂ ShowsDynamic mapped.manager.dynamicBuffer deque)
    (space : extent deque ≤ 2 ^ 64) (counts : Counts mapped.manager.limit deque) (sized : Sized s)
    (mallocs : mapped.manager.Mallocs heap s)
    (pushed :
      BufferManager.dynamicPush heap s mapped.manager.dynamicBuffer side.put =
        .ok (res, pointer, blocks)) :
    Simulates
      ⟨{ mapped.manager with
          dynamicBuffer := blocks
          limit := if res.failed then mapped.manager.limit else mapped.manager.limit.pushed s },
            bytes⟩
      (if res.failed then deque else side.put (.fresh s) deque) := by
  rw [dynamicPush_eq sized] at pushed
  cases memory : heap (fullSize s) with
  | none =>
      rw [memory] at pushed
      cases pushed
      have failed : ErrorType.malloc.failed = true := rfl
      rw [if_pos failed, if_pos failed]
      exact .dynamic mode shown space counts
  | some contents =>
      rw [memory] at pushed
      cases pushed
      have succeeded : ¬ErrorType.success.failed = true := by decide
      rw [if_neg succeeded, if_neg succeeded]
      have fits : extent (side.put (.fresh s) deque) ≤ 2 ^ 64 := by
        have allocated := mallocs mode (Option.isSome_iff_exists.mpr ⟨contents, memory⟩)
        rw [BufferManager.allocated, ← extent_dynamic shown, Nat.add_comm] at allocated
        rw [extent_put]
        exact allocated
      have new : ShowsDynamic (.created 0 s fun i => contents (headSize + i)) (.fresh s) :=
        ⟨created_occupies sized rfl, shows_created 0⟩
      exact .dynamic mode (Side.forall₂_put.mpr ⟨new, shown⟩) fits
        (counts.pushed (sized_put sized (sized_dynamic shown)) fits)

/-- The bytes after a push in static mode. -/
theorem pushBytes_static {old : StaticBuffer} (mode : mapped.manager.staticBuffer = some old)
    (pointer : Option Nat) :
    mapped.pushBytes s pointer = pointer.elim mapped.bytes fun pointer =>
      createBytes mapped.bytes pointer s := by
  simp only [MappedManager.pushBytes, mode]

/-- A push into an arranged static buffer. -/
theorem simulates_staticPush {pushedBuffer : StaticBuffer} (arranged : Arranged buffer regions free)
    (shown : List.Forall₂ (Shown buffer mapped.bytes) regions deque) (word : buffer.size < 2 ^ 64)
    (counts : Counts mapped.manager.limit deque) (sized : Sized s) {old : StaticBuffer}
    (mode : mapped.manager.staticBuffer = some old)
    (pushed : buffer.pushSide s side = .ok (res, pointer, pushedBuffer)) :
    Simulates
      ⟨{ mapped.manager with
          staticBuffer := some pushedBuffer
          limit := if res.failed then mapped.manager.limit else mapped.manager.limit.pushed s },
        mapped.pushBytes s pointer⟩
      (if res.failed then deque else side.put (.fresh s) deque) := by
  rcases arranged.pushed sized pushed with ⟨rfl, rfl, rfl⟩ | ⟨rfl, start, rfl, put⟩
  · have bytes := pushBytes_static (s := s) mode none
    have failed : ErrorType.buffLimit.failed = true := rfl
    rw [bytes, if_pos failed, if_pos failed, Option.elim_none]
    exact .static _ regions free rfl arranged shown word counts
  · have bytes := pushBytes_static (s := s) mode (some (start + headSize))
    obtain ⟨free', placed⟩ := put.arranged
    obtain ⟨contents, created⟩ := put.block
    have kept : List.Forall₂ (Shown pushedBuffer (createBytes mapped.bytes (start + headSize) s))
        regions deque := by
      refine forall₂_imp_mem shown fun region member chunk shows => ?_
      have apart := placed.apart_side member
      have long := (arranged.occupied region member).length_pos
      refine shows.congr (arranged.occupied region member) (put.others _ ?_) fun a above below => ?_
      · exact (apart.start_ne sized.pos long).symm
      · rw [createBytes_eq start s contents]
        refine outside_own apart (le_refl _) ?_ above below
        have covers := sized.covers
        rw [header_length]
        change start + headSize ≤ start + fullSize s
        omega
    have whole : List.Forall₂ (Shown pushedBuffer (createBytes mapped.bytes (start + headSize) s))
        (side.put ⟨start, fullSize s⟩ regions) (side.put (.fresh s) deque) :=
      Side.forall₂_put.mpr ⟨shown_created start created, kept⟩
    have fits := extent_static placed whole
    rw [put.size] at fits
    have succeeded : ¬ErrorType.success.failed = true := by decide
    rw [bytes, if_neg succeeded, if_neg succeeded, Option.elim_some]
    exact .static _ _ free' rfl placed whole (put.size ▸ word)
      (counts.pushed (sized_static placed whole) (fits.trans word.le))

/-- Without entries in its circle a static buffer takes no push. -/
theorem idle_push_faults (short : buffer.circleIndex.length < 2) :
    buffer.pushSide s side = .error .assertion := by
  have failed : check (2 ≤ buffer.circleIndex.length) = .error .assertion := if_neg (by omega)
  cases side with
  | front =>
      rw [StaticBuffer.pushSide, StaticBuffer.pushFrontChecked, failed]
      rfl
  | back =>
      rw [StaticBuffer.pushSide, StaticBuffer.pushBackChecked, failed]
      rfl

theorem pushBytes_none : mapped.pushBytes s none = mapped.bytes := by
  unfold MappedManager.pushBytes
  split <;> rfl

/-- A push that returns adds a chunk exactly if it succeeded. -/
theorem Simulates.push (simulates : Simulates mapped deque) (side : Side) (sized : Sized s)
    (mallocs : mapped.manager.Mallocs heap s)
    (result : mapped.manager.pushSide heap s side = .ok (res, pointer, after)) :
    Simulates ⟨after, mapped.pushBytes s pointer⟩
      (if res.failed then deque else side.put (.fresh s) deque) := by
  cases pushWith_ok result with
  | limited refused null =>
      have failed : res.failed = true := by
        rw [refused]
        rfl
      rw [if_pos failed, null, pushBytes_none]
      exact simulates
  | dynamic blocks mode pushed =>
      cases simulates with
      | dynamic _ shown space counts =>
          exact simulates_dynamicPush mode shown space counts sized mallocs pushed
      | static buffer regions free mode' =>
          rw [mode] at mode'
          cases mode'
      | idle buffer mode' =>
          rw [mode] at mode'
          cases mode'
  | static buffer pushedBuffer mode pushed =>
      cases simulates with
      | dynamic mode' =>
          rw [mode] at mode'
          cases mode'
      | static buffer' regions free mode' arranged shown word counts =>
          cases mode.symm.trans mode'
          exact simulates_staticPush arranged shown word counts sized mode pushed
      | idle buffer' mode' idle none counts =>
          cases mode.symm.trans mode'
          rcases idle with ⟨fresh, word⟩ | ⟨-, short⟩
          · rw [fresh.pushSide_eq] at pushed
            have word' : buffer.emptyInit.size < 2 ^ 64 := by
              unfold StaticBuffer.emptyInit
              split
              · exact word
              · exact word
            rw [none] at counts ⊢
            exact simulates_staticPush fresh.emptyInit .nil word' counts sized mode pushed
          · rw [idle_push_faults short] at pushed
            cases pushed

/-- A push that succeeds in static mode puts a block somewhere. -/
theorem Simulates.putAt (simulates : Simulates mapped deque)
    (mode : mapped.manager.staticBuffer = some buffer) (sized : Sized s)
    {pushedBuffer : StaticBuffer}
    (pushed : buffer.pushSide s side = .ok (.success, pointer, pushedBuffer)) :
    ∃ before regions start, pointer = some (start + headSize) ∧
      PutAt before pushedBuffer s side regions start := by
  cases simulates with
  | dynamic mode' =>
      rw [mode] at mode'
      cases mode'
  | static buffer' regions free mode' arranged =>
      cases mode.symm.trans mode'
      rcases arranged.pushed sized pushed with ⟨refused, -⟩ | ⟨-, start, found, put⟩
      · cases refused
      · exact ⟨_, _, start, found, put⟩
  | idle buffer' mode' idle =>
      cases mode.symm.trans mode'
      rcases idle with ⟨fresh, -⟩ | ⟨-, short⟩
      · rw [fresh.pushSide_eq] at pushed
        rcases fresh.emptyInit.pushed sized pushed with ⟨refused, -⟩ | ⟨-, start, found, put⟩
        · cases refused
        · exact ⟨_, _, start, found, put⟩
      · rw [idle_push_faults short] at pushed
        cases pushed

/-- A push that succeeds returns the pointer of the block that is then at its side. -/
theorem Simulates.pushPoints (simulates : Simulates mapped deque) (side : Side) (sized : Sized s)
    (result : mapped.manager.pushSide heap s side = .ok (.success, pointer, after)) :
    pointer = (after.side side).map BufferBlock.pointer := by
  cases pushWith_ok result with
  | limited refused => cases refused
  | dynamic blocks mode pushed =>
      rw [dynamicPush_eq sized] at pushed
      cases memory : heap (fullSize s) with
      | none =>
          rw [memory] at pushed
          cases pushed
      | some contents =>
          rw [memory] at pushed
          cases pushed
          rw [dynamic_side, Side.peek?_put]
          · rfl
          · exact mode
  | static buffer pushedBuffer mode pushed =>
      obtain ⟨before, regions, start, found, put⟩ := simulates.putAt mode sized pushed
      obtain ⟨free, arranged⟩ := put.arranged
      obtain ⟨contents, created⟩ := put.block
      have live : ¬pushedBuffer.empty = true :=
        fun empty => Side.put_ne_nil (arranged.empty_iff.mp empty)
      rw [static_side rfl, if_neg live, StaticBuffer.blockAt, arranged.entry_side, Option.getD_some]
      rw [created]
      exact found

/-! ### Pops -/

/-- What a pop writes to the bytes. -/
theorem popBytes_eq {index : Nat} {region : Region}
    (stored : buffer.entry index = some region.start)
    (occupies : Occupies (buffer.blocks region.start) region) :
    buffer.popBytes bytes index s freeUnwritable =
      if removes (buffer.blocks region.start) s freeUnwritable then
        writeBytes
          (writeBytes bytes (region.start + 8)
            (toLE 8 ((buffer.blocks region.start).consume s).used))
          region.start (List.replicate region.length 0x5e)
      else writeBytes bytes (region.start + 8)
        (toLE 8 ((buffer.blocks region.start).consume s).used) := by
  have block : buffer.blockAt index = buffer.blocks region.start := by
    rw [StaticBuffer.blockAt, stored, Option.getD_some]
  have length : region.length = fullSize ((buffer.blocks region.start).consume s).rawSize :=
    occupies.length
  simp only [StaticBuffer.popBytes, block, stored, Option.getD_some, occupies.least_eq,
    occupies.pop_eq, length]
  rfl

/-- It stays in the region of the block. -/
theorem popBytes_other {index : Nat} {region other : Region}
    (stored : buffer.entry index = some region.start)
    (occupies : Occupies (buffer.blocks region.start) region) (apart : region.Apart other) {a : Nat}
    (above : other.start ≤ a) (below : a < other.stop) :
    buffer.popBytes bytes index s freeUnwritable a = bytes a := by
  have covers := occupies.sized.covers
  rw [← occupies.length, headSize_eq] at covers
  have marked :
      writeBytes bytes (region.start + 8) (toLE 8 ((buffer.blocks region.start).consume s).used) a =
      bytes a := by
    refine outside_own apart (Nat.le_add_right _ _) ?_ above below
    rw [toLE_length, Region.stop]
    omega
  rw [popBytes_eq stored occupies]
  split
  · rw [outside_own apart (le_refl _) ?_ above below]
    · exact marked
    · rw [List.length_replicate, Region.stop]
  · exact marked

/-- Related lists are both empty or both not. -/
theorem empty_eq (arranged : Arranged buffer regions free)
    (shown : List.Forall₂ (Shown buffer bytes) regions deque) : buffer.empty = deque.isEmpty := by
  rw [Bool.eq_iff_iff, arranged.empty_iff, List.isEmpty_iff]
  constructor
  · rintro rfl
    exact List.forall₂_nil_left_iff.mp shown
  · rintro rfl
    exact List.forall₂_nil_right_iff.mp shown

/-- A pop of an arranged static buffer. -/
theorem simulates_staticPop {region : Region} {rest : List Region} {chunk : Chunk}
    {chunks : List Chunk} (mode : mapped.manager.staticBuffer = some buffer)
    (arranged : Arranged buffer (side.put region rest) free)
    (first : Shown buffer mapped.bytes region chunk)
    (shown : List.Forall₂ (Shown buffer mapped.bytes) rest chunks) (word : buffer.size < 2 ^ 64)
    (counts : Counts mapped.manager.limit (side.put chunk chunks)) :
    Simulates
      ⟨(mapped.manager.popSide s freeUnwritable side).2,
        buffer.popBytes mapped.bytes (buffer.sideIndex side) s freeUnwritable⟩
      (pop side s freeUnwritable (side.put chunk chunks)) := by
  have stored := arranged.entry_side
  have occupies := arranged.occupied region (Side.mem_put.mpr (.inl rfl))
  have live : ¬buffer.empty = true := fun empty => Side.put_ne_nil (arranged.empty_iff.mp empty)
  have removes := first.shows.removes occupies s freeUnwritable
  have taken := first.shows.taken (s := s)
  obtain ⟨after, popped, ⟨free', arranged'⟩, consumed, others, size⟩ :=
    arranged.popped s freeUnwritable
  have kept :
      List.Forall₂
      (Shown after (buffer.popBytes mapped.bytes (buffer.sideIndex side) s freeUnwritable)) rest
      chunks := by
    refine forall₂_imp_mem shown fun other member chunk shows => ?_
    have apart := arranged.apart_side member
    have occupied := arranged.occupied other (Side.mem_put.mpr (.inr member))
    have ne := apart.start_ne occupies.length_pos occupied.length_pos
    exact shows.congr occupied (others _ ne.symm) fun a above below =>
      popBytes_other stored occupies apart above below
  have whole :
      List.Forall₂
      (Shown after (buffer.popBytes mapped.bytes (buffer.sideIndex side) s freeUnwritable))
      (if Detail.removes (buffer.blocks region.start) s freeUnwritable then rest
        else side.put region rest)
      (pop side s freeUnwritable (side.put chunk chunks)) := by
    rw [pop_put, ← removes]
    split
    · exact kept
    · rename_i stays
      refine Side.forall₂_put.mpr ⟨?_, kept⟩
      rw [popBytes_eq stored occupies, if_neg stays]
      exact first.consume consumed
  have counts' := counts.popped (popped_put s freeUnwritable)
  rw [← taken, ← removes, ← empty_eq arranged' whole] at counts'
  rw [static_popSide mode live, popped]
  exact .static after _ free' rfl arranged' whole (size ▸ word) counts'

/-- A pop of blocks with their own `malloc`. -/
theorem simulates_dynamicPop {block : BufferBlock} {kept : List BufferBlock} {chunk : Chunk}
    {chunks : List Chunk} (mode : mapped.manager.staticBuffer = none)
    (held : mapped.manager.dynamicBuffer = side.put block kept) (first : ShowsDynamic block chunk)
    (shown : List.Forall₂ ShowsDynamic kept chunks)
    (space : extent (side.put chunk chunks) ≤ 2 ^ 64)
    (counts : Counts mapped.manager.limit (side.put chunk chunks)) :
    Simulates ⟨(mapped.manager.popSide s freeUnwritable side).2, bytes⟩
      (pop side s freeUnwritable (side.put chunk chunks)) := by
  obtain ⟨occupies, shows⟩ := first
  have removes := shows.removes occupies s freeUnwritable
  have whole : List.Forall₂ ShowsDynamic
      (if Detail.removes block s freeUnwritable then kept else side.put (block.consume s) kept)
      (pop side s freeUnwritable (side.put chunk chunks)) := by
    rw [pop_put, ← removes]
    split
    · exact shown
    · exact Side.forall₂_put.mpr ⟨⟨occupies.consume s, shows.consume s⟩, shown⟩
  have empty :
      (if Detail.removes block s freeUnwritable then kept else side.put
        (block.consume s) kept).isEmpty =
      (pop side s freeUnwritable (side.put chunk chunks)).isEmpty := by
    have length := whole.length_eq
    rw [Bool.eq_iff_iff, List.isEmpty_iff_length_eq_zero, List.isEmpty_iff_length_eq_zero, length]
  have counts' := counts.popped (popped_put s freeUnwritable)
  rw [← shows.taken, ← removes, ← empty] at counts'
  rw [dynamic_popSide mode held occupies]
  exact .dynamic mode whole (extent_pop.trans space) counts'

/-- A pop consumes of the chunk at its side, and reports if there is none. -/
theorem Simulates.pop (simulates : Simulates mapped deque) (side : Side) (s : Nat)
    (freeUnwritable : Bool) :
    (mapped.manager.popSide s freeUnwritable side).1 =
      (if deque.isEmpty then .noData else .success) ∧
      Simulates
        ⟨(mapped.manager.popSide s freeUnwritable side).2,
          mapped.popBytes (fun buffer => buffer.sideIndex side) s freeUnwritable⟩
        (ByteDeque.pop side s freeUnwritable deque) := by
  cases simulates with
  | dynamic mode shown space counts =>
      rcases side.nil_or_put mapped.manager.dynamicBuffer with held | ⟨block, kept, held⟩
      · rw [held] at shown
        obtain rfl := List.forall₂_nil_left_iff.mp shown
        rw [dynamic_popSide_nil mode held, pop_nil]
        exact ⟨rfl, .dynamic mode (held ▸ shown) space counts⟩
      · rw [held] at shown
        obtain ⟨chunk, chunks, rfl, first, rest⟩ := Side.forall₂_put_left shown
        refine ⟨?_, simulates_dynamicPop mode held first rest space counts⟩
        rw [dynamic_popSide mode held first.1, List.isEmpty_eq_false_iff.mpr Side.put_ne_nil]
        rfl
  | static buffer regions free mode arranged shown word counts =>
      rcases side.nil_or_put regions with rfl | ⟨region, rest, rfl⟩
      · obtain rfl := List.forall₂_nil_left_iff.mp shown
        have empty := arranged.empty_iff.mpr rfl
        have bytes : mapped.popBytes (fun buffer => buffer.sideIndex side) s freeUnwritable =
            mapped.bytes := by
          simp only [MappedManager.popBytes, mode, if_pos empty]
        rw [static_popSide_empty mode empty, pop_nil, bytes]
        exact ⟨rfl, .static buffer [] free mode arranged shown word counts⟩
      · obtain ⟨chunk, chunks, rfl, first, others⟩ := Side.forall₂_put_left shown
        have live : ¬buffer.empty = true :=
          fun empty => Side.put_ne_nil (arranged.empty_iff.mp empty)
        have bytes : mapped.popBytes (fun buffer => buffer.sideIndex side) s freeUnwritable =
            buffer.popBytes mapped.bytes (buffer.sideIndex side) s freeUnwritable := by
          simp only [MappedManager.popBytes, mode, if_neg live]
        rw [bytes]
        refine ⟨?_, simulates_staticPop mode arranged first others word counts⟩
        rw [static_popSide mode live, List.isEmpty_eq_false_iff.mpr Side.put_ne_nil]
        rfl
  | idle buffer mode idle none counts =>
      have empty := idle.empty
      have bytes : mapped.popBytes (fun buffer => buffer.sideIndex side) s freeUnwritable =
          mapped.bytes := by
        simp only [MappedManager.popBytes, mode, if_pos empty]
      rw [static_popSide_empty mode empty, none, pop_nil, bytes]
      exact ⟨rfl, .idle buffer mode idle rfl (none ▸ counts)⟩

/-! ### Writes -/

/-- A write to the block at a place is a write to the chunk at that place. -/
theorem Simulates.write (simulates : Simulates mapped deque) {i offset : Nat} {written : List UInt8}
    {block : BufferBlock} (live : mapped.manager.block? i = some block)
    (inside : offset + written.length ≤ block.rawSize) :
    Simulates (mapped.write i offset written)
      (deque.modify i fun chunk => chunk.write offset written) := by
  cases simulates with
  | dynamic mode shown space counts =>
      have found : mapped.manager.dynamicBuffer[i]? = some block := by
        simpa only [BufferManager.block?, mode] using live
      simp only [MappedManager.write, mode]
      refine .dynamic rfl ?_ ?_ (counts.write i offset written)
      · refine forall₂_modify shown (fun other chunk there shows => ?_) fun _ _ _ _ _ shows => shows
        obtain rfl : block = other := Option.some.inj (found.symm.trans there)
        obtain ⟨occupies, shows⟩ := shows
        refine ⟨⟨occupies.sized, occupies.length, occupies.words, occupies.pointer, occupies.used⟩,
          ?_⟩
        have write := shows.write inside fun _ => writeBytes_eq
        exact ⟨write.size, write.consumed, write.bytes⟩
      · rw [extent, map_modify_eq (g := fun chunk : Chunk => chunk.write offset written) fun _ =>
          rfl]
        exact space
  | static buffer regions free mode arranged shown word counts =>
      have below : i < regions.length := by
        rw [← arranged.count_eq]
        by_contra outside
        simp only [BufferManager.block?, mode, if_neg outside] at live
        cases live
      have member : regions[i] ∈ regions := List.getElem_mem below
      have occupies := arranged.occupied _ member
      have stored : buffer.entry (buffer.liveIndex i) = some regions[i].start :=
        arranged.entry_live below
      have here : buffer.blockAt (buffer.liveIndex i) = buffer.blocks regions[i].start := by
        rw [StaticBuffer.blockAt, stored, Option.getD_some]
      have same : block = buffer.blocks regions[i].start := by
        simp only [BufferManager.block?, mode, arranged.count_eq, if_pos below, here] at live
        exact (Option.some.inj live).symm
      rw [same] at inside
      simp only [MappedManager.write, mode, here, occupies.pointer]
      refine .static buffer regions free mode arranged ?_ word (counts.write i offset written)
      have changed :
          List.Forall₂
          (Shown buffer (writeBytes mapped.bytes (regions[i].start + headSize + offset) written))
          (regions.modify i id) (deque.modify i fun chunk => chunk.write offset written) := by
        refine forall₂_modify shown (fun region chunk there shows => ?_)
          fun j region chunk other there shows => ?_
        · obtain ⟨_, rfl⟩ := List.getElem?_eq_some_iff.mp there
          exact shows.write inside
        · obtain ⟨inRegions, rfl⟩ := List.getElem?_eq_some_iff.mp there
          have apart : regions[i].Apart regions[j] := by
            have each :=
              arranged.wellLaid.apart i (arranged.count_eq ▸ below) j
                (arranged.count_eq ▸ inRegions) other
            rwa [arranged.region_eq below, arranged.region_eq inRegions] at each
          refine shows.congr (arranged.occupied _ (List.getElem_mem inRegions)) rfl
            fun a above beneath => ?_
          refine outside_own apart ?_ ?_ above beneath
          · exact (Nat.le_add_right _ _).trans (Nat.le_add_right _ _)
          · have covers := occupies.sized.covers
            rw [← occupies.length] at covers
            rw [Region.stop]
            omega
      rwa [List.modify_id] at changed
  | idle buffer mode idle none counts =>
      have noBlock : ¬i < buffer.count := by
        rw [idle.count]
        exact Nat.not_lt_zero i
      simp only [BufferManager.block?, mode, if_neg noBlock] at live
      cases live

end

end LibAtbus.Detail
