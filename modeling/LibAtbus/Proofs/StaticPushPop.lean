/-
Module: LibAtbus.Proofs.StaticPushPop
Layer: Proofs
Purpose: The pushes and pops of a static buffer that is arranged. A push does what its layout says:
  it puts a block to the place that the regions leave for it, or is refused. A pop consumes of a
  block and may remove its region. Each of the four has an equation that says what it does, and
  lemmas about what becomes of the regions and the blocks.
Trusted boundary: none
Main exports: Arranged.pushBackChecked_eq, Arranged.pushFrontChecked_eq, Arranged.putBack,
  Arranged.putFront, Arranged.popBack_eq, Arranged.popFront_eq, Arranged.dropBack,
  Arranged.dropFront, Fresh.push_eq, setMode_fresh
-/
import LibAtbus.Proofs.StaticArrangement

namespace LibAtbus.Detail

open Word64 ByteMemory RingIndex CircularLayout

section

variable {buffer : StaticBuffer} {regions rest : List Region} {first last : Region}
  {free start : Nat} {block : BufferBlock}

/-! ### Pushes -/

variable {s : Nat}

/-- What a push answers that does not put a block anywhere. -/
def StaticBuffer.refused (buffer : StaticBuffer) : Pushed StaticBuffer := (.buffLimit, none, buffer)

/-- A block of `s` bytes put to the tail at an address. -/
def StaticBuffer.putBack (buffer : StaticBuffer) (s start : Nat) : StaticBuffer :=
  (buffer.assign buffer.tail (some start)).addTail (.created start s (buffer.blocks start).store)
    (start + fullSize s)

/-- A block of `s` bytes put before the head at an address. -/
def StaticBuffer.putFront (buffer : StaticBuffer) (s start : Nat) : StaticBuffer :=
  (buffer.subHead (.created start s (buffer.blocks start).store) start).2.2

/-- The pointer that a push returns is behind the header of the new block. -/
theorem Arranged.addTailChecked_eq (arranged : Arranged buffer regions free) :
    (buffer.assign buffer.tail (some start)).addTailChecked
      (.created start s (buffer.blocks start).store)
      (start + fullSize s) = (.success, some (start + headSize), buffer.putBack s start) := by
  have stored : (buffer.assign buffer.tail (some start)).entry buffer.tail = some start :=
    StaticBuffer.entry_assign_self arranged.tail_lt
  have placed : ((buffer.assign buffer.tail (some start)).setBlock buffer.tail
      (.created start s (buffer.blocks start).store)).blockAt buffer.tail =
        .created start s (buffer.blocks start).store := by
    rw [StaticBuffer.blockAt]
    change ((buffer.assign buffer.tail (some start)).setBlock buffer.tail _).blocks
      (((buffer.assign buffer.tail (some start)).entry buffer.tail).getD 0) = _
    rw [stored]
    exact StaticBuffer.blocks_setBlock_self stored
  rw [StaticBuffer.addTailChecked]
  change (_,
    some (((buffer.assign buffer.tail (some start)).setBlock buffer.tail _).blockAt
      buffer.tail).data, _) = _
  rw [placed]
  rfl

/-- What `static_push_back` does between two calls. -/
theorem Arranged.pushBackChecked_eq (arranged : Arranged buffer regions free) (sized : Sized s) :
    buffer.pushBackChecked s = .ok
      (if regions.length + 1 = buffer.circleIndex.length then buffer.refused
      else (backPlace buffer.size free regions (fullSize s)).elim buffer.refused fun start =>
        (.success, some (start + headSize), buffer.putBack s start)) := by
  have atFree : buffer.assign buffer.tail (some free) = buffer :=
    StaticBuffer.assign_same arranged.entry_tail
  have within : free ≤ buffer.size := arranged.circular.free_le
  simp only [StaticBuffer.pushBackChecked, check_ok arranged.circle, ok_bind, arranged.full_iff,
    arranged.emptyInit, arranged.headAddress, arranged.entry_tail, Option.getD_some]
  by_cases full : regions.length + 1 = buffer.circleIndex.length
  · rw [if_pos full, if_pos full]
    rfl
  rw [if_neg full, if_neg full, backPlace]
  by_cases front : frontStart free regions ≤ free
  · rw [if_pos front, if_pos front, StaticBuffer.bufferOffset_of_le within]
    by_cases fits : free + fullSize s ≤ buffer.size
    · have enough : fullSize s ≤ buffer.size - free := by omega
      rw [if_pos fits, if_pos enough, createChecked_eq sized enough, ok_bind]
      simp only [check_ok fits, ok_bind]
      rw [Option.elim_some, ← arranged.addTailChecked_eq, atFree]
      rfl
    · have short : ¬fullSize s ≤ buffer.size - free := by omega
      rw [if_neg fits, if_neg short, StaticBuffer.bufferOffset_of_le (Nat.zero_le _), Nat.sub_zero]
      by_cases gap : fullSize s < frontStart free regions
      · have behind : 0 + fullSize s ≤ frontStart free regions := by omega
        rw [if_pos gap, if_neg (Nat.not_le.mpr gap), createChecked_eq sized gap.le, ok_bind]
        simp only [check_ok behind, ok_bind]
        rw [Option.elim_some, ← arranged.addTailChecked_eq]
        rfl
      · rw [if_neg gap, if_pos (Nat.not_lt.mp gap)]
        rfl
  · have behind : free ≤ frontStart free regions := by omega
    rw [if_neg front, if_neg front, StaticBuffer.bufferOffset_of_le behind]
    by_cases gap : free + fullSize s < frontStart free regions
    · have enough : ¬frontStart free regions - free ≤ fullSize s := by omega
      have room : fullSize s ≤ frontStart free regions - free := by omega
      rw [if_pos gap, if_neg enough, createChecked_eq sized room, ok_bind]
      simp only [check_ok gap.le, ok_bind]
      rw [Option.elim_some, ← arranged.addTailChecked_eq, atFree]
      rfl
    · have short : frontStart free regions - free ≤ fullSize s := by omega
      rw [if_neg gap, if_pos short]
      rfl

/-- The pointer that `static_push_front` returns. -/
theorem Arranged.subHead_eq (arranged : Arranged buffer regions free) :
    buffer.subHead (.created start s (buffer.blocks start).store) start =
      (.success, some (start + headSize), buffer.putFront s start) := by
  let moved : StaticBuffer := { buffer with head := buffer.prev buffer.head }
  have below : moved.head < moved.circleIndex.length := by
    have circle := arranged.circle
    exact Nat.mod_lt _ (by omega)
  have stored : (moved.assign moved.head (some start)).entry moved.head = some start :=
    StaticBuffer.entry_assign_self below
  have placed : ((moved.assign moved.head (some start)).setBlock moved.head
      (.created start s (buffer.blocks start).store)).blockAt moved.head =
        .created start s (buffer.blocks start).store := by
    change ((moved.assign moved.head (some start)).setBlock moved.head _).blocks
      (((moved.assign moved.head (some start)).entry moved.head).getD 0) = _
    rw [stored]
    exact StaticBuffer.blocks_setBlock_self stored
  change (_,
    some (((moved.assign moved.head (some start)).setBlock moved.head _).blockAt moved.head).data,
    _) = _
  rw [placed]
  rfl

/-- What `static_push_front` does between two calls. -/
theorem Arranged.pushFrontChecked_eq (arranged : Arranged buffer regions free) (sized : Sized s) :
    buffer.pushFrontChecked s = .ok
      (if regions.length + 1 = buffer.circleIndex.length then buffer.refused
      else (frontPlace buffer.size free regions (fullSize s)).elim buffer.refused fun start =>
        (.success, some (start + headSize), buffer.putFront s start)) := by
  have within : free ≤ buffer.size := arranged.circular.free_le
  simp only [StaticBuffer.pushFrontChecked, check_ok arranged.circle, ok_bind, arranged.full_iff,
    arranged.emptyInit, arranged.headAddress, arranged.entry_tail, Option.getD_some]
  by_cases full : regions.length + 1 = buffer.circleIndex.length
  · rw [if_pos full, if_pos full]
    rfl
  rw [if_neg full, if_neg full, frontPlace]
  by_cases front : frontStart free regions ≤ free
  · rw [if_pos front, if_pos front, StaticBuffer.bufferOffset_zero]
    by_cases fits : fullSize s ≤ frontStart free regions
    · have ends : frontStart free regions = frontStart free regions - fullSize s + fullSize s :=
        (Nat.sub_add_cancel fits).symm
      rw [if_pos fits, if_pos fits, createChecked_eq sized (le_refl _), ok_bind]
      simp only [check_ok ends, ok_bind]
      rw [Option.elim_some, ← arranged.subHead_eq]
      rfl
    · rw [if_neg fits, if_neg fits, StaticBuffer.bufferOffset_of_le within]
      by_cases gap : free + fullSize s < buffer.size
      · have enough : ¬buffer.size - free ≤ fullSize s := by omega
        have start : free + (buffer.size - free - fullSize s) = buffer.size - fullSize s := by omega
        have ends : buffer.size - fullSize s + fullSize s = buffer.size := by omega
        rw [if_pos gap, if_neg enough, start, createChecked_eq sized (le_refl _), ok_bind]
        simp only [check_ok ends, ok_bind]
        rw [Option.elim_some, ← arranged.subHead_eq]
        rfl
      · have short : buffer.size - free ≤ fullSize s := by omega
        rw [if_neg gap, if_pos short]
        rfl
  · have behind : free ≤ frontStart free regions := by omega
    rw [if_neg front, if_neg front, StaticBuffer.bufferOffset_of_le behind]
    by_cases gap : free + fullSize s < frontStart free regions
    · have enough : ¬frontStart free regions - free ≤ fullSize s := by omega
      have start : free + (frontStart free regions - free - fullSize s) = frontStart free regions -
          fullSize s := by
        omega
      have ends : frontStart free regions - fullSize s + fullSize s = frontStart free regions := by
        omega
      rw [if_pos gap, if_neg enough, start, createChecked_eq sized (le_refl _), ok_bind]
      simp only [check_ok ends, ok_bind]
      rw [Option.elim_some, ← arranged.subHead_eq]
      rfl
    · have short : frontStart free regions - free ≤ fullSize s := by omega
      rw [if_neg gap, if_pos short]
      rfl

/-- A push to the back that finds a place. -/
theorem Arranged.putBack (arranged : Arranged buffer regions free) (sized : Sized s)
    (room : regions.length + 1 ≠ buffer.circleIndex.length)
    (place : backPlace buffer.size free regions (fullSize s) = some start) :
    Arranged (buffer.putBack s start) (regions ++ [⟨start, fullSize s⟩]) (start + fullSize s) := by
  have words : start % 8 = 0 := by
    rcases backPlace_start place with rfl | rfl
    · exact arranged.freeWords
    · rfl
  have behind : (start + fullSize s) % 8 = 0 := by
    have full := sized.words
    omega
  have circular := arranged.circular.placeBack (fun none => (arranged.reset none).2) place
  exact arranged.addTail room (created_occupies sized words) circular behind

/-- A push to the front that finds a place. -/
theorem Arranged.putFront (arranged : Arranged buffer regions free) (sized : Sized s)
    (room : regions.length + 1 ≠ buffer.circleIndex.length)
    (place : frontPlace buffer.size free regions (fullSize s) = some start) :
    Arranged (buffer.putFront s start) (⟨start, fullSize s⟩ :: regions) free := by
  have full := sized.words
  have front : frontStart free regions % 8 = 0 := by
    cases regions with
    | nil => exact arranged.freeWords
    | cons first rest => exact (arranged.occupied first List.mem_cons_self).words
  have size := arranged.sizeWords
  have words : start % 8 = 0 := by
    rcases frontPlace_start place with ⟨fits, rfl⟩ | ⟨fits, rfl⟩
    · omega
    · omega
  have circular :=
    arranged.circular.placeFront (fun none => (arranged.reset none).2) sized.pos place
  have occupies : Occupies (.created start s (buffer.blocks start).store) ⟨start, fullSize s⟩ :=
    created_occupies sized words
  have put := arranged.subHead room occupies circular
  exact put

theorem Placed.putBack_blocks {starts : List Nat} (placed : Placed buffer starts free)
    (s start : Nat) :
    (buffer.putBack s start).blocks start = .created start s (buffer.blocks start).store ∧
      ∀ other ≠ start, (buffer.putBack s start).blocks other = buffer.blocks other := by
  have stored : (buffer.assign buffer.tail (some start)).entry buffer.tail = some start :=
    StaticBuffer.entry_assign_self placed.tail_lt
  exact ⟨StaticBuffer.blocks_setBlock_self stored,
    fun other ne => StaticBuffer.blocks_setBlock_ne stored ne⟩

theorem Placed.putFront_blocks {starts : List Nat} (placed : Placed buffer starts free)
    (s start : Nat) :
    (buffer.putFront s start).blocks start = .created start s (buffer.blocks start).store ∧
      ∀ other ≠ start, (buffer.putFront s start).blocks other = buffer.blocks other := by
  let moved : StaticBuffer := { buffer with head := buffer.prev buffer.head }
  have stored : (moved.assign moved.head (some start)).entry moved.head = some start :=
    StaticBuffer.entry_assign_self placed.prev_head_lt
  exact ⟨StaticBuffer.blocks_setBlock_self stored,
    fun other ne => StaticBuffer.blocks_setBlock_ne stored ne⟩

/-! ### Pops -/

/-- A change of a block that stays in its region. -/
theorem Arranged.setBlock (arranged : Arranged buffer regions free) {index : Nat} {region : Region}
    (stored : buffer.entry index = some region.start) (occupies : Occupies block region)
    (member : region ∈ regions) : Arranged (buffer.setBlock index block) regions free := by
  refine ⟨arranged.circle, arranged.head, arranged.tail, arranged.window, fun other there => ?_,
    arranged.circular, arranged.sizeWords, arranged.freeWords, arranged.reset⟩
  by_cases same : other = region
  · rw [same, StaticBuffer.blocks_setBlock_self stored]
    exact occupies
  · have ne : other.start ≠ region.start := by
      have apart := arranged.circular.apart.forall there member same
      exact apart.start_ne (arranged.occupied other there).length_pos occupies.length_pos
    rw [StaticBuffer.blocks_setBlock_ne stored ne]
    exact arranged.occupied other there

/-- A buffer with a block is not reset. -/
theorem Arranged.resetEmpty (arranged : Arranged buffer regions free) (some : regions ≠ []) :
    buffer.resetEmpty = buffer := by
  apply arranged.placed.resetEmpty
  rwa [Ne, List.map_eq_nil_iff]

theorem Arranged.placed_back (arranged : Arranged buffer (regions ++ [last]) free) :
    Placed buffer (regions.map Region.start ++ [last.start]) free := by
  have placed := arranged.placed
  rwa [List.map_append, List.map_singleton] at placed

/-- The index of the last block. -/
theorem Arranged.prev_tail (arranged : Arranged buffer (regions ++ [last]) free) :
    buffer.prev buffer.tail = slot buffer.circleIndex.length buffer.head regions.length := by
  rw [arranged.placed_back.prev_tail, List.length_map]

theorem Arranged.entry_back (arranged : Arranged buffer (regions ++ [last]) free) :
    buffer.entry (buffer.prev buffer.tail) = some last.start := arranged.placed_back.entry_back

/-- A reset changes neither the blocks nor the size. -/
theorem resetEmpty_blocks (buffer : StaticBuffer) :
    buffer.resetEmpty.blocks = buffer.blocks ∧ buffer.resetEmpty.size = buffer.size := by
  unfold StaticBuffer.resetEmpty
  split <;> exact ⟨rfl, rfl⟩

/-- The blocks and the size of a buffer without its last or its first block. -/
theorem drop_blocks (buffer : StaticBuffer) :
    (buffer.dropBack.blocks = buffer.blocks ∧ buffer.dropBack.size = buffer.size) ∧
      buffer.dropFront.blocks = buffer.blocks ∧ buffer.dropFront.size = buffer.size :=
  ⟨resetEmpty_blocks { buffer.assign buffer.tail none with tail := buffer.prev buffer.tail },
    resetEmpty_blocks { buffer.assign buffer.head none with head := buffer.next buffer.head }⟩

/-- A removed last block leaves its address as the beginning of the free space, unless it was the
    only one. -/
theorem Arranged.dropBack (arranged : Arranged buffer (regions ++ [last]) free) :
    Arranged buffer.dropBack regions (if regions = [] then 0 else last.start) := by
  obtain ⟨⟨blocks, size⟩, -⟩ := drop_blocks buffer
  have placed := arranged.placed_back.dropBack
  simp only [List.map_eq_nil_iff] at placed
  by_cases none : regions = []
  · rw [if_pos none] at placed ⊢
    subst none
    exact placed.arranged_nil (size ▸ arranged.sizeWords)
  · rw [if_neg none] at placed ⊢
    apply placed.arranged
    · intro region member
      rw [blocks]
      exact arranged.occupied region (List.mem_append_left _ member)
    · rw [size]
      exact arranged.circular.popBack
    · rw [size]
      exact arranged.sizeWords
    · exact (arranged.occupied last (List.mem_append_right _ (List.mem_singleton_self _))).words

/-- A removed first block leaves the free space where it is, unless it was the only one. -/
theorem Arranged.dropFront (arranged : Arranged buffer (first :: rest) free) :
    Arranged buffer.dropFront rest (if rest = [] then 0 else free) := by
  obtain ⟨-, blocks, size⟩ := drop_blocks buffer
  have placed := arranged.placed.dropFront
  simp only [List.map_eq_nil_iff] at placed
  by_cases none : rest = []
  · rw [if_pos none] at placed ⊢
    subst none
    exact placed.arranged_nil (size ▸ arranged.sizeWords)
  · rw [if_neg none] at placed ⊢
    apply placed.arranged
    · intro region member
      rw [blocks]
      exact arranged.occupied region (List.mem_cons_of_mem _ member)
    · rw [size]
      exact arranged.circular.popFront
    · rw [size]
      exact arranged.sizeWords
    · exact arranged.freeWords

/-- Whether a pop of `s` bytes removes a block. -/
def removes (block : BufferBlock) (s : Nat) (freeUnwritable : Bool) : Bool :=
  freeUnwritable && decide ((block.consume s).size = 0)

variable {freeUnwritable : Bool} {block : BufferBlock} {region : Region}

theorem Occupies.pop_taken (occupies : Occupies block region) :
    block.pop (block.taken s) = block.consume s := by
  rw [BufferBlock.taken, occupies.least_eq, occupies.pop_eq]

theorem Occupies.emptied_eq (occupies : Occupies block region) :
    block.emptied s freeUnwritable = removes block s freeUnwritable := by
  rw [BufferBlock.emptied, occupies.pop_taken]
  rfl

/-- What `static_pop_back` does on a buffer with a block. -/
theorem Arranged.popBack_eq (arranged : Arranged buffer (regions ++ [last]) free) :
    buffer.popBack s freeUnwritable =
      (min s ((buffer.blocks last.start).rawSize - (buffer.blocks last.start).used),
        removes (buffer.blocks last.start) s freeUnwritable,
        if removes (buffer.blocks last.start) s freeUnwritable then
          (buffer.setBlock (buffer.prev buffer.tail)
            ((buffer.blocks last.start).consume s)).dropBack
        else buffer.setBlock (buffer.prev buffer.tail) ((buffer.blocks last.start).consume s)) := by
  have stored := arranged.entry_back
  have member : last ∈ regions ++ [last] := List.mem_append_right _ (List.mem_singleton_self _)
  have occupies := arranged.occupied last member
  have block : buffer.blockAt (buffer.prev buffer.tail) = buffer.blocks last.start := by
    rw [StaticBuffer.blockAt, stored, Option.getD_some]
  have kept := (arranged.setBlock stored (occupies.consume s) member).resetEmpty
    (List.append_ne_nil_of_right_ne_nil _ (List.cons_ne_nil _ _))
  rw [StaticBuffer.popBack_eq buffer s freeUnwritable block, occupies.emptied_eq,
    occupies.pop_taken, kept, BufferBlock.taken, occupies.least_eq]

/-- What `static_pop_front` does on a buffer with a block. -/
theorem Arranged.popFront_eq (arranged : Arranged buffer (first :: rest) free) :
    buffer.popFront s freeUnwritable =
      (min s ((buffer.blocks first.start).rawSize - (buffer.blocks first.start).used),
        removes (buffer.blocks first.start) s freeUnwritable,
        if removes (buffer.blocks first.start) s freeUnwritable then
          (buffer.setBlock buffer.head ((buffer.blocks first.start).consume s)).dropFront
        else buffer.setBlock buffer.head ((buffer.blocks first.start).consume s)) := by
  have stored := arranged.entry_head
  have member : first ∈ first :: rest := List.mem_cons_self
  have occupies := arranged.occupied first member
  have block : buffer.blockAt buffer.head = buffer.blocks first.start := by
    rw [StaticBuffer.blockAt, stored, Option.getD_some]
  have kept :=
    (arranged.setBlock stored (occupies.consume s) member).resetEmpty (List.cons_ne_nil _ _)
  rw [StaticBuffer.popFront_eq buffer s freeUnwritable block, occupies.emptied_eq,
    occupies.pop_taken, kept, BufferBlock.taken, occupies.least_eq]

/-! ### A buffer nothing has been pushed in -/

/-- A fresh buffer takes a push as the buffer it is initialised to. -/
theorem Fresh.push_eq (fresh : Fresh buffer) (s : Nat) :
    buffer.pushBackChecked s = buffer.emptyInit.pushBackChecked s ∧
      buffer.pushFrontChecked s = buffer.emptyInit.pushFrontChecked s := by
  have arranged := fresh.emptyInit
  have circle := fresh.circle
  have open' : ¬buffer.next buffer.tail = buffer.head := by
    rw [fresh.tail, fresh.head, StaticBuffer.next, Nat.mod_eq_of_lt (by omega)]
    exact Nat.one_ne_zero
  have initOpen : ¬buffer.emptyInit.next buffer.emptyInit.tail = buffer.emptyInit.head := by
    have initCircle := arranged.circle
    rw [arranged.full_iff, List.length_nil]
    omega
  constructor
  · simp only [StaticBuffer.pushBackChecked, check_ok circle, check_ok arranged.circle, ok_bind,
      if_neg open', if_neg initOpen, arranged.emptyInit]
  · simp only [StaticBuffer.pushFrontChecked, check_ok circle, check_ok arranged.circle, ok_bind,
      if_neg open', if_neg initOpen, arranged.emptyInit]

/-- A fresh buffer is empty. -/
theorem Fresh.empty (fresh : Fresh buffer) : buffer.empty = true := by
  rw [StaticBuffer.empty, fresh.head, fresh.tail]
  exact decide_eq_true rfl

/-- The buffer that `set_mode` makes is fresh, unless there are no entries in its circle. -/
theorem setMode_fresh {heap : Heap} {maxSize maxNumber : Nat} {contents : Memory}
    (static : maxSize ≠ 0 ∧ 0 < maxNumber) (memory : heap (paddingSize maxSize) = some contents)
    (number : maxNumber + 1 ≠ 2 ^ 64) :
    ∃ buffer, (BufferManager.setMode heap maxSize maxNumber).staticBuffer = some buffer ∧
      Fresh buffer ∧ buffer.size = paddingSize maxSize := by
  have circle : succ maxNumber = maxNumber + 1 := if_neg number
  rw [BufferManager.setMode, if_pos static, memory]
  refine ⟨_, rfl, ⟨?_, rfl, rfl, ?_, paddingSize_words maxSize⟩, rfl⟩
  · rw [List.length_replicate, circle]
    omega
  · rw [StaticBuffer.entry, circle, List.getElem?_replicate]
    rfl

end

end LibAtbus.Detail
