/-
Module: LibAtbus.Proofs.StaticArrangement
Layer: Proofs
Purpose: What the static buffer of a manager looks like between two calls: the indices from head to
  tail name the blocks in order, each in a region of its own, and the tail the free space behind the
  last one. The invariant is a window on the circle of addresses together with a circular layout of
  the regions. A block put to the tail or before the head keeps it, for the regions there are then.
Trusted boundary: none
Main exports: Sized, Occupies, Arranged, Fresh, Arranged.addTail, Arranged.subHead
-/
import LibAtbus.Foundation.CircularLayout
import LibAtbus.Proofs.StaticWindow

namespace LibAtbus.Detail

open Word64 ByteMemory RingIndex CircularLayout

/-! ### Sizes -/

/-- The full size of a block of `s` bytes does not wrap. -/
def Sized (s : Nat) : Prop := headSize + (s + 7) / 8 * 8 < 2 ^ 64

instance (s : Nat) : Decidable (Sized s) := inferInstanceAs (Decidable (_ < _))

theorem headSize_eq : headSize = 24 := by decide

theorem paddingSize_lt {s : Nat} (word : s < 2 ^ 64) : paddingSize s < 2 ^ 64 := by
  unfold paddingSize
  split
  · exact word
  · exact Nat.mod_lt _ (by decide)

theorem paddingSize_words (s : Nat) : paddingSize s % 8 = 0 := by
  unfold paddingSize
  split
  · assumption
  · unfold sub wrap
    omega

section

variable {s : Nat}

theorem Sized.fullSize_eq (sized : Sized s) : fullSize s = headSize + (s + 7) / 8 * 8 := by
  unfold Sized at sized
  rw [headSize_eq] at sized ⊢
  have padded : paddingSize s = (s + 7) / 8 * 8 := by
    unfold paddingSize
    split
    · omega
    · unfold sub wrap
      omega
  rw [fullSize, padded, headSize_eq, wrap_of_lt sized]

theorem Sized.words (sized : Sized s) : fullSize s % 8 = 0 := by
  rw [sized.fullSize_eq, headSize_eq]
  omega

/-- The data of a block lies in its full size. -/
theorem Sized.covers (sized : Sized s) : headSize + s ≤ fullSize s := by
  rw [sized.fullSize_eq]
  omega

theorem Sized.pos (sized : Sized s) : 0 < fullSize s := by
  have covers := sized.covers
  rw [headSize_eq] at covers
  omega

theorem Sized.lt (sized : Sized s) : s < 2 ^ 64 := by
  unfold Sized at sized
  omega

end

/-! ### Blocks -/

/-- The block of a region: its full size is the length of the region, and its data lies behind its
    header. -/
structure Occupies (block : BufferBlock) (region : Region) : Prop where
  sized : Sized block.rawSize
  length : region.length = fullSize block.rawSize
  words : region.start % 8 = 0
  pointer : block.pointer = region.start + headSize
  used : block.used ≤ block.rawSize

/-- The block created for `s` bytes at an address. -/
def BufferBlock.created (address s : Nat) (contents : Memory) : BufferBlock :=
  { rawSize := s, used := 0, pointer := address + headSize, room := fullSize s - headSize
    store := contents
    fits := BufferBlock.room_fits s }

/-- A block of which up to `s` more bytes are consumed. -/
def BufferBlock.consume (block : BufferBlock) (s : Nat) : BufferBlock :=
  { block with used := block.used + min s (block.rawSize - block.used) }

section

variable {block : BufferBlock} {region : Region} {address s free : Nat} {contents : Memory}

theorem create_eq (fits : fullSize s ≤ free) :
    BufferBlock.create address free s contents =
      some (BufferBlock.created address s contents, address + fullSize s) :=
  if_neg (Nat.not_lt.mpr fits)

/-- Where there is room for it a block is created, and its data ends inside it. -/
theorem createChecked_eq (sized : Sized s) (fits : fullSize s ≤ free) :
    BufferBlock.createChecked address free s contents =
      .ok (some (BufferBlock.created address s contents, address + fullSize s)) := by
  have covers : (BufferBlock.created address s contents).pointer + s ≤ address + fullSize s := by
    have inside := sized.covers
    simp only [BufferBlock.created]
    omega
  have asserted : check ((BufferBlock.created address s contents).pointer +
      (BufferBlock.created address s contents).rawSize ≤ address + fullSize s) = .ok () :=
    check_ok covers
  simp only [BufferBlock.createChecked, create_eq fits, asserted]
  rfl

theorem created_occupies (sized : Sized s) (words : address % 8 = 0) :
    Occupies (BufferBlock.created address s contents) ⟨address, fullSize s⟩ :=
  ⟨sized, rfl, words, rfl, Nat.zero_le _⟩

theorem Occupies.length_pos (occupies : Occupies block region) : 0 < region.length := by
  rw [occupies.length]
  exact occupies.sized.pos

theorem Occupies.size_eq (occupies : Occupies block region) :
    block.size = block.rawSize - block.used :=
  sub_of_le occupies.sized.lt occupies.used

/-- What a pop takes of `s` bytes. -/
theorem Occupies.least_eq (occupies : Occupies block region) :
    (if block.size < s then block.size else s) = min s (block.rawSize - block.used) := by
  rw [occupies.size_eq]
  split <;> omega

/-- A pop of what `s` more bytes there are. -/
theorem Occupies.pop_eq (occupies : Occupies block region) :
    block.pop (min s (block.rawSize - block.used)) = block.consume s := by
  have used := occupies.used
  have word := occupies.sized.lt
  have sum : wrap (block.used + min s (block.rawSize - block.used)) =
      block.used + min s (block.rawSize - block.used) := wrap_of_lt (by omega)
  have within : ¬block.rawSize < block.used + min s (block.rawSize - block.used) := by omega
  rw [BufferBlock.pop, sum, if_neg within, BufferBlock.consume]

theorem Occupies.consume (occupies : Occupies block region) (s : Nat) :
    Occupies (block.consume s) region := by
  refine ⟨occupies.sized, occupies.length, occupies.words, occupies.pointer, ?_⟩
  have used := occupies.used
  simp only [BufferBlock.consume]
  omega

end

theorem StaticBuffer.bufferOffset_of_le {l r : Nat} (le : l ≤ r) : bufferOffset l r = r - l := by
  unfold bufferOffset
  split <;> omega

theorem StaticBuffer.bufferOffset_zero (l : Nat) : bufferOffset l 0 = l := rfl

/-! ### The arrangement -/

/-- The addresses that the circle stores from the head to the tail. -/
def addresses (regions : List Region) (free : Nat) : List Nat := regions.map Region.start ++ [free]

/-- The blocks of a static buffer lie in the given regions, and its free space begins at an
    address. -/
structure Arranged (buffer : StaticBuffer) (regions : List Region) (free : Nat) : Prop where
  circle : 2 ≤ buffer.circleIndex.length
  head : buffer.head < buffer.circleIndex.length
  tail : buffer.tail = slot buffer.circleIndex.length buffer.head regions.length
  window : Window buffer.circleIndex.length buffer.entry buffer.head (addresses regions free)
  occupied : ∀ region ∈ regions, Occupies (buffer.blocks region.start) region
  circular : Circular buffer.size free regions
  sizeWords : buffer.size % 8 = 0
  freeWords : free % 8 = 0
  reset : regions = [] → buffer.head = 0 ∧ free = 0

/-- A static buffer in which nothing has been pushed yet. -/
structure Fresh (buffer : StaticBuffer) : Prop where
  circle : 2 ≤ buffer.circleIndex.length
  head : buffer.head = 0
  tail : buffer.tail = 0
  unset : buffer.entry 0 = none
  sizeWords : buffer.size % 8 = 0

/-- Its circle stores the addresses of its regions. -/
theorem Arranged.placed {buffer : StaticBuffer} {regions : List Region} {free : Nat}
    (arranged : Arranged buffer regions free) : Placed buffer (regions.map Region.start) free :=
  ⟨arranged.circle, arranged.head, by rw [List.length_map]; exact arranged.tail, arranged.window,
    fun none => arranged.reset (List.map_eq_nil_iff.mp none)⟩

/-- A circle that stores the addresses of regions. -/
theorem Placed.arranged {buffer : StaticBuffer} {regions : List Region} {free : Nat}
    (placed : Placed buffer (regions.map Region.start) free)
    (occupied : ∀ region ∈ regions, Occupies (buffer.blocks region.start) region)
    (circular : Circular buffer.size free regions) (sizeWords : buffer.size % 8 = 0)
    (freeWords : free % 8 = 0) : Arranged buffer regions free := by
  refine ⟨placed.circle, placed.head, ?_, placed.window, occupied, circular, sizeWords, freeWords,
    fun none => ?_⟩
  · rw [placed.tail, List.length_map]
  · exact placed.reset (List.map_eq_nil_iff.mpr none)

/-- An empty buffer whose circle stores the start of the buffer. -/
theorem Placed.arranged_nil {buffer : StaticBuffer} (placed : Placed buffer [] 0)
    (sizeWords : buffer.size % 8 = 0) : Arranged buffer [] 0 :=
  @Placed.arranged buffer [] 0 placed (fun _ member => absurd member List.not_mem_nil)
    (Circular.empty _) sizeWords rfl

section

variable {buffer : StaticBuffer} {regions rest : List Region} {first last : Region}
  {free start : Nat} {block : BufferBlock}

/-! ### Reading the circle -/

theorem Arranged.room (arranged : Arranged buffer regions free) :
    regions.length < buffer.circleIndex.length := by
  have room := arranged.placed.room
  rwa [List.length_map] at room

/-- The free space begins at the address under the tail. -/
theorem Arranged.entry_tail (arranged : Arranged buffer regions free) :
    buffer.entry buffer.tail = some free :=
  arranged.placed.entry_tail

/-- The blocks are found under the indices from the head on. -/
theorem Arranged.entry_live (arranged : Arranged buffer regions free) {i : Nat}
    (below : i < regions.length) :
    buffer.entry (slot buffer.circleIndex.length buffer.head i) = some regions[i].start := by
  rw [arranged.placed.entry_live (by rwa [List.length_map]), List.getElem_map]

theorem Arranged.entry_head (arranged : Arranged buffer (first :: rest) free) :
    buffer.entry buffer.head = some first.start := arranged.placed.entry_head

theorem Arranged.tail_lt (arranged : Arranged buffer regions free) :
    buffer.tail < buffer.circleIndex.length :=
  arranged.placed.tail_lt

/-- The buffer is empty if it has no region. -/
theorem Arranged.empty_iff (arranged : Arranged buffer regions free) :
    buffer.empty = true ↔ regions = [] := by
  rw [arranged.placed.empty_iff, List.map_eq_nil_iff]

/-- The address that a push takes for the head: that of the first block, or of the free space. -/
theorem Arranged.headAddress (arranged : Arranged buffer regions free) :
    buffer.entry buffer.head = some (frontStart free regions) := by
  rw [arranged.placed.headAddress]
  cases regions <;> rfl

/-- No block is behind the last index: one is left free. -/
theorem Arranged.full_iff (arranged : Arranged buffer regions free) :
    buffer.next buffer.tail = buffer.head ↔ regions.length + 1 = buffer.circleIndex.length := by
  rw [arranged.placed.full_iff, List.length_map]

/-- Between two calls the empty initialisation has nothing to do. -/
theorem Arranged.emptyInit (arranged : Arranged buffer regions free) : buffer.emptyInit = buffer :=
  arranged.placed.emptyInit

/-- The empty initialisation of a fresh buffer. -/
theorem Fresh.emptyInit (fresh : Fresh buffer) : Arranged buffer.emptyInit [] 0 := by
  have unset : buffer.entry buffer.head = none ∨ buffer.entry buffer.tail = none := by
    rw [fresh.head]
    exact .inl fresh.unset
  rw [StaticBuffer.emptyInit, if_pos unset]
  have circle : 2 ≤ (buffer.assign 0 (some 0)).circleIndex.length := by
    rw [StaticBuffer.assign_length]
    exact fresh.circle
  have origin : (buffer.assign 0 (some 0)).entry 0 = some 0 :=
    StaticBuffer.entry_assign_self (Nat.lt_of_lt_of_le Nat.two_pos fresh.circle)
  exact Placed.arranged_nil (placed_nil circle rfl rfl origin) fresh.sizeWords

/-! ### Adding and removing a region -/

/-- A block that is put to the tail, at an address stored there, with the free space behind it. -/
theorem Arranged.addTail (arranged : Arranged buffer regions free) {nextFree : Nat}
    (room : regions.length + 1 ≠ buffer.circleIndex.length) {region : Region}
    (occupies : Occupies block region)
    (circular : Circular buffer.size nextFree (regions ++ [region])) (words : nextFree % 8 = 0) :
    Arranged ((buffer.assign buffer.tail (some region.start)).addTail block nextFree)
      (regions ++ [region])
      nextFree := by
  let kept := buffer.assign buffer.tail (some region.start)
  have stored : kept.entry buffer.tail = some region.start :=
    StaticBuffer.entry_assign_self arranged.tail_lt
  have placed := arranged.placed.addTail (by rwa [List.length_map]) region.start block nextFree
  have starts : regions.map Region.start ++ [region.start] =
      (regions ++ [region]).map Region.start := by
    rw [List.map_append, List.map_singleton]
  rw [starts] at placed
  apply placed.arranged
  · intro other member
    change Occupies ((kept.setBlock buffer.tail block).blocks other.start) other
    rcases List.mem_append.mp member with old | new
    · have apart :=
        (List.pairwise_append.mp circular.apart).2.2 other old region (List.mem_singleton_self _)
      have distinct := apart.start_ne (arranged.occupied other old).length_pos occupies.length_pos
      rw [StaticBuffer.blocks_setBlock_ne stored distinct]
      exact arranged.occupied other old
    · obtain rfl := List.mem_singleton.mp new
      rw [StaticBuffer.blocks_setBlock_self stored]
      exact occupies
  · exact circular
  · exact arranged.sizeWords
  · exact words

/-- A block that becomes the head, before the others. -/
theorem Arranged.subHead (arranged : Arranged buffer regions free)
    (room : regions.length + 1 ≠ buffer.circleIndex.length) {region : Region}
    (occupies : Occupies block region) (circular : Circular buffer.size free (region :: regions)) :
    Arranged (buffer.subHead block region.start).2.2 (region :: regions) free := by
  let moved : StaticBuffer := { buffer with head := buffer.prev buffer.head }
  have stored : (moved.assign moved.head (some region.start)).entry moved.head =
      some region.start :=
    StaticBuffer.entry_assign_self arranged.placed.prev_head_lt
  have placed := arranged.placed.subHead (by rwa [List.length_map]) region.start block
  rw [← List.map_cons] at placed
  apply placed.arranged
  · intro other member
    change Occupies
      (((moved.assign moved.head (some region.start)).setBlock moved.head block).blocks other.start)
      other
    rcases List.mem_cons.mp member with rfl | old
    · rw [StaticBuffer.blocks_setBlock_self stored]
      exact occupies
    · have apart := List.rel_of_pairwise_cons circular.apart old
      have distinct :=
        apart.symm.start_ne (arranged.occupied other old).length_pos occupies.length_pos
      rw [StaticBuffer.blocks_setBlock_ne stored distinct]
      exact arranged.occupied other old
  · exact circular
  · exact arranged.sizeWords
  · exact arranged.freeWords

end

end LibAtbus.Detail
