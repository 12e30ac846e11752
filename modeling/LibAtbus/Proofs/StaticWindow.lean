/-
Module: LibAtbus.Proofs.StaticWindow
Layer: Proofs
Purpose: The circle of addresses of a static buffer, whatever the sizes of its blocks are: from the
  head on its indices store the addresses of the blocks in order, and the tail stores that of the
  free space. What the other indices store is never read. Every way in which a push or a pop changes
  the circle keeps that, for the addresses there are then.
Trusted boundary: none
Main exports: Placed, Placed.addTail, Placed.subHead, Placed.dropBack, Placed.dropFront
-/
import LibAtbus.Detail.CheckedBuffer
import LibAtbus.Foundation.RingWindow

namespace LibAtbus.Detail

open Word64 ByteMemory RingIndex

/-! ### Pops of one block -/

namespace BufferBlock

/-- What a pop takes of `s` bytes. -/
def taken (block : BufferBlock) (s : Nat) : Nat := if block.size < s then block.size else s

/-- Whether a pop of `s` bytes removes a block. -/
def emptied (block : BufferBlock) (s : Nat) (freeUnwritable : Bool) : Bool :=
  freeUnwritable && decide ((block.pop (block.taken s)).size = 0)

end BufferBlock

/-! ### Single entries -/

namespace StaticBuffer

variable {buffer : StaticBuffer} {index other start : Nat} {address : Option Nat}

theorem entry_assign_self (below : index < buffer.circleIndex.length) :
    (buffer.assign index address).entry index = address := by
  simp [entry, assign, List.getElem?_set_self below]

theorem entry_assign_ne (ne : other ≠ index) :
    (buffer.assign index address).entry other = buffer.entry other := by
  rw [entry, assign, List.getElem?_set_ne ne.symm]
  rfl

/-- An address that is stored there already. -/
theorem assign_same (stored : buffer.entry index = some start) :
    buffer.assign index (some start) = buffer := by
  have there : buffer.circleIndex[index]? = some (some start) := Option.join_eq_some_iff.mp stored
  obtain ⟨below, value⟩ := List.getElem?_eq_some_iff.mp there
  rw [assign, ← value, List.set_getElem_self]

@[simp] theorem assign_length :
    (buffer.assign index address).circleIndex.length = buffer.circleIndex.length :=
  List.length_set

theorem blocks_setBlock_self {block : BufferBlock} (stored : buffer.entry index = some start) :
    (buffer.setBlock index block).blocks start = block := by
  simp [setBlock, stored]

theorem blocks_setBlock_ne {block : BufferBlock} (stored : buffer.entry index = some start)
    (ne : other ≠ start) : (buffer.setBlock index block).blocks other = buffer.blocks other := by
  simp [setBlock, stored, ne]

/-- The buffer without its last block. -/
def dropBack (buffer : StaticBuffer) : StaticBuffer :=
  { buffer.assign buffer.tail none with tail := buffer.prev buffer.tail }.resetEmpty

/-- The buffer without its first block. -/
def dropFront (buffer : StaticBuffer) : StaticBuffer :=
  { buffer.assign buffer.head none with head := buffer.next buffer.head }.resetEmpty

/-- What `static_pop_back` does to the block it finds. -/
theorem popBack_eq (buffer : StaticBuffer) (s : Nat) (freeUnwritable : Bool) {block : BufferBlock}
    (found : buffer.blockAt (buffer.prev buffer.tail) = block) :
    buffer.popBack s freeUnwritable =
      (block.taken s, block.emptied s freeUnwritable,
        if block.emptied s freeUnwritable then
          (buffer.setBlock (buffer.prev buffer.tail) (block.pop (block.taken s))).dropBack
        else (buffer.setBlock (buffer.prev buffer.tail)
          (block.pop (block.taken s))).resetEmpty) := by
  subst found
  exact congrArg (_, _, ·) (apply_ite StaticBuffer.resetEmpty _ _ _)

/-- What `static_pop_front` does to the block it finds. -/
theorem popFront_eq (buffer : StaticBuffer) (s : Nat) (freeUnwritable : Bool) {block : BufferBlock}
    (found : buffer.blockAt buffer.head = block) :
    buffer.popFront s freeUnwritable =
      (block.taken s, block.emptied s freeUnwritable,
        if block.emptied s freeUnwritable then
          (buffer.setBlock buffer.head (block.pop (block.taken s))).dropFront
        else (buffer.setBlock buffer.head (block.pop (block.taken s))).resetEmpty) := by
  subst found
  exact congrArg (_, _, ·) (apply_ite StaticBuffer.resetEmpty _ _ _)

end StaticBuffer

/-! ### The circle -/

/-- The circle of a static buffer stores the addresses of its blocks and of its free space. -/
structure Placed (buffer : StaticBuffer) (starts : List Nat) (free : Nat) : Prop where
  circle : 2 ≤ buffer.circleIndex.length
  head : buffer.head < buffer.circleIndex.length
  tail : buffer.tail = slot buffer.circleIndex.length buffer.head starts.length
  window : Window buffer.circleIndex.length buffer.entry buffer.head (starts ++ [free])
  reset : starts = [] → buffer.head = 0 ∧ free = 0

/-- An empty buffer whose first entry is the start of the buffer. -/
theorem placed_nil {buffer : StaticBuffer} (circle : 2 ≤ buffer.circleIndex.length)
    (head : buffer.head = 0) (tail : buffer.tail = 0) (origin : buffer.entry 0 = some 0) :
    Placed buffer [] 0 := by
  have first : slot buffer.circleIndex.length 0 0 = 0 := slot_zero (by omega)
  refine ⟨circle, ?_, ?_, ⟨?_, ?_⟩, fun _ => ⟨head, rfl⟩⟩
  · rw [head]
    omega
  · rw [tail, head]
    exact first.symm
  · change 1 ≤ _
    omega
  · intro i below
    obtain rfl : i = 0 := Nat.lt_one_iff.mp below
    rw [head, first]
    exact origin

section

variable {buffer : StaticBuffer} {starts rest : List Nat} {first last free start : Nat}
  {block : BufferBlock}

/-! ### Reading the circle -/

theorem Placed.room (placed : Placed buffer starts free) :
    starts.length < buffer.circleIndex.length := by
  have fits := placed.window.fits
  rwa [List.length_append, List.length_singleton] at fits

/-- The free space begins at the address under the tail. -/
theorem Placed.entry_tail (placed : Placed buffer starts free) :
    buffer.entry buffer.tail = some free := by
  have read := placed.window.get (i := starts.length) (by simp)
  rw [placed.tail, read]
  simp

/-- The blocks are found under the indices from the head on. -/
theorem Placed.entry_live (placed : Placed buffer starts free) {i : Nat}
    (below : i < starts.length) :
    buffer.entry (slot buffer.circleIndex.length buffer.head i) = some starts[i] := by
  have read := placed.window.get (i := i) (by simp; omega)
  rw [read]
  simp [List.getElem_append_left, below]

theorem Placed.entry_head (placed : Placed buffer (first :: rest) free) :
    buffer.entry buffer.head = some first := by
  have read := placed.entry_live (i := 0) (Nat.succ_pos _)
  rwa [slot_zero placed.head] at read

theorem Placed.tail_lt (placed : Placed buffer starts free) :
    buffer.tail < buffer.circleIndex.length := by
  rw [placed.tail]
  exact slot_lt (by have circle := placed.circle; omega)

/-- The buffer is empty if no address is that of a block. -/
theorem Placed.empty_iff (placed : Placed buffer starts free) :
    buffer.empty = true ↔ starts = [] := by
  have same : buffer.empty = true ↔
      slot buffer.circleIndex.length buffer.head 0 = slot buffer.circleIndex.length buffer.head
        starts.length := by
    rw [slot_zero placed.head, ← placed.tail, StaticBuffer.empty, decide_eq_true_iff]
  have circle := placed.circle
  rw [same, slot_inj (by omega) placed.room]
  exact ⟨fun none => List.eq_nil_of_length_eq_zero none.symm, fun none => by rw [none]; rfl⟩

/-- The address that a push takes for the head: that of the first block, or of the free space. -/
theorem Placed.headAddress (placed : Placed buffer starts free) :
    buffer.entry buffer.head = some (starts.headD free) := by
  cases starts with
  | nil =>
      have emptied : buffer.head = buffer.tail := of_decide_eq_true (placed.empty_iff.mpr rfl)
      rw [emptied]
      exact placed.entry_tail
  | cons first rest => exact placed.entry_head

/-- No block is behind the last index: one is left free. -/
theorem Placed.full_iff (placed : Placed buffer starts free) :
    buffer.next buffer.tail = buffer.head ↔ starts.length + 1 = buffer.circleIndex.length := by
  have next : buffer.next buffer.tail = slot buffer.circleIndex.length buffer.head
      (starts.length + 1) := by
    rw [StaticBuffer.next, placed.tail, ← slot_slot]
    rfl
  have head := placed.head
  have room := placed.room
  rw [next]
  constructor
  · intro full
    by_contra notFull
    have distinct :=
      slot_ne (s := buffer.head) (show starts.length + 1 < buffer.circleIndex.length by omega)
      (show 0 < buffer.circleIndex.length by omega) (Nat.succ_ne_zero _)
    rw [slot_zero head] at distinct
    exact distinct full
  · intro full
    have lap := slot_add_lap (n := buffer.circleIndex.length) (s := buffer.head) (k := 0)
    rw [Nat.zero_add, slot_zero head] at lap
    rw [full]
    exact lap

/-- Between two calls the empty initialisation has nothing to do. -/
theorem Placed.emptyInit (placed : Placed buffer starts free) : buffer.emptyInit = buffer := by
  have set : ¬(buffer.entry buffer.head = none ∨ buffer.entry buffer.tail = none) := by
    rw [placed.headAddress, placed.entry_tail]
    simp
  rw [StaticBuffer.emptyInit, if_neg set]

/-- The index of the last block. -/
theorem Placed.prev_tail (placed : Placed buffer (starts ++ [last]) free) :
    buffer.prev buffer.tail = slot buffer.circleIndex.length buffer.head starts.length := by
  have circle := placed.circle
  have lap : (starts ++ [last]).length + (buffer.circleIndex.length - 1) =
      starts.length + buffer.circleIndex.length := by
    rw [List.length_append, List.length_singleton]
    omega
  rw [StaticBuffer.prev, Nat.add_sub_assoc (by omega), placed.tail]
  change slot _ (slot _ _ _) _ = _
  rw [slot_slot, lap, slot_add_lap]

theorem Placed.entry_back (placed : Placed buffer (starts ++ [last]) free) :
    buffer.entry (buffer.prev buffer.tail) = some last := by
  have read := placed.entry_live (i := starts.length) (by simp)
  rw [placed.prev_tail, read]
  simp

/-! ### Changing the circle -/

/-- A change of a block leaves the circle. -/
theorem Placed.setBlock (placed : Placed buffer starts free) (index : Nat) (block : BufferBlock) :
    Placed (buffer.setBlock index block) starts free :=
  ⟨placed.circle, placed.head, placed.tail, placed.window, placed.reset⟩

/-- A block put to the tail, at an address stored there, with the free space behind it. -/
theorem Placed.addTail (placed : Placed buffer starts free)
    (room : starts.length + 1 ≠ buffer.circleIndex.length) (start : Nat) (block : BufferBlock)
    (nextFree : Nat) :
    Placed ((buffer.assign buffer.tail (some start)).addTail block nextFree)
      (starts ++ [start]) nextFree := by
  have below : starts.length + 1 < buffer.circleIndex.length := by
    have fits := placed.room
    omega
  let n := buffer.circleIndex.length
  let kept := buffer.assign buffer.tail (some start)
  have stored : kept.entry buffer.tail = some start := StaticBuffer.entry_assign_self placed.tail_lt
  have next : kept.next buffer.tail = slot n buffer.head (starts.length + 1) := by
    rw [StaticBuffer.next, StaticBuffer.assign_length, placed.tail, ← slot_slot]
    rfl
  have windowKept : Window n kept.entry buffer.head (starts ++ [start]) := by
    apply placed.window.replaceLast
    · rw [← placed.tail]
      exact stored
    · intro index ne
      rw [← placed.tail] at ne
      exact StaticBuffer.entry_assign_ne ne
  have last : (starts ++ [start]).length = starts.length + 1 := by simp
  refine ⟨?_, ?_, ?_, ?_, ?_⟩
  · change 2 ≤ ((kept.circleIndex).set _ _).length
    rw [List.length_set, StaticBuffer.assign_length]
    exact placed.circle
  · change buffer.head < ((kept.circleIndex).set _ _).length
    rw [List.length_set, StaticBuffer.assign_length]
    exact placed.head
  · change kept.next buffer.tail = slot ((kept.circleIndex).set _ _).length buffer.head _
    rw [List.length_set, StaticBuffer.assign_length, next, last]
  · change Window ((kept.circleIndex).set _ _).length (kept.assign (kept.next buffer.tail) _).entry
      buffer.head _
    rw [List.length_set, StaticBuffer.assign_length]
    have written : (kept.assign (kept.next buffer.tail) (some nextFree)).entry
        (slot n buffer.head (starts ++ [start]).length) = some nextFree := by
      rw [next, last]
      apply StaticBuffer.entry_assign_self
      rw [StaticBuffer.assign_length]
      exact slot_lt (by omega)
    apply windowKept.concat (by rw [last]; exact below) written
    intro index ne
    rw [last, ← next] at ne
    exact StaticBuffer.entry_assign_ne ne
  · intro none
    exact absurd none (List.append_ne_nil_of_right_ne_nil _ (List.cons_ne_nil _ _))

/-- The head after a push to the front is an index of the circle. -/
theorem Placed.prev_head_lt (placed : Placed buffer starts free) :
    buffer.prev buffer.head < buffer.circleIndex.length := by
  have circle := placed.circle
  exact Nat.mod_lt _ (by omega)

/-- A block that becomes the head, before the others. -/
theorem Placed.subHead (placed : Placed buffer starts free)
    (room : starts.length + 1 ≠ buffer.circleIndex.length) (start : Nat) (block : BufferBlock) :
    Placed (buffer.subHead block start).2.2 (start :: starts) free := by
  have below : starts.length + 1 < buffer.circleIndex.length := by
    have fits := placed.room
    omega
  let n := buffer.circleIndex.length
  let moved : StaticBuffer := { buffer with head := buffer.prev buffer.head }
  have prev : buffer.prev buffer.head = slot n buffer.head (n - 1) := by
    rw [StaticBuffer.prev, slot, Nat.add_sub_assoc (by omega)]
  have stored : (moved.assign moved.head (some start)).entry moved.head = some start :=
    StaticBuffer.entry_assign_self placed.prev_head_lt
  refine ⟨?_, ?_, ?_, ?_, ?_⟩
  · change 2 ≤ (moved.circleIndex.set _ _).length
    rw [List.length_set]
    exact placed.circle
  · change buffer.prev buffer.head < (moved.circleIndex.set _ _).length
    rw [List.length_set]
    exact placed.prev_head_lt
  · change buffer.tail = slot (moved.circleIndex.set _ _).length (buffer.prev buffer.head)
      (starts.length + 1)
    have lap : n - 1 + (starts.length + 1) = starts.length + n := by omega
    rw [List.length_set, prev, slot_slot, lap, slot_add_lap]
    exact placed.tail
  · change Window (moved.circleIndex.set _ _).length (moved.assign moved.head (some start)).entry
      (buffer.prev buffer.head) (start :: (starts ++ [free]))
    rw [List.length_set, prev]
    apply placed.window.cons
    · rw [List.length_append, List.length_singleton]
      exact below
    · rw [← prev]
      exact stored
    · intro index ne
      rw [← prev] at ne
      exact StaticBuffer.entry_assign_ne ne
  · intro none
    exact absurd none (List.cons_ne_nil _ _)

/-- An empty buffer after the reset that the pops make. -/
theorem placed_reset (circle : 2 ≤ buffer.circleIndex.length) (emptied : buffer.empty = true) :
    Placed buffer.resetEmpty [] 0 := by
  rw [StaticBuffer.resetEmpty, if_pos emptied]
  have circle' : 2 ≤ (buffer.assign 0 (some 0)).circleIndex.length := by
    rw [StaticBuffer.assign_length]
    exact circle
  have origin : (buffer.assign 0 (some 0)).entry 0 = some 0 :=
    StaticBuffer.entry_assign_self (by omega)
  exact placed_nil circle' rfl rfl origin

/-- A buffer with a block is not reset. -/
theorem Placed.resetEmpty (placed : Placed buffer starts free) (some : starts ≠ []) :
    buffer.resetEmpty = buffer := by
  have kept : ¬buffer.empty = true := fun emptied => some (placed.empty_iff.mp emptied)
  rw [StaticBuffer.resetEmpty, if_neg kept]

/-- A removed last block leaves its address as the beginning of the free space, unless it was the
    only one. -/
theorem Placed.dropBack (placed : Placed buffer (starts ++ [last]) free) :
    Placed buffer.dropBack starts (if starts = [] then 0 else last) := by
  let n := buffer.circleIndex.length
  let cut : StaticBuffer := { buffer.assign buffer.tail none with tail := buffer.prev buffer.tail }
  have length : cut.circleIndex.length = n := StaticBuffer.assign_length
  have circle : 2 ≤ cut.circleIndex.length := length ▸ placed.circle
  have room := placed.room
  rw [List.length_append, List.length_singleton] at room
  by_cases none : starts = []
  · have emptied : cut.empty = true := by
      have index := placed.prev_tail
      rw [none, List.length_nil, slot_zero placed.head] at index
      exact decide_eq_true index.symm
    rw [if_pos none, none]
    exact placed_reset circle emptied
  have window : Window n cut.entry buffer.head (starts ++ [last]) := by
    apply placed.window.dropLast.congr
    intro i below
    have shorter : i < starts.length + 1 := by simpa using below
    apply StaticBuffer.entry_assign_ne
    rw [placed.tail, List.length_append, List.length_singleton]
    exact slot_ne (by omega) room (by omega)
  have laid : Placed cut starts last := by
    refine ⟨circle, ?_, ?_, ?_, fun isNone => absurd isNone none⟩
    · rw [length]
      exact placed.head
    · rw [length]
      exact placed.prev_tail
    · rw [length]
      exact window
  rw [if_neg none]
  change Placed cut.resetEmpty _ _
  rw [laid.resetEmpty none]
  exact laid

/-- A removed first block leaves the free space where it is, unless it was the only one. -/
theorem Placed.dropFront (placed : Placed buffer (first :: rest) free) :
    Placed buffer.dropFront rest (if rest = [] then 0 else free) := by
  let n := buffer.circleIndex.length
  let cut : StaticBuffer := { buffer.assign buffer.head none with head := buffer.next buffer.head }
  have length : cut.circleIndex.length = n := StaticBuffer.assign_length
  have circle : 2 ≤ cut.circleIndex.length := length ▸ placed.circle
  have room := placed.room
  rw [List.length_cons] at room
  have next : buffer.next buffer.head = slot n buffer.head 1 := rfl
  have tail : buffer.tail = slot n (slot n buffer.head 1) rest.length := by
    rw [slot_slot, Nat.add_comm]
    exact placed.tail
  by_cases none : rest = []
  · have emptied : cut.empty = true := by
      rw [none, List.length_nil, slot_zero (slot_lt (by omega)), ← next] at tail
      exact decide_eq_true tail.symm
    rw [if_pos none, none]
    exact placed_reset circle emptied
  have window : Window n cut.entry (slot n buffer.head 1) (rest ++ [free]) := by
    have whole : Window n buffer.entry buffer.head (first :: (rest ++ [free])) := placed.window
    apply whole.tail.congr
    intro i below
    rw [List.length_append, List.length_singleton] at below
    apply StaticBuffer.entry_assign_ne
    rw [slot_slot]
    intro same
    have distinct :=
      slot_ne (s := buffer.head) (show 1 + i < n by omega) (show 0 < n by omega) (by omega)
    rw [slot_zero placed.head] at distinct
    exact distinct same
  have laid : Placed cut rest free := by
    refine ⟨circle, ?_, ?_, ?_, fun isNone => absurd isNone none⟩
    · rw [length]
      exact slot_lt (by omega)
    · rw [length]
      exact tail
    · rw [length]
      exact window
  rw [if_neg none]
  change Placed cut.resetEmpty _ _
  rw [laid.resetEmpty none]
  exact laid

end

end LibAtbus.Detail
