/-
Module: LibAtbus.Proofs.BufferChunks
Layer: Proofs
Purpose: What one block shows of one chunk of a deque, and what the counters of a limit say of all
  of them. In static mode the block is a header and data among the bytes of the buffer: what a
  header, a user or the fill of a destroyed block writes lies in the region of one block, and leaves
  the others as they are.
Trusted boundary: none
Main exports: Shows, Counts, Counts.pushed, Counts.popped, Shown, Shown.congr, shown_created,
  Shown.consume, Shown.write
-/
import LibAtbus.Foundation.ByteDeque
import LibAtbus.Proofs.BufferSides

namespace LibAtbus.Detail

open Word64 ByteMemory CircularLayout ByteDeque

/-- A block is a chunk: its size, the count of consumed bytes, and the bytes written. -/
structure Shows (block : BufferBlock) (byte : Nat → UInt8) (chunk : Chunk) : Prop where
  size : block.rawSize = chunk.size
  consumed : block.used = chunk.consumed
  bytes : ∀ k value, chunk.written k = some value → k < chunk.size ∧ byte k = value

/-! ### Chunks -/

section

variable {block : BufferBlock} {byte byte' : Nat → UInt8} {chunk : Chunk} {region : Region}
  {s : Nat} {contents : Memory}

/-- A new block is a chunk that nothing has been written to. -/
theorem shows_created (address : Nat) : Shows (.created address s contents) byte (.fresh s) :=
  ⟨rfl, rfl, fun k value written => by cases written⟩

theorem Shows.congr (shows : Shows block byte chunk) (same : ∀ k < chunk.size, byte' k = byte k) :
    Shows block byte' chunk := by
  refine ⟨shows.size, shows.consumed, fun k value written => ?_⟩
  obtain ⟨below, found⟩ := shows.bytes k value written
  exact ⟨below, (same k below).trans found⟩

theorem Shows.consume (shows : Shows block byte chunk) (s : Nat) :
    Shows (block.consume s) byte (chunk.consume s) := by
  refine ⟨shows.size, ?_, shows.bytes⟩
  simp only [BufferBlock.consume, Chunk.consume, Chunk.remaining, shows.size, shows.consumed]

/-- A write to the data of a block is a write to its chunk. -/
theorem Shows.write (shows : Shows block byte chunk) {offset : Nat} {bytes : List UInt8}
    (inside : offset + bytes.length ≤ block.rawSize)
    (written :
      ∀ k, byte' k = if offset ≤ k ∧ k < offset + bytes.length then (bytes[k - offset]?).getD 0
        else byte k) : Shows block byte' (chunk.write offset bytes) := by
  refine ⟨shows.size, shows.consumed, fun k value found => ?_⟩
  rw [written]
  simp only [Chunk.write] at found ⊢
  split at found
  case isTrue here =>
    rw [if_pos here, found, Option.getD_some]
    have size := shows.size
    exact ⟨by omega, rfl⟩
  case isFalse elsewhere =>
    rw [if_neg elsewhere]
    exact shows.bytes k value found

/-- The bytes of a chunk that are left. -/
theorem Shows.remaining (shows : Shows block byte chunk) (occupies : Occupies block region) :
    block.size = chunk.remaining := by
  rw [occupies.size_eq, shows.size, shows.consumed, Chunk.remaining]

/-- A pop removes the block exactly if it exhausts the chunk and is asked to. -/
theorem Shows.removes (shows : Shows block byte chunk) (occupies : Occupies block region) (s : Nat)
    (freeUnwritable : Bool) :
    removes block s freeUnwritable = (freeUnwritable && chunk.exhausted s) := by
  rw [Detail.removes, (shows.consume s).remaining (occupies.consume s), Chunk.exhausted]

/-- What a pop takes of the block. -/
theorem Shows.taken (shows : Shows block byte chunk) :
    min s (block.rawSize - block.used) = min s chunk.remaining := by
  rw [shows.size, shows.consumed, Chunk.remaining]

/-- What `front` and `back` return about the block of a chunk. -/
theorem Shows.view (shows : Shows block byte chunk) (occupies : Occupies block region) :
    BufferView.ofBlock (some block) = ⟨.success, some block.data, chunk.consumed,
      chunk.remaining⟩ := by
  have used := occupies.used
  have left := shows.remaining occupies
  have read : sub block.rawSize block.size = chunk.consumed := by
    have size := shows.size
    have consumed := shows.consumed
    rw [left, sub_of_le occupies.sized.lt (by rw [size]; exact Nat.sub_le _ _), Chunk.remaining,
      size]
    omega
  rw [BufferView.ofBlock, read, left]

end

/-! ### The counters -/

/-- The counters of a limit are those of a deque. -/
structure Counts (limit : Limit) (deque : List Chunk) : Prop where
  number : limit.costNumber = deque.length
  size : limit.costSize = load deque

/-- The full sizes of the chunks of a deque. -/
def extent (deque : List Chunk) : Nat := (deque.map fun chunk => fullSize chunk.size).sum

section

variable {limit : Limit} {deque after : List Chunk} {chunk : Chunk} {side : Side} {s : Nat}
  {freeUnwritable : Bool}

theorem extent_put : extent (side.put chunk deque) = fullSize chunk.size + extent deque := by
  rw [extent, Side.map_put, Side.sum_put, extent]

/-- The full sizes are enough for a header and the bytes left of each chunk. -/
theorem extent_covers (sized : ∀ chunk ∈ deque, Sized chunk.size) :
    load deque + headSize * deque.length ≤ extent deque := by
  induction deque with
  | nil => exact Nat.zero_le _
  | cons chunk deque ih =>
      have covers := (sized chunk List.mem_cons_self).covers
      have rest := ih fun other member => sized other (List.mem_cons_of_mem _ member)
      have first : load (Side.put .front chunk deque) = chunk.remaining + load deque := load_put
      have extended : extent (Side.put .front chunk deque) = fullSize chunk.size + extent deque :=
        extent_put
      have left : chunk.remaining ≤ chunk.size := Nat.sub_le _ _
      change load (Side.put .front chunk deque) + _ ≤ extent (Side.put .front chunk deque)
      rw [first, extended, List.length_cons, Nat.mul_succ]
      omega

/-- The counters after a push that succeeded. They do not wrap, since the blocks lie apart in the
    address space. -/
theorem Counts.pushed (counts : Counts limit deque)
    (sized : ∀ chunk ∈ side.put (.fresh s) deque, Sized chunk.size)
    (space : extent (side.put (.fresh s) deque) ≤ 2 ^ 64) :
    Counts (limit.pushed s) (side.put (.fresh s) deque) := by
  have covers := extent_covers sized
  rw [load_put, Side.length_put, headSize_eq] at covers
  have left : (Chunk.fresh s).remaining = s := rfl
  rw [left] at covers
  refine ⟨?_, ?_⟩
  · rw [Side.length_put, Limit.pushed, counts.number]
    exact wrap_of_lt (by omega)
  · rw [load_put, left, Limit.pushed, counts.size, Nat.add_comm s]
    exact wrap_of_lt (by omega)

/-- The counters after a pop. -/
theorem Counts.popped (counts : Counts limit deque)
    (popped : Popped s freeUnwritable chunk deque after) :
    Counts
      (limit.popped (min s chunk.remaining) (freeUnwritable && chunk.exhausted s) after.isEmpty)
        after := by
  have number := popped.number
  have load := popped.load
  cases after with
  | nil => exact ⟨rfl, rfl⟩
  | cons first rest =>
      rw [← counts.number, List.length_cons] at number
      rw [← counts.size] at load
      refine ⟨?_, ?_⟩
      · simp only [Limit.popped, List.isEmpty_cons, Bool.false_eq_true, if_false, List.length_cons]
        cases removed : (freeUnwritable && chunk.exhausted s) with
        | false =>
            rw [removed] at number
            simpa using number
        | true =>
            rw [removed, if_pos rfl] at number
            have positive : 0 < limit.costNumber := by omega
            simp only [Bool.true_and, decide_eq_true positive, if_true]
            omega
      · simp only [Limit.popped, List.isEmpty_cons, Bool.false_eq_true, if_false]
        rw [if_pos (by omega)]
        omega

/-- The chunks after a push that succeeded. -/
theorem sized_put (sized : Sized s) (all : ∀ chunk ∈ deque, Sized chunk.size) :
    ∀ chunk ∈ side.put (.fresh s) deque, Sized chunk.size := by
  intro chunk member
  rcases Side.mem_put.mp member with rfl | old
  · exact sized
  · exact all chunk old

/-- A pop leaves no more chunks. -/
theorem extent_pop : extent (pop side s freeUnwritable deque) ≤ extent deque := by
  rcases side.nil_or_put deque with rfl | ⟨chunk, chunks, rfl⟩
  · rw [pop_nil]
  · rw [pop_put]
    split
    · rw [extent_put]
      exact Nat.le_add_left _ _
    · rw [extent_put, extent_put]
      exact le_refl _

theorem Counts.write {limit : Limit} (counts : Counts limit deque) (i offset : Nat)
    (written : List UInt8) :
    Counts limit (deque.modify i fun chunk => chunk.write offset written) := by
  refine ⟨?_, ?_⟩
  · rw [List.length_modify]
    exact counts.number
  · rw [load, map_modify_eq (g := fun chunk : Chunk => chunk.write offset written) fun _ => rfl]
    exact counts.size

end

/-! ### The bytes of a static buffer -/

/-- The region of a live block holds its header, and its data is a chunk. -/
structure Shown (buffer : StaticBuffer) (bytes : Memory) (region : Region)
    (chunk : Chunk) : Prop where
  shows : Shows (buffer.blocks region.start) (fun k => bytes (region.start + headSize + k)) chunk
  header : readBytes bytes region.start headSize = (buffer.blocks region.start).header

section

variable {buffer after : StaticBuffer} {bytes bytes' data : Memory} {region own : Region}
  {chunk : Chunk} {block : BufferBlock} {address s : Nat} {written : List UInt8}

/-- What is written inside a region leaves the addresses of another one as they are. -/
theorem outside_own (apart : own.Apart region) (start : own.start ≤ address)
    (stop : address + written.length ≤ own.stop) {a : Nat} (above : region.start ≤ a)
    (below : a < region.stop) : writeBytes bytes address written a = bytes a := by
  apply writeBytes_outside
  unfold Region.Apart at apart
  omega

/-- A region whose bytes and block are as before. -/
theorem Shown.congr (shown : Shown buffer bytes region chunk)
    (occupies : Occupies (buffer.blocks region.start) region)
    (block : after.blocks region.start = buffer.blocks region.start)
    (same : ∀ a, region.start ≤ a → a < region.stop → bytes' a = bytes a) :
    Shown after bytes' region chunk := by
  have covers := occupies.sized.covers
  rw [← occupies.length, shown.shows.size] at covers
  refine ⟨?_, ?_⟩
  · rw [block]
    refine shown.shows.congr fun k below => same _ (by omega) ?_
    rw [Region.stop]
    omega
  · rw [block, ← shown.header]
    refine readBytes_congr fun i below => same _ (Nat.le_add_right _ _) ?_
    rw [Region.stop]
    omega

/-- A header read word by word. -/
theorem header_iff : readBytes bytes address headSize = block.header ↔
    readBytes bytes address 8 = toLE 8 block.rawSize ∧
    readBytes bytes (address + 8) 8 = toLE 8 block.used ∧
      readBytes bytes (address + 16) 8 = toLE 8 block.pointer := by
  have words : readBytes bytes address headSize =
      readBytes bytes address 8 ++ readBytes bytes (address + 8) 8 ++ readBytes bytes
        (address + 16) 8 := by
    have all : readBytes bytes address 16 ++ readBytes bytes (address + 16) 8 =
        readBytes bytes address 24 :=
      readBytes_append
    rw [headSize_eq, readBytes_append]
    exact all.symm
  rw [words, BufferBlock.header]
  constructor
  · intro same
    obtain ⟨firstTwo, third⟩ := List.append_inj same (by simp)
    obtain ⟨first, second⟩ := List.append_inj firstTwo (by simp)
    exact ⟨first, second, third⟩
  · rintro ⟨first, second, third⟩
    rw [first, second, third]

theorem header_length : block.header.length = headSize := by
  rw [headSize_eq]
  simp [BufferBlock.header]

/-- What `create` writes is the header of the new block. -/
theorem createBytes_eq (start s : Nat) (contents : Memory) :
    createBytes bytes (start + headSize) s =
    writeBytes bytes start (BufferBlock.created start s contents).header := by
  rw [createBytes, Nat.add_sub_cancel _ _]
  rfl

theorem shown_created {contents : Memory} (start : Nat)
    (created : after.blocks start = .created start s contents) :
    Shown after (createBytes bytes (start + headSize) s) ⟨start, fullSize s⟩ (.fresh s) := by
  refine ⟨?_, ?_⟩
  · rw [created]
    exact shows_created start
  · have read : readBytes (writeBytes bytes start (BufferBlock.created start s contents).header)
        start
        (BufferBlock.created start s contents).header.length =
        (BufferBlock.created start s contents).header :=
      readBytes_writeBytes
    rw [header_length, ← createBytes_eq] at read
    rw [created]
    exact read

/-- A pop that keeps the block writes the second word of its header. -/
theorem Shown.consume (shown : Shown buffer bytes region chunk)
    (consumed : after.blocks region.start = (buffer.blocks region.start).consume s) :
    Shown after
      (writeBytes bytes (region.start + 8) (toLE 8 ((buffer.blocks region.start).consume s).used))
        region
      (chunk.consume s) := by
  have length : (toLE 8 ((buffer.blocks region.start).consume s).used).length = 8 := toLE_length _ _
  obtain ⟨first, second, third⟩ := header_iff.mp shown.header
  refine ⟨?_, ?_⟩
  · rw [consumed]
    refine (shown.shows.consume s).congr fun k below => writeBytes_outside ?_
    rw [length, headSize_eq]
    omega
  · rw [consumed]
    apply header_iff.mpr
    refine ⟨?_, ?_, ?_⟩
    · rw [readBytes_writeBytes_apart (.inl (le_refl _))]
      exact first
    · have read :
          readBytes (writeBytes bytes (region.start + 8)
              (toLE 8 ((buffer.blocks region.start).consume s).used)) (region.start + 8)
            (toLE 8 ((buffer.blocks region.start).consume s).used).length =
          toLE 8 ((buffer.blocks region.start).consume s).used := readBytes_writeBytes
      rwa [length] at read
    · rw [readBytes_writeBytes_apart (.inr (by rw [length]))]
      exact third

/-- A user's write to the data of a block. -/
theorem Shown.write (shown : Shown buffer bytes region chunk) {offset : Nat}
    (inside : offset + written.length ≤ (buffer.blocks region.start).rawSize) :
    Shown buffer (writeBytes bytes (region.start + headSize + offset) written) region
      (chunk.write offset written) := by
  refine ⟨shown.shows.write inside fun k => ?_, ?_⟩
  · by_cases here : offset ≤ k ∧ k < offset + written.length
    · have place : region.start + headSize + k = region.start + headSize + offset +
          (k - offset) := by omega
      have below : k - offset < written.length := by omega
      rw [if_pos here, place, writeBytes_inside below, List.getElem?_eq_getElem below,
        Option.getD_some]
    · rw [if_neg here]
      exact writeBytes_outside (by omega)
  · rw [readBytes_writeBytes_apart (.inl (Nat.le_add_right _ _))]
    exact shown.header

end

end LibAtbus.Detail
