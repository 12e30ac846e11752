/-
Module: LibAtbus.Proofs.ReleasePushPop
Layer: Proofs
Purpose: The pushes and pops of a static buffer in a build without assertions, for sizes of any
  `size_t`. They depend on the addresses that the circle stores and on nothing else of it: a push
  puts a block to the address that these leave for it, or is refused, and a pop consumes of the
  block at its side and may remove its address.
Trusted boundary: none
Main exports: StaticBuffer.sideStart, StaticBuffer.putSide, Placed.putSide, Placed.released_eq,
  Placed.popSide_eq, Unfilled, Unfilled.released_eq, Limit.Admits, pushReleased_ok, release_checked
-/
import LibAtbus.Detail.ReleaseBuffer
import LibAtbus.Proofs.BufferSides

namespace LibAtbus.Detail

open Word64 ByteMemory RingIndex CircularLayout ByteDeque

/-! ### Pushes -/

namespace StaticBuffer

/-- Where a push puts a block of a full size, if there is room, by the addresses of the first block
    and of the free space. -/
def sideStart (size head free fs : Nat) : Side → Option Nat
  | .front =>
      if head ≤ free then
        if fs ≤ bufferOffset head 0 then some (bufferOffset head 0 - fs)
        else if bufferOffset free size ≤ fs then none
          else some (free + (bufferOffset free size - fs))
      else if bufferOffset free head ≤ fs then none else some (free + (bufferOffset free head - fs))
  | .back =>
      if head ≤ free then
        if fs ≤ bufferOffset free size then some free
        else if bufferOffset 0 head ≤ fs then none else some 0
      else if bufferOffset free head ≤ fs then none else some free

/-- A block of `s` bytes put to a side at an address. -/
def putSide (buffer : StaticBuffer) (s start : Nat) : Side → StaticBuffer
  | .front => buffer.putFront s start
  | .back => buffer.putBack s start

end StaticBuffer

/-- Where the free space begins behind a push. -/
def freeBehind (free s start : Nat) : Side → Nat
  | .front => free
  | .back => start + fullSize s

/-- A block stays inside the area. -/
theorem sideStart_le {size head free fs start : Nat} {side : Side} (headWithin : head ≤ size)
    (freeWithin : free ≤ size)
    (place : StaticBuffer.sideStart size head free fs side = some start) : start + fs ≤ size := by
  have toEnd := StaticBuffer.bufferOffset_of_le freeWithin
  have toStart := StaticBuffer.bufferOffset_zero head
  have fromStart := StaticBuffer.bufferOffset_of_le (Nat.zero_le head)
  cases side with
  | front =>
      rw [StaticBuffer.sideStart, toEnd, toStart] at place
      split at place
      · split at place
        · cases place
          omega
        · split at place
          · cases place
          · cases place
            omega
      · rename_i wrapped
        rw [StaticBuffer.bufferOffset_of_le (Nat.le_of_not_le wrapped)] at place
        split at place
        · cases place
        · cases place
          omega
  | back =>
      rw [StaticBuffer.sideStart, toEnd, fromStart] at place
      split at place
      · split at place
        · cases place
          omega
        · split at place
          · cases place
          · cases place
            omega
      · rename_i wrapped
        rw [StaticBuffer.bufferOffset_of_le (Nat.le_of_not_le wrapped)] at place
        split at place
        · cases place
        · cases place
          omega

section

variable {buffer : StaticBuffer} {starts : List Nat} {free s start : Nat} {side : Side}

theorem Placed.putSide (placed : Placed buffer starts free)
    (room : starts.length + 1 ≠ buffer.circleIndex.length) (s start : Nat) (side : Side) :
    Placed (buffer.putSide s start side) (side.put start starts)
      (freeBehind free s start side) := by
  cases side with
  | front => exact placed.subHead room start _
  | back => exact placed.addTail room start _ _

theorem Placed.putSide_blocks (placed : Placed buffer starts free) (s start : Nat) (side : Side) :
    (buffer.putSide s start side).blocks start = .created start s (buffer.blocks start).store ∧
      ∀ other ≠ start, (buffer.putSide s start side).blocks other = buffer.blocks other := by
  cases side with
  | front => exact placed.putFront_blocks s start
  | back => exact placed.putBack_blocks s start

theorem putSide_size (buffer : StaticBuffer) (s start : Nat) (side : Side) :
    (buffer.putSide s start side).size = buffer.size ∧
      (buffer.putSide s start side).circleIndex.length = buffer.circleIndex.length := by
  cases side with
  | front => exact ⟨rfl, List.length_set⟩
  | back => exact ⟨rfl, List.length_set.trans List.length_set⟩

theorem Placed.entry_side (placed : Placed buffer (side.put start starts) free) :
    buffer.entry (buffer.sideIndex side) = some start := by
  cases side with
  | front => exact placed.entry_head
  | back => exact placed.entry_back

/-- What `static_push_back` does to the circle. -/
theorem Placed.pushBack_eq (placed : Placed buffer starts free) (s : Nat) : buffer.pushBack s =
    if starts.length + 1 = buffer.circleIndex.length then (.buffLimit, buffer)
    else (StaticBuffer.sideStart buffer.size (starts.headD free) free (fullSize s) .back).elim
      (.buffLimit, buffer)
      fun start => (.success, buffer.putBack s start) := by
  have atFree : buffer.assign buffer.tail (some free) = buffer :=
    StaticBuffer.assign_same placed.entry_tail
  simp only [StaticBuffer.pushBack, placed.full_iff, placed.emptyInit, placed.headAddress,
    placed.entry_tail, Option.getD_some, StaticBuffer.sideStart]
  by_cases full : starts.length + 1 = buffer.circleIndex.length
  · rw [if_pos full, if_pos full]
  rw [if_neg full, if_neg full]
  by_cases front : starts.headD free ≤ free
  · rw [if_pos front, if_pos front]
    by_cases fits : fullSize s ≤ StaticBuffer.bufferOffset free buffer.size
    · rw [if_pos fits, if_pos fits, create_eq fits, Option.elim_some, StaticBuffer.putBack, atFree]
    · rw [if_neg fits, if_neg fits]
      by_cases gap : StaticBuffer.bufferOffset 0 (starts.headD free) ≤ fullSize s
      · rw [if_pos gap, if_pos gap, Option.elim_none]
      · rw [if_neg gap, if_neg gap, create_eq (Nat.le_of_not_le gap), Option.elim_some,
          StaticBuffer.putBack]
  · rw [if_neg front, if_neg front]
    by_cases gap : StaticBuffer.bufferOffset free (starts.headD free) ≤ fullSize s
    · rw [if_pos gap, if_pos gap, Option.elim_none]
    · rw [if_neg gap, if_neg gap, create_eq (Nat.le_of_not_le gap), Option.elim_some,
        StaticBuffer.putBack, atFree]

/-- What `static_push_front` does to the circle. -/
theorem Placed.pushFront_eq (placed : Placed buffer starts free) (s : Nat) : buffer.pushFront s =
    if starts.length + 1 = buffer.circleIndex.length then (.buffLimit, buffer)
    else (StaticBuffer.sideStart buffer.size (starts.headD free) free (fullSize s) .front).elim
      (.buffLimit, buffer)
      fun start => (.success, buffer.putFront s start) := by
  simp only [StaticBuffer.pushFront, placed.full_iff, placed.emptyInit, placed.headAddress,
    placed.entry_tail, Option.getD_some, StaticBuffer.sideStart]
  by_cases full : starts.length + 1 = buffer.circleIndex.length
  · rw [if_pos full, if_pos full]
  rw [if_neg full, if_neg full]
  by_cases front : starts.headD free ≤ free
  · rw [if_pos front, if_pos front]
    by_cases fits : fullSize s ≤ StaticBuffer.bufferOffset (starts.headD free) 0
    · rw [if_pos fits, if_pos fits, create_eq (Nat.le_refl _), Option.elim_some,
        StaticBuffer.putFront]
    · rw [if_neg fits, if_neg fits]
      by_cases gap : StaticBuffer.bufferOffset free buffer.size ≤ fullSize s
      · rw [if_pos gap, if_pos gap, Option.elim_none]
      · rw [if_neg gap, if_neg gap, create_eq (Nat.le_refl _), Option.elim_some,
          StaticBuffer.putFront]
  · rw [if_neg front, if_neg front]
    by_cases gap : StaticBuffer.bufferOffset free (starts.headD free) ≤ fullSize s
    · rw [if_pos gap, if_pos gap, Option.elim_none]
    · rw [if_neg gap, if_neg gap, create_eq (Nat.le_refl _), Option.elim_some,
        StaticBuffer.putFront]

/-- A push is refused, or puts a block to a side and returns the pointer behind its header. -/
theorem Placed.released_eq (placed : Placed buffer starts free) (s : Nat) (side : Side) :
    buffer.released s side =
    if starts.length + 1 = buffer.circleIndex.length then some buffer.refused
    else (StaticBuffer.sideStart buffer.size (starts.headD free) free (fullSize s) side).elim
      (some buffer.refused)
      fun start => some (.success, some (start + headSize), buffer.putSide s start side) := by
  have entries : buffer.circleIndex ≠ [] := by
    intro none
    have circle := placed.circle
    rw [none] at circle
    cases circle
  have succeeded : ¬ErrorType.success.failed = true := by decide
  have pointed (room : starts.length + 1 ≠ buffer.circleIndex.length) (start : Nat) :
      ((buffer.putSide s start side).blockAt ((buffer.putSide s start side).sideIndex side)).data =
        start + headSize := by
    rw [StaticBuffer.blockAt, (placed.putSide room s start side).entry_side, Option.getD_some,
      (placed.putSide_blocks s start side).1]
    rfl
  unfold StaticBuffer.released
  rw [if_neg entries]
  cases side with
  | front =>
      simp only [placed.pushFront_eq s]
      by_cases full : starts.length + 1 = buffer.circleIndex.length
      · rw [if_pos full, if_pos full]
        rfl
      rw [if_neg full, if_neg full]
      cases StaticBuffer.sideStart buffer.size (starts.headD free) free (fullSize s) .front with
      | none => rfl
      | some start =>
          have data : ((buffer.putFront s start).blockAt (buffer.putFront s start).head).data =
              start + headSize :=
            pointed full start
          simp only [Option.elim_some, if_neg succeeded, data, StaticBuffer.putSide]
  | back =>
      simp only [placed.pushBack_eq s]
      by_cases full : starts.length + 1 = buffer.circleIndex.length
      · rw [if_pos full, if_pos full]
        rfl
      rw [if_neg full, if_neg full]
      cases StaticBuffer.sideStart buffer.size (starts.headD free) free (fullSize s) .back with
      | none => rfl
      | some start =>
          have data : ((buffer.putBack s start).blockAt
              ((buffer.putBack s start).prev (buffer.putBack s start).tail)).data = start +
                headSize :=
            pointed full start
          simp only [Option.elim_some, if_neg succeeded, data, StaticBuffer.putSide]

/-! ### Pops -/

/-- The buffer without the block at a side. -/
def StaticBuffer.dropSide (buffer : StaticBuffer) : Side → StaticBuffer
  | .front => buffer.dropFront
  | .back => buffer.dropBack

/-- Where the free space begins behind the removal of a block that leaves others. -/
def freeLeft (free start : Nat) : Side → Nat
  | .front => free
  | .back => start

variable {freeUnwritable : Bool}

theorem Placed.dropSide (placed : Placed buffer (side.put start starts) free) :
    Placed (buffer.dropSide side) starts (if starts = [] then 0 else freeLeft free start side) := by
  cases side with
  | front => exact placed.dropFront
  | back => exact placed.dropBack

theorem dropSide_size (buffer : StaticBuffer) (side : Side) :
    (buffer.dropSide side).size = buffer.size ∧ (buffer.dropSide side).blocks = buffer.blocks := by
  obtain ⟨⟨backBlocks, backSize⟩, frontBlocks, frontSize⟩ := drop_blocks buffer
  cases side with
  | front => exact ⟨frontSize, frontBlocks⟩
  | back => exact ⟨backSize, backBlocks⟩

theorem dropSide_length (buffer : StaticBuffer) (side : Side) :
    (buffer.dropSide side).circleIndex.length = buffer.circleIndex.length := by
  cases side with
  | front =>
      rw [StaticBuffer.dropSide, StaticBuffer.dropFront, StaticBuffer.resetEmpty]
      split
      · exact List.length_set.trans List.length_set
      · exact List.length_set
  | back =>
      rw [StaticBuffer.dropSide, StaticBuffer.dropBack, StaticBuffer.resetEmpty]
      split
      · exact List.length_set.trans List.length_set
      · exact List.length_set

/-- What `static_pop_back` and `static_pop_front` do on a buffer with a block. -/
theorem Placed.popSide_eq (placed : Placed buffer (side.put start starts) free) (s : Nat)
    (freeUnwritable : Bool) :
    buffer.popSide s freeUnwritable side =
      ((buffer.blocks start).taken s, (buffer.blocks start).emptied s freeUnwritable,
        if (buffer.blocks start).emptied s freeUnwritable then
          (buffer.setBlock (buffer.sideIndex side)
            ((buffer.blocks start).pop ((buffer.blocks start).taken s))).dropSide
            side
        else buffer.setBlock (buffer.sideIndex side)
          ((buffer.blocks start).pop ((buffer.blocks start).taken s))) := by
  have block : buffer.blockAt (buffer.sideIndex side) = buffer.blocks start := by
    rw [StaticBuffer.blockAt, placed.entry_side, Option.getD_some]
  have kept := (placed.setBlock (buffer.sideIndex side)
    ((buffer.blocks start).pop ((buffer.blocks start).taken s))).resetEmpty Side.put_ne_nil
  cases side with
  | front =>
      rw [StaticBuffer.sideIndex] at block kept
      rw [StaticBuffer.popSide, StaticBuffer.popFront_eq buffer s freeUnwritable block, kept]
      rfl
  | back =>
      rw [StaticBuffer.sideIndex] at block kept
      rw [StaticBuffer.popSide, StaticBuffer.popBack_eq buffer s freeUnwritable block, kept]
      rfl

/-! ### Buffers without blocks -/

/-- The empty initialisation of a fresh buffer changes its indices and their entries. -/
theorem emptyInit_size (buffer : StaticBuffer) :
    buffer.emptyInit.size = buffer.size ∧
      buffer.emptyInit.circleIndex.length = buffer.circleIndex.length := by
  unfold StaticBuffer.emptyInit
  split
  · exact ⟨rfl, List.length_set⟩
  · exact ⟨rfl, rfl⟩

/-- A fresh buffer takes a push as the buffer it is initialised to. -/
theorem Fresh.released_eq (fresh : Fresh buffer) (s : Nat) (side : Side) :
    buffer.released s side = buffer.emptyInit.released s side := by
  have placed := fresh.emptyInit.placed
  have circle := fresh.circle
  have open' : ¬buffer.next buffer.tail = buffer.head := by
    rw [fresh.tail, fresh.head, StaticBuffer.next, Nat.mod_eq_of_lt (by omega)]
    exact Nat.one_ne_zero
  have initOpen : ¬buffer.emptyInit.next buffer.emptyInit.tail = buffer.emptyInit.head := by
    have initCircle := placed.circle
    rw [placed.full_iff, List.map_nil, List.length_nil]
    omega
  have entries : buffer.circleIndex ≠ [] := List.ne_nil_of_length_pos (by omega)
  have initEntries : buffer.emptyInit.circleIndex ≠ [] := by
    have initCircle := placed.circle
    exact List.ne_nil_of_length_pos (by omega)
  unfold StaticBuffer.released
  rw [if_neg entries, if_neg initEntries]
  cases side with
  | front => simp only [StaticBuffer.pushFront, if_neg open', if_neg initOpen, placed.emptyInit]
  | back => simp only [StaticBuffer.pushBack, if_neg open', if_neg initOpen, placed.emptyInit]

/-- A static buffer without blocks: there are no entries in its circle, nothing has been pushed, or
    it was emptied. -/
inductive Unfilled (buffer : StaticBuffer) : Prop where
  | noEntries (circle : buffer.circleIndex = []) (same : buffer.head = buffer.tail)
  | fresh (fresh : Fresh buffer)
  | emptied (placed : Placed buffer [] 0)

theorem Unfilled.empty (unfilled : Unfilled buffer) : buffer.empty = true := by
  cases unfilled with
  | noEntries circle same => exact decide_eq_true same
  | fresh fresh => exact fresh.empty
  | emptied placed => exact placed.empty_iff.mpr rfl

/-- A push into a buffer without blocks does not return, or is one into an emptied buffer. -/
theorem Unfilled.released_eq (unfilled : Unfilled buffer) (entries : buffer.circleIndex ≠ []) :
    ∃ emptied, Placed emptied [] 0 ∧ emptied.size = buffer.size ∧
      emptied.circleIndex.length = buffer.circleIndex.length ∧
      ∀ s side, buffer.released s side = emptied.released s side := by
  cases unfilled with
  | noEntries circle same => exact absurd circle entries
  | fresh fresh =>
      obtain ⟨size, length⟩ := emptyInit_size buffer
      exact ⟨buffer.emptyInit, fresh.emptyInit.placed, size, length, fresh.released_eq⟩
  | emptied placed => exact ⟨buffer, placed, rfl, rfl, fun _ _ => rfl⟩

end

/-! ### Calls of a manager -/

/-- A pop leaves the limits. -/
theorem Limit.popped_limits (limit : Limit) (s : Nat) (freed empty : Bool) :
    (limit.popped s freed empty).limitNumber = limit.limitNumber ∧
      (limit.popped s freed empty).limitSize = limit.limitSize := by
  unfold Limit.popped
  split <;> exact ⟨rfl, rfl⟩

/-- The counters and the limits are all there is. -/
theorem Limit.eq_of {limit other : Limit} (costNumber : limit.costNumber = other.costNumber)
    (costSize : limit.costSize = other.costSize)
    (limitNumber : limit.limitNumber = other.limitNumber)
    (limitSize : limit.limitSize = other.limitSize) : limit = other := by
  cases limit with
  | mk =>
      cases other with
      | mk =>
          cases costNumber
          cases costSize
          cases limitNumber
          cases limitSize
          rfl

theorem popSide_limits (manager : BufferManager) (s : Nat) (freeUnwritable : Bool) (side : Side) :
    (manager.popSide s freeUnwritable side).2.limit.limitNumber = manager.limit.limitNumber ∧
      (manager.popSide s freeUnwritable side).2.limit.limitSize = manager.limit.limitSize := by
  cases side with
  | front =>
      simp only [BufferManager.popSide, BufferManager.popFront]
      split
      · split
        · exact ⟨rfl, rfl⟩
        · exact Limit.popped_limits _ _ _ _
      · split
        · exact ⟨rfl, rfl⟩
        · exact Limit.popped_limits _ _ _ _
  | back =>
      simp only [BufferManager.popSide, BufferManager.popBack]
      split
      · split
        · exact ⟨rfl, rfl⟩
        · exact Limit.popped_limits _ _ _ _
      · split
        · exact ⟨rfl, rfl⟩
        · exact Limit.popped_limits _ _ _ _

/-- The limits as `push_back` and `push_front` compare them. -/
def Limit.Admits (limit : Limit) (s : Nat) : Prop :=
  ¬(0 < limit.limitNumber ∧ limit.limitNumber ≤ limit.costNumber) ∧
    ¬(0 < limit.limitSize ∧ limit.limitSize < wrap (limit.costSize + s))

/-- What a push that returns has done: nothing, or the push of its mode. -/
inductive PushReturned (heap : Heap) (manager : BufferManager) (s : Nat) (side : Side) :
    ErrorType → Option Nat → BufferManager → Prop where
  | limited : PushReturned heap manager s side .buffLimit none manager
  | noMemory : PushReturned heap manager s side .malloc none manager
  | dynamic (contents : Memory) (admits : manager.limit.Admits s)
      (mode : manager.staticBuffer = none) :
      PushReturned heap manager s side .success (some headSize)
        { manager with
          dynamicBuffer :=
            side.put (.created 0 s fun i => contents (headSize + i)) manager.dynamicBuffer
          limit := manager.limit.pushed s }
  | static {res : ErrorType} {pointer : Option Nat} (buffer pushedBuffer : StaticBuffer)
      (admits : manager.limit.Admits s) (mode : manager.staticBuffer = some buffer)
      (pushed : buffer.released s side = some (res, pointer, pushedBuffer)) :
      PushReturned heap manager s side res pointer
        { manager with
          staticBuffer := some pushedBuffer
          limit := if res.failed then manager.limit else manager.limit.pushed s }

theorem pushReleased_ok {heap : Heap} {manager after : BufferManager} {s : Nat} {side : Side}
    {res : ErrorType} {pointer : Option Nat}
    (result : manager.pushReleased heap s side = some (res, pointer, after)) :
    PushReturned heap manager s side res pointer after := by
  unfold BufferManager.pushReleased at result
  by_cases number : 0 < manager.limit.limitNumber ∧
    manager.limit.limitNumber ≤ manager.limit.costNumber
  · simp only [if_pos number] at result
    cases result
    exact .limited
  by_cases size : 0 < manager.limit.limitSize ∧
    manager.limit.limitSize < wrap (manager.limit.costSize + s)
  · simp only [if_neg number, if_pos size] at result
    cases result
    exact .limited
  simp only [if_neg number, if_neg size] at result
  cases mode : manager.staticBuffer with
  | none =>
      simp only [mode, BufferBlock.malloc] at result
      cases memory : heap (fullSize s) with
      | none =>
          simp only [memory] at result
          cases result
          exact .noMemory
      | some contents =>
          simp only [memory, create_eq (Nat.le_refl _), Option.map_some] at result
          cases result
          rw [← mode]
          exact .dynamic contents ⟨number, size⟩ mode
  | some buffer =>
      simp only [mode] at result
      cases pushed : buffer.released s side with
      | none =>
          rw [pushed] at result
          cases result
      | some made =>
          obtain ⟨res', pointer', buffer'⟩ := made
          rw [pushed] at result
          cases result
          exact .static buffer buffer' ⟨number, size⟩ mode pushed

/-! ### Builds with assertions -/

section

variable {buffer : StaticBuffer} {regions : List Region} {free s : Nat} {side : Side}
  {manager : BufferManager} {heap : Heap}

theorem headD_starts (regions : List Region) (free : Nat) :
    (regions.map Region.start).headD free = frontStart free regions := by
  cases regions <;> rfl

/-- Where a layout leaves room at the back is where the addresses of its circle do. -/
theorem sideStart_back {size length : Nat} (within : free ≤ size) :
    StaticBuffer.sideStart size (frontStart free regions) free length .back =
      backPlace size free regions length := by
  have fits : length ≤ size - free ↔ free + length ≤ size := by omega
  have gap : frontStart free regions ≤ length ↔ ¬length < frontStart free regions := Nat.not_lt.symm
  rw [StaticBuffer.sideStart, backPlace, StaticBuffer.bufferOffset_of_le within,
    StaticBuffer.bufferOffset_of_le (Nat.zero_le _), Nat.sub_zero]
  by_cases front : frontStart free regions ≤ free
  · simp only [if_pos front, fits, gap, ite_not]
  · have behind : frontStart free regions - free ≤ length ↔
        ¬free + length < frontStart free regions := by omega
    rw [StaticBuffer.bufferOffset_of_le (Nat.le_of_not_le front)]
    simp only [if_neg front, behind, ite_not]

/-- And at the front. -/
theorem sideStart_front {size length : Nat} (within : free ≤ size) :
    StaticBuffer.sideStart size (frontStart free regions) free length .front =
      frontPlace size free regions length := by
  have gap : size - free ≤ length ↔ ¬free + length < size := by omega
  rw [StaticBuffer.sideStart, frontPlace, StaticBuffer.bufferOffset_of_le within,
    StaticBuffer.bufferOffset_zero]
  by_cases front : frontStart free regions ≤ free
  · by_cases room : free + length < size
    · have start : free + (size - free - length) = size - length := by omega
      simp only [if_pos front, gap, ite_not, if_pos room, start]
    · simp only [if_pos front, gap, ite_not, if_neg room]
  · rw [StaticBuffer.bufferOffset_of_le (Nat.le_of_not_le front)]
    by_cases room : free + length < frontStart free regions
    · have behind : ¬frontStart free regions - free ≤ length := by omega
      have start : free + (frontStart free regions - free - length) = frontStart free regions -
          length := by omega
      simp only [if_neg front, if_neg behind, if_pos room, start]
    · have behind : frontStart free regions - free ≤ length := by omega
      simp only [if_neg front, if_pos behind, if_neg room]

/-- Between two calls a push whose full size does not wrap passes its assertions, and does without
    them what it does with them. -/
theorem Arranged.released_checked (arranged : Arranged buffer regions free) (sized : Sized s)
    (side : Side) :
    ∃ pushed, buffer.pushSide s side = .ok pushed ∧ buffer.released s side = some pushed := by
  have within : free ≤ buffer.size := arranged.circular.free_le
  rw [arranged.placed.released_eq, headD_starts, List.length_map]
  cases side with
  | front =>
      rw [StaticBuffer.pushSide, arranged.pushFrontChecked_eq sized, sideStart_front within]
      refine ⟨_, rfl, ?_⟩
      split
      · rfl
      · cases frontPlace buffer.size free regions (fullSize s) <;> rfl
  | back =>
      rw [StaticBuffer.pushSide, arranged.pushBackChecked_eq sized, sideStart_back within]
      refine ⟨_, rfl, ?_⟩
      split
      · rfl
      · cases backPlace buffer.size free regions (fullSize s) <;> rfl

theorem Kept.released_checked (kept : Kept buffer) (sized : Sized s) (side : Side) :
    ∃ pushed, buffer.pushSide s side = .ok pushed ∧ buffer.released s side = some pushed := by
  rcases kept with fresh | ⟨regions, free, arranged⟩
  · rw [fresh.pushSide_eq, fresh.released_eq]
    exact fresh.emptyInit.released_checked sized side
  · exact arranged.released_checked sized side

/-- A push of a manager whose full size does not wrap. -/
theorem pushReleased_checked (mode : manager.staticBuffer = none ∨ InStaticMode manager)
    (sized : Sized s) (heap : Heap) (side : Side) :
    ∃ pushed, manager.pushSide heap s side = .ok pushed ∧
      manager.pushReleased heap s side = some pushed := by
  unfold BufferManager.pushSide BufferManager.pushWith BufferManager.pushReleased
  by_cases number : 0 < manager.limit.limitNumber ∧
    manager.limit.limitNumber ≤ manager.limit.costNumber
  · simp only [if_pos number]
    exact ⟨_, rfl, rfl⟩
  by_cases size : 0 < manager.limit.limitSize ∧
    manager.limit.limitSize < wrap (manager.limit.costSize + s)
  · simp only [if_neg number, if_pos size]
    exact ⟨_, rfl, rfl⟩
  simp only [if_neg number, if_neg size]
  rcases mode with dynamic | ⟨buffer, static, kept⟩
  · simp only [dynamic, dynamicPush_eq sized, BufferBlock.malloc]
    cases memory : heap (fullSize s) with
    | none => exact ⟨_, rfl, congrArg some (by rw [← dynamic]; rfl)⟩
    | some contents =>
        simp only [create_eq (Nat.le_refl _)]
        exact ⟨_, rfl, rfl⟩
  · obtain ⟨pushed, checked, released⟩ := kept.released_checked sized side
    simp only [static, checked, released]
    exact ⟨_, rfl, rfl⟩

/-- A call whose full size does not wrap passes its assertions, and does without them what it does
    with them. -/
theorem release_checked {call : BufferCall}
    (mode : manager.staticBuffer = none ∨ InStaticMode manager) (sized : call.Sized) :
    ∃ done, manager.call call = .ok done ∧ manager.release call = some done := by
  cases call with
  | pushBack heap s => exact pushReleased_checked mode sized heap .back
  | pushFront heap s => exact pushReleased_checked mode sized heap .front
  | popBack s freeUnwritable => exact ⟨_, rfl, rfl⟩
  | popFront s freeUnwritable => exact ⟨_, rfl, rfl⟩

end

end LibAtbus.Detail
