/-
Module: LibAtbus.Proofs.BufferSides
Layer: Proofs
Purpose: The pushes and pops of a manager, each pair said once for both sides. A push into an
  arranged static buffer is refused, or adds a region at its side; a pop consumes of the block at
  its side, and takes its region away if it is removed. A push in dynamic mode does the same with a
  block that `malloc` gave.
Trusted boundary: none
Main exports: BufferManager.pushSide, BufferManager.popSide, Arranged.pushed, Arranged.popped,
  dynamicPush_eq, pushWith_ok
-/
import LibAtbus.Foundation.ByteDeque
import LibAtbus.Proofs.StaticLayout

namespace LibAtbus.Detail

open Word64 ByteMemory RingIndex CircularLayout ByteDeque

/-! ### Sides -/

namespace StaticBuffer

/-- The index of the block at a side. -/
def sideIndex (buffer : StaticBuffer) : Side → Nat
  | .front => buffer.head
  | .back => buffer.prev buffer.tail

/-- The push of a side. -/
def pushSide (buffer : StaticBuffer) (s : Nat) : Side → Except Fault (Pushed StaticBuffer)
  | .front => buffer.pushFrontChecked s
  | .back => buffer.pushBackChecked s

/-- The pop of a side. -/
def popSide (buffer : StaticBuffer) (s : Nat) (freeUnwritable : Bool) :
    Side → Nat × Bool × StaticBuffer
  | .front => buffer.popFront s freeUnwritable
  | .back => buffer.popBack s freeUnwritable

end StaticBuffer

namespace BufferManager

/-- The push of a side. -/
def pushSide (heap : Heap) (manager : BufferManager) (s : Nat) (side : Side) :
    Except Fault (Pushed BufferManager) :=
  manager.pushWith s (fun buffer => buffer.pushSide s side) fun blocks =>
    dynamicPush heap s blocks side.put

/-- The pop of a side. -/
def popSide (manager : BufferManager) (s : Nat) (freeUnwritable : Bool) :
    Side → ErrorType × BufferManager
  | .front => manager.popFront s freeUnwritable
  | .back => manager.popBack s freeUnwritable

/-- The block at a side. -/
def side (manager : BufferManager) : Side → Option BufferBlock
  | .front => manager.front
  | .back => manager.back

end BufferManager

/-! ### Static mode -/

section

variable {buffer after : StaticBuffer} {regions rest : List Region} {region : Region} {free s : Nat}
  {freeUnwritable : Bool} {side : Side} {res : ErrorType} {pointer : Option Nat}

theorem Arranged.entry_side (arranged : Arranged buffer (side.put region rest) free) :
    buffer.entry (buffer.sideIndex side) = some region.start := by
  cases side with
  | front => exact arranged.entry_head
  | back => exact arranged.entry_back

/-- The region at a side is apart from the others. -/
theorem Arranged.apart_side (arranged : Arranged buffer (side.put region rest) free)
    {other : Region} (member : other ∈ rest) : region.Apart other := by
  have apart := arranged.circular.apart
  cases side with
  | front => exact List.rel_of_pairwise_cons apart member
  | back =>
      exact ((List.pairwise_append.mp apart).2.2 other member region
        (List.mem_singleton_self _)).symm

/-- A push of `s` bytes has put a block to an address, at a side of the regions. -/
structure PutAt (buffer after : StaticBuffer) (s : Nat) (side : Side) (regions : List Region)
    (start : Nat) : Prop where
  arranged : ∃ free, Arranged after (side.put ⟨start, fullSize s⟩ regions) free
  block : ∃ contents, after.blocks start = .created start s contents
  others : ∀ other ≠ start, after.blocks other = buffer.blocks other
  size : after.size = buffer.size

/-- A push into an arranged buffer is refused, or puts a block somewhere. -/
theorem Arranged.pushed (arranged : Arranged buffer regions free) (sized : Sized s)
    (result : buffer.pushSide s side = .ok (res, pointer, after)) :
    (res = .buffLimit ∧ pointer = none ∧ after = buffer) ∨
      (res = .success ∧ ∃ start, pointer = some (start + headSize) ∧
        PutAt buffer after s side regions start) := by
  cases side with
  | front =>
      rw [StaticBuffer.pushSide, arranged.pushFrontChecked_eq sized] at result
      split at result
      · cases result
        exact .inl ⟨rfl, rfl, rfl⟩
      · rename_i room
        cases place : frontPlace buffer.size free regions (fullSize s) with
        | none =>
            rw [place] at result
            cases result
            exact .inl ⟨rfl, rfl, rfl⟩
        | some start =>
            rw [place] at result
            cases result
            have blocks := arranged.placed.putFront_blocks s start
            exact .inr ⟨rfl, start, rfl, ⟨free, arranged.putFront sized room place⟩, ⟨_, blocks.1⟩,
              blocks.2, rfl⟩
  | back =>
      rw [StaticBuffer.pushSide, arranged.pushBackChecked_eq sized] at result
      split at result
      · cases result
        exact .inl ⟨rfl, rfl, rfl⟩
      · rename_i room
        cases place : backPlace buffer.size free regions (fullSize s) with
        | none =>
            rw [place] at result
            cases result
            exact .inl ⟨rfl, rfl, rfl⟩
        | some start =>
            rw [place] at result
            cases result
            have blocks := arranged.placed.putBack_blocks s start
            exact .inr ⟨rfl, start, rfl, ⟨_, arranged.putBack sized room place⟩, ⟨_, blocks.1⟩,
              blocks.2, rfl⟩

/-- A fresh buffer takes a push as the buffer it is initialised to. -/
theorem Fresh.pushSide_eq (fresh : Fresh buffer) :
    buffer.pushSide s side = buffer.emptyInit.pushSide s side := by
  cases side with
  | front => exact (fresh.push_eq s).2
  | back => exact (fresh.push_eq s).1

/-- A pop of an arranged buffer: the block at the side is consumed, and its region goes if it is
    removed. -/
theorem Arranged.popped (arranged : Arranged buffer (side.put region rest) free) (s : Nat)
    (freeUnwritable : Bool) :
    ∃ after, buffer.popSide s freeUnwritable side =
        (min s ((buffer.blocks region.start).rawSize - (buffer.blocks region.start).used),
          removes (buffer.blocks region.start) s freeUnwritable, after) ∧
      (∃ free, Arranged after
        (if removes (buffer.blocks region.start) s freeUnwritable then rest
          else side.put region rest) free) ∧
      after.blocks region.start = (buffer.blocks region.start).consume s ∧
      (∀ other ≠ region.start, after.blocks other = buffer.blocks other) ∧
      after.size = buffer.size := by
  have stored := arranged.entry_side
  have member : region ∈ side.put region rest := Side.mem_put.mpr (.inl rfl)
  have changed := arranged.setBlock stored ((arranged.occupied region member).consume s) member
  have consumed :
      (buffer.setBlock (buffer.sideIndex side) ((buffer.blocks region.start).consume s)).blocks
      region.start =
      (buffer.blocks region.start).consume s := StaticBuffer.blocks_setBlock_self stored
  have others : ∀ other ≠ region.start,
      (buffer.setBlock (buffer.sideIndex side)
        ((buffer.blocks region.start).consume s)).blocks other = buffer.blocks other :=
    fun other ne => StaticBuffer.blocks_setBlock_ne stored ne
  cases side with
  | front =>
      refine ⟨_, arranged.popFront_eq, ?_⟩
      split
      · obtain ⟨-, blocks, size⟩ :=
          drop_blocks (buffer.setBlock buffer.head ((buffer.blocks region.start).consume s))
        refine ⟨⟨_, changed.dropFront⟩, ?_, fun other ne => ?_, size⟩
        · exact (congrFun blocks _).trans consumed
        · exact (congrFun blocks _).trans (others other ne)
      · exact ⟨⟨free, changed⟩, consumed, others, rfl⟩
  | back =>
      refine ⟨_, arranged.popBack_eq, ?_⟩
      split
      · obtain ⟨⟨blocks, size⟩, -⟩ := drop_blocks
          (buffer.setBlock (buffer.prev buffer.tail) ((buffer.blocks region.start).consume s))
        refine ⟨⟨_, changed.dropBack⟩, ?_, fun other ne => ?_, size⟩
        · exact (congrFun blocks _).trans consumed
        · exact (congrFun blocks _).trans (others other ne)
      · exact ⟨⟨free, changed⟩, consumed, others, rfl⟩

end

/-! ### Dynamic mode and the limits -/

section

variable {heap : Heap} {s : Nat} {blocks : List BufferBlock}
  {put : BufferBlock → List BufferBlock → List BufferBlock} {manager after : BufferManager}
  {res : ErrorType} {pointer : Option Nat}
  {static : StaticBuffer → Except Fault (Pushed StaticBuffer)}
  {dynamic : List BufferBlock → Except Fault (Pushed (List BufferBlock))}

/-- What `dynamic_push_back` and `dynamic_push_front` do. -/
theorem dynamicPush_eq (sized : Sized s) : BufferManager.dynamicPush heap s blocks put = .ok
    ((heap (fullSize s)).elim (.malloc, none, blocks) fun contents =>
      (.success, some headSize, put (.created 0 s fun i => contents (headSize + i)) blocks)) := by
  cases memory : heap (fullSize s) with
  | none =>
      simp only [BufferManager.dynamicPush, BufferBlock.mallocChecked, memory, ok_bind,
        Option.elim_none]; rfl
  | some contents =>
      simp only [BufferManager.dynamicPush, BufferBlock.mallocChecked, memory,
        createChecked_eq sized (le_refl _), ok_bind, Option.elim_some]
      rfl

/-- What a push that returns has done: nothing, or the push of its mode. -/
inductive PushDone (manager : BufferManager) (s : Nat)
    (static : StaticBuffer → Except Fault (Pushed StaticBuffer))
    (dynamic : List BufferBlock → Except Fault (Pushed (List BufferBlock))) (res : ErrorType)
    (pointer : Option Nat) :
    BufferManager → Prop where
  | limited (refused : res = .buffLimit) (null : pointer = none) :
      PushDone manager s static dynamic res pointer manager
  | dynamic (blocks : List BufferBlock) (mode : manager.staticBuffer = none)
      (pushed : dynamic manager.dynamicBuffer = .ok (res, pointer, blocks)) :
      PushDone manager s static dynamic res pointer
        { manager with
          dynamicBuffer := blocks
          limit := if res.failed then manager.limit else manager.limit.pushed s }
  | static (buffer pushedBuffer : StaticBuffer) (mode : manager.staticBuffer = some buffer)
      (pushed : static buffer = .ok (res, pointer, pushedBuffer)) :
      PushDone manager s static dynamic res pointer
        { manager with
          staticBuffer := some pushedBuffer
          limit := if res.failed then manager.limit else manager.limit.pushed s }

theorem pushWith_ok (result : manager.pushWith s static dynamic = .ok (res, pointer, after)) :
    PushDone manager s static dynamic res pointer after := by
  by_cases number : 0 < manager.limit.limitNumber ∧
    manager.limit.limitNumber ≤ manager.limit.costNumber
  · simp only [BufferManager.pushWith, if_pos number] at result
    cases result
    exact .limited rfl rfl
  by_cases size : 0 < manager.limit.limitSize ∧
    manager.limit.limitSize < wrap (manager.limit.costSize + s)
  · simp only [BufferManager.pushWith, if_neg number, if_pos size] at result
    cases result
    exact .limited rfl rfl
  simp only [BufferManager.pushWith, if_neg number, if_neg size] at result
  cases mode : manager.staticBuffer with
  | none =>
      simp only [mode] at result
      obtain ⟨⟨res', pointer', blocks⟩, pushed, result⟩ := ok_of_bind result
      cases result
      rw [← mode]
      exact .dynamic blocks mode pushed
  | some buffer =>
      simp only [mode] at result
      obtain ⟨⟨res', pointer', pushedBuffer⟩, pushed, result⟩ := ok_of_bind result
      cases result
      exact .static buffer pushedBuffer mode pushed

/-! ### Pops of a manager, and the blocks at its sides -/

variable {side : Side} {freeUnwritable : Bool} {block : BufferBlock} {region : Region}
  {kept : List BufferBlock} {buffer : StaticBuffer}

/-- A pop of a manager without blocks. -/
theorem dynamic_popSide_nil (mode : manager.staticBuffer = none)
    (blocks : manager.dynamicBuffer = []) :
    manager.popSide s freeUnwritable side = (.noData, manager) := by
  cases side with
  | front => simp only [BufferManager.popSide, BufferManager.popFront, mode, blocks]
  | back =>
      simp only [BufferManager.popSide, BufferManager.popBack, mode, blocks, List.getLast?_nil]

/-- A pop in dynamic mode. -/
theorem dynamic_popSide (mode : manager.staticBuffer = none)
    (blocks : manager.dynamicBuffer = side.put block kept) (occupies : Occupies block region) :
    manager.popSide s freeUnwritable side =
      (.success,
        { manager with
          dynamicBuffer :=
            if removes block s freeUnwritable then kept else side.put (block.consume s) kept
          limit :=
            manager.limit.popped (min s (block.rawSize - block.used))
              (removes block s freeUnwritable)
            (if removes block s freeUnwritable then kept else side.put
              (block.consume s) kept).isEmpty }) := by
  have exhausted : (freeUnwritable && decide ((block.consume s).size ≤ 0)) =
      removes block s freeUnwritable := by
    simp only [removes, Nat.le_zero]
  cases side with
  | front =>
      rw [Side.put] at blocks
      simp only [BufferManager.popSide, BufferManager.popFront, mode, blocks, occupies.least_eq,
        occupies.pop_eq, exhausted, Side.put]
  | back =>
      rw [Side.put] at blocks
      simp only [BufferManager.popSide, BufferManager.popBack, mode, blocks, List.getLast?_concat,
        List.dropLast_concat, occupies.least_eq, occupies.pop_eq, exhausted, Side.put]

/-- A pop of an empty static buffer. -/
theorem static_popSide_empty (mode : manager.staticBuffer = some buffer)
    (empty : buffer.empty = true) : manager.popSide s freeUnwritable side = (.noData, manager) := by
  cases side with
  | front => simp only [BufferManager.popSide, BufferManager.popFront, mode, empty, if_true]
  | back => simp only [BufferManager.popSide, BufferManager.popBack, mode, empty, if_true]

/-- A pop in static mode. -/
theorem static_popSide (mode : manager.staticBuffer = some buffer) (some : ¬buffer.empty = true) :
    manager.popSide s freeUnwritable side =
      (.success,
        { manager with
          staticBuffer := .some (buffer.popSide s freeUnwritable side).2.2
          limit := manager.limit.popped (buffer.popSide s freeUnwritable side).1
            (buffer.popSide s freeUnwritable side).2.1
            (buffer.popSide s freeUnwritable side).2.2.empty }) := by
  cases side with
  | front =>
      simp only [BufferManager.popSide, BufferManager.popFront, mode, if_neg some,
        StaticBuffer.popSide]
  | back =>
      simp only [BufferManager.popSide, BufferManager.popBack, mode, if_neg some,
        StaticBuffer.popSide]

/-- The block at a side in dynamic mode. -/
theorem dynamic_side (mode : manager.staticBuffer = none) :
    manager.side side = side.peek? manager.dynamicBuffer := by
  cases side with
  | front =>
      simp only [BufferManager.side, BufferManager.front, mode, Side.peek?, Side.take?,
        Option.map_map]
      exact Option.map_id'.symm
  | back =>
      simp only [BufferManager.side, BufferManager.back, mode, Side.peek?, Side.take?,
        Option.map_map]
      exact Option.map_id'.symm

/-- The block at a side in static mode. -/
theorem static_side (mode : manager.staticBuffer = some buffer) : manager.side side =
    if buffer.empty then none else some (buffer.blockAt (buffer.sideIndex side)) := by
  cases side with
  | front => simp only [BufferManager.side, BufferManager.front, mode, StaticBuffer.sideIndex]
  | back => simp only [BufferManager.side, BufferManager.back, mode, StaticBuffer.sideIndex]

end

end LibAtbus.Detail
