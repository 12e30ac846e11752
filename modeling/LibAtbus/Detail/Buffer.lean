/-
Module: LibAtbus.Detail.Buffer
Layer: Detail
Purpose: `buffer_block` and `buffer_manager` of `src/detail/buffer.cpp`, in the dynamic mode, where
  every block is a `malloc` of its own, and in the static mode, where the blocks lie in one circular
  buffer and pointers are offsets in it. A block knows how many bytes behind its header are really
  its own, so a write through a pointer to its data can be checked against them. Arithmetic on
  `size_t` wraps as in the source.
Trusted boundary: human-reviewed spec; the addresses `malloc` returns are left out, and this is a
  build without assertions
Main exports: BufferBlock, BufferManager, BufferManager.pushBack, BufferManager.popBack,
  BufferManager.popFront, BufferManager.setLimit, BufferManager.setMode
-/
import LibAtbus.Detail.ErrorType
import LibAtbus.Foundation.ByteMemory
import LibAtbus.Foundation.Word64

namespace LibAtbus.Detail

open Word64 ByteMemory

/-- What `malloc` answers at some moment: for a size, NULL or a region of that many bytes with the
    contents it happens to have. -/
abbrev Heap := Nat → Option Memory

/-- An access outside the bytes the program may use, or a failed assertion. -/
inductive Fault where
  | headRead
  | blockRead
  | blockWrite
  | assertion
deriving DecidableEq, Repr

/-- A checked computation succeeds only through its first part. -/
theorem ok_of_bind {α β : Type} {first : Except Fault α} {next : α → Except Fault β} {result : β}
    (run : first >>= next = .ok result) :
    ∃ middle, first = .ok middle ∧ next middle = .ok result := by
  cases first with
  | error fault => cases run
  | ok middle => exact ⟨middle, rfl, run⟩

/-! ### buffer_block -/

/-- `padding_size`: the size rounded up to a multiple of `sizeof(size_t)`. -/
def paddingSize (s : Nat) : Nat := if s % 8 = 0 then s else sub (wrap (s + 8)) (s % 8)

/-- `head_size`, the same for every block: three words. -/
def headSize : Nat := paddingSize 24

/-- `full_size`. -/
def fullSize (s : Nat) : Nat := wrap (headSize + paddingSize s)

/-- A full size is a whole number of words. -/
theorem fullSize_le (s : Nat) : fullSize s ≤ 2 ^ 64 - 8 := by
  have words : paddingSize s % 8 = 0 := by
    unfold paddingSize
    split
    · assumption
    · unfold sub wrap
      omega
  have head : headSize = 24 := by decide
  unfold fullSize wrap
  omega

/-- `buffer_block`: the fields of the header, with the data area as a memory of its own counted from
    `pointer_`. Of the data area `room` bytes are allocated; no more fit behind a header. -/
structure BufferBlock where
  rawSize : Nat
  used : Nat
  pointer : Nat
  room : Nat
  store : Memory
  fits : headSize + room ≤ 2 ^ 64 - 8

namespace BufferBlock

theorem room_fits (bs : Nat) : headSize + (fullSize bs - headSize) ≤ 2 ^ 64 - 8 := by
  have head : headSize = 24 := by decide
  have words := fullSize_le bs
  omega

/-- A block nothing has been created in. -/
def unused (contents : Memory) : BufferBlock :=
  { rawSize := 0, used := 0, pointer := 0, room := 0, store := contents, fits := by decide }

/-- `size()`: the bytes that are not used yet. -/
def size (block : BufferBlock) : Nat := sub block.rawSize block.used

/-- `pop`. -/
def pop (block : BufferBlock) (s : Nat) : BufferBlock :=
  if block.rawSize < wrap (block.used + s) then { block with used := block.rawSize }
  else { block with used := wrap (block.used + s) }

/-- `create` at an address with `s` free bytes, for a block of `bs` bytes; `contents` is what the
    memory behind the header holds. It returns the block and the first address behind it. -/
def create (address s bs : Nat) (contents : Memory) : Option (BufferBlock × Nat) :=
  if s < fullSize bs then none
  else
    let block : BufferBlock :=
      { rawSize := bs, used := 0, pointer := address + headSize, room := fullSize bs - headSize
        store := contents, fits := room_fits bs }
    some (block, address + fullSize bs)

/-- `buffer_block::malloc`. -/
def malloc (heap : Heap) (s : Nat) : Option BufferBlock :=
  match heap (fullSize s) with
  | none => none
  | some contents => (create 0 (fullSize s) s fun i => contents (headSize + i)).map Prod.fst

/-- A write to the data area, counted from `pointer_`. -/
def write (block : BufferBlock) (offset : Nat) (bytes : List UInt8) : Except Fault BufferBlock :=
  if offset + bytes.length ≤ block.room then
    .ok { block with store := writeBytes block.store offset bytes }
  else .error .blockWrite

/-- A read of the data area, counted from `pointer_`. -/
def read (block : BufferBlock) (offset len : Nat) : Except Fault (List UInt8) :=
  if offset + len ≤ block.room then .ok (readBytes block.store offset len) else .error .blockRead

end BufferBlock

/-! ### buffer_manager -/

/-- `limit_t`. -/
structure Limit where
  costNumber : Nat
  costSize : Nat
  limitNumber : Nat
  limitSize : Nat
deriving DecidableEq, Repr

/-- `static_buffer_t` with a buffer: its size, the indices and the circle of block addresses, and
    the blocks by address. Addresses count from the start of the buffer; `none` is NULL. -/
structure StaticBuffer where
  size : Nat
  head : Nat
  tail : Nat
  circleIndex : List (Option Nat)
  blocks : Nat → BufferBlock

/-- `buffer_manager`. It is in static mode if it has a static buffer. -/
structure BufferManager where
  staticBuffer : Option StaticBuffer
  dynamicBuffer : List BufferBlock
  limit : Limit

namespace Limit

/-- The counters after a successful push of `s` bytes. -/
def pushed (limit : Limit) (s : Nat) : Limit :=
  { limit with costNumber := wrap (limit.costNumber + 1), costSize := wrap (limit.costSize + s) }

/-- The counters after a pop of `s` bytes that may have freed a block and emptied the manager. -/
def popped (limit : Limit) (s : Nat) (freed empty : Bool) : Limit :=
  if empty then { limit with costNumber := 0, costSize := 0 }
  else
    { limit with
      costNumber :=
        if freed && decide (0 < limit.costNumber) then limit.costNumber - 1 else limit.costNumber
      costSize := limit.costSize - if s ≤ limit.costSize then s else limit.costSize }

end Limit

namespace StaticBuffer

/-- The address stored under an index. -/
def entry (buffer : StaticBuffer) (index : Nat) : Option Nat := (buffer.circleIndex[index]?).join

/-- The block whose address is stored under an index. -/
def blockAt (buffer : StaticBuffer) (index : Nat) : BufferBlock :=
  buffer.blocks ((buffer.entry index).getD 0)

/-- The index behind another one in the circle. -/
def next (buffer : StaticBuffer) (index : Nat) : Nat := (index + 1) % buffer.circleIndex.length

/-- The index before another one in the circle. -/
def prev (buffer : StaticBuffer) (index : Nat) : Nat :=
  (index + buffer.circleIndex.length - 1) % buffer.circleIndex.length

/-- `static_empty`. -/
def empty (buffer : StaticBuffer) : Bool := buffer.head = buffer.tail

/-- The circle with an address stored under an index. -/
def assign (buffer : StaticBuffer) (index : Nat) (address : Option Nat) : StaticBuffer :=
  { buffer with circleIndex := buffer.circleIndex.set index address }

/-- A change of the block stored under an index. -/
def setBlock (buffer : StaticBuffer) (index : Nat) (block : BufferBlock) : StaticBuffer :=
  { buffer with
    blocks := fun address =>
      if address = (buffer.entry index).getD 0 then block else buffer.blocks address }

/-- The empty initialisation of `static_push_back`. -/
def emptyInit (buffer : StaticBuffer) : StaticBuffer :=
  if buffer.entry buffer.head = none ∨ buffer.entry buffer.tail = none then
    { buffer with head := 0, tail := 0, circleIndex := buffer.circleIndex.set 0 (some 0) }
  else buffer

/-- The tail becomes the given block, and the address behind it the new tail. -/
def addTail (buffer : StaticBuffer) (block : BufferBlock) (nextFree : Nat) : StaticBuffer :=
  let filled := buffer.setBlock buffer.tail block
  let moved := { filled with tail := buffer.next buffer.tail }
  moved.assign moved.tail (some nextFree)

/-- `buffer_offset`: the distance of two addresses. -/
def bufferOffset (l r : Nat) : Nat := if l < r then r - l else l - r

/-- `static_push_back`. -/
def pushBack (buffer : StaticBuffer) (s : Nat) : ErrorType × StaticBuffer :=
  if buffer.next buffer.tail = buffer.head then (.buffLimit, buffer)
  else
    let fs := fullSize s
    let buffer := buffer.emptyInit
    let head := (buffer.entry buffer.head).getD 0
    let tail := (buffer.entry buffer.tail).getD 0
    if head ≤ tail then
      let freeLen := bufferOffset tail buffer.size
      if fs ≤ freeLen then
        match BufferBlock.create tail freeLen s (buffer.blocks tail).store with
        | none => (.malloc, buffer)
        | some (block, nextFree) => (.success, buffer.addTail block nextFree)
      else
        -- the new block goes to the start of the buffer, and must leave a gap before the head
        let freeLen := bufferOffset 0 head
        if freeLen ≤ fs then (.buffLimit, buffer)
        else
          match BufferBlock.create 0 freeLen s (buffer.blocks 0).store with
          | none => (.malloc, buffer)
          | some (block, nextFree) =>
              (.success, (buffer.assign buffer.tail (some 0)).addTail block nextFree)
    else
      let freeLen := bufferOffset tail head
      if freeLen ≤ fs then (.buffLimit, buffer)
      else
        match BufferBlock.create tail freeLen s (buffer.blocks tail).store with
        | none => (.malloc, buffer)
        | some (block, nextFree) => (.success, buffer.addTail block nextFree)

/-- The reset to the initial indices that both pops make once the buffer is empty. -/
def resetEmpty (buffer : StaticBuffer) : StaticBuffer :=
  if buffer.empty then
    { buffer with head := 0, tail := 0, circleIndex := buffer.circleIndex.set 0 (some 0) }
  else buffer

/-- `static_pop_back` on a buffer with a block: the bytes popped and whether the block was freed. -/
def popBack (buffer : StaticBuffer) (s : Nat) (freeUnwritable : Bool) : Nat × Bool × StaticBuffer :=
  let index := buffer.prev buffer.tail
  let block := buffer.blockAt index
  let s := if block.size < s then block.size else s
  let popped := block.pop s
  let freed := freeUnwritable && decide (popped.size = 0)
  let buffer := buffer.setBlock index popped
  let buffer := if freed then { buffer.assign buffer.tail none with tail := index } else buffer
  (s, freed, buffer.resetEmpty)

/-- `static_pop_front` on a buffer with a block: the bytes popped and whether the block was
    freed. -/
def popFront (buffer : StaticBuffer) (s : Nat) (freeUnwritable : Bool) :
    Nat × Bool × StaticBuffer :=
  let index := buffer.head
  let block := buffer.blockAt index
  let s := if block.size < s then block.size else s
  let popped := block.pop s
  let freed := freeUnwritable && decide (popped.size = 0)
  let buffer := buffer.setBlock index popped
  let buffer :=
    if freed then { buffer.assign index none with head := buffer.next index } else buffer
  (s, freed, buffer.resetEmpty)

end StaticBuffer

namespace BufferManager

/-- The constructor, and `reset`: dynamic mode, no blocks, no limits. -/
def reset : BufferManager :=
  { staticBuffer := none, dynamicBuffer := [], limit := ⟨0, 0, 0, 0⟩ }

/-- `set_limit`. -/
def setLimit (manager : BufferManager) (maxSize maxNumber : Nat) : BufferManager :=
  match manager.staticBuffer with
  | none =>
      { manager with
        limit := { manager.limit with limitNumber := maxNumber, limitSize := maxSize } }
  | some _ => manager

/-- `set_mode`. Without memory for the buffer the manager stays in dynamic mode, without limits. -/
def setMode (heap : Heap) (maxSize maxNumber : Nat) : BufferManager :=
  if maxSize ≠ 0 ∧ 0 < maxNumber then
    match heap (paddingSize maxSize) with
    | none => reset
    | some contents =>
        { staticBuffer := some
            { size := paddingSize maxSize, head := 0, tail := 0
              circleIndex := List.replicate (succ maxNumber) none
              blocks := fun address => .unused fun i => contents (address + headSize + i) }
          dynamicBuffer := []
          limit := ⟨0, 0, maxNumber, maxSize⟩ }
  else reset

/-- `empty`. -/
def empty (manager : BufferManager) : Bool :=
  match manager.staticBuffer with
  | none => manager.dynamicBuffer.isEmpty
  | some buffer => buffer.empty

/-- `front`. -/
def front (manager : BufferManager) : Option BufferBlock :=
  match manager.staticBuffer with
  | none => manager.dynamicBuffer.head?
  | some buffer => if buffer.empty then none else some (buffer.blockAt buffer.head)

/-- `back`. -/
def back (manager : BufferManager) : Option BufferBlock :=
  match manager.staticBuffer with
  | none => manager.dynamicBuffer.getLast?
  | some buffer => if buffer.empty then none else some (buffer.blockAt (buffer.prev buffer.tail))

/-- `push_back`. The pointer it returns is to the data of the block that is then at the back. -/
def pushBack (heap : Heap) (manager : BufferManager) (s : Nat) : ErrorType × BufferManager :=
  let limit := manager.limit
  if 0 < limit.limitNumber ∧ limit.limitNumber ≤ limit.costNumber then (.buffLimit, manager)
  else if 0 < limit.limitSize ∧ limit.limitSize < wrap (limit.costSize + s)
    then (.buffLimit, manager)
  else
    match manager.staticBuffer with
    | none =>
        match BufferBlock.malloc heap s with
        | none => (.malloc, manager)
        | some block =>
            (.success,
              { manager with
                dynamicBuffer := manager.dynamicBuffer ++ [block], limit := limit.pushed s })
    | some buffer =>
        match buffer.pushBack s with
        | (.success, buffer) =>
            (.success, { manager with staticBuffer := some buffer, limit := limit.pushed s })
        | (res, buffer) => (res, { manager with staticBuffer := some buffer })

/-- `pop_back`. -/
def popBack (manager : BufferManager) (s : Nat) (freeUnwritable : Bool) :
    ErrorType × BufferManager :=
  match manager.staticBuffer with
  | none =>
      match manager.dynamicBuffer.getLast? with
      | none => (.noData, manager)
      | some block =>
          let s := if block.size < s then block.size else s
          let popped := block.pop s
          let freed := freeUnwritable && decide (popped.size ≤ 0)
          let kept := manager.dynamicBuffer.dropLast
          let blocks := if freed then kept else kept ++ [popped]
          (.success,
            { manager with
              dynamicBuffer := blocks, limit := manager.limit.popped s freed blocks.isEmpty })
  | some buffer =>
      if buffer.empty then (.noData, manager)
      else
        let popped := buffer.popBack s freeUnwritable
        (.success,
          { manager with
            staticBuffer := some popped.2.2
            limit := manager.limit.popped popped.1 popped.2.1 popped.2.2.empty })

/-- `pop_front`. -/
def popFront (manager : BufferManager) (s : Nat) (freeUnwritable : Bool) :
    ErrorType × BufferManager :=
  match manager.staticBuffer with
  | none =>
      match manager.dynamicBuffer with
      | [] => (.noData, manager)
      | block :: kept =>
          let s := if block.size < s then block.size else s
          let popped := block.pop s
          let freed := freeUnwritable && decide (popped.size ≤ 0)
          let blocks := if freed then kept else popped :: kept
          (.success,
            { manager with
              dynamicBuffer := blocks, limit := manager.limit.popped s freed blocks.isEmpty })
  | some buffer =>
      if buffer.empty then (.noData, manager)
      else
        let popped := buffer.popFront s freeUnwritable
        (.success,
          { manager with
            staticBuffer := some popped.2.2
            limit := manager.limit.popped popped.1 popped.2.1 popped.2.2.empty })

/-- A write through the data pointer of the block at the back, counted from its `pointer_`. -/
def writeBack (manager : BufferManager) (offset : Nat) (bytes : List UInt8) :
    Except Fault BufferManager :=
  match manager.staticBuffer with
  | none =>
      match manager.dynamicBuffer.getLast? with
      | none => .error .blockWrite
      | some block => do
          let block ← block.write offset bytes
          return { manager with dynamicBuffer := manager.dynamicBuffer.dropLast ++ [block] }
  | some buffer =>
      if buffer.empty then .error .blockWrite
      else do
        let index := buffer.prev buffer.tail
        let block ← (buffer.blockAt index).write offset bytes
        return { manager with staticBuffer := some (buffer.setBlock index block) }

/-- A read through the data pointer of the block at the back, counted from its `pointer_`. -/
def readBack (manager : BufferManager) (offset len : Nat) : Except Fault (List UInt8) :=
  match manager.back with
  | none => .error .blockRead
  | some block => block.read offset len

end BufferManager

end LibAtbus.Detail
