/-
Module: LibAtbus.Detail.BufferBytes
Layer: Detail
Purpose: A `buffer_manager` with the bytes of its static buffer. The headers of the static blocks,
  the data that the users of the manager write through the pointers it gives them, and the pattern
  that a debug build fills a destroyed block with all go to the same bytes. In dynamic mode every
  block has bytes of its own. The events are the calls that change a manager and such writes;
  `front`, `back` and `empty` only look at it.
Trusted boundary: human-reviewed spec; what `malloc` gives out at one time adds up to no more than
  the address space
Main exports: BufferView, BufferManager.frontView, BufferManager.backView, BufferManager.liveBlocks,
  MappedManager, MappedManager.call, MappedManager.write, BufferEvent, bufferStep
-/
import LibAtbus.Detail.CheckedBuffer

namespace LibAtbus.Detail

open Word64 ByteMemory RingIndex

/-! ### front and back -/

/-- What `front` and `back` return: the code, the pointer, `nread` and `nwrite`. -/
structure BufferView where
  code : ErrorType
  pointer : Option Nat
  nread : Nat
  nwrite : Nat
deriving DecidableEq, Repr

/-- The answer about a block, or about none. -/
def BufferView.ofBlock : Option BufferBlock → BufferView
  | none => ⟨.noData, none, 0, 0⟩
  | some block => ⟨.success, some block.data, sub block.rawSize block.size, block.size⟩

/-- `front`. -/
def BufferManager.frontView (manager : BufferManager) : BufferView := .ofBlock manager.front

/-- `back`. -/
def BufferManager.backView (manager : BufferManager) : BufferView := .ofBlock manager.back

/-! ### Live blocks -/

namespace StaticBuffer

/-- The number of indices from the head to the tail. -/
def count (buffer : StaticBuffer) : Nat :=
  RingIndex.dist buffer.circleIndex.length buffer.head buffer.tail

/-- The index of a live block, counted from the head. -/
def liveIndex (buffer : StaticBuffer) (i : Nat) : Nat :=
  slot buffer.circleIndex.length buffer.head i

end StaticBuffer

/-- The live block at a place, counted from the front. -/
def BufferManager.block? (manager : BufferManager) (i : Nat) : Option BufferBlock :=
  match manager.staticBuffer with
  | none => manager.dynamicBuffer[i]?
  | some buffer => if i < buffer.count then some (buffer.blockAt (buffer.liveIndex i)) else none

/-- The live blocks, from the front. -/
def BufferManager.liveBlocks (manager : BufferManager) : List BufferBlock :=
  match manager.staticBuffer with
  | none => manager.dynamicBuffer
  | some buffer => (List.range buffer.count).map fun i => buffer.blockAt (buffer.liveIndex i)

/-! ### The bytes of a static buffer -/

/-- A manager with the bytes of its static buffer. -/
structure MappedManager where
  manager : BufferManager
  bytes : Memory

/-- The three words of a header. -/
def BufferBlock.header (block : BufferBlock) : List UInt8 :=
  toLE 8 block.rawSize ++ toLE 8 block.used ++ toLE 8 block.pointer

/-- What `create` writes for a block of `s` bytes, from whose data pointer the address is known. -/
def createBytes (bytes : Memory) (pointer s : Nat) : Memory :=
  writeBytes bytes (pointer - headSize) (toLE 8 s ++ toLE 8 0 ++ toLE 8 pointer)

/-- What `static_pop_back` and `static_pop_front` write: the second word of the header under an
    index, and then the pattern of `destroy` if they free the block. -/
def StaticBuffer.popBytes (buffer : StaticBuffer) (bytes : Memory) (index s : Nat)
    (freeUnwritable : Bool) : Memory :=
  let address := (buffer.entry index).getD 0
  let block := buffer.blockAt index
  let s := if block.size < s then block.size else s
  let popped := block.pop s
  let bytes := writeBytes bytes (address + 8) (toLE 8 popped.used)
  if freeUnwritable && decide (popped.size = 0) then
    writeBytes bytes address (List.replicate (fullSize popped.rawSize) 0x5e)
  else bytes

namespace MappedManager

/-- The bytes after a push that returned a pointer. -/
def pushBytes (mapped : MappedManager) (s : Nat) (pointer : Option Nat) : Memory :=
  match mapped.manager.staticBuffer with
  | none => mapped.bytes
  | some _ => pointer.elim mapped.bytes fun pointer => createBytes mapped.bytes pointer s

/-- The bytes after a pop of the block under an index. -/
def popBytes (mapped : MappedManager) (index : StaticBuffer → Nat) (s : Nat)
    (freeUnwritable : Bool) : Memory :=
  match mapped.manager.staticBuffer with
  | none => mapped.bytes
  | some buffer =>
      if buffer.empty then mapped.bytes
        else buffer.popBytes mapped.bytes (index buffer) s freeUnwritable

/-- The bytes after a call that returned a pointer or NULL. -/
def callBytes (mapped : MappedManager) (call : BufferCall) (pointer : Option Nat) : Memory :=
  match call with
  | .pushBack _ s => mapped.pushBytes s pointer
  | .pushFront _ s => mapped.pushBytes s pointer
  | .popBack s freeUnwritable =>
      mapped.popBytes (fun buffer => buffer.prev buffer.tail) s freeUnwritable
  | .popFront s freeUnwritable => mapped.popBytes StaticBuffer.head s freeUnwritable

/-- A call, with what it does to the bytes. -/
def call (mapped : MappedManager) (call : BufferCall) : Except Fault (Pushed MappedManager) := do
  let (res, pointer, manager) ← mapped.manager.call call
  return (res, pointer, ⟨manager, mapped.callBytes call pointer⟩)

/-- A user's write to the data of the live block at a place, from an offset on. -/
def write (mapped : MappedManager) (i offset : Nat) (bytes : List UInt8) : MappedManager :=
  match mapped.manager.staticBuffer with
  | none =>
      let blocks := mapped.manager.dynamicBuffer.modify i fun block =>
        { block with store := writeBytes block.store offset bytes }
      { mapped with manager := { mapped.manager with dynamicBuffer := blocks } }
  | some buffer =>
      { mapped with
        bytes :=
          writeBytes mapped.bytes ((buffer.blockAt (buffer.liveIndex i)).pointer + offset) bytes }

/-- A byte of the data of a block, counted from its `pointer_`. -/
def byteAt (mapped : MappedManager) (block : BufferBlock) (k : Nat) : UInt8 :=
  match mapped.manager.staticBuffer with
  | none => block.store k
  | some _ => mapped.bytes (block.pointer + k)

end MappedManager

/-! ### Runs -/

/-- What happens to a manager: a call with the code and the pointer it returned, or a write to a
    live block. -/
inductive BufferEvent where
  | called (call : BufferCall) (res : ErrorType) (pointer : Option Nat)
  | wrote (i offset : Nat) (bytes : List UInt8)

/-- The full sizes of the blocks in dynamic mode. -/
def BufferManager.allocated (manager : BufferManager) : Nat :=
  (manager.dynamicBuffer.map fun block => fullSize block.rawSize).sum

/-- `malloc` finds room in the address space behind what it has given out, or returns NULL. -/
def BufferManager.Mallocs (manager : BufferManager) (heap : Heap) (s : Nat) : Prop :=
  manager.staticBuffer = none → (heap (fullSize s)).isSome = true →
    manager.allocated + fullSize s ≤ 2 ^ 64

/-- One event. The bytes that a user writes are among those that the push of the block gave him. -/
inductive bufferStep : MappedManager → BufferEvent → MappedManager → Prop where
  | called {mapped after : MappedManager} {call : BufferCall} {res : ErrorType}
      {pointer : Option Nat} (returned : mapped.call call = .ok (res, pointer, after)) :
      bufferStep mapped (.called call res pointer) after
  | wrote {mapped : MappedManager} {i offset : Nat} {bytes : List UInt8} {block : BufferBlock}
      (live : mapped.manager.block? i = some block)
      (inside : offset + bytes.length ≤ block.rawSize) :
      bufferStep mapped (.wrote i offset bytes) (mapped.write i offset bytes)

/-- The managers before any push: in dynamic mode with the limits of `set_limit`, or as `set_mode`
    leaves them. -/
inductive BufferStart : MappedManager → Prop where
  | dynamic (maxSize maxNumber : Nat) (bytes : Memory) :
      BufferStart ⟨BufferManager.reset.setLimit maxSize maxNumber, bytes⟩
  | set (heap : Heap) (maxSize maxNumber : Nat) (bytes : Memory) (word : maxSize < 2 ^ 64) :
      BufferStart ⟨BufferManager.setMode heap maxSize maxNumber, bytes⟩

end LibAtbus.Detail
