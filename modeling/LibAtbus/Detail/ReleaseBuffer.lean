/-
Module: LibAtbus.Detail.ReleaseBuffer
Layer: Detail
Purpose: The calls of `buffer_manager` in a build without assertions, for sizes of any `size_t`. A
  push returns the pointer it sets, counted from the start of the static buffer or of the block's
  own `malloc`; one that divides by the size of an empty circle does not return. The events of a
  manager are these calls and its configuration.
Trusted boundary: human-reviewed spec; headers that overlap in a static buffer, as those of blocks
  shorter than a header do, are kept apart
Main exports: StaticBuffer.pushFront, StaticBuffer.released, BufferManager.pushReleased,
  BufferManager.release, BufferManager.replies, releaseStep, ManagerEvent, managerStep
-/
import LibAtbus.Detail.CheckedBuffer
import LibAtbus.Foundation.ByteDeque

namespace LibAtbus.Detail

open Word64 ByteMemory ByteDeque

namespace StaticBuffer

/-- `static_push_front`. -/
def pushFront (buffer : StaticBuffer) (s : Nat) : ErrorType × StaticBuffer :=
  if buffer.next buffer.tail = buffer.head then (.buffLimit, buffer)
  else
    let fs := fullSize s
    let buffer := buffer.emptyInit
    let head := (buffer.entry buffer.head).getD 0
    let tail := (buffer.entry buffer.tail).getD 0
    if head ≤ tail then
      let freeLen := bufferOffset head 0
      if fs ≤ freeLen then
        let start := freeLen - fs
        match BufferBlock.create start fs s (buffer.blocks start).store with
        | none => (.malloc, buffer)
        | some (block, _) => (.success, (buffer.subHead block start).2.2)
      else
        -- the new block goes to the end of the buffer, and must leave a gap behind the tail
        let freeLen := bufferOffset tail buffer.size
        if freeLen ≤ fs then (.buffLimit, buffer)
        else
          let start := tail + (freeLen - fs)
          match BufferBlock.create start fs s (buffer.blocks start).store with
          | none => (.malloc, buffer)
          | some (block, _) => (.success, (buffer.subHead block start).2.2)
    else
      let freeLen := bufferOffset tail head
      if freeLen ≤ fs then (.buffLimit, buffer)
      else
        let start := tail + (freeLen - fs)
        match BufferBlock.create start fs s (buffer.blocks start).store with
        | none => (.malloc, buffer)
        | some (block, _) => (.success, (buffer.subHead block start).2.2)

/-- A push to a static buffer, with the pointer to the data of the new block. It needs an index to
    divide by. -/
def released (buffer : StaticBuffer) (s : Nat) (side : Side) : Option (Pushed StaticBuffer) :=
  if buffer.circleIndex = [] then none
  else
    let (res, after) :=
      match side with
      | .front => buffer.pushFront s
      | .back => buffer.pushBack s
    let index :=
      match side with
      | .front => after.head
      | .back => after.prev after.tail
    some (res, if res.failed then none else some (after.blockAt index).data, after)

end StaticBuffer

namespace BufferManager

/-- What `push_back` and `push_front` share. -/
def pushReleased (heap : Heap) (manager : BufferManager) (s : Nat) (side : Side) :
    Option (Pushed BufferManager) :=
  let limit := manager.limit
  if 0 < limit.limitNumber ∧ limit.limitNumber ≤ limit.costNumber
    then some (.buffLimit, none, manager)
  else if 0 < limit.limitSize ∧ limit.limitSize < wrap (limit.costSize + s)
    then some (.buffLimit, none, manager)
  else
    match manager.staticBuffer with
    | none =>
        match BufferBlock.malloc heap s with
        | none => some (.malloc, none, manager)
        | some block =>
            let blocks := side.put block manager.dynamicBuffer
            some (.success, some block.data,
              { manager with dynamicBuffer := blocks, limit := limit.pushed s })
    | some buffer =>
        match buffer.released s side with
        | none => none
        | some (res, pointer, buffer) =>
            let limit := if res.failed then limit else limit.pushed s
            some (res, pointer, { manager with staticBuffer := some buffer, limit := limit })

/-- The code a call returns, the pointer that a push sets, and the manager after it. -/
def release (manager : BufferManager) : BufferCall → Option (Pushed BufferManager)
  | .pushBack heap s => manager.pushReleased heap s .back
  | .pushFront heap s => manager.pushReleased heap s .front
  | .popBack s freeUnwritable =>
      let (res, after) := manager.popBack s freeUnwritable
      some (res, none, after)
  | .popFront s freeUnwritable =>
      let (res, after) := manager.popFront s freeUnwritable
      some (res, none, after)

/-- What a sequence of calls answers, up to the first that does not return: the codes, the pointers
    and the counters after each. -/
def replies : BufferManager → List BufferCall → List (ErrorType × Option Nat × Limit)
  | _, [] => []
  | manager, call :: calls =>
      match manager.release call with
      | none => []
      | some (res, pointer, after) => (res, pointer, after.limit) :: after.replies calls

end BufferManager

/-- A call that returns. -/
def releaseStep (before : BufferManager) (call : BufferCall) (after : BufferManager) : Prop :=
  ∃ res pointer, before.release call = some (res, pointer, after)

/-! ### Runs -/

/-- The argument of a call is a `size_t`. -/
def BufferCall.Word : BufferCall → Prop
  | .pushBack _ s => s < 2 ^ 64
  | .pushFront _ s => s < 2 ^ 64
  | .popBack s _ => s < 2 ^ 64
  | .popFront s _ => s < 2 ^ 64

/-- What happens to a manager: a call with the code and the pointer it returned, or a
    configuration. -/
inductive ManagerEvent where
  | called (call : BufferCall) (res : ErrorType) (pointer : Option Nat)
  | setLimit (maxSize maxNumber : Nat)
  | setMode (heap : Heap) (maxSize maxNumber : Nat)
  | reset

/-- One event, at any time. -/
inductive managerStep (manager : BufferManager) : ManagerEvent → BufferManager → Prop where
  | called {call : BufferCall} {res : ErrorType} {pointer : Option Nat} {after : BufferManager}
      (word : call.Word) (returned : manager.release call = some (res, pointer, after)) :
      managerStep manager (.called call res pointer) after
  | setLimit {maxSize maxNumber : Nat} (sizeWord : maxSize < 2 ^ 64)
      (numberWord : maxNumber < 2 ^ 64) :
      managerStep manager (.setLimit maxSize maxNumber) (manager.setLimit maxSize maxNumber)
  | setMode {heap : Heap} {maxSize maxNumber : Nat} (sizeWord : maxSize < 2 ^ 64)
      (numberWord : maxNumber < 2 ^ 64) :
      managerStep manager (.setMode heap maxSize maxNumber)
      (BufferManager.setMode heap maxSize maxNumber)
  | reset : managerStep manager .reset BufferManager.reset

end LibAtbus.Detail
