/-
Module: LibAtbus.Detail.CheckedBuffer
Layer: Detail
Purpose: The pushes of `buffer_manager` as a debug build runs them, with the assertions of `create`,
  `static_push_back` and `static_push_front`; a failed one ends the call with a fault. A push also
  returns the pointer it sets, counted from the start of the static buffer or of the block's own
  `malloc`. The calls on a manager are the four that change its blocks.
Trusted boundary: human-reviewed spec
Main exports: StaticBuffer.pushBackChecked, StaticBuffer.pushFrontChecked,
  BufferManager.pushBackChecked, BufferManager.pushFrontChecked, BufferCall, BufferManager.call
-/
import LibAtbus.Detail.Buffer

namespace LibAtbus.Detail

open Word64 ByteMemory

/-- `assert`. -/
def check (condition : Prop) [Decidable condition] : Except Fault Unit :=
  if condition then .ok () else .error .assertion

theorem check_ok {condition : Prop} [Decidable condition] (holds : condition) :
    check condition = .ok () :=
  if_pos holds

/-- What comes after a part that succeeds. -/
theorem ok_bind {α β : Type} (value : α) (next : α → Except Fault β) :
    (Except.ok value >>= next) = next value := rfl

/-- The code of a push, the pointer to the data of the new block (`none` is NULL), and what it
    leaves. -/
abbrev Pushed (β : Type) := ErrorType × Option Nat × β

namespace BufferBlock

/-- `data`. -/
def data (block : BufferBlock) : Nat := block.pointer + block.used

/-- `create`, which asserts that the data ends before the first address behind the block. -/
def createChecked (address s bs : Nat) (contents : Memory) :
    Except Fault (Option (BufferBlock × Nat)) :=
  match create address s bs contents with
  | none => .ok none
  | some (block, nextFree) => do
      check (block.pointer + block.rawSize ≤ nextFree)
      return some (block, nextFree)

/-- `buffer_block::malloc`. -/
def mallocChecked (heap : Heap) (s : Nat) : Except Fault (Option BufferBlock) :=
  match heap (fullSize s) with
  | none => .ok none
  | some contents => do
      let made ← createChecked 0 (fullSize s) s fun i => contents (headSize + i)
      return made.map Prod.fst

end BufferBlock

namespace StaticBuffer

/-- `add_tail` and the `assign_tail` behind it: the block is at the tail, and the address behind it
    is the new tail. -/
def addTailChecked (buffer : StaticBuffer) (block : BufferBlock) (nextFree : Nat) :
    Pushed StaticBuffer :=
  (.success, some ((buffer.setBlock buffer.tail block).blockAt buffer.tail).data,
    buffer.addTail block nextFree)

/-- `static_push_back`. -/
def pushBackChecked (buffer : StaticBuffer) (s : Nat) : Except Fault (Pushed StaticBuffer) := do
  check (2 ≤ buffer.circleIndex.length)
  if buffer.next buffer.tail = buffer.head then return (.buffLimit, none, buffer)
  else
    let fs := fullSize s
    let buffer := buffer.emptyInit
    let head := (buffer.entry buffer.head).getD 0
    let tail := (buffer.entry buffer.tail).getD 0
    if head ≤ tail then
      let freeLen := bufferOffset tail buffer.size
      if fs ≤ freeLen then
        match ← BufferBlock.createChecked tail freeLen s (buffer.blocks tail).store with
        | none => return (.malloc, none, buffer)
        | some (block, nextFree) =>
            check (nextFree ≤ buffer.size)
            return buffer.addTailChecked block nextFree
      else
        -- the new block goes to the start of the buffer, and must leave a gap before the head
        let freeLen := bufferOffset 0 head
        if freeLen ≤ fs then return (.buffLimit, none, buffer)
        else
          match ← BufferBlock.createChecked 0 freeLen s (buffer.blocks 0).store with
          | none => return (.malloc, none, buffer)
          | some (block, nextFree) =>
              check (nextFree ≤ head)
              return (buffer.assign buffer.tail (some 0)).addTailChecked block nextFree
    else
      let freeLen := bufferOffset tail head
      if freeLen ≤ fs then return (.buffLimit, none, buffer)
      else
        match ← BufferBlock.createChecked tail freeLen s (buffer.blocks tail).store with
        | none => return (.malloc, none, buffer)
        | some (block, nextFree) =>
            check (nextFree ≤ head)
            return buffer.addTailChecked block nextFree

/-- `sub_head`: the block becomes the head, at the given address. -/
def subHead (buffer : StaticBuffer) (block : BufferBlock) (start : Nat) : Pushed StaticBuffer :=
  let moved := { buffer with head := buffer.prev buffer.head }
  let after := (moved.assign moved.head (some start)).setBlock moved.head block
  (.success, some (after.blockAt after.head).data, after)

/-- `static_push_front`. -/
def pushFrontChecked (buffer : StaticBuffer) (s : Nat) : Except Fault (Pushed StaticBuffer) := do
  check (2 ≤ buffer.circleIndex.length)
  if buffer.next buffer.tail = buffer.head then return (.buffLimit, none, buffer)
  else
    let fs := fullSize s
    let buffer := buffer.emptyInit
    let head := (buffer.entry buffer.head).getD 0
    let tail := (buffer.entry buffer.tail).getD 0
    if head ≤ tail then
      let freeLen := bufferOffset head 0
      if fs ≤ freeLen then
        let start := freeLen - fs
        match ← BufferBlock.createChecked start fs s (buffer.blocks start).store with
        | none => return (.malloc, none, buffer)
        | some (block, nextFree) =>
            check (head = nextFree)
            return buffer.subHead block start
      else
        -- the new block goes to the end of the buffer, and must leave a gap behind the tail
        let freeLen := bufferOffset tail buffer.size
        if freeLen ≤ fs then return (.buffLimit, none, buffer)
        else
          let start := tail + (freeLen - fs)
          match ← BufferBlock.createChecked start fs s (buffer.blocks start).store with
          | none => return (.malloc, none, buffer)
          | some (block, nextFree) =>
              check (nextFree = buffer.size)
              return buffer.subHead block start
    else
      let freeLen := bufferOffset tail head
      if freeLen ≤ fs then return (.buffLimit, none, buffer)
      else
        let start := tail + (freeLen - fs)
        match ← BufferBlock.createChecked start fs s (buffer.blocks start).store with
        | none => return (.malloc, none, buffer)
        | some (block, nextFree) =>
            check (nextFree = head)
            return buffer.subHead block start

end StaticBuffer

namespace BufferManager

/-- `dynamic_push_back` and `dynamic_push_front`, which put the new block to one end or the
    other. -/
def dynamicPush (heap : Heap) (s : Nat) (blocks : List BufferBlock)
    (put : BufferBlock → List BufferBlock → List BufferBlock) :
    Except Fault (Pushed (List BufferBlock)) := do
  match ← BufferBlock.mallocChecked heap s with
  | none => return (.malloc, none, blocks)
  | some block => return (.success, some block.data, put block blocks)

/-- What `push_back` and `push_front` share: the limits, and the counters after a push that did not
    fail. -/
def pushWith (manager : BufferManager) (s : Nat)
    (static : StaticBuffer → Except Fault (Pushed StaticBuffer))
    (dynamic : List BufferBlock → Except Fault (Pushed (List BufferBlock))) :
    Except Fault (Pushed BufferManager) :=
  let limit := manager.limit
  if 0 < limit.limitNumber ∧ limit.limitNumber ≤ limit.costNumber
    then .ok (.buffLimit, none, manager)
  else if 0 < limit.limitSize ∧ limit.limitSize < wrap (limit.costSize + s)
    then .ok (.buffLimit, none, manager)
  else
    match manager.staticBuffer with
    | none => do
        let (res, pointer, blocks) ← dynamic manager.dynamicBuffer
        let limit := if res.failed then limit else limit.pushed s
        return (res, pointer, { manager with dynamicBuffer := blocks, limit := limit })
    | some buffer => do
        let (res, pointer, buffer) ← static buffer
        let limit := if res.failed then limit else limit.pushed s
        return (res, pointer, { manager with staticBuffer := some buffer, limit := limit })

/-- `push_back`. -/
def pushBackChecked (heap : Heap) (manager : BufferManager) (s : Nat) :
    Except Fault (Pushed BufferManager) :=
  manager.pushWith s (fun buffer => buffer.pushBackChecked s) fun blocks =>
    dynamicPush heap s blocks fun block blocks => blocks ++ [block]

/-- `push_front`. -/
def pushFrontChecked (heap : Heap) (manager : BufferManager) (s : Nat) :
    Except Fault (Pushed BufferManager) :=
  manager.pushWith s (fun buffer => buffer.pushFrontChecked s) fun blocks =>
    dynamicPush heap s blocks List.cons

end BufferManager

/-- A call that may change the blocks of a manager. -/
inductive BufferCall where
  | pushBack (heap : Heap) (s : Nat)
  | pushFront (heap : Heap) (s : Nat)
  | popBack (s : Nat) (freeUnwritable : Bool)
  | popFront (s : Nat) (freeUnwritable : Bool)

/-- The code a call returns, the pointer that a push sets, and the manager after it. -/
def BufferManager.call (manager : BufferManager) : BufferCall → Except Fault (Pushed BufferManager)
  | .pushBack heap s => manager.pushBackChecked heap s
  | .pushFront heap s => manager.pushFrontChecked heap s
  | .popBack s freeUnwritable =>
      let (res, after) := manager.popBack s freeUnwritable
      .ok (res, none, after)
  | .popFront s freeUnwritable =>
      let (res, after) := manager.popFront s freeUnwritable
      .ok (res, none, after)

/-! ### The assertions change nothing else -/

section

variable {res : ErrorType} {pointer : Option Nat} {s : Nat}

theorem createChecked_ok {address bs : Nat} {contents : Memory} {made : Option (BufferBlock × Nat)}
    (result : BufferBlock.createChecked address s bs contents = .ok made) :
    BufferBlock.create address s bs contents = made := by
  unfold BufferBlock.createChecked at result
  split at result
  · rename_i none
    rw [none]
    exact Except.ok.inj result
  · rename_i block nextFree created
    obtain ⟨done, -, result⟩ := ok_of_bind result
    rw [created]
    exact Except.ok.inj result

/-- A push whose assertions hold does what it does in a build without them. -/
theorem StaticBuffer.pushBackChecked_ok {buffer after : StaticBuffer}
    (result : buffer.pushBackChecked s = .ok (res, pointer, after)) :
    buffer.pushBack s = (res, after) := by
  obtain ⟨done, -, result⟩ := ok_of_bind result
  unfold StaticBuffer.pushBack
  split at result
  case isTrue full =>
    rw [if_pos full]
    cases result
    rfl
  case isFalse room =>
    rw [if_neg room]
    simp only at result ⊢
    split at result
    case isTrue straight =>
      rw [if_pos straight]
      split at result
      case isTrue fits =>
        rw [if_pos fits]
        obtain ⟨made, created, result⟩ := ok_of_bind result
        rw [createChecked_ok created]
        cases made with
        | none =>
            cases result
            rfl
        | some made =>
            obtain ⟨done, -, result⟩ := ok_of_bind result
            cases result
            rfl
      case isFalse short =>
        rw [if_neg short]
        split at result
        case isTrue noGap =>
          rw [if_pos noGap]
          cases result
          rfl
        case isFalse gap =>
          rw [if_neg gap]
          obtain ⟨made, created, result⟩ := ok_of_bind result
          rw [createChecked_ok created]
          cases made with
          | none =>
              cases result
              rfl
          | some made =>
              obtain ⟨done, -, result⟩ := ok_of_bind result
              cases result
              rfl
    case isFalse wrapped =>
      rw [if_neg wrapped]
      split at result
      case isTrue noGap =>
        rw [if_pos noGap]
        cases result
        rfl
      case isFalse gap =>
        rw [if_neg gap]
        obtain ⟨made, created, result⟩ := ok_of_bind result
        rw [createChecked_ok created]
        cases made with
        | none =>
            cases result
            rfl
        | some made =>
            obtain ⟨done, -, result⟩ := ok_of_bind result
            cases result
            rfl

theorem mallocChecked_ok {heap : Heap} {made : Option BufferBlock}
    (result : BufferBlock.mallocChecked heap s = .ok made) : BufferBlock.malloc heap s = made := by
  unfold BufferBlock.mallocChecked at result
  unfold BufferBlock.malloc
  cases memory : heap (fullSize s) with
  | none =>
      rw [memory] at result
      exact Except.ok.inj result
  | some contents =>
      rw [memory] at result
      obtain ⟨block, created, result⟩ := ok_of_bind result
      simp only [createChecked_ok created]
      exact Except.ok.inj result

theorem BufferManager.pushBackChecked_ok {manager after : BufferManager} {heap : Heap}
    (result : manager.pushBackChecked heap s = .ok (res, pointer, after)) :
    manager.pushBack heap s = (res, after) := by
  obtain ⟨staticBuffer, dynamicBuffer, limit⟩ := manager
  unfold BufferManager.pushBackChecked BufferManager.pushWith at result
  unfold BufferManager.pushBack
  by_cases number : 0 < limit.limitNumber ∧ limit.limitNumber ≤ limit.costNumber
  · simp only [if_pos number] at result ⊢
    cases result
    rfl
  by_cases size : 0 < limit.limitSize ∧ limit.limitSize < wrap (limit.costSize + s)
  · simp only [if_neg number, if_pos size] at result ⊢
    cases result
    rfl
  simp only [if_neg number, if_neg size] at result ⊢
  cases staticBuffer with
  | none =>
      obtain ⟨pushed, pushing, result⟩ := ok_of_bind result
      obtain ⟨made, created, pushing⟩ := ok_of_bind pushing
      rw [mallocChecked_ok created]
      cases made with
      | none =>
          cases pushing
          cases result
          rfl
      | some block =>
          cases pushing
          cases result
          rfl
  | some buffer =>
      obtain ⟨⟨res', pointer', buffer'⟩, pushing, result⟩ := ok_of_bind result
      simp only [StaticBuffer.pushBackChecked_ok pushing]
      cases result
      cases res' <;> rfl

end

end LibAtbus.Detail
