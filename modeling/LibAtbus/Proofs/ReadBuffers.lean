/-
Module: LibAtbus.Proofs.ReadBuffers
Layer: Proofs
Purpose: A buffer manager as the receiving side of a stream uses it: at most one block at a time,
  pushed when the manager is empty and freed when it is full. `Holds` says what the manager keeps in
  either mode; every operation has one lemma about it, and nothing above this module looks inside a
  manager.
Trusted boundary: none
Main exports: Holds, Accepts, makeBuffers_holds, Holds.pushBack_accepted, Holds.pushBack_refused,
  Holds.writeBack, Holds.popBack, Holds.popFront
-/
import LibAtbus.Channel.IoStream

namespace LibAtbus.Channel

open Detail Word64 ByteMemory

/-- What the size of a circle is not: `set_mode` makes it one larger than a number above zero, or
    zero. -/
def CircleSize (length : Nat) : Prop := length ≠ 1

/-- The manager keeps the given content, under a limit on the size, in dynamic mode or in a static
    buffer of the given size. A static buffer that is empty, or was so before its only block, starts
    at the front. -/
inductive Holds (limitSize : Nat) : Option Nat → Option BufferBlock → BufferManager → Prop where
  | dynamicEmpty : Holds limitSize none none ⟨none, [], ⟨0, 0, 0, limitSize⟩⟩
  | dynamicBlock (block : BufferBlock) (costNumber costSize : Nat) :
      Holds limitSize none (some block) ⟨none, [block], ⟨costNumber, costSize, 0, limitSize⟩⟩
  | staticEmpty (buffer : StaticBuffer) (limitNumber : Nat) (head : buffer.head = 0)
      (tail : buffer.tail = 0) (circle : CircleSize buffer.circleIndex.length)
      (number : 0 < limitNumber) (first : buffer.entry 0 = none ∨ buffer.entry 0 = some 0) :
      Holds limitSize (some buffer.size) none ⟨some buffer, [], ⟨0, 0, limitNumber, limitSize⟩⟩
  | staticBlock (buffer : StaticBuffer) (costNumber costSize limitNumber : Nat)
      (head : buffer.head = 0)
      (tail : buffer.tail = 1) (circle : CircleSize buffer.circleIndex.length)
      (number : 0 < limitNumber) (first : buffer.entry 0 = none ∨ buffer.entry 0 = some 0) :
      Holds limitSize (some buffer.size) (some (buffer.blocks 0))
        ⟨some buffer, [], ⟨costNumber, costSize, limitNumber, limitSize⟩⟩

/-- An empty manager takes a block of `s` bytes: the limit allows it, and there is memory for it. -/
def Accepts (limitSize : Nat) (static : Option Nat) (heap : Heap) (s : Nat) : Prop :=
  (limitSize = 0 ∨ wrap s ≤ limitSize) ∧
    match static with
    | none => (heap (fullSize s)).isSome = true
    | some size => fullSize s ≤ size

/-- A new block of `s` bytes. -/
structure FreshBlock (s : Nat) (block : BufferBlock) : Prop where
  rawSize : block.rawSize = s
  used : block.used = 0
  room : block.room = fullSize s - headSize

/-! ### Configuration -/

/-- A manager set up for a connection is empty; its limit is the configured one, or there is
    none. -/
theorem makeBuffers_holds (heap : Heap) (maxSize number : Nat) :
    Holds (makeBuffers heap maxSize number).limit.limitSize
        ((makeBuffers heap maxSize number).staticBuffer.map StaticBuffer.size) none
        (makeBuffers heap maxSize number) ∧
      ((makeBuffers heap maxSize number).limit.limitSize = 0 ∨
        (makeBuffers heap maxSize number).limit.limitSize = maxSize) := by
  unfold makeBuffers
  split
  case isTrue configured =>
    have static : maxSize ≠ 0 ∧ 0 < number := ⟨by omega, configured.2⟩
    rw [BufferManager.setMode, if_pos static]
    cases heap (paddingSize maxSize) with
    | none => exact ⟨.dynamicEmpty, .inl rfl⟩
    | some contents =>
        refine ⟨?_, .inr rfl⟩
        apply Holds.staticEmpty
        · rfl
        · rfl
        · rw [List.length_replicate, CircleSize, succ]
          split <;> omega
        · exact configured.2
        · apply Or.inl
          rw [StaticBuffer.entry, List.getElem?_replicate]
          split <;> rfl
  case isFalse => exact ⟨.dynamicEmpty, .inr rfl⟩

section

variable {limitSize : Nat} {static : Option Nat} {content : Option BufferBlock}
  {block : BufferBlock} {manager : BufferManager} {heap : Heap} {s : Nat}

/-! ### Access -/

/-- The address under the first index is the start of the buffer, also when it is not there yet. -/
theorem origin {buffer : StaticBuffer} (first : buffer.entry 0 = none ∨ buffer.entry 0 = some 0) :
    (buffer.entry 0).getD 0 = 0 := by
  rcases first with unset | set
  · rw [unset, Option.getD_none]
  · rw [set, Option.getD_some]

/-- The index behind the first one. -/
theorem next_first {buffer : StaticBuffer} (circle : CircleSize buffer.circleIndex.length) :
    buffer.next 0 = 1 := by
  unfold CircleSize at circle
  rw [StaticBuffer.next]
  rcases Nat.eq_zero_or_pos buffer.circleIndex.length with none | some
  · rw [none]
  · exact Nat.mod_eq_of_lt (by omega)

/-- The first entry after it has been set to the start of the buffer. -/
theorem entry_set_first (buffer : StaticBuffer) :
    (buffer.assign 0 (some 0)).entry 0 = none ∨ (buffer.assign 0 (some 0)).entry 0 = some 0 := by
  cases circle : buffer.circleIndex with
  | nil => simp [StaticBuffer.assign, StaticBuffer.entry, circle]
  | cons entry entries => simp [StaticBuffer.assign, StaticBuffer.entry, circle]

/-- With one block at most, the block at the back is the one at the front. -/
theorem Holds.back (holds : Holds limitSize static content manager) : manager.back = content := by
  cases holds with
  | dynamicEmpty => rfl
  | dynamicBlock => rfl
  | staticEmpty buffer limitNumber head tail circle number first =>
      simp [BufferManager.back, StaticBuffer.empty, head, tail]
  | staticBlock buffer costNumber costSize limitNumber head tail circle number first =>
      have last : buffer.prev 1 = 0 := by
        unfold StaticBuffer.prev
        rw [Nat.add_comm, Nat.add_sub_cancel, Nat.mod_self]
      simp [BufferManager.back, StaticBuffer.empty, StaticBuffer.blockAt, head, tail, last,
        origin first]

theorem Holds.front (holds : Holds limitSize static content manager) : manager.front = content := by
  cases holds with
  | dynamicEmpty => rfl
  | dynamicBlock => rfl
  | staticEmpty buffer limitNumber head tail circle number first =>
      simp [BufferManager.front, StaticBuffer.empty, head, tail]
  | staticBlock buffer costNumber costSize limitNumber head tail circle number first =>
      simp [BufferManager.front, StaticBuffer.empty, StaticBuffer.blockAt, head, tail, origin first]

/-- The empty initialisation of a static buffer at its front. -/
theorem emptyInit_front {buffer : StaticBuffer} (head : buffer.head = 0) (tail : buffer.tail = 0)
    (first : buffer.entry 0 = none ∨ buffer.entry 0 = some 0) :
    buffer.emptyInit.head = 0 ∧ buffer.emptyInit.tail = 0 ∧
      (buffer.emptyInit.entry 0 = none ∨ buffer.emptyInit.entry 0 = some 0) ∧
      buffer.emptyInit.circleIndex.length = buffer.circleIndex.length ∧
      buffer.emptyInit.size = buffer.size := by
  unfold StaticBuffer.emptyInit
  rw [head, tail]
  rcases first with unset | set
  · rw [if_pos (.inl unset)]
    exact ⟨rfl, rfl, entry_set_first buffer, List.length_set, rfl⟩
  · have isSet : ¬(buffer.entry 0 = none ∨ buffer.entry 0 = none) := by simp [set]
    rw [if_neg isSet]
    exact ⟨head, tail, .inr set, rfl, rfl⟩

/-- A block added at the front of a static buffer. -/
theorem addTail_front {buffer : StaticBuffer} (tail : buffer.tail = 0)
    (circle : CircleSize buffer.circleIndex.length)
    (first : buffer.entry 0 = none ∨ buffer.entry 0 = some 0) (block : BufferBlock)
    (nextFree : Nat) : (buffer.addTail block nextFree).tail = 1 ∧
      ((buffer.addTail block nextFree).entry 0 = none ∨
        (buffer.addTail block nextFree).entry 0 = some 0) ∧
      (buffer.addTail block nextFree).circleIndex.length = buffer.circleIndex.length ∧
      (buffer.addTail block nextFree).blocks 0 = block := by
  have second : buffer.next buffer.tail = 1 := by
    rw [tail, next_first circle]
  refine ⟨second, ?_, List.length_set, ?_⟩
  · simp only [StaticBuffer.addTail, StaticBuffer.assign, StaticBuffer.setBlock, second]
    rw [StaticBuffer.entry, List.getElem?_set_ne (by decide)]
    exact first
  · simp [StaticBuffer.addTail, StaticBuffer.assign, StaticBuffer.setBlock, tail, origin first]

/-- A push into an empty static buffer puts the block to the front, if it fits. -/
theorem staticPushBack_front {buffer : StaticBuffer} (head : buffer.head = 0)
    (tail : buffer.tail = 0) (circle : CircleSize buffer.circleIndex.length)
    (first : buffer.entry 0 = none ∨ buffer.entry 0 = some 0) :
    (fullSize s ≤ buffer.size → ∃ after, buffer.pushBack s = (.success, after) ∧ after.head = 0 ∧
      after.tail = 1 ∧ (after.entry 0 = none ∨ after.entry 0 = some 0) ∧
      CircleSize after.circleIndex.length ∧
      after.size = buffer.size ∧ FreshBlock s (after.blocks 0)) ∧
    (buffer.size < fullSize s → ∃ after, buffer.pushBack s = (.buffLimit, after) ∧ after.head = 0 ∧
      after.tail = 0 ∧ (after.entry 0 = none ∨ after.entry 0 = some 0) ∧
      CircleSize after.circleIndex.length ∧
      after.size = buffer.size) := by
  obtain ⟨head', tail', first', circle', size'⟩ := emptyInit_front head tail first
  have room : buffer.next buffer.tail ≠ buffer.head := by
    rw [tail, head, next_first circle]
    decide
  have free : StaticBuffer.bufferOffset 0 buffer.size = buffer.size := by
    unfold StaticBuffer.bufferOffset
    split <;> omega
  rw [StaticBuffer.pushBack, if_neg room]
  simp only [head', tail', origin first', size', Nat.le_refl, if_true, free]
  constructor
  · intro fits
    rw [if_pos fits]
    simp only [BufferBlock.create, if_neg (Nat.not_lt.mpr fits)]
    have added := addTail_front tail' (circle' ▸ circle) first'
    refine ⟨_, rfl, head', (added _ _).1, (added _ _).2.1, ?_, size', ?_⟩
    · rw [(added _ _).2.2.1]
      exact circle' ▸ circle
    · rw [(added _ _).2.2.2]
      exact ⟨rfl, rfl, rfl⟩
  · intro large
    rw [if_neg (Nat.not_le.mpr large)]
    have atFront : StaticBuffer.bufferOffset 0 0 ≤ fullSize s := Nat.zero_le _
    rw [if_pos atFront]
    exact ⟨_, rfl, head', tail', first', circle' ▸ circle, size'⟩

/-- A push that the limit and the memory allow. -/
theorem Holds.pushBack_accepted (holds : Holds limitSize static none manager)
    (accepted : Accepts limitSize static heap s) :
    ∃ after block, manager.pushBack heap s = (.success, after) ∧ FreshBlock s block ∧
      Holds limitSize static (some block) after := by
  obtain ⟨within, memory⟩ := accepted
  cases holds with
  | dynamicEmpty =>
      have sizeFree : ¬(0 < limitSize ∧ limitSize < wrap (0 + s)) := by
        rw [Nat.zero_add]
        omega
      obtain ⟨contents, region⟩ := Option.isSome_iff_exists.mp memory
      simp only [BufferManager.pushBack, if_neg sizeFree, BufferBlock.malloc, region,
        BufferBlock.create, Nat.lt_irrefl, if_false, Option.map_some]
      exact ⟨_, _, rfl, ⟨rfl, rfl, rfl⟩, .dynamicBlock _ _ _⟩
  | staticEmpty buffer limitNumber head tail circle number first =>
      have numberFree : ¬(0 < limitNumber ∧ limitNumber ≤ 0) := by omega
      have sizeFree : ¬(0 < limitSize ∧ limitSize < wrap (0 + s)) := by
        rw [Nat.zero_add]
        omega
      obtain ⟨after, pushed, head', tail', first', circle', size', fresh⟩ :=
        (staticPushBack_front head tail circle first).1 memory
      simp only [BufferManager.pushBack, if_neg numberFree, if_neg sizeFree, pushed]
      refine ⟨_, after.blocks 0, rfl, fresh, ?_⟩
      rw [← size']
      exact .staticBlock after _ _ limitNumber head' tail' circle' number first'

/-- A push that they do not allow. -/
theorem Holds.pushBack_refused (holds : Holds limitSize static none manager)
    (refused : ¬Accepts limitSize static heap s) :
    ∃ res after, manager.pushBack heap s = (res, after) ∧ res ≠ .success ∧
      Holds limitSize static none after := by
  cases holds with
  | dynamicEmpty =>
      have numberFree : ¬(0 < 0 ∧ 0 ≤ 0) := by decide
      by_cases tooMuch : 0 < limitSize ∧ limitSize < wrap (0 + s)
      · simp only [BufferManager.pushBack, if_neg numberFree, if_pos tooMuch]
        exact ⟨_, _, rfl, by decide, .dynamicEmpty⟩
      · have noMemory : heap (fullSize s) = none := by
          rw [← Option.not_isSome_iff_eq_none]
          intro memory
          rw [Nat.zero_add] at tooMuch
          exact refused ⟨by omega, memory⟩
        simp only [BufferManager.pushBack, if_neg numberFree, if_neg tooMuch, BufferBlock.malloc,
          noMemory]
        exact ⟨_, _, rfl, by decide, .dynamicEmpty⟩
  | staticEmpty buffer limitNumber head tail circle number first =>
      have numberFree : ¬(0 < limitNumber ∧ limitNumber ≤ 0) := by omega
      by_cases tooMuch : 0 < limitSize ∧ limitSize < wrap (0 + s)
      · simp only [BufferManager.pushBack, if_neg numberFree, if_pos tooMuch]
        exact ⟨_, _, rfl, by decide, .staticEmpty buffer limitNumber head tail circle number first⟩
      · have large : buffer.size < fullSize s := by
          apply Nat.not_le.mp
          intro fits
          rw [Nat.zero_add] at tooMuch
          exact refused ⟨by omega, fits⟩
        obtain ⟨after, pushed, head', tail', first', circle', size'⟩ :=
          (staticPushBack_front head tail circle first).2 large
        simp only [BufferManager.pushBack, if_neg numberFree, if_neg tooMuch, pushed]
        refine ⟨_, _, rfl, by decide, ?_⟩
        rw [← size']
        exact .staticEmpty after limitNumber head' tail' circle' number first'

/-- Whether an empty manager takes a block is what `push_back` returns. -/
theorem Holds.pushBack_success_iff (holds : Holds limitSize static none manager) :
    (manager.pushBack heap s).1 = .success ↔ Accepts limitSize static heap s := by
  constructor
  · intro success
    by_contra refused
    obtain ⟨res, after, pushed, failed, _⟩ := holds.pushBack_refused refused
    rw [pushed] at success
    exact failed success
  · intro accepted
    obtain ⟨after, block, pushed, _, _⟩ := holds.pushBack_accepted accepted
    rw [pushed]

/-! ### The block in progress -/

/-- The only block of a static buffer is found under index 0, at address 0. -/
theorem lastIndex_front {buffer : StaticBuffer} (tail : buffer.tail = 1) :
    buffer.prev buffer.tail = 0 := by
  rw [tail, StaticBuffer.prev, Nat.add_comm, Nat.add_sub_cancel, Nat.mod_self]

theorem blockAt_front {buffer : StaticBuffer}
    (first : buffer.entry 0 = none ∨ buffer.entry 0 = some 0) :
    buffer.blockAt 0 = buffer.blocks 0 := by
  rw [StaticBuffer.blockAt, origin first]

theorem setBlock_front {buffer : StaticBuffer}
    (first : buffer.entry 0 = none ∨ buffer.entry 0 = some 0) (changed : BufferBlock) :
    (buffer.setBlock 0 changed).blocks 0 = changed := by
  simp [StaticBuffer.setBlock, origin first]

theorem oneBlock_nonempty {buffer : StaticBuffer} (head : buffer.head = 0)
    (tail : buffer.tail = 1) : buffer.empty = false := by
  simp [StaticBuffer.empty, head, tail]

/-- A write through the data pointer changes the block, if it stays inside. -/
theorem Holds.writeBack (holds : Holds limitSize static (some block) manager) (offset : Nat)
    (bytes : List UInt8) (inside : offset + bytes.length ≤ block.room) :
    ∃ after, manager.writeBack offset bytes = .ok after ∧
      Holds limitSize static (some { block with store := writeBytes block.store offset bytes })
        after := by
  cases holds with
  | dynamicBlock _ costNumber costSize =>
      simp only [BufferManager.writeBack, BufferBlock.write, List.getLast?_singleton, if_pos inside]
      exact ⟨_, rfl, .dynamicBlock _ _ _⟩
  | staticBlock buffer costNumber costSize limitNumber head tail circle number first =>
      simp only [BufferManager.writeBack, oneBlock_nonempty head tail, lastIndex_front tail,
        blockAt_front first, BufferBlock.write, if_pos inside, Bool.false_eq_true, if_false]
      refine ⟨_, rfl, ?_⟩
      let changed : StaticBuffer := buffer.setBlock 0
        { buffer.blocks 0 with store := writeBytes (buffer.blocks 0).store offset bytes }
      have written : Holds limitSize (some buffer.size) (some (changed.blocks 0))
          ⟨some changed, [], ⟨costNumber, costSize, limitNumber, limitSize⟩⟩ :=
        .staticBlock changed costNumber costSize limitNumber head tail circle number first
      rw [show changed.blocks 0 = _ from setBlock_front first _] at written
      exact written

theorem Holds.writeBack_outside (holds : Holds limitSize static (some block) manager) {offset : Nat}
    {bytes : List UInt8} (outside : block.room < offset + bytes.length) :
    manager.writeBack offset bytes = .error .blockWrite := by
  cases holds with
  | dynamicBlock _ costNumber costSize =>
      simp only [BufferManager.writeBack, BufferBlock.write, List.getLast?_singleton,
        if_neg (Nat.not_le.mpr outside)]
      rfl
  | staticBlock buffer costNumber costSize limitNumber head tail circle number first =>
      simp only [BufferManager.writeBack, oneBlock_nonempty head tail, lastIndex_front tail,
        blockAt_front first, BufferBlock.write, if_neg (Nat.not_le.mpr outside), Bool.false_eq_true,
        if_false]
      rfl

/-- Counting bytes that fit. -/
theorem pop_within (fits : block.used + s ≤ block.rawSize) (word : block.rawSize < 2 ^ 64) :
    block.pop s = { block with used := block.used + s } := by
  have exact' : wrap (block.used + s) = block.used + s := wrap_of_lt (by omega)
  rw [BufferBlock.pop, exact', if_neg (by omega)]

/-- The bytes that are left of a block. -/
theorem size_within (fits : block.used ≤ block.rawSize) (word : block.rawSize < 2 ^ 64) :
    block.size = block.rawSize - block.used := sub_of_le word fits

/-- Counting bytes as used, without freeing the block. -/
theorem Holds.popBack (holds : Holds limitSize static (some block) manager)
    (fits : block.used + s ≤ block.rawSize) (word : block.rawSize < 2 ^ 64) :
    Holds limitSize static (some { block with used := block.used + s })
      (manager.popBack s false).2 := by
  have size : block.size = block.rawSize - block.used := size_within (by omega) word
  have all : ¬block.size < s := by omega
  cases holds with
  | dynamicBlock _ costNumber costSize =>
      simp only [BufferManager.popBack, List.getLast?_singleton, if_neg all, pop_within fits word,
        Bool.false_and, Bool.false_eq_true, if_false]
      exact .dynamicBlock _ _ _
  | staticBlock buffer costNumber costSize limitNumber head tail circle number first =>
      let changed : StaticBuffer :=
        buffer.setBlock 0 { buffer.blocks 0 with used := (buffer.blocks 0).used + s }
      have kept : (buffer.setBlock 0
          { buffer.blocks 0 with used := (buffer.blocks 0).used + s }).empty = false :=
        oneBlock_nonempty head tail
      simp only [BufferManager.popBack, oneBlock_nonempty head tail, Bool.false_eq_true, if_false,
        StaticBuffer.popBack, lastIndex_front tail, blockAt_front first, if_neg all,
        pop_within fits word, Bool.false_and, StaticBuffer.resetEmpty, kept]
      have popped : Holds limitSize (some buffer.size) (some (changed.blocks 0)) ⟨some changed, [],
          ⟨costNumber, costSize - if s ≤ costSize then s else costSize, limitNumber, limitSize⟩⟩ :=
        .staticBlock changed _ _ limitNumber head tail circle number first
      rw [show changed.blocks 0 = _ from setBlock_front first _] at popped
      exact popped

/-- A full block is freed, and the manager is as it was before the push. -/
theorem Holds.popFront (holds : Holds limitSize static (some block) manager)
    (full : block.used = block.rawSize) (word : block.rawSize < 2 ^ 64) :
    Holds limitSize static none (manager.popFront 0 true).2 := by
  have size : block.size = 0 := by
    rw [size_within (by omega) word]
    omega
  have popped : block.pop 0 = block := pop_within (by omega) word
  cases holds with
  | dynamicBlock _ costNumber costSize =>
      simp only [BufferManager.popFront, size, Nat.lt_irrefl, if_false, popped, Nat.le_refl,
        decide_true, Bool.and_self, if_true]
      exact .dynamicEmpty
  | staticBlock buffer costNumber costSize limitNumber head tail circle number first =>
      have moved : buffer.next 0 = 1 := next_first circle
      let freed : StaticBuffer :=
        { (buffer.setBlock 0 (buffer.blocks 0)).assign 0 none with head := 1 }
      have emptied : freed.empty = true := by simp [freed, StaticBuffer.empty, StaticBuffer.assign,
        StaticBuffer.setBlock, tail]
      have after : buffer.popFront 0 true = (0, true, freed.resetEmpty) := by
        simp only [StaticBuffer.popFront, head, blockAt_front first, size, Nat.lt_irrefl, if_false,
          popped, decide_true, Bool.and_self, if_true]
        rw [show (buffer.setBlock 0 (buffer.blocks 0)).next 0 = 1 from moved]
      have reset : freed.resetEmpty.empty = true := by
        rw [StaticBuffer.resetEmpty, if_pos emptied]
        rfl
      simp only [BufferManager.popFront, oneBlock_nonempty head tail, Bool.false_eq_true, if_false,
        after, reset, Limit.popped, if_true]
      rw [StaticBuffer.resetEmpty, if_pos emptied]
      have entry : (freed.circleIndex.set 0 (some 0)).length = buffer.circleIndex.length := by
        simp [freed, StaticBuffer.assign, StaticBuffer.setBlock]
      apply Holds.staticEmpty { freed with head := 0, tail := 0, circleIndex := _ }
      · rfl
      · rfl
      · exact entry ▸ circle
      · exact number
      · exact entry_set_first freed

end

end LibAtbus.Channel
