/-
Module: LibAtbus.Proofs.StaticLayout
Layer: Proofs
Purpose: The layout of the static circular buffer over every run of pushes and pops at both ends.
  After every call the live blocks lie apart, aligned and inside the buffer, the free space begins
  outside them, no assertion of a further push can fail, and a push that succeeds returns a pointer
  to bytes that no other block has. That is so for every configuration but one: a `max_number` of
  `2^64 - 1` leaves no entry in the circle of addresses, and the first push fails its assertion.
Trusted boundary: none
Main exports: StaticBuffer.WellLaid, StaticBuffer.Writable, BufferManager.StaticSafe,
  static_layout_safe_iff
-/
import LibAtbus.Detail.BufferBytes
import LibAtbus.Proofs.StaticPushPop
import LibAtbus.Foundation.Transitions

namespace LibAtbus.Detail

open Word64 ByteMemory RingIndex CircularLayout Transitions

/-! ### What the calls promise -/

namespace StaticBuffer

/-- The full range of the block under an index: its header and its padded data. -/
def region (buffer : StaticBuffer) (index : Nat) : Region :=
  ⟨(buffer.entry index).getD 0, fullSize (buffer.blockAt index).rawSize⟩

/-- The live blocks are apart, aligned and inside the buffer, and the free space begins outside
    them. -/
structure WellLaid (buffer : StaticBuffer) : Prop where
  notNull : ∀ i < buffer.count, buffer.entry (buffer.liveIndex i) ≠ none
  inside : ∀ i < buffer.count, (buffer.region (buffer.liveIndex i)).stop ≤ buffer.size
  aligned : ∀ i < buffer.count, (buffer.region (buffer.liveIndex i)).start % 8 = 0 ∧
    (buffer.region (buffer.liveIndex i)).length % 8 = 0
  apart : ∀ i < buffer.count, ∀ j < buffer.count, i ≠ j →
    (buffer.region (buffer.liveIndex i)).Apart (buffer.region (buffer.liveIndex j))
  freeOutside : ∀ free, buffer.entry buffer.tail = some free → ∀ i < buffer.count,
    free < (buffer.region (buffer.liveIndex i)).start ∨
    (buffer.region (buffer.liveIndex i)).stop ≤ free
  freeHead : ∀ free, buffer.entry buffer.tail = some free → buffer.entry buffer.head = some free →
    buffer.empty = true

/-- The `s` bytes from an address on are the data of the live block under an index, and of no other
    block. -/
structure Writable (buffer : StaticBuffer) (index address s : Nat) : Prop where
  live : ∃ i < buffer.count, buffer.liveIndex i = index
  data : (buffer.blockAt index).data = address
  unused : (buffer.blockAt index).size = s
  behindHeader : (buffer.region index).start + headSize ≤ address
  own : address + s ≤ (buffer.region index).stop
  inside : address + s ≤ buffer.size
  others : ∀ i < buffer.count, buffer.liveIndex i ≠ index →
    Region.Apart ⟨address, s⟩ (buffer.region (buffer.liveIndex i))

end StaticBuffer

/-- The full size of what a call pushes does not wrap. -/
def BufferCall.Sized : BufferCall → Prop
  | .pushBack _ s => Detail.Sized s
  | .pushFront _ s => Detail.Sized s
  | .popBack _ _ => True
  | .popFront _ _ => True

/-- A call that returns. -/
def callStep (before : BufferManager) (call : BufferCall) (after : BufferManager) : Prop :=
  ∃ res pointer, before.call call = .ok (res, pointer, after)

/-- The static buffer of a manager is well laid, every call on it returns, and a push that succeeds
    returns a pointer to bytes of its own. -/
structure BufferManager.StaticSafe (manager : BufferManager) : Prop where
  laid : ∃ buffer, manager.staticBuffer = some buffer ∧ buffer.WellLaid
  returns : ∀ call : BufferCall, call.Sized →
    ∃ res pointer after, manager.call call = .ok (res, pointer, after)
  pushedBack : ∀ heap s pointer after, Sized s →
    manager.call (.pushBack heap s) = .ok (.success, pointer, after) →
    ∃ address buffer, pointer = some address ∧ after.staticBuffer = some buffer ∧
      buffer.Writable (buffer.prev buffer.tail) address s
  pushedFront : ∀ heap s pointer after, Sized s →
    manager.call (.pushFront heap s) = .ok (.success, pointer, after) →
    ∃ address buffer, pointer = some address ∧ after.staticBuffer = some buffer ∧
      buffer.Writable buffer.head address s

/-! ### What an arrangement says of a buffer -/

section

variable {buffer : StaticBuffer} {regions : List Region} {first last : Region} {free i : Nat}

theorem Arranged.count_eq (arranged : Arranged buffer regions free) :
    buffer.count = regions.length := by
  rw [StaticBuffer.count, arranged.tail, dist_slot arranged.head arranged.room]

theorem Arranged.region_eq (arranged : Arranged buffer regions free) (below : i < regions.length) :
    buffer.region (buffer.liveIndex i) = regions[i] := by
  have stored : buffer.entry (buffer.liveIndex i) = some regions[i].start :=
    arranged.entry_live below
  have length := (arranged.occupied regions[i] (List.getElem_mem below)).length
  rw [StaticBuffer.region, StaticBuffer.blockAt, stored, Option.getD_some, ← length]

theorem Arranged.wellLaid (arranged : Arranged buffer regions free) : buffer.WellLaid := by
  have count := arranged.count_eq
  have freeEntry := arranged.entry_tail
  refine ⟨?_, ?_, ?_, ?_, ?_, ?_⟩
  · intro i live
    rw [StaticBuffer.liveIndex, arranged.entry_live (count ▸ live)]
    exact Option.some_ne_none _
  · intro i live
    rw [arranged.region_eq (count ▸ live)]
    exact arranged.circular.stop_le (List.getElem_mem _)
  · intro i live
    have occupies := arranged.occupied _ (List.getElem_mem (count ▸ live))
    rw [arranged.region_eq (count ▸ live)]
    exact ⟨occupies.words, occupies.length ▸ occupies.sized.words⟩
  · intro i live j live' ne
    have apart := List.pairwise_iff_getElem.mp arranged.circular.apart
    rw [arranged.region_eq (count ▸ live), arranged.region_eq (count ▸ live')]
    rcases Nat.lt_or_gt_of_ne ne with before | behind
    · exact apart i j _ _ before
    · exact (apart j i _ _ behind).symm
  · intro address stored i live
    obtain rfl : free = address := Option.some.inj (freeEntry.symm.trans stored)
    rw [arranged.region_eq (count ▸ live)]
    exact (arranged.circular.outside (List.getElem_mem _)).symm
  · intro address stored same
    obtain rfl : free = address := Option.some.inj (freeEntry.symm.trans stored)
    rw [arranged.empty_iff]
    cases regions with
    | nil => rfl
    | cons first rest =>
        have start : first.start = free := Option.some.inj (arranged.entry_head.symm.trans same)
        have long := (arranged.occupied first List.mem_cons_self).length_pos
        have outside : first.stop ≤ free ∨ free < first.start :=
          arranged.circular.outside List.mem_cons_self
        rw [Region.stop] at outside
        omega

theorem Fresh.wellLaid (fresh : Fresh buffer) : buffer.WellLaid := by
  have circle := fresh.circle
  have none : buffer.count = 0 := by
    rw [StaticBuffer.count, fresh.tail, fresh.head, RingIndex.dist_self (by omega)]
  have noBlock : ∀ i, ¬i < buffer.count := by
    rw [none]
    exact Nat.not_lt_zero
  exact ⟨fun i live => absurd live (noBlock i), fun i live => absurd live (noBlock i),
    fun i live => absurd live (noBlock i), fun i live => absurd live (noBlock i),
    fun _ _ i live => absurd live (noBlock i), fun _ _ _ => fresh.empty⟩

/-- The data of a new block in an arranged buffer. -/
theorem Arranged.writable (arranged : Arranged buffer regions free) {s : Nat} {contents : Memory}
    (below : i < regions.length)
    (created : buffer.blocks regions[i].start = .created regions[i].start s contents) :
    buffer.Writable (buffer.liveIndex i) (regions[i].start + headSize) s := by
  have count := arranged.count_eq
  have stored : buffer.entry (buffer.liveIndex i) = some regions[i].start :=
    arranged.entry_live below
  have block : buffer.blockAt (buffer.liveIndex i) = .created regions[i].start s contents := by
    rw [StaticBuffer.blockAt, stored, Option.getD_some, created]
  have occupies := arranged.occupied _ (List.getElem_mem below)
  rw [created] at occupies
  have covers : regions[i].start + headSize + s ≤ regions[i].stop := by
    have fits : headSize + s ≤ regions[i].length := occupies.length ▸ occupies.sized.covers
    rw [Region.stop]
    omega
  refine ⟨⟨i, by omega, rfl⟩, ?_, ?_, ?_, ?_, ?_, ?_⟩
  · rw [block]
    rfl
  · rw [block]
    exact occupies.size_eq
  · rw [arranged.region_eq below]
  · rw [arranged.region_eq below]
    exact covers
  · exact covers.trans (arranged.circular.stop_le (List.getElem_mem below))
  · intro j live ne
    have distinct : i ≠ j := fun same => ne (same ▸ rfl)
    have apart := arranged.wellLaid.apart i (by omega) j live distinct
    rw [arranged.region_eq below] at apart
    unfold Region.Apart Region.stop at apart ⊢
    rw [Region.stop] at covers
    simp only
    omega

end

/-! ### One call -/

/-- Between two calls a static buffer is fresh or arranged. -/
def Kept (buffer : StaticBuffer) : Prop :=
  Fresh buffer ∨ ∃ regions free, Arranged buffer regions free

/-- What a push into a static buffer returns: it is refused, or a block is there and writable. -/
inductive PushedTo (s : Nat) (index : StaticBuffer → Nat) :
    Except Fault (Pushed StaticBuffer) → Prop where
  | refused (after : StaticBuffer)
      (kept : Kept after) : PushedTo s index (.ok (.buffLimit, none, after))
  | placed (after : StaticBuffer) (address : Nat) (kept : Kept after)
      (writable : after.Writable (index after) address s) :
      PushedTo s index (.ok (.success, some address, after))

section

variable {buffer : StaticBuffer} {regions : List Region} {free s : Nat} {freeUnwritable : Bool}

theorem Kept.wellLaid (kept : Kept buffer) : buffer.WellLaid := by
  rcases kept with fresh | ⟨regions, free, arranged⟩
  · exact fresh.wellLaid
  · exact arranged.wellLaid

theorem Arranged.pushedBack (arranged : Arranged buffer regions free) (sized : Sized s) :
    PushedTo s (fun after => after.prev after.tail) (buffer.pushBackChecked s) := by
  rw [arranged.pushBackChecked_eq sized]
  have refused : PushedTo s (fun after => after.prev after.tail) (.ok buffer.refused) :=
    .refused buffer (.inr ⟨regions, free, arranged⟩)
  split
  · exact refused
  · rename_i room
    cases place : backPlace buffer.size free regions (fullSize s) with
    | none => exact refused
    | some start =>
      have placed := arranged.putBack sized room place
      refine .placed _ _ (.inr ⟨_, _, placed⟩) ?_
      rw [placed.prev_tail]
      have block := arranged.placed.putBack_blocks s start
      have writable := placed.writable (i := regions.length) (by simp) (by simpa using block.1)
      simpa [StaticBuffer.liveIndex] using writable

theorem Arranged.pushedFront (arranged : Arranged buffer regions free) (sized : Sized s) :
    PushedTo s StaticBuffer.head (buffer.pushFrontChecked s) := by
  rw [arranged.pushFrontChecked_eq sized]
  have refused : PushedTo s StaticBuffer.head (.ok buffer.refused) :=
    .refused buffer (.inr ⟨regions, free, arranged⟩)
  split
  · exact refused
  · rename_i room
    cases place : frontPlace buffer.size free regions (fullSize s) with
    | none => exact refused
    | some start =>
      have placed := arranged.putFront sized room place
      refine .placed _ _ (.inr ⟨_, _, placed⟩) ?_
      have block := arranged.placed.putFront_blocks s start
      have writable := placed.writable (i := 0) (Nat.succ_pos _) block.1
      rwa [StaticBuffer.liveIndex, slot_zero placed.head] at writable

theorem Kept.pushedBack (kept : Kept buffer) (sized : Sized s) :
    PushedTo s (fun after => after.prev after.tail) (buffer.pushBackChecked s) := by
  rcases kept with fresh | ⟨regions, free, arranged⟩
  · rw [(fresh.push_eq s).1]
    exact fresh.emptyInit.pushedBack sized
  · exact arranged.pushedBack sized

theorem Kept.pushedFront (kept : Kept buffer) (sized : Sized s) :
    PushedTo s StaticBuffer.head (buffer.pushFrontChecked s) := by
  rcases kept with fresh | ⟨regions, free, arranged⟩
  · rw [(fresh.push_eq s).2]
    exact fresh.emptyInit.pushedFront sized
  · exact arranged.pushedFront sized

/-- A buffer with a block is arranged, and has a region. -/
theorem Kept.nonempty (kept : Kept buffer) (some : ¬buffer.empty = true) :
    ∃ regions free, Arranged buffer regions free ∧ regions ≠ [] := by
  rcases kept with fresh | ⟨regions, free, arranged⟩
  · exact absurd fresh.empty some
  · exact ⟨regions, free, arranged, fun none => some (arranged.empty_iff.mpr none)⟩

theorem Kept.popBack (kept : Kept buffer) (some : ¬buffer.empty = true) :
    Kept (buffer.popBack s freeUnwritable).2.2 := by
  obtain ⟨regions, free, arranged, live⟩ := kept.nonempty some
  rcases List.eq_nil_or_concat regions with none | ⟨kept, last, rfl⟩
  · exact absurd none live
  rw [List.concat_eq_append] at arranged
  have member : last ∈ kept ++ [last] := List.mem_append_right _ (List.mem_singleton_self _)
  have changed :=
    arranged.setBlock arranged.entry_back ((arranged.occupied last member).consume s) member
  rw [arranged.popBack_eq]
  split
  · exact .inr ⟨_, _, changed.dropBack⟩
  · exact .inr ⟨_, _, changed⟩

theorem Kept.popFront (kept : Kept buffer) (some : ¬buffer.empty = true) :
    Kept (buffer.popFront s freeUnwritable).2.2 := by
  obtain ⟨regions, free, arranged, live⟩ := kept.nonempty some
  cases regions with
  | nil => exact absurd rfl live
  | cons first rest =>
      have member : first ∈ first :: rest := List.mem_cons_self
      have changed :=
        arranged.setBlock arranged.entry_head ((arranged.occupied first member).consume s) member
      rw [arranged.popFront_eq]
      split
      · exact .inr ⟨_, _, changed.dropFront⟩
      · exact .inr ⟨_, _, changed⟩

end

/-- The invariant of a manager in static mode. -/
def InStaticMode (manager : BufferManager) : Prop :=
  ∃ buffer, manager.staticBuffer = some buffer ∧ Kept buffer

/-- A push returns in static mode, and one that succeeds returns the address of `s` bytes under an
    index. -/
def PushReturns (s : Nat) (index : StaticBuffer → Nat)
    (result : Except Fault (Pushed BufferManager)) : Prop :=
  ∃ res pointer after, result = .ok (res, pointer, after) ∧ InStaticMode after ∧
    (res = .success → ∃ address buffer, pointer = some address ∧ after.staticBuffer = some buffer ∧
      buffer.Writable (index buffer) address s)

section

variable {manager after : BufferManager} {s : Nat} {index : StaticBuffer → Nat}
  {static : StaticBuffer → Except Fault (Pushed StaticBuffer)}
  {dynamic : List BufferBlock → Except Fault (Pushed (List BufferBlock))}

/-- A push of a manager in static mode is refused, or it is the push of its buffer. -/
theorem InStaticMode.pushWith (mode : InStaticMode manager)
    (pushed : ∀ buffer, Kept buffer → PushedTo s index (static buffer)) :
    PushReturns s index (manager.pushWith s static dynamic) := by
  obtain ⟨buffer, static', kept⟩ := mode
  have limited : PushReturns s index (.ok (.buffLimit, none, manager)) :=
    ⟨_, _, _, rfl, ⟨buffer, static', kept⟩, fun success => by cases success⟩
  by_cases number : 0 < manager.limit.limitNumber ∧
    manager.limit.limitNumber ≤ manager.limit.costNumber
  · simp only [BufferManager.pushWith, if_pos number]
    exact limited
  by_cases size : 0 < manager.limit.limitSize ∧
    manager.limit.limitSize < wrap (manager.limit.costSize + s)
  · simp only [BufferManager.pushWith, if_neg number, if_pos size]
    exact limited
  simp only [BufferManager.pushWith, if_neg number, if_neg size, static']
  have outcome := pushed buffer kept
  cases result : static buffer with
  | error fault =>
      rw [result] at outcome
      cases outcome
  | ok pushed =>
      rw [result] at outcome
      cases outcome with
      | refused after kept =>
          exact ⟨_, _, _, rfl, ⟨after, rfl, kept⟩, fun success => by cases success⟩
      | placed after address kept writable =>
          exact ⟨_, _, _, rfl, ⟨after, rfl, kept⟩, fun _ => ⟨address, after, rfl, rfl, writable⟩⟩

theorem InStaticMode.pushBack (mode : InStaticMode manager) (heap : Heap) (sized : Sized s) :
    PushReturns s (fun buffer => buffer.prev buffer.tail) (manager.pushBackChecked heap s) :=
  mode.pushWith fun _ kept => kept.pushedBack sized

theorem InStaticMode.pushFront (mode : InStaticMode manager) (heap : Heap) (sized : Sized s) :
    PushReturns s StaticBuffer.head (manager.pushFrontChecked heap s) :=
  mode.pushWith fun _ kept => kept.pushedFront sized

theorem InStaticMode.popBack (mode : InStaticMode manager) (s : Nat) (freeUnwritable : Bool) :
    InStaticMode (manager.popBack s freeUnwritable).2 := by
  obtain ⟨buffer, static, kept⟩ := mode
  simp only [BufferManager.popBack, static]
  split
  · exact ⟨buffer, static, kept⟩
  · rename_i some
    exact ⟨_, rfl, kept.popBack some⟩

theorem InStaticMode.popFront (mode : InStaticMode manager) (s : Nat) (freeUnwritable : Bool) :
    InStaticMode (manager.popFront s freeUnwritable).2 := by
  obtain ⟨buffer, static, kept⟩ := mode
  simp only [BufferManager.popFront, static]
  split
  · exact ⟨buffer, static, kept⟩
  · rename_i some
    exact ⟨_, rfl, kept.popFront some⟩

/-- Every call returns and stays in static mode. -/
theorem InStaticMode.call (mode : InStaticMode manager) {call : BufferCall} (sized : call.Sized) :
    ∃ res pointer after, manager.call call = .ok (res, pointer, after) ∧ InStaticMode after := by
  cases call with
  | pushBack heap s =>
      obtain ⟨res, pointer, after, result, mode, -⟩ := mode.pushBack heap sized
      exact ⟨res, pointer, after, result, mode⟩
  | pushFront heap s =>
      obtain ⟨res, pointer, after, result, mode, -⟩ := mode.pushFront heap sized
      exact ⟨res, pointer, after, result, mode⟩
  | popBack s freeUnwritable => exact ⟨_, _, _, rfl, mode.popBack s freeUnwritable⟩
  | popFront s freeUnwritable => exact ⟨_, _, _, rfl, mode.popFront s freeUnwritable⟩

theorem InStaticMode.staticSafe (mode : InStaticMode manager) : manager.StaticSafe := by
  refine ⟨?_, ?_, ?_, ?_⟩
  · obtain ⟨buffer, static, kept⟩ := mode
    exact ⟨buffer, static, kept.wellLaid⟩
  · intro call sized
    obtain ⟨res, pointer, after, result, -⟩ := mode.call sized
    exact ⟨res, pointer, after, result⟩
  · intro heap s pointer after sized result
    obtain ⟨_, _, _, result', -, writable⟩ := mode.pushBack heap sized
    cases result.symm.trans result'
    exact writable rfl
  · intro heap s pointer after sized result
    obtain ⟨_, _, _, result', -, writable⟩ := mode.pushFront heap sized
    cases result.symm.trans result'
    exact writable rfl

/-- The invariant is kept by every call whose size does not wrap. -/
theorem InStaticMode.step (t : Transition BufferManager BufferCall) (mode : InStaticMode t.pre)
    (taken : callStep t.pre t.label t.post) (sized : t.label.Sized) : InStaticMode t.post := by
  obtain ⟨res, pointer, result⟩ := taken
  obtain ⟨_, _, after, result', mode'⟩ := mode.call sized
  cases result.symm.trans result'
  exact mode'

end

/-! ### Every run -/

section

variable {heap : Heap} {maxSize maxNumber : Nat}

/-- What a configuration that selects static mode has. -/
theorem setMode_static (static :
    (BufferManager.setMode heap maxSize maxNumber).staticBuffer.isSome = true) :
    (maxSize ≠ 0 ∧ 0 < maxNumber) ∧ ∃ contents, heap (paddingSize maxSize) = some contents := by
  by_cases configured : maxSize ≠ 0 ∧ 0 < maxNumber
  · refine ⟨configured, ?_⟩
    rw [BufferManager.setMode, if_pos configured] at static
    cases memory : heap (paddingSize maxSize) with
    | none =>
        rw [memory] at static
        cases static
    | some contents => exact ⟨contents, rfl⟩
  · rw [BufferManager.setMode, if_neg configured] at static
    cases static

/-- Without entries in the circle of addresses a push fails its assertion. -/
theorem overflowed_push_asserts (configured : maxSize ≠ 0 ∧ 0 < maxNumber) {contents : Memory}
    (memory : heap (paddingSize maxSize) = some contents) (overflow : maxNumber + 1 = 2 ^ 64) :
    (BufferManager.setMode heap maxSize maxNumber).call (.pushBack heap 0) = .error .assertion := by
  have circle : succ maxNumber = 0 := if_pos overflow
  have number : ¬(0 < maxNumber ∧ maxNumber ≤ 0) := by omega
  have size : ¬(0 < maxSize ∧ maxSize < wrap (0 + 0)) := by
    rw [wrap_of_lt (by decide)]
    omega
  rw [BufferManager.setMode, if_pos configured, memory, circle]
  simp only [BufferManager.call, BufferManager.pushBackChecked, BufferManager.pushWith,
    if_neg number, if_neg size]
  rfl

/-- The static buffer is well laid in every run exactly if its circle of addresses has entries. -/
theorem static_layout_safe_iff
    (static : (BufferManager.setMode heap maxSize maxNumber).staticBuffer.isSome = true) :
    (∀ made final, Run callStep (BufferManager.setMode heap maxSize maxNumber) made final →
      (∀ t ∈ made, t.label.Sized) → final.StaticSafe) ↔ maxNumber ≠ 2 ^ 64 - 1 := by
  obtain ⟨configured, contents, memory⟩ := setMode_static static
  constructor
  · intro safe overflow
    have start := safe [] _ .refl fun t member => by cases member
    have sized : Sized 0 := by decide
    obtain ⟨res, pointer, after, result⟩ := start.returns (.pushBack heap 0) sized
    rw [overflowed_push_asserts configured memory (by omega)] at result
    cases result
  · intro number made final run sized
    obtain ⟨buffer, selected, fresh, -⟩ := setMode_fresh configured memory (by omega)
    have initial : InStaticMode (BufferManager.setMode heap maxSize maxNumber) :=
      ⟨buffer, selected, .inl fresh⟩
    exact (run.invariant initial InStaticMode.step sized).staticSafe

end

/-- A heap that always has memory. -/
def zeroHeap : Heap := fun _ => some fun _ => 0

/-- The manager that a call leaves. -/
def BufferManager.leaves (manager : BufferManager) (call : BufferCall) : BufferManager :=
  match manager.call call with
  | .ok (_, _, after) => after
  | .error _ => manager

/-- Pushes at both ends and a pop. -/
theorem static_layout_safe_iff_three_calls :
    ∃ made final, Run callStep (BufferManager.setMode zeroHeap 256 3) made final ∧ made.length = 3 ∧
      final.StaticSafe := by
  let start := BufferManager.setMode zeroHeap 256 3
  let second := start.leaves (.pushBack zeroHeap 17)
  let third := second.leaves (.pushFront zeroHeap 30)
  have pushedBack : callStep start (.pushBack zeroHeap 17) second := ⟨.success, some 24, rfl⟩
  have pushedFront : callStep second (.pushFront zeroHeap 30) third := ⟨.success, some 224, rfl⟩
  have popped : callStep third (.popBack 20 true) (third.leaves (.popBack 20 true)) :=
    ⟨.success, none, rfl⟩
  have run := ((Run.refl.tail pushedBack).tail pushedFront).tail popped
  refine ⟨_, _, run, rfl, (static_layout_safe_iff rfl).mpr (by decide) _ _ run fun t member => ?_⟩
  simp only [List.nil_append, List.cons_append, List.mem_cons, List.not_mem_nil, or_false] at member
  have small : Sized 17 ∧ Sized 30 := by decide
  rcases member with rfl | rfl | rfl
  · exact small.1
  · exact small.2
  · trivial

/-- With the greatest `max_number` the buffer is not safe, before any call is made. -/
theorem set_mode_overflows :
    ¬∀ made final, Run callStep (BufferManager.setMode zeroHeap 256 (2 ^ 64 - 1)) made final →
      (∀ t ∈ made, t.label.Sized) → final.StaticSafe := by
  intro safe
  have start := safe [] _ .refl fun t member => by cases member
  have sized : Sized 0 := by decide
  obtain ⟨res, pointer, after, result⟩ := start.returns (.pushBack zeroHeap 0) sized
  have fault : (BufferManager.setMode zeroHeap 256 (2 ^ 64 - 1)).call (.pushBack zeroHeap 0) =
      .error .assertion :=
    overflowed_push_asserts ⟨by decide, by decide⟩ rfl (by decide)
  rw [fault] at result
  cases result

end LibAtbus.Detail
