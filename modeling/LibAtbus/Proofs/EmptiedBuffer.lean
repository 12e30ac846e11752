/-
Module: LibAtbus.Proofs.EmptiedBuffer
Layer: Proofs
Purpose: An emptied static buffer is as good as a new one. Two static buffers whose circles store
  the same addresses from head to tail, with the same headers there, answer every call alike and
  stay so, whatever their heads are and whatever is left behind in the other entries and in the data
  of the blocks. A buffer that any calls have emptied again is so related to the buffer that
  `set_mode` has just made.
Trusted boundary: none
Main exports: SameHeader, Alike, AlikeManagers, AlikeManagers.release, BufferManager.replies,
  emptied_as_new
-/
import LibAtbus.Proofs.PushLimits

namespace LibAtbus.Detail

open Word64 ByteMemory RingIndex ByteDeque Transitions

/-! ### Blocks and buffers that look alike -/

/-- Two blocks with the same header. -/
structure SameHeader (block other : BufferBlock) : Prop where
  rawSize : block.rawSize = other.rawSize
  used : block.used = other.used
  pointer : block.pointer = other.pointer

/-- The circles of two static buffers of one size store the same addresses, with blocks of the same
    headers there. -/
structure Alike (buffer other : StaticBuffer) (starts : List Nat) (free : Nat) : Prop where
  left : Placed buffer starts free
  right : Placed other starts free
  size : buffer.size = other.size
  circle : buffer.circleIndex.length = other.circleIndex.length
  headers : ∀ start ∈ starts, SameHeader (buffer.blocks start) (other.blocks start)

section

variable {block otherBlock : BufferBlock} {buffer other : StaticBuffer} {starts : List Nat}
  {free s start : Nat} {side : Side} {freeUnwritable : Bool}

theorem SameHeader.size (same : SameHeader block otherBlock) : block.size = otherBlock.size := by
  rw [BufferBlock.size, BufferBlock.size, same.rawSize, same.used]

theorem SameHeader.taken (same : SameHeader block otherBlock) (s : Nat) :
    block.taken s = otherBlock.taken s := by
  rw [BufferBlock.taken, BufferBlock.taken, same.size]

theorem SameHeader.pop (same : SameHeader block otherBlock) (s : Nat) :
    SameHeader (block.pop s) (otherBlock.pop s) := by
  unfold BufferBlock.pop
  rw [same.rawSize, same.used]
  split
  · exact ⟨rfl, rfl, same.pointer⟩
  · exact ⟨rfl, rfl, same.pointer⟩

theorem SameHeader.emptied (same : SameHeader block otherBlock) (s : Nat) (freeUnwritable : Bool) :
    block.emptied s freeUnwritable = otherBlock.emptied s freeUnwritable := by
  rw [BufferBlock.emptied, BufferBlock.emptied, same.taken s, (same.pop _).size]

/-- Two blocks created alike, whatever their data holds. -/
theorem sameHeader_created (start s : Nat) (contents otherContents : Memory) :
    SameHeader (.created start s contents) (.created start s otherContents) := ⟨rfl, rfl, rfl⟩

/-- Buffers that look alike are both empty or both not. -/
theorem Alike.empty (alike : Alike buffer other starts free) : buffer.empty = other.empty := by
  rw [Bool.eq_iff_iff, alike.left.empty_iff, alike.right.empty_iff]

/-- A block put to the same place in both. -/
theorem Alike.putSide (alike : Alike buffer other starts free)
    (room : starts.length + 1 ≠ buffer.circleIndex.length) (s start : Nat) (side : Side) :
    Alike (buffer.putSide s start side) (other.putSide s start side) (side.put start starts)
      (freeBehind free s start side) := by
  obtain ⟨size, length⟩ := putSide_size buffer s start side
  obtain ⟨otherSize, otherLength⟩ := putSide_size other s start side
  obtain ⟨created, kept⟩ := alike.left.putSide_blocks s start side
  obtain ⟨otherCreated, otherKept⟩ := alike.right.putSide_blocks s start side
  refine ⟨alike.left.putSide room s start side,
    alike.right.putSide (alike.circle ▸ room) s start side, ?_, ?_, ?_⟩
  · rw [size, otherSize]
    exact alike.size
  · rw [length, otherLength]
    exact alike.circle
  · intro address member
    by_cases same : address = start
    · rw [same, created, otherCreated]
      exact sameHeader_created start s _ _
    · rw [kept address same, otherKept address same]
      rcases Side.mem_put.mp member with new | old
      · exact absurd new same
      · exact alike.headers address old

/-- A push to buffers that look alike: both answer the same, and look alike again. -/
theorem Alike.released (alike : Alike buffer other starts free) (s : Nat) (side : Side) :
    ∃ res pointer after otherAfter starts' free',
      buffer.released s side = some (res, pointer, after) ∧
      other.released s side = some (res, pointer, otherAfter) ∧
      Alike after otherAfter starts' free' := by
  rw [alike.left.released_eq, alike.right.released_eq, ← alike.circle, ← alike.size]
  by_cases full : starts.length + 1 = buffer.circleIndex.length
  · rw [if_pos full, if_pos full]
    exact ⟨_, _, _, _, _, _, rfl, rfl, alike⟩
  rw [if_neg full, if_neg full]
  cases StaticBuffer.sideStart buffer.size (starts.headD free) free (fullSize s) side with
  | none => exact ⟨_, _, _, _, _, _, rfl, rfl, alike⟩
  | some start => exact ⟨_, _, _, _, _, _, rfl, rfl, alike.putSide full s start side⟩

/-- A change of the block under an index that stores the same address in both. -/
theorem Alike.setBlock (alike : Alike buffer other starts free) {index otherIndex : Nat}
    (stored : buffer.entry index = some start) (otherStored : other.entry otherIndex = some start)
    (same : SameHeader block otherBlock) :
    Alike (buffer.setBlock index block) (other.setBlock otherIndex otherBlock) starts free := by
  refine ⟨alike.left.setBlock _ _, alike.right.setBlock _ _, alike.size, alike.circle,
    fun address member => ?_⟩
  by_cases there : address = start
  · rw [there, StaticBuffer.blocks_setBlock_self stored,
      StaticBuffer.blocks_setBlock_self otherStored]
    exact same
  · rw [StaticBuffer.blocks_setBlock_ne stored there,
      StaticBuffer.blocks_setBlock_ne otherStored there]
    exact alike.headers address member

/-- The block at a side removed from both. -/
theorem Alike.dropSide (alike : Alike buffer other (side.put start starts) free) :
    ∃ free', Alike (buffer.dropSide side) (other.dropSide side) starts free' := by
  obtain ⟨size, blocks⟩ := dropSide_size buffer side
  obtain ⟨otherSize, otherBlocks⟩ := dropSide_size other side
  refine ⟨_, alike.left.dropSide, alike.right.dropSide, ?_, ?_, fun address member => ?_⟩
  · rw [size, otherSize]
    exact alike.size
  · rw [dropSide_length, dropSide_length]
    exact alike.circle
  · rw [blocks, otherBlocks]
    exact alike.headers address (Side.mem_put.mpr (.inr member))

/-- A pop of buffers that look alike. -/
theorem Alike.popSide (alike : Alike buffer other starts free) (live : ¬buffer.empty = true)
    (s : Nat) (freeUnwritable : Bool) (side : Side) : ∃ taken freed after otherAfter starts' free',
      buffer.popSide s freeUnwritable side = (taken, freed, after) ∧
        other.popSide s freeUnwritable side = (taken, freed, otherAfter) ∧
        Alike after otherAfter starts' free' := by
  rcases side.nil_or_put starts with rfl | ⟨start, rest, rfl⟩
  · exact absurd (alike.left.empty_iff.mpr rfl) live
  have same := alike.headers start (Side.mem_put.mpr (.inl rfl))
  have changed := alike.setBlock alike.left.entry_side alike.right.entry_side
    (same.pop ((buffer.blocks start).taken s))
  rw [alike.left.popSide_eq, alike.right.popSide_eq, ← same.taken, ← same.emptied]
  by_cases removed : (buffer.blocks start).emptied s freeUnwritable = true
  · obtain ⟨free', dropped⟩ := changed.dropSide
    rw [if_pos removed, if_pos removed]
    exact ⟨_, _, _, _, rest, free', rfl, rfl, dropped⟩
  · rw [if_neg removed, if_neg removed]
    exact ⟨_, _, _, _, _, free, rfl, rfl, changed⟩

end

/-! ### Managers that look alike -/

/-- Two static buffers that look alike, or have no blocks, entries or not. -/
inductive AlikeBuffers (buffer other : StaticBuffer) : Prop where
  | filled (starts : List Nat) (free : Nat) (alike : Alike buffer other starts free)
  | unfilled (left : Unfilled buffer) (right : Unfilled other) (size : buffer.size = other.size)
      (circle : buffer.circleIndex.length = other.circleIndex.length)

/-- Two managers in static mode with the same counters and limits and with buffers that look
    alike. -/
structure AlikeManagers (manager other : BufferManager) : Prop where
  limit : manager.limit = other.limit
  buffers : ∃ buffer otherBuffer, manager.staticBuffer = some buffer ∧
    other.staticBuffer = some otherBuffer ∧ AlikeBuffers buffer otherBuffer

/-- Two calls that do not return, or return the same code and pointer and leave what is related. -/
inductive SameAnswer {β : Type} (related : β → β → Prop) :
    Option (Pushed β) → Option (Pushed β) → Prop where
  | none : SameAnswer related none none
  | some (res : ErrorType) (pointer : Option Nat) {after other : β} (alike : related after other) :
      SameAnswer related (some (res, pointer, after)) (some (res, pointer, other))

section

variable {manager other : BufferManager} {buffer otherBuffer : StaticBuffer} {s : Nat} {side : Side}
  {heap : Heap} {freeUnwritable : Bool} {call : BufferCall}

theorem AlikeBuffers.empty (alike : AlikeBuffers buffer otherBuffer) :
    buffer.empty = otherBuffer.empty := by
  cases alike with
  | filled starts free alike => exact alike.empty
  | unfilled left right => rw [left.empty, right.empty]

theorem Alike.sameAnswer {starts : List Nat} {free : Nat}
    (alike : Alike buffer otherBuffer starts free) (s : Nat) (side : Side) :
    SameAnswer AlikeBuffers (buffer.released s side) (otherBuffer.released s side) := by
  obtain ⟨res, pointer, after, otherAfter, starts', free', left, right, alike'⟩ :=
    alike.released s side
  rw [left, right]
  exact .some res pointer (.filled starts' free' alike')

theorem AlikeBuffers.released (alike : AlikeBuffers buffer otherBuffer) (s : Nat) (side : Side) :
    SameAnswer AlikeBuffers (buffer.released s side) (otherBuffer.released s side) := by
  cases alike with
  | filled starts free alike => exact alike.sameAnswer s side
  | unfilled left right size circle =>
      by_cases entries : buffer.circleIndex = []
      · have otherEntries : otherBuffer.circleIndex = [] := by
          rw [entries] at circle
          exact List.eq_nil_of_length_eq_zero circle.symm
        unfold StaticBuffer.released
        rw [if_pos entries, if_pos otherEntries]
        exact .none
      · have otherEntries : otherBuffer.circleIndex ≠ [] := by
          intro none
          rw [none] at circle
          exact entries (List.eq_nil_of_length_eq_zero circle)
        obtain ⟨emptied, placed, size', circle', same⟩ := left.released_eq entries
        obtain ⟨otherEmptied, otherPlaced, otherSize', otherCircle', otherSame⟩ :=
          right.released_eq otherEntries
        rw [same, otherSame]
        apply Alike.sameAnswer
        apply Alike.mk placed otherPlaced
        · rw [size', otherSize', size]
        · rw [circle', otherCircle', circle]
        · exact fun start member => absurd member List.not_mem_nil

/-- A push to managers that look alike. -/
theorem AlikeManagers.push (alike : AlikeManagers manager other) (heap : Heap) (s : Nat)
    (side : Side) :
    SameAnswer AlikeManagers (manager.pushReleased heap s side)
      (other.pushReleased heap s side) := by
  have refused : SameAnswer AlikeManagers (some (.buffLimit, none, manager))
      (some (.buffLimit, none, other)) :=
    .some _ _ alike
  obtain ⟨limit, buffer, otherBuffer, mode, otherMode, buffers⟩ := alike
  unfold BufferManager.pushReleased
  rw [← limit]
  by_cases number : 0 < manager.limit.limitNumber ∧
    manager.limit.limitNumber ≤ manager.limit.costNumber
  · simp only [if_pos number]
    exact refused
  by_cases size : 0 < manager.limit.limitSize ∧
    manager.limit.limitSize < wrap (manager.limit.costSize + s)
  · simp only [if_neg number, if_pos size]
    exact refused
  simp only [if_neg number, if_neg size, mode, otherMode]
  have answer := buffers.released s side
  cases left : buffer.released s side with
  | none =>
      rw [left] at answer
      cases right : otherBuffer.released s side with
      | none => exact .none
      | some made =>
          rw [right] at answer
          cases answer
  | some made =>
      rw [left] at answer
      cases right : otherBuffer.released s side with
      | none =>
          rw [right] at answer
          cases answer
      | some otherMade =>
          rw [right] at answer
          cases answer with
          | some res pointer alike' => exact .some res pointer ⟨rfl, _, _, rfl, rfl, alike'⟩

/-- A pop of managers that look alike. -/
theorem AlikeManagers.pop (alike : AlikeManagers manager other) (s : Nat) (freeUnwritable : Bool)
    (side : Side) :
    (manager.popSide s freeUnwritable side).1 = (other.popSide s freeUnwritable side).1 ∧
      AlikeManagers (manager.popSide s freeUnwritable side).2
        (other.popSide s freeUnwritable side).2 := by
  have same := alike
  obtain ⟨limit, buffer, otherBuffer, mode, otherMode, buffers⟩ := alike
  by_cases empty : buffer.empty = true
  · have otherEmpty := buffers.empty ▸ empty
    rw [static_popSide_empty mode empty, static_popSide_empty otherMode otherEmpty]
    exact ⟨rfl, same⟩
  · have otherLive : ¬otherBuffer.empty = true := buffers.empty ▸ empty
    rw [static_popSide mode empty, static_popSide otherMode otherLive]
    cases buffers with
    | unfilled left => exact absurd left.empty empty
    | filled starts free alike =>
        obtain ⟨taken, freed, after, otherAfter, starts', free', left, right, alike'⟩ :=
          alike.popSide empty s freeUnwritable side
        rw [left, right, limit, alike'.empty]
        exact ⟨rfl, rfl, _, _, rfl, rfl, .filled _ _ alike'⟩

/-- Managers that look alike answer every call alike. -/
theorem AlikeManagers.release (alike : AlikeManagers manager other) (call : BufferCall) :
    SameAnswer AlikeManagers (manager.release call) (other.release call) := by
  cases call with
  | pushBack heap s => exact alike.push heap s .back
  | pushFront heap s => exact alike.push heap s .front
  | popBack s freeUnwritable =>
      obtain ⟨code, after⟩ := alike.pop s freeUnwritable .back
      simp only [BufferManager.popSide] at code after
      simp only [BufferManager.release, code]
      exact .some _ none after
  | popFront s freeUnwritable =>
      obtain ⟨code, after⟩ := alike.pop s freeUnwritable .front
      simp only [BufferManager.popSide] at code after
      simp only [BufferManager.release, code]
      exact .some _ none after

/-- So they do any sequence of calls. -/
theorem AlikeManagers.replies (alike : AlikeManagers manager other) (calls : List BufferCall) :
    manager.replies calls = other.replies calls := by
  induction calls generalizing manager other with
  | nil => rfl
  | cons call calls ih =>
      have answer := alike.release call
      rw [BufferManager.replies, BufferManager.replies]
      cases left : manager.release call with
      | none =>
          rw [left] at answer
          cases right : other.release call with
          | none => rfl
          | some made =>
              rw [right] at answer
              cases answer
      | some made =>
          rw [left] at answer
          cases right : other.release call with
          | none =>
              rw [right] at answer
              cases answer
          | some otherMade =>
              rw [right] at answer
              cases answer with
              | some res pointer alike' =>
                  dsimp only
                  rw [alike'.limit, ih alike']

end

/-! ### Every run from a configuration -/

/-- The invariant of a manager in the static mode of a configuration: its limits, its sizes, and no
    costs without blocks. -/
structure Configured (maxSize maxNumber : Nat) (manager : BufferManager) : Prop where
  limitNumber : manager.limit.limitNumber = maxNumber
  limitSize : manager.limit.limitSize = maxSize
  buffer : ∃ buffer, manager.staticBuffer = some buffer ∧ Within buffer ∧
    buffer.size = paddingSize maxSize ∧ buffer.circleIndex.length = succ maxNumber
  counters : manager.empty = true → manager.limit.costNumber = 0 ∧ manager.limit.costSize = 0

section

variable {manager after : BufferManager} {heap otherHeap : Heap} {maxSize maxNumber s : Nat}
  {side : Side} {res : ErrorType} {pointer : Option Nat} {call : BufferCall}

theorem configured_setMode (static :
    (BufferManager.setMode heap maxSize maxNumber).staticBuffer.isSome = true) :
    Configured maxSize maxNumber (.setMode heap maxSize maxNumber) := by
  obtain ⟨buffer, mode⟩ := Option.isSome_iff_exists.mp static
  have unfilled := setMode_unfilled mode
  obtain ⟨configured, contents, memory⟩ := setMode_static static
  rw [BufferManager.setMode, if_pos configured, memory] at mode ⊢
  cases mode
  exact ⟨rfl, rfl, ⟨_, rfl, .unfilled unfilled, rfl, List.length_replicate⟩, fun _ => ⟨rfl, rfl⟩⟩

/-- A buffer without blocks has its free space at the start. -/
theorem Within.unfilled_of_empty (within : Within buffer) (empty : buffer.empty = true) :
    Unfilled buffer := by
  cases within with
  | unfilled unfilled => exact unfilled
  | filled starts free placed startsWithin freeWithin =>
      obtain rfl := placed.empty_iff.mp empty
      obtain rfl := (placed.reset rfl).2
      exact .emptied placed

/-- A configured manager without blocks looks like any other of the same configuration. -/
theorem Configured.alike {other : BufferManager} (configured : Configured maxSize maxNumber manager)
    (otherConfigured : Configured maxSize maxNumber other) (empty : manager.empty = true)
    (otherEmpty : other.empty = true) : AlikeManagers manager other := by
  obtain ⟨limitNumber, limitSize, ⟨buffer, mode, within, size, circle⟩, counters⟩ := configured
  obtain ⟨otherNumber, otherLimit, ⟨otherBuffer, otherMode, otherWithin, otherSize, otherCircle⟩,
      otherCounters⟩ :=
    otherConfigured
  have left : buffer.empty = true := by
    rw [BufferManager.empty, mode] at empty
    exact empty
  have right : otherBuffer.empty = true := by
    rw [BufferManager.empty, otherMode] at otherEmpty
    exact otherEmpty
  obtain ⟨costNumber, costSize⟩ := counters empty
  obtain ⟨otherCostNumber, otherCostSize⟩ := otherCounters otherEmpty
  have unfilled :=
    AlikeBuffers.unfilled (within.unfilled_of_empty left) (otherWithin.unfilled_of_empty right)
    (size.trans otherSize.symm) (circle.trans otherCircle.symm)
  refine ⟨?_, buffer, otherBuffer, mode, otherMode, unfilled⟩
  apply Limit.eq_of
  · exact costNumber.trans otherCostNumber.symm
  · exact costSize.trans otherCostSize.symm
  · exact limitNumber.trans otherNumber.symm
  · exact limitSize.trans otherLimit.symm

theorem Configured.push (configured : Configured maxSize maxNumber manager)
    (result : manager.pushReleased heap s side = some (res, pointer, after)) :
    Configured maxSize maxNumber after := by
  obtain ⟨limitNumber, limitSize, ⟨buffer, mode, within, size, circle⟩, counters⟩ := configured
  cases pushReleased_ok result with
  | limited => exact ⟨limitNumber, limitSize, ⟨buffer, mode, within, size, circle⟩, counters⟩
  | noMemory => exact ⟨limitNumber, limitSize, ⟨buffer, mode, within, size, circle⟩, counters⟩
  | dynamic contents admits dynamic =>
      rw [mode] at dynamic
      cases dynamic
  | static buffer' pushedBuffer admits mode' pushed =>
      cases mode.symm.trans mode'
      have done := within.released pushed
      have kept : ∃ buffer, some pushedBuffer = some buffer ∧ Within buffer ∧
          buffer.size = paddingSize maxSize ∧ buffer.circleIndex.length = succ maxNumber :=
        ⟨pushedBuffer, rfl, done.within, done.size.trans size, done.circle.trans circle⟩
      rcases done.outcome with ⟨failed, same⟩ | ⟨rfl, put⟩
      · refine ⟨?_, ?_, kept, fun empty => ?_⟩
        · rw [if_pos failed]
          exact limitNumber
        · rw [if_pos failed]
          exact limitSize
        · rw [if_pos failed]
          apply counters
          rw [BufferManager.empty, mode]
          exact same.symm.trans empty
      · exact ⟨limitNumber, limitSize, kept, fun empty => absurd empty put.live⟩

theorem Configured.pop (configured : Configured maxSize maxNumber manager) (s : Nat)
    (freeUnwritable : Bool) (side : Side) :
    Configured maxSize maxNumber (manager.popSide s freeUnwritable side).2 := by
  have same := configured
  obtain ⟨limitNumber, limitSize, ⟨buffer, mode, within, size, circle⟩, counters⟩ := configured
  by_cases empty : buffer.empty = true
  · rw [static_popSide_empty mode empty]
    exact same
  · obtain ⟨within', size', circle'⟩ := within.popSide empty s freeUnwritable side
    rw [static_popSide mode empty]
    refine ⟨?_, ?_, ⟨_, rfl, within', size'.trans size, circle'.trans circle⟩, fun emptied => ?_⟩
    · rw [(Limit.popped_limits _ _ _ _).1]
      exact limitNumber
    · rw [(Limit.popped_limits _ _ _ _).2]
      exact limitSize
    · have none : (buffer.popSide s freeUnwritable side).2.2.empty = true := emptied
      rw [Limit.popped, if_pos none]
      exact ⟨rfl, rfl⟩

/-- The invariant is kept by every call. -/
theorem Configured.step (configured : Configured maxSize maxNumber manager)
    (taken : releaseStep manager call after) : Configured maxSize maxNumber after := by
  obtain ⟨res, pointer, returned⟩ := taken
  cases call with
  | pushBack heap s => exact configured.push returned
  | pushFront heap s => exact configured.push returned
  | popBack s freeUnwritable =>
      cases returned
      exact configured.pop s freeUnwritable .back
  | popFront s freeUnwritable =>
      cases returned
      exact configured.pop s freeUnwritable .front

/-- A manager that any calls have emptied answers every sequence of calls as one that the same
    `set_mode` has just configured: with the same codes, pointers and counters. -/
theorem emptied_as_new (static :
    (BufferManager.setMode heap maxSize maxNumber).staticBuffer.isSome = true)
    (otherStatic : (BufferManager.setMode otherHeap maxSize maxNumber).staticBuffer.isSome = true)
    {made : List (Transition BufferManager BufferCall)}
    (run : Run releaseStep (.setMode heap maxSize maxNumber) made manager)
    (empty : manager.empty = true) (calls : List BufferCall) :
    manager.replies calls = (BufferManager.setMode otherHeap maxSize maxNumber).replies calls := by
  have configured :=
    run.invariant (configured_setMode static) (fun t kept taken (_ : True) => kept.step taken)
    fun _ _ => trivial
  have new := configured_setMode otherStatic
  have newEmpty : (BufferManager.setMode otherHeap maxSize maxNumber).empty = true := by
    obtain ⟨buffer, mode⟩ := Option.isSome_iff_exists.mp otherStatic
    rw [BufferManager.empty, mode]
    exact (setMode_unfilled mode).empty
  exact (configured.alike new empty newEmpty).replies calls

end

/-- The manager that a call leaves. -/
def BufferManager.releases (manager : BufferManager) (call : BufferCall) : BufferManager :=
  (manager.release call).elim manager fun done => done.2.2

/-- Two pushes and two pops leave an address behind, and nothing shows. -/
theorem emptied_as_new_stale : ∃ made manager,
    Run releaseStep (.setMode zeroHeap 256 3) made manager ∧ made.length = 4 ∧
      manager.staticBuffer.map StaticBuffer.circleIndex = some [some 0, none, some 64, none] ∧
      ∀ calls,
        manager.replies calls = (BufferManager.setMode (fun _ => some fun _ => 1) 256 3).replies
          calls := by
  let start := BufferManager.setMode zeroHeap 256 3
  let one := start.releases (.pushBack zeroHeap 1)
  let two := one.releases (.pushBack zeroHeap 1)
  let left := two.releases (.popFront 1 true)
  have pushed : releaseStep start (.pushBack zeroHeap 1) one := ⟨.success, some 24, rfl⟩
  have pushedAgain : releaseStep one (.pushBack zeroHeap 1) two := ⟨.success, some 56, rfl⟩
  have popped : releaseStep two (.popFront 1 true) left := ⟨.success, none, rfl⟩
  have poppedAgain : releaseStep left (.popFront 1 true) (left.releases (.popFront 1 true)) :=
    ⟨.success, none, rfl⟩
  have run := (((Run.refl.tail pushed).tail pushedAgain).tail popped).tail poppedAgain
  exact ⟨_, _, run, rfl, rfl, fun calls => emptied_as_new rfl rfl run rfl calls⟩

end LibAtbus.Detail
