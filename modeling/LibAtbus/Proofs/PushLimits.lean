/-
Module: LibAtbus.Proofs.PushLimits
Layer: Proofs
Purpose: What the limits of a manager are worth in a build without assertions, in every run of its
  calls and configurations. A push that succeeds keeps the limits in exact integers and has all of
  its bytes behind the pointer it returns if neither the sum of the sizes nor the full size of the
  block wraps, and otherwise it does not: close to 2^64 a size passes every comparison.
Trusted boundary: none
Main exports: LimitsHold, NoWrap, Within, Bounded, push_limits_iff
-/
import LibAtbus.Proofs.ReleasePushPop
import LibAtbus.Foundation.Transitions

namespace LibAtbus.Detail

open Word64 ByteMemory RingIndex ByteDeque Transitions

/-! ### What a push promises -/

/-- A push to a side. -/
def pushCall : Side → Heap → Nat → BufferCall
  | .front, heap, s => .pushFront heap s
  | .back, heap, s => .pushBack heap s

/-- In exact integers the limits held for a push of `s` bytes, and the block it made has them behind
    the pointer it returned: in what was allocated for it, and inside the static buffer if there is
    one. -/
structure LimitsHold (before after : BufferManager) (side : Side) (s : Nat)
    (pointer : Option Nat) : Prop where
  size : 0 < before.limit.limitSize → before.limit.costSize + s ≤ before.limit.limitSize
  number : 0 < before.limit.limitNumber → before.limit.costNumber < before.limit.limitNumber
  backed : ∃ address block, pointer = some address ∧ after.side side = some block ∧
    block.data = address ∧
    s ≤ block.room ∧ ∀ buffer, after.staticBuffer = some buffer → address + s ≤ buffer.size

/-- Neither the sum of the sizes, if it is limited, nor the full size of a block of `s` bytes
    wraps. -/
structure NoWrap (limit : Limit) (s : Nat) : Prop where
  sum : 0 < limit.limitSize → limit.costSize + s < 2 ^ 64
  sized : Sized s

/-! ### One push -/

/-- The addresses that the circle stores lie in the static buffer. -/
inductive Within (buffer : StaticBuffer) : Prop where
  | unfilled (unfilled : Unfilled buffer)
  | filled (starts : List Nat) (free : Nat) (placed : Placed buffer starts free)
      (startsWithin : ∀ start ∈ starts, start ≤ buffer.size) (freeWithin : free ≤ buffer.size)

/-- A push into a static buffer has put a block of `s` bytes inside it. -/
structure PutWithin (after : StaticBuffer) (s : Nat) (side : Side)
    (pointer : Option Nat) : Prop where
  live : ¬after.empty = true
  block : ∃ start contents, pointer = some (start + headSize) ∧
    after.blockAt (after.sideIndex side) = .created start s contents ∧
    start + fullSize s ≤ after.size

/-- What a push leaves of a static buffer. -/
structure PushedWithin (buffer after : StaticBuffer) (s : Nat) (side : Side) (res : ErrorType)
    (pointer : Option Nat) : Prop where
  within : Within after
  size : after.size = buffer.size
  circle : after.circleIndex.length = buffer.circleIndex.length
  outcome : res.failed = true ∧ after.empty = buffer.empty ∨ res = .success ∧
    PutWithin after s side pointer

section

variable {buffer after : StaticBuffer} {starts : List Nat} {free s : Nat} {side : Side}
  {res : ErrorType} {pointer : Option Nat} {freeUnwritable : Bool}

/-- A push among addresses that lie in the buffer. -/
theorem Placed.released_within (placed : Placed buffer starts free)
    (startsWithin : ∀ start ∈ starts, start ≤ buffer.size) (freeWithin : free ≤ buffer.size)
    (pushed : buffer.released s side = some (res, pointer, after)) :
    PushedWithin buffer after s side res pointer := by
  have refused : PushedWithin buffer buffer s side .buffLimit none :=
    ⟨.filled starts free placed startsWithin freeWithin, rfl, rfl, .inl ⟨rfl, rfl⟩⟩
  rw [placed.released_eq] at pushed
  split at pushed
  · cases pushed
    exact refused
  · rename_i room
    cases place : StaticBuffer.sideStart buffer.size (starts.headD free) free (fullSize s) side with
    | none =>
        rw [place] at pushed
        cases pushed
        exact refused
    | some start =>
        rw [place] at pushed
        cases pushed
        have headWithin : starts.headD free ≤ buffer.size := by
          cases starts with
          | nil => exact freeWithin
          | cons first rest => exact startsWithin first List.mem_cons_self
        have fits := sideStart_le headWithin freeWithin place
        have put := placed.putSide room s start side
        obtain ⟨size, circle⟩ := putSide_size buffer s start side
        refine ⟨.filled _ _ put ?_ ?_, size, circle, .inr ⟨rfl, ?_, ?_⟩⟩
        · intro other member
          rw [size]
          rcases Side.mem_put.mp member with rfl | old
          · exact (Nat.le_add_right _ _).trans fits
          · exact startsWithin other old
        · rw [size]
          cases side with
          | front => exact freeWithin
          | back => exact fits
        · exact fun empty => Side.put_ne_nil (put.empty_iff.mp empty)
        · have block : (buffer.putSide s start side).blockAt
              ((buffer.putSide s start side).sideIndex side) =
              .created start s (buffer.blocks start).store := by
            rw [StaticBuffer.blockAt, put.entry_side, Option.getD_some]
            exact (placed.putSide_blocks s start side).1
          exact ⟨start, _, rfl, block, size.symm ▸ fits⟩

theorem Within.released (within : Within buffer)
    (pushed : buffer.released s side = some (res, pointer, after)) :
    PushedWithin buffer after s side res pointer := by
  cases within with
  | filled starts free placed startsWithin freeWithin =>
      exact placed.released_within startsWithin freeWithin pushed
  | unfilled unfilled =>
      by_cases entries : buffer.circleIndex = []
      · unfold StaticBuffer.released at pushed
        rw [if_pos entries] at pushed
        cases pushed
      · obtain ⟨emptied, placed, size, circle, same⟩ := unfilled.released_eq entries
        rw [same] at pushed
        have done :=
          placed.released_within (fun start member => absurd member List.not_mem_nil)
            (Nat.zero_le _) pushed
        have both : emptied.empty = buffer.empty :=
          (placed.empty_iff.mpr rfl).trans unfilled.empty.symm
        exact ⟨done.within, done.size.trans size, done.circle.trans circle, both ▸ done.outcome⟩

/-- A pop of a static buffer with a block. -/
theorem Within.popSide (within : Within buffer) (live : ¬buffer.empty = true) (s : Nat)
    (freeUnwritable : Bool) (side : Side) : Within (buffer.popSide s freeUnwritable side).2.2 ∧
      (buffer.popSide s freeUnwritable side).2.2.size = buffer.size ∧
      (buffer.popSide s freeUnwritable side).2.2.circleIndex.length =
        buffer.circleIndex.length := by
  cases within with
  | unfilled unfilled => exact absurd unfilled.empty live
  | filled starts free placed startsWithin freeWithin =>
      rcases side.nil_or_put starts with rfl | ⟨start, rest, rfl⟩
      · exact absurd (placed.empty_iff.mpr rfl) live
      · have startWithin := startsWithin start (Side.mem_put.mpr (.inl rfl))
        have restWithin : ∀ other ∈ rest, other ≤ buffer.size :=
          fun other member => startsWithin other (Side.mem_put.mpr (.inr member))
        let popped := buffer.setBlock (buffer.sideIndex side)
          ((buffer.blocks start).pop ((buffer.blocks start).taken s))
        have changed : Placed popped (side.put start rest) free := placed.setBlock _ _
        rw [placed.popSide_eq]
        split
        · have size := (dropSide_size popped side).1
          refine ⟨.filled _ _ changed.dropSide ?_ ?_, size, dropSide_length popped side⟩
          · intro other member
            rw [size]
            exact restWithin other member
          · rw [size]
            split
            · exact Nat.zero_le _
            · cases side with
              | front => exact freeWithin
              | back => exact startWithin
        · exact ⟨.filled _ _ changed startsWithin freeWithin, rfl, rfl⟩

end

/-! ### Every run -/

/-- The invariant: the size limit is a word, and the addresses of a static buffer lie in it. -/
structure Bounded (manager : BufferManager) : Prop where
  limitWord : manager.limit.limitSize < 2 ^ 64
  within : ∀ buffer, manager.staticBuffer = some buffer → Within buffer

section

variable {manager after : BufferManager} {s maxSize maxNumber : Nat} {side : Side} {res : ErrorType}
  {pointer : Option Nat} {heap : Heap} {freeUnwritable : Bool} {limit : Limit}

theorem bounded_reset : Bounded .reset := ⟨by decide, fun _ static => by cases static⟩

theorem Bounded.setLimit (bounded : Bounded manager) (word : maxSize < 2 ^ 64) :
    Bounded (manager.setLimit maxSize maxNumber) := by
  unfold BufferManager.setLimit
  split
  · rename_i mode
    exact ⟨word, bounded.within⟩
  · exact bounded

/-- The buffer that `set_mode` makes has no blocks. -/
theorem setMode_unfilled {buffer : StaticBuffer}
    (static : (BufferManager.setMode heap maxSize maxNumber).staticBuffer = some buffer) :
    Unfilled buffer := by
  obtain ⟨configured, contents, memory⟩ :=
    setMode_static (Option.isSome_iff_exists.mpr ⟨buffer, static⟩)
  by_cases number : maxNumber + 1 = 2 ^ 64
  · have circle : succ maxNumber = 0 := if_pos number
    rw [BufferManager.setMode, if_pos configured, memory, circle] at static
    cases static
    exact .noEntries rfl rfl
  · obtain ⟨buffer', static', fresh, -⟩ := setMode_fresh configured memory number
    cases static.symm.trans static'
    exact .fresh fresh

theorem bounded_setMode (word : maxSize < 2 ^ 64) : Bounded (.setMode heap maxSize maxNumber) := by
  refine ⟨?_, fun buffer static => .unfilled (setMode_unfilled static)⟩
  unfold BufferManager.setMode
  split
  · split
    · exact bounded_reset.limitWord
    · exact word
  · exact bounded_reset.limitWord

theorem Bounded.push (bounded : Bounded manager)
    (result : manager.pushReleased heap s side = some (res, pointer, after)) : Bounded after := by
  cases pushReleased_ok result with
  | limited => exact bounded
  | noMemory => exact bounded
  | dynamic contents admits mode =>
      exact ⟨bounded.limitWord, fun buffer static => bounded.within buffer static⟩
  | static buffer pushedBuffer admits mode pushed =>
      refine ⟨?_, fun other static => ?_⟩
      · dsimp only
        split
        · exact bounded.limitWord
        · exact bounded.limitWord
      · cases static
        exact ((bounded.within buffer mode).released pushed).within

/-- A pop in dynamic mode leaves the mode. -/
theorem popSide_dynamic (mode : manager.staticBuffer = none) (s : Nat) (freeUnwritable : Bool)
    (side : Side) : (manager.popSide s freeUnwritable side).2.staticBuffer = none := by
  cases side with
  | front =>
      simp only [BufferManager.popSide, BufferManager.popFront, mode]
      split
      · exact mode
      · rfl
  | back =>
      simp only [BufferManager.popSide, BufferManager.popBack, mode]
      split
      · exact mode
      · rfl

theorem Bounded.pop (bounded : Bounded manager) (s : Nat) (freeUnwritable : Bool) (side : Side) :
    Bounded (manager.popSide s freeUnwritable side).2 := by
  refine ⟨?_, fun other static => ?_⟩
  · rw [(popSide_limits manager s freeUnwritable side).2]
    exact bounded.limitWord
  · cases mode : manager.staticBuffer with
    | none =>
        rw [popSide_dynamic mode] at static
        cases static
    | some buffer =>
        by_cases empty : buffer.empty = true
        · rw [static_popSide_empty mode empty] at static
          exact bounded.within other static
        · rw [static_popSide mode empty] at static
          cases static
          exact ((bounded.within buffer mode).popSide empty s freeUnwritable side).1

/-- The invariant is kept by every event. -/
theorem Bounded.step {event : ManagerEvent} (bounded : Bounded manager)
    (taken : managerStep manager event after) : Bounded after := by
  cases taken with
  | @called call res pointer after word returned =>
      cases call with
      | pushBack heap s => exact bounded.push returned
      | pushFront heap s => exact bounded.push returned
      | popBack s freeUnwritable =>
          cases returned
          exact bounded.pop s freeUnwritable .back
      | popFront s freeUnwritable =>
          cases returned
          exact bounded.pop s freeUnwritable .front
  | setLimit sizeWord numberWord => exact bounded.setLimit sizeWord
  | setMode sizeWord numberWord => exact bounded_setMode sizeWord
  | reset => exact bounded_reset

/-! ### Successful pushes -/

/-- The limits as they are compared are those in exact integers if the sum does not wrap. -/
theorem Limit.Admits.exact_iff (admits : limit.Admits s) (word : limit.limitSize < 2 ^ 64) :
    (0 < limit.limitSize → limit.costSize + s ≤ limit.limitSize) ↔
      (0 < limit.limitSize → limit.costSize + s < 2 ^ 64) := by
  constructor
  · intro exact limited
    exact (exact limited).trans_lt word
  · intro noWrap limited
    have compared : ¬limit.limitSize < wrap (limit.costSize + s) :=
      fun less => admits.2 ⟨limited, less⟩
    rw [wrap_of_lt (noWrap limited)] at compared
    exact Nat.le_of_not_lt compared

/-- The full size of a block has room for its bytes exactly if it does not wrap. -/
theorem room_iff (word : s < 2 ^ 64) : s ≤ fullSize s - headSize ↔ Sized s := by
  constructor
  · intro room
    have words := fullSize_le s
    rw [headSize_eq] at room
    rw [Sized, headSize_eq]
    omega
  · intro sized
    have covers := sized.covers
    omega

/-- A push that succeeds has compared the limits and put a block to its side. -/
theorem Bounded.limitsHold_iff (bounded : Bounded manager) (word : s < 2 ^ 64)
    (result : manager.pushReleased heap s side = some (.success, pointer, after)) :
    LimitsHold manager after side s pointer ↔ NoWrap manager.limit s := by
  have admits : manager.limit.Admits s := by
    cases pushReleased_ok result with
    | dynamic contents admits mode => exact admits
    | static buffer pushedBuffer admits mode pushed => exact admits
  have backed : (∃ address block, pointer = some address ∧ after.side side = some block ∧
      block.data = address ∧
      s ≤ block.room ∧ ∀ buffer, after.staticBuffer = some buffer → address + s ≤ buffer.size) ↔
      Sized s := by
    cases pushReleased_ok result with
    | dynamic contents admits mode =>
        have there : BufferManager.side
            { manager with
              dynamicBuffer :=
                side.put (.created 0 s fun i => contents (headSize + i)) manager.dynamicBuffer
              limit := manager.limit.pushed s } side =
                some (.created 0 s fun i => contents (headSize + i)) := by
          refine (dynamic_side ?_).trans Side.peek?_put
          exact mode
        constructor
        · rintro ⟨address, block, -, found, -, room, -⟩
          cases there.symm.trans found
          exact (room_iff word).mp room
        · intro sized
          exact ⟨headSize, _, rfl, there, rfl, (room_iff word).mpr sized,
            fun buffer static => absurd (mode.symm.trans static) (by simp)⟩
    | static buffer pushedBuffer admits mode pushed =>
        obtain ⟨live, start, contents, found, placed, fits⟩ :
            PutWithin pushedBuffer s side pointer := by
          rcases ((bounded.within buffer mode).released pushed).outcome with ⟨failed, -⟩ | ⟨-, put⟩
          · cases failed
          · exact put
        have there : BufferManager.side
            { manager with
              staticBuffer := some pushedBuffer
              limit := if ErrorType.success.failed then manager.limit else manager.limit.pushed s }
                side =
            some (.created start s contents) := by
          rw [static_side rfl, if_neg live, placed]
        constructor
        · rintro ⟨address, block, -, found, -, room, -⟩
          cases there.symm.trans found
          exact (room_iff word).mp room
        · intro sized
          refine ⟨start + headSize, _, found, there, rfl, (room_iff word).mpr sized,
            fun buffer static => ?_⟩
          cases static
          have covers := sized.covers
          omega
  constructor
  · intro holds
    exact ⟨(admits.exact_iff bounded.limitWord).mp holds.size, backed.mp holds.backed⟩
  · intro noWrap
    refine ⟨(admits.exact_iff bounded.limitWord).mpr noWrap.sum, fun limited => ?_,
      backed.mpr noWrap.sized⟩
    exact Nat.lt_of_not_le fun reached => admits.1 ⟨limited, reached⟩

end

/-- In every run, a push that succeeds keeps the limits and has its bytes exactly if nothing wraps
    for it. -/
theorem push_limits_iff {made : List (Transition BufferManager ManagerEvent)}
    {final : BufferManager} (run : Run managerStep .reset made final)
    {t : Transition BufferManager ManagerEvent} (member : t ∈ made) {side : Side} {heap : Heap}
    {s : Nat} {pointer : Option Nat}
    (pushed : t.label = .called (pushCall side heap s) .success pointer) :
    LimitsHold t.pre t.post side s pointer ↔ NoWrap t.pre.limit s := by
  have keeps : ∀ t : Transition BufferManager ManagerEvent, Bounded t.pre →
      managerStep t.pre t.label t.post → True →
      Bounded t.post ∧ Bounded t.pre ∧ managerStep t.pre t.label t.post :=
    fun t bounded taken _ => ⟨bounded.step taken, bounded, taken⟩
  obtain ⟨bounded, taken⟩ :=
    (run.forall_transition bounded_reset keeps fun _ _ => trivial).2 t member
  rw [pushed] at taken
  cases taken with
  | called word returned =>
      cases side with
      | front => exact bounded.limitsHold_iff word returned
      | back => exact bounded.limitsHold_iff word returned

/-- A manager with a limit of 100 bytes, after a push of 1 byte. -/
def oneByte : BufferManager :=
  { staticBuffer := none
    dynamicBuffer := [.created 0 1 fun _ => 0]
    limit := ⟨1, 1, 0, 100⟩ }

theorem run_oneByte : ∃ made, Run managerStep .reset made oneByte := by
  have limited : managerStep .reset (.setLimit 100 0) (BufferManager.reset.setLimit 100 0) :=
    .setLimit (by decide) (by decide)
  have pushed : managerStep (BufferManager.reset.setLimit 100 0)
      (.called (.pushBack zeroHeap 1) .success (some 24))
      oneByte := .called (show 1 < 2 ^ 64 by decide) rfl
  exact ⟨_, (Run.refl.tail limited).tail pushed⟩

/-- A second push of 99 bytes. -/
theorem push_limits_iff_full : ∃ made final, Run managerStep .reset made final ∧ ∃ t ∈ made,
    t.label = .called (.pushFront zeroHeap 99) .success (some 24) ∧
    LimitsHold t.pre t.post .front 99 (some 24) := by
  obtain ⟨made, run⟩ := run_oneByte
  have pushed : managerStep oneByte (.called (.pushFront zeroHeap 99) .success (some 24))
      { staticBuffer := none
        dynamicBuffer := [.created 0 99 fun _ => 0, .created 0 1 fun _ => 0]
        limit := ⟨2, 100, 0, 100⟩ } := .called (show 99 < 2 ^ 64 by decide) rfl
  refine ⟨_, _, run.tail pushed, _, List.mem_concat_self, rfl, ?_⟩
  apply (push_limits_iff (run.tail pushed) List.mem_concat_self rfl).mpr
  exact ⟨fun _ => by decide, by decide⟩

/-- A push of 2^64 - 1 bytes passes the limit of 100 bytes, and gets a block without a single
    byte. -/
theorem huge_push_succeeds : ∃ made final, Run managerStep .reset made final ∧ ∃ t ∈ made,
    t.label = .called (.pushBack zeroHeap (2 ^ 64 - 1)) .success (some 24) ∧
    t.pre.limit = ⟨1, 1, 0, 100⟩ ∧
      t.post.back.map BufferBlock.room = some 0 ∧
      ¬LimitsHold t.pre t.post .back (2 ^ 64 - 1) (some 24) := by
  obtain ⟨made, run⟩ := run_oneByte
  have pushed : managerStep oneByte (.called (.pushBack zeroHeap (2 ^ 64 - 1)) .success (some 24))
      { staticBuffer := none
        dynamicBuffer := [.created 0 1 fun _ => 0, .created 0 (2 ^ 64 - 1) fun _ => 0]
        limit := ⟨2, 0, 0, 100⟩ } := .called (show 2 ^ 64 - 1 < 2 ^ 64 by decide) rfl
  refine ⟨_, _, run.tail pushed, _, List.mem_concat_self, rfl, rfl, rfl, fun holds => ?_⟩
  have exact := holds.size (by decide)
  exact absurd exact (by decide)

end LibAtbus.Detail
