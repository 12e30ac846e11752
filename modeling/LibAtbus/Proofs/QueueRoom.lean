/-
Module: LibAtbus.Proofs.QueueRoom
Layer: Proofs
Purpose: The room that the static mode of a manager leaves for blocks at the back. It depends on the
  regions of the live blocks and on where the free space begins; and where that is the end of the
  buffer, but too close to it for any block, it may as well be the start. To managers with the same
  room the same pushes go to the same places, and pops leave them the same room.
Trusted boundary: none
Main exports: LaidOut, backSpace, LosesEnd, LaidOut.pushBack, Simulates.laidOut, LaidOut.popSide,
  SameSpace, LaidOut.takenBack_space, SameSpace.backSpace_eq, SameRoom, SameRoom.popSide
-/
import LibAtbus.Proofs.LiveBlocks
import LibAtbus.Proofs.ReleasePushPop

namespace LibAtbus.Detail

open Word64 ByteMemory RingIndex CircularLayout ByteDeque

/-! ### Where the blocks lie -/

/-- The blocks of a static buffer lie in regions, and its free space begins at an address; before
    any push there are no regions. -/
inductive LaidOut (manager : BufferManager) (size n : Nat) (regions : List Region)
    (free : Nat) : Prop where
  | arranged (buffer : StaticBuffer) (mode : manager.staticBuffer = some buffer)
      (arranged : Arranged buffer regions free) (sizeIs : buffer.size = size)
      (entries : buffer.circleIndex.length = n)
  | fresh (buffer : StaticBuffer) (mode : manager.staticBuffer = some buffer) (fresh : Fresh buffer)
      (sizeIs : buffer.size = size) (entries : buffer.circleIndex.length = n) (none : regions = [])
      (origin : free = 0)

/-- Where a push of `s` bytes to the back goes, if the limits, the entries of the circle and the
    regions leave room. -/
def backSpace (limit : Limit) (size n : Nat) (regions : List Region) (free s : Nat) : Option Nat :=
  if 0 < limit.limitNumber ∧ limit.limitNumber ≤ limit.costNumber then none
  else if 0 < limit.limitSize ∧ limit.limitSize < wrap (limit.costSize + s) then none
  else if regions.length + 1 = n then none
  else backPlace size free regions (fullSize s)

/-- The block of a push of `s` bytes does not fit behind the free space at the end of a static
    buffer, where one of `least` bytes would, so that it can only go to the start. -/
def LosesEnd (least s : Nat) (manager : BufferManager) : Prop :=
  ∃ buffer, manager.staticBuffer = some buffer ∧
    (buffer.entry buffer.head).getD 0 ≤ (buffer.entry buffer.tail).getD 0 ∧
    least ≤ buffer.size - (buffer.entry buffer.tail).getD 0 ∧
    buffer.size - (buffer.entry buffer.tail).getD 0 < fullSize s

/-- What a push of `s` bytes to the back returns, by where it goes. -/
inductive BackPushed (limit : Limit) (size n : Nat) (regions : List Region) (free s : Nat) :
    Option Nat → Except Fault (Pushed BufferManager) → Prop where
  | refused (after : BufferManager) (laid : LaidOut after size n regions free)
      (same : after.limit = limit) :
      BackPushed limit size n regions free s none (.ok (.buffLimit, none, after))
  | placed (start : Nat) (after : BufferManager)
      (laid : LaidOut after size n (regions ++ [⟨start, fullSize s⟩]) (start + fullSize s))
      (counted : after.limit = limit.pushed s) :
      BackPushed limit size n regions free s (some start)
      (.ok (.success, some (start + headSize), after))

section

variable {manager other : BufferManager} {size n free s : Nat} {regions rest : List Region}
  {region : Region} {buffer : StaticBuffer} {side : Side} {freeUnwritable : Bool} {limit : Limit}
  {dynamicBuffer : List BufferBlock}

theorem LaidOut.static (laid : LaidOut manager size n regions free) :
    ∃ buffer, manager.staticBuffer = some buffer ∧ buffer.size = size := by
  cases laid with
  | arranged buffer mode arranged sizeIs => exact ⟨buffer, mode, sizeIs⟩
  | fresh buffer mode fresh sizeIs => exact ⟨buffer, mode, sizeIs⟩

/-- The blocks lie where the static buffer says. -/
theorem LaidOut.congr (laid : LaidOut manager size n regions free)
    (same : other.staticBuffer = manager.staticBuffer) : LaidOut other size n regions free := by
  cases laid with
  | arranged buffer mode arranged sizeIs entries =>
      exact .arranged buffer (same.trans mode) arranged sizeIs entries
  | fresh buffer mode fresh sizeIs entries none origin =>
      exact .fresh buffer (same.trans mode) fresh sizeIs entries none origin

theorem LaidOut.liveBlocks_length (laid : LaidOut manager size n regions free) :
    manager.liveBlocks.length = regions.length := by
  cases laid with
  | arranged buffer mode arranged => rw [arranged.liveBlocks mode, List.length_map]
  | fresh buffer mode fresh sizeIs entries none =>
      have idle : buffer.count = 0 := by
        have circle := fresh.circle
        rw [StaticBuffer.count, fresh.tail, fresh.head, RingIndex.dist_self (by omega)]
      simp only [BufferManager.liveBlocks, mode, idle, none, List.range_zero, List.map_nil,
        List.length_nil]

/-- A push to an arranged buffer that the limits let through. -/
theorem backPushed_arranged (arranged : Arranged buffer regions free) (sizeIs : buffer.size = size)
    (entries : buffer.circleIndex.length = n) (sized : Sized s) :
    BackPushed limit size n regions free s
      (if regions.length + 1 = n then none else backPlace size free regions (fullSize s))
      (do
        let (res, pointer, pushed) ← buffer.pushBackChecked s
        let limit' := if res.failed then limit else limit.pushed s
        return (res, pointer, ⟨some pushed, dynamicBuffer, limit'⟩)) := by
  rw [arranged.pushBackChecked_eq sized, ok_bind, entries, sizeIs]
  have refused : BackPushed limit size n regions free s none
      (.ok (.buffLimit, none, ⟨some buffer, dynamicBuffer, limit⟩)) :=
    .refused _ (.arranged buffer rfl arranged sizeIs entries) rfl
  by_cases full : regions.length + 1 = n
  · rw [if_pos full, if_pos full]
    exact refused
  rw [if_neg full, if_neg full]
  cases place : backPlace size free regions (fullSize s) with
  | none => exact refused
  | some start =>
      have room : regions.length + 1 ≠ buffer.circleIndex.length := entries ▸ full
      have put := arranged.putBack sized room (sizeIs ▸ place)
      obtain ⟨sameSize, sameEntries⟩ := putSide_size buffer s start .back
      exact .placed start _
        (.arranged _ rfl put (sameSize.trans sizeIs) (sameEntries.trans entries)) rfl

/-- What a push to the back does. -/
theorem LaidOut.pushBack (laid : LaidOut manager size n regions free) (sized : Sized s)
    (heap : Heap) :
    BackPushed manager.limit size n regions free s (backSpace manager.limit size n regions free s)
      (manager.pushBackChecked heap s) := by
  have refused : BackPushed manager.limit size n regions free s none
      (.ok (.buffLimit, none, manager)) :=
    .refused manager laid rfl
  unfold backSpace BufferManager.pushBackChecked BufferManager.pushWith
  by_cases number : 0 < manager.limit.limitNumber ∧
    manager.limit.limitNumber ≤ manager.limit.costNumber
  · simp only [if_pos number]
    exact refused
  by_cases full : 0 < manager.limit.limitSize ∧
    manager.limit.limitSize < wrap (manager.limit.costSize + s)
  · simp only [if_neg number, if_pos full]
    exact refused
  simp only [if_neg number, if_neg full]
  cases laid with
  | arranged buffer mode arranged sizeIs entries =>
      simp only [mode]
      exact backPushed_arranged arranged sizeIs entries sized
  | fresh buffer mode fresh sizeIs entries none origin =>
      subst none origin
      obtain ⟨sameSize, sameEntries⟩ := emptyInit_size buffer
      simp only [mode, (fresh.push_eq s).1]
      exact backPushed_arranged fresh.emptyInit (sameSize.trans sizeIs) (sameEntries.trans entries)
        sized

/-- A push to the back returns. -/
theorem LaidOut.pushBack_returns (laid : LaidOut manager size n regions free) (sized : Sized s)
    (heap : Heap) :
    ∃ res pointer after, manager.pushBackChecked heap s = .ok (res, pointer, after) := by
  have went := laid.pushBack sized heap
  generalize backSpace manager.limit size n regions free s = place at went
  generalize manager.pushBackChecked heap s = result at went
  cases went with
  | refused after => exact ⟨_, _, after, rfl⟩
  | placed start after => exact ⟨_, _, after, rfl⟩

/-- Pushes leave the limits. -/
theorem pushBack_limits {heap : Heap} {res : ErrorType} {pointer : Option Nat}
    (pushed : manager.pushBackChecked heap s = .ok (res, pointer, other)) :
    other.limit.limitNumber = manager.limit.limitNumber ∧
      other.limit.limitSize = manager.limit.limitSize := by
  cases pushWith_ok pushed with
  | limited refused null => exact ⟨rfl, rfl⟩
  | dynamic blocks mode pushed =>
      dsimp only
      split
      · exact ⟨rfl, rfl⟩
      · exact ⟨rfl, rfl⟩
  | static buffer pushedBuffer mode pushed =>
      dsimp only
      split
      · exact ⟨rfl, rfl⟩
      · exact ⟨rfl, rfl⟩

/-- Where a push in static mode returns, and not because of the limits, the blocks lie in
    regions. -/
theorem Simulates.laidOut {mapped : MappedManager} {deque : List Chunk} {heap : Heap}
    {res : ErrorType} {pointer : Option Nat} (simulates : Simulates mapped deque)
    (mode : mapped.manager.staticBuffer = some buffer)
    (pushed : mapped.manager.pushBackChecked heap s = .ok (res, pointer, other))
    (unlimited : res ≠ .buffLimit) :
    ∃ n regions free, LaidOut mapped.manager buffer.size n regions free := by
  cases simulates with
  | dynamic dynamic =>
      rw [mode] at dynamic
      cases dynamic
  | static buffer' regions free mode' arranged =>
      cases mode.symm.trans mode'
      exact ⟨_, regions, free, .arranged buffer mode arranged rfl rfl⟩
  | idle buffer' mode' idle =>
      cases mode.symm.trans mode'
      rcases idle with ⟨fresh, -⟩ | ⟨-, short⟩
      · exact ⟨_, [], 0, .fresh buffer mode fresh rfl rfl rfl rfl⟩
      · cases pushWith_ok pushed with
        | limited refused => exact absurd refused unlimited
        | dynamic blocks dynamic =>
            rw [mode] at dynamic
            cases dynamic
        | static buffer' pushedBuffer mode' pushed =>
            cases mode.symm.trans mode'
            have faults : buffer.pushSide s .back = .error .assertion := idle_push_faults short
            cases pushed.symm.trans faults

theorem Arranged.dropSide (arranged : Arranged buffer (side.put region rest) free) :
    Arranged (buffer.dropSide side) rest
      (if rest = [] then 0 else freeLeft free region.start side) := by
  cases side with
  | front => exact arranged.dropFront
  | back => exact arranged.dropBack

/-- A pop of a manager with a block takes its region away, or leaves all regions. -/
theorem LaidOut.popSide (laid : LaidOut manager size n (side.put region rest) free) (s : Nat)
    (freeUnwritable : Bool) :
    LaidOut (manager.popSide s freeUnwritable side).2 size n rest
        (if rest = [] then 0 else freeLeft free region.start side) ∨
      LaidOut (manager.popSide s freeUnwritable side).2 size n (side.put region rest) free := by
  cases laid with
  | fresh buffer mode fresh sizeIs entries none => exact absurd none Side.put_ne_nil
  | arranged buffer mode arranged sizeIs entries =>
      have live : ¬buffer.empty = true := fun empty => Side.put_ne_nil (arranged.empty_iff.mp empty)
      have member : region ∈ side.put region rest := Side.mem_put.mpr (.inl rfl)
      have occupies := arranged.occupied region member
      have placed := arranged.placed
      rw [Side.map_put] at placed
      have popped : (buffer.blocks region.start).pop ((buffer.blocks region.start).taken s) =
          (buffer.blocks region.start).consume s := occupies.pop_taken
      have changed := arranged.setBlock arranged.entry_side (occupies.consume s) member
      rw [static_popSide mode live, placed.popSide_eq, popped]
      by_cases removed : (buffer.blocks region.start).emptied s freeUnwritable = true
      · left
        simp only [if_pos removed]
        exact .arranged _ rfl changed.dropSide ((dropSide_size _ side).1.trans sizeIs)
          ((dropSide_length _ side).trans entries)
      · right
        simp only [if_neg removed]
        exact .arranged _ rfl changed sizeIs entries

/-- A pop that takes a block away. -/
theorem LaidOut.popSide_shorter (laid : LaidOut manager size n (side.put region rest) free)
    (shorter :
      (manager.popSide s freeUnwritable side).2.liveBlocks.length < manager.liveBlocks.length) :
    LaidOut (manager.popSide s freeUnwritable side).2 size n rest
      (if rest = [] then 0 else freeLeft free region.start side) := by
  rcases laid.popSide s freeUnwritable with removed | kept
  · exact removed
  · rw [laid.liveBlocks_length, kept.liveBlocks_length] at shorter
    exact absurd shorter (Nat.lt_irrefl _)

/-! ### The same room -/

/-- The free space begins at the end of the buffer, but less than `least` bytes before it, or as
    well at the start. -/
structure Wasted (least size : Nat) (regions : List Region) (free other : Nat) : Prop where
  some : regions ≠ []
  stacked : Stacked 0 free regions
  short : size < free + least
  origin : other = 0

/-- Two beginnings of the free space leave the same room for regions of at least `least` bytes. -/
inductive SameSpace (least size : Nat) (regions : List Region) (free other : Nat) : Prop where
  | same (same : free = other)
  | wastedLeft (wasted : Wasted least size regions free other)
  | wastedRight (wasted : Wasted least size regions other free)

variable {least length otherFree : Nat} {first : Region}

theorem SameSpace.symm (space : SameSpace least size regions free otherFree) :
    SameSpace least size regions otherFree free := by
  cases space with
  | same same => exact .same same.symm
  | wastedLeft wasted => exact .wastedRight wasted
  | wastedRight wasted => exact .wastedLeft wasted

/-- The first region of a static buffer whose free space begins at the start lies behind it. -/
theorem LaidOut.frontStart_pos (laid : LaidOut manager size n regions 0) (some : regions ≠ []) :
    0 < frontStart 0 regions := by
  cases laid with
  | fresh buffer mode fresh sizeIs entries none => exact absurd none some
  | arranged buffer mode arranged =>
      cases regions with
      | nil => exact absurd rfl some
      | cons first rest =>
          have long := (arranged.occupied first List.mem_cons_self).length_pos
          have outside : first.stop ≤ 0 ∨ 0 < first.start :=
            arranged.circular.outside List.mem_cons_self
          rw [Region.stop] at outside
          change 0 < first.start
          omega

theorem Wasted.backPlace_eq (wasted : Wasted least size regions free otherFree)
    (laid : LaidOut other size n regions otherFree) (enough : least ≤ length) :
    backPlace size free regions length = backPlace size otherFree regions length := by
  obtain ⟨some, stacked, short, rfl⟩ := wasted
  have positive := laid.frontStart_pos some
  cases regions with
  | nil => exact absurd rfl some
  | cons first rest =>
      have front : first.start ≤ free := by
        have stop := (stacked.mem List.mem_cons_self).2
        rw [Region.stop] at stop
        omega
      have behind : ¬first.start ≤ 0 := Nat.not_le_of_lt positive
      have long : ¬free + length ≤ size := by omega
      change (if first.start ≤ free then if free + length ≤ size then _ else if length < first.start
        then _ else _
        else _) = if first.start ≤ 0 then _ else if 0 + length < first.start then _ else _
      rw [if_pos front, if_neg long, if_neg behind, Nat.zero_add]

/-- A push that has a place has one among the regions. -/
theorem backPlace_of_backSpace {start : Nat}
    (place : backSpace limit size n regions free s = some start) :
    backPlace size free regions (fullSize s) = some start := by
  unfold backSpace at place
  split at place
  · cases place
  · split at place
    · cases place
    · split at place
      · cases place
      · exact place

/-- Where a push went decides where the free space begins after its block is taken away again: that
    makes no difference unless the block was put to the start and the end of the buffer is lost. -/
theorem LaidOut.takenBack_space (laid : LaidOut manager size n regions free) {start : Nat}
    (place : backSpace limit size n regions free s = some start)
    (keeps : ¬LosesEnd least s manager) :
    SameSpace least size regions free (if regions = [] then 0 else start) := by
  replace place := backPlace_of_backSpace place
  cases laid with
  | fresh buffer mode fresh sizeIs entries none origin =>
      rw [if_pos none]
      exact .same origin
  | arranged buffer mode arranged sizeIs entries =>
      by_cases none : regions = []
      · rw [if_pos none]
        exact .same (arranged.reset none).2
      rw [if_neg none]
      rcases backPlace_start place with there | origin
      · exact .same there.symm
      subst origin
      by_cases front : frontStart free regions ≤ free
      · by_cases fits : free + fullSize s ≤ size
        · rw [backPlace, if_pos front, if_pos fits] at place
          exact .same (Option.some.inj place)
        · -- the entry of the tail stores the start of the buffer from now on, and no pop brings
          -- `free` back
          have short : size < free + least := by
            by_contra enough
            apply keeps
            refine ⟨buffer, mode, ?_⟩
            rw [arranged.headAddress, arranged.entry_tail, Option.getD_some, Option.getD_some,
              sizeIs]
            exact ⟨front, by omega, by omega⟩
          have stacked := arranged.circular.stacked front
          exact .wastedLeft ⟨none, stacked, short, rfl⟩
      · rw [backPlace, if_neg front] at place
        split at place
        · exact .same (Option.some.inj place)
        · cases place

/-- Regions of at least `least` bytes find the same place. -/
theorem SameSpace.backPlace_eq (space : SameSpace least size regions free otherFree)
    (laid : LaidOut manager size n regions free)
    (otherLaid : LaidOut other size n regions otherFree) (enough : least ≤ length) :
    backPlace size free regions length = backPlace size otherFree regions length := by
  cases space with
  | same same => rw [same]
  | wastedLeft wasted => exact wasted.backPlace_eq otherLaid enough
  | wastedRight wasted => exact (wasted.backPlace_eq laid enough).symm

/-- Pushes of regions of at least `least` bytes go to the same place. -/
theorem SameSpace.backSpace_eq (space : SameSpace least size regions free otherFree)
    (laid : LaidOut manager size n regions free)
    (otherLaid : LaidOut other size n regions otherFree) (enough : least ≤ fullSize s)
    (limit : Limit) :
    backSpace limit size n regions otherFree s = backSpace limit size n regions free s := by
  rw [backSpace, backSpace, space.backPlace_eq laid otherLaid enough]

/-- The space without the first region. -/
theorem Wasted.tail (wasted : Wasted least size (first :: rest) free otherFree) (some : rest ≠ []) :
    Wasted least size rest free otherFree :=
  ⟨some, wasted.stacked.2.mono (Nat.zero_le _) (Nat.le_refl _), wasted.short, wasted.origin⟩

theorem SameSpace.drop (space : SameSpace least size (side.put region rest) free otherFree) :
    SameSpace least size rest (if rest = [] then 0 else freeLeft free region.start side)
      (if rest = [] then 0 else freeLeft otherFree region.start side) := by
  by_cases none : rest = []
  · rw [if_pos none, if_pos none]
    exact .same rfl
  rw [if_neg none, if_neg none]
  cases side with
  | back => exact .same rfl
  | front =>
      cases space with
      | same same => exact .same same
      | wastedLeft wasted => exact .wastedLeft (wasted.tail none)
      | wastedRight wasted => exact .wastedRight (wasted.tail none)

/-- Two managers in static mode have the same limits, the same regions and the same room for blocks
    whose full size is at least `least`. -/
structure SameRoom (least : Nat) (manager other : BufferManager) : Prop where
  limitNumber : manager.limit.limitNumber = other.limit.limitNumber
  limitSize : manager.limit.limitSize = other.limit.limitSize
  room : ∃ size n regions free otherFree, LaidOut manager size n regions free ∧
    LaidOut other size n regions otherFree ∧ SameSpace least size regions free otherFree

theorem SameRoom.static (room : SameRoom least manager other) :
    ∃ buffer, manager.staticBuffer = some buffer := by
  obtain ⟨-, -, size, n, regions, free, otherFree, laid, -⟩ := room
  obtain ⟨buffer, mode, -⟩ := laid.static
  exact ⟨buffer, mode⟩

theorem SameRoom.symm (room : SameRoom least manager other) : SameRoom least other manager := by
  obtain ⟨limitNumber, limitSize, size, n, regions, free, otherFree, laid, otherLaid, space⟩ := room
  exact ⟨limitNumber.symm, limitSize.symm, size, n, regions, otherFree, free, otherLaid, laid,
    space.symm⟩

/-- A pop that takes a block away from managers with the same room. -/
theorem SameRoom.popSide (room : SameRoom least manager other)
    (shorter :
      (manager.popSide s freeUnwritable side).2.liveBlocks.length < manager.liveBlocks.length)
    (otherShorter :
      (other.popSide s freeUnwritable side).2.liveBlocks.length < other.liveBlocks.length) :
    SameRoom least (manager.popSide s freeUnwritable side).2
      (other.popSide s freeUnwritable side).2 := by
  obtain ⟨limitNumber, limitSize, size, n, regions, free, otherFree, laid, otherLaid, space⟩ := room
  rcases side.nil_or_put regions with rfl | ⟨region, rest, rfl⟩
  · rw [laid.liveBlocks_length] at shorter
    exact absurd shorter (Nat.not_lt_zero _)
  · obtain ⟨number, sizes⟩ := popSide_limits manager s freeUnwritable side
    obtain ⟨otherNumber, otherSizes⟩ := popSide_limits other s freeUnwritable side
    refine ⟨?_, ?_, size, n, rest, _, _, laid.popSide_shorter shorter,
      otherLaid.popSide_shorter otherShorter, space.drop⟩
    · rw [number, otherNumber, limitNumber]
    · rw [sizes, otherSizes, limitSize]

end

end LibAtbus.Detail
