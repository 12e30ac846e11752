/-
Module: LibAtbus.Proofs.BufferDeque
Layer: Proofs
Purpose: Both modes of a buffer manager are one deque of chunks of bytes. The deque is what the
  calls and the writes made so far say, and nothing else; after every run, in either mode, the
  manager shows it at both ends: codes, counts, the bytes that have been written, and the counters
  of its limit. In static mode this rests on the layout: what a header, a user or the fill of a
  destroyed block writes lies in the region of one block.
Trusted boundary: none
Main exports: dequeAfter, history, SameEvent, Implements, buffer_modes_one_deque
-/
import LibAtbus.Proofs.BufferSimulation

namespace LibAtbus.Detail

open Word64 ByteMemory CircularLayout ByteDeque Transitions

/-! ### The deque of a run -/

/-- What an event makes of the deque. -/
def dequeAfter (deque : List Chunk) : BufferEvent → List Chunk
  | .called (.pushBack _ s) res _ => if res.failed then deque else Side.put .back (.fresh s) deque
  | .called (.pushFront _ s) res _ => if res.failed then deque else Side.put .front (.fresh s) deque
  | .called (.popBack s freeUnwritable) _ _ => pop .back s freeUnwritable deque
  | .called (.popFront s freeUnwritable) _ _ => pop .front s freeUnwritable deque
  | .wrote i offset bytes => deque.modify i fun chunk => chunk.write offset bytes

/-- The deque after the events of a run. -/
def history (made : List (Transition MappedManager BufferEvent)) : List Chunk :=
  made.foldl (fun deque t => dequeAfter deque t.label) []

/-- Events of two runs in which the same calls and writes are made and the same pushes succeed. What
    `malloc` answers and the codes and pointers that are returned may differ. -/
inductive SameEvent : BufferEvent → BufferEvent → Prop where
  | pushBack {heap heap' : Heap} {s : Nat} {res res' : ErrorType} {pointer pointer' : Option Nat}
      (same : res.failed = res'.failed) :
      SameEvent (.called (.pushBack heap s) res pointer) (.called (.pushBack heap' s) res' pointer')
  | pushFront {heap heap' : Heap} {s : Nat} {res res' : ErrorType} {pointer pointer' : Option Nat}
      (same : res.failed = res'.failed) :
      SameEvent (.called (.pushFront heap s) res pointer)
      (.called (.pushFront heap' s) res' pointer')
  | popBack {s : Nat} {freeUnwritable : Bool} {res res' : ErrorType}
      {pointer pointer' : Option Nat} :
      SameEvent (.called (.popBack s freeUnwritable) res pointer)
      (.called (.popBack s freeUnwritable) res' pointer')
  | popFront {s : Nat} {freeUnwritable : Bool} {res res' : ErrorType}
      {pointer pointer' : Option Nat} :
      SameEvent (.called (.popFront s freeUnwritable) res pointer)
      (.called (.popFront s freeUnwritable) res' pointer')
  | wrote {i offset : Nat}
      {bytes : List UInt8} : SameEvent (.wrote i offset bytes) (.wrote i offset bytes)

/-- What a push asks of its size and of `malloc`. -/
def EventFits (t : Transition MappedManager BufferEvent) : Prop :=
  match t.label with
  | .called (.pushBack heap s) _ _ => Sized s ∧ t.pre.manager.Mallocs heap s
  | .called (.pushFront heap s) _ _ => Sized s ∧ t.pre.manager.Mallocs heap s
  | _ => True

/-- The pointer that a successful push returns is the `pointer_` of the new block, through which a
    user writes to it. -/
def PushPoints (t : Transition MappedManager BufferEvent) : Prop :=
  match t.label with
  | .called (.pushBack _ _) res pointer =>
      res = .success → pointer = t.post.manager.back.map BufferBlock.pointer
  | .called (.pushFront _ _) res pointer =>
      res = .success → pointer = t.post.manager.front.map BufferBlock.pointer
  | _ => True

/-! ### What a manager shows of a deque -/

/-- What `front` or `back` returns about the chunk at that side, or about none. -/
def MappedManager.ShowsSide (mapped : MappedManager) (block : Option BufferBlock)
    (view : BufferView) :
    Option Chunk → Prop
  | none => view = ⟨.noData, none, 0, 0⟩
  | some chunk => ∃ shown, block = some shown ∧
      view = ⟨.success, some shown.data, chunk.consumed, chunk.remaining⟩ ∧
      Shows shown (mapped.byteAt shown) chunk

/-- The bytes of a static buffer hold the headers of the live blocks. -/
def MappedManager.HeadersIntact (mapped : MappedManager) : Prop :=
  ∀ buffer, mapped.manager.staticBuffer = some buffer → ∀ i < buffer.count,
    readBytes mapped.bytes ((buffer.entry (buffer.liveIndex i)).getD 0) headSize =
      (buffer.blockAt (buffer.liveIndex i)).header

/-- The manager behaves as a deque. -/
structure Implements (mapped : MappedManager) (deque : List Chunk) : Prop where
  empty : mapped.manager.empty = deque.isEmpty
  front : mapped.ShowsSide mapped.manager.front mapped.manager.frontView (Side.front.peek? deque)
  back : mapped.ShowsSide mapped.manager.back mapped.manager.backView (Side.back.peek? deque)
  popFront : ∀ s freeUnwritable, (mapped.manager.popFront s freeUnwritable).1 =
    if deque.isEmpty then .noData else .success
  popBack : ∀ s freeUnwritable, (mapped.manager.popBack s freeUnwritable).1 =
    if deque.isEmpty then .noData else .success
  number : mapped.manager.limit.costNumber = deque.length
  size : mapped.manager.limit.costSize = load deque
  headers : mapped.HeadersIntact

section

variable {mapped : MappedManager} {deque : List Chunk}

/-! ### What a manager shows -/

/-- The block at a side, where there is one. -/
theorem Simulates.showsSide (simulates : Simulates mapped deque) (side : Side) :
    mapped.ShowsSide (mapped.manager.side side) (.ofBlock (mapped.manager.side side))
      (side.peek? deque) := by
  cases simulates with
  | dynamic mode shown space counts =>
      rw [dynamic_side mode]
      rcases side.nil_or_put mapped.manager.dynamicBuffer with held | ⟨block, kept, held⟩
      · rw [held] at shown ⊢
        obtain rfl := List.forall₂_nil_left_iff.mp shown
        rw [Side.peek?_nil, Side.peek?_nil]
        rfl
      · rw [held] at shown ⊢
        obtain ⟨chunk, chunks, rfl, ⟨occupies, shows⟩, -⟩ := Side.forall₂_put_left shown
        rw [Side.peek?_put, Side.peek?_put]
        refine ⟨block, rfl, shows.view occupies, shows.congr fun k _ => ?_⟩
        simp only [MappedManager.byteAt, mode]
  | static buffer regions free mode arranged shown word counts =>
      rw [static_side mode]
      rcases side.nil_or_put regions with rfl | ⟨region, rest, rfl⟩
      · obtain rfl := List.forall₂_nil_left_iff.mp shown
        rw [if_pos (arranged.empty_iff.mpr rfl), Side.peek?_nil]
        rfl
      · obtain ⟨chunk, chunks, rfl, first, -⟩ := Side.forall₂_put_left shown
        have live : ¬buffer.empty = true :=
          fun empty => Side.put_ne_nil (arranged.empty_iff.mp empty)
        have occupies := arranged.occupied region (Side.mem_put.mpr (.inl rfl))
        have block : buffer.blockAt (buffer.sideIndex side) = buffer.blocks region.start := by
          rw [StaticBuffer.blockAt, arranged.entry_side, Option.getD_some]
        rw [if_neg live, Side.peek?_put, block]
        refine ⟨_, rfl, first.shows.view occupies, first.shows.congr fun k _ => ?_⟩
        simp only [MappedManager.byteAt, mode, occupies.pointer]
  | idle buffer mode idle none counts =>
      rw [static_side mode, if_pos idle.empty, none, Side.peek?_nil]
      rfl

theorem Simulates.counts (simulates : Simulates mapped deque) :
    Counts mapped.manager.limit deque := by
  cases simulates with
  | dynamic _ _ _ counts => exact counts
  | static _ _ _ _ _ _ _ counts => exact counts
  | idle _ _ _ _ counts => exact counts

theorem Simulates.empty (simulates : Simulates mapped deque) :
    mapped.manager.empty = deque.isEmpty := by
  cases simulates with
  | dynamic mode shown space counts =>
      have length := shown.length_eq
      simp only [BufferManager.empty, mode]
      rw [Bool.eq_iff_iff, List.isEmpty_iff_length_eq_zero, List.isEmpty_iff_length_eq_zero, length]
  | static buffer regions free mode arranged shown word counts =>
      simp only [BufferManager.empty, mode]
      exact empty_eq arranged shown
  | idle buffer mode idle none counts =>
      simp only [BufferManager.empty, mode, idle.empty, none, List.isEmpty_nil]

theorem Simulates.headersIntact (simulates : Simulates mapped deque) : mapped.HeadersIntact := by
  intro buffer' mode' i live
  cases simulates with
  | dynamic mode =>
      rw [mode] at mode'
      cases mode'
  | static buffer regions free mode arranged shown word counts =>
      cases mode.symm.trans mode'
      have below : i < regions.length := arranged.count_eq ▸ live
      have stored : buffer'.entry (buffer'.liveIndex i) = some regions[i].start :=
        arranged.entry_live below
      obtain ⟨length, each⟩ := forall₂_iff_getElem?.mp shown
      have shows :=
        each i _ _ (List.getElem?_eq_getElem below) (List.getElem?_eq_getElem (length ▸ below))
      rw [StaticBuffer.blockAt, stored, Option.getD_some]
      exact shows.header
  | idle buffer mode idle none counts =>
      cases mode.symm.trans mode'
      rw [idle.count] at live
      exact absurd live (Nat.not_lt_zero i)

/-- A manager that holds the chunks of a deque behaves as the deque. -/
theorem Simulates.implements (simulates : Simulates mapped deque) : Implements mapped deque := by
  have counts := simulates.counts
  exact ⟨simulates.empty, simulates.showsSide .front, simulates.showsSide .back,
    fun s freeUnwritable => (simulates.pop .front s freeUnwritable).1,
    fun s freeUnwritable => (simulates.pop .back s freeUnwritable).1, counts.number, counts.size,
    simulates.headersIntact⟩

end

/-! ### Runs -/

/-- The managers at the start hold no chunks. -/
theorem BufferStart.simulates {mapped : MappedManager} (start : BufferStart mapped) :
    Simulates mapped [] := by
  cases start with
  | dynamic maxSize maxNumber bytes => exact .dynamic rfl .nil (Nat.zero_le _) ⟨rfl, rfl⟩
  | set heap maxSize maxNumber bytes word =>
      by_cases configured : maxSize ≠ 0 ∧ 0 < maxNumber
      · cases memory : heap (paddingSize maxSize) with
        | none =>
            rw [BufferManager.setMode, if_pos configured, memory]
            exact .dynamic rfl .nil (Nat.zero_le _) ⟨rfl, rfl⟩
        | some contents =>
            have counts : Counts (BufferManager.setMode heap maxSize maxNumber).limit [] := by
              rw [BufferManager.setMode, if_pos configured, memory]
              exact ⟨rfl, rfl⟩
            by_cases overflow : maxNumber + 1 = 2 ^ 64
            · rw [BufferManager.setMode, if_pos configured, memory] at counts ⊢
              have circle : succ maxNumber = 0 := if_pos overflow
              refine .idle _ rfl (.inr ⟨rfl, ?_⟩) rfl counts
              rw [List.length_replicate, circle]
              exact Nat.two_pos
            · obtain ⟨buffer, mode, fresh, size⟩ := setMode_fresh configured memory overflow
              exact .idle buffer mode (.inl ⟨fresh, size ▸ paddingSize_lt word⟩) rfl counts
      · rw [BufferManager.setMode, if_neg configured]
        exact .dynamic rfl .nil (Nat.zero_le _) ⟨rfl, rfl⟩

/-- An event makes of the deque of a manager what it says. -/
theorem Simulates.step {deque : List Chunk} {mapped after : MappedManager} {event : BufferEvent}
    (simulates : Simulates mapped deque) (taken : bufferStep mapped event after)
    (fits : EventFits ⟨mapped, event, after⟩) : Simulates after (dequeAfter deque event) := by
  cases taken with
  | wrote live inside => exact simulates.write live inside
  | @called _ call res pointer returned =>
      obtain ⟨⟨res', pointer', manager⟩, called, result⟩ := ok_of_bind returned
      cases result
      cases call with
      | pushBack heap s => exact simulates.push .back fits.1 fits.2 called
      | pushFront heap s => exact simulates.push .front fits.1 fits.2 called
      | popBack s freeUnwritable =>
          cases called
          exact (simulates.pop .back s freeUnwritable).2
      | popFront s freeUnwritable =>
          cases called
          exact (simulates.pop .front s freeUnwritable).2

/-- After every run the manager holds the chunks that the events of the run say. -/
theorem simulates_history {start final : MappedManager}
    {made : List (Transition MappedManager BufferEvent)} (begun : BufferStart start)
    (run : Run bufferStep start made final) (fits : ∀ t ∈ made, EventFits t) :
    Simulates final (history made) := by
  induction run with
  | refl => exact begun.simulates
  | @tail made mapped after event run last ih =>
      have earlier := ih fun t member => fits t (List.mem_append_left _ member)
      have now := fits ⟨mapped, event, after⟩ (List.mem_append_right _ (List.mem_singleton_self _))
      rw [history, List.foldl_append]
      exact earlier.step last now

/-- The same event makes the same of a deque. -/
theorem SameEvent.dequeAfter_eq {event event' : BufferEvent} (same : SameEvent event event')
    (deque : List Chunk) : dequeAfter deque event = dequeAfter deque event' := by
  cases same with
  | pushBack same => simp only [dequeAfter, same]
  | pushFront same => simp only [dequeAfter, same]
  | popBack => rfl
  | popFront => rfl
  | wrote => rfl

theorem history_same {made made' : List (Transition MappedManager BufferEvent)}
    (same : List.Forall₂ (fun t t' => SameEvent t.label t'.label) made made') :
    history made = history made' := by
  have folded : ∀ deque : List Chunk, made.foldl (fun deque t => dequeAfter deque t.label) deque =
      made'.foldl (fun deque t => dequeAfter deque t.label) deque := by
    induction same with
    | nil => exact fun _ => rfl
    | @cons t t' made made' event _ ih =>
        intro deque
        rw [List.foldl_cons, List.foldl_cons, event.dequeAfter_eq, ih]
  exact folded []

/-- The pointer that a push of a run returns is that of the new block. -/
theorem Simulates.eventPoints {deque : List Chunk} {mapped after : MappedManager}
    {event : BufferEvent} (simulates : Simulates mapped deque)
    (taken : bufferStep mapped event after) (fits : EventFits ⟨mapped, event, after⟩) :
    PushPoints ⟨mapped, event, after⟩ := by
  cases taken with
  | wrote live inside => trivial
  | @called _ call res pointer returned =>
      obtain ⟨⟨res', pointer', manager⟩, called, result⟩ := ok_of_bind returned
      cases result
      cases call with
      | pushBack heap s =>
          rintro rfl
          exact simulates.pushPoints .back fits.1 called
      | pushFront heap s =>
          rintro rfl
          exact simulates.pushPoints .front fits.1 called
      | popBack s freeUnwritable => trivial
      | popFront s freeUnwritable => trivial

/-- The manager holds the chunks of some deque. -/
def Holding (mapped : MappedManager) : Prop := ∃ deque, Simulates mapped deque

theorem run_pushPoints {start final : MappedManager}
    {made : List (Transition MappedManager BufferEvent)} (begun : BufferStart start)
    (run : Run bufferStep start made final) (fits : ∀ t ∈ made, EventFits t) :
    ∀ t ∈ made, PushPoints t := by
  have initial : Holding start := ⟨[], begun.simulates⟩
  have keeps : ∀ t : Transition MappedManager BufferEvent, Holding t.pre →
      bufferStep t.pre t.label t.post → EventFits t → Holding t.post ∧ PushPoints t :=
    fun _ ⟨_, simulates⟩ taken fits =>
      ⟨⟨_, simulates.step taken fits⟩, simulates.eventPoints taken fits⟩
  exact (run.forall_transition initial keeps fits).2

/-- Two managers, in one mode or in different ones, on which the same calls and writes are made and
    the same pushes succeed, behave as the same deque, and their pushes return pointers to the new
    blocks. -/
theorem buffer_modes_one_deque {start start' final final' : MappedManager}
    {made made' : List (Transition MappedManager BufferEvent)} (begun : BufferStart start)
    (begun' : BufferStart start') (run : Run bufferStep start made final)
    (run' : Run bufferStep start' made' final') (fits : ∀ t ∈ made, EventFits t)
    (fits' : ∀ t ∈ made', EventFits t)
    (same : List.Forall₂ (fun t t' => SameEvent t.label t'.label) made made') :
    Implements final (history made) ∧ Implements final' (history made) ∧
      (∀ t ∈ made, PushPoints t) ∧ ∀ t ∈ made', PushPoints t := by
  refine ⟨(simulates_history begun run fits).implements, ?_, run_pushPoints begun run fits,
    run_pushPoints begun' run' fits'⟩
  rw [history_same same]
  exact (simulates_history begun' run' fits').implements

/-- The manager and its bytes after a call. -/
def MappedManager.leaves (mapped : MappedManager) (call : BufferCall) (pointer : Option Nat) :
    MappedManager :=
  ⟨mapped.manager.leaves call, mapped.callBytes call pointer⟩

/-- A block is pushed, written to and consumed in part, in dynamic mode and in static mode. -/
theorem buffer_modes_one_deque_three_events : ∃ made made' final final',
    Run bufferStep ⟨BufferManager.reset.setLimit 0 0, fun _ => 0⟩ made final ∧
      Run bufferStep ⟨BufferManager.setMode zeroHeap 256 3, fun _ => 0⟩ made' final' ∧
      (Implements final (history made) ∧ Implements final' (history made) ∧
        (∀ t ∈ made, PushPoints t) ∧ ∀ t ∈ made', PushPoints t) ∧ load (history made) = 12 := by
  let dynamic : MappedManager := ⟨BufferManager.reset.setLimit 0 0, fun _ => 0⟩
  let dynamicPushed := dynamic.leaves (.pushBack zeroHeap 17) (some 24)
  let dynamicWritten := dynamicPushed.write 0 2 [7, 8]
  have pushed : bufferStep dynamic (.called (.pushBack zeroHeap 17) .success (some 24))
      dynamicPushed := .called rfl
  have written : bufferStep dynamicPushed (.wrote 0 2 [7, 8]) dynamicWritten :=
    .wrote rfl (by decide)
  have popped : bufferStep dynamicWritten (.called (.popFront 5 false) .success none)
      (dynamicWritten.leaves (.popFront 5 false) none) := .called rfl
  let static : MappedManager := ⟨BufferManager.setMode zeroHeap 256 3, fun _ => 0⟩
  let staticPushed := static.leaves (.pushBack zeroHeap 17) (some 24)
  let staticWritten := staticPushed.write 0 2 [7, 8]
  have pushed' : bufferStep static (.called (.pushBack zeroHeap 17) .success (some 24))
      staticPushed := .called rfl
  have written' : bufferStep staticPushed (.wrote 0 2 [7, 8]) staticWritten :=
    .wrote rfl (by decide)
  have popped' : bufferStep staticWritten (.called (.popFront 5 false) .success none)
      (staticWritten.leaves (.popFront 5 false) none) := .called rfl
  have run := ((Run.refl.tail pushed).tail written).tail popped
  have run' := ((Run.refl.tail pushed').tail written').tail popped'
  refine ⟨_, _, _, _, run, run', ?_, rfl⟩
  refine buffer_modes_one_deque (.dynamic 0 0 _) (.set zeroHeap 256 3 _ (by decide)) run run' ?_ ?_
    ?_
  · intro t member
    simp only [List.nil_append, List.cons_append, List.mem_cons, List.not_mem_nil,
      or_false] at member
    rcases member with rfl | rfl | rfl
    · exact ⟨by decide, fun _ _ => by decide⟩
    · trivial
    · trivial
  · intro t member
    simp only [List.nil_append, List.cons_append, List.mem_cons, List.not_mem_nil,
      or_false] at member
    rcases member with rfl | rfl | rfl
    · exact ⟨by decide, fun mode => by cases mode⟩
    · trivial
    · trivial
  · exact .cons (.pushBack rfl) (.cons .wrote (.cons .popFront .nil))

end LibAtbus.Detail
