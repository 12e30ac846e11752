/-
Module: LibAtbus.Proofs.SendUndo
Layer: Proofs
Purpose: What a failed `uv_write` leaves of `write_buffers`. The block of the frame is taken back:
  the blocks, their bytes and the limits are those from before the send. What may be lost in static
  mode is the end of the buffer, when the block was put to the start. Unless it is, and a block
  would still go there, no later sends and completions can tell.
Trusted boundary: none
Main exports: SentTo, Carries.sentTo, Matched, matched_bisimulation, QueueRestored, LosesEnd,
  failed_send_restores
-/
import LibAtbus.Foundation.Bisimulation
import LibAtbus.Proofs.QueueRoom
import LibAtbus.Proofs.SendCompletion

namespace LibAtbus.Channel

open Detail Word64 ByteMemory RingIndex CircularLayout ByteDeque Transitions

/-! ### Where a send goes -/

/-- The full size of the block of an empty payload. -/
def leastFrame (reqSize : Nat) : Nat := fullSize (totalBufferSize reqSize 0)

/-- What a send to a static buffer leaves, by the place of its block. -/
inductive SentTo (size n : Nat) (regions : List Region) (free s : Nat) (uvWrite : Int) :
    Option Nat → Pushed StreamWriter → Prop where
  | refused (after : StreamWriter) (laid : LaidOut after.buffers.manager size n regions free) :
      SentTo size n regions free s uvWrite none (.buffLimit, none, after)
  | takenBack (start : Nat) (after : StreamWriter) (failed : uvWrite ≠ 0)
      (laid : LaidOut after.buffers.manager size n regions (if regions = [] then 0 else start)) :
      SentTo size n regions free s uvWrite (some start) (.writeFailed, none, after)
  | accepted (start : Nat) (after : StreamWriter) (succeeded : uvWrite = 0)
      (laid :
        LaidOut after.buffers.manager size n (regions ++ [⟨start, fullSize s⟩])
        (start + fullSize s)) :
      SentTo size n regions free s uvWrite (some start) (.success, some (start + headSize), after)

section

variable {writer after : StreamWriter} {deque : List Chunk} {pointers : List Nat}
  {reqSize s size n free : Nat} {payload : List UInt8} {heap : Heap} {address : Nat} {uvWrite : Int}
  {conf : StreamConf} {sent : Pushed StreamWriter} {regions : List Region} {res : ErrorType}
  {req : Option Nat} {buffer : StaticBuffer}

/-- No frame is smaller than that of an empty payload. -/
theorem leastFrame_le (request : reqSize < 2 ^ 62) (object : payload.length < 2 ^ 63) :
    leastFrame reqSize ≤ fullSize (totalBufferSize reqSize payload.length) := by
  obtain ⟨whole, sized⟩ := totalBufferSize_eq request object
  cases payload with
  | nil => exact Nat.le_refl _
  | cons first rest =>
      have none : ([] : List UInt8).length < 2 ^ 63 := by decide
      obtain ⟨empty, emptySized⟩ := totalBufferSize_eq request none
      have one : (frameTail []).length = 1 := by decide
      have tail := frameTail_length object
      rw [List.length_cons] at tail
      rw [List.length_nil] at empty emptySized
      rw [leastFrame, sized.fullSize_eq, emptySized.fullSize_eq, whole, empty, one]
      omega

/-- A push of a writer is one of its manager. -/
theorem pushBack_ok (pushing : writer.pushBack heap address s = .ok (res, req, after)) :
    ∃ pointer,
      writer.buffers.manager.pushBackChecked heap s =
        .ok (res, pointer, after.buffers.manager) := by
  obtain ⟨⟨res', data, buffers⟩, called, returned⟩ := ok_of_bind pushing
  cases returned
  obtain ⟨⟨res', data', manager⟩, pushed, called⟩ := ok_of_bind called
  cases called
  exact ⟨_, pushed⟩

/-- A push in static mode, where pointers count from the start of the buffer. -/
theorem pushBack_static {manager : BufferManager} {pointer : Option Nat}
    (mode : writer.buffers.manager.staticBuffer = some buffer)
    (pushed : writer.buffers.manager.pushBackChecked heap s = .ok (res, pointer, manager))
    (address : Nat) :
    ∃ pushing, writer.pushBack heap address s = .ok (res, pointer, pushing) ∧
      pushing.buffers.manager = manager := by
  simp only [StreamWriter.pushBack, MappedManager.call, BufferManager.call, pushed,
    StreamWriter.place, mode]
  cases pointer with
  | none => exact ⟨_, rfl, rfl⟩
  | some data => exact ⟨_, rfl, rfl⟩

/-- In static mode `malloc` is not asked. -/
theorem mallocs_static (mode : writer.buffers.manager.staticBuffer = some buffer) :
    writer.buffers.manager.Mallocs heap s := by
  intro dynamic
  rw [mode] at dynamic
  cases dynamic

/-- A send to a static buffer. -/
theorem Carries.sentTo (carries : Carries writer deque pointers)
    (laid : LaidOut writer.buffers.manager size n regions free) (request : reqSize < 2 ^ 62)
    (object : payload.length < 2 ^ 63)
    (short : ¬(0 < conf.sendBufferLimitSize ∧ conf.sendBufferLimitSize < payload.length))
    (returned : ioStreamSendMapped conf heap address reqSize uvWrite writer payload = .ok sent) :
    SentTo size n regions free (totalBufferSize reqSize payload.length) uvWrite
      (backSpace writer.buffers.manager.limit size n regions free
        (totalBufferSize reqSize payload.length)) sent := by
  obtain ⟨buffer, mode, -⟩ := laid.static
  have went := laid.pushBack (totalBufferSize_eq request object).2 heap
  obtain ⟨pushed, pushing, done⟩ :=
    carries.sendDone request object (mallocs_static mode) short returned
  generalize backSpace writer.buffers.manager.limit size n regions free
    (totalBufferSize reqSize payload.length) = place
    at went
  generalize made : writer.buffers.manager.pushBackChecked heap
    (totalBufferSize reqSize payload.length) = result
    at went
  cases went with
  | refused manager laid' =>
      obtain ⟨after, pushing', rfl⟩ := pushBack_static mode made address
      cases pushing.symm.trans pushing'
      cases done with
      | refused failed kept => exact .refused after laid'
  | placed start manager laid' =>
      obtain ⟨after, pushing', rfl⟩ := pushBack_static mode made address
      cases pushing.symm.trans pushing'
      cases done with
      | refused failed => cases failed
      | takenBack only frame added failed =>
          have shorter :=
            (added.takeBack frame request).blocks_length.trans_lt (Nat.lt_succ_self deque.length)
          have before := added.blocks_length
          rw [List.length_append] at before
          replace laid' : LaidOut _ size n (Side.back.put ⟨start, _⟩ regions) _ :=
            laid'.congr only.mode
          exact .takenBack start _ failed (laid'.popSide_shorter (before ▸ shorter))
      | accepted only frame added succeeded =>
          exact .accepted start _ succeeded (laid'.congr only.mode)

/-- A send to a static buffer whose push returns, returns. -/
theorem Carries.static_returns (carries : Carries writer deque pointers)
    (laid : LaidOut writer.buffers.manager size n regions free) (request : reqSize < 2 ^ 62)
    (object : payload.length < 2 ^ 63) (conf : StreamConf) (heap : Heap) (address : Nat)
    (uvWrite : Int) :
    ∃ sent, ioStreamSendMapped conf heap address reqSize uvWrite writer payload = .ok sent := by
  obtain ⟨buffer, mode, -⟩ := laid.static
  obtain ⟨res, pointer, manager, made⟩ :=
    laid.pushBack_returns (totalBufferSize_eq request object).2 heap
  obtain ⟨after, pushing, -⟩ := pushBack_static mode made address
  exact carries.send_returns request object (mallocs_static mode) pushing

/-- A send to a static buffer that succeeds has put its block somewhere. -/
theorem Carries.sent_place (carries : Carries writer deque pointers)
    (laid : LaidOut writer.buffers.manager size n regions free) (request : reqSize < 2 ^ 62)
    (object : payload.length < 2 ^ 63)
    (returned :
      ioStreamSendMapped conf heap address reqSize uvWrite writer payload =
        .ok (.success, req, after)) :
    ∃ start, backPlace size free regions (fullSize (totalBufferSize reqSize payload.length)) =
      some start ∧
      LaidOut after.buffers.manager size n
        (regions ++ [⟨start, fullSize (totalBufferSize reqSize payload.length)⟩])
        (start + fullSize (totalBufferSize reqSize payload.length)) := by
  by_cases long : 0 < conf.sendBufferLimitSize ∧ conf.sendBufferLimitSize < payload.length
  · rw [ioStreamSendMapped, if_pos long] at returned
    cases returned
  have went := carries.sentTo laid request object long returned
  cases place : backSpace writer.buffers.manager.limit size n regions free
    (totalBufferSize reqSize payload.length) with
  | none =>
      rw [place] at went
      cases went
  | some start =>
      rw [place] at went
      cases went with
      | accepted _ _ succeeded laid' => exact ⟨start, backPlace_of_backSpace place, laid'⟩

/-- A send leaves the limits. -/
theorem Carries.send_limits (carries : Carries writer deque pointers) (request : reqSize < 2 ^ 62)
    (object : payload.length < 2 ^ 63)
    (mallocs : writer.buffers.manager.Mallocs heap (totalBufferSize reqSize payload.length))
    (returned : ioStreamSendMapped conf heap address reqSize uvWrite writer payload = .ok sent) :
    sent.2.2.buffers.manager.limit.limitNumber = writer.buffers.manager.limit.limitNumber ∧
      sent.2.2.buffers.manager.limit.limitSize = writer.buffers.manager.limit.limitSize := by
  by_cases long : 0 < conf.sendBufferLimitSize ∧ conf.sendBufferLimitSize < payload.length
  · rw [ioStreamSendMapped, if_pos long] at returned
    cases returned
    exact ⟨rfl, rfl⟩
  · obtain ⟨⟨res, req, pushed⟩, pushing, done⟩ :=
      carries.sendDone request object mallocs long returned
    obtain ⟨pointer, made⟩ := pushBack_ok pushing
    obtain ⟨number, size⟩ := pushBack_limits made
    cases done with
    | refused failed kept => exact ⟨number, size⟩
    | @takenBack _ _ written _ only =>
        obtain ⟨number', size'⟩ :=
          popSide_limits written.buffers.manager (totalBufferSize reqSize payload.length) true .back
        rw [only.limit] at number' size'
        exact ⟨number'.trans number, size'.trans size⟩
    | accepted only =>
        rw [only.limit]
        exact ⟨number, size⟩

/-- A send to static buffers with the same room and the same counters returns the same, and leaves
    them the same room. -/
theorem send_sameRoom {other : StreamWriter} {otherDeque : List Chunk} {otherPointers : List Nat}
    (carries : Carries writer deque pointers)
    (otherCarries : Carries other otherDeque otherPointers)
    (room : SameRoom (leastFrame reqSize) writer.buffers.manager other.buffers.manager)
    (limit : writer.buffers.manager.limit = other.buffers.manager.limit)
    (request : reqSize < 2 ^ 62) (object : payload.length < 2 ^ 63)
    (returned : ioStreamSendMapped conf heap address reqSize uvWrite writer payload = .ok sent) :
    ∃ otherAfter, ioStreamSendMapped conf heap address reqSize uvWrite other payload =
        .ok (sent.1, sent.2.1, otherAfter) ∧
      SameRoom (leastFrame reqSize) sent.2.2.buffers.manager otherAfter.buffers.manager := by
  by_cases long : 0 < conf.sendBufferLimitSize ∧ conf.sendBufferLimitSize < payload.length
  · rw [ioStreamSendMapped, if_pos long] at returned
    cases returned
    exact ⟨other, if_pos long, room⟩
  obtain ⟨limitNumber, limitSize, size, n, regions, free, otherFree, laid, otherLaid, space⟩ := room
  obtain ⟨buffer, mode, -⟩ := laid.static
  obtain ⟨otherBuffer, otherMode, -⟩ := otherLaid.static
  obtain ⟨otherSent, otherReturned⟩ :=
    otherCarries.static_returns otherLaid request object conf heap address uvWrite
  obtain ⟨number, sizes⟩ := carries.send_limits request object (mallocs_static mode) returned
  obtain ⟨otherNumber, otherSizes⟩ :=
    otherCarries.send_limits request object (mallocs_static otherMode) otherReturned
  have keptNumber := number.trans (limitNumber.trans otherNumber.symm)
  have keptSize := sizes.trans (limitSize.trans otherSizes.symm)
  have went := carries.sentTo laid request object long returned
  have otherWent := otherCarries.sentTo otherLaid request object long otherReturned
  -- no frame is smaller than `leastFrame`, so that the end that one of them may have lost takes
  -- none
  rw [← limit, space.backSpace_eq laid otherLaid (leastFrame_le request object)] at otherWent
  generalize backSpace writer.buffers.manager.limit size n regions free
    (totalBufferSize reqSize payload.length) = place
    at went otherWent
  rw [otherReturned]
  cases went with
  | refused after laid' =>
      cases otherWent with
      | refused otherAfter otherLaid' =>
          exact ⟨otherAfter, rfl, keptNumber, keptSize, size, n, regions, _, _, laid', otherLaid',
            space⟩
  | takenBack start after failed laid' =>
      cases otherWent with
      | takenBack _ otherAfter _ otherLaid' =>
          exact ⟨otherAfter, rfl, keptNumber, keptSize, size, n, regions, _, _, laid', otherLaid',
            .same rfl⟩
      | accepted _ otherAfter succeeded => exact absurd succeeded failed
  | accepted start after succeeded laid' =>
      cases otherWent with
      | takenBack _ otherAfter failed => exact absurd succeeded failed
      | accepted _ otherAfter _ otherLaid' =>
          exact ⟨otherAfter, rfl, keptNumber, keptSize, size, n, _, _, _, laid', otherLaid',
            .same rfl⟩

end

/-! ### Later sends and completions -/

/-- Two connections whose later sends and completions go alike: both have stopped, or they differ
    only in `write_buffers`, where the static buffers have the same room. -/
inductive Matched (reqSize : Nat) (state : WriteState) : WriteState → Prop where
  | stopped (other : WriteState) (left : state.fault ≠ none)
      (right : other.fault ≠ none) : Matched reqSize state other
  | running (writer : StreamWriter) (sound : Sound reqSize state)
      (otherSound : Sound reqSize { state with writer := writer })
      (room : SameRoom (leastFrame reqSize) state.writer.buffers.manager writer.buffers.manager) :
      Matched reqSize state { state with writer := writer }

section

variable {conf : StreamConf} {reqSize : Nat} {state other after : WriteState} {event : WriteEvent}
  {writer : StreamWriter} {done done' flying flying' : List (List UInt8)}
  {deque deque' : List Chunk}

theorem Matched.symm (matched : Matched reqSize state other) : Matched reqSize other state := by
  cases matched with
  | stopped other left right => exact .stopped _ right left
  | running writer sound otherSound room => exact .running state.writer otherSound sound room.symm

/-- The load of chunks that hold frames. -/
theorem frames_load (frames : List.Forall₂ (ChunkHolds reqSize) flying deque) :
    load deque = (flying.map fun payload => reqSize + 4 + (frameTail payload).length).sum := by
  have sizes : (flying.map fun payload => reqSize + 4 + (frameTail payload).length) =
      deque.map Chunk.remaining := by
    apply forall₂_map_eq frames
    intro payload _ chunk holds
    rw [Chunk.remaining, holds.size, holds.consumed, Nat.sub_zero]
  rw [load, sizes]

/-- Connections that differ only in `write_buffers` have the same sends in flight. -/
theorem InFlight.flying_eq (inFlight : InFlight reqSize state done flying deque)
    (otherInFlight : InFlight reqSize { state with writer := writer } done' flying' deque') :
    flying' = flying := by
  have whole : done' ++ flying' = done ++ flying :=
    otherInFlight.history.symm.trans inFlight.history
  exact (List.append_inj' whole (otherInFlight.lengths.trans inFlight.lengths.symm)).2

/-- The counters are those of the frames in flight. -/
theorem InFlight.counters (inFlight : InFlight reqSize state done flying deque) :
    state.writer.buffers.manager.limit.costNumber = flying.length ∧
      state.writer.buffers.manager.limit.costSize =
        (flying.map fun payload => reqSize + 4 + (frameTail payload).length).sum := by
  have counts := inFlight.carries.simulates.counts
  refine ⟨?_, ?_⟩
  · rw [counts.number, inFlight.frames.length_eq]
  · rw [counts.size, frames_load inFlight.frames]

/-- There is a block for each send that is not completed. -/
theorem InFlight.blocks_length (inFlight : InFlight reqSize state done flying deque) :
    state.writer.blocks.length = state.within.toList.length + state.pending.length := by
  rw [inFlight.carries.blocks_length, ← inFlight.frames.length_eq, inFlight.lengths]

theorem Sound.limit_eq (sound : Sound reqSize state)
    (otherSound : Sound reqSize { state with writer := writer })
    (room : SameRoom (leastFrame reqSize) state.writer.buffers.manager writer.buffers.manager) :
    state.writer.buffers.manager.limit = writer.buffers.manager.limit := by
  obtain ⟨done, flying, deque, inFlight⟩ := sound
  obtain ⟨done', flying', deque', otherInFlight⟩ := otherSound
  obtain ⟨number, size⟩ := inFlight.counters
  obtain ⟨otherNumber, otherSize⟩ := otherInFlight.counters
  rw [inFlight.flying_eq otherInFlight] at otherNumber otherSize
  exact Limit.eq_of (number.trans otherNumber.symm) (size.trans otherSize.symm) room.limitNumber
    room.limitSize

/-- A step is taken by a connection without a fault. -/
theorem writeStep_alive (taken : writeStep conf reqSize state event after) :
    state.fault = none := by
  cases taken with
  | send alive => exact alive
  | written alive => exact alive
  | finished alive => exact alive
  | touched alive => exact alive
  | otherStarted alive => exact alive
  | otherEnded alive => exact alive

theorem sent_writer (state : WriteState) (buf : List UInt8) (sent : Pushed StreamWriter) :
    (state.sent buf sent).writer = sent.2.2 := by
  unfold WriteState.sent
  split
  · rfl
  · rfl

/-- A send to a connection changes what is not `write_buffers` by what it returns. -/
theorem sent_rest (state : WriteState) (writer : StreamWriter) (buf : List UInt8)
    (sent : Pushed StreamWriter) (otherAfter : StreamWriter) :
    ({ state with writer := writer } : WriteState).sent buf (sent.1, sent.2.1, otherAfter) =
      { state.sent buf sent with writer := otherAfter } := by
  unfold WriteState.sent
  by_cases succeeded : sent.1 = .success
  · rw [if_pos succeeded, if_pos succeeded]
  · rw [if_neg succeeded, if_neg succeeded]

/-- A send to two connections with the same room. -/
theorem sends_matched {heap : Heap} {address : Nat} {uvWrite : Int} {buf : List UInt8}
    {sent : Pushed StreamWriter} (sound : Sound reqSize state)
    (otherSound : Sound reqSize { state with writer := writer })
    (room : SameRoom (leastFrame reqSize) state.writer.buffers.manager writer.buffers.manager)
    (request : reqSize < 2 ^ 62) (alive : state.fault = none) (object : buf.length < 2 ^ 63)
    (mallocs : state.writer.buffers.manager.Mallocs heap (totalBufferSize reqSize buf.length))
    (returned : ioStreamSendMapped conf heap address reqSize uvWrite state.writer buf = .ok sent) :
    ∃ otherAfter, writeStep conf reqSize { state with
    writer := writer } (.send buf sent.1) otherAfter ∧
      Matched reqSize (state.sent buf sent) otherAfter := by
  have limit := sound.limit_eq otherSound room
  obtain ⟨done, flying, deque, inFlight⟩ := sound
  obtain ⟨done', flying', deque', otherInFlight⟩ := otherSound
  obtain ⟨otherAfter, otherReturned, room'⟩ :=
    send_sameRoom inFlight.carries otherInFlight.carries room limit request object returned
  obtain ⟨otherBuffer, otherMode⟩ := room.symm.static
  have otherMallocs : writer.buffers.manager.Mallocs heap (totalBufferSize reqSize buf.length) :=
    mallocs_static otherMode
  obtain ⟨flying₁, deque₁, after⟩ := inFlight.send request object mallocs returned
  obtain ⟨flying₂, deque₂, otherAfterInFlight⟩ :=
    otherInFlight.send request object otherMallocs otherReturned
  refine ⟨_, @writeStep.send conf reqSize { state with writer := writer } buf heap address uvWrite
    (sent.1, sent.2.1, otherAfter) alive object otherMallocs otherReturned, ?_⟩
  rw [sent_rest state writer] at otherAfterInFlight ⊢
  refine .running otherAfter ⟨_, _, _, after⟩ ⟨_, _, _, otherAfterInFlight⟩ ?_
  rw [sent_writer]
  exact room'

/-- A completion of two connections with the same room, up to its callback. -/
theorem written_matched {req : Nat} {rest : List Nat} (sound : Sound reqSize state)
    (otherSound : Sound reqSize { state with writer := writer })
    (room : SameRoom (leastFrame reqSize) state.writer.buffers.manager writer.buffers.manager)
    (request : reqSize < 2 ^ 62) (idle : state.within = none) (oldest : state.pending = req :: rest)
    (status : Int) :
    Matched reqSize (state.written reqSize req rest status)
      (({ state with writer := writer } : WriteState).written reqSize req rest status) := by
  obtain ⟨done, flying, deque, inFlight⟩ := sound
  obtain ⟨done', flying', deque', otherInFlight⟩ := otherSound
  by_cases counted : (state.pending.length + state.otherReqs) % 2 ^ 32 = 0
  · -- the count has come round, and both stop at the same assertion
    have zero := (active_zero_iff inFlight.active).mpr counted
    have otherZero := (active_zero_iff otherInFlight.active).mpr counted
    have fault : (some Fault.assertion : Option Fault) ≠ none := Option.some_ne_none _
    refine .stopped _ ?_ ?_
    · rw [written_faults zero]
      exact fault
    · rw [written_faults otherZero]
      exact fault
  · have after := inFlight.written request idle oldest counted status
    have otherAfter := otherInFlight.written request idle oldest counted status
    obtain ⟨payload, others, head, written⟩ :=
      inFlight.written_eq request idle oldest counted status
    obtain ⟨payload', others', head', otherWritten⟩ :=
      otherInFlight.written_eq request idle oldest counted status
    rw [inFlight.flying_eq otherInFlight, head] at head'
    cases head'
    rw [written] at after ⊢
    rw [otherWritten] at otherAfter ⊢
    exact .running writer ⟨_, _, _, after⟩ ⟨_, _, _, otherAfter⟩ room

/-- The rest of a completion of two connections with the same room. -/
theorem finished_matched {completion : Completion} (sound : Sound reqSize state)
    (otherSound : Sound reqSize { state with writer := writer })
    (room : SameRoom (leastFrame reqSize) state.writer.buffers.manager writer.buffers.manager)
    (called : state.within = some completion) :
    Matched reqSize (state.finished reqSize completion)
      (({ state with writer := writer } : WriteState).finished reqSize completion) := by
  obtain ⟨done, flying, deque, inFlight⟩ := sound
  obtain ⟨done', flying', deque', otherInFlight⟩ := otherSound
  obtain ⟨done₁, flying₁, deque₁, after⟩ := inFlight.finished called
  obtain ⟨done₂, flying₂, deque₂, otherAfter⟩ := otherInFlight.finished called
  have same := (inFlight.completing completion called).1
  rw [WriteState.finished, if_pos same] at after otherAfter ⊢
  rw [WriteState.finished, if_pos same]
  refine .running (writer.popFront completion.nwrite) ⟨_, _, _, after⟩ ⟨_, _, _, otherAfter⟩ ?_
  have number := inFlight.blocks_length
  have otherNumber := otherInFlight.blocks_length
  have left := after.blocks_length
  have otherLeft := otherAfter.blocks_length
  rw [called] at number otherNumber
  have fewer : (none : Option Completion).toList.length + state.pending.length <
      (some completion).toList.length + state.pending.length := Nat.add_lt_add_right Nat.one_pos _
  have shorter := left.trans_lt (fewer.trans_eq number.symm)
  have otherShorter := otherLeft.trans_lt (fewer.trans_eq otherNumber.symm)
  have popped : SameRoom (leastFrame reqSize)
      (state.writer.buffers.manager.popSide completion.nwrite true .front).2
      (writer.buffers.manager.popSide completion.nwrite true .front).2 :=
    room.popSide shorter otherShorter
  exact popped

/-- A write to a request of two connections with the same room. -/
theorem touched_matched {i offset : Nat} {bytes : List UInt8} {block : BufferBlock}
    (sound : Sound reqSize state) (otherSound : Sound reqSize { state with writer := writer })
    (room : SameRoom (leastFrame reqSize) state.writer.buffers.manager writer.buffers.manager)
    (live : state.writer.buffers.manager.block? i = some block)
    (inside : offset + bytes.length ≤ reqSize) :
    ∃ other, writer.buffers.manager.block? i = some other ∧
      Matched reqSize (state.touched i offset bytes)
        (({ state with writer := writer } : WriteState).touched i offset bytes) := by
  obtain ⟨done, flying, deque, inFlight⟩ := sound
  obtain ⟨done', flying', deque', otherInFlight⟩ := otherSound
  have number : state.writer.buffers.manager.liveBlocks.length =
      writer.buffers.manager.liveBlocks.length :=
    inFlight.blocks_length.trans otherInFlight.blocks_length.symm
  have below : i < writer.buffers.manager.liveBlocks.length := by
    rw [block?_eq] at live
    rw [← number]
    exact (List.getElem?_eq_some_iff.mp live).1
  have otherLive : writer.buffers.manager.block? i = some _ :=
    (block?_eq _ i).trans (List.getElem?_eq_getElem below)
  obtain ⟨deque₁, after⟩ := inFlight.touched live inside
  obtain ⟨deque₂, otherAfter⟩ := otherInFlight.touched otherLive inside
  obtain ⟨buffer, mode⟩ := room.static
  obtain ⟨otherBuffer, otherMode⟩ := room.symm.static
  refine ⟨_, otherLive, .running { writer with
    buffers := writer.buffers.write i offset bytes } ⟨_, _, _, after⟩
    ⟨_, _, _, otherAfter⟩ ?_⟩
  simp only [WriteState.touched, MappedManager.write, mode, otherMode]
  exact room

/-- A step of one of two matched connections is one of the other. -/
theorem Matched.forth (matched : Matched reqSize state other) (request : reqSize < 2 ^ 62)
    (taken : writeStep conf reqSize state event after) :
    ∃ otherAfter, writeStep conf reqSize other event otherAfter ∧
      Matched reqSize after otherAfter := by
  cases matched with
  | stopped other left => exact absurd (writeStep_alive taken) left
  | running writer sound otherSound room =>
      have step := taken
      cases taken with
      | send alive object mallocs returned =>
          exact sends_matched sound otherSound room request alive object mallocs returned
      | written alive idle oldest =>
          exact ⟨_, .written alive idle oldest,
            written_matched sound otherSound room request idle oldest _⟩
      | finished alive called =>
          exact ⟨_, .finished alive called, finished_matched sound otherSound room called⟩
      | touched alive live inside =>
          obtain ⟨block, otherLive, matched⟩ := touched_matched sound otherSound room live inside
          exact ⟨_, .touched alive otherLive inside, matched⟩
      | otherStarted alive =>
          have other : writeStep conf reqSize { state with writer := writer } .otherStarted _ :=
            .otherStarted alive
          have after := sound.step request step trivial
          exact ⟨_, other, .running writer after (otherSound.step request other trivial) room⟩
      | otherEnded alive some =>
          have other : writeStep conf reqSize { state with writer := writer } .otherEnded _ :=
            .otherEnded alive some
          have after := sound.step request step trivial
          exact ⟨_, other, .running writer after (otherSound.step request other trivial) room⟩

/-- Matched connections stay so. -/
theorem matched_bisimulation (request : reqSize < 2 ^ 62) :
    Bisimulation (writeStep conf reqSize) (Matched reqSize) :=
  .of_symmetric (fun _ _ matched => matched.symm) fun _ _ _ _ matched taken =>
    matched.forth request taken

end

/-! ### A failed send -/

/-- The pointers to the data of the live blocks. -/
def StreamWriter.pointers (writer : StreamWriter) : List Nat :=
  List.zipWith writer.place writer.addresses (writer.blocks.map BufferBlock.data)

/-- The send queue is as it was: the same blocks with the same bytes in the same places, the same
    counters and limits, nothing else changed, and the same sends and completions later, with the
    same results. -/
structure QueueRestored (conf : StreamConf) (reqSize : Nat) (state after : WriteState) : Prop where
  blocks : List.Forall₂ (SameBlock state.writer.buffers after.writer.buffers) state.writer.blocks
    after.writer.blocks
  pointers : after.writer.pointers = state.writer.pointers
  limit : after.writer.buffers.manager.limit = state.writer.buffers.manager.limit
  rest : after = { state with writer := after.writer }
  later : ∀ labels, HasTrace (writeStep conf reqSize) state labels ↔
    HasTrace (writeStep conf reqSize) after labels

section

variable {conf : StreamConf} {reqSize s address : Nat} {heap : Heap} {uvWrite : Int}
  {state : WriteState} {writer pushed written after : StreamWriter} {deque : List Chunk}
  {chunk : Chunk} {pointers : List Nat} {pointer : Nat} {payload : List UInt8} {res : ErrorType}
  {req : Option Nat} {sent : Pushed StreamWriter}

/-- A writer carries the chunks of its blocks. -/
theorem Carries.chunks (carries : Carries writer deque pointers) :
    Carries writer writer.buffers.chunks pointers := by
  refine ⟨carries.simulates.chunks, ?_, carries.pointers⟩
  rw [MappedManager.chunks, List.length_map]
  exact carries.addresses.trans carries.blocks_length.symm

/-- A send that fails leaves the blocks, their bytes, the pointers and the counters. -/
theorem Carries.failed (carries : Carries writer deque pointers) (request : reqSize < 2 ^ 62)
    (object : payload.length < 2 ^ 63)
    (mallocs : writer.buffers.manager.Mallocs heap (totalBufferSize reqSize payload.length))
    (returned :
      ioStreamSendMapped conf heap address reqSize uvWrite writer payload = .ok (res, req, after))
    (failed : res ≠ .success) :
    List.Forall₂ (SameBlock writer.buffers after.buffers) writer.blocks after.blocks ∧
      after.pointers = writer.pointers ∧
      after.buffers.manager.limit = writer.buffers.manager.limit := by
  rcases carries.chunks.send request object mallocs returned with ⟨-, kept⟩ | ⟨succeeded, -⟩
  · have counts := carries.chunks.simulates.counts
    have counts' := kept.simulates.counts
    obtain ⟨number, size⟩ := carries.send_limits request object mallocs returned
    refine ⟨kept.simulates.sameBlocks, kept.pointers.trans carries.pointers.symm, ?_⟩
    apply Limit.eq_of
    · exact counts'.number.trans counts.number.symm
    · exact counts'.size.trans counts.size.symm
    · exact number
    · exact size
  · exact absurd succeeded failed

/-- A push in dynamic mode that does not fail otherwise has put a block of its own to the back. -/
theorem pushBack_malloced (mode : writer.buffers.manager.staticBuffer = none) (sized : Sized s)
    (pushing : writer.pushBack heap address s = .ok (res, req, pushed))
    (code : res = .writeFailed ∨ res = .success) :
    res = .success ∧ pushed.buffers.manager.staticBuffer = none ∧
      pushed.buffers.bytes = writer.buffers.bytes ∧
      pushed.addresses = writer.addresses ++ [address] ∧
      ∃ block, pushed.buffers.manager.dynamicBuffer = writer.buffers.manager.dynamicBuffer ++
        [block] := by
  obtain ⟨⟨res', data, buffers⟩, called, returned⟩ := ok_of_bind pushing
  cases returned
  obtain ⟨⟨res', data', manager⟩, made, called⟩ := ok_of_bind called
  cases called
  replace made : writer.buffers.manager.pushBackChecked heap s = .ok _ := made
  cases pushWith_ok made with
  | limited refused =>
      rw [refused] at code
      rcases code with code | code
      · cases code
      · cases code
  | static buffer pushedBuffer mode' =>
      rw [mode] at mode'
      cases mode'
  | dynamic blocks mode' made' =>
      rw [dynamicPush_eq sized] at made'
      cases memory : heap (fullSize s) with
      | none =>
          rw [memory] at made'
          cases made'
          rcases code with code | code
          · cases code
          · cases code
      | some contents =>
          rw [memory] at made'
          cases made'
          refine ⟨rfl, mode, ?_, rfl, _, rfl⟩
          simp only [MappedManager.callBytes, MappedManager.pushBytes, mode]

/-- What the blocks, the limits, the bytes and the addresses are is all there is of a writer in
    dynamic mode. -/
theorem StreamWriter.eq_of (mode : writer.buffers.manager.staticBuffer = none)
    (mode' : after.buffers.manager.staticBuffer = none)
    (blocks : after.buffers.manager.dynamicBuffer = writer.buffers.manager.dynamicBuffer)
    (limit : after.buffers.manager.limit = writer.buffers.manager.limit)
    (bytes : after.buffers.bytes = writer.buffers.bytes)
    (addresses : after.addresses = writer.addresses) : after = writer := by
  obtain ⟨⟨⟨static, dynamicBuffer, limit⟩, bytes⟩, addresses⟩ := writer
  obtain ⟨⟨⟨static', dynamicBuffer', limit'⟩, bytes'⟩, addresses'⟩ := after
  cases mode
  cases mode'
  cases blocks
  cases limit
  cases bytes
  cases addresses
  rfl

/-- In dynamic mode a failed `uv_write` leaves nothing behind. -/
theorem Carries.writeFailed_dynamic (carries : Carries writer deque pointers)
    (mode : writer.buffers.manager.staticBuffer = none) (request : reqSize < 2 ^ 62)
    (object : payload.length < 2 ^ 63)
    (mallocs : writer.buffers.manager.Mallocs heap (totalBufferSize reqSize payload.length))
    (returned :
      ioStreamSendMapped conf heap address reqSize uvWrite writer payload = .ok (.writeFailed, req,
        after)) : after = writer := by
  have limit := (carries.failed request object mallocs returned (by decide)).2.2
  by_cases long : 0 < conf.sendBufferLimitSize ∧ conf.sendBufferLimitSize < payload.length
  · rw [ioStreamSendMapped, if_pos long] at returned
    cases returned
  obtain ⟨pushed, pushing, done⟩ := carries.sendDone request object mallocs long returned
  have sized := (totalBufferSize_eq request object).2
  cases done with
  | refused failed => cases (pushBack_malloced mode sized pushing (.inl rfl)).1
  | @takenBack pointer pushed written chunk only frame added =>
      obtain ⟨-, mode', bytes, addresses, block, blocks⟩ :=
        pushBack_malloced mode sized pushing (.inr rfl)
      have size : totalBufferSize reqSize payload.length = chunk.size :=
        (totalBufferSize_eq request object).1.trans frame.size.symm
      rw [size] at limit ⊢
      have writtenMode := only.mode.trans mode'
      obtain ⟨newest, live, same⟩ :=
        @Simulates.liveBlocks_pop _ .back _ _ _ added.simulates frame.exhausted
      have poppedMode : (written.buffers.manager.popSide chunk.size true .back).2.staticBuffer =
          none := by
        rw [writtenMode, Option.isSome_none, Option.isSome_eq_false_iff, Option.isNone_iff_eq_none]
          at same
        exact same
      have popped := added.popBack frame.exhausted
      apply StreamWriter.eq_of mode poppedMode
      · rw [liveBlocks_dynamic writtenMode, liveBlocks_dynamic poppedMode] at live
        have older := only.others
        rw [live, blocks, List.dropLast_concat, Side.put, List.dropLast_concat] at older
        exact older
      · exact limit
      · have kept : (written.popBack chunk.size).buffers.bytes = written.buffers.bytes := by
          simp only [StreamWriter.popBack, MappedManager.callBytes, MappedManager.popBytes,
            writtenMode]
        exact kept.trans ((only.bytes mode').trans bytes)
      · have kept : (written.popBack chunk.size).addresses =
            written.addresses.take (written.popBack chunk.size).blocks.length := rfl
        rw [kept, popped.blocks_length, only.addresses, addresses]
        exact List.take_left' carries.addresses

/-- In static mode a failed `uv_write` leaves the same room, unless the end of the buffer is
    lost. -/
theorem Carries.writeFailed_static {buffer : StaticBuffer} (carries : Carries writer deque pointers)
    (mode : writer.buffers.manager.staticBuffer = some buffer) (request : reqSize < 2 ^ 62)
    (object : payload.length < 2 ^ 63)
    (returned :
      ioStreamSendMapped conf heap address reqSize uvWrite writer payload = .ok (.writeFailed, req,
        after))
    (keeps :
      ¬LosesEnd (leastFrame reqSize) (totalBufferSize reqSize payload.length)
        writer.buffers.manager) :
    SameRoom (leastFrame reqSize) writer.buffers.manager after.buffers.manager := by
  obtain ⟨number, sizes⟩ := carries.send_limits request object (mallocs_static mode) returned
  by_cases long : 0 < conf.sendBufferLimitSize ∧ conf.sendBufferLimitSize < payload.length
  · rw [ioStreamSendMapped, if_pos long] at returned
    cases returned
  obtain ⟨⟨res, req, pushed⟩, pushing, done⟩ :=
    carries.sendDone request object (mallocs_static mode) long returned
  obtain ⟨pointer, made⟩ := pushBack_ok pushing
  have unlimited : res ≠ .buffLimit := by
    cases done with
    | refused => decide
    | takenBack => decide
  obtain ⟨n, regions, free, laid⟩ := carries.simulates.laidOut mode made unlimited
  have went := carries.sentTo laid request object long returned
  cases place : backSpace writer.buffers.manager.limit buffer.size n regions free
      (totalBufferSize reqSize payload.length) with
  | none =>
      rw [place] at went
      cases went
  | some start =>
      rw [place] at went
      cases went with
      | takenBack _ _ failed laid' =>
          exact ⟨number.symm, sizes.symm, _, n, regions, _, _, laid, laid',
            laid.takenBack_space place keeps⟩

/-- As long as a connection has no fault, its sends are completed or in flight. -/
theorem sound_of_alive {made : List (Transition WriteState WriteEvent)} {bytes : Memory}
    {others : Nat} (request : reqSize < 2 ^ 62) (word : conf.sendBufferMaxSize < 2 ^ 64)
    (run : Run (writeStep conf reqSize) (.start conf heap bytes others) made state)
    (alive : state.fault = none) : Sound reqSize state := by
  induction run with
  | refl => exact sound_start word
  | @tail made state after event run last ih =>
      have sound := ih (writeStep_alive last)
      refine sound.step request last ?_
      cases last with
      | written _ idle oldest =>
          intro zero
          obtain ⟨done, flying, deque, inFlight⟩ := sound
          have fault := written_faults ((active_zero_iff inFlight.active).mpr zero) reqSize
          exact Option.some_ne_none _ ((fault _ _ _).symm.trans alive)
      | _ => trivial

/-- What is known of a send that was made. -/
theorem send_made {buf : List UInt8} {final : WriteState}
    (taken : writeStep conf reqSize state (.send buf res) final) :
    ∃ heap address uvWrite req after, buf.length < 2 ^ 63 ∧
      state.writer.buffers.manager.Mallocs heap (totalBufferSize reqSize buf.length) ∧
      ioStreamSendMapped conf heap address reqSize uvWrite state.writer buf =
        .ok (res, req, after) ∧
      final = state.sent buf (res, req, after) := by
  generalize label : WriteEvent.send buf res = event at taken
  cases taken with
  | @send _ heap address uvWrite sent alive object mallocs returned =>
      obtain ⟨res', req', after⟩ := sent
      cases label
      exact ⟨heap, address, uvWrite, req', after, object, mallocs, returned, rfl⟩
  | _ => cases label

/-- In every run, a send whose `uv_write` fails leaves the send queue as it was, unless the block of
    its frame was put to the start of a static buffer while there was room for another one at the
    end. -/
theorem failed_send_restores {made : List (Transition WriteState WriteEvent)} {bytes : Memory}
    {others : Nat} {buf : List UInt8} {final : WriteState} (request : reqSize < 2 ^ 62)
    (word : conf.sendBufferMaxSize < 2 ^ 64)
    (run : Run (writeStep conf reqSize) (.start conf heap bytes others) made state)
    (failed : writeStep conf reqSize state (.send buf .writeFailed) final)
    (keeps :
      ¬LosesEnd (leastFrame reqSize) (totalBufferSize reqSize buf.length)
        state.writer.buffers.manager) : QueueRestored conf reqSize state final := by
  have sound := sound_of_alive request word run (writeStep_alive failed)
  have sound' := sound.step request failed trivial
  obtain ⟨heap', address, uvWrite, req, after, object, mallocs, returned, rfl⟩ := send_made failed
  have refused : ErrorType.writeFailed ≠ .success := by decide
  rw [WriteState.sent, if_neg refused] at sound' ⊢
  obtain ⟨done, flying, deque, inFlight⟩ := sound
  have carries := inFlight.carries
  obtain ⟨blocks, pointers, limit⟩ := carries.failed request object mallocs returned refused
  refine ⟨blocks, pointers, limit, rfl, fun labels => ?_⟩
  cases mode : state.writer.buffers.manager.staticBuffer with
  | none => rw [carries.writeFailed_dynamic mode request object mallocs returned]
  | some buffer =>
      have room := carries.writeFailed_static mode request object returned keeps
      have matched := Matched.running after ⟨done, flying, deque, inFlight⟩ sound' room
      exact (matched_bisimulation request).hasTrace_iff matched

end

/-! ### The end of a buffer lost -/

/-- A static `write_buffers` of 688 bytes for three blocks. -/
def threeBlocks : StreamConf :=
  { ioStreamInitConfigure with sendBufferMaxSize := 688, sendBufferStatic := 3 }

/-- A connection after a send. -/
def WriteState.sends (state : WriteState) (buf : List UInt8) (uvWrite : Int) : WriteState :=
  match ioStreamSendMapped threeBlocks zeroHeap 0 192 uvWrite state.writer buf with
  | .ok sent => state.sent buf sent
  | .error fault => { state with fault := some fault }

theorem sends_step (state : WriteState) (buf : List UInt8) (uvWrite : Int) (res : ErrorType)
    (alive : state.fault = none) (object : buf.length < 2 ^ 63)
    (mode : state.writer.buffers.manager.staticBuffer.isSome = true)
    (returned :
      (ioStreamSendMapped threeBlocks zeroHeap 0 192 uvWrite state.writer buf).toOption.map
        Prod.fst =
      some res) : writeStep threeBlocks 192 state (.send buf res) (state.sends buf uvWrite) := by
  obtain ⟨buffer, mode⟩ := Option.isSome_iff_exists.mp mode
  cases made : ioStreamSendMapped threeBlocks zeroHeap 0 192 uvWrite state.writer buf with
  | error fault =>
      rw [made] at returned
      cases returned
  | ok sent =>
      rw [made] at returned
      cases returned
      rw [WriteState.sends, made]
      exact .send alive object (mallocs_static mode) made

/-- The connection before any send. -/
def opened : WriteState := .start threeBlocks zeroHeap (fun _ => 0) 0

/-- Two sends. -/
def sentTwo : WriteState := (opened.sends (List.replicate 12 0) 0).sends [] 0

/-- The callback of the first one. -/
def calledBack : WriteState := sentTwo.written 192 24 [264] 0

/-- The first one completed: a block is left from 240 to 464, and the 224 bytes behind it are enough
    for another one like it. -/
def firstCompleted : WriteState :=
  calledBack.finished 192 { req := 24, status := 0, data := 24, nwrite := 209 }

theorem run_firstCompleted :
    ∃ made, Run (writeStep threeBlocks 192) opened made firstCompleted := by
  have first := sends_step opened (List.replicate 12 0) 0 .success rfl (by decide) rfl rfl
  have second :=
    sends_step (opened.sends (List.replicate 12 0) 0) [] 0 .success rfl (by decide) rfl rfl
  have called : writeStep threeBlocks 192 sentTwo (.written 0) calledBack := .written rfl rfl rfl
  have completed : writeStep threeBlocks 192 calledBack .finished firstCompleted :=
    .finished rfl rfl
  exact ⟨_, (((Run.refl.tail first).tail second).tail called).tail completed⟩

/-- A failed send whose block goes to the end. -/
theorem failed_send_restores_end : ∃ made state final,
    Run (writeStep threeBlocks 192) (.start threeBlocks zeroHeap (fun _ => 0) 0) made state ∧
      writeStep threeBlocks 192 state (.send [] .writeFailed) final ∧
      QueueRestored threeBlocks 192 state final := by
  obtain ⟨made, run⟩ := run_firstCompleted
  have failed := sends_step firstCompleted [] 1 .writeFailed rfl (by decide) rfl rfl
  refine ⟨made, _, _, run, failed, failed_send_restores (by decide) (by decide) run failed ?_⟩
  rintro ⟨buffer, mode, -, -, short⟩
  have room : (firstCompleted.writer.buffers.manager.staticBuffer.map fun buffer =>
    buffer.size - (buffer.entry buffer.tail).getD 0) = some 224 := rfl
  rw [mode, Option.map_some, Option.some_inj] at room
  rw [room] at short
  exact absurd short (by decide)

/-- A failed send whose block went to the start. -/
def lost : WriteState := firstCompleted.sends [0, 0, 0, 0] 1

/-- The free space begins at the start of the buffer, and the block that is left goes from 240 to
    464. -/
theorem lost_laidOut : LaidOut lost.writer.buffers.manager 688 4 [⟨240, 224⟩] 0 := by
  have static : lost.writer.buffers.manager.staticBuffer.isSome = true := rfl
  obtain ⟨buffer, mode⟩ := Option.isSome_iff_exists.mp static
  have circle : (lost.writer.buffers.manager.staticBuffer.map fun buffer =>
    (buffer.size, buffer.head, buffer.tail, buffer.circleIndex)) =
      some (688, 1, 2, [none, some 240, some 0, none]) := rfl
  have header : (lost.writer.buffers.manager.staticBuffer.map fun buffer =>
    ((buffer.blocks 240).rawSize, (buffer.blocks 240).used, (buffer.blocks 240).pointer)) =
      some (197, 0, 264) := rfl
  rw [mode, Option.map_some, Option.some_inj] at circle header
  simp only [Prod.mk.injEq] at circle header
  obtain ⟨size, head, tail, index⟩ := circle
  obtain ⟨rawSize, used, pointer⟩ := header
  have entries : buffer.circleIndex.length = 4 := by rw [index]; rfl
  have window : Window buffer.circleIndex.length buffer.entry buffer.head
      (addresses [⟨240, 224⟩] 0) := by
    unfold StaticBuffer.entry
    rw [index, head]
    exact ⟨by decide, by decide⟩
  have occupies : ∀ region ∈ [(⟨240, 224⟩ : Region)],
      Occupies (buffer.blocks region.start) region := by
    intro region member
    rw [List.mem_singleton.mp member]
    apply Occupies.mk
    · rw [rawSize]
      decide
    · rw [rawSize]
      decide
    · decide
    · exact pointer
    · rw [rawSize, used]
      decide
  have circular : Circular buffer.size 0 [⟨240, 224⟩] := by
    rw [size]
    apply @Circular.wrapped 688 0 ⟨240, 224⟩ [] []
    · have below : 240 + 224 ≤ 688 := by decide
      exact ⟨by decide, below⟩
    · exact Nat.le_refl 0
  refine .arranged buffer mode ⟨?_, ?_, ?_, window, occupies, circular, ?_, rfl, ?_⟩ size entries
  · rw [entries]
    decide
  · rw [entries, head]
    decide
  · rw [entries, head, tail]
    decide
  · rw [size]
  · intro none
    cases none

/-- A send of four bytes fails, whose block went to the start of the buffer. Before it two sends of
    empty payloads would have succeeded; after it only one does. -/
theorem failed_send_loses_end : ∃ made state final,
    Run (writeStep threeBlocks 192) (.start threeBlocks zeroHeap (fun _ => 0) 0) made state ∧
      writeStep threeBlocks 192 state (.send [0, 0, 0, 0] .writeFailed) final ∧
      HasTrace (writeStep threeBlocks 192) state [.send [] .success, .send [] .success] ∧
      ¬HasTrace (writeStep threeBlocks 192) final [.send [] .success, .send [] .success] ∧
      ¬QueueRestored threeBlocks 192 state final := by
  obtain ⟨made, run⟩ := run_firstCompleted
  have failed := sends_step firstCompleted [0, 0, 0, 0] 1 .writeFailed rfl (by decide) rfl rfl
  have request : 192 < 2 ^ 62 := by decide
  have before : HasTrace (writeStep threeBlocks 192) firstCompleted [.send [] .success,
      .send [] .success] := by
    have first := sends_step firstCompleted [] 0 .success rfl (by decide) rfl rfl
    have second := sends_step (firstCompleted.sends [] 0) [] 0 .success rfl (by decide) rfl rfl
    exact hasTrace_cons_iff.mpr ⟨_, first, hasTrace_cons_iff.mpr ⟨_, second, hasTrace_nil⟩⟩
  have after : ¬HasTrace (writeStep threeBlocks 192) lost [.send [] .success,
      .send [] .success] := by
    intro trace
    obtain ⟨state, first, trace⟩ := hasTrace_cons_iff.mp trace
    obtain ⟨state', second, -⟩ := hasTrace_cons_iff.mp trace
    have sound := sound_of_alive request (by decide) (run.tail failed) (writeStep_alive first)
    have sound' := sound.step request first trivial
    obtain ⟨heap, address, uvWrite, req, writer, object, mallocs, returned, rfl⟩ := send_made first
    obtain ⟨heap', address', uvWrite', req', writer', object', mallocs', returned', rfl⟩ :=
      send_made second
    obtain ⟨done, flying, deque, inFlight⟩ := sound
    obtain ⟨done', flying', deque', inFlight'⟩ := sound'
    -- the first block goes to the start, and the gap behind it is too small for the second
    obtain ⟨start, place, laid⟩ := inFlight.carries.sent_place lost_laidOut request object returned
    have origin : start = 0 := (Option.some.inj place).symm
    subst origin
    have carries := inFlight'.carries
    rw [sent_writer] at carries returned'
    obtain ⟨start', place', -⟩ := carries.sent_place laid request object' returned'
    cases place'
  exact ⟨made, _, _, run, failed, before, after,
    fun restored => after ((restored.later _).mp before)⟩

end LibAtbus.Channel
