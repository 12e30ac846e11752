/-
Module: LibAtbus.Proofs.SendCompletion
Layer: Proofs
Purpose: Every accepted send is completed once and in order. `write_buffers` holds one chunk for
  each send that is not completed, with the frame of its payload in it, whatever else is sent
  meanwhile; the pointers to the chunks are the requests libuv has, so that a completion finds its
  own frame at the front. The 32-bit count of active requests is right as long as it does not come
  round to zero.
Trusted boundary: none
Main exports: Carries, ChunkHolds, InFlight, Accounts, CountsActive, sends_completed_iff
-/
import LibAtbus.Channel.StreamWrite
import LibAtbus.Foundation.Transitions
import LibAtbus.Proofs.LiveBlocks

namespace LibAtbus.Channel

open Detail Word64 ByteMemory ByteDeque Transitions

/-! ### write_buffers as a deque -/

/-- `write_buffers` carries the chunks of a deque, and the pointers to their data are the given
    ones. -/
structure Carries (writer : StreamWriter) (deque : List Chunk) (pointers : List Nat) : Prop where
  simulates : Simulates writer.buffers deque
  addresses : writer.addresses.length = deque.length
  pointers : List.zipWith writer.place writer.addresses (writer.blocks.map BufferBlock.data) =
    pointers

section

variable {writer after : StreamWriter} {deque : List Chunk} {chunk : Chunk} {pointers : List Nat}
  {pointer s : Nat} {heap : Heap} {address offset len : Nat} {res : ErrorType} {req : Option Nat}
  {bytes : List UInt8}

/-- The pointers depend on the mode and on nothing else of the manager. -/
theorem place_congr (same :
    after.buffers.manager.staticBuffer.isSome = writer.buffers.manager.staticBuffer.isSome) :
    after.place = writer.place := by
  funext address data
  rw [StreamWriter.place, StreamWriter.place]
  cases mode : writer.buffers.manager.staticBuffer with
  | none =>
      rw [mode, Option.isSome_none, Option.isSome_eq_false_iff, Option.isNone_iff_eq_none] at same
      simp only [same]
  | some buffer =>
      rw [mode, Option.isSome_some, Option.isSome_iff_exists] at same
      obtain ⟨buffer', mode'⟩ := same
      simp only [mode']

theorem Carries.blocks_length (carries : Carries writer deque pointers) :
    writer.blocks.length = deque.length :=
  carries.simulates.liveBlocks.length_eq

theorem Carries.length (carries : Carries writer deque pointers) :
    pointers.length = deque.length := by
  rw [← carries.pointers, List.length_zipWith, List.length_map, carries.blocks_length,
    carries.addresses, Nat.min_self]

/-- What changes the blocks without changing the mode. -/
theorem holds_of_mode {buffers : MappedManager} {addresses : List Nat}
    (simulates : Simulates buffers deque) (length : addresses.length = deque.length)
    (mode : buffers.manager.staticBuffer.isSome = writer.buffers.manager.staticBuffer.isSome)
    (same :
      List.zipWith writer.place addresses (buffers.manager.liveBlocks.map BufferBlock.data) =
        pointers) : Carries { buffers := buffers, addresses := addresses } deque pointers := by
  refine ⟨simulates, length, ?_⟩
  rw [@place_congr writer _ mode]
  exact same

/-- A push that returns is refused, or adds a chunk to whose data it returns the pointer. -/
theorem Carries.pushBack (carries : Carries writer deque pointers) (sized : Sized s)
    (mallocs : writer.buffers.manager.Mallocs heap s)
    (returned : writer.pushBack heap address s = .ok (res, req, after)) :
    (res.failed = true ∧ Carries after deque pointers) ∨
      (res = .success ∧ ∃ pointer, req = some pointer ∧
        Carries after (deque ++ [.fresh s]) (pointers ++ [pointer])) := by
  obtain ⟨⟨res', data, buffers⟩, called, returned⟩ := ok_of_bind returned
  cases returned
  obtain ⟨⟨res', data', manager⟩, pushed, called⟩ := ok_of_bind called
  cases called
  have simulates := carries.simulates.push .back sized mallocs pushed
  obtain ⟨live, mode⟩ := carries.simulates.liveBlocks_push .back sized pushed
  cases live with
  | refused failed same =>
      rw [if_pos failed] at simulates ⊢
      refine .inl ⟨failed, holds_of_mode simulates carries.addresses mode ?_⟩
      rw [same]
      exact carries.pointers
  | added block succeeded found size unused more =>
      subst succeeded found
      have not : ¬ErrorType.success.failed = true := by decide
      rw [if_neg not] at simulates ⊢
      refine .inr ⟨rfl, _, rfl, holds_of_mode simulates ?_ mode ?_⟩
      · rw [List.length_append, List.length_append, carries.addresses]
        rfl
      · have lengths : writer.addresses.length = (writer.blocks.map BufferBlock.data).length := by
          rw [List.length_map, carries.blocks_length, carries.addresses]
        rw [more, Side.put, List.map_append, ← StreamWriter.blocks, List.zipWith_append lengths,
          carries.pointers]
        rfl

/-- A write leaves the pointers. -/
theorem Carries.write (carries : Carries writer deque pointers) {i : Nat} {block : BufferBlock}
    (live : writer.buffers.manager.block? i = some block)
    (inside : offset + bytes.length ≤ block.rawSize) :
    Carries { writer with buffers := writer.buffers.write i offset bytes }
      (deque.modify i fun chunk => chunk.write offset bytes) pointers := by
  obtain ⟨same, mode⟩ := liveBlocks_write writer.buffers i offset bytes
  refine holds_of_mode (carries.simulates.write live inside) ?_ (congrArg Option.isSome mode) ?_
  · rw [List.length_modify]
    exact carries.addresses
  · rw [same]
    exact carries.pointers

/-- A write through the pointer to the newest block is one to the last chunk. -/
theorem Carries.writeBack (carries : Carries writer (deque ++ [chunk]) pointers)
    (returned : writer.writeBack offset bytes = .ok after) :
    Carries after (deque ++ [chunk.write offset bytes]) pointers := by
  have last : writer.blocks.length - 1 = deque.length := by
    rw [carries.blocks_length, List.length_append]
    rfl
  rw [StreamWriter.writeBack, last] at returned
  split at returned
  · cases returned
  · rename_i block live
    split at returned
    · rename_i inside
      cases returned
      have written := carries.write live inside
      rwa [modify_last] at written
    · cases returned

/-- A write inside the last chunk does not fault. -/
theorem Carries.writeBack_ok (carries : Carries writer (deque ++ [chunk]) pointers)
    (inside : offset + bytes.length ≤ chunk.size) :
    ∃ after, writer.writeBack offset bytes = .ok after := by
  obtain ⟨length, each⟩ := forall₂_iff_getElem?.mp carries.simulates.liveBlocks
  have last : writer.blocks.length - 1 = deque.length := by
    rw [carries.blocks_length, List.length_append]
    rfl
  have newest : deque.length < writer.buffers.manager.liveBlocks.length := by
    rw [length, List.length_append]
    exact Nat.lt_succ_self _
  have live := List.getElem?_eq_getElem newest
  have shows := (each deque.length _ _ live List.getElem?_concat_length).1
  have room : offset + bytes.length ≤
      (writer.buffers.manager.liveBlocks[deque.length]).rawSize := by
    rw [shows.size]
    exact inside
  rw [StreamWriter.writeBack, last, block?_eq, live]
  exact ⟨_, if_pos room⟩

/-- A pop that exhausts the last chunk takes it back. -/
theorem Carries.popBack (carries : Carries writer (deque ++ [chunk]) (pointers ++ [pointer]))
    (exhausts : chunk.exhausted s = true) : Carries (writer.popBack s) deque pointers := by
  have popped : ByteDeque.pop .back s true (deque ++ [chunk]) = deque := by
    have put := @pop_put .back s true chunk deque
    rwa [exhausts, Bool.and_true, if_pos rfl] at put
  have simulates := (carries.simulates.pop .back s true).2
  rw [popped] at simulates
  obtain ⟨block, live, mode⟩ := @Simulates.liveBlocks_pop _ .back _ _ _ carries.simulates exhausts
  have number : (writer.popBack s).blocks.length = deque.length := simulates.liveBlocks.length_eq
  have kept : (writer.popBack s).addresses = writer.addresses.take deque.length :=
    congrArg (writer.addresses.take ·) number
  have pointed : pointers.length = deque.length := by simpa using carries.length
  refine ⟨simulates, ?_, ?_⟩
  · rw [kept, List.length_take, carries.addresses, List.length_append]
    exact Nat.min_eq_left (Nat.le_add_right _ _)
  · have shorter := congrArg (List.take deque.length) carries.pointers
    have blocks : writer.blocks = (writer.popBack s).blocks ++ [block] := live
    rw [List.take_zipWith, blocks, List.map_append,
      List.take_left' ((List.length_map _).trans number), List.take_left' pointed] at shorter
    rw [kept, @place_congr writer _ mode]
    exact shorter

/-- A pop that exhausts the first chunk takes it away. -/
theorem Carries.popFront (carries : Carries writer (chunk :: deque) (pointer :: pointers))
    (exhausts : chunk.exhausted s = true) : Carries (writer.popFront s) deque pointers := by
  have popped : ByteDeque.pop .front s true (chunk :: deque) = deque := by
    have put := @pop_put .front s true chunk deque
    rwa [exhausts, Bool.and_true, if_pos rfl] at put
  have simulates := (carries.simulates.pop .front s true).2
  rw [popped] at simulates
  obtain ⟨block, live, mode⟩ := @Simulates.liveBlocks_pop _ .front _ _ _ carries.simulates exhausts
  have number : (writer.popFront s).blocks.length = deque.length := simulates.liveBlocks.length_eq
  have one : writer.blocks.length - (writer.popFront s).blocks.length = 1 := by
    rw [carries.blocks_length, number, List.length_cons, Nat.add_sub_cancel_left]
  have kept : (writer.popFront s).addresses = writer.addresses.drop 1 :=
    congrArg (writer.addresses.drop ·) one
  refine ⟨simulates, ?_, ?_⟩
  · rw [kept, List.length_drop, carries.addresses]
    rfl
  · have shorter := congrArg (List.drop 1) carries.pointers
    have blocks : writer.blocks = block :: (writer.popFront s).blocks := live
    rw [List.drop_zipWith, blocks] at shorter
    rw [kept, @place_congr writer _ mode]
    exact shorter

/-! ### Frames -/

/-- What is behind the checksum of a frame: the length of the payload and the payload. -/
def frameTail (payload : List UInt8) : List UInt8 := (writeVint payload.length 16).2 ++ payload

/-- A chunk holds the frame of a payload, none of which is consumed. The bytes of the request may be
    anything. -/
structure ChunkHolds (reqSize : Nat) (payload : List UInt8) (chunk : Chunk) : Prop where
  object : payload.length < 2 ^ 63
  size : chunk.size = reqSize + 4 + (frameTail payload).length
  consumed : chunk.consumed = 0
  bytes : ∀ k (below : k < (frameTail payload).length),
    chunk.written (reqSize + 4 + k) = some (frameTail payload)[k]

variable {reqSize : Nat} {payload : List UInt8}

/-- The length field of a payload. -/
theorem vint_of_object (object : payload.length < 2 ^ 63) :
    (writeVint payload.length 16).1 = (writeVint payload.length 16).2.length ∧
      (writeVint payload.length 16).1 ≤ 16 ∧
      readVint (frameTail payload) = ((writeVint payload.length 16).1, payload.length) := by
  have word : payload.length < 2 ^ 64 := by omega
  obtain ⟨length, -, short, read⟩ := readVint_writeVint word payload
  exact ⟨length, short, read⟩

theorem frameTail_length (object : payload.length < 2 ^ 63) :
    (frameTail payload).length = (writeVint payload.length 16).1 + payload.length := by
  rw [frameTail, List.length_append, (vint_of_object object).1]

/-- The size of a block is that of its request and its frame. -/
theorem totalBufferSize_eq (request : reqSize < 2 ^ 62) (object : payload.length < 2 ^ 63) :
    totalBufferSize reqSize payload.length = reqSize + 4 + (frameTail payload).length ∧
      Sized (totalBufferSize reqSize payload.length) := by
  have short := (vint_of_object object).2.1
  have tail := frameTail_length object
  have whole : totalBufferSize reqSize payload.length = reqSize + 4 +
      (frameTail payload).length := by
    rw [totalBufferSize, wrap_of_lt]
    · omega
    · omega
  refine ⟨whole, ?_⟩
  rw [whole, Sized, headSize_eq]
  omega

/-- A pop of the whole block exhausts it. -/
theorem ChunkHolds.exhausted (holds : ChunkHolds reqSize payload chunk) :
    chunk.exhausted chunk.size = true := by
  rw [Chunk.exhausted_iff, Chunk.remaining, holds.consumed, Nat.sub_zero, Nat.min_self]

/-- The three writes of `io_stream_send` make a chunk hold its frame. -/
theorem chunkHolds_written (request : reqSize < 2 ^ 62) (object : payload.length < 2 ^ 63)
    (crc : List UInt8) :
    ChunkHolds reqSize payload
      ((((Chunk.fresh (totalBufferSize reqSize payload.length)).write reqSize crc).write
        (reqSize + 4)
        ((writeVint payload.length 16).2.take (writeVint payload.length 16).1)).write
        (reqSize + 4 + (writeVint payload.length 16).1) payload) := by
  obtain ⟨length, -, -⟩ := vint_of_object object
  refine ⟨object, (totalBufferSize_eq request object).1, rfl, fun k below => ?_⟩
  rw [length, List.take_length]
  simp only [Chunk.write, frameTail] at below ⊢
  rw [List.length_append] at below
  by_cases inVint : k < (writeVint payload.length 16).2.length
  · rw [if_neg (by omega), if_pos (by omega), Nat.add_sub_cancel_left,
      List.getElem?_eq_getElem inVint, List.getElem_append_left inVint]
  · have place : reqSize + 4 + k - (reqSize + 4 + (writeVint payload.length 16).2.length) =
        k - (writeVint payload.length 16).2.length := by omega
    rw [if_pos (by omega), place, List.getElem?_eq_getElem (by omega),
      List.getElem_append_right (by omega)]

/-- Writes through the pointer to the newest block leave everything else of `write_buffers`. -/
structure OnlyNewest (writer after : StreamWriter) : Prop where
  addresses : after.addresses = writer.addresses
  limit : after.buffers.manager.limit = writer.buffers.manager.limit
  mode : after.buffers.manager.staticBuffer = writer.buffers.manager.staticBuffer
  others : after.buffers.manager.dynamicBuffer.dropLast =
    writer.buffers.manager.dynamicBuffer.dropLast
  bytes : writer.buffers.manager.staticBuffer = none → after.buffers.bytes = writer.buffers.bytes

theorem OnlyNewest.trans {last : StreamWriter} (first : OnlyNewest writer after)
    (second : OnlyNewest after last) : OnlyNewest writer last :=
  ⟨second.addresses.trans first.addresses, second.limit.trans first.limit,
    second.mode.trans first.mode, second.others.trans first.others,
    fun dynamic => (second.bytes (first.mode.trans dynamic)).trans (first.bytes dynamic)⟩

theorem writeBack_only (returned : writer.writeBack offset bytes = .ok after) :
    OnlyNewest writer after := by
  unfold StreamWriter.writeBack at returned
  split at returned
  · cases returned
  · split at returned
    · cases returned
      cases mode : writer.buffers.manager.staticBuffer with
      | none =>
          have blocks : writer.blocks = writer.buffers.manager.dynamicBuffer :=
            liveBlocks_dynamic mode
          simp only [MappedManager.write, mode, blocks]
          refine ⟨rfl, rfl, mode.symm, ?_, fun _ => rfl⟩
          rw [List.dropLast_eq_take, List.length_modify, List.take_modify, ← List.dropLast_eq_take]
          exact List.modify_eq_self (Nat.le_of_eq List.length_dropLast)
      | some buffer =>
          simp only [MappedManager.write, mode]
          exact ⟨rfl, rfl, rfl, rfl, fun dynamic => absurd (mode.symm.trans dynamic) (by simp)⟩
    · cases returned

/-- What a send has done whose push has returned: the push failed, or the frame was written to the
    new block, which is taken back if `uv_write` fails. -/
inductive SendDone (reqSize : Nat) (uvWrite : Int) (payload : List UInt8) (deque : List Chunk)
    (pointers : List Nat) :
    Pushed StreamWriter → Pushed StreamWriter → Prop where
  | refused {res : ErrorType} {req : Option Nat} {pushed : StreamWriter}
      (failed : res.failed = true) (kept : Carries pushed deque pointers) :
      SendDone reqSize uvWrite payload deque pointers (res, req, pushed) (res, none, pushed)
  | takenBack {pointer : Nat} {pushed written : StreamWriter} {chunk : Chunk}
      (only : OnlyNewest pushed written) (frame : ChunkHolds reqSize payload chunk)
      (added : Carries written (deque ++ [chunk]) (pointers ++ [pointer])) (failed : uvWrite ≠ 0) :
      SendDone reqSize uvWrite payload deque pointers (.success, some pointer, pushed)
        (.writeFailed, none, written.popBack (totalBufferSize reqSize payload.length))
  | accepted {pointer : Nat} {pushed written : StreamWriter} {chunk : Chunk}
      (only : OnlyNewest pushed written) (frame : ChunkHolds reqSize payload chunk)
      (added : Carries written (deque ++ [chunk]) (pointers ++ [pointer]))
      (succeeded : uvWrite = 0) :
      SendDone reqSize uvWrite payload deque pointers (.success, some pointer, pushed) (.success,
        some pointer, written)

/-- A send that the limit on payloads lets through makes its push and goes on from what that
    returned. -/
theorem Carries.sendDone {conf : StreamConf} {uvWrite : Int} {sent : Pushed StreamWriter}
    (carries : Carries writer deque pointers) (request : reqSize < 2 ^ 62)
    (object : payload.length < 2 ^ 63)
    (mallocs : writer.buffers.manager.Mallocs heap (totalBufferSize reqSize payload.length))
    (short : ¬(0 < conf.sendBufferLimitSize ∧ conf.sendBufferLimitSize < payload.length))
    (returned : ioStreamSendMapped conf heap address reqSize uvWrite writer payload = .ok sent) :
    ∃ pushed, writer.pushBack heap address (totalBufferSize reqSize payload.length) = .ok pushed ∧
      SendDone reqSize uvWrite payload deque pointers pushed sent := by
  rw [ioStreamSendMapped, if_neg short] at returned
  obtain ⟨⟨res', req', pushed⟩, pushing, returned⟩ := ok_of_bind returned
  refine ⟨_, pushing, ?_⟩
  dsimp only at returned
  rcases carries.pushBack (totalBufferSize_eq request object).2 mallocs pushing with
    ⟨failed, kept⟩ | ⟨rfl, pointer, rfl, added⟩
  · rw [if_pos failed] at returned
    cases returned
    exact .refused failed kept
  · rw [if_neg (by decide)] at returned
    obtain ⟨crcWritten, writing, returned⟩ := ok_of_bind returned
    obtain ⟨vintWritten, writing', returned⟩ := ok_of_bind returned
    obtain ⟨written, writing'', returned⟩ := ok_of_bind returned
    have only :=
      ((writeBack_only writing).trans (writeBack_only writing')).trans (writeBack_only writing'')
    replace added := ((added.writeBack writing).writeBack writing').writeBack writing''
    have frame := chunkHolds_written request object (crcField payload)
    by_cases succeeded : uvWrite = 0
    · rw [if_neg (not_not_intro succeeded)] at returned
      cases returned
      exact .accepted only frame added succeeded
    · rw [if_pos succeeded] at returned
      cases returned
      exact .takenBack only frame added succeeded

/-- The block of a frame is taken back whole. -/
theorem Carries.takeBack (added : Carries writer (deque ++ [chunk]) (pointers ++ [pointer]))
    (frame : ChunkHolds reqSize payload chunk) (request : reqSize < 2 ^ 62) :
    Carries (writer.popBack (totalBufferSize reqSize payload.length)) deque pointers := by
  rw [(totalBufferSize_eq request frame.object).1, ← frame.size]
  exact added.popBack frame.exhausted

/-- A send that returns leaves the chunks as they are, or adds one with its frame. -/
theorem Carries.send {conf : StreamConf} {uvWrite : Int} (carries : Carries writer deque pointers)
    (request : reqSize < 2 ^ 62) (object : payload.length < 2 ^ 63)
    (mallocs : writer.buffers.manager.Mallocs heap (totalBufferSize reqSize payload.length))
    (returned :
      ioStreamSendMapped conf heap address reqSize uvWrite writer payload = .ok (res, req, after)) :
    (res ≠ .success ∧ Carries after deque pointers) ∨
      (res = .success ∧ ∃ chunk pointer, req = some pointer ∧ ChunkHolds reqSize payload chunk ∧
        Carries after (deque ++ [chunk]) (pointers ++ [pointer])) := by
  by_cases long : 0 < conf.sendBufferLimitSize ∧ conf.sendBufferLimitSize < payload.length
  · rw [ioStreamSendMapped, if_pos long] at returned
    cases returned
    exact .inl ⟨by decide, carries⟩
  · obtain ⟨pushed, pushing, done⟩ := carries.sendDone request object mallocs long returned
    cases done with
    | refused failed kept => exact .inl ⟨(ErrorType.failed_iff _).mp failed, kept⟩
    | takenBack only frame added failed => exact .inl ⟨by decide, added.takeBack frame request⟩
    | accepted only frame added succeeded => exact .inr ⟨rfl, _, _, rfl, frame, added⟩

/-- A send stays inside the block its push has made: it returns whenever the push does. -/
theorem Carries.send_returns {conf : StreamConf} {uvWrite : Int} {pushed : Pushed StreamWriter}
    (carries : Carries writer deque pointers) (request : reqSize < 2 ^ 62)
    (object : payload.length < 2 ^ 63)
    (mallocs : writer.buffers.manager.Mallocs heap (totalBufferSize reqSize payload.length))
    (pushing : writer.pushBack heap address (totalBufferSize reqSize payload.length) = .ok pushed) :
    ∃ sent, ioStreamSendMapped conf heap address reqSize uvWrite writer payload = .ok sent := by
  obtain ⟨res', req', made⟩ := pushed
  have size := (totalBufferSize_eq request object).1
  have tail := frameTail_length object
  have vint := (vint_of_object object).1
  have crcInside : reqSize + (crcField payload).length ≤
      totalBufferSize reqSize payload.length := by
    rw [crcField, toLE_length]
    omega
  have vintInside :
      reqSize + 4 + ((writeVint payload.length 16).2.take (writeVint payload.length 16).1).length ≤
      totalBufferSize reqSize payload.length := by
    rw [List.length_take]
    omega
  have inside : reqSize + 4 + (writeVint payload.length 16).1 + payload.length ≤
      totalBufferSize reqSize payload.length := by omega
  rw [ioStreamSendMapped]
  split
  · exact ⟨_, rfl⟩
  · dsimp only
    rw [pushing, ok_bind]
    dsimp only
    rcases carries.pushBack (totalBufferSize_eq request object).2 mallocs pushing with
      ⟨failed, -⟩ | ⟨rfl, pointer, -, added⟩
    · exact ⟨_, if_pos failed⟩
    · rw [if_neg (by decide)]
      obtain ⟨crcWritten, writing⟩ := added.writeBack_ok crcInside
      rw [writing, ok_bind]
      obtain ⟨vintWritten, writing'⟩ := (added.writeBack writing).writeBack_ok vintInside
      rw [writing', ok_bind]
      obtain ⟨written, writing''⟩ :=
        ((added.writeBack writing).writeBack writing').writeBack_ok inside
      rw [writing'', ok_bind]
      split
      · exact ⟨_, rfl⟩
      · exact ⟨_, rfl⟩

/-! ### Completions -/

/-- The block at the front, with the pointer to its data. -/
theorem Carries.front (carries : Carries writer (chunk :: deque) (pointer :: pointers)) :
    writer.front = ⟨.success, some pointer, chunk.consumed, chunk.remaining⟩ ∧
      ∃ block, writer.buffers.manager.front = some block ∧
        Shows block (writer.buffers.byteAt block) chunk := by
  obtain ⟨block, found, view, shows⟩ := carries.simulates.implements.front
  refine ⟨?_, block, found, shows⟩
  have first := congrArg List.head? carries.pointers
  rw [carries.simulates.front_eq] at found
  cases live : writer.blocks with
  | nil =>
      rw [StreamWriter.blocks] at live
      rw [live] at found
      cases found
  | cons block' blocks =>
      rw [StreamWriter.blocks] at live
      rw [live] at found
      cases found
      cases at0 : writer.addresses with
      | nil =>
          have length := carries.addresses
          rw [at0] at length
          cases length
      | cons address addresses =>
          rw [StreamWriter.blocks, live, at0] at first
          rw [StreamWriter.front, view, at0]
          exact congrArg
            (fun pointer => (⟨.success, pointer, chunk.consumed, chunk.remaining⟩ : BufferView))
            first

/-- What is read of the block at the front is what was written to its chunk. -/
theorem Carries.readFront (carries : Carries writer (chunk :: deque) (pointer :: pointers))
    (whole : chunk.consumed = 0) (inside : offset + bytes.length ≤ chunk.size)
    (found : ∀ k (below : k < bytes.length), chunk.written (offset + k) = some bytes[k]) :
    writer.readFront offset bytes.length = .ok bytes := by
  obtain ⟨-, block, front, shows⟩ := carries.front
  have used : block.used = 0 := shows.consumed.trans whole
  simp only [StreamWriter.readFront, front, used, Nat.zero_add]
  rw [shows.size, if_pos inside]
  congr 1
  apply readBytes_eq rfl
  intro k below
  exact (shows.bytes _ _ (found k below)).2

/-- The completion of the oldest request passes its assertions and calls back with its payload. -/
theorem Carries.written (carries : Carries writer (chunk :: deque) (pointer :: pointers))
    (request : reqSize < 2 ^ 62) (frame : ChunkHolds reqSize payload chunk) (status : Int) :
    ioStreamOnWrittenFn reqSize writer pointer status =
      .ok (some (writer,
        { req := pointer, status := status, data := pointer, nwrite := chunk.size },
        { errorCode := status, status := .success, data := payload })) := by
  obtain ⟨length, short, read⟩ := vint_of_object frame.object
  have object := frame.object
  have size := frame.size
  have tail := frameTail_length frame.object
  have remaining : chunk.remaining = chunk.size := by
    rw [Chunk.remaining, frame.consumed, Nat.sub_zero]
  have nonempty : chunk.size ≠ 0 := by omega
  have behind : sub (sub chunk.size reqSize) 4 = (frameTail payload).length := by
    simp only [sub]
    omega
  have out : payload.length = sub (sub (sub chunk.size (writeVint payload.length 16).1) 4)
      reqSize := by
    simp only [sub]
    omega
  have readTail := carries.readFront frame.consumed (by omega) frame.bytes
  have readPayload : writer.readFront (reqSize + 4 + (writeVint payload.length 16).1)
      payload.length = .ok payload := by
    apply carries.readFront frame.consumed (by omega)
    intro k below
    have found := frame.bytes ((writeVint payload.length 16).1 + k) (by omega)
    rw [← Nat.add_assoc] at found
    rw [found]
    simp only [frameTail, length]
    rw [List.getElem_append_right (by omega)]
    simp
  rw [ioStreamOnWrittenFn, carries.front.1]
  dsimp only
  rw [frame.consumed, remaining, if_neg nonempty, check_ok rfl, ok_bind, check_ok rfl, ok_bind,
    behind, readTail, ok_bind, read]
  dsimp only
  rw [check_ok out, ok_bind, readPayload, ok_bind, if_pos rfl]
  rfl

end

/-! ### Accounting -/

/-- What is said of a callback: its status and its bytes. -/
def Written.said (made : Written) : ErrorType × List UInt8 := (made.status, made.data)

/-- The sends that were accepted are those that are completed and those whose frames are in the
    chunks, of which the first may have been called back already. -/
structure InFlight (reqSize : Nat) (state : WriteState) (done flying : List (List UInt8))
    (deque : List Chunk) : Prop where
  alive : state.fault = none
  history : state.accepted = done ++ flying
  carries : Carries state.writer deque ((state.within.map Completion.req).toList ++ state.pending)
  frames : List.Forall₂ (ChunkHolds reqSize) flying deque
  callbacks : state.callbacks.map Written.said =
    (done ++ flying.take state.within.toList.length).map fun payload => (.success, payload)
  completing : ∀ completion, state.within = some completion →
    completion.req = completion.data ∧ ∃ chunk rest, deque = chunk :: rest ∧
    completion.nwrite = chunk.size
  active : state.activeReqs = BitVec.ofNat 32 (state.pending.length + state.otherReqs)

/-- The callbacks made so far are those of the first accepted sends, each with success and its
    payload; libuv has the requests of the others; and when it has none and no callback runs,
    nothing is left in `write_buffers` and none of the active requests is a write. -/
structure Accounts (state : WriteState) : Prop where
  sound : state.fault = none
  callbacks : state.callbacks.map Written.said =
    (state.accepted.take state.callbacks.length).map fun payload => (.success, payload)
  number : state.accepted.length = state.callbacks.length + state.pending.length
  drained : state.pending = [] → state.within = none →
    state.writer.buffers.manager.empty = true ∧ state.writer.buffers.manager.limit.costNumber = 0 ∧
      state.writer.buffers.manager.limit.costSize = 0 ∧
      state.activeReqs = BitVec.ofNat 32 state.otherReqs

section

variable {reqSize : Nat} {state : WriteState} {done flying : List (List UInt8)} {deque : List Chunk}

theorem InFlight.lengths (inFlight : InFlight reqSize state done flying deque) :
    flying.length = state.within.toList.length + state.pending.length := by
  have length := inFlight.carries.length
  rw [← inFlight.frames.length_eq, List.length_append] at length
  rw [← length]
  cases state.within with
  | none => rfl
  | some completion => rfl

theorem InFlight.accounts (inFlight : InFlight reqSize state done flying deque) :
    Accounts state := by
  have lengths := inFlight.lengths
  have called := inFlight.callbacks
  have number := congrArg List.length called
  rw [List.length_map, List.length_map, List.length_append, List.length_take, lengths,
    Nat.min_eq_left (Nat.le_add_right _ _)] at number
  have prefixed : state.accepted.take state.callbacks.length =
      done ++ flying.take state.within.toList.length := by
    rw [inFlight.history, number, List.take_append, List.take_of_length_le (Nat.le_add_right _ _),
      Nat.add_sub_cancel_left]
  refine ⟨inFlight.alive, ?_, ?_, fun quiet idle => ?_⟩
  · rw [prefixed]
    exact called
  · rw [inFlight.history, List.length_append, lengths, number, Nat.add_assoc]
  · rw [quiet, idle] at lengths
    have nothing : deque = [] :=
      List.eq_nil_of_length_eq_zero (inFlight.frames.length_eq.symm.trans lengths)
    have implements := inFlight.carries.simulates.implements
    rw [nothing] at implements
    have active := inFlight.active
    rw [quiet, List.length_nil, Nat.zero_add] at active
    exact ⟨implements.empty, implements.number, implements.size, active⟩

/-- One more active request. -/
theorem active_succ {active : BitVec 32} {n : Nat} (counted : active = BitVec.ofNat 32 n) :
    active + 1 = BitVec.ofNat 32 (n + 1) := by
  rw [counted, BitVec.ofNat_add]
  rfl

/-- One active request less. -/
theorem active_pred {active : BitVec 32} {n : Nat} (counted : active = BitVec.ofNat 32 (n + 1)) :
    active - 1 = BitVec.ofNat 32 n := by
  rw [← active_succ rfl] at counted
  rw [counted, BitVec.add_sub_cancel]

/-- The count is zero exactly when it has come round. -/
theorem active_zero_iff {active : BitVec 32} {n : Nat} (counted : active = BitVec.ofNat 32 n) :
    active = 0 ↔ n % 2 ^ 32 = 0 := by
  rw [counted, BitVec.toNat_eq, BitVec.toNat_ofNat]
  rfl

/-! ### Steps -/

/-- A send, whatever becomes of it. -/
theorem InFlight.send {conf : StreamConf} {heap : Heap} {address : Nat} {uvWrite : Int}
    {buf : List UInt8} {sent : Pushed StreamWriter}
    (inFlight : InFlight reqSize state done flying deque) (request : reqSize < 2 ^ 62)
    (object : buf.length < 2 ^ 63)
    (mallocs : state.writer.buffers.manager.Mallocs heap (totalBufferSize reqSize buf.length))
    (returned : ioStreamSendMapped conf heap address reqSize uvWrite state.writer buf = .ok sent) :
    ∃ flying' deque', InFlight reqSize (state.sent buf sent) done flying' deque' := by
  obtain ⟨res, req, after⟩ := sent
  rcases inFlight.carries.send request object mallocs returned with
    ⟨refused, kept⟩ | ⟨rfl, chunk, pointer, rfl, frame, added⟩
  · rw [WriteState.sent, if_neg refused]
    exact ⟨flying, deque, inFlight.alive, inFlight.history, kept, inFlight.frames,
      inFlight.callbacks, inFlight.completing, inFlight.active⟩
  · rw [WriteState.sent, if_pos rfl]
    have lengths := inFlight.lengths
    refine ⟨flying ++ [buf], deque ++ [chunk], inFlight.alive, ?_, ?_, ?_, ?_, ?_, ?_⟩
    · rw [inFlight.history, List.append_assoc]
    · rw [List.append_assoc] at added
      exact added
    · exact List.rel_append inFlight.frames (.cons frame .nil)
    · have short : state.within.toList.length ≤ flying.length := by omega
      have same : (flying ++ [buf]).take state.within.toList.length =
          flying.take state.within.toList.length :=
        List.take_append_of_le_length short
      change state.callbacks.map Written.said = _
      rw [same]
      exact inFlight.callbacks
    · intro completion within
      obtain ⟨same, first, rest, held, size⟩ := inFlight.completing completion within
      exact ⟨same, first, rest ++ [chunk], by rw [held, List.cons_append], size⟩
    · have one : (state.pending ++ [pointer]).length + state.otherReqs =
          state.pending.length + state.otherReqs + 1 := by
        rw [List.length_append, List.length_singleton]
        omega
      exact (active_succ inFlight.active).trans (congrArg (BitVec.ofNat 32) one.symm)

/-- What a completion has done up to its callback, when the count of active requests has not come
    round. -/
theorem InFlight.written_eq {req : Nat} {rest : List Nat}
    (inFlight : InFlight reqSize state done flying deque) (request : reqSize < 2 ^ 62)
    (idle : state.within = none) (oldest : state.pending = req :: rest)
    (counted : (state.pending.length + state.otherReqs) % 2 ^ 32 ≠ 0) (status : Int) :
    ∃ payload others, flying = payload :: others ∧ state.written reqSize req rest status =
      { state with
        pending := rest
        activeReqs := state.activeReqs - 1
        within := some
          { req := req, status := status, data := req,
              nwrite := reqSize + 4 + (frameTail payload).length }
        callbacks :=
          state.callbacks ++ [{ errorCode := status, status := .success, data := payload }] } := by
  have active : ¬state.activeReqs = 0 :=
    fun zero => counted ((active_zero_iff inFlight.active).mp zero)
  have carries := inFlight.carries
  have frames := inFlight.frames
  have length := carries.length
  rw [idle, oldest] at carries length
  cases deque with
  | nil => cases length
  | cons chunk deque =>
      cases frames with
      | @cons payload _ flying _ frame frames =>
          have round := carries.written request frame status
          rw [WriteState.written, if_neg active, WriteState.round]
          simp only [round]
          rw [frame.size]
          exact ⟨payload, flying, rfl, rfl⟩

/-- A completion up to its callback. -/
theorem InFlight.written {req : Nat} {rest : List Nat}
    (inFlight : InFlight reqSize state done flying deque) (request : reqSize < 2 ^ 62)
    (idle : state.within = none) (oldest : state.pending = req :: rest)
    (counted : (state.pending.length + state.otherReqs) % 2 ^ 32 ≠ 0) (status : Int) :
    InFlight reqSize (state.written reqSize req rest status) done flying deque := by
  obtain ⟨payload, others, rfl, written⟩ := inFlight.written_eq request idle oldest counted status
  have carries := inFlight.carries
  rw [idle, oldest] at carries
  rw [written]
  refine ⟨inFlight.alive, inFlight.history, carries, inFlight.frames, ?_, ?_, ?_⟩
  · rw [List.map_append, inFlight.callbacks, idle]
    simp [Written.said]
  · intro completion within
    cases within
    cases inFlight.frames with
    | cons frame frames => exact ⟨rfl, _, _, rfl, frame.size.symm⟩
  · apply active_pred
    rw [inFlight.active, oldest]
    congr 1
    simp only [List.length_cons]
    omega

/-- The rest of a completion. -/
theorem InFlight.finished {completion : Completion}
    (inFlight : InFlight reqSize state done flying deque)
    (called : state.within = some completion) :
    ∃ done' flying' deque',
      InFlight reqSize (state.finished reqSize completion) done' flying' deque' := by
  obtain ⟨same, chunk, rest, rfl, size⟩ := inFlight.completing completion called
  have carries := inFlight.carries
  have callbacks := inFlight.callbacks
  have history := inFlight.history
  have frames := inFlight.frames
  rw [called] at carries callbacks
  cases frames with
  | @cons payload _ flying _ frame frames =>
      rw [WriteState.finished, if_pos same]
      refine ⟨done ++ [payload], flying, rest, inFlight.alive, ?_, ?_, frames, ?_, ?_,
        inFlight.active⟩
      · rw [history, List.append_assoc, List.singleton_append]
      · apply Carries.popFront carries
        rw [size]
        exact frame.exhausted
      · simpa using callbacks
      · intro completion' within
        cases within

/-- A write to a request is none to a frame. -/
theorem ChunkHolds.touched {payload : List UInt8} {chunk : Chunk} {offset : Nat}
    {bytes : List UInt8} (frame : ChunkHolds reqSize payload chunk)
    (inside : offset + bytes.length ≤ reqSize) :
    ChunkHolds reqSize payload (chunk.write offset bytes) := by
  refine ⟨frame.object, frame.size, frame.consumed, fun k below => ?_⟩
  have outside : ¬(offset ≤ reqSize + 4 + k ∧ reqSize + 4 + k < offset + bytes.length) := by omega
  simp only [Chunk.write, if_neg outside]
  exact frame.bytes k below

/-- libuv writes to a request. -/
theorem InFlight.touched {i offset : Nat} {bytes : List UInt8} {block : BufferBlock}
    (inFlight : InFlight reqSize state done flying deque)
    (live : state.writer.buffers.manager.block? i = some block)
    (inside : offset + bytes.length ≤ reqSize) :
    ∃ deque', InFlight reqSize (state.touched i offset bytes) done flying deque' := by
  have blocks := inFlight.carries.simulates.liveBlocks
  rw [block?_eq] at live
  obtain ⟨inBlocks, rfl⟩ := List.getElem?_eq_some_iff.mp live
  obtain ⟨length, each⟩ := forall₂_iff_getElem?.mp blocks
  obtain ⟨length', each'⟩ := forall₂_iff_getElem?.mp inFlight.frames
  have inDeque : i < deque.length := length ▸ inBlocks
  have inFlying : i < flying.length := length'.symm ▸ inDeque
  have shows := (each i _ _ live (List.getElem?_eq_getElem inDeque)).1
  have frame := each' i _ _ (List.getElem?_eq_getElem inFlying) (List.getElem?_eq_getElem inDeque)
  have room : offset + bytes.length ≤ (state.writer.buffers.manager.liveBlocks[i]).rawSize := by
    have size := frame.size
    rw [shows.size]
    omega
  have carries := inFlight.carries.write ((block?_eq _ i).trans live) room
  refine ⟨_, inFlight.alive, inFlight.history, carries, ?_, inFlight.callbacks, ?_, inFlight.active⟩
  · have changed : List.Forall₂ (ChunkHolds reqSize) (flying.modify i id)
        (deque.modify i fun chunk => chunk.write offset bytes) :=
      forall₂_modify inFlight.frames (fun _ _ _ frame => frame.touched inside)
        fun _ _ _ _ _ frame => frame
    rwa [List.modify_id] at changed
  · intro completion within
    obtain ⟨same, chunk, rest, rfl, size⟩ := inFlight.completing completion within
    refine ⟨same, ?_⟩
    cases i with
    | zero => exact ⟨chunk.write offset bytes, rest, rfl, size⟩
    | succ i => exact ⟨chunk, _, List.modify_succ_cons .., size⟩

end

/-! ### Runs -/

/-- A completion finds a count of active requests that has not come round to zero. -/
def CountsActive (t : Transition WriteState WriteEvent) : Prop :=
  match t.label with
  | .written _ => (t.pre.pending.length + t.pre.otherReqs) % 2 ^ 32 ≠ 0
  | _ => True

/-- The invariant: some sends are completed and the others are in flight. -/
def Sound (reqSize : Nat) (state : WriteState) : Prop :=
  ∃ done flying deque, InFlight reqSize state done flying deque

section

variable {conf : StreamConf} {reqSize : Nat} {state after : WriteState} {event : WriteEvent}

theorem sound_start {heap : Heap} {bytes : Memory} {others : Nat}
    (word : conf.sendBufferMaxSize < 2 ^ 64) : Sound reqSize (.start conf heap bytes others) := by
  have start : BufferStart ⟨makeBuffers heap conf.sendBufferMaxSize conf.sendBufferStatic,
      bytes⟩ := by
    rw [makeBuffers]
    split
    · exact .set heap _ _ bytes word
    · exact .dynamic _ _ bytes
  refine ⟨[], [], [], rfl, rfl, ⟨start.simulates, rfl, List.zipWith_nil_left⟩, .nil, rfl, ?_, ?_⟩
  · intro completion within
    cases within
  · exact congrArg (BitVec.ofNat 32) (Nat.zero_add others).symm

/-- A completion whose count has come round stops at its first assertion. -/
theorem written_faults (zero : state.activeReqs = 0) (reqSize req : Nat) (rest : List Nat)
    (status : Int) : (state.written reqSize req rest status).fault = some .assertion := by
  rw [WriteState.written, if_pos zero]

theorem Sound.step (sound : Sound reqSize state) (request : reqSize < 2 ^ 62)
    (taken : writeStep conf reqSize state event after)
    (counted : CountsActive ⟨state, event, after⟩) : Sound reqSize after := by
  obtain ⟨done, flying, deque, inFlight⟩ := sound
  cases taken with
  | send alive object mallocs returned =>
      obtain ⟨flying', deque', sent⟩ := inFlight.send request object mallocs returned
      exact ⟨done, flying', deque', sent⟩
  | written alive idle oldest =>
      exact ⟨done, flying, deque, inFlight.written request idle oldest counted _⟩
  | finished alive called => exact inFlight.finished called
  | touched alive live inside =>
      obtain ⟨deque', touched⟩ := inFlight.touched live inside
      exact ⟨done, flying, deque', touched⟩
  | otherStarted alive =>
      exact ⟨done, flying, deque, { inFlight with active := active_succ inFlight.active }⟩
  | otherEnded alive some =>
      have active := inFlight.active
      rw [some, ← Nat.add_assoc] at active
      exact ⟨done, flying, deque, { inFlight with active := active_pred active }⟩

/-- A step leaves the accounts right exactly when its count has not come round. -/
theorem Sound.accounts_iff (sound : Sound reqSize state) (request : reqSize < 2 ^ 62)
    (taken : writeStep conf reqSize state event after) :
    Accounts after ↔ CountsActive ⟨state, event, after⟩ := by
  constructor
  · intro accounts
    obtain ⟨done, flying, deque, inFlight⟩ := sound
    cases taken with
    | written alive idle oldest =>
        intro zero
        have fault := written_faults ((active_zero_iff inFlight.active).mpr zero) reqSize
        exact Option.some_ne_none _ ((fault _ _ _).symm.trans accounts.sound)
    | _ => trivial
  · intro counted
    obtain ⟨done, flying, deque, inFlight⟩ := sound.step request taken counted
    exact inFlight.accounts

/-! ### Sends without limits -/

/-- A connection in dynamic mode without limits that has only sent, each time an empty payload. -/
structure Sending (reqSize n : Nat) (state : WriteState) : Prop where
  alive : state.fault = none
  idle : state.within = none
  pending : state.pending.length = n
  others : state.otherReqs = 0
  active : state.activeReqs = BitVec.ofNat 32 n
  mode : state.writer.buffers.manager.staticBuffer = none
  limits : state.writer.buffers.manager.limit.limitNumber = 0 ∧
    state.writer.buffers.manager.limit.limitSize = 0
  allocated : state.writer.buffers.manager.allocated = n * fullSize (totalBufferSize reqSize 0)
  accepted : state.accepted.length = n

variable {blocks : List BufferBlock} {block : BufferBlock} {limit : Limit} {memory : Memory}
  {addresses : List Nat}

/-- A push in dynamic mode without limits. -/
theorem pushBack_dynamic {address s : Nat} (sized : Sized s)
    (limits : limit.limitNumber = 0 ∧ limit.limitSize = 0) :
    StreamWriter.pushBack zeroHeap address ⟨⟨⟨none, blocks, limit⟩, memory⟩, addresses⟩ s =
      .ok (.success, some (address + headSize),
        ⟨⟨⟨none, blocks ++ [.created 0 s fun _ => 0], limit.pushed s⟩, memory⟩,
          addresses ++ [address]⟩) := by
  have number : ¬(0 < limit.limitNumber ∧ limit.limitNumber ≤ limit.costNumber) := by omega
  have size : ¬(0 < limit.limitSize ∧ limit.limitSize < wrap (limit.costSize + s)) := by omega
  simp only [StreamWriter.pushBack, MappedManager.call, BufferManager.call,
    BufferManager.pushBackChecked, BufferManager.pushWith, if_neg number, if_neg size,
    dynamicPush_eq sized]
  rfl

/-- A write to the newest of the blocks in dynamic mode. -/
theorem writeBack_dynamic {offset : Nat} {bytes : List UInt8}
    (inside : offset + bytes.length ≤ block.rawSize) :
    StreamWriter.writeBack ⟨⟨⟨none, blocks ++ [block], limit⟩, memory⟩, addresses⟩ offset bytes =
      .ok
        ⟨⟨⟨none, blocks ++ [{ block with store := writeBytes block.store offset bytes }], limit⟩,
          memory⟩,
        addresses⟩ := by
  have last : (blocks ++ [block]).length - 1 = blocks.length := by
    rw [List.length_append]
    rfl
  have live : (blocks ++ [block])[blocks.length]? = some block := List.getElem?_concat_length ..
  simp only [StreamWriter.writeBack, StreamWriter.blocks, BufferManager.liveBlocks,
    BufferManager.block?, last, live, if_pos inside, MappedManager.write, modify_last]

/-- The block of an empty payload. -/
def emptyFrame : BufferBlock :=
  { BufferBlock.created 0 197 fun _ => 0 with
    store := writeBytes (writeBytes (writeBytes (fun _ => 0) 192 (crcField [])) 196 [0]) 197 [] }

/-- A send of an empty payload in dynamic mode without limits. -/
theorem ioStreamSend_dynamic (blocks : List BufferBlock) (memory : Memory) (addresses : List Nat)
    (limits : limit.limitNumber = 0 ∧ limit.limitSize = 0) :
    ioStreamSendMapped ioStreamInitConfigure zeroHeap 0 192 0 ⟨⟨⟨none, blocks, limit⟩, memory⟩,
      addresses⟩ [] =
      .ok (.success, some headSize,
        ⟨⟨⟨none, blocks ++ [emptyFrame], limit.pushed 197⟩, memory⟩, addresses ++ [0]⟩) := by
  have sized : Sized 197 := by decide
  have total : totalBufferSize 192 0 = 197 := by decide
  have vint : writeVint 0 16 = (1, [0]) := by decide
  have crc : (crcField []).length = 4 := toLE_length 4 _
  have fits : 192 + (crcField []).length ≤ 197 := by
    rw [crc]
    decide
  have small : ¬(0 < ioStreamInitConfigure.sendBufferLimitSize ∧
      ioStreamInitConfigure.sendBufferLimitSize < ([] : List UInt8).length) := by decide
  have succeeded : ¬ErrorType.success.failed = true := by decide
  have written : ¬(0 : Int) ≠ 0 := by decide
  rw [ioStreamSendMapped, if_neg small]
  dsimp only [List.length_nil]
  rw [total, vint, pushBack_dynamic sized limits, ok_bind]
  dsimp only
  rw [if_neg succeeded, writeBack_dynamic fits, ok_bind, writeBack_dynamic (Nat.le_refl 197),
    ok_bind, writeBack_dynamic (Nat.le_refl 197), ok_bind, if_neg written, Nat.zero_add]
  rfl

/-- A send of an empty payload succeeds. -/
theorem Sending.send {n : Nat} (sending : Sending 192 n state) (room : n < 2 ^ 32) :
    ∃ state', writeStep ioStreamInitConfigure 192 state (.send [] .success) state' ∧
      Sending 192 (n + 1) state' := by
  obtain ⟨⟨⟨⟨static, blocks, limit⟩, memory⟩, addresses⟩, activeReqs, otherReqs, pending, within,
      accepted, callbacks,
    fault⟩ := state
  obtain ⟨alive, idle, count, others, active, mode, limits, allocated, all⟩ := sending
  dsimp only at alive idle count others active mode limits allocated all
  subst mode
  have full : fullSize (totalBufferSize 192 0) = 224 := by decide
  have object : ([] : List UInt8).length < 2 ^ 63 := by decide
  have returned := ioStreamSend_dynamic blocks memory addresses limits
  have mallocs : BufferManager.Mallocs ⟨none, blocks, limit⟩ zeroHeap (totalBufferSize 192 0) := by
    intro _ _
    rw [allocated, full]
    omega
  let state : WriteState :=
    ⟨⟨⟨⟨none, blocks, limit⟩, memory⟩, addresses⟩, activeReqs, otherReqs, pending, within,
    accepted, callbacks, fault⟩
  refine ⟨_,
    @writeStep.send ioStreamInitConfigure 192 state [] zeroHeap 0 0 _ alive object mallocs returned,
    ?_⟩
  rw [WriteState.sent, if_pos rfl]
  refine ⟨alive, idle, ?_, others, active_succ active, rfl, limits, ?_, ?_⟩
  · exact (List.length_append).trans (congrArg (· + 1) count)
  · have sum : BufferManager.allocated ⟨none, blocks ++ [emptyFrame], limit.pushed 197⟩ =
        BufferManager.allocated ⟨none, blocks, limit⟩ + 224 := by
      simp only [BufferManager.allocated, List.map_append, List.sum_append, List.map_cons,
        List.map_nil, List.sum_singleton]
      rfl
    have next : (n + 1) * fullSize (totalBufferSize 192 0) = n * fullSize (totalBufferSize 192 0) +
        224 := by
      rw [Nat.succ_mul, full]
    exact sum.trans ((congrArg (· + 224) allocated).trans next.symm)
  · exact (List.length_append).trans (congrArg (· + 1) all)

/-- Any number of sends up to 2^32. -/
theorem run_sending (n : Nat) (room : n ≤ 2 ^ 32) : ∃ made state,
    Run (writeStep ioStreamInitConfigure 192) (.start ioStreamInitConfigure zeroHeap (fun _ => 0) 0)
      made state ∧
      Sending 192 n state ∧ ∀ t ∈ made, CountsActive t := by
  induction n with
  | zero =>
      refine ⟨[], _, .refl, ⟨rfl, rfl, rfl, rfl, rfl, rfl, ⟨rfl, rfl⟩, ?_, rfl⟩,
        List.forall_mem_nil _⟩
      exact (Nat.zero_mul _).symm
  | succ n ih =>
      obtain ⟨made, state, run, sending, counted⟩ := ih (Nat.le_of_succ_le room)
      obtain ⟨state', sent, sending'⟩ := sending.send room
      refine ⟨_, state', run.tail sent, sending', fun t member => ?_⟩
      rcases List.mem_append.mp member with old | new
      · exact counted t old
      · rw [List.mem_singleton.mp new]
        trivial

/-- The first completion of a connection that has only sent. -/
theorem Sending.written {n : Nat} (sending : Sending 192 n state) (some : n ≠ 0) : ∃ req rest,
    writeStep conf 192 state (.written 0) (state.written 192 req rest 0) := by
  have nonempty : state.pending ≠ [] :=
    fun nil => some (sending.pending.symm.trans (congrArg List.length nil))
  obtain ⟨req, rest, oldest⟩ := List.exists_cons_of_ne_nil nonempty
  exact ⟨req, rest, .written sending.alive sending.idle oldest⟩

/-- Every send in flight is completed, one behind the other. -/
theorem Sound.completes {n : Nat} (sound : Sound 192 state) (idle : state.within = none)
    (others : state.otherReqs = 0) (pending : state.pending.length = n) (room : n < 2 ^ 32) :
    ∃ made final,
    Run (writeStep conf 192) state made final ∧ (∀ t ∈ made, CountsActive t) ∧ final.pending = [] ∧
      final.within = none ∧ final.accepted.length = state.accepted.length := by
  have request : 192 < 2 ^ 62 := by decide
  induction n generalizing state with
  | zero =>
      exact ⟨[], state, .refl, List.forall_mem_nil _, List.eq_nil_of_length_eq_zero pending, idle,
        rfl⟩
  | succ n ih =>
      obtain ⟨req, rest, oldest⟩ := List.exists_cons_of_length_eq_add_one pending
      have counts : (state.pending.length + state.otherReqs) % 2 ^ 32 ≠ 0 := by
        rw [pending, others, Nat.add_zero, Nat.mod_eq_of_lt room]
        exact Nat.succ_ne_zero n
      obtain ⟨done, flying, deque, inFlight⟩ := sound
      have written : writeStep conf 192 state (.written 0) (state.written 192 req rest 0) :=
        .written inFlight.alive idle oldest
      have flies := inFlight.written request idle oldest counts 0
      obtain ⟨payload, later, -, same⟩ := inFlight.written_eq request idle oldest counts 0
      rw [same] at written flies
      have finished := @writeStep.finished conf 192 _ _ flies.alive rfl
      rw [WriteState.finished, if_pos rfl] at finished
      have sound' := flies.finished rfl
      rw [WriteState.finished, if_pos rfl] at sound'
      rw [oldest] at pending
      obtain ⟨made, final, run, counted, drained, quiet, accepted⟩ :=
        ih sound' rfl others (Nat.succ.inj pending) (Nat.lt_of_succ_lt room)
      refine ⟨_, final, ((Run.refl.tail written).tail finished).append run, ?_, drained, quiet,
        accepted⟩
      intro t member
      rcases List.mem_append.mp member with first | rest
      · simp only [List.nil_append, List.cons_append, List.mem_cons, List.not_mem_nil,
          or_false] at first
        rcases first with rfl | rfl
        · exact counts
        · trivial
      · exact counted t rest

/-! ### Completion of every send -/

/-- Every accepted send is completed once and in order, with success and its own payload, all
    assertions hold, and nothing is left when nothing is in flight, in exactly the runs in which
    every completion finds a number of active requests that is not a multiple of 2^32. -/
theorem sends_completed_iff {made : List (Transition WriteState WriteEvent)} {final : WriteState}
    {heap : Heap} {bytes : Memory} {others : Nat} (request : reqSize < 2 ^ 62)
    (word : conf.sendBufferMaxSize < 2 ^ 64)
    (run : Run (writeStep conf reqSize) (.start conf heap bytes others) made final) :
    (∀ t ∈ made, Accounts t.post) ↔ ∀ t ∈ made, CountsActive t :=
  run.forall_iff (sound_start word) (fun _ sound taken counted => sound.step request taken counted)
    fun _ sound taken => sound.accounts_iff request taken

/-- Three sends, whose completions come when all of them are in flight. -/
theorem sends_completed_all : ∃ made final,
    Run (writeStep ioStreamInitConfigure 192) (.start ioStreamInitConfigure zeroHeap (fun _ => 0) 0)
      made final ∧
      final.accepted.length = 3 ∧ final.pending = [] ∧ final.within = none ∧
      ∀ t ∈ made, Accounts t.post := by
  obtain ⟨made, state, run, sending, counted⟩ := run_sending 3 (by decide)
  have sound : Sound 192 state :=
    run.invariant (sound_start (by decide))
      (fun t sound taken met => sound.step (by decide) taken met) counted
  obtain ⟨more, final, later, counted', drained, idle, accepted⟩ :=
    sound.completes sending.idle sending.others sending.pending (by decide)
  have whole := run.append later
  refine ⟨_, final, whole, accepted.trans sending.accepted, drained, idle, ?_⟩
  apply (sends_completed_iff (by decide) (by decide) whole).mpr
  intro t member
  rcases List.mem_append.mp member with old | new
  · exact counted t old
  · exact counted' t new

/-- With 2^32 sends in flight the first completion stops at its first assertion. -/
theorem sends_not_completed : ∃ made final,
    Run (writeStep ioStreamInitConfigure 192) (.start ioStreamInitConfigure zeroHeap (fun _ => 0) 0)
      made final ∧
      final.fault = some .assertion ∧ ∃ t ∈ made, ¬Accounts t.post := by
  obtain ⟨made, state, run, sending, -⟩ := run_sending (2 ^ 32) (Nat.le_refl _)
  obtain ⟨req, rest, completed⟩ := sending.written (by decide)
  have zero : state.activeReqs = 0 := (active_zero_iff sending.active).mpr (Nat.mod_self _)
  have fault := written_faults zero 192 req rest 0
  refine ⟨_, _, run.tail completed, fault, _, List.mem_concat_self, fun accounts => ?_⟩
  have sound := accounts.sound
  rw [fault] at sound
  cases sound

end

end LibAtbus.Channel
