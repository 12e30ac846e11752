/-
Module: LibAtbus.Proofs.StreamRoundTrip
Layer: Proofs
Purpose: What a stream channel sends is what it receives. The bytes `io_stream_send` puts behind its
  request are a frame with the checksum of its payload, and the frames of any payloads the receiver
  can hold, cut into reads in any way, are delivered one by one with success.
Trusted boundary: none
Main exports: ioStreamSend_frame, Receivable, SentFrame, stream_arrives, stream_roundTrip
-/
import LibAtbus.Proofs.StreamSafety

namespace LibAtbus.Channel

open Detail Word64 ByteMemory Transitions

/-! ### Sending -/

theorem setBlock_back {buffer : StaticBuffer} (nonempty : ¬buffer.empty = true)
    (changed : BufferBlock) :
    (let after := buffer.setBlock (buffer.prev buffer.tail) changed
     if after.empty then none else some (after.blockAt (after.prev after.tail))) =
       some changed := by
  have same : (buffer.setBlock (buffer.prev buffer.tail) changed).empty = buffer.empty := rfl
  dsimp only
  rw [same, if_neg nonempty]
  exact congrArg some (if_pos rfl)

/-- A write through the pointer of the block at the back changes that block. -/
theorem writeBack_back {manager after : BufferManager} {offset : Nat} {bytes : List UInt8}
    (wrote : manager.writeBack offset bytes = .ok after) :
    ∃ block, manager.back = some block ∧ offset + bytes.length ≤ block.room ∧
      after.back = some { block with store := writeBytes block.store offset bytes } := by
  unfold BufferManager.writeBack at wrote
  unfold BufferManager.back
  split at wrote
  case h_1 mode =>
    split at wrote
    case h_1 => cases wrote
    case h_2 block last =>
      by_cases inside : offset + bytes.length ≤ block.room
      · simp only [BufferBlock.write, if_pos inside, bind, Except.bind, pure, Except.pure,
          Except.ok.injEq] at wrote
        subst wrote
        refine ⟨block, ?_, inside, ?_⟩
        · rw [last]
        · simp only [mode, List.getLast?_append, List.getLast?_singleton, Option.some_or]
      · simp only [BufferBlock.write, if_neg inside, bind, Except.bind, reduceCtorEq] at wrote
  case h_2 buffer mode =>
    split at wrote
    case isTrue => cases wrote
    case isFalse nonempty =>
      by_cases inside : offset + bytes.length ≤ (buffer.blockAt (buffer.prev buffer.tail)).room
      · simp only [BufferBlock.write, if_pos inside, bind, Except.bind, pure, Except.pure,
          Except.ok.injEq] at wrote
        subst wrote
        refine ⟨buffer.blockAt (buffer.prev buffer.tail), ?_, inside, ?_⟩
        · rw [if_neg nonempty]
        · exact setBlock_back nonempty _
      · simp only [BufferBlock.write, if_neg inside, bind, Except.bind, reduceCtorEq] at wrote

/-- Three adjacent writes are one. -/
theorem readBytes_three_writes (store : Memory) (start : Nat) (crc vint buf : List UInt8) :
    readBytes (writeBytes (writeBytes (writeBytes store start crc) (start + crc.length) vint)
        (start + crc.length + vint.length) buf) start (crc.length + vint.length + buf.length) =
      crc ++ vint ++ buf := by
  rw [Nat.add_assoc start, readBytes_writeBytes_behind, readBytes_writeBytes_behind,
    readBytes_writeBytes]

/-- The frame a payload is sent in: with its own checksum, and no larger than a block can be. -/
structure SentFrame (buf : List UInt8) (frame : Frame) : Prop where
  payload : frame.payload = buf
  crc : frame.crc = crcField buf
  vint : frame.vint.length ≤ 16
  small : frame.bytes.length ≤ 2 ^ 64 - 32

/-- What `io_stream_send` puts behind its request is a frame for the payload, with its length
    encoded by `write_vint`; libuv gets the length of the frame as an `unsigned int`. -/
theorem ioStreamSend_built {conf : StreamConf} {heap : Heap} {reqSize : Nat} {uvWrite : Int}
    {writeBuffers : BufferManager} {buf bytes : List UInt8} {bufLen : Nat} {result : SendResult}
    (sent : ioStreamSend conf heap reqSize uvWrite writeBuffers buf = .ok result)
    (built : result.frame = some (bytes, bufLen)) :
    ∃ frame : Frame, frame.bytes = bytes ∧ SentFrame buf frame ∧
      frame.vint.length = (writeVint buf.length 16).1 ∧ bufLen = bytes.length % 2 ^ 32 := by
  unfold ioStreamSend at sent
  split at sent
  case isTrue =>
    cases sent
    cases built
  case isFalse =>
    dsimp only at sent
    split at sent
    case h_2 =>
      cases sent
      cases built
    case h_1 pushed push =>
      obtain ⟨withCrc, wroteCrc, sent⟩ := ok_of_bind sent
      obtain ⟨withVint, wroteVint, sent⟩ := ok_of_bind sent
      obtain ⟨withBuf, wroteBuf, sent⟩ := ok_of_bind sent
      obtain ⟨found, read, sent⟩ := ok_of_bind sent
      obtain ⟨block, _, _, atCrc⟩ := writeBack_back wroteCrc
      obtain ⟨_, again, _, atVint⟩ := writeBack_back wroteVint
      rw [atCrc] at again
      cases again
      obtain ⟨_, again, inside, atBuf⟩ := writeBack_back wroteBuf
      rw [atVint] at again
      cases again
      have crcLength : (crcField buf).length = 4 := toLE_length _ _
      have fits := block.fits
      have head : headSize = 24 := by decide
      dsimp only at inside
      have word : buf.length < 2 ^ 64 := by omega
      obtain ⟨used, positive, short, reads⟩ := readVint_writeVint word []
      rw [List.append_nil] at reads
      have whole : (writeVint buf.length 16).2.take (writeVint buf.length 16).1 =
          (writeVint buf.length 16).2 := by
        rw [used, List.take_length]
      have total : sub (wrap (reqSize + 4 + (writeVint buf.length 16).1 + buf.length)) reqSize =
          (crcField buf).length + (writeVint buf.length 16).2.length + buf.length := by
        rw [wrap_of_lt (by omega), sub_of_le (by omega) (by omega), ← used, crcLength]
        omega
      rw [total] at read
      rw [BufferManager.readBack, atBuf] at read
      dsimp only at read
      rw [BufferBlock.read] at read
      split at read
      case isFalse => cases read
      case isTrue =>
        rw [whole, used, ← crcLength, readBytes_three_writes] at read
        cases read
        let frame : Frame :=
          { crc := crcField buf, vint := (writeVint buf.length 16).2, payload := buf
            crcLength := crcLength
            announces := by rw [reads, used]
            announced := by omega }
        split at sent
        case isTrue =>
          cases sent
          cases built
        case isFalse =>
          cases sent
          cases built
          have vintLength : frame.vint.length = (writeVint buf.length 16).1 := used.symm
          have payloadLength : frame.payload.length = buf.length := rfl
          have length : frame.bytes.length = (crcField buf).length + frame.vint.length +
              buf.length := by
            rw [Frame.bytes_length, crcLength, payloadLength]
          refine ⟨frame, rfl, ⟨rfl, rfl, ?_, ?_⟩, vintLength, ?_⟩
          · exact used ▸ short
          · rw [length, crcLength]
            omega
          · rw [total]
            exact congrArg (· % 2 ^ 32) length.symm

/-- What `io_stream_send` puts behind its request is a frame for the payload. -/
theorem ioStreamSend_frame {conf : StreamConf} {heap : Heap} {reqSize : Nat} {uvWrite : Int}
    {writeBuffers : BufferManager} {buf bytes : List UInt8} {bufLen : Nat} {result : SendResult}
    (sent : ioStreamSend conf heap reqSize uvWrite writeBuffers buf = .ok result)
    (built : result.frame = some (bytes, bufLen)) :
    ∃ frame : Frame, frame.bytes = bytes ∧ SentFrame buf frame := by
  obtain ⟨frame, same, sentFrame, -⟩ := ioStreamSend_built sent built
  exact ⟨frame, same, sentFrame⟩

/-- Some call of `io_stream_send` on the payload hands the frame to libuv. -/
def BuiltFrame (payload bytes : List UInt8) : Prop :=
  ∃ conf heap reqSize uvWrite writeBuffers result bufLen,
    ioStreamSend conf heap reqSize uvWrite writeBuffers payload = .ok result ∧
      result.frame = some (bytes, bufLen)

/-- The frames built for some payloads. -/
theorem sentFrames {payloads stream : List (List UInt8)}
    (built : List.Forall₂ BuiltFrame payloads stream) :
    ∃ frames : List Frame, frames.map Frame.bytes = stream ∧ frames.map Frame.payload = payloads ∧
      ∀ frame ∈ frames, SentFrame frame.payload frame := by
  induction built with
  | nil => exact ⟨[], rfl, rfl, fun frame member => nomatch member⟩
  | cons first _ ih =>
      obtain ⟨_, _, _, _, _, _, _, sent, bytes⟩ := first
      obtain ⟨frame, rfl, sentFrame⟩ := ioStreamSend_frame sent bytes
      obtain ⟨frames, rfl, rfl, all⟩ := ih
      obtain rfl := sentFrame.payload
      refine ⟨frame :: frames, rfl, rfl, ?_⟩
      intro other member
      rcases List.mem_cons.mp member with rfl | later
      · exact sentFrame
      · exact all other later

/-! ### Receiving -/

/-- A size the receiving configuration can hold. -/
structure Receivable (conf : StreamConf) (heap : Heap) (msgLen : Nat) : Prop where
  limit : conf.recvBufferLimitSize ≠ 0 → msgLen ≤ conf.recvBufferLimitSize
  maxSize : conf.recvBufferMaxSize ≠ 0 → 4 + msgLen ≤ conf.recvBufferMaxSize
  static : ∀ buffer,
    (makeBuffers heap conf.recvBufferMaxSize conf.recvBufferStatic).staticBuffer = some buffer →
      fullSize (4 + msgLen) ≤ buffer.size

/-- The callback for a payload that has arrived whole. -/
def delivered (payload : List UInt8) : Recved :=
  { errorCode := 0, status := .success, data := payload }

/-- A sent frame whose payload keeps to the limit is delivered with success. -/
theorem SentFrame.report {conf : StreamConf} {frame : Frame} (sent : SentFrame frame.payload frame)
    (limit : conf.recvBufferLimitSize ≠ 0 → frame.payload.length ≤ conf.recvBufferLimitSize) :
    frame.report conf = delivered frame.payload := by
  have checksum : fromLE frame.crc = (crc32 0 frame.payload).toNat := by
    rw [sent.crc, crcField, fromLE_toLE (crc32 0 frame.payload).toNat_lt]
  have limited :
      ¬(0 < conf.recvBufferLimitSize ∧ conf.recvBufferLimitSize < frame.payload.length) := by
    intro tooLarge
    have within := limit (by omega)
    omega
  rw [Frame.report, recvedFrame, checksum, if_neg (not_not.mpr rfl), if_neg limited]
  rfl

section

variable {conf : StreamConf} {heap : Heap} {contents : Memory} {frames : List Frame}
  {pre post : StreamState} {event : ReadEvent}

/-- A read adds its chunk to what the connection has received. -/
theorem received_of_step (taken : recvStep conf pre event post) :
    post.received = pre.received ++ event.chunk := by
  obtain ⟨_, _, _, rfl⟩ := taken
  rw [StreamState.recv]
  split <;> rfl

/-- There is a block for a frame of a receivable size, if `malloc` gives it one in dynamic mode. -/
theorem Receivable.accepts {msgLen : Nat} (fits : Receivable conf heap msgLen)
    (small : 4 + msgLen < 2 ^ 64)
    (memory : readStatic conf heap = none → ∀ size, (event.heap size).isSome = true) :
    Accepts (readLimit conf heap) (readStatic conf heap) event.heap (4 + msgLen) := by
  constructor
  · rcases (makeBuffers_holds heap conf.recvBufferMaxSize conf.recvBufferStatic).2 with none | limit
    · exact .inl none
    · by_cases unlimited : conf.recvBufferMaxSize = 0
      · exact .inl (limit.trans unlimited)
      · apply Or.inr
        rw [readLimit, limit, wrap_of_lt small]
        exact fits.maxSize unlimited
  · cases mode : readStatic conf heap with
    | none => exact memory mode _
    | some size =>
        obtain ⟨buffer, static, rfl⟩ := Option.map_eq_some_iff.mp mode
        exact fits.static buffer static

/-- Where what is received starts like the frames sent, a read meets no length that does not fit. -/
theorem Decoded.fitsStep {limitSize : Nat} {static : Option Nat} {done : List Frame}
    {pending : List UInt8} (decoded : Decoded conf limitSize static pre done pending)
    (starts : pre.received ++ event.chunk <+: (frames.map Frame.bytes).flatten)
    (sent : ∀ frame ∈ frames, SentFrame frame.payload frame) : FitsStep ⟨pre, event, post⟩ := by
  rw [decoded.received, List.append_assoc] at starts
  obtain ⟨later, rfl, behind⟩ := frames_of_prefix starts
  intro _ inHead rest reaches
  rw [(decoded.inHead inHead).1] at reaches
  exact headerFits_of_frames behind reaches fun frame member =>
    (sent frame (List.mem_append_right _ member)).small

/-- As long as what is received starts like the frames sent, every read of the connection goes well:
    it stays open, and what it has received is the first of these frames and an unfinished one. -/
def Receiving (conf : StreamConf) (heap : Heap) (frames : List Frame)
    (state : StreamState) : Prop :=
  state.received <+: (frames.map Frame.bytes).flatten →
    state.fault = none ∧ ∃ done pending,
      Decoded conf (readLimit conf heap) (readStatic conf heap) state done pending

/-- A read keeps that. -/
theorem Receiving.step (receiving : Receiving conf heap frames pre)
    (taken : recvStep conf pre event post) (sent : ∀ frame ∈ frames, SentFrame frame.payload frame)
    (accepts : ∀ frame ∈ frames,
      Accepts (readLimit conf heap) (readStatic conf heap) event.heap (4 + frame.payload.length)) :
    Receiving conf heap frames post := by
  intro starts
  rw [received_of_step taken] at starts
  obtain ⟨_, done, pending, decoded⟩ := receiving ((List.prefix_append _ _).trans starts)
  have meets : FitsStep ⟨pre, event, post⟩ := decoded.fitsStep starts sent
  rw [decoded.received, List.append_assoc] at starts
  obtain ⟨later, rfl, behind⟩ := frames_of_prefix starts
  obtain ⟨noFault, _, going | refused⟩ := decoded.step taken meets
  · obtain ⟨new, pending', decoded'⟩ := going
    exact ⟨noFault, _, _, decoded'⟩
  · obtain ⟨inHead, rest, vintLen, msgLen, reaches, header, refused⟩ := refused.header
    rw [(decoded.inHead inHead).1] at reaches
    obtain ⟨earlier, rest', rfl, ahead⟩ := reaches_of_frames behind reaches
    obtain ⟨frame, last, rfl, rfl, rfl⟩ := header_of_frames ahead header
    exact absurd (accepts frame (by simp)) refused

/-- With a receivable frame unfinished, there is always room for a read. -/
theorem Decoded.offered {done : List Frame} {pending : List UInt8} {limitSize : Nat}
    {static : Option Nat} (decoded : Decoded conf limitSize static post done pending)
    (starts : pending <+: (frames.map Frame.bytes).flatten)
    (sent : ∀ frame ∈ frames, SentFrame frame.payload frame) :
    0 < (ioStreamOnRecvAllocFn post.conn).len := by
  have within := decoded.within
  have phase := decoded.phase
  have length : post.conn.head.length = post.conn.readHead.len := readBytes_length
  generalize post.conn.head = head at phase length
  cases phase with
  | waiting holds unfinished =>
      rw [(alloc_head holds.back within).1]
      have short : pending.length < dataSmallSize := by
        cases frames with
        | nil =>
            rw [List.prefix_nil.mp starts]
            decide
        | cons frame later =>
            by_contra long
            have sentFrame := sent frame (by simp)
            have size : (frame.crc ++ frame.vint).length ≤ pending.length := by
              have vint := sentFrame.vint
              have small : dataSmallSize = 512 := rfl
              rw [List.length_append, frame.crcLength]
              omega
            have first :
                frame.crc ++ frame.vint <+: ((frame :: later).map Frame.bytes).flatten := by
              rw [List.map_cons, List.flatten_cons, Frame.bytes, List.append_assoc (_ ++ _)]
              exact List.prefix_append _ _
            have header :=
              frame.header_of_prefix (List.prefix_of_prefix_length_le first starts size)
            rw [unfinished] at header
            cases header
      omega
  | collecting holds collecting incomplete =>
      rw [alloc_block holds collecting incomplete]
      exact Nat.sub_pos_of_lt incomplete

/-- When all frames have arrived, none is unfinished. -/
theorem Decoded.finished {done : List Frame} {pending : List UInt8} {limitSize : Nat}
    {static : Option Nat} (decoded : Decoded conf limitSize static post done pending)
    (whole : pending = (frames.map Frame.bytes).flatten) :
    frames = [] ∧ post.conn.readHead.len = 0 ∧ post.conn.readBuffers.front = none := by
  have phase := decoded.phase
  have length : post.conn.head.length = post.conn.readHead.len := readBytes_length
  generalize post.conn.head = head at phase length
  cases phase with
  | waiting holds unfinished =>
      have none : frames.map Frame.bytes = [] := by
        refine FrameCode.eq_nil_of_unfinished Frame.areFrames ?_
        intro n size
        obtain ⟨vintLen, msgLen, header, _⟩ := frameCode_size size
        rw [← whole, unfinished] at header
        cases header
      rw [none] at whole
      rw [whole] at length
      exact ⟨List.map_eq_nil_iff.mp none, length.symm, holds.front⟩
  | @collecting crc vint part msgLen block holds collecting incomplete =>
      have none : frames.map Frame.bytes = [] := by
        refine FrameCode.eq_nil_of_unfinished Frame.areFrames ?_
        intro n size
        obtain ⟨vintLen, msgLen', header, rfl⟩ := frameCode_size size
        have own : frameHeader (crc ++ vint ++ part) = some (vint.length, msgLen) :=
          header_of_parts collecting.crcLength collecting.announces collecting.announced
        rw [← whole, own] at header
        cases header
        rw [← whole]
        simp only [List.length_append, collecting.crcLength]
        omega
      rw [none] at whole
      have announced := collecting.announced
      have empty := congrArg List.length whole
      simp only [List.length_append, List.flatten_nil, List.length_nil] at empty
      omega

end

/-- What a connection has received is what has been read. -/
theorem received_eq_chunks {conf : StreamConf} {start final : StreamState}
    {made : List (Transition StreamState ReadEvent)} (run : Run (recvStep conf) start made final) :
    final.received = start.received ++ (made.map fun t => t.label.chunk).flatten := by
  induction run with
  | refl => simp
  | tail run last ih =>
      rw [received_of_step last, ih]
      simp

/-- The frames `io_stream_send` builds for some payloads arrive however they are cut into reads,
    when every payload keeps to the limit and there is a block for it in every read. While they do,
    no read leaves the memory it may touch or fails an assertion, the connection stays open with
    room for the next read, and the first payloads have been delivered with success, in order. When
    all bytes have been read, all payloads have been delivered, nothing is left in the head buffer
    and there is no block. -/
theorem stream_arrives {conf : StreamConf} {heap : Heap} {contents : Memory}
    {payloads stream : List (List UInt8)} {final : StreamState}
    {made : List (Transition StreamState ReadEvent)}
    (built : List.Forall₂ BuiltFrame payloads stream)
    (limit : ∀ payload ∈ payloads, conf.recvBufferLimitSize ≠ 0 →
      payload.length ≤ conf.recvBufferLimitSize)
      (run : Run (recvStep conf) (.start conf heap contents) made final)
    (accepts : ∀ t ∈ made, ∀ payload ∈ payloads,
      Accepts (readLimit conf heap) (readStatic conf heap) t.label.heap (4 + payload.length))
    (cut : (made.map fun t => t.label.chunk).flatten <+: stream.flatten) :
    final.fault = none ∧ final.conn.status = .connected ∧
      0 < (ioStreamOnRecvAllocFn final.conn).len ∧ final.made <+: payloads.map delivered ∧
      ((made.map fun t => t.label.chunk).flatten = stream.flatten →
        final.made = payloads.map delivered ∧ final.conn.readHead.len = 0 ∧
        final.conn.readBuffers.front = none) := by
  obtain ⟨frames, rfl, rfl, sent⟩ := sentFrames built
  have received : final.received = (made.map fun t => t.label.chunk).flatten :=
    received_eq_chunks run
  have initial : Receiving conf heap frames (.start conf heap contents) := by
    intro _
    exact ⟨rfl, _, _, (start_inv conf heap contents).1⟩
  have kept : ∀ t : Transition StreamState ReadEvent, Receiving conf heap frames t.pre →
      recvStep conf t.pre t.label t.post →
      (∀ payload ∈ frames.map Frame.payload,
        Accepts (readLimit conf heap) (readStatic conf heap) t.label.heap (4 + payload.length)) →
      Receiving conf heap frames t.post := by
    intro t receiving taken accepts
    refine receiving.step taken sent ?_
    intro frame member
    exact accepts frame.payload (List.mem_map_of_mem member)
  have receiving : Receiving conf heap frames final := run.invariant initial kept accepts
  rw [← received] at cut ⊢
  obtain ⟨noFault, done, pending, decoded⟩ := receiving cut
  have starts := cut
  rw [decoded.received] at starts
  obtain ⟨later, rfl, behind⟩ := frames_of_prefix starts
  have reported : final.made = (done.map Frame.payload).map delivered := by
    rw [decoded.made, List.map_map]
    apply List.map_congr_left
    intro frame member
    have among : frame ∈ done ++ later := List.mem_append_left _ member
    exact (sent frame among).report (limit frame.payload (List.mem_map_of_mem among))
  have sentLater : ∀ frame ∈ later, SentFrame frame.payload frame := fun frame member =>
    sent frame (List.mem_append_right _ member)
  refine ⟨noFault, decoded.connected, decoded.offered behind sentLater, ?_, ?_⟩
  · rw [reported, List.map_append, List.map_append]
    exact List.prefix_append _ _
  · intro whole
    rw [decoded.received, List.map_append, List.flatten_append] at whole
    obtain ⟨rfl, empty, noBlock⟩ := decoded.finished (List.append_cancel_left whole)
    refine ⟨?_, empty, noBlock⟩
    rw [reported, List.append_nil]

/-- So do the frames of payloads that the receiver can hold. -/
theorem stream_roundTrip {conf : StreamConf} {heap : Heap} {contents : Memory}
    {payloads stream : List (List UInt8)} {final : StreamState}
    {made : List (Transition StreamState ReadEvent)}
    (built : List.Forall₂ BuiltFrame payloads stream)
    (fits : ∀ payload ∈ payloads, Receivable conf heap payload.length)
    (run : Run (recvStep conf) (.start conf heap contents) made final)
    (memory : readStatic conf heap = none → ∀ t ∈ made, ∀ size, (t.label.heap size).isSome = true)
    (cut : (made.map fun t => t.label.chunk).flatten <+: stream.flatten) :
    final.fault = none ∧ final.conn.status = .connected ∧
      0 < (ioStreamOnRecvAllocFn final.conn).len ∧ final.made <+: payloads.map delivered ∧
      ((made.map fun t => t.label.chunk).flatten = stream.flatten →
        final.made = payloads.map delivered ∧ final.conn.readHead.len = 0 ∧
        final.conn.readBuffers.front = none) := by
  refine stream_arrives built (fun payload member => (fits payload member).limit) run ?_ cut
  intro t member payload among
  have small : 4 + payload.length < 2 ^ 64 := by
    obtain ⟨frames, -, rfl, sent⟩ := sentFrames built
    obtain ⟨frame, inFrames, rfl⟩ := List.mem_map.mp among
    have bound := (sent frame inFrames).small
    rw [Frame.bytes_length] at bound
    omega
  exact (fits payload among).accepts small fun dynamic => memory dynamic t member

/-- A payload of three bytes whose frame is cut inside the payload. -/
theorem stream_roundTrip_two_reads :
    ∃ made final, Run (recvStep ioStreamInitConfigure)
        (.start ioStreamInitConfigure (fun _ => some fun _ => 0) fun _ => 0) made final ∧
      made.length = 2 ∧ final.made = [delivered [1, 2, 3]] ∧ final.conn.readHead.len = 0 ∧
      final.conn.readBuffers.front = none := by
  let heap : Heap := fun _ => some fun _ => 0
  let bytes : List UInt8 := [0x0f, 0x59, 0xfd, 0xaa, 3, 1, 2, 3]
  have built : BuiltFrame [1, 2, 3] bytes := by
    have sent : (ioStreamSend ioStreamInitConfigure heap 192 0 .reset [1, 2, 3]).toOption.bind
        SendResult.frame = some (bytes, 8) := by decide +kernel
    cases result : ioStreamSend ioStreamInitConfigure heap 192 0 .reset [1, 2, 3] with
    | error fault =>
        rw [result] at sent
        cases sent
    | ok result' =>
        rw [result] at sent
        exact ⟨ioStreamInitConfigure, heap, 192, 0, .reset, result', 8, result, sent⟩
  have fits : ∀ payload ∈ ([[1, 2, 3]] : List (List UInt8)),
      Receivable ioStreamInitConfigure heap payload.length := by
    intro payload member
    rw [List.mem_singleton.mp member]
    refine ⟨by decide, by decide, ?_⟩
    intro buffer static
    have size : (makeBuffers heap ioStreamInitConfigure.recvBufferMaxSize
        ioStreamInitConfigure.recvBufferStatic).staticBuffer.map StaticBuffer.size =
          some 131072 := by
      decide +kernel
    rw [static, Option.map_some, Option.some.injEq] at size
    have small : fullSize 7 ≤ 131072 := by decide
    exact size ▸ small
  let start : StreamState := .start ioStreamInitConfigure heap fun _ => 0
  let half : StreamState := start.recv ioStreamInitConfigure ⟨bytes.take 6, heap⟩
  have step₁ : recvStep ioStreamInitConfigure start ⟨bytes.take 6, heap⟩ half :=
    ⟨rfl, by decide, by decide +kernel, rfl⟩
  have step₂ : recvStep ioStreamInitConfigure half ⟨bytes.drop 6, heap⟩
      (half.recv ioStreamInitConfigure ⟨bytes.drop 6, heap⟩) :=
    ⟨by decide +kernel, by decide, by decide +kernel, rfl⟩
  have run := (Run.refl.tail step₁).tail step₂
  have memory : readStatic ioStreamInitConfigure heap = none → ∀ t ∈
      [] ++ [⟨start, ⟨bytes.take 6, heap⟩, half⟩] ++
        [(⟨half, ⟨bytes.drop 6, heap⟩, half.recv ioStreamInitConfigure ⟨bytes.drop 6, heap⟩⟩ :
          Transition StreamState ReadEvent)], ∀ size, (t.label.heap size).isSome = true := by
    intro dynamic
    have static : readStatic ioStreamInitConfigure heap = some 131072 := by decide +kernel
    rw [static] at dynamic
    cases dynamic
  obtain ⟨_, _, _, _, whole⟩ :=
    stream_roundTrip (.cons built .nil) fits run memory ⟨[], by decide⟩
  obtain ⟨made, empty, noBlock⟩ := whole rfl
  exact ⟨_, _, run, rfl, made, empty, noBlock⟩

end LibAtbus.Channel
