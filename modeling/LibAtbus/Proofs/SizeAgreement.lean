/-
Module: LibAtbus.Proofs.SizeAgreement
Layer: Proofs
Purpose: Whether a message a node accepts for sending arrives at a peer with the same configuration.
  The frame has to be written whole, for which its length must fit an `unsigned int`, and the
  receiving side must have a block for it: the static buffer is as large as a message, which leaves
  no room for the header of the block and the checksum.
Trusted boundary: none
Main exports: Arrives, Arrives.accepts, sendMsg_arrives_iff, sendMsg_closes_peer
-/
import LibAtbus.Node.StreamLink
import LibAtbus.Proofs.StreamRoundTrip

namespace LibAtbus.Channel

open Detail Word64 ByteMemory Transitions

/-! ### Arriving -/

/-- However the bytes written are cut into reads, while they are read the connection stays open with
    room for the next read, without a fault, and nothing but the payload is delivered; when all have
    been read it has been delivered with success. Where received frames get their memory from
    `malloc`, it has memory. -/
def Arrives (conf : StreamConf) (heap : Heap) (payload wire : List UInt8) : Prop :=
  ∀ (contents : Memory) (made : List (Transition StreamState ReadEvent)) (final : StreamState),
    Run (recvStep conf) (.start conf heap contents) made final →
    (readStatic conf heap = none → ∀ t ∈ made, ∀ size, (t.label.heap size).isSome = true) →
    (made.map fun t => t.label.chunk).flatten <+: wire →
      final.fault = none ∧ final.conn.status = .connected ∧
      0 < (ioStreamOnRecvAllocFn final.conn).len ∧
        final.made <+: [delivered payload] ∧
        ((made.map fun t => t.label.chunk).flatten = wire → final.made = [delivered payload])

section

variable {conf : StreamConf} {heap : Heap} {payload wire : List UInt8} {frame : Frame}
  {frames : List Frame} {pre post : StreamState} {event : ReadEvent}

/-- A payload within the limit arrives when there is a block for it. -/
theorem arrives_of_accepts {bytes : List UInt8} (built : BuiltFrame payload bytes)
    (limit : conf.recvBufferLimitSize ≠ 0 → payload.length ≤ conf.recvBufferLimitSize)
    (accepts : ∀ memory :
      Heap, (readStatic conf heap = none → ∀ size, (memory size).isSome = true) →
      Accepts (readLimit conf heap) (readStatic conf heap) memory (4 + payload.length)) :
    Arrives conf heap payload bytes := by
  intro contents made final run memory cut
  have accepted : ∀ t ∈ made, ∀ other ∈ [payload],
      Accepts (readLimit conf heap) (readStatic conf heap) t.label.heap (4 + other.length) := by
    intro t member other same
    rw [List.mem_singleton.mp same]
    exact accepts t.label.heap fun dynamic => memory dynamic t member
  have within : ∀ other ∈ [payload], conf.recvBufferLimitSize ≠ 0 →
      other.length ≤ conf.recvBufferLimitSize := by
    intro other same
    rw [List.mem_singleton.mp same]
    exact limit
  have whole : [bytes].flatten = bytes := by simp
  rw [← whole] at cut
  obtain ⟨noFault, connected, offered, first, all⟩ :=
    stream_arrives (.cons built .nil) within run accepted cut
  refine ⟨noFault, connected, offered, first, fun complete => (all ?_).1⟩
  rw [whole, complete]

/-! ### What arrives was taken -/

/-- As long as what is received starts like the frames sent, an open connection has received the
    first of these frames and an unfinished one. -/
def Reading (conf : StreamConf) (heap : Heap) (frames : List Frame) (state : StreamState) : Prop :=
  state.received <+: (frames.map Frame.bytes).flatten →
    (∃ done pending, Decoded conf (readLimit conf heap) (readStatic conf heap) state done pending) ∨
      Closed (readLimit conf heap) (readStatic conf heap) state

theorem Reading.step (reading : Reading conf heap frames pre) (taken : recvStep conf pre event post)
    (sent : ∀ frame ∈ frames, SentFrame frame.payload frame) : Reading conf heap frames post := by
  intro starts
  rw [received_of_step taken] at starts
  obtain ⟨done, pending, decoded⟩ | closed := reading ((List.prefix_append _ _).trans starts)
  · obtain ⟨_, _, ⟨new, rest, going⟩ | refused⟩ := decoded.step taken (decoded.fitsStep starts sent)
    · exact .inl ⟨_, _, going⟩
    · exact .inr refused.closed
  · obtain ⟨_, _, _, rfl⟩ := taken
    obtain ⟨after, run, status, readBuffers⟩ := onRead_closed conf closed.closed closed.holds
    rw [recv_ok run]
    exact .inr ⟨status ▸ closed.closed, readBuffers ▸ closed.holds⟩

/-- An open connection that has read the beginning of a frame, but not all of it, has delivered
    nothing. -/
theorem decoded_of_part {contents : Memory} {made : List (Transition StreamState ReadEvent)}
    {final : StreamState} (sent : SentFrame frame.payload frame)
    (run : Run (recvStep conf) (.start conf heap contents) made final)
    (starts : (made.map fun t => t.label.chunk).flatten <+: frame.bytes)
    (short : (made.map fun t => t.label.chunk).flatten.length < frame.bytes.length)
    (connected : final.conn.status = .connected) :
    Decoded conf (readLimit conf heap) (readStatic conf heap) final []
      (made.map fun t => t.label.chunk).flatten := by
  have received : final.received = (made.map fun t => t.label.chunk).flatten :=
    received_eq_chunks run
  have single : ∀ other ∈ [frame], SentFrame other.payload other := by
    intro other same
    rw [List.mem_singleton.mp same]
    exact sent
  have initial : Reading conf heap [frame] (.start conf heap contents) := fun _ =>
    .inl ⟨_, _, (start_inv conf heap contents).1⟩
  have kept : ∀ t : Transition StreamState ReadEvent, Reading conf heap [frame] t.pre →
      recvStep conf t.pre t.label t.post → True → Reading conf heap [frame] t.post :=
    fun _ reading taken _ => reading.step taken single
  have reading : Reading conf heap [frame] final := run.invariant initial kept fun _ _ => trivial
  have whole : ([frame].map Frame.bytes).flatten = frame.bytes := by simp
  rw [Reading, whole, received] at reading
  obtain ⟨done, pending, decoded⟩ | closed := reading starts
  · have split := decoded.received
    have among := starts
    rw [← received, split, ← whole] at among
    obtain ⟨later, frames, -⟩ := frames_of_prefix among
    cases done with
    | nil =>
        rw [received] at split
        rw [split]
        exact decoded
    | cons first done =>
        obtain ⟨rfl, -⟩ := List.cons_eq_cons.mp frames
        rw [← received, split] at short
        simp only [List.map_cons, List.flatten_cons, List.length_append] at short
        omega
  · exact absurd connected closed.closed

/-- A read that completes the length of a frame for which there is no block closes the
    connection. -/
theorem Decoded.closes {limitSize : Nat} {static : Option Nat} {done : List Frame}
    {pending : List UInt8} {vintLen msgLen : Nat}
    (decoded : Decoded conf limitSize static pre done pending)
    (taken : recvStep conf pre event post) (unfinished : frameHeader pending = none)
    (header : frameHeader (pending ++ event.chunk) = some (vintLen, msgLen))
    (exact' : 4 + vintLen + msgLen < 2 ^ 64)
    (incomplete : (pending ++ event.chunk).length < 4 + vintLen + msgLen)
    (refused : ¬Accepts limitSize static event.heap (4 + msgLen)) :
    post.conn.status ≠ .connected := by
  obtain ⟨_, positive, offered, rfl⟩ := taken
  have phase := decoded.phase
  generalize atHead : pre.conn.head = head at phase
  cases phase with
  | waiting holds _ =>
      subst atHead
      have some : 0 < (pre.conn.head ++ event.chunk).length := by
        rw [List.length_append]
        omega
      have refuses : ∃ after, headLoop conf event.heap pre.conn.readBuffers
          (pre.conn.head ++ event.chunk).length (pre.conn.head ++ event.chunk) =
            .ok ⟨(pre.conn.head ++ event.chunk).drop (4 + vintLen), after, true, []⟩ ∧
          Holds limitSize static none after :=
        headLoop_refused holds some header exact' incomplete refused
      obtain ⟨after, run, kept⟩ := refuses
      obtain ⟨closed, connected, _, _, _, read⟩ :=
        (onRead_head conf decoded.connected holds.back decoded.within positive offered).2 _ run
          (by simp only [deliverBlock, kept.front])
      rw [recv_ok read]
      simp [StreamConnection.disconnect, connected]
  | collecting holds collecting _ =>
      rw [header_of_parts collecting.crcLength collecting.announces collecting.announced]
        at unfinished
      cases unfinished

/-- `malloc` always has memory. -/
def plenty : Heap := fun _ => some fun _ => 0

/-- Bytes that arrive can be read one by one. -/
theorem Arrives.run_bytes (arrives : Arrives conf heap payload wire) (contents : Memory) {n : Nat}
    (within : n ≤ wire.length) :
    ∃ made final, Run (recvStep conf) (.start conf heap contents) made final ∧
      (∀ t ∈ made, t.label.heap = plenty) ∧
      (made.map fun t => t.label.chunk).flatten = wire.take n := by
  induction n with
  | zero => exact ⟨[], _, .refl, by simp, by simp⟩
  | succ n ih =>
      obtain ⟨made, final, run, heaps, read⟩ := ih (Nat.le_of_succ_le within)
      have memory : readStatic conf heap = none → ∀ t ∈ made, ∀ size,
          (t.label.heap size).isSome = true := by
        intro _ t member size
        rw [heaps t member]
        rfl
      have starts : (made.map fun t => t.label.chunk).flatten <+: wire := by
        rw [read]
        exact List.take_prefix n wire
      obtain ⟨noFault, _, offered, _⟩ := arrives contents made final run memory starts
      have inside : n < wire.length := within
      have next : recvStep conf final ⟨[wire[n]], plenty⟩ (final.recv conf ⟨[wire[n]], plenty⟩) :=
        ⟨noFault, Nat.one_pos, offered, rfl⟩
      refine ⟨_, _, run.tail next, ?_, ?_⟩
      · intro t member
        rcases List.mem_append.mp member with earlier | last
        · exact heaps t earlier
        · rw [List.mem_singleton.mp last]
      · rw [List.map_append, List.flatten_append, read, List.take_succ_eq_append_getElem inside]
        simp

/-- What arrives has been written whole. -/
theorem Arrives.whole {n : Nat} (sent : SentFrame frame.payload frame)
    (arrives : Arrives conf heap frame.payload (frame.bytes.take n)) : frame.bytes.length ≤ n := by
  by_contra cut
  obtain ⟨made, final, run, heaps, read⟩ := arrives.run_bytes (fun _ => 0) (Nat.le_refl _)
  rw [List.take_length] at read
  have memory : readStatic conf heap = none → ∀ t ∈ made, ∀ size,
      (t.label.heap size).isSome = true := by
    intro _ t member size
    rw [heaps t member]
    rfl
  have starts : (made.map fun t => t.label.chunk).flatten <+: frame.bytes.take n :=
    read ▸ List.prefix_rfl
  obtain ⟨_, connected, _, _, all⟩ := arrives _ made final run memory starts
  have part : (made.map fun t => t.label.chunk).flatten.length < frame.bytes.length := by
    rw [read, List.length_take]
    omega
  have decoded :=
    decoded_of_part sent run (starts.trans (List.take_prefix n frame.bytes)) part connected
  have delivered := all read
  rw [decoded.made] at delivered
  cases delivered

/-- For a payload that arrives, however its frame is cut, there is a block. -/
theorem Arrives.accepts (arrives : Arrives conf heap frame.payload frame.bytes)
    (sent : SentFrame frame.payload frame) (nonempty : 0 < frame.payload.length) :
    Accepts (readLimit conf heap) (readStatic conf heap) plenty (4 + frame.payload.length) := by
  by_contra refused
  have announced := Nat.pos_of_ne_zero frame.announced
  have total := frame.bytes_length
  -- all of the length but its last byte
  let n := 3 + frame.vint.length
  have inside : n < frame.bytes.length := by omega
  obtain ⟨made, final, run, heaps, read⟩ := arrives.run_bytes (fun _ => 0) (Nat.le_of_lt inside)
  have memory : readStatic conf heap = none → ∀ t ∈ made, ∀ size,
      (t.label.heap size).isSome = true := by
    intro _ t member size
    rw [heaps t member]
    rfl
  have starts : (made.map fun t => t.label.chunk).flatten <+: frame.bytes := by
    rw [read]
    exact List.take_prefix n frame.bytes
  obtain ⟨noFault, connected, offered, _⟩ := arrives _ made final run memory starts
  have part : (made.map fun t => t.label.chunk).flatten.length < frame.bytes.length := by
    rw [read, List.length_take]
    omega
  have decoded := decoded_of_part sent run starts part connected
  rw [read] at decoded
  -- the last byte of the length
  let event : ReadEvent := ⟨[frame.bytes[n]], plenty⟩
  have next : recvStep conf final event (final.recv conf event) :=
    ⟨noFault, Nat.one_pos, offered, rfl⟩
  have more : frame.bytes.take n ++ event.chunk = frame.bytes.take (n + 1) :=
    List.take_append_getElem inside
  have header : frameHeader (frame.bytes.take (n + 1)) = some (frame.vint.length,
      frame.payload.length) := by
    have front : frame.crc ++ frame.vint <+: frame.bytes := ⟨frame.payload, rfl⟩
    apply frame.header_of_prefix
    refine List.prefix_of_prefix_length_le front (List.take_prefix _ _) ?_
    rw [List.length_append, frame.crcLength, List.length_take]
    omega
  have unfinished : frameHeader (frame.bytes.take n) = none := by
    cases found : frameHeader (frame.bytes.take n) with
    | none => rfl
    | some sizes =>
        obtain ⟨vintLen, msgLen⟩ := sizes
        have same := frameHeader_append (frame.bytes.drop n) found
        rw [List.take_append_drop, frame.header] at same
        cases same
        obtain ⟨_, _, _, enough, _⟩ := frameHeader_spec found
        rw [List.length_take] at enough
        omega
  have small := sent.small
  have closed : (final.recv conf event).conn.status ≠ .connected := by
    refine decoded.closes next unfinished (by rw [more, header]) (by omega) ?_ refused
    rw [more, List.length_take]
    omega
  let last : Transition StreamState ReadEvent := ⟨final, event, final.recv conf event⟩
  have memory' : readStatic conf heap = none → ∀ t ∈ made ++ [last], ∀ size,
      (t.label.heap size).isSome = true := by
    intro dynamic t member
    rcases List.mem_append.mp member with earlier | same
    · exact memory dynamic t earlier
    · rw [List.mem_singleton.mp same]
      exact fun _ => rfl
  have starts' : ((made ++ [last]).map fun t => t.label.chunk).flatten <+: frame.bytes := by
    have one : ([last].map fun t => t.label.chunk).flatten = event.chunk := by simp [last]
    rw [List.map_append, List.flatten_append, read, one, more]
    exact List.take_prefix _ _
  exact closed (arrives _ _ _ (run.tail next) memory' starts').2.1

end

/-- A call of `io_stream_send` that succeeds has handed a frame to libuv. -/
theorem ioStreamSend_accepted {conf : StreamConf} {heap : Heap} {reqSize : Nat}
    {writeBuffers : BufferManager} {buf : List UInt8} {result : SendResult}
    (sent : ioStreamSend conf heap reqSize 0 writeBuffers buf = .ok result)
    (accepted : result.res = .success) : ∃ bytes bufLen, result.frame = some (bytes, bufLen) := by
  unfold ioStreamSend at sent
  split at sent
  case isTrue =>
    cases sent
    cases accepted
  case isFalse =>
    dsimp only at sent
    split at sent
    case h_1 =>
      obtain ⟨_, _, sent⟩ := ok_of_bind sent
      obtain ⟨_, _, sent⟩ := ok_of_bind sent
      obtain ⟨_, _, sent⟩ := ok_of_bind sent
      obtain ⟨frame, _, sent⟩ := ok_of_bind sent
      rw [if_neg (not_not.mpr rfl)] at sent
      cases sent
      exact ⟨frame, _, rfl⟩
    case h_2 failed _ =>
      cases sent
      exact (failed accepted).elim

end LibAtbus.Channel

namespace LibAtbus.Node

open Channel Detail Word64 ByteMemory Transitions

/-! ### Nodes of one configuration -/

/-- A padded size is at most a word larger. -/
theorem paddingSize_le (s : Nat) : paddingSize s ≤ s + 7 := by
  unfold paddingSize sub wrap
  split <;> omega

/-- A block of a size that does not wrap takes its header and at least its bytes. -/
theorem le_fullSize {s : Nat} (small : s ≤ 2 ^ 64 - 32) : s + 24 ≤ fullSize s := by
  have head : headSize = 24 := by decide
  have padded : s ≤ paddingSize s ∧ paddingSize s ≤ 2 ^ 64 - 32 := by
    unfold paddingSize sub wrap
    split <;> omega
  rw [fullSize, wrap_of_lt (by omega)]
  omega

/-- The receiving side of a node: it has a static buffer of the size of a message, or, when there
    was no memory for that, blocks from `malloc`. -/
theorem accepts_iostreamConf_iff {conf : NodeConf} {heap memory : Heap} {length : Nat}
    (positive : 0 < conf.msgSize) (small : 4 + length ≤ 2 ^ 64 - 32)
    (malloc : readStatic (getIostreamConf conf) heap = none → ∀ size, (memory size).isSome = true) :
    Accepts (readLimit (getIostreamConf conf) heap) (readStatic (getIostreamConf conf) heap) memory
      (4 + length) ↔
      heap (paddingSize conf.msgSize) = none ∨
      fullSize (4 + length) ≤ paddingSize conf.msgSize := by
  have nonzero : conf.msgSize ≠ 0 ∧ 0 < 2 := ⟨by omega, by decide⟩
  have configured : 0 < conf.msgSize ∧ 0 < 2 := ⟨positive, by decide⟩
  have buffers : makeBuffers heap (getIostreamConf conf).recvBufferMaxSize
      (getIostreamConf conf).recvBufferStatic =
      .setMode heap conf.msgSize 2 := if_pos configured
  cases region : heap (paddingSize conf.msgSize) with
  | none =>
      have reset : BufferManager.setMode heap conf.msgSize 2 = .reset := by
        rw [BufferManager.setMode, if_pos nonzero, region]
      have dynamic : readStatic (getIostreamConf conf) heap = none := by
        rw [readStatic, buffers, reset]
        rfl
      have unlimited : readLimit (getIostreamConf conf) heap = 0 := by
        rw [readLimit, buffers, reset]
        rfl
      rw [dynamic, unlimited]
      exact iff_of_true ⟨.inl rfl, malloc dynamic _⟩ (.inl rfl)
  | some contents =>
      have static : readStatic (getIostreamConf conf) heap = some (paddingSize conf.msgSize) := by
        rw [readStatic, buffers, BufferManager.setMode, if_pos nonzero, region]
        rfl
      have limit : readLimit (getIostreamConf conf) heap = conf.msgSize := by
        rw [readLimit, buffers, BufferManager.setMode, if_pos nonzero, region]
      rw [static, limit]
      constructor
      · exact fun accepts => .inr accepts.2
      · rintro (missing | fits)
        · cases missing
        · have least := le_fullSize small
          have most := paddingSize_le conf.msgSize
          refine ⟨.inr ?_, fits⟩
          rw [wrap_of_lt (by omega)]
          omega

/-- A message that a node accepts for sending arrives at a peer of the same configuration, in
    whatever reads its frame comes, exactly when the length of the frame fits an `unsigned int` and
    the frame, without its length, fits with the header of a block into a buffer of the size of a
    message; or there was no memory for that buffer. -/
theorem sendMsg_arrives_iff {pack : Msg → List UInt8} {conf : NodeConf} {heap peerHeap : Heap}
    {reqSize : Nat} {writeBuffers : BufferManager} {m : Msg} {result : Channel.SendResult}
    (packed : pack m ≠ [])
    (sent : MsgHandler.sendMsg pack conf heap reqSize 0 writeBuffers m = .ok result)
    (accepted : 0 ≤ result.res.code) :
    Arrives (getIostreamConf conf) peerHeap (pack m) (wireBytes result) ↔
      4 + (writeVint (pack m).length 16).1 + (pack m).length < 2 ^ 32 ∧
        (peerHeap (paddingSize conf.msgSize) = none ∨
          fullSize (4 + (pack m).length) ≤ paddingSize conf.msgSize) := by
  have success : result.res = .success := by
    by_contra failed
    have negative := (ErrorType.failed_iff result.res).mpr failed
    rw [ErrorType.failed, decide_eq_true_eq] at negative
    omega
  rw [MsgHandler.sendMsg] at sent
  split at sent
  case isTrue =>
    cases sent
    cases success
  case isFalse short =>
    obtain ⟨bytes, bufLen, frame⟩ := ioStreamSend_accepted sent success
    have built : BuiltFrame (pack m) bytes := ⟨_, _, _, _, _, _, _, sent, frame⟩
    obtain ⟨sentFrame, rfl, isSent, vint, rfl⟩ := ioStreamSend_built sent frame
    have payload := isSent.payload
    have nonempty : 0 < (pack m).length := List.length_pos_of_ne_nil packed
    have total := sentFrame.bytes_length
    have small := isSent.small
    rw [payload, vint] at total
    have wire : wireBytes result = sentFrame.bytes.take (sentFrame.bytes.length % 2 ^ 32) := by
      rw [wireBytes, frame]
    rw [wire, ← total]
    rw [← payload] at isSent
    constructor
    · intro arrives
      rw [← payload] at arrives
      have whole : sentFrame.bytes.length < 2 ^ 32 := by
        have written := arrives.whole isSent
        have bound := Nat.mod_lt sentFrame.bytes.length (Nat.two_pow_pos 32)
        omega
      rw [Nat.mod_eq_of_lt whole, List.take_length] at arrives
      have accepts := arrives.accepts isSent (by rw [payload]; exact nonempty)
      rw [payload] at accepts
      exact ⟨whole, (accepts_iostreamConf_iff (by omega) (by omega) fun _ _ => rfl).mp accepts⟩
    · rintro ⟨whole, room⟩
      rw [Nat.mod_eq_of_lt whole, List.take_length]
      refine arrives_of_accepts built (fun _ => Nat.le_of_not_le short) fun memory malloc => ?_
      exact (accepts_iostreamConf_iff (by omega) (by omega) malloc).mpr room

/-- A ping, and what it is packed as. -/
def pingMsg : Msg where
  head :=
    { cmd := .nodePing
      type := 0
      ret := 0
      sequence := 1#32
      srcBusId := 0x12345678#64 }
  body := { ping := some ⟨0⟩ }

def pingBytes : List UInt8 :=
  [0x82, 1, 0x95, 14, 0, 0, 1, 0xce, 0x12, 0x34, 0x56, 0x78, 2, 0x91, 0]

/-- A node with messages of 128 bytes, and one with messages of 32 bytes. -/
def roomyConf : NodeConf := ⟨128, 0, 0, 0⟩

def tightConf : NodeConf := ⟨32, 0, 0, 0⟩

/-- Where a message may have 128 bytes, the ping arrives. -/
theorem sendMsg_arrives_iff_ping :
    ∃ result, MsgHandler.sendMsg (fun _ => pingBytes) roomyConf plenty 192 0 .reset pingMsg =
      .ok result ∧
      Arrives (getIostreamConf roomyConf) plenty pingBytes (wireBytes result) := by
  have sent :
      (MsgHandler.sendMsg (fun _ => pingBytes) roomyConf plenty 192 0 .reset pingMsg).toOption.map
      Channel.SendResult.res = some .success := by decide +kernel
  cases result : MsgHandler.sendMsg (fun _ => pingBytes) roomyConf plenty 192 0 .reset pingMsg with
  | error fault =>
      rw [result] at sent
      cases sent
  | ok done =>
      rw [result] at sent
      have success : done.res = .success := Option.some.inj sent
      refine ⟨done, rfl, (sendMsg_arrives_iff (by decide) result (by rw [success]; decide)).mpr ?_⟩
      exact ⟨by decide, .inr (by decide)⟩

/-- Where a message may have 32 bytes, the ping is accepted for sending, but there is no block for
    its 19 bytes with a header: as soon as its length has been read, the peer closes the
    connection. -/
theorem sendMsg_closes_peer :
    ∃ result made final,
      MsgHandler.sendMsg (fun _ => pingBytes) tightConf plenty 192 0 .reset pingMsg = .ok result ∧
      result.res = .success ∧
      Run (recvStep (getIostreamConf tightConf)) (.start (getIostreamConf tightConf) plenty fun _ =>
        0) made final ∧
      (made.map fun t => t.label.chunk).flatten = (wireBytes result).take 5 ∧
      final.conn.status = .disconnecting ∧
      ¬Arrives (getIostreamConf tightConf) plenty pingBytes (wireBytes result) := by
  let start : StreamState := .start (getIostreamConf tightConf) plenty fun _ => 0
  let event : ReadEvent := ⟨[171, 23, 134, 254, 15], plenty⟩
  let final := start.recv (getIostreamConf tightConf) event
  let last : Transition StreamState ReadEvent := ⟨start, event, final⟩
  have sent :
      (MsgHandler.sendMsg (fun _ => pingBytes) tightConf plenty 192 0 .reset pingMsg).toOption.map
      (fun done => (done.res, (wireBytes done).take 5)) = some (.success, event.chunk) := by
    decide +kernel
  have step : recvStep (getIostreamConf tightConf) start event final :=
    ⟨rfl, by decide, by decide +kernel, rfl⟩
  have run := Run.refl.tail step
  have closed : final.conn.status = .disconnecting := by decide +kernel
  cases result : MsgHandler.sendMsg (fun _ => pingBytes) tightConf plenty 192 0 .reset pingMsg with
  | error fault =>
      rw [result] at sent
      cases sent
  | ok done =>
      rw [result] at sent
      obtain ⟨success, wire⟩ := Prod.mk.inj (Option.some.inj sent)
      refine ⟨done, _, final, rfl, success, run, wire.symm, closed, fun arrives => ?_⟩
      have starts : (List.map (fun t => t.label.chunk) ([] ++ [last])).flatten <+: wireBytes
          done := by
        change event.chunk <+: wireBytes done
        rw [← wire]
        exact List.take_prefix 5 _
      have memory : readStatic (getIostreamConf tightConf) plenty = none →
          ∀ t ∈ [] ++ [last], ∀ size, (t.label.heap size).isSome = true := by
        intro _ t member
        rw [List.nil_append] at member
        rw [List.mem_singleton.mp member]
        exact fun _ => rfl
      have connected := (arrives _ _ final run memory starts).2.1
      rw [closed] at connected
      cases connected

end LibAtbus.Node
