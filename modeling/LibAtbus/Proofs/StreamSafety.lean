/-
Module: LibAtbus.Proofs.StreamSafety
Layer: Proofs
Purpose: The decoder of a stream channel on bytes from anywhere. One read keeps the invariant that
  what has been received is the reported frames and an unfinished one, as long as the lengths it
  finds do not make the sums of the code wrap; a run is safe exactly if no read meets a length that
  does.
Trusted boundary: none
Main exports: Decoded, DecoderInv, FitsStep, SafeStep, DecoderInv.safe_iff, decoder_safe_iff,
  decoder_reads_beyond_head
-/
import LibAtbus.Foundation.Transitions
import LibAtbus.Proofs.StreamDecoder

namespace LibAtbus.Channel

open Detail Word64 ByteMemory Transitions

section

variable {conf : StreamConf} {limitSize : Nat} {static : Option Nat} {conn : StreamConnection}
  {event : ReadEvent}

/-! ### A read into the head buffer -/

/-- Nothing is delivered from a manager without a full block. -/
theorem Phase.deliverBlock {readBuffers : BufferManager} {head pending : List UInt8}
    (phase : Phase limitSize static readBuffers head pending) :
    deliverBlock conf readBuffers = .ok (readBuffers, []) := by
  cases phase with
  | waiting holds unfinished => simp only [Channel.deliverBlock, holds.front]
  | collecting holds collecting incomplete =>
      obtain ⟨_, _, size⟩ := collecting.size
      simp only [Channel.deliverBlock, holds.front, size]
      rw [if_pos (Nat.sub_ne_zero_of_lt incomplete)]

/-- Without a block the rest of the head buffer is offered. -/
theorem alloc_head (back : conn.readBuffers.back = none)
    (within : conn.readHead.len ≤ dataSmallSize) :
    (ioStreamOnRecvAllocFn conn).len = dataSmallSize - conn.readHead.len ∧
      (conn.readHead.len < dataSmallSize →
        ioStreamOnRecvAllocFn conn = .head conn.readHead.len
          (dataSmallSize - conn.readHead.len)) := by
  have room : sub dataSmallSize conn.readHead.len = dataSmallSize - conn.readHead.len :=
    sub_of_le (by decide) within
  simp only [ioStreamOnRecvAllocFn, back, room]
  constructor
  · split
    case isTrue full =>
      rw [full]
      rfl
    case isFalse => rfl
  · intro below
    rw [if_neg (by omega)]

variable (conf) in
/-- A read into the head buffer is the loop over it, followed by the close of a connection whose
    frame is refused. -/
theorem onRead_head (connected : conn.status = .connected) (back : conn.readBuffers.back = none)
    (within : conn.readHead.len ≤ dataSmallSize) (positive : 0 < event.chunk.length)
    (offered : event.chunk.length ≤ (ioStreamOnRecvAllocFn conn).len) :
    (∀ fault, headLoop conf event.heap conn.readBuffers (conn.head ++ event.chunk).length
        (conn.head ++ event.chunk) = .error fault → onRead conf conn event = .error fault) ∧
    ∀ loop, headLoop conf event.heap conn.readBuffers (conn.head ++ event.chunk).length
        (conn.head ++ event.chunk) = .ok loop →
      deliverBlock conf loop.readBuffers = .ok (loop.readBuffers, []) →
      ∃ after : StreamConnection, after.status = .connected ∧ after.readBuffers = loop.readBuffers ∧
        after.head = loop.left ∧ after.readHead.len = loop.left.length ∧
        onRead conf conn event = .ok (
          if loop.isFree then
            (after.disconnect, loop.made ++
              if 0 < loop.left.length then [⟨0, .invalidSize, loop.left⟩] else [])
          else (after, loop.made)) := by
  obtain ⟨length, alloc⟩ := alloc_head back within
  rw [length] at offered
  have fill : uvFill conn (ioStreamOnRecvAllocFn conn) event.chunk = .ok { conn with
      readHead := { conn.readHead with
        buffer := writeBytes conn.readHead.buffer conn.readHead.len event.chunk } } := by
    rw [alloc (by omega)]
    rfl
  have received : readBytes (writeBytes conn.readHead.buffer conn.readHead.len event.chunk) 0
      (conn.readHead.len + event.chunk.length) = conn.head ++ event.chunk := by
    have behind : readBytes (writeBytes conn.readHead.buffer (0 + conn.readHead.len) event.chunk) 0
        (conn.readHead.len + event.chunk.length) =
          readBytes conn.readHead.buffer 0 conn.readHead.len ++ event.chunk :=
      readBytes_writeBytes_behind
    rwa [Nat.zero_add] at behind
  have some : ¬((event.chunk.length : Int) = 0 ∨ (event.chunk.length : Int) ∈ uvRetry) := by
    simp only [uvRetry, List.mem_cons, List.not_mem_nil, or_false]
    omega
  have noError : ¬(event.chunk.length : Int) < 0 := by omega
  have room : sub dataSmallSize conn.readHead.len = dataSmallSize - conn.readHead.len :=
    sub_of_le (by decide) within
  have read : onRead conf conn event = ioStreamOnRecvReadFn conf event.heap { conn with
      readHead := { conn.readHead with
        buffer := writeBytes conn.readHead.buffer conn.readHead.len event.chunk } }
      event.chunk.length := by
    simp only [onRead, fill, bind, Except.bind]
  rw [read, ioStreamOnRecvReadFn]
  simp only [connected, ne_eq, not_true_eq_false, if_false, if_neg some, if_neg noError,
    StreamConnection.inHead, back, if_true, Int.toNat_natCast, room, if_pos offered,
    StreamConnection.head, received]
  constructor
  · intro fault run
    simp only [run, bind, Except.bind]
  · intro loop run kept
    simp only [run, kept, bind, Except.bind]
    have moved :
        readBytes (writeBytes (writeBytes conn.readHead.buffer conn.readHead.len event.chunk) 0
        loop.left) 0 loop.left.length = loop.left := readBytes_writeBytes
    refine ⟨{ conn with
      readHead :=
        { buffer := writeBytes (writeBytes conn.readHead.buffer conn.readHead.len event.chunk) 0
            loop.left
          len := loop.left.length }
      readBuffers := loop.readBuffers }, connected, rfl, moved, rfl, ?_⟩
    cases free : loop.isFree with
    | true =>
        simp only [if_true, List.append_nil, readBytes_writeBytes, connected]
        rfl
    | false =>
        simp only [Bool.false_eq_true, if_false, List.append_nil, connected]
        rfl

/-! ### A read into a block -/

/-- With a frame in progress the rest of its block is offered. -/
theorem alloc_block {crc vint part : List UInt8} {msgLen : Nat} {block : BufferBlock}
    (holds : Holds limitSize static (some block) conn.readBuffers)
    (collecting : Collecting crc vint part msgLen block) (incomplete : part.length < msgLen) :
    ioStreamOnRecvAllocFn conn = .block block.used (msgLen - part.length) := by
  obtain ⟨_, _, size⟩ := collecting.size
  simp only [ioStreamOnRecvAllocFn, holds.back, size]
  rw [if_pos (Nat.sub_ne_zero_of_lt incomplete)]

variable (conf) in
/-- The full block of a frame is handed out and freed. -/
theorem deliverBlock_full {crc vint part : List UInt8} {msgLen : Nat} {block : BufferBlock}
    {readBuffers : BufferManager} (holds : Holds limitSize static (some block) readBuffers)
    (collecting : Collecting crc vint part msgLen block) (complete : part.length = msgLen) :
    ∃ after, deliverBlock conf readBuffers = .ok (after, [recvedFrame conf crc part]) ∧
      Holds limitSize static none after := by
  obtain ⟨word, below, size⟩ := collecting.size
  obtain ⟨payload, checksum⟩ := collecting.read complete
  have rawSize := collecting.rawSize
  have used := collecting.used
  have full : block.size = 0 := by omega
  have total : sub block.rawSize 0 = 4 + msgLen := by
    rw [sub_of_le word (Nat.zero_le _), Nat.sub_zero, rawSize]
  have length : sub (4 + msgLen) 4 = msgLen := by
    rw [sub_of_le (by omega) (Nat.le_add_right _ _), Nat.add_sub_cancel_left]
  refine ⟨(readBuffers.popFront 0 true).2, ?_, holds.popFront (by omega) word⟩
  simp only [deliverBlock, holds.front, full, total, length, payload, checksum, ne_eq,
    not_true_eq_false, if_false]
  rfl

variable (conf) in
/-- A read into a block extends the frame in progress; a complete frame is reported. -/
theorem onRead_block {crc vint part : List UInt8} {msgLen : Nat} {block : BufferBlock}
    (connected : conn.status = .connected)
    (holds : Holds limitSize static (some block) conn.readBuffers)
    (collecting : Collecting crc vint part msgLen block) (incomplete : part.length < msgLen)
    (positive : 0 < event.chunk.length)
    (offered : event.chunk.length ≤ (ioStreamOnRecvAllocFn conn).len) :
    ∃ (after : StreamConnection) (made : List Recved), onRead conf conn event = .ok (after, made) ∧
      after.status = .connected ∧ after.readHead = conn.readHead ∧
      ((made = [] ∧ part.length + event.chunk.length < msgLen ∧
          Phase limitSize static after.readBuffers [] (crc ++ vint ++ (part ++ event.chunk))) ∨
        (made = [recvedFrame conf crc (part ++ event.chunk)] ∧
          part.length + event.chunk.length = msgLen ∧
          Holds limitSize static none after.readBuffers)) := by
  have alloc := alloc_block holds collecting incomplete
  obtain ⟨word, below, size⟩ := collecting.size
  have within : event.chunk.length ≤ msgLen - part.length := by rwa [alloc] at offered
  have rawSize := collecting.rawSize
  have used := collecting.used
  have room := collecting.room
  obtain ⟨filled, wrote, holds⟩ := holds.writeBack block.used event.chunk (by omega)
  let full : BufferBlock := { block with store := writeBytes block.store block.used event.chunk }
  have room' : full.used + event.chunk.length ≤ full.rawSize := by
    have : block.used + event.chunk.length ≤ block.rawSize := by omega
    exact this
  have counted := holds.popBack room' word
  have extended : Collecting crc vint (part ++ event.chunk) msgLen
      { full with used := full.used + event.chunk.length } := collecting.extend (by omega)
  have fullSize : full.size = msgLen - part.length := size
  have some : ¬((event.chunk.length : Int) = 0 ∨ (event.chunk.length : Int) ∈ uvRetry) := by
    simp only [uvRetry, List.mem_cons, List.not_mem_nil, or_false]
    omega
  have noError : ¬(event.chunk.length : Int) < 0 := by omega
  have open' : ¬(msgLen - part.length = 0) := by omega
  have fill : uvFill conn (ioStreamOnRecvAllocFn conn) event.chunk =
      .ok { conn with readBuffers := filled } := by
    rw [alloc, uvFill, wrote]
    rfl
  have back : filled.back = full := holds.back
  have read : onRead conf conn event =
      deliverBlock conf (filled.popBack event.chunk.length false).2 >>= fun answer =>
        pure ({ conn with readBuffers := answer.1 }, answer.2) := by
    simp only [onRead, fill, bind, Except.bind, ioStreamOnRecvReadFn, connected, ne_eq,
      not_true_eq_false, if_false, if_neg some, if_neg noError, StreamConnection.inHead, back,
      fullSize, decide_eq_true_eq, if_neg open', Int.toNat_natCast, if_pos within]
  rw [read]
  by_cases complete : (part ++ event.chunk).length = msgLen
  · obtain ⟨after, delivered, holds⟩ := deliverBlock_full conf counted extended complete
    rw [List.length_append] at complete
    refine ⟨{ conn with readBuffers := after }, _, ?_, connected, rfl, .inr ⟨rfl, complete, holds⟩⟩
    rw [delivered]
    rfl
  · rw [List.length_append] at complete
    have phase : Phase limitSize static (filled.popBack event.chunk.length false).2 []
        (crc ++ vint ++ (part ++ event.chunk)) := .collecting counted extended (by
      rw [List.length_append]
      omega)
    refine ⟨{ conn with readBuffers := (filled.popBack event.chunk.length false).2 }, [], ?_,
      connected, rfl, .inl ⟨rfl, by omega, phase⟩⟩
    rw [phase.deliverBlock]
    rfl

/-! ### A read on a closed connection -/

variable (conf) in
/-- A connection that is being closed ignores what is read. -/
theorem onRead_closed (closed : conn.status ≠ .connected)
    (holds : Holds limitSize static none conn.readBuffers) :
    ∃ after : StreamConnection, onRead conf conn event = .ok (after, []) ∧
      after.status = conn.status ∧ after.readBuffers = conn.readBuffers := by
  have fill : ∃ readHead, uvFill conn (ioStreamOnRecvAllocFn conn) event.chunk =
      .ok { conn with readHead := readHead } := by
    simp only [ioStreamOnRecvAllocFn, holds.back]
    split
    case isTrue => exact ⟨conn.readHead, rfl⟩
    case isFalse => exact ⟨_, rfl⟩
  obtain ⟨readHead, fill⟩ := fill
  refine ⟨{ conn with readHead := readHead }, ?_, rfl, rfl⟩
  simp only [onRead, fill, bind, Except.bind, ioStreamOnRecvReadFn]
  rw [if_pos closed]

/-! ### The invariant -/

/-- The connection is open, and what it has received is the frames it has reported and an unfinished
    one. -/
structure Decoded (conf : StreamConf) (limitSize : Nat) (static : Option Nat) (state : StreamState)
    (frames : List Frame) (pending : List UInt8) : Prop where
  connected : state.conn.status = .connected
  within : state.conn.readHead.len ≤ dataSmallSize
  received : state.received = (frames.map Frame.bytes).flatten ++ pending
  made : state.made = frames.map (Frame.report conf)
  phase : Phase limitSize static state.conn.readBuffers state.conn.head pending

/-- The connection is being closed, and there is no block. -/
structure Closed (limitSize : Nat) (static : Option Nat) (state : StreamState) : Prop where
  closed : state.conn.status ≠ .connected
  holds : Holds limitSize static none state.conn.readBuffers

/-- What a callback may say: its range is part of what has been received, and it reports success
    only for the payload of a received frame that has its checksum and keeps to the limit. -/
structure HandsOut (conf : StreamConf) (received : List UInt8) (event : Recved) : Prop where
  range : event.data <:+: received
  checked : event.status = .success → ∃ frame : Frame, frame.payload = event.data ∧
    frame.bytes <:+: received ∧ (crc32 0 event.data).toNat = fromLE frame.crc ∧
    (conf.recvBufferLimitSize ≠ 0 → event.data.length ≤ conf.recvBufferLimitSize)

/-- The invariant of a run without a fault. -/
structure DecoderInv (conf : StreamConf) (limitSize : Nat) (static : Option Nat)
    (state : StreamState) : Prop where
  noFault : state.fault = none
  connection : (∃ frames pending, Decoded conf limitSize static state frames pending) ∨
    Closed limitSize static state
  handsOut : ∀ event ∈ state.made, HandsOut conf state.received event

/-- A read meets no length that does not fit: none behind the complete frames in the head buffer,
    where the read goes to the head buffer of an open connection. -/
def FitsStep (t : Transition StreamState ReadEvent) : Prop :=
  t.pre.conn.status = .connected → t.pre.conn.inHead = true →
    ∀ rest, frameCode.Reaches (t.pre.conn.head ++ t.label.chunk) rest →
      HeaderFits t.label.heap t.pre.conn.readBuffers rest

/-- A read stays inside the memory it may touch, and every callback made so far hands out received
    bytes. -/
def SafeStep (conf : StreamConf) (t : Transition StreamState ReadEvent) : Prop :=
  t.post.fault = none ∧ ∀ event ∈ t.post.made, HandsOut conf t.post.received event

/-- What a callback says stays true when more is received. -/
theorem HandsOut.mono {received more : List UInt8} {event : Recved}
    (handsOut : HandsOut conf received event) : HandsOut conf (received ++ more) event := by
  have longer : received <:+: received ++ more := (List.prefix_append received more).isInfix
  refine ⟨handsOut.range.trans longer, ?_⟩
  intro success
  obtain ⟨frame, payload, inside, checked, limited⟩ := handsOut.checked success
  exact ⟨frame, payload, inside.trans longer, checked, limited⟩

/-- The callback for a received frame. -/
theorem Frame.report_handsOut {received : List UInt8} (frame : Frame)
    (inside : frame.bytes <:+: received) : HandsOut conf received (frame.report conf) := by
  have payload : frame.payload <:+: frame.bytes :=
    (List.suffix_append (frame.crc ++ frame.vint) frame.payload).isInfix
  refine ⟨payload.trans inside, ?_⟩
  intro success
  simp only [Frame.report, recvedFrame] at success
  split at success
  case isTrue => cases success
  case isFalse matching =>
    split at success
    case isTrue => cases success
    case isFalse limited =>
      refine ⟨frame, rfl, inside, not_not.mp matching, ?_⟩
      intro limit
      show frame.payload.length ≤ conf.recvBufferLimitSize
      omega

/-- The limit on the size of a fresh connection's blocks. -/
def readLimit (conf : StreamConf) (heap : Heap) : Nat :=
  (makeBuffers heap conf.recvBufferMaxSize conf.recvBufferStatic).limit.limitSize

/-- The size of its static buffer, if it has one. -/
def readStatic (conf : StreamConf) (heap : Heap) : Option Nat :=
  (makeBuffers heap conf.recvBufferMaxSize conf.recvBufferStatic).staticBuffer.map StaticBuffer.size

/-- A fresh connection. -/
theorem start_inv (conf : StreamConf) (heap : Heap) (contents : Memory) :
    Decoded conf (readLimit conf heap) (readStatic conf heap) (.start conf heap contents) [] [] ∧
      DecoderInv conf (readLimit conf heap) (readStatic conf heap) (.start conf heap contents) := by
  obtain ⟨holds, _⟩ := makeBuffers_holds heap conf.recvBufferMaxSize conf.recvBufferStatic
  have decoded : Decoded conf (readLimit conf heap) (readStatic conf heap)
      (.start conf heap contents) [] [] := ⟨rfl, Nat.zero_le _, rfl, rfl, .waiting holds rfl⟩
  exact ⟨decoded, rfl, .inl ⟨_, _, decoded⟩, fun event member => nomatch member⟩

/-! ### One read -/

/-- A read that closes the connection: it has met a frame that is refused, and reports what is left
    of it behind the callbacks for the complete frames. -/
structure Refused (conf : StreamConf) (limitSize : Nat) (static : Option Nat)
    (t : Transition StreamState ReadEvent) : Prop where
  closed : Closed limitSize static t.post
  header : t.pre.conn.inHead = true ∧ ∃ rest vintLen msgLen,
    frameCode.Reaches (t.pre.conn.head ++ t.label.chunk) rest ∧
    frameHeader rest = some (vintLen, msgLen) ∧ ¬Accepts limitSize static t.label.heap (4 + msgLen)
  reported : ∃ (frames : List Frame) (pending left : List UInt8),
    t.post.received = (frames.map Frame.bytes).flatten ++ pending ∧ left <:+ pending ∧
    t.post.made = frames.map (Frame.report conf) ++
      if 0 < left.length then [⟨0, .invalidSize, left⟩] else []

variable {pre post : StreamState} {frames : List Frame} {pending : List UInt8}

/-- A read goes to the head buffer while the length of the frame is not there yet. -/
theorem Decoded.inHead (decoded : Decoded conf limitSize static pre frames pending)
    (inHead : pre.conn.inHead = true) :
    pre.conn.head = pending ∧ Holds limitSize static none pre.conn.readBuffers := by
  have phase := decoded.phase
  generalize pre.conn.head = head at phase
  cases phase with
  | waiting holds unfinished => exact ⟨rfl, holds⟩
  | collecting holds collecting incomplete =>
      obtain ⟨_, _, size⟩ := collecting.size
      simp only [StreamConnection.inHead, holds.back, size, decide_eq_true_eq] at inHead
      omega

theorem recv_ok {after : StreamConnection} {made : List Recved}
    (run : onRead conf pre.conn event = .ok (after, made)) :
    pre.recv conf event =
      { conn := after, received := pre.received ++ event.chunk, made := pre.made ++ made
        fault := none } := by
  rw [StreamState.recv, run]

theorem recv_error {fault : Fault} (run : onRead conf pre.conn event = .error fault) :
    (pre.recv conf event).fault = some fault := by
  rw [StreamState.recv, run]

/-- The head buffer holds no more than the unfinished frame. -/
theorem Phase.head_le {readBuffers : BufferManager} {head : List UInt8}
    (phase : Phase limitSize static readBuffers head pending) : head.length ≤ pending.length := by
  cases phase with
  | waiting => exact Nat.le_refl _
  | collecting => exact Nat.zero_le _

/-- A read into the block of the unfinished frame. -/
theorem Decoded.step_block {crc vint part : List UInt8} {msgLen : Nat} {block : BufferBlock}
    (decoded : Decoded conf limitSize static pre frames (crc ++ vint ++ part))
    (atHead : pre.conn.head = []) (holds : Holds limitSize static (some block) pre.conn.readBuffers)
    (collecting : Collecting crc vint part msgLen block) (incomplete : part.length < msgLen)
    (positive : 0 < event.chunk.length)
    (offered : event.chunk.length ≤ (ioStreamOnRecvAllocFn pre.conn).len) :
    (pre.recv conf event).fault = none ∧
      (pre.recv conf event).received = pre.received ++ event.chunk ∧
      ∃ new pending,
        Decoded conf limitSize static (pre.recv conf event) (frames ++ new) pending := by
  obtain ⟨connected, within, received, made, -⟩ := decoded
  obtain ⟨after, new, run, connected', readHead, outcome⟩ :=
    onRead_block conf connected holds collecting incomplete positive offered
  have atHead' : after.head = [] := by
    rw [StreamConnection.head, readHead]
    exact atHead
  have within' : after.readHead.len ≤ dataSmallSize := by
    rw [readHead]
    exact within
  rw [recv_ok run]
  refine ⟨rfl, rfl, ?_⟩
  rcases outcome with ⟨rfl, more, phase⟩ | ⟨rfl, complete, holds⟩
  · refine ⟨[], crc ++ vint ++ (part ++ event.chunk), connected', within', ?_, ?_, ?_⟩
    · rw [received, List.append_nil frames]
      simp only [List.append_assoc]
    · rw [made, List.append_nil, List.append_nil]
    · rw [atHead']
      exact phase
  · have length : (part ++ event.chunk).length = msgLen := by rwa [List.length_append]
    let frame : Frame :=
      { crc := crc, vint := vint, payload := part ++ event.chunk, crcLength := collecting.crcLength
        announces := by rw [length, collecting.announces], announced := collecting.announced }
    refine ⟨[frame], [], connected', within', ?_, ?_, ?_⟩
    · rw [received, List.map_append, List.flatten_append]
      simp [frame, Frame.bytes]
    · rw [made, List.map_append]
      rfl
    · rw [atHead']
      exact .waiting holds rfl

/-- A read that meets no length that does not fit. -/
theorem Decoded.step (decoded : Decoded conf limitSize static pre frames pending)
    (taken : recvStep conf pre event post) (fits : FitsStep ⟨pre, event, post⟩) :
    post.fault = none ∧ post.received = pre.received ++ event.chunk ∧
      ((∃ new pending, Decoded conf limitSize static post (frames ++ new) pending) ∨
        Refused conf limitSize static ⟨pre, event, post⟩) := by
  obtain ⟨_, positive, offered, rfl⟩ := taken
  have whole := decoded
  obtain ⟨connected, within, received, made, phase⟩ := decoded
  generalize atHead : pre.conn.head = head at phase
  cases phase with
  | waiting holds unfinished =>
      subst atHead
      have inHead : pre.conn.inHead = true := by simp [StreamConnection.inHead, holds.back]
      have length : pre.conn.head.length = pre.conn.readHead.len := readBytes_length
      have small : (pre.conn.head ++ event.chunk).length ≤ dataSmallSize := by
        rw [(alloc_head holds.back within).1] at offered
        rw [List.length_append]
        omega
      obtain ⟨loop, new, pending, run, split, reported, ends⟩ :=
        headLoop_fits conf holds (Nat.le_refl _) small (fits connected inHead)
      have total : pre.received ++ event.chunk =
          ((frames ++ new).map Frame.bytes).flatten ++ pending := by
        rw [received, List.append_assoc, split, List.map_append, List.flatten_append,
          List.append_assoc]
      have all : pre.made ++ loop.made = (frames ++ new).map (Frame.report conf) := by
        rw [made, reported, List.map_append]
      cases ends with
      | going goesOn phase =>
          obtain ⟨after, connected', readBuffers, head, len, read⟩ :=
            (onRead_head conf connected holds.back within positive offered).2 loop run
              phase.deliverBlock
          rw [goesOn] at read
          rw [recv_ok read]
          have within' : after.readHead.len ≤ dataSmallSize := by
            have shorter := phase.head_le
            have part : (pre.conn.head ++ event.chunk).length =
                (new.map Frame.bytes).flatten.length + pending.length := by
              rw [split, List.length_append]
            omega
          refine ⟨rfl, rfl, .inl ⟨new, pending, connected', within', total, all, ?_⟩⟩
          rw [readBuffers, head]
          exact phase
      | @refused vintLen msgLen stops header refused left kept =>
          obtain ⟨after, connected', readBuffers, head, len, read⟩ :=
            (onRead_head conf connected holds.back within positive offered).2 loop run
              (by simp only [deliverBlock, kept.front])
          rw [stops] at read
          rw [recv_ok read]
          refine ⟨rfl, rfl, .inr ⟨⟨?_, ?_⟩, ⟨inHead, pending, vintLen, msgLen, ?_, header, refused⟩,
            frames ++ new, pending, loop.left, total, left, ?_⟩⟩
          · simp [StreamConnection.disconnect, connected']
          · simp only [StreamConnection.disconnect, connected', if_true, readBuffers]
            exact kept
          · rw [split]
            exact FrameCode.reaches_flatten Frame.areFrames
          · rw [← all, List.append_assoc]
  | collecting holds collecting incomplete =>
      obtain ⟨fault, received, onward⟩ :=
        whole.step_block atHead holds collecting incomplete positive offered
      exact ⟨fault, received, .inl onward⟩

/-- A read that meets a length that does not fit leaves the bytes it may touch. -/
theorem Decoded.step_faults (decoded : Decoded conf limitSize static pre frames pending)
    (taken : recvStep conf pre event post) (unfit : ¬FitsStep ⟨pre, event, post⟩) :
    post.fault ≠ none := by
  obtain ⟨_, positive, offered, rfl⟩ := taken
  simp only [FitsStep, not_forall] at unfit
  obtain ⟨connected, inHead, rest, reaches, unfit⟩ := unfit
  obtain ⟨_, holds⟩ := decoded.inHead inHead
  have within := decoded.within
  have length : pre.conn.head.length = pre.conn.readHead.len := readBytes_length
  have small : (pre.conn.head ++ event.chunk).length ≤ dataSmallSize := by
    rw [(alloc_head holds.back within).1] at offered
    rw [List.length_append]
    omega
  obtain ⟨fault, run⟩ := headLoop_faults conf holds (Nat.le_refl _) small reaches unfit
  have read := (onRead_head conf connected holds.back within positive offered).1 fault run
  rw [recv_error read]
  exact Option.some_ne_none fault

/-- Every callback of an open connection hands out a received frame. -/
theorem Decoded.handsOut (decoded : Decoded conf limitSize static post frames pending) :
    ∀ event ∈ post.made, HandsOut conf post.received event := by
  intro event member
  rw [decoded.made] at member
  obtain ⟨frame, among, rfl⟩ := List.mem_map.mp member
  have inside : frame.bytes <:+: (frames.map Frame.bytes).flatten ++ pending := by
    have one : frame.bytes <:+: (frames.map Frame.bytes).flatten :=
      List.infix_of_mem_flatten (List.mem_map_of_mem among)
    exact one.trans (List.prefix_append _ _).isInfix
  rw [decoded.received]
  exact frame.report_handsOut inside

/-- So does every callback of a read that closes the connection, but for what is left of the refused
    frame. -/
theorem Refused.handsOut {t : Transition StreamState ReadEvent}
    (refused : Refused conf limitSize static t) :
    ∀ event ∈ t.post.made, HandsOut conf t.post.received event := by
  obtain ⟨frames, pending, left, received, behind, made⟩ := refused.reported
  intro event member
  rw [made] at member
  rw [received]
  rcases List.mem_append.mp member with complete | rest
  · obtain ⟨frame, among, rfl⟩ := List.mem_map.mp complete
    have one : frame.bytes <:+: (frames.map Frame.bytes).flatten :=
      List.infix_of_mem_flatten (List.mem_map_of_mem among)
    exact frame.report_handsOut (one.trans (List.prefix_append _ _).isInfix)
  · split at rest
    case isTrue =>
      rw [List.mem_singleton.mp rest]
      refine ⟨behind.isInfix.trans (List.suffix_append _ _).isInfix, ?_⟩
      intro success
      cases success
    case isFalse => cases rest

/-- One read keeps the invariant if it meets no length that does not fit. -/
theorem DecoderInv.step (inv : DecoderInv conf limitSize static pre)
    (taken : recvStep conf pre event post) (fits : FitsStep ⟨pre, event, post⟩) :
    DecoderInv conf limitSize static post := by
  rcases inv.connection with ⟨frames, pending, decoded⟩ | closed
  · obtain ⟨noFault, _, going | refused⟩ := decoded.step taken fits
    · obtain ⟨new, pending', decoded'⟩ := going
      exact ⟨noFault, .inl ⟨_, _, decoded'⟩, decoded'.handsOut⟩
    · exact ⟨noFault, .inr refused.closed, refused.handsOut⟩
  · obtain ⟨_, _, _, rfl⟩ := taken
    obtain ⟨after, run, status, readBuffers⟩ := onRead_closed conf closed.closed closed.holds
    rw [recv_ok run]
    refine ⟨rfl, .inr ⟨?_, ?_⟩, ?_⟩
    · exact status ▸ closed.closed
    · exact readBuffers ▸ closed.holds
    · intro event member
      rw [List.append_nil] at member
      exact (inv.handsOut event member).mono

/-- A read from an invariant state is safe exactly if it meets no length that does not fit. -/
theorem DecoderInv.safe_iff (inv : DecoderInv conf limitSize static pre)
    (taken : recvStep conf pre event post) :
    SafeStep conf ⟨pre, event, post⟩ ↔ FitsStep ⟨pre, event, post⟩ := by
  constructor
  · intro safe
    by_contra unfit
    rcases inv.connection with ⟨frames, pending, decoded⟩ | closed
    · exact decoded.step_faults taken unfit safe.1
    · exact unfit fun connected => absurd connected closed.closed
  · intro fits
    have kept := inv.step taken fits
    exact ⟨kept.noFault, kept.handsOut⟩

end

/-! ### Runs -/

/-- In every run from a fresh connection, whatever bytes are read in whatever pieces: every read
    stays inside the memory it may touch and hands out only received bytes, as success only frames
    with their checksum and within the limit, if and only if no read meets an announced length that
    makes the sums of the code wrap. -/
theorem decoder_safe_iff {conf : StreamConf} {heap : Heap} {contents : Memory} {final : StreamState}
    {made : List (Transition StreamState ReadEvent)}
    (run : Run (recvStep conf) (.start conf heap contents) made final) :
    (∀ t ∈ made, SafeStep conf t) ↔ ∀ t ∈ made, FitsStep t := by
  obtain ⟨_, initial⟩ := start_inv conf heap contents
  have kept : ∀ t : Transition StreamState ReadEvent,
      DecoderInv conf (readLimit conf heap) (readStatic conf heap) t.pre →
      recvStep conf t.pre t.label t.post → FitsStep t →
      DecoderInv conf (readLimit conf heap) (readStatic conf heap) t.post :=
    fun t inv taken fits => inv.step taken fits
  have safe_iff : ∀ t : Transition StreamState ReadEvent,
      DecoderInv conf (readLimit conf heap) (readStatic conf heap) t.pre →
      recvStep conf t.pre t.label t.post → (SafeStep conf t ↔ FitsStep t) :=
    fun t inv taken => inv.safe_iff taken
  exact run.forall_iff initial kept safe_iff

/-- A frame of three bytes, read at once. -/
theorem decoder_safe_iff_one_frame :
    ∃ made final, Run (recvStep ioStreamInitConfigure)
        (.start ioStreamInitConfigure (fun _ => some fun _ => 0) fun _ => 0) made final ∧
      final.made = [⟨0, .success, [1, 2, 3]⟩] ∧ ∀ t ∈ made, SafeStep ioStreamInitConfigure t := by
  let heap : Heap := fun _ => some fun _ => 0
  let frame : Frame := ⟨[0x0f, 0x59, 0xfd, 0xaa], [3], [1, 2, 3], rfl, by decide, by decide⟩
  let start : StreamState := .start ioStreamInitConfigure heap fun _ => 0
  have step : recvStep ioStreamInitConfigure start ⟨frame.bytes, heap⟩
      (start.recv ioStreamInitConfigure ⟨frame.bytes, heap⟩) :=
    ⟨rfl, by decide, by decide +kernel, rfl⟩
  have run := Run.refl.tail step
  refine ⟨_, _, run, by decide +kernel, (decoder_safe_iff run).mpr ?_⟩
  intro t member connected inHead rest reaches
  rw [List.nil_append] at member
  rw [List.mem_singleton.mp member] at reaches
  have starts : frame.bytes <+: ([frame].map Frame.bytes).flatten := ⟨[], by decide⟩
  refine headerFits_of_frames starts reaches ?_
  intro other among
  rw [List.mem_singleton.mp among]
  decide

/-- A single read with a fault. -/
theorem unsafe_of_one_read {conf : StreamConf} {heap : Heap} {contents : Memory} {event : ReadEvent}
    {fault : Fault} (positive : 0 < event.chunk.length)
    (offered : event.chunk.length ≤
      (ioStreamOnRecvAllocFn (makeStreamConnection conf heap contents)).len)
    (faults : ((StreamState.start conf heap contents).recv conf event).fault = some fault) :
    ∃ made final, Run (recvStep conf) (.start conf heap contents) made final ∧
      final.fault = some fault ∧ ¬∀ t ∈ made, SafeStep conf t := by
  have step : recvStep conf (.start conf heap contents) event
      ((StreamState.start conf heap contents).recv conf event) := ⟨rfl, positive, offered, rfl⟩
  refine ⟨_, _, Run.refl.tail step, faults, ?_⟩
  intro safe
  have none := (safe ⟨.start conf heap contents, event, _⟩
    (List.mem_append_right _ (List.mem_singleton.mpr rfl))).1
  rw [faults] at none
  cases none

/-- A peer announces a payload of `2 ^ 64 - 1` bytes: the sum of the sizes wraps, the frame seems
    complete, and its checksum is computed over bytes beyond the head buffer. Where the memory for
    received frames is not limited, a payload of `2 ^ 64 - 16` bytes gets a block without room for
    its checksum field. -/
theorem decoder_reads_beyond_head :
    (∃ made final, Run (recvStep ioStreamInitConfigure)
        (.start ioStreamInitConfigure (fun _ => some fun _ => 0) fun _ => 0) made final ∧
      final.fault = some .headRead ∧ ¬∀ t ∈ made, SafeStep ioStreamInitConfigure t) ∧
    ∃ made final, Run (recvStep { ioStreamInitConfigure with recvBufferMaxSize := 0 })
        (.start { ioStreamInitConfigure with recvBufferMaxSize := 0 } (fun _ => some fun _ => 0)
          fun _ => 0) made final ∧
      final.fault = some .blockWrite ∧
      ¬∀ t ∈ made, SafeStep { ioStreamInitConfigure with recvBufferMaxSize := 0 } t := by
  let heap : Heap := fun _ => some fun _ => 0
  let wraps : ReadEvent :=
    ⟨[0, 0, 0, 0, 0x81, 0xff, 0xff, 0xff, 0xff, 0xff, 0xff, 0xff, 0xff, 0x7f], heap⟩
  let overflows : ReadEvent :=
    ⟨[0, 0, 0, 0, 0x81, 0xff, 0xff, 0xff, 0xff, 0xff, 0xff, 0xff, 0xff, 0x70], heap⟩
  constructor
  · exact unsafe_of_one_read (show 0 < wraps.chunk.length by decide) (by decide +kernel)
      (by decide +kernel)
  · exact unsafe_of_one_read (show 0 < overflows.chunk.length by decide) (by decide +kernel)
      (by decide +kernel)

end LibAtbus.Channel
