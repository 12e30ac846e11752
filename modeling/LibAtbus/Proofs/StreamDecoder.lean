/-
Module: LibAtbus.Proofs.StreamDecoder
Layer: Proofs
Purpose: The decoder of a stream channel, for any bytes. What a connection has received is a
  sequence of frames, one callback for each, and the bytes of a frame it is still waiting for, which
  lie in the head buffer or, without the encoded length, in a block. Each round of the loop over the
  head buffer has one lemma, and each read one that follows from them.
Trusted boundary: none
Main exports: HeaderFits, Collecting, Phase, headLoop_fits, headLoop_faults
-/
import LibAtbus.Channel.StreamFrame
import LibAtbus.Proofs.ReadBuffers

namespace LibAtbus.Channel

open Detail Word64 ByteMemory

/-! ### Sizes -/

/-- A block of up to this size has room for its bytes. -/
theorem fullSize_room {s : Nat} (small : s ≤ 2 ^ 64 - 32) : s ≤ fullSize s - headSize := by
  have head : headSize = 24 := by decide
  have padded : s ≤ paddingSize s ∧ paddingSize s ≤ 2 ^ 64 - 32 := by
    unfold paddingSize sub wrap
    split <;> omega
  rw [fullSize, wrap_of_lt (by omega)]
  omega

/-- The full size of a larger block wraps, and leaves no room behind the header. -/
theorem fullSize_wraps {s : Nat} (large : 2 ^ 64 - 32 < s) (word : s < 2 ^ 64) :
    fullSize s - headSize = 0 := by
  have head : headSize = 24 := by decide
  unfold fullSize
  rw [head]
  unfold paddingSize sub wrap
  split <;> omega

/-! ### A frame in progress -/

/-- A block collects a frame: it holds the checksum field and the first part of the payload, and is
    as large as both will be; the encoded length is not kept. -/
structure Collecting (crc vint part : List UInt8) (msgLen : Nat) (block : BufferBlock) : Prop where
  crcLength : crc.length = 4
  announces : readVint vint = (vint.length, msgLen)
  announced : vint.length ≠ 0
  rawSize : block.rawSize = 4 + msgLen
  used : block.used = 4 + part.length
  within : part.length ≤ msgLen
  room : block.rawSize ≤ block.room
  contents : readBytes block.store 0 block.used = crc ++ part

namespace Collecting

variable {crc vint part : List UInt8} {msgLen : Nat} {block : BufferBlock}

/-- The bytes of the frame that are still to come. -/
theorem size (collecting : Collecting crc vint part msgLen block) :
    block.rawSize < 2 ^ 64 ∧ block.used ≤ block.rawSize ∧ block.size = msgLen - part.length := by
  obtain ⟨_, _, _, rawSize, used, within, room, _⟩ := collecting
  have fits := block.fits
  have word : block.rawSize < 2 ^ 64 := by omega
  have below : block.used ≤ block.rawSize := by omega
  refine ⟨word, below, ?_⟩
  rw [size_within below word]
  omega

/-- More bytes of the frame, written behind the ones there are. -/
theorem extend (collecting : Collecting crc vint part msgLen block) {more : List UInt8}
    (within : part.length + more.length ≤ msgLen) :
    Collecting crc vint (part ++ more) msgLen
      { block with
        used := block.used + more.length
        store := writeBytes block.store block.used more } := by
  obtain ⟨crcLength, announces, announced, rawSize, used, _, room, contents⟩ := collecting
  have behind : readBytes (writeBytes block.store (0 + block.used) more) 0
      (block.used + more.length) =
      readBytes block.store 0 block.used ++ more := readBytes_writeBytes_behind
  rw [Nat.zero_add, contents, List.append_assoc] at behind
  refine ⟨crcLength, announces, announced, rawSize, ?_, ?_, room, behind⟩
  · rw [List.length_append, used, Nat.add_assoc]
  · rwa [List.length_append]

/-- What is read from the block of a complete frame: its payload and its checksum field. -/
theorem read (collecting : Collecting crc vint part msgLen block)
    (complete : part.length = msgLen) :
    block.read 4 msgLen = .ok part ∧ block.read 0 4 = .ok crc := by
  obtain ⟨crcLength, _, _, rawSize, used, _, room, contents⟩ := collecting
  have split : readBytes block.store 0 4 ++ readBytes block.store (0 + 4) part.length =
      crc ++ part := by
    rw [readBytes_append, ← used, contents]
  obtain ⟨crcBytes, partBytes⟩ := List.append_inj split (by rw [readBytes_length, crcLength])
  rw [Nat.zero_add, complete] at partBytes
  constructor
  · rw [BufferBlock.read, if_pos (by omega), partBytes]
  · rw [BufferBlock.read, if_pos (by omega), crcBytes]

end Collecting

/-- Where the bytes of an unfinished frame lie: in the head buffer until its length can be read,
    then in a block while the head buffer is empty. -/
inductive Phase (limitSize : Nat) (static : Option Nat) (readBuffers : BufferManager) :
    List UInt8 → List UInt8 → Prop where
  | waiting {pending : List UInt8} (holds : Holds limitSize static none readBuffers)
      (unfinished : frameHeader pending = none) : Phase limitSize static readBuffers pending pending
  | collecting {crc vint part : List UInt8} {msgLen : Nat} {block : BufferBlock}
      (holds : Holds limitSize static (some block) readBuffers)
      (collecting : Collecting crc vint part msgLen block) (incomplete : part.length < msgLen) :
      Phase limitSize static readBuffers [] (crc ++ vint ++ part)

/-- How the loop over the head buffer ends: with an unfinished frame, or with one that is
    refused. -/
inductive LoopEnd (limitSize : Nat) (static : Option Nat) (heap : Heap) (loop : HeadLoop)
    (pending : List UInt8) : Prop where
  | going (goesOn : loop.isFree = false)
      (phase : Phase limitSize static loop.readBuffers loop.left pending)
  | refused {vintLen msgLen : Nat} (stops : loop.isFree = true)
      (header : frameHeader pending = some (vintLen, msgLen))
      (refused : ¬Accepts limitSize static heap (4 + msgLen)) (left : loop.left <:+ pending)
      (holds : Holds limitSize static none loop.readBuffers)

/-- The sums made with the length a stream announces are exact, or there is no block for the frame:
    what a decoder must require of a header to be safe. -/
def HeaderFits (heap : Heap) (readBuffers : BufferManager) (stream : List UInt8) : Prop :=
  ∀ vintLen msgLen, frameHeader stream = some (vintLen, msgLen) → 4 + vintLen + msgLen < 2 ^ 64 ∧
    (4 + msgLen ≤ 2 ^ 64 - 32 ∨ (readBuffers.pushBack heap (4 + msgLen)).1 ≠ .success)

/-- The headers of real frames fit, wherever the stream is cut. -/
theorem headerFits_of_frames {heap : Heap} {readBuffers : BufferManager} {frames : List Frame}
    {stream rest : List UInt8} (starts : stream <+: (frames.map Frame.bytes).flatten)
    (reaches : frameCode.Reaches stream rest)
    (small : ∀ frame ∈ frames, frame.bytes.length ≤ 2 ^ 64 - 32) :
    HeaderFits heap readBuffers rest := by
  intro vintLen msgLen header
  obtain ⟨earlier, later, rfl, behind⟩ := reaches_of_frames starts reaches
  obtain ⟨frame, later, rfl, rfl, rfl⟩ := header_of_frames behind header
  have bound := small frame (by simp)
  rw [Frame.bytes_length] at bound
  exact ⟨by omega, .inl (by omega)⟩

section

variable {conf : StreamConf} {heap : Heap} {limitSize : Nat} {static : Option Nat}
  {readBuffers : BufferManager} {rounds vintLen msgLen : Nat} {left : List UInt8}

/-! ### One round -/

/-- Without a header at its start, the loop ends. -/
theorem headLoop_waiting (unfinished : frameHeader left = none) :
    headLoop conf heap readBuffers rounds left = .ok ⟨left, readBuffers, false, []⟩ := by
  cases rounds with
  | zero => rfl
  | succ rounds =>
      rw [headLoop]
      by_cases long : 4 < left.length
      · have none : (readVint (left.drop 4)).1 = 0 := by
          rw [frameHeader] at unfinished
          by_contra some
          rw [if_pos ⟨long, some⟩] at unfinished
          cases unfinished
        rw [if_pos long]
        simp only [none, if_true]
      · rw [if_neg long]

/-- A length whose sum with the sizes before it wraps seems to fit, and the checksum is then read
    beyond the received bytes. -/
theorem headLoop_wraps (header : frameHeader left = some (vintLen, msgLen)) (positive : 0 < rounds)
    (small : left.length < 2 ^ 64) (wraps : 2 ^ 64 ≤ 4 + vintLen + msgLen) :
    headLoop conf heap readBuffers rounds left = .error .headRead := by
  obtain ⟨long, read, nonzero, enough, word⟩ := frameHeader_spec header
  obtain ⟨rounds, rfl⟩ := Nat.exists_eq_add_one.mpr positive
  have seems : wrap (4 + vintLen + msgLen) ≤ left.length := by
    unfold wrap
    omega
  have beyond : ¬4 + vintLen + msgLen ≤ left.length := by omega
  rw [headLoop, if_pos long]
  simp only [read, if_neg nonzero, if_pos seems, headRange, if_neg beyond]
  rfl

/-- A complete frame is reported, and the loop goes on behind it. -/
theorem headLoop_frame {rest : List UInt8} (frame : Frame)
    (small : (frame.bytes ++ rest).length < 2 ^ 64) :
    headLoop conf heap readBuffers (rounds + 1) (frame.bytes ++ rest) =
      (headLoop conf heap readBuffers rounds rest).map fun loop =>
        { loop with made := frame.report conf :: loop.made } := by
  have header : frameHeader (frame.bytes ++ rest) = some (frame.vint.length,
      frame.payload.length) :=
    frameHeader_append rest frame.header
  obtain ⟨long, read, nonzero, _, _⟩ := frameHeader_spec header
  have size : 4 + frame.vint.length + frame.payload.length = frame.bytes.length := by simp
  have exact' : wrap (4 + frame.vint.length + frame.payload.length) = frame.bytes.length := by
    rw [List.length_append] at small
    rw [size, wrap_of_lt (by omega)]
  have within : frame.bytes.length ≤ (frame.bytes ++ rest).length := by simp
  have payload : headRange (frame.bytes ++ rest) (4 + frame.vint.length) frame.payload.length =
      .ok frame.payload := by
    have start : 4 + frame.vint.length = (frame.crc ++ frame.vint).length := by
      simp [frame.crcLength]
    rw [headRange, if_pos (by omega), start, Frame.bytes, List.append_assoc, List.drop_left,
      List.take_left]
  have crc : headRange (frame.bytes ++ rest) 0 4 = .ok frame.crc := by
    rw [headRange, if_pos (by omega), List.drop_zero, Frame.bytes, List.append_assoc,
      List.append_assoc, ← frame.crcLength, List.take_left]
  rw [headLoop, if_pos long]
  simp only [read, if_neg nonzero, exact', if_pos within, payload, crc, List.drop_left]
  rfl

/-- An incomplete frame that is accepted moves to a block. -/
theorem headLoop_block (holds : Holds limitSize static none readBuffers) (positive : 0 < rounds)
    (header : frameHeader left = some (vintLen, msgLen)) (exact' : 4 + vintLen + msgLen < 2 ^ 64)
    (incomplete : left.length < 4 + vintLen + msgLen) (roomy : 4 + msgLen ≤ 2 ^ 64 - 32)
    (accepted : Accepts limitSize static heap (4 + msgLen)) :
    ∃ after, headLoop conf heap readBuffers rounds left = .ok ⟨[], after, false, []⟩ ∧
      Phase limitSize static after [] left := by
  obtain ⟨long, read, nonzero, _, _⟩ := frameHeader_spec header
  obtain ⟨crc, vint, part, rfl, crcLength, rfl, announces, announced⟩ := header_parts header
  obtain ⟨rounds, rfl⟩ := Nat.exists_eq_add_one.mpr positive
  obtain ⟨pushed, block, push, fresh, holds⟩ := holds.pushBack_accepted accepted
  have room : 4 + msgLen ≤ block.room := by
    rw [fresh.room]
    exact fullSize_room roomy
  simp only [List.length_append, crcLength] at incomplete
  obtain ⟨withCrc, wroteCrc, holds⟩ := holds.writeBack 0 crc (by omega)
  obtain ⟨withPart, wrotePart, holds⟩ := holds.writeBack 4 part (Nat.le_trans (by omega) room)
  have length : (crc ++ vint ++ part).length - vint.length = 4 + part.length := by
    simp only [List.length_append, crcLength]
    omega
  have counted := holds.popBack (s := 4 + part.length)
    (by
      rw [fresh.used, fresh.rawSize]
      omega)
    (by
      rw [fresh.rawSize]
      omega)
  have partial' : ¬wrap (4 + vint.length + msgLen) ≤ (crc ++ vint ++ part).length := by
    rw [wrap_of_lt exact']
    simp only [List.length_append, crcLength]
    omega
  have wrapped : wrap (4 + msgLen) = 4 + msgLen := wrap_of_lt (by omega)
  have crcBytes : (crc ++ vint ++ part).take 4 = crc := by
    rw [List.append_assoc, ← crcLength, List.take_left]
  have partBytes : (crc ++ vint ++ part).drop (4 + vint.length) = part := by
    rw [← crcLength, ← List.length_append, List.drop_left]
  rw [headLoop, if_pos long]
  simp only [read, if_neg nonzero, if_neg partial', wrapped, push, crcBytes, partBytes, length]
  have stored : readBytes (writeBytes (writeBytes block.store 0 crc) 4 part) 0 (4 + part.length) =
      crc ++ part := by
    have behind : readBytes (writeBytes (writeBytes block.store 0 crc) (0 + crc.length) part) 0
        (crc.length + part.length) = readBytes (writeBytes block.store 0 crc) 0 crc.length ++
        part :=
      readBytes_writeBytes_behind
    rwa [readBytes_writeBytes, Nat.zero_add, crcLength] at behind
  have collects : Collecting crc vint part msgLen
      { block with
        used := block.used + (4 + part.length)
        store := writeBytes (writeBytes block.store 0 crc) 4 part } :=
    { crcLength := crcLength
      announces := announces
      announced := announced
      rawSize := fresh.rawSize
      used := by rw [fresh.used, Nat.zero_add]
      within := by omega
      room := fresh.rawSize ▸ room
      contents := by
        rw [fresh.used, Nat.zero_add]
        exact stored }
  refine ⟨(withPart.popBack (4 + part.length) false).2, ?_, .collecting counted collects (by omega)⟩
  simp only [wroteCrc, wrotePart, bind, Except.bind]
  rfl

/-- An incomplete frame that is refused loses its checksum and its length. -/
theorem headLoop_refused (holds : Holds limitSize static none readBuffers) (positive : 0 < rounds)
    (header : frameHeader left = some (vintLen, msgLen)) (exact' : 4 + vintLen + msgLen < 2 ^ 64)
    (incomplete : left.length < 4 + vintLen + msgLen)
    (refused : ¬Accepts limitSize static heap (4 + msgLen)) :
    ∃ after, headLoop conf heap readBuffers rounds left = .ok ⟨left.drop (4 + vintLen), after, true,
      []⟩ ∧
      Holds limitSize static none after := by
  obtain ⟨long, read, nonzero, _, _⟩ := frameHeader_spec header
  obtain ⟨rounds, rfl⟩ := Nat.exists_eq_add_one.mpr positive
  obtain ⟨res, after, push, failed, holds⟩ := holds.pushBack_refused refused
  have partial' : ¬wrap (4 + vintLen + msgLen) ≤ left.length := by
    rw [wrap_of_lt exact']
    omega
  have wrapped : wrap (4 + msgLen) = 4 + msgLen := wrap_of_lt (by omega)
  rw [headLoop, if_pos long]
  simp only [read, if_neg nonzero, if_neg partial', wrapped, push]
  cases res
  case success => exact absurd rfl failed
  all_goals exact ⟨_, rfl, holds⟩

/-- An incomplete frame whose block has no room is written beyond it. -/
theorem headLoop_overflows (holds : Holds limitSize static none readBuffers) (positive : 0 < rounds)
    (header : frameHeader left = some (vintLen, msgLen)) (exact' : 4 + vintLen + msgLen < 2 ^ 64)
    (incomplete : left.length < 4 + vintLen + msgLen) (large : 2 ^ 64 - 32 < 4 + msgLen)
    (accepted : Accepts limitSize static heap (4 + msgLen)) :
    headLoop conf heap readBuffers rounds left = .error .blockWrite := by
  obtain ⟨long, read, nonzero, _, _⟩ := frameHeader_spec header
  obtain ⟨rounds, rfl⟩ := Nat.exists_eq_add_one.mpr positive
  obtain ⟨pushed, block, push, fresh, holds⟩ := holds.pushBack_accepted accepted
  have room : block.room = 0 := by
    rw [fresh.room]
    exact fullSize_wraps large (by omega)
  have outside : block.room < 0 + (left.take 4).length := by
    rw [List.length_take]
    omega
  have partial' : ¬wrap (4 + vintLen + msgLen) ≤ left.length := by
    rw [wrap_of_lt exact']
    omega
  have wrapped : wrap (4 + msgLen) = 4 + msgLen := wrap_of_lt (by omega)
  rw [headLoop, if_pos long]
  simp only [read, if_neg nonzero, if_neg partial', wrapped, push, holds.writeBack_outside outside]
  rfl

/-! ### The loop -/

variable (conf) in
/-- If every header found behind complete frames fits, the loop reports the complete frames and ends
    with an unfinished one or with one that is refused. -/
theorem headLoop_fits (holds : Holds limitSize static none readBuffers)
    (enough : left.length ≤ rounds) (small : left.length ≤ dataSmallSize)
    (fits : ∀ rest, frameCode.Reaches left rest → HeaderFits heap readBuffers rest) :
    ∃ (loop : HeadLoop) (frames : List Frame) (pending : List UInt8),
      headLoop conf heap readBuffers rounds left = .ok loop ∧
      left = (frames.map Frame.bytes).flatten ++ pending ∧
      loop.made = frames.map (Frame.report conf) ∧ LoopEnd limitSize static heap loop pending := by
  induction rounds generalizing left with
  | zero =>
      have empty : left = [] := List.eq_nil_of_length_eq_zero (by omega)
      have unfinished : frameHeader left = none := by
        rw [empty]
        rfl
      exact ⟨_, [], left, headLoop_waiting unfinished, rfl, rfl,
        .going rfl (.waiting holds unfinished)⟩
  | succ rounds ih =>
      cases header : frameHeader left with
      | none =>
          exact ⟨_, [], left, headLoop_waiting header, rfl, rfl, .going rfl (.waiting holds header)⟩
      | some sizes =>
          obtain ⟨vintLen, msgLen⟩ := sizes
          obtain ⟨exact', roomy⟩ := fits left (.refl left) vintLen msgLen header
          by_cases complete : 4 + vintLen + msgLen ≤ left.length
          · obtain ⟨frame, rest, rfl, length⟩ := exists_frame header complete
            have shorter : rest.length + frame.bytes.length = (frame.bytes ++ rest).length := by
              rw [List.length_append, Nat.add_comm]
            have later : ∀ stream, frameCode.Reaches rest stream →
                HeaderFits heap readBuffers stream := by
              intro stream reaches
              apply fits
              refine .next (frameCode_size_of_header header) complete ?_
              rwa [← length, List.drop_left]
            obtain ⟨loop, frames, pending, run, rfl, made, ends⟩ := ih (by omega) (by omega) later
            refine ⟨{ loop with made := frame.report conf :: loop.made }, frame :: frames, pending,
              ?_, ?_, ?_, ?_⟩
            · rw [headLoop_frame frame (Nat.lt_of_le_of_lt small (by decide)), run]
              rfl
            · simp
            · simp [made]
            · cases ends with
              | going goesOn phase => exact .going goesOn phase
              | refused stops header refused left holds =>
                  exact .refused stops header refused left holds
          · have incomplete : left.length < 4 + vintLen + msgLen := Nat.not_le.mp complete
            by_cases accepted : Accepts limitSize static heap (4 + msgLen)
            · have small : 4 + msgLen ≤ 2 ^ 64 - 32 := by
                rcases roomy with small | noBlock
                · exact small
                · exact absurd (holds.pushBack_success_iff.mpr accepted) noBlock
              obtain ⟨after, run, phase⟩ := headLoop_block holds (Nat.succ_pos _) header exact'
                incomplete small accepted
              exact ⟨_, [], left, run, rfl, rfl, .going rfl phase⟩
            · obtain ⟨after, run, holds⟩ := headLoop_refused holds (Nat.succ_pos _) header exact'
                incomplete accepted
              exact ⟨_, [], left, run, rfl, rfl,
                .refused rfl header accepted (List.drop_suffix _ _) holds⟩

variable (conf) in
/-- A header that does not fit, found behind complete frames, makes the loop leave the bytes it may
    touch. -/
theorem headLoop_faults {rest : List UInt8} (holds : Holds limitSize static none readBuffers)
    (enough : left.length ≤ rounds) (small : left.length ≤ dataSmallSize)
    (reaches : frameCode.Reaches left rest) (unfit : ¬HeaderFits heap readBuffers rest) :
    ∃ fault, headLoop conf heap readBuffers rounds left = .error fault := by
  induction reaches generalizing rounds with
  | refl left =>
      simp only [HeaderFits, not_forall] at unfit
      obtain ⟨vintLen, msgLen, header, wrong⟩ := unfit
      obtain ⟨long, _, _, _, word⟩ := frameHeader_spec header
      have positive : 0 < rounds := by omega
      have short : left.length < 2 ^ 64 - 32 := Nat.lt_of_le_of_lt small (by decide)
      by_cases wraps : 2 ^ 64 ≤ 4 + vintLen + msgLen
      · exact ⟨_, headLoop_wraps header positive (by omega) wraps⟩
      · have exact' : 4 + vintLen + msgLen < 2 ^ 64 := Nat.not_le.mp wraps
        have large : ¬4 + msgLen ≤ 2 ^ 64 - 32 := fun roomy => wrong ⟨exact', .inl roomy⟩
        have accepted : Accepts limitSize static heap (4 + msgLen) := by
          by_contra refused
          exact wrong ⟨exact', .inr fun success => refused (holds.pushBack_success_iff.mp success)⟩
        exact ⟨_, headLoop_overflows holds positive header exact' (by omega) (by omega) accepted⟩
  | @next left rest n size complete later ih =>
      obtain ⟨vintLen, msgLen, header, rfl⟩ := frameCode_size size
      obtain ⟨frame, behind, rfl, length⟩ := exists_frame header complete
      have total : (frame.bytes ++ behind).length = frame.bytes.length + behind.length :=
        List.length_append
      have positive : 0 < rounds := by omega
      obtain ⟨rounds, rfl⟩ := Nat.exists_eq_add_one.mpr positive
      rw [← length, List.drop_left] at ih
      have enough' : behind.length ≤ rounds := by omega
      obtain ⟨fault, run⟩ := ih enough' (by omega) unfit
      refine ⟨fault, ?_⟩
      rw [headLoop_frame frame (Nat.lt_of_le_of_lt small (by decide)), run]
      rfl

end

end LibAtbus.Channel
