/-
Module: LibAtbus.Channel.StreamFrame
Layer: Channel
Purpose: What a frame of a stream channel is, said without the program: four bytes of checksum, an
  encoded length and a payload of that length. The frames are a self-delimiting code, whatever their
  checksum.
Trusted boundary: human-reviewed spec
Main exports: Frame, Frame.bytes, frameCode, Frame.isFrame, exists_frame
-/
import LibAtbus.Channel.IoStream
import LibAtbus.Foundation.FrameCode

namespace LibAtbus.Channel

open Detail Word64

/-- A frame: the checksum field, the encoded length and a payload of the length it announces. -/
structure Frame where
  crc : List UInt8
  vint : List UInt8
  payload : List UInt8
  crcLength : crc.length = 4
  announces : readVint vint = (vint.length, payload.length)
  announced : vint.length ≠ 0

/-- The bytes of a frame in a stream. -/
def Frame.bytes (frame : Frame) : List UInt8 := frame.crc ++ frame.vint ++ frame.payload

/-- The callback the frame is to be delivered with. -/
def Frame.report (conf : StreamConf) (frame : Frame) : Recved :=
  recvedFrame conf frame.crc frame.payload

/-- The size of the frame a stream starts with, once its length can be read: the sizes of the
    encoded length and of the payload. -/
def frameHeader (stream : List UInt8) : Option (Nat × Nat) :=
  if 4 < stream.length ∧ (readVint (stream.drop 4)).1 ≠ 0 then some (readVint (stream.drop 4))
    else none

theorem frameHeader_append {stream : List UInt8} {header : Nat × Nat} (more : List UInt8)
    (found : frameHeader stream = some header) : frameHeader (stream ++ more) = some header := by
  unfold frameHeader at found ⊢
  split at found
  case isTrue enough =>
    have later : (stream ++ more).drop 4 = stream.drop 4 ++ more :=
      List.drop_append_of_le_length (by omega)
    have same : readVint ((stream ++ more).drop 4) = readVint (stream.drop 4) := by
      rw [later]
      exact readVint_append rfl enough.2
    have long : 4 < (stream ++ more).length := by
      rw [List.length_append]
      omega
    rw [same, if_pos ⟨long, enough.2⟩]
    exact found
  case isFalse => cases found

/-- What a header says about the bytes it was read from. -/
theorem frameHeader_spec {stream : List UInt8} {vintLen msgLen : Nat}
    (found : frameHeader stream = some (vintLen, msgLen)) :
    4 < stream.length ∧ readVint (stream.drop 4) = (vintLen, msgLen) ∧ vintLen ≠ 0 ∧
      4 + vintLen ≤ stream.length ∧ msgLen < 2 ^ 64 := by
  unfold frameHeader at found
  split at found
  case isTrue enough =>
    have read : readVint (stream.drop 4) = (vintLen, msgLen) := Option.some.inj found
    have nonzero : vintLen ≠ 0 := by
      rw [read] at enough
      exact enough.2
    have short := readVint_le_length read
    rw [List.length_drop] at short
    exact ⟨enough.1, read, nonzero, by omega, readVint_lt read nonzero⟩
  case isFalse => cases found

/-- The header of a stream that starts with a checksum field and an encoded length. -/
theorem header_of_parts {crc vint rest : List UInt8} {msgLen : Nat} (crcLength : crc.length = 4)
    (announces : readVint vint = (vint.length, msgLen)) (announced : vint.length ≠ 0) :
    frameHeader (crc ++ vint ++ rest) = some (vint.length, msgLen) := by
  have behind : (crc ++ vint ++ rest).drop 4 = vint ++ rest := by
    rw [List.append_assoc, ← crcLength, List.drop_left]
  have read : readVint (vint ++ rest) = (vint.length, msgLen) := readVint_append announces announced
  have long : 4 < (crc ++ vint ++ rest).length := by
    simp only [List.length_append, crcLength]
    omega
  rw [frameHeader, behind, read, if_pos ⟨long, announced⟩]

/-- The code of the frames: four bytes of checksum, the encoded length and the payload. -/
def frameCode : FrameCode UInt8 where
  size := fun stream => (frameHeader stream).map fun header => 4 + header.1 + header.2
  size_nil := by simp [frameHeader]
  size_pos := by
    intro stream n size
    rw [Option.map_eq_some_iff] at size
    obtain ⟨header, _, rfl⟩ := size
    omega
  size_append := by
    intro stream n more size
    rw [Option.map_eq_some_iff] at size ⊢
    obtain ⟨header, found, total⟩ := size
    exact ⟨header, frameHeader_append more found, total⟩

namespace Frame

variable (frame : Frame)

@[simp] theorem bytes_length :
    frame.bytes.length = 4 + frame.vint.length + frame.payload.length := by
  simp [bytes, frame.crcLength, Nat.add_assoc]

/-- The header of a frame is found in every stream that starts with its first bytes. -/
theorem header_of_prefix {stream : List UInt8} (starts : frame.crc ++ frame.vint <+: stream) :
    frameHeader stream = some (frame.vint.length, frame.payload.length) := by
  obtain ⟨rest, rfl⟩ := starts
  exact header_of_parts frame.crcLength frame.announces frame.announced

theorem header : frameHeader frame.bytes = some (frame.vint.length, frame.payload.length) :=
  frame.header_of_prefix ⟨frame.payload, rfl⟩

theorem isFrame : frameCode.IsFrame frame.bytes := by
  have size : (frameHeader frame.bytes).map (fun header => 4 + header.1 + header.2) =
      some frame.bytes.length := by
    rw [frame.header, Option.map_some, bytes_length]
  exact size

/-- The bytes of a frame determine it. -/
theorem bytes_inj {frame other : Frame} (same : frame.bytes = other.bytes) : frame = other := by
  have header := frame.header
  rw [same, other.header, Option.some.injEq, Prod.mk.injEq] at header
  obtain ⟨vintLength, payloadLength⟩ := header
  cases frame with
  | mk crc vint payload crcLength announces announced =>
      cases other with
      | mk crc' vint' payload' crcLength' announces' announced' =>
          simp only [bytes] at same vintLength payloadLength
          obtain ⟨front, rfl⟩ := List.append_inj' same payloadLength.symm
          obtain ⟨rfl, rfl⟩ := List.append_inj' front vintLength.symm
          rfl

theorem areFrames {frames : List Frame} : ∀ f ∈ frames.map bytes, frameCode.IsFrame f := by
  intro f member
  obtain ⟨frame, _, rfl⟩ := List.mem_map.mp member
  exact frame.isFrame

end Frame

/-- The parts of a stream that starts with a header: checksum field, encoded length and what
    follows. -/
theorem header_parts {stream : List UInt8} {vintLen msgLen : Nat}
    (found : frameHeader stream = some (vintLen, msgLen)) :
    ∃ crc vint rest, stream = crc ++ vint ++ rest ∧ crc.length = 4 ∧ vint.length = vintLen ∧
      readVint vint = (vint.length, msgLen) ∧ vint.length ≠ 0 := by
  obtain ⟨long, read, nonzero, enough, _⟩ := frameHeader_spec found
  have vintLength : ((stream.drop 4).take vintLen).length = vintLen := by
    rw [List.length_take, List.length_drop]
    omega
  refine ⟨stream.take 4, (stream.drop 4).take vintLen, (stream.drop 4).drop vintLen, ?_, ?_,
    vintLength, ?_, ?_⟩
  · rw [List.append_assoc, List.take_append_drop, List.take_append_drop]
  · rw [List.length_take]
    omega
  · rw [vintLength]
    exact readVint_take read nonzero
  · omega

/-- A stream that is long enough for the frame its header announces starts with that frame. -/
theorem exists_frame {stream : List UInt8} {vintLen msgLen : Nat}
    (found : frameHeader stream = some (vintLen, msgLen))
    (complete : 4 + vintLen + msgLen ≤ stream.length) :
    ∃ (frame : Frame) (rest : List UInt8), stream = frame.bytes ++ rest ∧
      frame.bytes.length = 4 + vintLen + msgLen := by
  obtain ⟨crc, vint, behind, rfl, crcLength, rfl, announces, announced⟩ := header_parts found
  have length : (behind.take msgLen).length = msgLen := by
    simp only [List.length_append, crcLength] at complete
    rw [List.length_take]
    omega
  let frame : Frame :=
    { crc := crc, vint := vint, payload := behind.take msgLen, crcLength := crcLength
      announces := by rw [announces, length], announced := announced }
  refine ⟨frame, behind.drop msgLen, ?_, ?_⟩
  · rw [Frame.bytes, List.append_assoc _ _ (behind.drop msgLen), List.take_append_drop]
  · rw [Frame.bytes_length, length]

/-- What the code of the frames says about a stream is what its header says. -/
theorem frameCode_size {stream : List UInt8} {n : Nat} (size : frameCode.size stream = some n) :
    ∃ vintLen msgLen, frameHeader stream = some (vintLen, msgLen) ∧ n = 4 + vintLen + msgLen := by
  have mapped : (frameHeader stream).map (fun header => 4 + header.1 + header.2) = some n := size
  rw [Option.map_eq_some_iff] at mapped
  obtain ⟨⟨vintLen, msgLen⟩, found, total⟩ := mapped
  exact ⟨vintLen, msgLen, found, total.symm⟩

theorem frameCode_size_of_header {stream : List UInt8} {vintLen msgLen : Nat}
    (found : frameHeader stream = some (vintLen, msgLen)) :
    frameCode.size stream = some (4 + vintLen + msgLen) := by
  have mapped : (frameHeader stream).map (fun header => 4 + header.1 + header.2) =
      some (4 + vintLen + msgLen) := by
    rw [found, Option.map_some]
  exact mapped

/-! ### Streams of frames -/

section

variable {frames : List Frame} {stream rest : List UInt8}

/-- The header of a stream that starts like a sequence of frames is that of the first one. -/
theorem header_of_frames {vintLen msgLen : Nat}
    (starts : stream <+: (frames.map Frame.bytes).flatten)
    (found : frameHeader stream = some (vintLen, msgLen)) :
    ∃ frame later, frames = frame :: later ∧ frame.vint.length = vintLen ∧
      frame.payload.length = msgLen := by
  obtain ⟨more, whole⟩ := starts
  have header : frameHeader (frames.map Frame.bytes).flatten = some (vintLen, msgLen) := by
    rw [← whole]
    exact frameHeader_append more found
  cases frames with
  | nil => cases header
  | cons frame later =>
      rw [List.map_cons, List.flatten_cons, frameHeader_append _ frame.header] at header
      cases header
      exact ⟨frame, later, rfl, rfl, rfl⟩

/-- Frames found at the start of a sequence of frames are the first ones of the sequence. -/
theorem frames_of_prefix {others : List Frame}
    (starts : (frames.map Frame.bytes).flatten ++ rest <+: (others.map Frame.bytes).flatten) :
    ∃ later, others = frames ++ later ∧ rest <+: (later.map Frame.bytes).flatten := by
  obtain ⟨later, split, behind⟩ :=
    FrameCode.frames_of_prefix Frame.areFrames Frame.areFrames starts
  obtain ⟨earlier, later, rfl, same, rfl⟩ := List.map_eq_append_iff.mp split
  have injective : Function.Injective Frame.bytes := fun _ _ same => Frame.bytes_inj same
  have equal : earlier = frames := List.map_injective_iff.mpr injective same
  subst equal
  exact ⟨later, rfl, behind⟩

/-- What is left behind complete frames of such a stream starts like the later frames. -/
theorem reaches_of_frames (starts : stream <+: (frames.map Frame.bytes).flatten)
    (reaches : frameCode.Reaches stream rest) :
    ∃ earlier later, frames = earlier ++ later ∧ rest <+: (later.map Frame.bytes).flatten := by
  obtain ⟨earlier, later, split, behind⟩ :=
    FrameCode.reaches_of_prefix reaches Frame.areFrames starts
  obtain ⟨earlier, later, rfl, rfl, rfl⟩ := List.map_eq_append_iff.mp split
  exact ⟨earlier, later, rfl, behind⟩

end

end LibAtbus.Channel
