/-
Module: LibAtbus.Proofs.VintEncoding
Layer: Proofs
Purpose: The dynamic integers as bytes of a memory. `write_vint` needs one byte for every group of
  seven bits and touches no other byte; `read_vint` gives the value back from these bytes, whatever
  follows them, and asks for more on any shorter part of them. On an encoding that was not written
  by `write_vint` the shifts of `read_vint` drop the bits above the 64th, so that a value is exact
  only where it fits.
Trusted boundary: human-reviewed spec
Main exports: vintGroups, writeVintAt, writeVint_count, writeVint_length, vint_round_trip,
  ReadsExactly, EncodingFits, readVint_exact_iff
-/
import LibAtbus.Detail.Vint
import LibAtbus.Foundation.ByteMemory
import Mathlib.Data.Nat.Log

namespace LibAtbus.Detail

open ByteMemory

/-! ### How many bytes a value takes -/

/-- The number of groups of seven bits of a value; zero has one. -/
def vintGroups (value : Nat) : Nat := Nat.log 128 value + 1

theorem vintGroups_pos (value : Nat) : 1 ≤ vintGroups value := Nat.le_add_left 1 _

/-- The groups of a value fit into `size` bytes if the value is below that power of 128. -/
theorem vintGroups_le_iff {value size : Nat} (room : size ≠ 0) :
    vintGroups value ≤ size ↔ value < 128 ^ size := by
  rw [vintGroups, Nat.succ_le_iff]
  constructor
  · intro below
    exact lt_of_lt_of_le (Nat.lt_pow_succ_log_self (by decide) value)
      (Nat.pow_le_pow_right (by decide) below)
  · exact Nat.log_lt_of_lt_pow' room

/-- A word has at most ten groups. -/
theorem vintGroups_le_ten (value : UInt64) : vintGroups value.toNat ≤ 10 := by
  have word : value.toNat < 2 ^ 64 := value.toNat_lt
  have wider : (2 : Nat) ^ 64 < 128 ^ 10 := by decide
  exact (vintGroups_le_iff (by decide)).mpr (lt_trans word wider)

theorem shiftRight_group (value : Nat) : value >>> 7 = value / 128 :=
  Nat.shiftRight_eq_div_pow value 7

theorem vintGroups_last {value : Nat} (last : value / 128 = 0) : vintGroups value = 1 := by
  have small : value < 128 := Nat.lt_of_div_eq_zero (by decide) last
  rw [vintGroups, Nat.log_of_lt small]

/-- A value with more than one group has one more than what is left without the lowest. -/
theorem vintGroups_more {value : Nat} (more : value / 128 ≠ 0) :
    vintGroups value = vintGroups (value / 128) + 1 := by
  have large : 128 ≤ value := Nat.le_of_not_lt fun below => more (Nat.div_eq_of_lt below)
  rw [vintGroups, vintGroups, Nat.log_of_one_lt_of_le (by decide) large]

/-- What the write loop leaves of a value is what lies above the room. -/
theorem writeVintLoop_left (room value : Nat) :
    (writeVintLoop room value).2 = value / 128 ^ room := by
  induction room generalizing value with
  | zero => simp [writeVintLoop]
  | succ room ih =>
      rw [writeVintLoop]
      split
      · next none => rw [none, Nat.zero_div]
      · rw [ih, shiftRight_group, Nat.div_div_eq_div_mul, Nat.pow_succ, Nat.mul_comm]

/-- Behind the first byte, the write loop writes one for every other group, as far as there is
    room. -/
theorem writeVintLoop_length (room value : Nat) :
    (writeVintLoop room (value / 128)).1.length + 1 = min (vintGroups value) (room + 1) := by
  induction room generalizing value with
  | zero =>
      have one := vintGroups_pos value
      rw [writeVintLoop, List.length_nil]
      omega
  | succ room ih =>
      rw [writeVintLoop]
      split
      · next last =>
          rw [vintGroups_last last, List.length_nil]
          omega
      · next more =>
          rw [vintGroups_more more, List.length_cons, shiftRight_group, ih]
          omega

section

variable {value size : Nat}

theorem writeVint_zero (value : Nat) : writeVint value 0 = (0, []) := if_pos rfl

theorem writeVint_succ (value room : Nat) :
    writeVint value (room + 1) =
      if value / 128 ^ (room + 1) ≠ 0 then
        (0, UInt8.ofNat (0x7F &&& value) :: (writeVintLoop room (value / 128)).1)
      else
        ((writeVintLoop room (value / 128)).1.length + 1,
          (UInt8.ofNat (0x7F &&& value) :: (writeVintLoop room (value / 128)).1).reverse) := by
  have left : (writeVintLoop room (value / 128)).2 = value / 128 ^ (room + 1) := by
    rw [writeVintLoop_left, Nat.div_div_eq_div_mul, Nat.pow_succ, Nat.mul_comm]
  rw [← left, ← shiftRight_group]
  rfl

/-- Whether or not the value fits, as many bytes are touched as it has groups and the buffer has
    room. -/
theorem writeVint_length (value size : Nat) :
    (writeVint value size).2.length = min (vintGroups value) size := by
  cases size with
  | zero => rw [writeVint_zero, List.length_nil, Nat.min_zero]
  | succ room =>
      rw [← writeVintLoop_length, writeVint_succ]
      split
      · rfl
      · rw [List.length_reverse, List.length_cons]

/-- The number of bytes `write_vint` returns is that of the groups, if there is room for all of
    them. -/
theorem writeVint_count (value size : Nat) :
    (writeVint value size).1 = if vintGroups value ≤ size then vintGroups value else 0 := by
  cases size with
  | zero =>
      have one := vintGroups_pos value
      rw [writeVint_zero, if_neg (by omega)]
  | succ room =>
      have fits : vintGroups value ≤ room + 1 ↔ value / 128 ^ (room + 1) = 0 := by
        rw [vintGroups_le_iff (Nat.succ_ne_zero room),
          Nat.div_eq_zero_iff_lt (Nat.pow_pos (by decide))]
      rw [writeVint_succ]
      by_cases whole : value / 128 ^ (room + 1) = 0
      · rw [if_neg (not_not.mpr whole), if_pos (fits.mpr whole), writeVintLoop_length,
          Nat.min_eq_left (fits.mpr whole)]
      · rw [if_pos whole, if_neg (mt fits.mp whole)]

/-- With room for its groups, what is written is the encoding of the value. -/
theorem writeVint_encodes (fits : vintGroups value ≤ size) :
    ∃ groups last, (writeVint value size).2 = groups ++ [last] ∧
      groups.length + 1 = vintGroups value ∧
      Continued groups ∧ last.toNat < 128 ∧ vintValue (groups ++ [last]) = value := by
  have one := vintGroups_pos value
  cases size with
  | zero => omega
  | succ room =>
      have small := (vintGroups_le_iff (Nat.succ_ne_zero room)).mp fits
      obtain ⟨groups, last, written, -, continued, ends, found⟩ := writeVint_groups small
      have count := writeVint_count value (room + 1)
      rw [written, if_pos fits] at count
      exact ⟨groups, last, by rw [written], count, continued, ends, found⟩

end

/-- Bytes that all announce another one are not an integer yet. -/
theorem readVint_continued {bytes : List UInt8} (continued : Continued bytes) :
    (readVint bytes).1 = 0 := by
  by_contra found
  obtain ⟨groups, last, rest, rfl, -, ends⟩ := groups_of_readVint found
  have set := continued last (by simp)
  omega

/-! ### Round trip in a memory -/

/-- `write_vint` on a memory: the number of bytes used, zero on failure, and the memory it
    leaves. -/
def writeVintAt (memory : Memory) (pointer value size : Nat) : Nat × Memory :=
  ((writeVint value size).1, writeBytes memory pointer (writeVint value size).2)

/-- `read_vint` on a memory. -/
def readVintAt (memory : Memory) (pointer size : Nat) : Nat × Nat :=
  readVint (readBytes memory pointer size)

/-- Where the encoding of a value lies in a memory, a read of at least its length finds the value
    and a shorter one finds nothing. -/
theorem readVintAt_of_encoding {memory : Memory} {start len value : Nat} {groups : List UInt8}
    {last : UInt8} (continued : Continued groups) (ends : last.toNat < 128)
    (valued : vintValue (groups ++ [last]) = value) (word : value < 2 ^ 64)
    (found : readBytes memory start (groups.length + 1) = groups ++ [last]) :
    (groups.length + 1 ≤ len → readVintAt memory start len = (groups.length + 1, value)) ∧
      (len < groups.length + 1 → (readVintAt memory start len).1 = 0) := by
  constructor
  · intro enough
    obtain ⟨more, rfl⟩ := Nat.exists_eq_add_of_le enough
    rw [readVintAt, ← readBytes_append, found, List.append_assoc, List.singleton_append,
      readVint_of_groups continued ends, valued, Nat.mod_eq_of_lt word]
  · intro short
    obtain ⟨more, count⟩ := Nat.exists_eq_add_of_le (Nat.le_of_lt_succ short)
    have part : readBytes memory start len = groups.take len := by
      rw [count, Nat.add_assoc, ← readBytes_append] at found
      have taken := congrArg (List.take len) found
      rw [List.take_left' readBytes_length, List.take_append_of_le_length (by omega)] at taken
      exact taken
    apply readVint_continued
    intro byte member
    rw [part] at member
    exact continued byte (List.mem_of_mem_take member)

/-- `write_vint` takes a byte for each group of seven bits, fails exactly when there are fewer, and
    leaves every other byte alone; wherever these bytes lie, `read_vint` gives the value back from
    at least as many bytes, whatever the others are, and fails on fewer. -/
theorem vint_round_trip (value : UInt64) (size pointer : Nat) (memory : Memory) :
    (1 ≤ vintGroups value.toNat ∧ vintGroups value.toNat ≤ 10) ∧
      ((writeVintAt memory pointer value.toNat size).1 =
        if vintGroups value.toNat ≤ size then vintGroups value.toNat else 0) ∧
      (∀ a, a < pointer ∨ pointer + min (vintGroups value.toNat) size ≤ a →
        (writeVintAt memory pointer value.toNat size).2 a = memory a) ∧
      (vintGroups value.toNat ≤ size → ∀ (buffer : Memory) (start len : Nat),
        readBytes buffer start (vintGroups value.toNat) =
            readBytes (writeVintAt memory pointer value.toNat size).2 pointer
              (vintGroups value.toNat) →
          (vintGroups value.toNat ≤ len →
            readVintAt buffer start len = (vintGroups value.toNat, value.toNat)) ∧
          (len < vintGroups value.toNat → (readVintAt buffer start len).1 = 0)) := by
  refine ⟨⟨vintGroups_pos _, vintGroups_le_ten value⟩, writeVint_count _ _, ?_, ?_⟩
  · intro a outside
    apply writeBytes_outside
    rwa [writeVint_length]
  · intro fits buffer start len same
    obtain ⟨groups, last, written, count, continued, ends, valued⟩ := writeVint_encodes fits
    have length : (groups ++ [last]).length = vintGroups value.toNat := by
      rw [← count, List.length_append, List.length_singleton]
    rw [writeVintAt, written, ← length, readBytes_writeBytes, length, ← count] at same
    rw [← count]
    exact readVintAt_of_encoding continued ends valued value.toNat_lt same

/-! ### Encodings that were not written -/

/-- What `read_vint` is to return for a string of bytes: an integer only where one ends, and then
    the number its groups make. -/
def ReadsExactly (bytes : List UInt8) : Prop :=
  ∀ used value, readVint bytes = (used, value) → 0 < used →
    ∃ groups last, bytes.take used = groups ++ [last] ∧ groups.length + 1 = used ∧
      Continued groups ∧ last.toNat < 128 ∧ value = vintValue (groups ++ [last])

/-- The number that begins the bytes, if it is complete, fits into a word. -/
def EncodingFits (bytes : List UInt8) : Prop :=
  ∀ groups last rest, bytes = groups ++ last :: rest → Continued groups → last.toNat < 128 →
    vintValue (groups ++ [last]) < 2 ^ 64

/-- `read_vint` returns the number that was sent exactly when it fits into a word; of a larger one
    it returns the low 64 bits. -/
theorem readVint_exact_iff (bytes : List UInt8) : ReadsExactly bytes ↔ EncodingFits bytes := by
  constructor
  · intro exactly groups last rest shape continued ends
    have read : readVint (groups ++ last :: rest) = _ := readVint_of_groups continued ends
    rw [← shape] at read
    obtain ⟨groups', last', taken, -, -, -, valued⟩ := exactly _ _ read (Nat.succ_pos _)
    have whole : bytes.take (groups.length + 1) = groups ++ [last] := by
      rw [shape, List.append_cons]
      exact List.take_left' (by simp)
    rw [← taken, whole] at valued
    rw [← valued]
    exact Nat.mod_lt _ (by decide)
  · intro fits used value read found
    obtain ⟨groups, last, rest, shape, continued, ends⟩ := groups_of_readVint (by rw [read]; omega)
    rw [shape, readVint_of_groups continued ends, Prod.mk.injEq] at read
    obtain ⟨rfl, rfl⟩ := read
    refine ⟨groups, last, ?_, rfl, continued, ends, ?_⟩
    · rw [shape, List.append_cons]
      exact List.take_left' (by simp)
    · exact Nat.mod_eq_of_lt (fits groups last rest shape continued ends)

/-- Ten bytes that say 2 to the 64th are read as zero. -/
theorem readVint_loses_high_bits :
    ¬ReadsExactly [0x82, 0x80, 0x80, 0x80, 0x80, 0x80, 0x80, 0x80, 0x80, 0x00] := by
  intro exactly
  obtain ⟨groups, last, taken, -, -, -, valued⟩ := exactly 10 0 (by decide) (by decide)
  rw [← taken] at valued
  exact absurd valued (by decide)

end LibAtbus.Detail
