/-
Module: LibAtbus.Detail.Vint
Layer: Detail
Purpose: The dynamic integers of `src/detail/buffer.cpp`: seven bits a byte, most significant group
  first, the top bit set on every byte but the last. `readVint` and `writeVint` are the loops of the
  source; what they compute is said by `vintValue`, the groups of an encoding read as an unbounded
  number.
Trusted boundary: human-reviewed spec
Main exports: readVint, writeVint, vintValue, readVint_of_groups, groups_of_readVint,
  readVint_writeVint
-/
import LibAtbus.Foundation.Word64
import Mathlib.Data.List.Basic
import Mathlib.Tactic.Ring

namespace LibAtbus.Detail

open Word64

/-- The loop of `read_vint`: the value and the number of bytes read so far, and the bytes left. -/
def readVintLoop (out used : Nat) : List UInt8 → Nat × Nat
  | [] => (0, out)
  | d :: left =>
      let out := wrap (out <<< 7) ||| (0x7F &&& d.toNat)
      if 0x80 &&& d.toNat = 0 then (used + 1, out) else readVintLoop out (used + 1) left

/-- `read_vint`: how many bytes the integer takes, zero if it does not end, and its value. -/
def readVint (bytes : List UInt8) : Nat × Nat := readVintLoop 0 0 bytes

/-- The loop of `write_vint`: the bytes written, in the order of writing, and what is left of the
    value when the room is used up. -/
def writeVintLoop : Nat → Nat → List UInt8 × Nat
  | 0, value => ([], value)
  | room + 1, value =>
      if value = 0 then ([], 0)
      else
        let rest := writeVintLoop room (value >>> 7)
        (UInt8.ofNat (0x80 ||| (value &&& 0x7F)) :: rest.1, rest.2)

/-- `write_vint`: the number of bytes used, zero on failure, and the bytes it leaves in the buffer.
    The groups are written from the least significant one on and then reversed. -/
def writeVint (value size : Nat) : Nat × List UInt8 :=
  if size = 0 then (0, [])
  else
    let rest := writeVintLoop (size - 1) (value >>> 7)
    let written := UInt8.ofNat (0x7F &&& value) :: rest.1
    if rest.2 ≠ 0 then (0, written) else (written.length, written.reverse)

/-! ### Groups of seven bits -/

/-- The seven low bits of every byte, read as one number. -/
def vintValue (bytes : List UInt8) : Nat :=
  bytes.foldl (fun value byte => value * 128 + byte.toNat % 128) 0

/-- Every byte announces another one. -/
def Continued (bytes : List UInt8) : Prop := ∀ byte ∈ bytes, 128 ≤ byte.toNat

@[simp] theorem vintValue_nil : vintValue [] = 0 := rfl

@[simp] theorem vintValue_snoc (bytes : List UInt8) (byte : UInt8) :
    vintValue (bytes ++ [byte]) = vintValue bytes * 128 + byte.toNat % 128 := by
  simp [vintValue, List.foldl_append]

/-- The value the read loop continues from, with the bytes before it. -/
theorem vintValue_append (start : Nat) (bytes : List UInt8) :
    bytes.foldl (fun value byte => value * 128 + byte.toNat % 128) start =
      start * 128 ^ bytes.length + vintValue bytes := by
  induction bytes generalizing start with
  | nil => simp
  | cons byte bytes ih =>
      rw [vintValue, List.foldl_cons, List.foldl_cons, ih, ih (0 * 128 + byte.toNat % 128),
        List.length_cons, Nat.pow_succ]
      ring

theorem topBit_clear_iff (byte : UInt8) : 0x80 &&& byte.toNat = 0 ↔ byte.toNat < 128 := by
  have checked : ∀ value < 256, (0x80 &&& value = 0 ↔ value < 128) := by decide +kernel
  exact checked _ byte.toNat_lt

theorem lowBits (value : Nat) : 0x7F &&& value = value % 128 := by
  have low := Nat.and_two_pow_sub_one_eq_mod value 7
  rw [Nat.and_comm] at low
  exact low

/-- One round of the read loop shifts the value by a group, without the bits that leave the word. -/
theorem shift_or_group (out : Nat) (byte : UInt8) :
    wrap (out <<< 7) ||| (0x7F &&& byte.toNat) = (out * 128 + byte.toNat % 128) % 2 ^ 64 := by
  have shifted : wrap (out <<< 7) = 2 ^ 7 * (out % 2 ^ 57) := by
    rw [wrap, Nat.shiftLeft_eq]
    omega
  have small : byte.toNat % 128 < 2 ^ 7 := Nat.mod_lt _ (by decide)
  rw [shifted, lowBits, ← Nat.two_pow_add_eq_or_of_lt small]
  omega

/-- What the read loop makes of a complete encoding. -/
theorem readVintLoop_of_groups {out used : Nat} {groups rest : List UInt8} {last : UInt8}
    (continued : Continued groups) (ends : last.toNat < 128) :
    readVintLoop out used (groups ++ last :: rest) =
      (used + groups.length + 1, (out * 128 ^ (groups.length + 1) + vintValue (groups ++ [last])) %
        2 ^ 64) := by
  induction groups generalizing out used with
  | nil =>
      have clear := (topBit_clear_iff last).mpr ends
      simp [readVintLoop, clear, shift_or_group, vintValue]
  | cons byte groups ih =>
      have set : ¬(0x80 &&& byte.toNat = 0) := by
        rw [topBit_clear_iff]
        exact Nat.not_lt.mpr (continued byte (by simp))
      have later : Continued groups := fun b member => continued b (by simp [member])
      rw [List.cons_append, readVintLoop, if_neg set, ih later, shift_or_group]
      have split : vintValue (byte :: groups ++ [last]) =
          byte.toNat % 128 * 128 ^ (groups.length + 1) + vintValue (groups ++ [last]) := by
        have moved := vintValue_append (byte.toNat % 128) (groups ++ [last])
        simpa [vintValue] using moved
      simp only [List.cons_append] at split
      rw [List.cons_append, split, List.length_cons, Prod.mk.injEq]
      refine ⟨by omega, ?_⟩
      rw [Nat.add_mod, Nat.mod_mul_mod, ← Nat.add_mod, Nat.add_mul,
        Nat.pow_succ 128 (groups.length + 1)]
      congr 1
      rw [Nat.mul_comm (128 ^ (groups.length + 1)) 128]
      simp only [Nat.mul_assoc, Nat.add_assoc]

/-- A complete encoding is read off, whatever follows it. -/
theorem readVint_of_groups {groups rest : List UInt8} {last : UInt8} (continued : Continued groups)
    (ends : last.toNat < 128) :
    readVint (groups ++ last :: rest) =
      (groups.length + 1, vintValue (groups ++ [last]) % 2 ^ 64) := by
  rw [readVint, readVintLoop_of_groups continued ends]
  simp

theorem groups_of_readVintLoop {out used : Nat} {bytes : List UInt8}
    (found : (readVintLoop out used bytes).1 ≠ 0) :
    ∃ groups last rest, bytes = groups ++ last :: rest ∧ Continued groups ∧ last.toNat < 128 := by
  induction bytes generalizing out used with
  | nil => exact absurd rfl found
  | cons byte bytes ih =>
      by_cases ends : 0x80 &&& byte.toNat = 0
      · exact ⟨[], byte, bytes, rfl, by simp [Continued], (topBit_clear_iff byte).mp ends⟩
      · rw [readVintLoop, if_neg ends] at found
        obtain ⟨groups, last, rest, rfl, continued, clear⟩ := ih found
        have set : 128 ≤ byte.toNat :=
          Nat.not_lt.mp fun below => ends ((topBit_clear_iff byte).mpr below)
        refine ⟨byte :: groups, last, rest, rfl, ?_, clear⟩
        intro b member
        rcases List.mem_cons.mp member with rfl | later
        · exact set
        · exact continued b later

/-- Only a complete encoding is accepted. -/
theorem groups_of_readVint {bytes : List UInt8} (found : (readVint bytes).1 ≠ 0) :
    ∃ groups last rest, bytes = groups ++ last :: rest ∧ Continued groups ∧ last.toNat < 128 :=
  groups_of_readVintLoop found

/-! ### Reading part of a buffer -/

section

variable {bytes more : List UInt8} {used value : Nat}

/-- An integer takes at least a byte and no more bytes than there are. -/
theorem readVint_le_length (read : readVint bytes = (used, value)) : used ≤ bytes.length := by
  by_cases none : used = 0
  · omega
  · obtain ⟨groups, last, rest, rfl, continued, ends⟩ := groups_of_readVint (by rwa [read])
    rw [readVint_of_groups continued ends, Prod.mk.injEq] at read
    simp only [List.length_append, List.length_cons]
    omega

/-- What is read is a 64-bit value. -/
theorem readVint_lt (read : readVint bytes = (used, value)) (found : used ≠ 0) :
    value < 2 ^ 64 := by
  obtain ⟨groups, last, rest, rfl, continued, ends⟩ := groups_of_readVint (by rwa [read])
  rw [readVint_of_groups continued ends, Prod.mk.injEq] at read
  rw [← read.2]
  exact Nat.mod_lt _ (by decide)

/-- Bytes that come later do not change an integer that has been read. -/
theorem readVint_append (read : readVint bytes = (used, value)) (found : used ≠ 0) :
    readVint (bytes ++ more) = (used, value) := by
  obtain ⟨groups, last, rest, rfl, continued, ends⟩ := groups_of_readVint (by rwa [read])
  rw [readVint_of_groups continued ends] at read
  rw [List.append_assoc, List.cons_append, readVint_of_groups continued ends, read]

/-- The bytes of an integer alone are read as the integer. -/
theorem readVint_take (read : readVint bytes = (used, value)) (found : used ≠ 0) :
    readVint (bytes.take used) = (used, value) := by
  obtain ⟨groups, last, rest, rfl, continued, ends⟩ := groups_of_readVint (by rwa [read])
  rw [readVint_of_groups continued ends] at read
  have size : used = (groups ++ [last]).length := by
    rw [Prod.mk.injEq] at read
    simp [← read.1]
  have whole : groups ++ last :: rest = (groups ++ [last]) ++ rest := by simp
  rw [size, whole, List.take_left, readVint_of_groups continued ends, read, ← size]

end

/-! ### Round trip -/

/-- With room for the groups of the value, the loop writes them all, each with its top bit set. -/
theorem writeVintLoop_groups {room value : Nat} (fits : value < 128 ^ room) :
    (writeVintLoop room value).2 = 0 ∧ Continued (writeVintLoop room value).1.reverse ∧
      vintValue (writeVintLoop room value).1.reverse = value := by
  induction room generalizing value with
  | zero =>
      have none : value = 0 := by omega
      subst none
      exact ⟨rfl, by simp [writeVintLoop, Continued], rfl⟩
  | succ room ih =>
      by_cases none : value = 0
      · subst none
        exact ⟨rfl, by simp [writeVintLoop, Continued], rfl⟩
      · have smaller : value >>> 7 < 128 ^ room := by
          rw [Nat.shiftRight_eq_div_pow, Nat.div_lt_iff_lt_mul (by decide)]
          rwa [Nat.pow_succ] at fits
        obtain ⟨exhausted, continued, found⟩ := ih smaller
        have low : value &&& 0x7F = value % 128 := by
          rw [Nat.and_comm]
          exact lowBits value
        have group : (0x80 ||| (value &&& 0x7F) : Nat) = 128 + value % 128 := by
          have small : value % 128 < 2 ^ 7 := Nat.mod_lt _ (by decide)
          rw [low]
          exact (Nat.two_pow_add_eq_or_of_lt small 1).symm
        have byte : (UInt8.ofNat (0x80 ||| (value &&& 0x7F))).toNat = 128 + value % 128 := by
          rw [UInt8.toNat_ofNat', group]
          omega
        rw [writeVintLoop, if_neg none]
        refine ⟨exhausted, ?_, ?_⟩
        · intro b member
          rw [List.reverse_cons, List.mem_append, List.mem_singleton] at member
          rcases member with earlier | rfl
          · exact continued b earlier
          · omega
        · rw [List.reverse_cons, vintValue_snoc, found, byte, Nat.shiftRight_eq_div_pow]
          omega

theorem writeVintLoop_length_le (room value : Nat) :
    (writeVintLoop room value).1.length ≤ room := by
  induction room generalizing value with
  | zero => simp [writeVintLoop]
  | succ room ih =>
      rw [writeVintLoop]
      split
      · simp
      · have shorter := ih (value >>> 7)
        simp only [List.length_cons]
        omega

/-- With room for its groups, `write_vint` leaves an encoding of the value in the buffer. -/
theorem writeVint_groups {value room : Nat} (fits : value < 128 ^ (room + 1)) :
    ∃ groups last, writeVint value (room + 1) = (groups.length + 1, groups ++ [last]) ∧
      groups.length ≤ room ∧ Continued groups ∧ last.toNat < 128 ∧
      vintValue (groups ++ [last]) = value := by
  have first : UInt8.toNat (UInt8.ofNat (0x7F &&& value)) = value % 128 := by
    rw [lowBits, UInt8.toNat_ofNat']
    omega
  have smaller : value >>> 7 < 128 ^ room := by
    rw [Nat.shiftRight_eq_div_pow, Nat.div_lt_iff_lt_mul (by decide)]
    rwa [Nat.pow_succ] at fits
  obtain ⟨exhausted, continued, found⟩ := writeVintLoop_groups smaller
  refine ⟨(writeVintLoop room (value >>> 7)).1.reverse, UInt8.ofNat (0x7F &&& value), ?_, ?_,
    continued, ?_, ?_⟩
  · simp [writeVint, exhausted]
  · rw [List.length_reverse]
    exact writeVintLoop_length_le room _
  · omega
  · rw [vintValue_snoc, found, first, Nat.shiftRight_eq_div_pow]
    omega

/-- What `write_vint` writes for a 64-bit value into 16 bytes takes at most 16 of them, and
    `read_vint` reads it back, whatever follows it. -/
theorem readVint_writeVint {value : Nat} (word : value < 2 ^ 64) (rest : List UInt8) :
    (writeVint value 16).1 = (writeVint value 16).2.length ∧ 0 < (writeVint value 16).1 ∧
      (writeVint value 16).1 ≤ 16 ∧
      readVint ((writeVint value 16).2 ++ rest) = ((writeVint value 16).1, value) := by
  obtain ⟨groups, last, written, short, continued, ends, found⟩ :=
    writeVint_groups (show value < 128 ^ (15 + 1) by omega)
  rw [written]
  refine ⟨by simp, Nat.succ_pos _, by omega, ?_⟩
  rw [List.append_assoc, List.singleton_append, readVint_of_groups continued ends, found,
    Nat.mod_eq_of_lt word]

end LibAtbus.Detail
