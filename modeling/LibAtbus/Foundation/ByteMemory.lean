/-
Module: LibAtbus.Foundation.ByteMemory
Layer: Foundation
Purpose: Byte-addressed memory as a function from addresses to bytes, the block reads and writes of
  `memcpy`, and the little-endian layout of an unsigned integer. A read after a write is the written
  block where the ranges agree and the old contents where they are apart.
Trusted boundary: none
Main exports: readBytes, writeBytes, readBytes_writeBytes, toLE, fromLE, fromLE_toLE
-/
import LibAtbus.Foundation.RingIndex
import Mathlib.Data.List.Basic
import Mathlib.Data.Set.Lattice
import Mathlib.Order.CompletePartialOrder
import Mathlib.Order.Interval.Set.Disjoint
import Mathlib.Tactic.Ring

namespace LibAtbus.ByteMemory

open RingIndex

/-- The contents of a memory. -/
abbrev Memory := Nat → UInt8

/-- The `len` bytes from address `addr` on. -/
def readBytes (memory : Memory) (addr len : Nat) : List UInt8 :=
  (List.range len).map fun i => memory (addr + i)

/-- Overwrite the bytes from address `addr` on. -/
def writeBytes (memory : Memory) (addr : Nat) (bytes : List UInt8) : Memory :=
  fun a => if addr ≤ a then (bytes[a - addr]?).getD (memory a) else memory a

section

variable {memory other : Memory} {addr a len i : Nat} {bytes : List UInt8}

@[simp] theorem readBytes_length : (readBytes memory addr len).length = len := by
  simp [readBytes]

/-- A read depends only on the bytes it covers. -/
theorem readBytes_congr (same : ∀ i < len, memory (addr + i) = other (addr + i)) :
    readBytes memory addr len = readBytes other addr len := by
  apply List.map_congr_left
  intro i member
  exact same i (List.mem_range.mp member)

/-- Two adjacent reads are one longer read. -/
theorem readBytes_append {len' : Nat} :
    readBytes memory addr len ++ readBytes memory (addr + len) len' =
      readBytes memory addr (len + len') := by
  simp [readBytes, List.range_add, Function.comp_def, Nat.add_assoc]

/-- A block of bytes is what a read returns when every byte is found in place. -/
theorem readBytes_eq (size : bytes.length = len)
    (found : ∀ i (h : i < bytes.length), memory (addr + i) = bytes[i]) :
    readBytes memory addr len = bytes := by
  apply List.ext_getElem
  · simp [size]
  · intro i h h'
    simp [readBytes, found i h']

theorem writeBytes_inside (h : i < bytes.length) :
    writeBytes memory addr bytes (addr + i) = bytes[i] := by
  simp [writeBytes, h]

theorem writeBytes_outside (h : a < addr ∨ addr + bytes.length ≤ a) :
    writeBytes memory addr bytes a = memory a := by
  unfold writeBytes
  split
  · rw [List.getElem?_eq_none (by omega), Option.getD_none]
  · rfl

/-- A byte after a write. -/
theorem writeBytes_eq : writeBytes memory addr bytes a =
    if addr ≤ a ∧ a < addr + bytes.length then (bytes[a - addr]?).getD 0 else memory a := by
  by_cases written : addr ≤ a ∧ a < addr + bytes.length
  · have below : a - addr < bytes.length := by omega
    rw [if_pos written, writeBytes, if_pos written.1, List.getElem?_eq_getElem below,
      Option.getD_some, Option.getD_some]
  · rw [if_neg written]
    exact writeBytes_outside (by omega)

/-- A read of exactly the range just written returns the block. -/
@[simp] theorem readBytes_writeBytes :
    readBytes (writeBytes memory addr bytes) addr bytes.length = bytes :=
  readBytes_eq rfl fun _ h => writeBytes_inside h

/-- A read apart from the range just written is unaffected. -/
theorem readBytes_writeBytes_apart {addr' : Nat}
    (apart : addr' + len ≤ addr ∨ addr + bytes.length ≤ addr') :
    readBytes (writeBytes memory addr bytes) addr' len = readBytes memory addr' len :=
  readBytes_congr fun _ h => writeBytes_outside (by omega)

/-- A write right behind a range extends it. -/
theorem readBytes_writeBytes_behind :
    readBytes (writeBytes memory (addr + len) bytes) addr (len + bytes.length) =
      readBytes memory addr len ++ bytes := by
  rw [← readBytes_append, readBytes_writeBytes, readBytes_writeBytes_apart (.inl (Nat.le_refl _))]

/-- A write that does not cross the end of a ring of `size` bytes, seen from the slot `start`. -/
theorem writeBytes_slot {size start offset : Nat} (below : start < size)
    (room : offset + bytes.length ≤ size - start) (h : i < size) :
    writeBytes memory (start + offset) bytes (slot size start i) =
      if offset ≤ i then (bytes[i - offset]?).getD (memory (slot size start i))
      else memory (slot size start i) := by
  have place := slot_eq below h
  by_cases wraps : start + i < size
  · rw [if_pos wraps] at place
    rw [place, writeBytes]
    have index : start + i - (start + offset) = i - offset := by omega
    simp only [index, Nat.add_le_add_iff_left]
  · rw [if_neg wraps] at place
    rw [if_pos (by omega), List.getElem?_eq_none (by omega), Option.getD_none]
    exact writeBytes_outside (by omega)

/-- A write at the beginning of the ring, where the bytes lie that come after a whole lap. -/
theorem writeBytes_slot_wrapped {size start : Nat} (below : start < size)
    (room : bytes.length ≤ start) (h : i < size) :
    writeBytes memory 0 bytes (slot size start i) =
      if size - start ≤ i then (bytes[i - (size - start)]?).getD (memory (slot size start i))
      else memory (slot size start i) := by
  have place := slot_eq below h
  by_cases wraps : start + i < size
  · rw [if_pos wraps] at place
    rw [if_neg (by omega)]
    exact writeBytes_outside (by omega)
  · rw [if_neg wraps] at place
    have index : start + i - size = i - (size - start) := by omega
    rw [if_pos (by omega), place, writeBytes, if_pos (Nat.zero_le _), Nat.sub_zero, index]

/-- A write in two pieces, the second at the beginning of the ring, is one write along the ring. -/
theorem writeBytes_slot_split {size start offset : Nat} (below : start < size)
    (headRoom : offset ≤ size - start) (room : offset + bytes.length ≤ size) (h : i < size) :
    writeBytes (writeBytes memory (start + offset) (bytes.take (size - start - offset))) 0
        (bytes.drop (size - start - offset)) (slot size start i) =
      if offset ≤ i then (bytes[i - offset]?).getD (memory (slot size start i))
      else memory (slot size start i) := by
  have firstLength : (bytes.take (size - start - offset)).length ≤ size - start - offset :=
    List.length_take_le _ _
  have restLength : (bytes.drop (size - start - offset)).length =
      bytes.length - (size - start - offset) := List.length_drop
  rw [writeBytes_slot_wrapped below (by omega) h, writeBytes_slot below (by omega) h]
  by_cases wrapped : size - start ≤ i
  · have index : size - start - offset + (i - (size - start)) = i - offset := by omega
    have beyond : (bytes.take (size - start - offset))[i - offset]? = none :=
      List.getElem?_eq_none (by omega)
    rw [if_pos wrapped, if_pos (by omega), if_pos (by omega), List.getElem?_drop, index, beyond,
      Option.getD_none]
  · rw [if_neg wrapped]
    by_cases started : offset ≤ i
    · rw [if_pos started, if_pos started, List.getElem?_take_of_lt (by omega)]
    · rw [if_neg started, if_neg started]

end

/-- The `len` bytes from place `offset` on of a ring of `size` bytes, counted from the slot
    `start`. -/
def readRing (memory : Memory) (size start offset len : Nat) : List UInt8 :=
  (List.range len).map fun i => memory (slot size start (offset + i))

section

variable {memory : Memory} {size start offset len : Nat} {bytes : List UInt8}

/-- A read that does not cross the end of the ring. -/
theorem readBytes_straight (below : start < size) (room : offset + len ≤ size - start) :
    readBytes memory (start + offset) len = readRing memory size start offset len := by
  apply List.map_congr_left
  intro i member
  have inside := List.mem_range.mp member
  rw [slot_eq below (by omega), if_pos (by omega), Nat.add_assoc]

/-- A read at the beginning of the ring continues one that has come to its end. -/
theorem readBytes_wrapped (below : start < size) (room : len ≤ start) :
    readBytes memory 0 len = readRing memory size start (size - start) len := by
  apply List.map_congr_left
  intro i member
  have inside := List.mem_range.mp member
  rw [slot_eq below (by omega), if_neg (by omega)]
  congr 1
  omega

theorem readRing_append {len' : Nat} :
    readRing memory size start offset len ++ readRing memory size start (offset + len) len' =
      readRing memory size start offset (len + len') := by
  simp [readRing, List.range_add, Function.comp_def, Nat.add_assoc]

/-- A block of bytes is what a read along the ring returns when every byte is found in place. -/
theorem readRing_eq
    (found : ∀ i (h : i < bytes.length), memory (slot size start (offset + i)) = bytes[i]) :
    readRing memory size start offset bytes.length = bytes := by
  apply List.ext_getElem
  · simp [readRing]
  · intro i h h'
    simp [readRing, found i h']

end

/-- The addresses of one of the equal cells of an area. -/
def cell (base size index : Nat) : Set Nat :=
  Set.Ico (base + index * size) (base + index * size + size)

section

variable {base size count index other : Nat}

/-- A cell lies in the area of its cells. -/
theorem cell_subset (inside : index < count) :
    cell base size index ⊆ Set.Ico base (base + count * size) := by
  have last : (index + 1) * size ≤ count * size := Nat.mul_le_mul_right size inside
  rw [Nat.succ_mul] at last
  exact Set.Ico_subset_Ico (Nat.le_add_right _ _) (by omega)

/-- Different cells have no address in common. -/
theorem cell_disjoint (differ : index ≠ other) :
    Disjoint (cell base size index) (cell base size other) := by
  have apart : ∀ {first second : Nat}, first < second →
      Disjoint (cell base size first) (cell base size second) := by
    intro first second before
    have behind : (first + 1) * size ≤ second * size := Nat.mul_le_mul_right size before
    rw [Nat.succ_mul] at behind
    have reached : base + first * size + size ≤ base + second * size := by omega
    rw [cell, cell, Set.disjoint_left]
    intro address here there
    exact absurd here.2 (Nat.not_lt_of_le (reached.trans there.1))
  rcases Nat.lt_or_gt_of_ne differ with before | behind
  · exact apart before
  · exact (apart behind).symm

end

/-- The `width` low-order bytes of a number, least significant first. -/
def toLE : Nat → Nat → List UInt8
  | 0, _ => []
  | width + 1, value => UInt8.ofNat (value % 256) :: toLE width (value / 256)

/-- The number a little-endian block of bytes stands for. -/
def fromLE : List UInt8 → Nat
  | [] => 0
  | byte :: bytes => byte.toNat + 256 * fromLE bytes

@[simp] theorem toLE_length (width value : Nat) : (toLE width value).length = width := by
  induction width generalizing value with
  | zero => rfl
  | succ width ih => simp [toLE, ih]

/-- Reading back a number that fits its width. -/
theorem fromLE_toLE {width value : Nat} (fits : value < 256 ^ width) :
    fromLE (toLE width value) = value := by
  induction width generalizing value with
  | zero => simp_all [toLE, fromLE]
  | succ width ih =>
      have high : value / 256 < 256 ^ width := by
        rw [Nat.div_lt_iff_lt_mul (by norm_num)]
        rwa [Nat.pow_succ] at fits
      have low : (UInt8.ofNat (value % 256)).toNat = value % 256 := by
        simp [UInt8.toNat_ofNat']
      rw [toLE, fromLE, ih high, low]
      omega

end LibAtbus.ByteMemory
