/-
Module: LibAtbus.Proofs.BurstDetection
Layer: Proofs
Purpose: The checksums detect every change within four bytes, `crc64` within eight: the top bytes of
  each table are a permutation, so that both are registers driven by a table.
Trusted boundary: none
Main exports: crc32Register, crc64Register, toBitVec_crc32, toBitVec_crc64, checksums_detect_bursts
-/
import LibAtbus.Detail.Crc
import LibAtbus.Foundation.TableRegister

namespace LibAtbus.Detail

/-! ### Tables -/

/-- The index of an entry from its top byte. An entry is the mix of the entries of the bits of its
    index, so those indices whose entries have a single bit at the top are enough. -/
def indexOfTop : List Nat → Nat → Nat
  | [], _ => 0
  | index :: indices, top => (if top % 2 = 1 then index else 0) ^^^ indexOfTop indices (top / 2)

/-- A function that gives the index of every entry back tells the entries apart. -/
theorem eq_of_index {α β : Type} {table : Array α} {absent : α} (size : table.size = 256)
    (top : α → β) (indexOf : β → Nat)
    (back : ∀ entry ∈ table.toList.zipIdx, indexOf (top entry.1) = entry.2) {left right : BitVec 8}
    (same : top (table.getD left.toNat absent) = top (table.getD right.toNat absent)) :
    left = right := by
  have index : ∀ index : BitVec 8, indexOf (top (table.getD index.toNat absent)) = index.toNat := by
    intro index
    have inside : index.toNat < table.size := size ▸ index.isLt
    have entry : table.toList[index.toNat]? = some (table.getD index.toNat absent) := by
      rw [Array.getElem?_toList, Array.getD_eq_getD_getElem?, Array.getElem?_eq_getElem inside,
        Option.getD_some]
    exact back (table.getD index.toNat absent, index.toNat) (List.mem_zipIdx_iff_getElem?.mpr entry)
  exact BitVec.eq_of_toNat_eq
    ((index left).symm.trans ((congrArg indexOf same).trans (index right)))

theorem crc32Tab_size : crc32Tab.size = 256 := by decide +kernel

theorem crc64Tab_size : crc64Tab.size = 256 := by decide +kernel

theorem crc32Tab_top : ∀ entry ∈ crc32Tab.toList.zipIdx,
    indexOfTop [65, 195, 134, 77, 154, 117, 234, 149] (entry.1.toNat / 2 ^ 24) = entry.2 := by
  decide +kernel

theorem crc64Tab_top : ∀ entry ∈ crc64Tab.toList.zipIdx,
    indexOfTop [107, 214, 172, 51, 102, 167, 37, 33] (entry.1.toNat / 2 ^ 56) = entry.2 := by
  decide +kernel

/-- `crc32_tab` as the table of a register of four bytes. -/
def crc32Register : RegisterTable 4 where
  entry index := (crc32Tab.getD index.toNat 0).toBitVec
  top {left right} same := by
    have tops := congrArg BitVec.toNat same
    simp only [BitVec.toNat_ushiftRight, Nat.shiftRight_eq_div_pow] at tops
    exact eq_of_index crc32Tab_size (fun entry : UInt32 => entry.toNat / 2 ^ 24) _ crc32Tab_top tops

/-- `crc64_tab` as the table of a register of eight bytes. -/
def crc64Register : RegisterTable 8 where
  entry index := (crc64Tab.getD index.toNat 0).toBitVec
  top {left right} same := by
    have tops := congrArg BitVec.toNat same
    simp only [BitVec.toNat_ushiftRight, Nat.shiftRight_eq_div_pow] at tops
    exact eq_of_index crc64Tab_size (fun entry : UInt64 => entry.toNat / 2 ^ 56) _ crc64Tab_top tops

theorem crc32Register_entry (index : BitVec 8) :
    crc32Register.entry index = (crc32Tab.getD index.toNat 0).toBitVec := by
  rw [crc32Register]

theorem crc64Register_entry (index : BitVec 8) :
    crc64Register.entry index = (crc64Tab.getD index.toNat 0).toBitVec := by
  rw [crc64Register]

/-! ### Checksums -/

/-- A step of `crc32` is one of the register. -/
theorem toBitVec_crc32Step (crc : UInt32) (byte : UInt8) :
    (crc32Step crc byte).toBitVec = crc32Register.step crc.toBitVec byte.toBitVec := by
  have shifted : (crc >>> 8).toBitVec = crc.toBitVec >>> 8 := rfl
  have selected : (crc.toUInt8 ^^^ byte).toBitVec = crc.toBitVec.setWidth 8 ^^^ byte.toBitVec := rfl
  rw [crc32Step, RegisterTable.step, RegisterTable.select, UInt32.toBitVec_xor, shifted, ← selected,
    crc32Register_entry, UInt8.toNat_toBitVec]

/-- `crc32` is a run of the register. -/
theorem toBitVec_crc32 (crc : UInt32) (bytes : List UInt8) :
    (crc32 crc bytes).toBitVec = crc32Register.run crc.toBitVec (bytes.map UInt8.toBitVec) := by
  induction bytes generalizing crc with
  | nil => rfl
  | cons byte bytes ih =>
      rw [List.map_cons, RegisterTable.run_cons, ← toBitVec_crc32Step, ← ih]
      rfl

/-- A step of `crc64` is one of the register. -/
theorem toBitVec_crc64Step (crc : UInt64) (byte : UInt8) :
    (crc64Step crc byte).toBitVec = crc64Register.step crc.toBitVec byte.toBitVec := by
  have shifted : (crc >>> 8).toBitVec = crc.toBitVec >>> 8 := rfl
  have selected : (crc.toUInt8 ^^^ byte).toBitVec = crc.toBitVec.setWidth 8 ^^^ byte.toBitVec := rfl
  rw [crc64Step, RegisterTable.step, RegisterTable.select, UInt64.toBitVec_xor, shifted, ← selected,
    crc64Register_entry, UInt8.toNat_toBitVec]

/-- `crc64` is a run of the register. -/
theorem toBitVec_crc64 (crc : UInt64) (bytes : List UInt8) :
    (crc64 crc bytes).toBitVec = crc64Register.run crc.toBitVec (bytes.map UInt8.toBitVec) := by
  induction bytes generalizing crc with
  | nil => rfl
  | cons byte bytes ih =>
      rw [List.map_cons, RegisterTable.run_cons, ← toBitVec_crc64Step, ← ih]
      rfl

/-- Strings of bytes differ where the bits of their bytes do. -/
theorem differsWithin_toBitVec {width : Nat} {left right : List UInt8}
    (differs : DiffersWithin width left right) :
    DiffersWithin width (left.map UInt8.toBitVec) (right.map UInt8.toBitVec) := by
  obtain ⟨length, different, start, agree⟩ := differs
  have injective : Function.Injective (List.map UInt8.toBitVec) :=
    List.map_injective_iff.mpr fun _ _ => UInt8.eq_of_toBitVec_eq
  refine ⟨by rw [List.length_map, List.length_map, length], fun same => different (injective same),
    start, ?_⟩
  intro place outside
  rw [List.getElem?_map, List.getElem?_map, agree place outside]

/-- Two strings that differ only within four consecutive bytes have different `crc32`, and only
    within eight different `crc64`, from every start value and with anything common behind them. -/
theorem checksums_detect_bursts :
    (∀ (crc : UInt32) (left right behind : List UInt8), DiffersWithin 4 left right →
      crc32 crc (left ++ behind) ≠ crc32 crc (right ++ behind)) ∧
    ∀ (crc : UInt64) (left right behind : List UInt8), DiffersWithin 8 left right →
      crc64 crc (left ++ behind) ≠ crc64 crc (right ++ behind) := by
  constructor
  · intro crc left right behind differs same
    have runs := congrArg UInt32.toBitVec same
    rw [toBitVec_crc32, toBitVec_crc32, List.map_append, List.map_append] at runs
    exact RegisterTable.run_ne_of_differsWithin (by decide) (differsWithin_toBitVec differs)
      _ _ runs
  · intro crc left right behind differs same
    have runs := congrArg UInt64.toBitVec same
    rw [toBitVec_crc64, toBitVec_crc64, List.map_append, List.map_append] at runs
    exact RegisterTable.run_ne_of_differsWithin (by decide) (differsWithin_toBitVec differs)
      _ _ runs

/-- The second of two bytes, before one more. -/
theorem checksums_detect_bursts_byte :
    crc32 0 ([0x61, 0x62] ++ [1]) ≠ crc32 0 ([0x61, 0x63] ++ [1]) ∧
      crc64 0 ([0x61, 0x62] ++ [1]) ≠ crc64 0 ([0x61, 0x63] ++ [1]) := by
  have differs : ∀ width, DiffersWithin (width + 1) ([0x61, 0x62] : List UInt8) [0x61, 0x63] := by
    intro width
    refine ⟨rfl, by decide, 1, ?_⟩
    rintro (_ | _ | place) (before | behind)
    · rfl
    · omega
    · omega
    · omega
    · omega
    · rfl
  exact ⟨checksums_detect_bursts.1 0 _ _ _ (differs 3),
    checksums_detect_bursts.2 0 _ _ _ (differs 7)⟩

end LibAtbus.Detail
