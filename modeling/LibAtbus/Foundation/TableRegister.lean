/-
Module: LibAtbus.Foundation.TableRegister
Layer: Foundation
Purpose: Checksum registers that are driven by a table, one byte at a time: the low byte of the
  register, mixed with the byte that comes in, selects the entry that is mixed into the shifted
  register. When the top bytes of the entries are a permutation a step can be undone, and so many of
  the last steps as the register has bytes leave in it which entries they selected. So a change
  within that many bytes is never lost.
Trusted boundary: none
Main exports: RegisterTable, RegisterTable.step, RegisterTable.run, RegisterTable.run_injective,
  RegisterTable.bytes_eq_of_run_eq, DiffersWithin, DiffersWithin.split,
  RegisterTable.run_ne_of_differsWithin
-/
import Mathlib.Data.BitVec
import Mathlib.Data.List.Basic

namespace LibAtbus

universe u

/-! ### Strings that differ in a window -/

/-- The strings have the same length and differ, but only within some `width` consecutive places. -/
def DiffersWithin {α : Type u} (width : Nat) (left right : List α) : Prop :=
  left.length = right.length ∧ left ≠ right ∧
    ∃ start, ∀ place, place < start ∨ start + width ≤ place → left[place]? = right[place]?

/-- The strings agree before a window and behind it. -/
theorem DiffersWithin.split {α : Type u} {width : Nat} {left right : List α}
    (differs : DiffersWithin width left right) :
    ∃ before old new behind : List α, left = before ++ (old ++ behind) ∧
      right = before ++ (new ++ behind) ∧
      old.length = new.length ∧ old.length ≤ width ∧ old ≠ new := by
  obtain ⟨length, different, start, agree⟩ := differs
  have before : left.take start = right.take start := by
    apply List.ext_getElem?
    intro place
    rw [List.getElem?_take, List.getElem?_take]
    split
    · exact agree place (.inl ‹_›)
    · rfl
  have behind : left.drop (start + width) = right.drop (start + width) := by
    apply List.ext_getElem?
    intro place
    rw [List.getElem?_drop, List.getElem?_drop]
    exact agree _ (.inr (Nat.le_add_right _ _))
  have parts : ∀ bytes : List α,
      bytes = bytes.take start ++
        ((bytes.drop start).take width ++ bytes.drop (start + width)) := by
    intro bytes
    rw [← List.drop_drop, List.take_append_drop, List.take_append_drop]
  refine ⟨left.take start, (left.drop start).take width, (right.drop start).take width,
    left.drop (start + width), parts left, ?_, ?_, ?_, ?_⟩
  · rw [before, behind]
    exact parts right
  · rw [List.length_take, List.length_take, List.length_drop, List.length_drop, length]
  · exact List.length_take_le width _
  · intro same
    apply different
    rw [parts left, parts right, before, same, behind]

/-! ### Registers -/

/-- The entries of a register of `size` bytes. Their top bytes are all different. -/
structure RegisterTable (size : Nat) where
  entry : BitVec 8 → BitVec (8 * size)
  top : ∀ {left right : BitVec 8},
    entry left >>> (8 * (size - 1)) = entry right >>> (8 * (size - 1)) → left = right

namespace RegisterTable

variable {size : Nat} (table : RegisterTable size)

/-- The entry that a byte selects. -/
def select (register : BitVec (8 * size)) (byte : BitVec 8) : BitVec 8 :=
  register.setWidth 8 ^^^ byte

/-- One byte. -/
def step (register : BitVec (8 * size)) (byte : BitVec 8) : BitVec (8 * size) :=
  table.entry (select register byte) ^^^ (register >>> 8)

/-- The bytes of a string. -/
def run (register : BitVec (8 * size)) (bytes : List (BitVec 8)) : BitVec (8 * size) :=
  bytes.foldl table.step register

@[simp]
theorem run_nil (register : BitVec (8 * size)) : table.run register [] = register := rfl

@[simp]
theorem run_cons (register : BitVec (8 * size)) (byte : BitVec 8) (bytes : List (BitVec 8)) :
    table.run register (byte :: bytes) = table.run (table.step register byte) bytes := rfl

theorem run_append (register : BitVec (8 * size)) (first second : List (BitVec 8)) :
    table.run register (first ++ second) = table.run (table.run register first) second :=
  List.foldl_append

variable {table} {left right : BitVec (8 * size)} {lost : Nat}

/-- The registers agree but for their low bytes. -/
def AgreeAbove (lost : Nat) (left right : BitVec (8 * size)) : Prop :=
  left >>> (8 * lost) = right >>> (8 * lost)

theorem agreeAbove_zero : AgreeAbove 0 left right ↔ left = right := by
  simp [AgreeAbove]

/-- The byte that is shifted out leaves nothing at the top. -/
theorem shifted_top (positive : 0 < size) (register : BitVec (8 * size)) :
    register >>> 8 >>> (8 * (size - 1)) = 0#(8 * size) := by
  rw [← BitVec.shiftRight_add]
  apply BitVec.eq_of_toNat_eq
  rw [BitVec.toNat_ushiftRight, Nat.shiftRight_eq_div_pow, BitVec.toNat_ofNat, Nat.zero_mod]
  apply Nat.div_eq_of_lt
  have width : 8 + 8 * (size - 1) = 8 * size := by omega
  rw [width]
  exact register.isLt

/-- The top byte of the register behind a step is that of the entry. -/
theorem step_top (positive : 0 < size) (register : BitVec (8 * size)) (byte : BitVec 8) :
    table.step register byte >>> (8 * (size - 1)) =
      table.entry (select register byte) >>> (8 * (size - 1)) := by
  rw [step, BitVec.ushiftRight_xor_distrib, shifted_top positive, BitVec.xor_zero]

/-- One step back: as long as the top bytes agree, both steps selected the same entry, and the
    registers before them agree but for one byte more. -/
theorem AgreeAbove.back {leftByte rightByte : BitVec 8} (room : lost < size)
    (agree : AgreeAbove lost (table.step left leftByte) (table.step right rightByte)) :
    select left leftByte = select right rightByte ∧ AgreeAbove (lost + 1) left right := by
  have positive : 0 < size := Nat.lt_of_le_of_lt (Nat.zero_le lost) room
  have tops : table.step left leftByte >>> (8 * (size - 1)) = table.step right rightByte >>>
      (8 * (size - 1)) := by
    have further : 8 * lost + 8 * (size - 1 - lost) = 8 * (size - 1) := by omega
    rw [← further, BitVec.shiftRight_add, BitVec.shiftRight_add, agree]
  rw [step_top positive, step_top positive] at tops
  have selected := table.top tops
  refine ⟨selected, ?_⟩
  rw [AgreeAbove, step, step, selected, BitVec.ushiftRight_xor_distrib,
    BitVec.ushiftRight_xor_distrib,
    BitVec.xor_right_inj, ← BitVec.shiftRight_add, ← BitVec.shiftRight_add] at agree
  rw [AgreeAbove, show 8 * (lost + 1) = 8 + 8 * lost by omega]
  exact agree

/-- From equal registers the byte follows from the entry it selects. -/
theorem select_injective {leftByte rightByte : BitVec 8}
    (same : select left leftByte = select left rightByte) : leftByte = rightByte :=
  (BitVec.xor_right_inj _).mp same

/-- Back over a string: the registers before it agree but for as many bytes as it has, and from
    equal registers the strings are equal. The induction is on the strings; only their last bytes
    leave equal registers, so the registers behind them may differ in low bytes. -/
theorem AgreeAbove.back_run : ∀ {leftBytes rightBytes : List (BitVec 8)}
    {left right : BitVec (8 * size)},
    leftBytes.length = rightBytes.length → lost + leftBytes.length ≤ size →
    AgreeAbove lost (table.run left leftBytes) (table.run right rightBytes) →
      AgreeAbove (lost + leftBytes.length) left right ∧ (left = right → leftBytes = rightBytes)
  | [], [], left, right, _, _, agree => ⟨agree, fun _ => rfl⟩
  | leftByte :: leftBytes, rightByte :: rightBytes, left, right, length, room, agree => by
      rw [List.length_cons] at room
      have shorter : leftBytes.length = rightBytes.length := Nat.succ.inj length
      obtain ⟨near, rest⟩ := AgreeAbove.back_run shorter (by omega) agree
      obtain ⟨selected, before⟩ := near.back (by omega)
      refine ⟨before, ?_⟩
      rintro rfl
      obtain rfl := select_injective selected
      rw [rest rfl]

/-- Steps over the same bytes can be undone. -/
theorem run_injective (positive : 0 < size) (bytes : List (BitVec 8))
    (same : table.run left bytes = table.run right bytes) : left = right := by
  induction bytes generalizing left right with
  | nil => exact same
  | cons byte bytes ih =>
      obtain ⟨selected, above⟩ := (agreeAbove_zero.mpr (ih same)).back positive
      -- the low bytes are mixed with the same byte
      have low : left.setWidth 8 = right.setWidth 8 := (BitVec.xor_left_inj _).mp selected
      apply BitVec.eq_of_getLsbD_eq
      intro place inside
      by_cases small : place < 8
      · have bit := congrArg (fun register => register.getLsbD place) low
        simpa [BitVec.getLsbD_setWidth, small] using bit
      · have bit := congrArg (fun register => register.getLsbD (place - 8)) above
        simpa [BitVec.getLsbD_ushiftRight, Nat.add_sub_cancel' (Nat.not_lt.mp small)] using bit

/-- Strings of at most as many bytes as the register has are told apart. -/
theorem bytes_eq_of_run_eq {leftBytes rightBytes : List (BitVec 8)} {register : BitVec (8 * size)}
    (length : leftBytes.length = rightBytes.length) (short : leftBytes.length ≤ size)
    (same : table.run register leftBytes = table.run register rightBytes) :
    leftBytes = rightBytes :=
  (AgreeAbove.back_run length (by omega) (agreeAbove_zero.mpr same)).2 rfl

/-- A change within as many consecutive bytes as the register has is detected, whatever follows. -/
theorem run_ne_of_differsWithin {leftBytes rightBytes : List (BitVec 8)} (positive : 0 < size)
    (differs : DiffersWithin size leftBytes rightBytes) (register : BitVec (8 * size))
    (behind : List (BitVec 8)) :
    table.run register (leftBytes ++ behind) ≠ table.run register (rightBytes ++ behind) := by
  obtain ⟨before, old, new, suffix, rfl, rfl, length, short, different⟩ := differs.split
  intro same
  have strings : table.run register (before ++ (old ++ suffix)) = table.run register
      (before ++ (new ++ suffix)) := by
    rw [run_append _ _ _ behind, run_append _ _ _ behind] at same
    exact run_injective positive behind same
  have windows : table.run (table.run register before) old =
      table.run (table.run register before) new := by
    rw [run_append, run_append, run_append, run_append] at strings
    exact run_injective positive suffix strings
  exact different (bytes_eq_of_run_eq length short windows)

end RegisterTable

end LibAtbus
