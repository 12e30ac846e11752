/-
Module: LibAtbus.Foundation.RingIndex
Layer: Foundation
Purpose: Index arithmetic on a ring of `n` slots. A cursor is a slot number below `n`; `slot n s k`
  is the slot `k` places after `s`, and `dist n a b` is the number of places from `a` forward to
  `b`. Everything a cursor-based ring buffer needs is stated over these two: slots at different
  offsets are different, offsets add, and `dist` inverts `slot`.
Trusted boundary: none
Main exports: slot, dist, slot_inj, slot_slot, slot_from, slot_mul, slot_dist, dist_slot
-/
import Mathlib.Data.Nat.ModEq

namespace LibAtbus.RingIndex

/-- The slot `k` places after `s` on a ring of `n` slots. -/
def slot (n s k : Nat) : Nat := (s + k) % n

/-- The number of places from slot `a` forward to slot `b`. -/
def dist (n a b : Nat) : Nat := (b + n - a) % n

section

variable {n s a b k l : Nat}

theorem slot_lt (hn : 0 < n) : slot n s k < n := Nat.mod_lt _ hn

theorem dist_lt (hn : 0 < n) : dist n a b < n := Nat.mod_lt _ hn

@[simp] theorem slot_zero (hs : s < n) : slot n s 0 = s := Nat.mod_eq_of_lt hs

/-- Offsets add along the ring. -/
@[simp] theorem slot_slot : slot n (slot n s k) l = slot n s (k + l) := by
  simp [slot, Nat.add_assoc]

/-- A whole lap leads back to the same slot. -/
@[simp] theorem slot_add_lap : slot n s (k + n) = slot n s k := by
  simp [slot, ← Nat.add_assoc]

/-- Offsets below the ring size name different slots. -/
theorem slot_inj (hk : k < n) (hl : l < n) : slot n s k = slot n s l ↔ k = l := by
  constructor
  · intro same
    have congruent : s + k ≡ s + l [MOD n] := same
    exact Nat.ModEq.eq_of_lt_of_lt (Nat.ModEq.add_left_cancel' s congruent) hk hl
  · rintro rfl
    rfl

theorem slot_ne (hk : k < n) (hl : l < n) (hne : k ≠ l) : slot n s k ≠ slot n s l :=
  fun same => hne ((slot_inj hk hl).mp same)

/-- Walking the distance from `a` to `b` ends at `b`. -/
@[simp] theorem slot_dist (ha : a ≤ n) (hb : b < n) : slot n a (dist n a b) = b := by
  have lap : a + (b + n - a) = b + n := by omega
  rw [slot, dist, Nat.add_mod_mod, lap, Nat.add_mod_right, Nat.mod_eq_of_lt hb]

/-- The distance to a slot is the offset that names it. -/
@[simp] theorem dist_slot (ha : a < n) (hk : k < n) : dist n a (slot n a k) = k := by
  have hn : 0 < n := by omega
  have back : slot n a (dist n a (slot n a k)) = slot n a k :=
    slot_dist ha.le (slot_lt hn)
  exact (slot_inj (dist_lt hn) hk).mp back

@[simp] theorem dist_self (ha : a < n) : dist n a a = 0 := by
  have reached := dist_slot (k := 0) ha (by omega)
  rwa [slot_zero ha] at reached

/-- A slot counted from `s` is found again when counting from the slot `o` places after `s`. -/
theorem slot_from {o : Nat} (ho : o ≤ n) :
    slot n s k = slot n (slot n s o) (if o ≤ k then k - o else k + n - o) := by
  rw [slot_slot]
  split
  · congr 1
    omega
  · have lap : o + (k + n - o) = k + n := by omega
    rw [lap, slot_add_lap]

/-- A ring whose slots are divided into `m` cells each is a ring of cells. -/
theorem slot_mul {m : Nat} : slot n s k * m = slot (n * m) (s * m) (k * m) := by
  rw [slot, slot, ← Nat.add_mul, Nat.mul_mod_mul_right]

/-- Where a slot lies, counted without the ring. -/
theorem slot_eq (hs : s < n) (hk : k < n) :
    slot n s k = if s + k < n then s + k else s + k - n := by
  unfold slot
  split
  · rename_i below
    exact Nat.mod_eq_of_lt below
  · rw [Nat.mod_eq_sub_mod (by omega), Nat.mod_eq_of_lt (by omega)]

end

end LibAtbus.RingIndex
