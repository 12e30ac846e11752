/-
Module: LibAtbus.Foundation.TagCounter
Layer: Foundation
Purpose: A counter that hands out the tags from one to its period and then begins again; zero is no
  tag. Where it is after a number of draws, and when a tag comes back.
Trusted boundary: none
Main exports: next, later, next_later, later_eq_iff
-/
import Mathlib.Data.Nat.ModEq

namespace LibAtbus.TagCounter

/-- The tag behind another one; zero is followed by the first. -/
def next (period tag : Nat) : Nat := tag % period + 1

/-- The tag that was drawn last when `draws` tags were drawn behind a given one. -/
def later (period tag draws : Nat) : Nat := (tag - 1 + draws) % period + 1

/-- The tags of a counter. -/
structure Tag (period tag : Nat) : Prop where
  pos : 0 < tag
  le : tag ≤ period

section

variable {period tag draws : Nat}

theorem next_tag (pos : 0 < period) : Tag period (next period tag) :=
  ⟨Nat.succ_pos _, Nat.mod_lt _ pos⟩

@[simp] theorem later_zero (isTag : Tag period tag) : later period tag 0 = tag := by
  have pos := isTag.pos
  have le := isTag.le
  rw [later, Nat.add_zero, Nat.mod_eq_of_lt (by omega)]
  omega

/-- One more draw. -/
theorem next_later : next period (later period tag draws) = later period tag (draws + 1) := by
  rw [next, later, later, Nat.mod_add_mod, Nat.add_assoc]

/-- A tag comes back after whole periods and at no other time. -/
theorem later_eq_iff (isTag : Tag period tag) : later period tag draws = tag ↔ period ∣ draws := by
  have pos := isTag.pos
  have le := isTag.le
  constructor
  · intro same
    unfold later at same
    have congruent : tag - 1 + 0 ≡ tag - 1 + draws [MOD period] := by
      unfold Nat.ModEq
      rw [Nat.add_zero, Nat.mod_eq_of_lt (by omega)]
      omega
    exact (Nat.modEq_zero_iff_dvd.mp (Nat.ModEq.add_left_cancel' _ congruent).symm)
  · rintro ⟨laps, rfl⟩
    rw [later, Nat.add_mul_mod_self_left, Nat.mod_eq_of_lt (by omega)]
    omega

end

end LibAtbus.TagCounter
