/-
Module: LibAtbus.Foundation.Word64
Layer: Foundation
Purpose: Unsigned 64-bit arithmetic on naturals. A `size_t` or `uint64_t` is a natural below `2 ^
  64`; sums are written with `wrap` where they can leave that range, differences with `sub`. Where
  nothing leaves the range both are the operations of the naturals.
Trusted boundary: none
Main exports: wrap, sub, succ, wrap_of_lt, sub_of_le
-/
import Mathlib.Algebra.Group.Nat.Defs

namespace LibAtbus.Word64

/-- The value modulo `2 ^ 64`. -/
def wrap (value : Nat) : Nat := value % 2 ^ 64

/-- The difference modulo `2 ^ 64` of two words. -/
def sub (left right : Nat) : Nat := (left + 2 ^ 64 - right) % 2 ^ 64

/-- The word behind another one: the greatest is followed by zero. -/
def succ (value : Nat) : Nat := if value + 1 = 2 ^ 64 then 0 else value + 1

theorem wrap_of_lt {value : Nat} (fits : value < 2 ^ 64) : wrap value = value :=
  Nat.mod_eq_of_lt fits

theorem sub_of_le {left right : Nat} (fits : left < 2 ^ 64) (below : right ≤ left) :
    sub left right = left - right := by
  unfold sub
  omega

end LibAtbus.Word64
