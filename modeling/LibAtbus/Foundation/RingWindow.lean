/-
Module: LibAtbus.Foundation.RingWindow
Layer: Foundation
Purpose: A sequence kept on a ring. The slots of a ring store values, and a window is the sequence
  that they hold from a slot on; it grows and shrinks at both ends, and what the other slots hold
  does not matter. Each way to change a window has a lemma that asks for the one slot that was
  written and for the others to be as before.
Trusted boundary: none
Main exports: Window, Window.concat, Window.cons, Window.dropLast, Window.tail, Window.replaceLast
-/
import LibAtbus.Foundation.RingIndex

namespace LibAtbus.RingIndex

universe u

variable {α : Type u}

/-- From a slot on, a ring of `n` slots stores the given values. -/
structure Window (n : Nat) (stored : Nat → Option α) (first : Nat) (values : List α) : Prop where
  fits : values.length ≤ n
  reads : ∀ i < values.length, stored (slot n first i) = values[i]?

section

variable {n first i : Nat} {stored stored' : Nat → Option α} {value old : α} {values : List α}

theorem Window.get (window : Window n stored first values) (below : i < values.length) :
    stored (slot n first i) = some values[i] := by
  rw [window.reads i below, List.getElem?_eq_getElem below]

/-- A value stored in the slot behind the last one. -/
theorem Window.concat (window : Window n stored first values) (room : values.length < n)
    (written : stored' (slot n first values.length) = some value)
    (others : ∀ index ≠ slot n first values.length, stored' index = stored index) :
    Window n stored' first (values ++ [value]) := by
  refine ⟨?_, fun i below => ?_⟩
  · rw [List.length_append, List.length_singleton]
    exact room
  · rw [List.length_append, List.length_singleton] at below
    rcases Nat.lt_or_eq_of_le (Nat.lt_succ_iff.mp below) with earlier | rfl
    · rw [others _ (slot_ne (by omega) room (by omega)), window.reads i earlier,
        List.getElem?_append_left earlier]
    · rw [written, List.getElem?_concat_length]

/-- A value stored in the slot before the first one. -/
theorem Window.cons (window : Window n stored first values) (room : values.length < n)
    (written : stored' (slot n first (n - 1)) = some value)
    (others : ∀ index ≠ slot n first (n - 1), stored' index = stored index) :
    Window n stored' (slot n first (n - 1)) (value :: values) := by
  refine ⟨room, fun i below => ?_⟩
  cases i with
  | zero => rwa [slot_slot, Nat.add_zero]
  | succ i =>
      have below : i < values.length := Nat.lt_of_succ_lt_succ below
      have same : slot n (slot n first (n - 1)) (i + 1) = slot n first i := by
        rw [slot_slot, ← slot_add_lap (k := i)]
        congr 1
        omega
      rw [same, others _ (slot_ne (by omega) (by omega) (by omega)), window.reads i below,
        List.getElem?_cons_succ]

/-- The window without its last value, which stays where it is. -/
theorem Window.dropLast (window : Window n stored first (values ++ [value])) :
    Window n stored first values := by
  obtain ⟨fits, reads⟩ := window
  rw [List.length_append, List.length_singleton] at fits reads
  refine ⟨by omega, fun i below => ?_⟩
  rw [reads i (by omega), List.getElem?_append_left below]

/-- The window without its first value. -/
theorem Window.tail (window : Window n stored first (value :: values)) :
    Window n stored (slot n first 1) values := by
  obtain ⟨fits, reads⟩ := window
  refine ⟨(Nat.le_succ _).trans fits, fun i below => ?_⟩
  rw [slot_slot, Nat.add_comm, reads (i + 1) (Nat.succ_lt_succ below), List.getElem?_cons_succ]

/-- Another value stored in the last slot. -/
theorem Window.replaceLast (window : Window n stored first (values ++ [old]))
    (written : stored' (slot n first values.length) = some value)
    (others : ∀ index ≠ slot n first values.length, stored' index = stored index) :
    Window n stored' first (values ++ [value]) := by
  have room : values.length < n := by
    have fits := window.fits
    rwa [List.length_append, List.length_singleton] at fits
  exact window.dropLast.concat room written others

/-- A window does not see a slot outside it. -/
theorem Window.congr (window : Window n stored first values)
    (same : ∀ i < values.length, stored' (slot n first i) = stored (slot n first i)) :
    Window n stored' first values :=
  ⟨window.fits, fun i below => (same i below).trans (window.reads i below)⟩

end

end LibAtbus.RingIndex
