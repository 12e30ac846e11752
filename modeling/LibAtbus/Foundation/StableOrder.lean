/-
Module: LibAtbus.Foundation.StableOrder
Layer: Foundation
Purpose: Which of two elements of a list comes first, before and after a stable sort, and what a
  search for the first element with a property finds.
Trusted boundary: none
Main exports: Before, Before.total, Before.asymm, before_of_find?, before_insertionSort_iff
-/
import Mathlib.Data.List.Sort

namespace LibAtbus.StableOrder

universe u

variable {α : Type u} {l : List α} {a b c : α} {p : α → Bool}

/-- The first one is in the list, and the other one behind it. -/
def Before (l : List α) (a b : α) : Prop := [a, b].Sublist l

theorem before_cons_iff : Before (c :: l) a b ↔ a = c ∧ b ∈ l ∨ Before l a b := by
  rw [Before, List.sublist_cons_iff]
  constructor
  · rintro (later | ⟨rest, same, member⟩)
    · exact .inr later
    · rw [List.cons.injEq] at same
      obtain ⟨rfl, rfl⟩ := same
      exact .inl ⟨rfl, List.singleton_sublist.mp member⟩
  · rintro (⟨rfl, member⟩ | later)
    · exact .inr ⟨[b], rfl, List.singleton_sublist.mpr member⟩
    · exact .inl later

namespace Before

theorem mem_right (before : Before l a b) : b ∈ l := List.Sublist.subset before (by simp)

/-- Of two elements one comes first. -/
theorem total (memberA : a ∈ l) (memberB : b ∈ l) (different : a ≠ b) :
    Before l a b ∨ Before l b a := by
  induction l with
  | nil => cases memberA
  | cons c l ih =>
      rw [before_cons_iff, before_cons_iff]
      rcases List.mem_cons.mp memberA with rfl | laterA
      · exact .inl (.inl ⟨rfl, (List.mem_cons.mp memberB).resolve_left different.symm⟩)
      · rcases List.mem_cons.mp memberB with rfl | laterB
        · exact .inr (.inl ⟨rfl, laterA⟩)
        · exact (ih laterA laterB).imp .inr .inr

theorem asymm (once : l.Nodup) (before : Before l a b) : ¬Before l b a := by
  induction l with
  | nil => cases before
  | cons c l ih =>
      obtain ⟨notLater, once⟩ := List.nodup_cons.mp once
      intro other
      rw [before_cons_iff] at before other
      rcases before with ⟨rfl, member⟩ | before
      · rcases other with ⟨rfl, -⟩ | other
        · exact notLater member
        · exact notLater other.mem_right
      · rcases other with ⟨rfl, -⟩ | other
        · exact notLater before.mem_right
        · exact ih once before other

theorem ne (once : l.Nodup) (before : Before l a b) : a ≠ b := by
  rintro rfl
  exact before.asymm once before

end Before

/-- What is found comes before everything else that has the property. -/
theorem before_of_find? (found : l.find? p = some a) (member : b ∈ l) (holds : p b = true)
    (different : b ≠ a) : Before l a b := by
  obtain ⟨-, earlier, later, rfl, none⟩ := List.find?_eq_some_iff_append.mp found
  have behind : b ∈ later := by
    rcases List.mem_append.mp member with early | late
    · have fails := none b early
      rw [holds] at fails
      cases fails
    · exact (List.mem_cons.mp late).resolve_left different
  have tail : Before (a :: later) a b := before_cons_iff.mpr (.inl ⟨rfl, behind⟩)
  exact List.Sublist.trans tail (List.sublist_append_right earlier _)

section

variable {r : α → α → Prop} [DecidableRel r] [Std.Total r] [IsTrans α r]

/-- A stable sort goes by the order first, and leaves what is equivalent as it is. -/
theorem before_insertionSort_iff (once : l.Nodup) (memberA : a ∈ l) (memberB : b ∈ l) :
    Before (l.insertionSort r) a b ↔ r a b ∧ (¬r b a ∨ Before l a b) := by
  have onceSorted : (l.insertionSort r).Nodup := (List.perm_insertionSort r l).nodup_iff.mpr once
  have ordered : ∀ {c d}, Before (l.insertionSort r) c d → r c d := by
    intro c d before
    exact List.pairwise_iff_forall_sublist.mp (List.pairwise_insertionSort r l) before
  constructor
  · intro before
    refine ⟨ordered before, ?_⟩
    by_cases equivalent : r b a
    · rcases Before.total memberA memberB (before.ne onceSorted) with same | swapped
      · exact .inr same
      · exact absurd (List.pair_sublist_insertionSort equivalent swapped) (before.asymm onceSorted)
    · exact .inl equivalent
  · rintro ⟨related, strict | before⟩
    · have different : a ≠ b := by
        rintro rfl
        exact strict related
      have total :=
        Before.total ((List.mem_insertionSort r).mpr memberA)
          ((List.mem_insertionSort r).mpr memberB)
        different
      exact total.resolve_right fun swapped => strict (ordered swapped)
    · exact List.pair_sublist_insertionSort related before

end

end LibAtbus.StableOrder
