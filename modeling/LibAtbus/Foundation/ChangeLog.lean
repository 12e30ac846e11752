/-
Module: LibAtbus.Foundation.ChangeLog
Layer: Foundation
Purpose: A set that is heard of only through a log of what was put into it and taken out of it. A
  log follows a set when it reports what was not in it as put in, and what was in it as taken out,
  so that whoever reads the log knows the set at every time. The logs of the steps of a run are a
  log of the run.
Trusted boundary: none
Main exports: Change, Follows, Follows.append, Follows.takes, Follows.takesAll, Follows.count,
  Follows.run
-/
import LibAtbus.Foundation.Transitions
import Mathlib.Data.Set.Insert
import Mathlib.Tactic.Common

namespace LibAtbus.ChangeLog

open Transitions

universe u v w

/-- An element was put into the set, or taken out of it. -/
inductive Change (α : Type u) where
  | added (a : α)
  | removed (a : α)
deriving DecidableEq, Repr

variable {α : Type u} {s t : Set α} {log more : List (Change α)} {a : α}

/-- The log leads from one set to another. -/
inductive Follows : Set α → List (Change α) → Set α → Prop where
  | nil {s : Set α} : Follows s [] s
  | added {s t : Set α} {a : α} {log : List (Change α)} (new : a ∉ s)
      (later : Follows (insert a s) log t) :
      Follows s (.added a :: log) t
  | removed {s t : Set α} {a : α} {log : List (Change α)} (known : a ∈ s)
      (later : Follows (s \ {a}) log t) :
      Follows s (.removed a :: log) t

theorem Follows.nil_iff : Follows s [] t ↔ s = t := by
  constructor
  · intro follows
    cases follows
    rfl
  · rintro rfl
    exact .nil

theorem Follows.append {u : Set α} (first : Follows s log t) (second : Follows t more u) :
    Follows s (log ++ more) u := by
  induction first with
  | nil => exact second
  | added new _ ih => exact .added new (ih second)
  | removed known _ ih => exact .removed known (ih second)

/-- At most one element is taken out. -/
theorem Follows.takes {taken : Option α} (known : ∀ a, taken = some a → a ∈ s)
    (left : ∀ a, a ∈ t ↔ a ∈ s ∧ taken ≠ some a) : Follows s (taken.toList.map .removed) t := by
  cases taken with
  | none =>
      refine nil_iff.mpr (Set.ext fun a => ?_)
      simp [left a]
  | some a =>
      have same : s \ {a} = t := by
        ext b
        simp [left b, eq_comm]
      exact .removed (known a rfl) (nil_iff.mpr same)

/-- All of some different elements are taken out. -/
theorem Follows.takesAll {list : List α} (nodup : list.Nodup) (known : ∀ a ∈ list, a ∈ s) :
    Follows s (list.map .removed) (s \ {a | a ∈ list}) := by
  induction list generalizing s with
  | nil => exact nil_iff.mpr (Set.ext fun b => by simp)
  | cons a list ih =>
      obtain ⟨fresh, distinct⟩ := List.nodup_cons.mp nodup
      have rest : ∀ b ∈ list, b ∈ s \ {a} := by
        intro b member
        refine ⟨known b (List.mem_cons_of_mem _ member), ?_⟩
        rintro rfl
        exact fresh member
      have later := ih distinct rest
      have same : (s \ {a}) \ {b | b ∈ list} = s \ {b | b ∈ a :: list} := by
        ext b
        simp [and_assoc]
      rw [same] at later
      exact .removed (known a List.mem_cons_self) later

open Classical in
/-- An element is put in as often as it is taken out, but for whether it is there before and
    after. -/
theorem Follows.count [DecidableEq α] (follows : Follows s log t) (a : α) :
    log.count (.added a) + (if a ∈ s then 1 else 0) = log.count (.removed a) + if a ∈ t then 1
      else 0 := by
  induction follows with
  | nil => simp
  | @added s t b log new _ ih =>
      by_cases same : b = a
      · subst same
        simp only [Set.mem_insert_iff, true_or, if_true, if_neg new, List.count_cons] at ih ⊢
        simpa using ih
      · have other : a ≠ b := fun same' => same same'.symm
        simp only [Set.mem_insert_iff, other, false_or, List.count_cons] at ih ⊢
        simpa [same] using ih
  | @removed s t b log known _ ih =>
      by_cases same : b = a
      · subst same
        simp only [Set.mem_sdiff, Set.mem_singleton_iff, not_true, and_false, if_false,
          if_pos known, List.count_cons] at ih ⊢
        simp only [reduceCtorEq, beq_iff_eq, if_false, if_true, Nat.add_zero] at ih ⊢
        omega
      · have other : a ≠ b := fun same' => same same'.symm
        simp only [Set.mem_sdiff, Set.mem_singleton_iff, other, not_false_eq_true, and_true,
          List.count_cons] at ih ⊢
        simpa [same] using ih

/-- The logs of the steps are a log of the run. -/
theorem Follows.run {σ : Type v} {β : Type w} {step : σ → β → σ → Prop} {start s : σ}
    {made : List (Transition σ β)} {content : σ → Set α} {log : Transition σ β → List (Change α)}
    (run : Run step start made s)
    (steps : ∀ t ∈ made, Follows (content t.pre) (log t) (content t.post)) :
    Follows (content start) (made.flatMap log) (content s) := by
  induction run with
  | refl => exact .nil
  | @tail made s s' a _ _ ih =>
      rw [List.flatMap_append, List.flatMap_singleton]
      exact (ih fun t member => steps t (List.mem_append_left _ member)).append
        (steps ⟨s, a, s'⟩ (by simp))

end LibAtbus.ChangeLog
