/-
Module: LibAtbus.Foundation.Transitions
Layer: Foundation
Purpose: Labelled transition systems and the induction over their runs. A run keeps every transition
  it made, so a property of a run can speak of each of its steps and of the state that step was
  taken in. The rules package the induction once: what one step preserves, and establishes about
  itself, holds of every step of every run, where the steps may be required to meet a side
  condition.
Trusted boundary: none
Main exports: Transition, Run, Run.append, Run.forall_transition, Run.invariant, Run.conserved,
  Run.forall_iff
-/
import Mathlib.Data.List.Basic

namespace LibAtbus.Transitions

universe u v w

/-- One step of a run: the state before it, its label and the state after it. -/
structure Transition (σ : Type u) (α : Type v) where
  pre : σ
  label : α
  post : σ

variable {σ : Type u} {α : Type v}

/-- The runs of a step relation from a start state, with the transitions made so far. -/
inductive Run (step : σ → α → σ → Prop) (start : σ) : List (Transition σ α) → σ → Prop where
  | refl : Run step start [] start
  | tail {made : List (Transition σ α)} {s s' : σ} {a : α}
      (run : Run step start made s) (last : step s a s') :
      Run step start (made ++ [⟨s, a, s'⟩]) s'

section

variable {step : σ → α → σ → Prop} {start s : σ} {made : List (Transition σ α)}
  {inv : σ → Prop} {meets holds : Transition σ α → Prop}

/-- A run goes on where another ended. -/
theorem Run.append {more : List (Transition σ α)} {s' : σ} (run : Run step start made s)
    (later : Run step s more s') : Run step start (made ++ more) s' := by
  induction later with
  | refl => rwa [List.append_nil]
  | tail _ last ih =>
      rw [← List.append_assoc]
      exact ih.tail last

/-- The invariant rule, together with what each step establishes about itself: if the invariant
    holds at the start and every step from an invariant state that meets the side condition keeps
    the invariant and has the property, then a run whose steps all meet the side condition ends in
    an invariant state and all its steps have the property. -/
theorem Run.forall_transition (run : Run step start made s) (initial : inv start)
    (preserved : ∀ t : Transition σ α, inv t.pre → step t.pre t.label t.post → meets t →
      inv t.post ∧ holds t)
    (condition : ∀ t ∈ made, meets t) : inv s ∧ ∀ t ∈ made, holds t := by
  induction run with
  | refl => exact ⟨initial, by simp⟩
  | @tail made s s' a run last ih =>
      obtain ⟨invS, earlier⟩ := ih fun t member => condition t (by simp [member])
      obtain ⟨invS', this⟩ := preserved ⟨s, a, s'⟩ invS last (condition _ (by simp))
      refine ⟨invS', fun t member => ?_⟩
      rcases List.mem_append.mp member with old | new
      · exact earlier t old
      · rw [List.mem_singleton.mp new]
        exact this

/-- The invariant rule, for runs whose steps all meet a side condition. -/
theorem Run.invariant (run : Run step start made s) (initial : inv start)
    (preserved : ∀ t : Transition σ α, inv t.pre → step t.pre t.label t.post → meets t → inv t.post)
    (condition : ∀ t ∈ made, meets t) : inv s := by
  have keeps : ∀ t : Transition σ α, inv t.pre → step t.pre t.label t.post → meets t →
      inv t.post ∧ True :=
    fun t invPre taken met => ⟨preserved t invPre taken met, trivial⟩
  exact (run.forall_transition initial keeps condition).1

/-- A first-in first-out stock over a run: when every step takes what it takes off the front and
    puts what it puts behind, all that was there or came is, in order, all that left followed by all
    that is still there. -/
theorem Run.conserved {ι : Type w} {stock : σ → List ι} {inflow outflow : Transition σ α → List ι}
    (run : Run step start made s) (initial : inv start)
    (moves : ∀ t : Transition σ α, inv t.pre → step t.pre t.label t.post →
      inv t.post ∧ stock t.pre ++ inflow t = outflow t ++ stock t.post) :
    inv s ∧ stock start ++ made.flatMap inflow = made.flatMap outflow ++ stock s := by
  induction run with
  | refl => exact ⟨initial, by simp⟩
  | @tail made s s' a run last ih =>
      obtain ⟨invS, earlier⟩ := ih
      obtain ⟨invS', moved⟩ := moves ⟨s, a, s'⟩ invS last
      refine ⟨invS', ?_⟩
      rw [List.flatMap_append, List.flatMap_append, ← List.append_assoc, earlier, List.append_assoc,
        List.append_assoc, List.flatMap_singleton, List.flatMap_singleton, moved]

/-- When a step from an invariant state has the property exactly if it meets the side condition, and
    then keeps the invariant, all steps of a run have the property exactly if all of them meet the
    condition. -/
theorem Run.forall_iff (run : Run step start made s) (initial : inv start)
    (preserved : ∀ t : Transition σ α, inv t.pre → step t.pre t.label t.post → meets t → inv t.post)
    (holds_iff : ∀ t : Transition σ α, inv t.pre → step t.pre t.label t.post →
      (holds t ↔ meets t)) : (∀ t ∈ made, holds t) ↔ ∀ t ∈ made, meets t := by
  constructor
  · intro all
    have keeps : ∀ t : Transition σ α, inv t.pre → step t.pre t.label t.post → holds t →
        inv t.post ∧ meets t := by
      intro t invPre taken this
      have met := (holds_iff t invPre taken).mp this
      exact ⟨preserved t invPre taken met, met⟩
    exact (run.forall_transition initial keeps all).2
  · intro all
    have keeps : ∀ t : Transition σ α, inv t.pre → step t.pre t.label t.post → meets t →
        inv t.post ∧ holds t :=
      fun t invPre taken met => ⟨preserved t invPre taken met, (holds_iff t invPre taken).mpr met⟩
    exact (run.forall_transition initial keeps all).2

end

end LibAtbus.Transitions
