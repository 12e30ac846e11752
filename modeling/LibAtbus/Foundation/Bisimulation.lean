/-
Module: LibAtbus.Foundation.Bisimulation
Layer: Foundation
Purpose: Sequences of labels of a labelled transition system, and bisimulations. States that a
  bisimulation relates can make the same sequences of labels, and stay related while they do.
Trusted boundary: none
Main exports: Run.cons, Run.uncons, HasTrace, hasTrace_cons_iff, Bisimulation,
  Bisimulation.of_symmetric, Bisimulation.run, Bisimulation.hasTrace_iff
-/
import LibAtbus.Foundation.Transitions

namespace LibAtbus.Transitions

universe u v

variable {σ : Type u} {α : Type v}

/-- From a state a run makes a sequence of labels. -/
def HasTrace (step : σ → α → σ → Prop) (start : σ) (labels : List α) : Prop :=
  ∃ made final, Run step start made final ∧ made.map Transition.label = labels

section

variable {step : σ → α → σ → Prop} {s s' s'' : σ} {a : α} {labels : List α}
  {made : List (Transition σ α)}

/-- A run with a first step before it. -/
theorem Run.cons (first : step s a s') (run : Run step s' made s'') :
    Run step s (⟨s, a, s'⟩ :: made) s'' := by
  induction run with
  | refl => exact Run.refl.tail first
  | tail run last ih => exact ih.tail last

/-- The first step of a run, and the rest. -/
theorem Run.uncons {t : Transition σ α} (run : Run step s (t :: made) s'') :
    step s t.label t.post ∧ Run step t.post made s'' := by
  generalize whole : t :: made = all at run
  induction run generalizing made with
  | refl => cases whole
  | @tail earlier s₁ s₂ b run last ih =>
      cases earlier with
      | nil =>
          cases whole
          generalize none : ([] : List (Transition σ α)) = all at run
          cases run with
          | refl => exact ⟨last, .refl⟩
          | tail =>
              exact absurd none.symm (List.append_ne_nil_of_right_ne_nil _ (List.cons_ne_nil _ _))
      | cons t' earlier =>
          cases whole
          obtain ⟨first, rest⟩ := ih rfl
          exact ⟨first, rest.tail last⟩

theorem hasTrace_nil : HasTrace step s [] := ⟨[], s, .refl, rfl⟩

/-- A sequence of labels is made by a first step and from where that leads. -/
theorem hasTrace_cons_iff : HasTrace step s (a :: labels) ↔ ∃ s', step s a s' ∧
    HasTrace step s' labels := by
  constructor
  · rintro ⟨made, final, run, same⟩
    cases made with
    | nil => cases same
    | cons t made =>
        cases same
        obtain ⟨first, rest⟩ := run.uncons
        exact ⟨t.post, first, made, final, rest, rfl⟩
  · rintro ⟨s', first, made, final, run, rfl⟩
    exact ⟨_, final, run.cons first, rfl⟩

end

/-- Whatever step one of two related states takes, the other takes one with the same label to a
    related state. -/
structure Bisimulation (step : σ → α → σ → Prop) (related : σ → σ → Prop) : Prop where
  forth : ∀ s t a s', related s t → step s a s' → ∃ t', step t a t' ∧ related s' t'
  back : ∀ s t a t', related s t → step t a t' → ∃ s', step s a s' ∧ related s' t'

section

variable {step : σ → α → σ → Prop} {related : σ → σ → Prop} {s t : σ} {labels : List α}

/-- For a symmetric relation one direction is enough. -/
theorem Bisimulation.of_symmetric (symmetric : ∀ s t, related s t → related t s)
    (forth : ∀ s t a s', related s t → step s a s' → ∃ t', step t a t' ∧ related s' t') :
    Bisimulation step related := by
  refine ⟨forth, fun s t a t' both taken => ?_⟩
  obtain ⟨s', other, both'⟩ := forth t s a t' (symmetric s t both) taken
  exact ⟨s', other, symmetric t' s' both'⟩

/-- A run of one of two related states is matched by the other. -/
theorem Bisimulation.run (bisimulation : Bisimulation step related) (both : related s t)
    {made : List (Transition σ α)} {s' : σ} (run : Run step s made s') :
    ∃ made' t', Run step t made' t' ∧ made'.map Transition.label = made.map Transition.label ∧
      related s' t' := by
  induction run with
  | refl => exact ⟨[], t, .refl, rfl, both⟩
  | @tail made s' s'' a run last ih =>
      obtain ⟨made', t', run', labels, both'⟩ := ih
      obtain ⟨t'', last', both''⟩ := bisimulation.forth s' t' a s'' both' last
      refine ⟨_, t'', run'.tail last', ?_, both''⟩
      rw [List.map_append, List.map_append, labels]
      rfl

theorem Bisimulation.flip (bisimulation : Bisimulation step related) :
    Bisimulation step fun t s => related s t :=
  ⟨fun t s a t' both taken => bisimulation.back s t a t' both taken,
    fun t s a s' both taken => bisimulation.forth s t a s' both taken⟩

/-- Related states make the same sequences of labels. -/
theorem Bisimulation.hasTrace_iff (bisimulation : Bisimulation step related) (both : related s t) :
    HasTrace step s labels ↔ HasTrace step t labels := by
  constructor
  · rintro ⟨made, s', run, rfl⟩
    obtain ⟨made', t', run', same, -⟩ := bisimulation.run both run
    exact ⟨made', t', run', same⟩
  · rintro ⟨made, t', run, rfl⟩
    obtain ⟨made', s', run', same, -⟩ := bisimulation.flip.run both run
    exact ⟨made', s', run', same⟩

end

end LibAtbus.Transitions
