/-
Module: LibAtbus.Foundation.HopBudget
Layer: Foundation
Purpose: Messages that are passed on from hand to hand. Every message carries a count that each
  transmission raises, and whoever receives one transmits it at most once more, and only below a
  limit. Where it goes to plays no part: as a message is in one place at a time, its count bounds
  all transmissions made of it, and it can not be received more often than it was transmitted.
Trusted boundary: none
Main exports: Relaying, Flights, Flights.Step, Relaying.Bounded.transmitted_le
-/
import LibAtbus.Foundation.Transitions
import Mathlib.Data.List.Perm.Basic
import Mathlib.Logic.Function.Basic

namespace LibAtbus

open Transitions

universe u v w

/-- What is transmitted when a message is started, and when one is received. -/
structure Relaying (μ : Type u) (β : Type v) (γ : Type w) where
  origin : β → List μ
  handle : γ → μ → List μ

/-- The messages in flight, each with the number of the one it was started as, and how often each
    was transmitted and received. -/
structure Flights (μ : Type u) where
  copies : List (Nat × μ) := []
  started : Nat := 0
  transmitted : Nat → Nat := fun _ => 0
  received : Nat → Nat := fun _ => 0

/-- A message is started, or one in flight is received. -/
inductive Act (μ : Type u) (β : Type v) (γ : Type w) where
  | start (how : β)
  | receive (tag : Nat) (m : μ) (how : γ)

variable {μ : Type u} {β : Type v} {γ : Type w} {relaying : Relaying μ β γ} {s s' : Flights μ}

/-- Messages are transmitted, beside those that remain in flight. -/
def Flights.transmit (s : Flights μ) (rest : List (Nat × μ)) (tag : Nat) (sent : List μ) :
    Flights μ :=
  { s with
    copies := rest ++ sent.map fun m => (tag, m)
    transmitted := Function.update s.transmitted tag (s.transmitted tag + sent.length) }

/-- One step; what is in flight is received in any order. -/
inductive Flights.Step (relaying : Relaying μ β γ) : Flights μ → Act μ β γ → Flights μ → Prop where
  | start {s : Flights μ} (how : β) :
      Step relaying s (.start how)
        { s.transmit s.copies s.started (relaying.origin how) with started := s.started + 1 }
  | receive {s : Flights μ} {tag : Nat} {m : μ} {rest : List (Nat × μ)} (how : γ)
      (arrives : s.copies.Perm ((tag, m) :: rest)) :
      Step relaying s (.receive tag m how)
        { s.transmit rest tag (relaying.handle how m) with
          received := Function.update s.received tag (s.received tag + 1) }

/-- Each transmission raises the count of the message, and none is made by who received it at the
    limit. -/
structure Relaying.Bounded (relaying : Relaying μ β γ) (hops : μ → Nat) (limit : Nat) : Prop where
  origin_length : ∀ how, (relaying.origin how).length ≤ 1
  origin_hops : ∀ how, ∀ m ∈ relaying.origin how, 1 ≤ hops m
  handle_length : ∀ how m, (relaying.handle how m).length ≤ 1
  handle_hops : ∀ how m, ∀ next ∈ relaying.handle how m, hops m < hops next ∧ hops m < limit

/-- The copies of one message. -/
def Flights.inFlight (copies : List (Nat × μ)) (tag : Nat) : Nat :=
  copies.countP fun copy => copy.1 = tag

theorem Flights.inFlight_cons (tag other : Nat) (m : μ) (copies : List (Nat × μ)) :
    inFlight ((tag, m) :: copies) other = inFlight copies other + if tag = other then 1 else 0 := by
  rw [inFlight, inFlight, List.countP_cons]
  simp

theorem Flights.inFlight_append (rest : List (Nat × μ)) (tag other : Nat) (sent : List μ) :
    inFlight (rest ++ sent.map fun m => (tag, m)) other =
      inFlight rest other + if tag = other then sent.length else 0 := by
  rw [inFlight, inFlight, List.countP_append, List.countP_map]
  by_cases same : tag = other
  · rw [if_pos same]
    simp [Function.comp_def, same]
  · rw [if_neg same]
    simp [Function.comp_def, same]

/-- What holds of the messages in flight: a message is in at most one place, it was received each
    time it was transmitted except for the copy in flight, and its count and the limit bound its
    transmissions. -/
structure Flights.Inv (hops : μ → Nat) (limit : Nat) (s : Flights μ) : Prop where
  single : ∀ tag, inFlight s.copies tag ≤ 1
  balance : ∀ tag, s.received tag + inFlight s.copies tag = s.transmitted tag
  fresh : ∀ tag, s.started ≤ tag → s.transmitted tag = 0
  counted : ∀ copy ∈ s.copies, s.transmitted copy.1 ≤ hops copy.2
  bounded : ∀ tag, s.transmitted tag ≤ limit

namespace Flights.Inv

variable {hops : μ → Nat} {limit : Nat}

theorem initial : Inv hops limit ({} : Flights μ) where
  single _ := Nat.zero_le _
  balance _ := rfl
  fresh _ _ := rfl
  counted _ member := absurd member List.not_mem_nil
  bounded _ := Nat.zero_le _

/-- At most one message is transmitted under a number with no copy in flight, below the limit. -/
theorem transmit {rest : List (Nat × μ)} {tag : Nat} {sent : List μ}
    (single : ∀ other, inFlight rest other ≤ 1) (landed : inFlight rest tag = 0)
    (counted : ∀ copy ∈ rest, s.transmitted copy.1 ≤ hops copy.2)
    (bounded : ∀ other, s.transmitted other ≤ limit) (length : sent.length ≤ 1)
    (raised : ∀ m ∈ sent, s.transmitted tag < hops m ∧ s.transmitted tag < limit) :
    (∀ other, inFlight (s.transmit rest tag sent).copies other ≤ 1) ∧
      (∀ copy ∈ (s.transmit rest tag sent).copies,
        (s.transmit rest tag sent).transmitted copy.1 ≤ hops copy.2) ∧
      ∀ other, (s.transmit rest tag sent).transmitted other ≤ limit := by
  simp only [Flights.transmit]
  have rises : ∀ m ∈ sent, s.transmitted tag + sent.length ≤ hops m ∧
      s.transmitted tag + sent.length ≤ limit := by
    intro m member
    obtain ⟨below, left⟩ := raised m member
    omega
  have apart : ∀ copy ∈ rest, copy.1 ≠ tag := by
    intro copy member same
    rw [inFlight, List.countP_eq_zero] at landed
    exact landed copy member (decide_eq_true same)
  refine ⟨fun other => ?_, fun copy member => ?_, fun other => ?_⟩
  · rw [inFlight_append]
    split
    · rename_i same
      rw [← same, landed, Nat.zero_add]
      exact length
    · exact single other
  · rcases List.mem_append.mp member with old | new
    · rw [Function.update_of_ne (apart copy old)]
      exact counted copy old
    · obtain ⟨m, made, rfl⟩ := List.mem_map.mp new
      rw [Function.update_self]
      exact (rises m made).1
  · by_cases same : other = tag
    · rw [same, Function.update_self]
      cases sent with
      | nil => exact bounded tag
      | cons m later => exact (rises m List.mem_cons_self).2
    · rw [Function.update_of_ne same]
      exact bounded other

/-- A new message keeps the invariant. -/
theorem start (holds : relaying.Bounded hops limit) (positive : 1 ≤ limit) (inv : Inv hops limit s)
    (how : β) :
    Inv hops limit { s.transmit s.copies s.started (relaying.origin how) with
      started := s.started + 1 } := by
  have none : s.transmitted s.started = 0 := inv.fresh _ (Nat.le_refl _)
  have landed : inFlight s.copies s.started = 0 := by
    have balance := inv.balance s.started
    omega
  have raised : ∀ m ∈ relaying.origin how, s.transmitted s.started < hops m ∧
      s.transmitted s.started < limit := by
    intro m member
    have hop := holds.origin_hops how m member
    omega
  obtain ⟨single, counted, bounded⟩ :=
    transmit inv.single landed inv.counted inv.bounded (holds.origin_length how) raised
  refine ⟨single, fun tag => ?_, fun tag later => ?_, counted, bounded⟩
  · have balance := inv.balance tag
    simp only [Flights.transmit, inFlight_append]
    by_cases same : s.started = tag
    · rw [if_pos same, ← same, Function.update_self]
      rw [← same] at balance
      omega
    · rw [if_neg same, Function.update_of_ne (Ne.symm same)]
      exact balance
  · have other : tag ≠ s.started := by
      rintro rfl
      exact absurd later (Nat.not_succ_le_self _)
    simp only [Flights.transmit]
    rw [Function.update_of_ne other]
    exact inv.fresh tag (Nat.le_of_succ_le later)

/-- A message that arrives and is handled keeps the invariant. -/
theorem receive (holds : relaying.Bounded hops limit) (inv : Inv hops limit s) {tag : Nat} {m : μ}
    {rest : List (Nat × μ)} (arrives : s.copies.Perm ((tag, m) :: rest)) (how : γ) :
    Inv hops limit
      { s.transmit rest tag (relaying.handle how m) with
        received := Function.update s.received tag (s.received tag + 1) } := by
  have inside : ∀ copy ∈ rest, copy ∈ s.copies :=
    fun copy member => arrives.symm.subset (List.mem_cons_of_mem _ member)
  have counts : ∀ other, inFlight s.copies other = inFlight rest other + if tag = other then 1
      else 0 := by
    intro other
    rw [← inFlight_cons tag other m, inFlight, inFlight, arrives.countP_eq]
  have single := inv.single tag
  rw [counts, if_pos rfl] at single
  have landed : inFlight rest tag = 0 := by omega
  have counted := inv.counted _ (arrives.symm.subset List.mem_cons_self)
  have raised : ∀ next ∈ relaying.handle how m, s.transmitted tag < hops next ∧
      s.transmitted tag < limit := by
    intro next member
    have hop := holds.handle_hops how m next member
    dsimp only at counted
    omega
  have alone : ∀ other, inFlight rest other ≤ 1 := by
    intro other
    have one := inv.single other
    rw [counts] at one
    omega
  obtain ⟨single, counted, bounded⟩ := transmit alone landed
    (fun copy member => inv.counted copy (inside copy member)) inv.bounded
    (holds.handle_length how m) raised
  refine ⟨single, fun other => ?_, fun other later => ?_, counted, bounded⟩
  · have balance := inv.balance other
    rw [counts] at balance
    simp only [Flights.transmit, inFlight_append]
    by_cases same : tag = other
    · subst same
      rw [if_pos rfl] at balance ⊢
      rw [Function.update_self, Function.update_self]
      omega
    · rw [if_neg same] at balance ⊢
      rw [Function.update_of_ne (Ne.symm same), Function.update_of_ne (Ne.symm same)]
      exact balance
  · have other' : other ≠ tag := by
      rintro rfl
      have balance := inv.balance other
      have none := inv.fresh other later
      rw [counts, if_pos rfl] at balance
      omega
    simp only [Flights.transmit]
    rw [Function.update_of_ne other']
    exact inv.fresh other later

/-- Every step keeps the invariant. -/
theorem step (holds : relaying.Bounded hops limit) (positive : 1 ≤ limit) {act : Act μ β γ}
    (inv : Inv hops limit s) (taken : Step relaying s act s') : Inv hops limit s' := by
  cases taken with
  | start how => exact start holds positive inv how
  | receive how arrives => exact receive holds inv arrives how

end Flights.Inv

/-- In every run each message is transmitted at most as often as the limit says, and received at
    most as often as it is transmitted. -/
theorem Relaying.Bounded.transmitted_le {hops : μ → Nat} {limit : Nat}
    (holds : relaying.Bounded hops limit) (positive : 1 ≤ limit)
    {made : List (Transition (Flights μ) (Act μ β γ))} (run : Run (Flights.Step relaying) {} made s)
    (tag : Nat) : s.transmitted tag ≤ limit ∧ s.received tag ≤ s.transmitted tag := by
  have preserved : ∀ t : Transition (Flights μ) (Act μ β γ), Flights.Inv hops limit t.pre →
      Flights.Step relaying t.pre t.label t.post → True → Flights.Inv hops limit t.post :=
    fun t inv taken _ => inv.step holds positive taken
  have inv : Flights.Inv hops limit s := run.invariant Flights.Inv.initial preserved fun _ _ =>
    trivial
  have balance := inv.balance tag
  exact ⟨inv.bounded tag, by omega⟩

end LibAtbus
