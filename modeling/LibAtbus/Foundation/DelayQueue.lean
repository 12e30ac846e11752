/-
Module: LibAtbus.Foundation.DelayQueue
Layer: Foundation
Purpose: Queues of items that wait for a time. Items are appended with times counted from a clock
  that does not go back, so a queue is in the order of its times and what is due is a prefix of it.
  A loop takes the due items off the front one by one; an item that did not lapse is appended again
  with a later time. What the loop does is what handling the due items one after the other does, and
  behind it nothing is due.
Trusted boundary: none
Main exports: isDue, Ordered, Ordered.push, Ordered.not_due, Ordered.takeWhile_eq_filter, fireDue,
  fireEach, fireDue_eq
-/
import Mathlib.Data.List.Basic
import Mathlib.Data.List.TakeWhile

namespace LibAtbus.DelayQueue

universe u v

variable {α : Type u} {σ : Type v}

/-- The time of the entry is before the present one. -/
def isDue (now : Nat) (entry : Nat × α) : Bool := entry.1 < now

/-- The times are in order, and none is after a bound. -/
structure Ordered (bound : Nat) (queue : List (Nat × α)) : Prop where
  sorted : queue.Pairwise fun first second => first.1 ≤ second.1
  within : ∀ entry ∈ queue, entry.1 ≤ bound

namespace Ordered

variable {bound now : Nat} {queue rest : List (Nat × α)}

theorem nil (bound : Nat) : Ordered bound ([] : List (Nat × α)) := ⟨.nil, by simp⟩

theorem mono (ordered : Ordered bound queue) {later : Nat} (le : bound ≤ later) :
    Ordered later queue where
  sorted := ordered.sorted
  within entry member := (ordered.within entry member).trans le

theorem sublist (ordered : Ordered bound queue) (part : rest.Sublist queue) :
    Ordered bound rest where
  sorted := ordered.sorted.sublist part
  within entry member := ordered.within entry (part.subset member)

/-- Entries whose time is that of the bound go to the end. -/
theorem append (ordered : Ordered bound queue) {added : List (Nat × α)}
    (times : ∀ entry ∈ added, entry.1 = bound) : Ordered bound (queue ++ added) where
  sorted := by
    refine List.pairwise_append.mpr ⟨ordered.sorted, ?_, ?_⟩
    · refine List.Pairwise.imp_of_mem ?_ (List.pairwise_of_forall fun _ _ => trivial)
      intro first second one two _
      rw [times first one, times second two]
    · intro first one second two
      rw [times second two]
      exact ordered.within first one
  within entry member := by
    rcases List.mem_append.mp member with old | new
    · exact ordered.within entry old
    · exact (times entry new).le

theorem push (ordered : Ordered bound queue) (item : α) :
    Ordered bound (queue ++ [(bound, item)]) :=
  ordered.append fun entry member => by rw [List.mem_singleton.mp member]

/-- Behind the due entries nothing is due. -/
theorem not_due (ordered : Ordered bound queue) : ∀ entry ∈ queue.dropWhile (isDue now),
    now ≤ entry.1 := by
  have kept := ordered.sublist (List.dropWhile_sublist (isDue now))
  cases left : queue.dropWhile (isDue now) with
  | nil => simp
  | cons first others =>
      have head : isDue now first = false := by
        have nonempty : queue.dropWhile (isDue now) ≠ [] := by simp [left]
        have stopped := List.head_dropWhile_not (isDue now) nonempty
        simpa [left] using stopped
      have begins : now ≤ first.1 := by simpa [isDue] using head
      rw [left] at kept
      intro entry member
      rcases List.mem_cons.mp member with rfl | behind
      · exact begins
      · exact begins.trans (List.rel_of_pairwise_cons kept.sorted behind)

/-- In an ordered queue the prefix has all that is due. -/
theorem takeWhile_eq_filter (ordered : Ordered bound queue) :
    queue.takeWhile (isDue now) = queue.filter (isDue now) := by
  have split := List.takeWhile_append_dropWhile (p := isDue now) (l := queue)
  have before : (queue.takeWhile (isDue now)).filter (isDue now) = queue.takeWhile (isDue now) :=
    List.filter_eq_self.mpr fun _ member => List.mem_takeWhile_imp member
  have behind : (queue.dropWhile (isDue now)).filter (isDue now) = [] := by
    refine List.filter_eq_nil_iff.mpr fun entry member => ?_
    simpa [isDue] using ordered.not_due entry member
  conv_rhs => rw [← split, List.filter_append, before, behind, List.append_nil]

end Ordered

/-! ### The loop -/

/-- Takes the due entries off the front. `fire` gives nothing for an item that has lapsed; any other
    waits again, until `next`. The first argument bounds the number of entries that are taken. -/
def fireDue (fire : σ → α → Option σ) (now next : Nat) :
    Nat → σ → List (Nat × α) → σ × List (Nat × α)
  | 0, s, queue => (s, queue)
  | _ + 1, s, [] => (s, [])
  | fuel + 1, s, (time, item) :: rest =>
      if time < now then
        match fire s item with
        | none => fireDue fire now next fuel s rest
        | some after => fireDue fire now next fuel after (rest ++ [(next, item)])
      else (s, (time, item) :: rest)

/-- Handles items one after the other, with those that did not lapse. -/
def fireEach (fire : σ → α → Option σ) : σ → List α → σ × List α
  | s, [] => (s, [])
  | s, item :: rest =>
      match fire s item with
      | none => fireEach fire s rest
      | some after => ((fireEach fire after rest).1, item :: (fireEach fire after rest).2)

section

variable {fire : σ → α → Option σ} {now next : Nat}

/-- Of what waits again behind the queue the loop takes nothing. -/
theorem fireDue_append (forward : now ≤ next) {queue armed : List (Nat × α)} {fuel : Nat} {s : σ}
    (enough : (queue.takeWhile (isDue now)).length < fuel)
    (waits : ∀ entry ∈ armed, now ≤ entry.1) :
    fireDue fire now next fuel s (queue ++ armed) =
      ((fireEach fire s ((queue.takeWhile (isDue now)).map Prod.snd)).1,
        queue.dropWhile (isDue now) ++ armed ++
          (fireEach fire s ((queue.takeWhile (isDue now)).map Prod.snd)).2.map fun item =>
            (next, item)) := by
  induction queue generalizing armed fuel s with
  | nil =>
      cases fuel with
      | zero => simp at enough
      | succ fuel =>
          cases armed with
          | nil => simp [fireDue, fireEach]
          | cons entry rest =>
              have late : ¬entry.1 < now := Nat.not_lt.mpr (waits entry (by simp))
              simp [fireDue, fireEach, late]
  | cons entry queue ih =>
      obtain ⟨time, item⟩ := entry
      cases fuel with
      | zero => simp at enough
      | succ fuel =>
          by_cases early : time < now
          · have due : isDue now (time, item) = true := by simpa [isDue] using early
            rw [List.takeWhile_cons_of_pos due, List.length_cons] at enough
            rw [List.takeWhile_cons_of_pos due, List.dropWhile_cons_of_pos due, List.cons_append,
              fireDue, if_pos early, List.map_cons, fireEach]
            cases fired : fire s item with
            | none => exact ih (by omega) waits
            | some after =>
                dsimp only
                have waits' : ∀ entry ∈ armed ++ [(next, item)], now ≤ entry.1 := by
                  intro entry member
                  rcases List.mem_append.mp member with old | new
                  · exact waits entry old
                  · rw [List.mem_singleton.mp new]
                    exact forward
                rw [List.append_assoc, ih (by omega) waits']
                simp
          · have late : isDue now (time, item) = false := by simpa [isDue] using early
            simp [fireDue, fireEach, early, late]

/-- The loop handles the due prefix and appends what did not lapse. -/
theorem fireDue_eq (forward : now ≤ next) {queue : List (Nat × α)} {fuel : Nat} {s : σ}
    (enough : queue.length < fuel) :
    fireDue fire now next fuel s queue =
      ((fireEach fire s ((queue.takeWhile (isDue now)).map Prod.snd)).1,
        queue.dropWhile (isDue now) ++
          (fireEach fire s ((queue.takeWhile (isDue now)).map Prod.snd)).2.map fun item =>
            (next, item)) := by
  have few : (queue.takeWhile (isDue now)).length < fuel :=
    (List.takeWhile_prefix (isDue now)).length_le.trans_lt enough
  have handled : fireDue fire now next fuel s (queue ++ []) = _ :=
    fireDue_append forward few (by simp)
  simpa using handled

end

end LibAtbus.DelayQueue
