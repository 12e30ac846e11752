/-
Module: LibAtbus.Foundation.CircularLayout
Layer: Foundation
Purpose: Regions one behind the other in an area that is used in a circle. The regions are a
  sequence that grows and shrinks at both ends; new ones at the back go where the free space begins,
  or to the start of the area. They lie in order before the free space, or the first of them behind
  it and the others before it, and then a byte at least is left free in between. Every way to add or
  to remove a region keeps that; in it the regions are apart and none has the beginning of the free
  space.
Trusted boundary: none
Main exports: Region, Stacked, Circular, Circular.apart, Circular.popBack, Circular.popFront,
  backPlace, frontPlace, Circular.placeBack, Circular.placeFront
-/
import Mathlib.Algebra.GroupWithZero.Nat
import Mathlib.Data.List.Pairwise
import Mathlib.Order.Nat

namespace LibAtbus.CircularLayout

/-- A range of addresses. -/
structure Region where
  start : Nat
  length : Nat
deriving DecidableEq, Repr

/-- The first address behind a region. -/
def Region.stop (region : Region) : Nat := region.start + region.length

/-- The regions have no address in common. -/
def Region.Apart (first second : Region) : Prop :=
  first.stop ≤ second.start ∨ second.stop ≤ first.start

theorem Region.Apart.symm {first second : Region} (apart : first.Apart second) :
    second.Apart first := Or.symm apart

instance : Std.Symm Region.Apart := ⟨fun _ _ => Region.Apart.symm⟩

theorem Region.Apart.start_ne {first second : Region} (apart : first.Apart second)
    (firstLong : 0 < first.length) (secondLong : 0 < second.length) :
    first.start ≠ second.start := by
  unfold Region.Apart Region.stop at apart
  omega

/-! ### Stacks -/

/-- The regions lie in order between two addresses. -/
def Stacked (low high : Nat) : List Region → Prop
  | [] => low ≤ high
  | region :: regions => low ≤ region.start ∧ Stacked region.stop high regions

section

variable {low high low' high' : Nat} {region other : Region} {regions later : List Region}

theorem Stacked.le (stacked : Stacked low high regions) : low ≤ high := by
  induction regions generalizing low with
  | nil => exact stacked
  | cons region regions ih =>
      obtain ⟨start, stacked⟩ := stacked
      have behind := ih stacked
      rw [Region.stop] at behind
      omega

theorem Stacked.mono (stacked : Stacked low high regions) (below : low' ≤ low)
    (above : high ≤ high') : Stacked low' high' regions := by
  induction regions generalizing low low' with
  | nil => exact below.trans ((show low ≤ high from stacked).trans above)
  | cons region regions ih => exact ⟨below.trans stacked.1, ih stacked.2 (le_refl _)⟩

theorem stacked_append_iff : Stacked low high (regions ++ later) ↔
    ∃ mid, Stacked low mid regions ∧ Stacked mid high later := by
  induction regions generalizing low with
  | nil =>
      constructor
      · exact fun stacked => ⟨low, le_refl _, stacked⟩
      · rintro ⟨mid, between, stacked⟩
        exact stacked.mono between (le_refl _)
  | cons region regions ih =>
      simp only [List.cons_append, Stacked, ih]
      constructor
      · rintro ⟨start, mid, first, second⟩
        exact ⟨mid, ⟨start, first⟩, second⟩
      · rintro ⟨mid, ⟨start, first⟩, second⟩
        exact ⟨start, mid, first, second⟩

theorem stacked_concat_iff : Stacked low high (regions ++ [region]) ↔
    Stacked low region.start regions ∧ region.stop ≤ high := by
  rw [stacked_append_iff]
  constructor
  · rintro ⟨mid, first, start, stop⟩
    exact ⟨first.mono (le_refl _) start, stop⟩
  · rintro ⟨first, stop⟩
    exact ⟨region.start, first, le_refl _, stop⟩

theorem Stacked.mem (stacked : Stacked low high regions) (member : region ∈ regions) :
    low ≤ region.start ∧ region.stop ≤ high := by
  obtain ⟨before, behind, rfl⟩ := List.append_of_mem member
  obtain ⟨mid, first, start, second⟩ := stacked_append_iff.mp stacked
  exact ⟨first.le.trans start, second.le⟩

/-- Together the regions are no longer than the space between the addresses. -/
theorem Stacked.sum_le (stacked : Stacked low high regions) :
    low + (regions.map Region.length).sum ≤ high := by
  induction regions generalizing low with
  | nil => exact stacked
  | cons region regions ih =>
      obtain ⟨start, stacked⟩ := stacked
      have rest := ih stacked
      rw [Region.stop] at rest
      rw [List.map_cons, List.sum_cons]
      omega

theorem Stacked.apart (stacked : Stacked low high regions) : regions.Pairwise Region.Apart := by
  induction regions generalizing low with
  | nil => exact .nil
  | cons region regions ih =>
      refine .cons (fun other member => .inl ?_) (ih stacked.2)
      exact (stacked.2.mem member).1

end

/-! ### The circle -/

/-- How the regions lie in an area of some size whose free space begins at an address. -/
inductive Circular (size free : Nat) : List Region → Prop where
  | straight {regions : List Region} (stacked : Stacked 0 free regions) (within : free ≤ size) :
      Circular size free regions
  | wrapped {first : Region} {rest low : List Region}
      (front : Stacked (free + 1) size (first :: rest))
      (back : Stacked 0 free low) : Circular size free (first :: rest ++ low)

section

variable {size free length : Nat} {first region : Region} {regions rest : List Region}

/-- Nothing lies in an area from its beginning on. -/
theorem Circular.empty (size : Nat) : Circular size 0 [] := .straight (le_refl 0) (Nat.zero_le size)

theorem Circular.free_le (circular : Circular size free regions) : free ≤ size := by
  cases circular with
  | straight stacked within => exact within
  | wrapped front back => exact (Nat.le_succ free).trans front.le

/-- The regions lie in the area. -/
theorem Circular.stop_le (circular : Circular size free regions) (member : region ∈ regions) :
    region.stop ≤ size := by
  cases circular with
  | straight stacked within => exact (stacked.mem member).2.trans within
  | wrapped front back =>
      have below : free ≤ size := (Nat.le_succ free).trans front.le
      rcases List.mem_append.mp member with inFront | inBack
      · exact (front.mem inFront).2
      · exact (back.mem inBack).2.trans below

/-- Together the regions are no longer than the area. -/
theorem Circular.sum_le (circular : Circular size free regions) :
    (regions.map Region.length).sum ≤ size := by
  cases circular with
  | straight stacked within =>
      have sum := stacked.sum_le
      omega
  | wrapped front back =>
      have upper := front.sum_le
      have lower := back.sum_le
      rw [List.map_append, List.sum_append]
      omega

/-- The free space begins outside the regions. -/
theorem Circular.outside (circular : Circular size free regions) (member : region ∈ regions) :
    region.stop ≤ free ∨ free < region.start := by
  cases circular with
  | straight stacked within => exact .inl (stacked.mem member).2
  | wrapped front back =>
      rcases List.mem_append.mp member with inFront | inBack
      · exact .inr (front.mem inFront).1
      · exact .inl (back.mem inBack).2

/-- The regions are apart. -/
theorem Circular.apart (circular : Circular size free regions) : regions.Pairwise Region.Apart := by
  cases circular with
  | straight stacked within => exact stacked.apart
  | wrapped front back =>
      refine List.pairwise_append.mpr ⟨front.apart, back.apart,
        fun upper inFront lower inBack => .inr ?_⟩
      have above := (front.mem inFront).1
      have below := (back.mem inBack).2
      omega

/-- Regions whose first one does not lie behind the beginning of the free space are stacked. -/
theorem Circular.straight_of_le (circular : Circular size free (first :: rest))
    (le : first.start ≤ free) : Stacked 0 free (first :: rest) := by
  generalize equal : first :: rest = regions at circular
  cases circular with
  | straight stacked within => exact stacked
  | wrapped front back =>
      obtain ⟨rfl, -⟩ := List.cons.inj equal
      have above := front.1
      omega

/-- Regions whose first one lies behind it are wrapped. -/
theorem Circular.wrapped_of_lt (circular : Circular size free (first :: rest))
    (lt : free < first.start) :
    ∃ upper low, rest = upper ++ low ∧ Stacked (free + 1) size (first :: upper) ∧
      Stacked 0 free low := by
  generalize equal : first :: rest = regions at circular
  cases circular with
  | straight stacked within =>
      rw [← equal] at stacked
      have start := stacked.2.le
      rw [Region.stop] at start
      omega
  | wrapped front back =>
      obtain ⟨rfl, rfl⟩ := List.cons.inj equal
      exact ⟨_, _, rfl, front, back⟩

/-! ### Removing a region -/

theorem Circular.popFront (circular : Circular size free (first :: rest)) :
    Circular size free rest := by
  rcases Nat.lt_or_ge free first.start with behind | before
  · obtain ⟨upper, low, rfl, front, back⟩ := circular.wrapped_of_lt behind
    cases upper with
    | nil => exact .straight back circular.free_le
    | cons next upper =>
        have below : free + 1 ≤ first.stop := front.1.trans (Nat.le_add_right _ _)
        exact .wrapped (front.2.mono below (le_refl _)) back
  · have stacked := circular.straight_of_le before
    exact .straight (stacked.2.mono (Nat.zero_le _) (le_refl _)) circular.free_le

/-- The free space begins where the last region was. -/
theorem Circular.popBack (circular : Circular size free (regions ++ [region])) :
    Circular size region.start regions := by
  generalize equal : regions ++ [region] = all at circular
  cases circular with
  | straight stacked within =>
      rw [← equal] at stacked
      obtain ⟨stacked, stop⟩ := stacked_concat_iff.mp stacked
      rw [Region.stop] at stop
      exact .straight stacked (by omega)
  | @wrapped first rest low front back =>
      rcases List.eq_nil_or_concat low with rfl | ⟨low, last, rfl⟩
      · rw [List.append_nil] at equal
        rw [← equal] at front
        obtain ⟨stacked, stop⟩ := stacked_concat_iff.mp front
        rw [Region.stop] at stop
        exact .straight (stacked.mono (Nat.zero_le _) (le_refl _)) (by omega)
      · rw [List.concat_eq_append, ← List.append_assoc] at equal
        obtain ⟨rfl, same⟩ := List.append_inj' equal rfl
        obtain rfl := List.singleton_inj.mp same
        rw [List.concat_eq_append] at back
        obtain ⟨back, stop⟩ := stacked_concat_iff.mp back
        rw [Region.stop] at stop
        exact .wrapped (front.mono (by omega) (le_refl _)) back

/-! ### Adding a region -/

/-- At the back, behind the last region. -/
theorem Circular.pushBack_straight (stacked : Stacked 0 free regions)
    (fits : free + length ≤ size) : Circular size (free + length) (regions ++ [⟨free, length⟩]) :=
  .straight (stacked_concat_iff.mpr ⟨stacked, le_refl _⟩) fits

/-- At the back, at the start of the area. -/
theorem Circular.pushBack_start (stacked : Stacked 0 free (first :: rest)) (within : free ≤ size)
    (fits : length < first.start) : Circular size length (first :: rest ++ [⟨0, length⟩]) := by
  refine .wrapped ⟨fits, stacked.2.mono (le_refl _) within⟩ ⟨le_refl 0, ?_⟩
  rw [Region.stop]
  exact (Nat.zero_add length).le

/-- At the back, before the first region. -/
theorem Circular.pushBack_gap (circular : Circular size free (first :: rest))
    (fits : free + length < first.start) :
    Circular size (free + length) (first :: rest ++ [⟨free, length⟩]) := by
  obtain ⟨upper, low, rfl, front, back⟩ := circular.wrapped_of_lt (by omega)
  have placed : Stacked 0 (free + length) (low ++ [⟨free, length⟩]) :=
    stacked_concat_iff.mpr ⟨back, le_refl _⟩
  have front' : Stacked (free + length + 1) size (first :: upper) := ⟨fits, front.2⟩
  have whole := Circular.wrapped front' placed
  rwa [← List.append_assoc, List.cons_append, List.cons_append] at whole

/-- At the front, before the first region. -/
theorem Circular.pushFront_straight (stacked : Stacked 0 free (first :: rest))
    (within : free ≤ size) (fits : length ≤ first.start) :
    Circular size free (⟨first.start - length, length⟩ :: first :: rest) := by
  refine .straight ⟨Nat.zero_le _, ?_, stacked.2⟩ within
  rw [Region.stop]
  exact (Nat.sub_add_cancel fits).le

/-- At the front, at the end of the area. -/
theorem Circular.pushFront_end (stacked : Stacked 0 free regions) (fits : free + length < size) :
    Circular size free (⟨size - length, length⟩ :: regions) := by
  have front : Stacked (free + 1) size [⟨size - length, length⟩] := by
    refine ⟨?_, ?_⟩
    · change free + 1 ≤ size - length
      omega
    · change size - length + length ≤ size
      omega
  exact .wrapped front stacked

/-- At the front, behind the free space. -/
theorem Circular.pushFront_gap (circular : Circular size free (first :: rest))
    (fits : free + length < first.start) :
    Circular size free (⟨first.start - length, length⟩ :: first :: rest) := by
  obtain ⟨upper, low, rfl, front, back⟩ := circular.wrapped_of_lt (by omega)
  have front' : Stacked (free + 1) size (⟨first.start - length, length⟩ :: first :: upper) := by
    refine ⟨?_, ?_, front.2⟩
    · change free + 1 ≤ first.start - length
      omega
    · change first.start - length + length ≤ first.start
      omega
  exact .wrapped front' back

end

/-! ### Where a region goes -/

/-- The address of the first region, or the free space where there is none. -/
def frontStart (free : Nat) (regions : List Region) : Nat :=
  (regions.head?.map Region.start).getD free

/-- Where a region goes that is added at the back: where the free space begins, or else to the start
    of the area. -/
def backPlace (size free : Nat) (regions : List Region) (length : Nat) : Option Nat :=
  if frontStart free regions ≤ free then
    if free + length ≤ size then some free
    else if length < frontStart free regions then some 0
    else none
  else if free + length < frontStart free regions then some free
  else none

/-- Where a region goes that is added at the front: before the first one, or else to the end of the
    area. -/
def frontPlace (size free : Nat) (regions : List Region) (length : Nat) : Option Nat :=
  if frontStart free regions ≤ free then
    if length ≤ frontStart free regions then some (frontStart free regions - length)
    else if free + length < size then some (size - length)
    else none
  else if free + length < frontStart free regions then some (frontStart free regions - length)
  else none

section

variable {size free length start : Nat} {regions : List Region}

/-- Regions that do not begin behind the free space are stacked. -/
theorem Circular.stacked (circular : Circular size free regions)
    (front : frontStart free regions ≤ free) : Stacked 0 free regions := by
  cases regions with
  | nil => exact Nat.zero_le free
  | cons first rest => exact circular.straight_of_le front

theorem backPlace_start (place : backPlace size free regions length = some start) :
    start = free ∨ start = 0 := by
  unfold backPlace at place
  split at place
  · split at place
    · exact .inl (Option.some.inj place).symm
    · split at place
      · exact .inr (Option.some.inj place).symm
      · cases place
  · split at place
    · exact .inl (Option.some.inj place).symm
    · cases place

theorem frontPlace_start (place : frontPlace size free regions length = some start) :
    length ≤ frontStart free regions ∧ start = frontStart free regions - length ∨
      length ≤ size ∧ start = size - length := by
  unfold frontPlace at place
  split at place
  · split at place
    case isTrue fits => exact .inl ⟨fits, (Option.some.inj place).symm⟩
    case isFalse =>
      split at place
      case isTrue fits => exact .inr ⟨by omega, (Option.some.inj place).symm⟩
      case isFalse => cases place
  · split at place
    case isTrue fits => exact .inl ⟨by omega, (Option.some.inj place).symm⟩
    case isFalse => cases place

/-- A region put to its place at the back. -/
theorem Circular.placeBack (circular : Circular size free regions)
    (origin : regions = [] → free = 0) (place : backPlace size free regions length = some start) :
    Circular size (start + length) (regions ++ [⟨start, length⟩]) := by
  unfold backPlace at place
  split at place
  case isTrue front =>
    have stacked := circular.stacked front
    split at place
    case isTrue fits =>
      obtain rfl := Option.some.inj place
      exact .pushBack_straight stacked fits
    case isFalse =>
      split at place
      case isTrue fits =>
        obtain rfl := Option.some.inj place
        cases regions with
        | nil =>
            rw [origin rfl] at fits
            exact absurd fits (Nat.not_lt_zero _)
        | cons first rest =>
            rw [Nat.zero_add]
            exact .pushBack_start stacked circular.free_le fits
      case isFalse => cases place
  case isFalse behind =>
    split at place
    case isTrue fits =>
      obtain rfl := Option.some.inj place
      cases regions with
      | nil => exact absurd (le_refl free) behind
      | cons first rest => exact circular.pushBack_gap fits
    case isFalse => cases place

/-- A region put to its place at the front. -/
theorem Circular.placeFront (circular : Circular size free regions)
    (origin : regions = [] → free = 0) (long : 0 < length)
    (place : frontPlace size free regions length = some start) :
    Circular size free (⟨start, length⟩ :: regions) := by
  unfold frontPlace at place
  split at place
  case isTrue front =>
    have stacked := circular.stacked front
    split at place
    case isTrue fits =>
      obtain rfl := Option.some.inj place
      cases regions with
      | nil =>
          rw [origin rfl] at fits
          exact absurd long (Nat.not_lt.mpr fits)
      | cons first rest => exact .pushFront_straight stacked circular.free_le fits
    case isFalse =>
      split at place
      case isTrue fits =>
        obtain rfl := Option.some.inj place
        exact .pushFront_end stacked fits
      case isFalse => cases place
  case isFalse behind =>
    split at place
    case isTrue fits =>
      obtain rfl := Option.some.inj place
      cases regions with
      | nil => exact absurd (le_refl free) behind
      | cons first rest => exact circular.pushFront_gap fits
    case isFalse => cases place

end

end LibAtbus.CircularLayout
