/-
Module: LibAtbus.Foundation.Regions
Layer: Foundation
Purpose: Regions of an order that are nested or apart, as the blocks of an aligned subdivision are,
  and maps that keep regions apart under their upper bounds. Each region has a point of its own. The
  lower bound of a point finds the region that covers it, and it takes two entries to tell whether a
  new region is apart from all others: the lower bound of its own point, and the entry in front of
  that.
Trusted boundary: none
Main exports: Regions, Regions.Covers, Regions.Apart, Regions.Table, Table.lowerBound_of_covers,
  Table.lowerBound_overlaps, Table.before_covered, Table.free_iff, Table.insert, Table.erase
-/
import LibAtbus.Foundation.OrderedMap

namespace LibAtbus

universe u v

/-- The regions of some values: those of valid values that share a point are nested. -/
structure Regions (κ : Type u) (ν : Type v) [LinearOrder κ] where
  Valid : ν → Prop
  own : ν → κ
  low : ν → κ
  high : ν → κ
  low_le : ∀ {a}, Valid a → low a ≤ own a
  le_high : ∀ {a}, Valid a → own a ≤ high a
  nested : ∀ {a b x}, Valid a → Valid b → low a ≤ x ∧ x ≤ high a → low b ≤ x ∧ x ≤ high b →
    (low b ≤ low a ∧ high a ≤ high b) ∨ (low a ≤ low b ∧ high b ≤ high a)

namespace Regions

variable {κ : Type u} {ν : Type v} [LinearOrder κ] (regions : Regions κ ν)

/-- The point is in the region. -/
def Covers (a : ν) (x : κ) : Prop := regions.low a ≤ x ∧ x ≤ regions.high a

/-- The regions have no point in common. -/
def Apart (a b : ν) : Prop := ∀ x, ¬(regions.Covers a x ∧ regions.Covers b x)

variable {regions} {a b : ν} {x : κ}

theorem Apart.symm (apart : regions.Apart a b) : regions.Apart b a :=
  fun x ⟨inSecond, inFirst⟩ => apart x ⟨inFirst, inSecond⟩

theorem covers_own (valid : regions.Valid a) : regions.Covers a (regions.own a) :=
  ⟨regions.low_le valid, regions.le_high valid⟩

theorem covers_high (valid : regions.Valid a) : regions.Covers a (regions.high a) :=
  ⟨(regions.low_le valid).trans (regions.le_high valid), le_refl _⟩

/-- Two regions overlap when one of them covers the own point of the other. -/
theorem not_apart_iff (validA : regions.Valid a) (validB : regions.Valid b) :
    ¬regions.Apart a b ↔ regions.Covers b (regions.own a) ∨ regions.Covers a (regions.own b) := by
  constructor
  · intro overlap
    obtain ⟨x, both⟩ := not_forall.mp overlap
    obtain ⟨inA, inB⟩ := not_not.mp both
    rcases regions.nested validA validB inA inB with inner | outer
    · exact .inl ⟨inner.1.trans (regions.low_le validA), (regions.le_high validA).trans inner.2⟩
    · exact .inr ⟨outer.1.trans (regions.low_le validB), (regions.le_high validB).trans outer.2⟩
  · rintro (inB | inA) apart
    · exact apart _ ⟨covers_own validA, inB⟩
    · exact apart _ ⟨inA, covers_own validB⟩

variable (regions) in
/-- A map of regions that are apart, under their upper bounds. -/
structure Table (map : OrderedMap κ ν) : Prop where
  valid : ∀ entry ∈ map.entries, regions.Valid entry.2
  keyed : ∀ entry ∈ map.entries, entry.1 = regions.high entry.2
  apart : ∀ entry ∈ map.entries, ∀ other ∈ map.entries, entry ≠ other →
    regions.Apart entry.2 other.2

namespace Table

variable {map : OrderedMap κ ν} {entry other : κ × ν}

/-- One region at most covers a point. -/
theorem eq_of_covers (table : regions.Table map) (member : entry ∈ map.entries)
    (member' : other ∈ map.entries) (covers : regions.Covers entry.2 x)
    (covers' : regions.Covers other.2 x) : entry = other := by
  by_contra distinct
  exact table.apart entry member other member' distinct x ⟨covers, covers'⟩

/-- The first key that reaches a covered point is that of the region that covers it: that key is a
    point of the region, as well as of its own. -/
theorem lowerBound_of_covers (table : regions.Table map) (member : entry ∈ map.entries)
    (covers : regions.Covers entry.2 x) : map.lowerBound x = some entry := by
  cases found : map.lowerBound x with
  | none =>
      have below := OrderedMap.lowerBound_none found entry member
      rw [table.keyed entry member] at below
      exact absurd covers.2 (not_le_of_gt below)
  | some first =>
      obtain ⟨member', reaches, least⟩ := OrderedMap.lowerBound_some found
      have own : regions.Covers first.2 first.1 := by
        rw [table.keyed first member']
        exact covers_high (table.valid first member')
      have shared : regions.Covers entry.2 first.1 := by
        have upper := least entry member (table.keyed entry member ▸ covers.2)
        exact ⟨covers.1.trans reaches, table.keyed entry member ▸ upper⟩
      rw [table.eq_of_covers member' member own shared]

/-- When a region inside a new one reaches its own point, the lower bound of that point overlaps the
    new one. -/
theorem lowerBound_overlaps (table : regions.Table map) (valid : regions.Valid a) {entry : κ × ν}
    (member : entry ∈ map.entries)
    (inside : regions.low a ≤ regions.low entry.2 ∧ regions.high entry.2 ≤ regions.high a)
    (reaches : regions.own a ≤ regions.high entry.2) :
    ∃ first, map.lowerBound (regions.own a) = some first ∧
      (regions.Covers first.2 (regions.own a) ∨ regions.Covers a (regions.own first.2)) := by
  cases found : map.lowerBound (regions.own a) with
  | none =>
      have below := OrderedMap.lowerBound_none found entry member
      rw [table.keyed entry member] at below
      exact absurd reaches (not_le_of_gt below)
  | some first =>
      obtain ⟨member', above, least⟩ := OrderedMap.lowerBound_some found
      have upper := least entry member (table.keyed entry member ▸ reaches)
      rw [table.keyed first member'] at above upper
      rw [table.keyed entry member] at upper
      have shared : ¬regions.Apart first.2 a := fun apart => apart _
        ⟨covers_high (table.valid first member'), (regions.low_le valid).trans above,
          upper.trans inside.2⟩
      exact ⟨first, rfl, ((not_apart_iff (table.valid first member') valid).mp shared).symm⟩

/-- When a region that begins in a new one ends in front of its own point, the new one covers the
    own point of the entry in front of the lower bound. -/
theorem before_covered (table : regions.Table map) (valid : regions.Valid a) {entry : κ × ν}
    (member : entry ∈ map.entries) (inside : regions.low a ≤ regions.low entry.2)
    (front : regions.high entry.2 < regions.own a) :
    ∃ previous, map.before (regions.own a) = some previous ∧
      regions.Covers a (regions.own previous.2) := by
  cases found : map.before (regions.own a) with
  | none =>
      have reaches := OrderedMap.before_none found entry member
      rw [table.keyed entry member] at reaches
      exact absurd reaches (not_le_of_gt front)
  | some previous =>
      obtain ⟨member', below, greatest⟩ := OrderedMap.before_some found
      have lower := greatest entry member (table.keyed entry member ▸ front)
      rw [table.keyed previous member'] at below lower
      rw [table.keyed entry member] at lower
      have valid' := table.valid entry member
      have lowHigh : regions.low entry.2 ≤ regions.high entry.2 :=
        (regions.low_le valid').trans (regions.le_high valid')
      have shared : ¬regions.Apart previous.2 a := fun apart => apart _
        ⟨covers_high (table.valid previous member'),
          inside.trans (lowHigh.trans lower), below.le.trans (regions.le_high valid)⟩
      rcases (not_apart_iff (table.valid previous member') valid).mp shared with covered | covering
      · exact ⟨previous, rfl, covered⟩
      · exact absurd covering.2 (not_le_of_gt below)

/-- A region overlaps none of a table exactly when it does not overlap the lower bound of its own
    point, and does not cover the own point of the entry in front of that: another region inside the
    new one lies before or behind its own point, and then so does the entry next to that point. -/
theorem free_iff (table : regions.Table map) (valid : regions.Valid a) :
    (∀ entry ∈ map.entries, regions.Apart entry.2 a) ↔
      (∀ entry, map.lowerBound (regions.own a) = some entry →
        ¬regions.Covers entry.2 (regions.own a) ∧ ¬regions.Covers a (regions.own entry.2)) ∧
      ∀ entry, map.before (regions.own a) = some entry →
        ¬regions.Covers a (regions.own entry.2) := by
  constructor
  · intro free
    constructor
    · intro entry found
      have member := (OrderedMap.lowerBound_some found).1
      have valid' := table.valid entry member
      exact ⟨fun covers => free entry member _ ⟨covers, covers_own valid⟩,
        fun covers => free entry member _ ⟨covers_own valid', covers⟩⟩
    · intro entry found covers
      have member := (OrderedMap.before_some found).1
      exact free entry member _ ⟨covers_own (table.valid entry member), covers⟩
  · rintro ⟨atOwn, inFront⟩ entry member
    by_contra overlap
    have valid' := table.valid entry member
    have outside : ¬regions.Covers entry.2 (regions.own a) := fun covers =>
      (atOwn entry (table.lowerBound_of_covers member covers)).1 covers
    obtain ⟨x, both⟩ := not_forall.mp overlap
    obtain ⟨inEntry, inNew⟩ := not_not.mp both
    -- the region does not cover the own point of the new one, so it lies inside it
    have inside : regions.low a ≤ regions.low entry.2 ∧ regions.high entry.2 ≤ regions.high a := by
      rcases regions.nested valid' valid inEntry inNew with inner | outer
      · exact inner
      · exact absurd ⟨outer.1.trans (regions.low_le valid), (regions.le_high valid).trans outer.2⟩
          outside
    rcases le_or_gt (regions.own a) (regions.high entry.2) with reaches | front
    · obtain ⟨first, found, covering | covered⟩ :=
        table.lowerBound_overlaps valid member inside reaches
      · exact (atOwn first found).1 covering
      · exact (atOwn first found).2 covered
    · obtain ⟨previous, found, covered⟩ := table.before_covered valid member inside.1 front
      exact inFront previous found covered

/-- A region apart from all others has a key of its own. -/
theorem key_fresh (table : regions.Table map) (valid : regions.Valid a)
    (free : ∀ entry ∈ map.entries, regions.Apart entry.2 a) :
    ∀ entry ∈ map.entries, entry.1 ≠ regions.high a := by
  intro entry member same
  have covers : regions.Covers entry.2 (regions.high a) := by
    rw [← same, table.keyed entry member]
    exact covers_high (table.valid entry member)
  exact free entry member _ ⟨covers, covers_high valid⟩

theorem mem_insert_free (table : regions.Table map) (valid : regions.Valid a)
    (free : ∀ entry ∈ map.entries, regions.Apart entry.2 a) :
    entry ∈ (map.insert (regions.high a) a).entries ↔ entry = (regions.high a, a) ∨
      entry ∈ map.entries := by
  rw [OrderedMap.mem_insert]
  constructor
  · exact Or.imp_right And.left
  · exact Or.imp_right fun member => ⟨member, table.key_fresh valid free entry member⟩

/-- Storing a region that is apart from all others. -/
theorem insert (table : regions.Table map) (valid : regions.Valid a)
    (free : ∀ entry ∈ map.entries, regions.Apart entry.2 a) :
    regions.Table (map.insert (regions.high a) a) := by
  refine ⟨?_, ?_, ?_⟩
  · intro entry member
    rcases (table.mem_insert_free valid free).mp member with rfl | old
    · exact valid
    · exact table.valid entry old
  · intro entry member
    rcases (table.mem_insert_free valid free).mp member with rfl | old
    · rfl
    · exact table.keyed entry old
  · intro entry member other member' distinct
    rcases (table.mem_insert_free valid free).mp member with rfl | old
    · rcases (table.mem_insert_free valid free).mp member' with rfl | old'
      · exact absurd rfl distinct
      · exact (free other old').symm
    · rcases (table.mem_insert_free valid free).mp member' with rfl | old'
      · exact free entry old
      · exact table.apart entry old other old' distinct

theorem erase (table : regions.Table map) (key : κ) : regions.Table (map.erase key) where
  valid entry member := table.valid entry (OrderedMap.mem_erase.mp member).1
  keyed entry member := table.keyed entry (OrderedMap.mem_erase.mp member).1
  apart entry member other member' :=
    table.apart entry (OrderedMap.mem_erase.mp member).1 other (OrderedMap.mem_erase.mp member').1

end Table

end Regions

end LibAtbus
