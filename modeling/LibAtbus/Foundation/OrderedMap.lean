/-
Module: LibAtbus.Foundation.OrderedMap
Layer: Foundation
Purpose: A map with ordered keys, kept as its entries in the order of the keys, as `std::map`
  iterates over them. `lowerBound` is the entry with the least key that is not below the one asked
  for.
Trusted boundary: none
Main exports: OrderedMap, OrderedMap.eq_of_key_eq, OrderedMap.lowerBound,
  OrderedMap.lowerBound_some, OrderedMap.lowerBound_none
-/
import Mathlib.Data.List.Nodup
import Mathlib.Order.Lattice
import Mathlib.Tactic.Tauto

namespace LibAtbus

universe u v

/-- The entries of a map, in the order of their keys. -/
structure OrderedMap (κ : Type u) (ν : Type v) [LinearOrder κ] where
  entries : List (κ × ν)
  sorted : entries.Pairwise fun a b => a.1 < b.1

namespace OrderedMap

variable {κ : Type u} {ν : Type v} [LinearOrder κ]

/-- No entries. -/
def empty : OrderedMap κ ν := ⟨[], .nil⟩

/-- A key has one entry. -/
theorem eq_of_key_eq {map : OrderedMap κ ν} {first second : κ × ν} (memFirst : first ∈ map.entries)
    (memSecond : second ∈ map.entries) (same : first.1 = second.1) : first = second := by
  have keys : (map.entries.map Prod.fst).Nodup :=
    List.pairwise_map.mpr (map.sorted.imp fun below => ne_of_lt below)
  exact List.inj_on_of_nodup_map keys memFirst memSecond same

/-- `lower_bound`. -/
def lowerBound (map : OrderedMap κ ν) (key : κ) : Option (κ × ν) :=
  map.entries.find? fun entry => key ≤ entry.1

/-- The first entry of a sorted list that reaches a key is the least one that does. -/
theorem find_least {entries : List (κ × ν)} {key : κ} {entry : κ × ν}
    (sorted : entries.Pairwise fun a b => a.1 < b.1)
    (found : entries.find? (fun entry => key ≤ entry.1) = some entry) :
    ∀ other ∈ entries, key ≤ other.1 → entry.1 ≤ other.1 := by
  induction entries with
  | nil => cases found
  | cons first rest ih =>
      obtain ⟨least, sorted⟩ := List.pairwise_cons.mp sorted
      intro other member reaches
      by_cases here : key ≤ first.1
      · rw [List.find?_cons_of_pos (by simpa using here)] at found
        cases found
        rcases List.mem_cons.mp member with rfl | later
        · exact le_refl _
        · exact le_of_lt (least other later)
      · rw [List.find?_cons_of_neg (by simpa using here)] at found
        rcases List.mem_cons.mp member with rfl | later
        · exact absurd reaches here
        · exact ih sorted found other later reaches

/-- What `lower_bound` finds. -/
theorem lowerBound_some {map : OrderedMap κ ν} {key : κ} {entry : κ × ν}
    (found : map.lowerBound key = some entry) :
    entry ∈ map.entries ∧ key ≤ entry.1 ∧ ∀ other ∈ map.entries, key ≤ other.1 →
      entry.1 ≤ other.1 := by
  refine ⟨List.mem_of_find?_eq_some found, ?_, find_least map.sorted found⟩
  have reaches := List.find?_some found
  simpa using reaches

/-- It finds nothing only above all keys. -/
theorem lowerBound_none {map : OrderedMap κ ν} {key : κ} (missing : map.lowerBound key = none) :
    ∀ entry ∈ map.entries, entry.1 < key := by
  intro entry member
  have below := List.find?_eq_none.mp missing entry member
  simpa using below

/-! ### The last entry, and the entry in front of another -/

/-- The last entry. -/
def last (map : OrderedMap κ ν) : Option (κ × ν) := map.entries.getLast?

/-- The entry in front of the lower bound of a key. -/
def before (map : OrderedMap κ ν) (key : κ) : Option (κ × ν) :=
  (map.entries.filter fun entry => entry.1 < key).getLast?

/-- The last entry of a sorted list has the greatest key. -/
theorem getLast_greatest {entries : List (κ × ν)} {entry : κ × ν}
    (sorted : entries.Pairwise fun a b => a.1 < b.1) (found : entries.getLast? = some entry) :
    entry ∈ entries ∧ ∀ other ∈ entries, other.1 ≤ entry.1 := by
  obtain ⟨front, rfl⟩ := List.getLast?_eq_some_iff.mp found
  obtain ⟨-, -, below⟩ := List.pairwise_append.mp sorted
  refine ⟨by simp, fun other member => ?_⟩
  rcases List.mem_append.mp member with old | new
  · exact le_of_lt (below other old entry (by simp))
  · rw [List.mem_singleton.mp new]

/-- What `before` finds. -/
theorem before_some {map : OrderedMap κ ν} {key : κ} {entry : κ × ν}
    (found : map.before key = some entry) :
    entry ∈ map.entries ∧ entry.1 < key ∧ ∀ other ∈ map.entries, other.1 < key →
      other.1 ≤ entry.1 := by
  obtain ⟨member, greatest⟩ := getLast_greatest (map.sorted.filter _) found
  obtain ⟨member, below⟩ := List.mem_filter.mp member
  refine ⟨member, by simpa using below, fun other member' below' => ?_⟩
  exact greatest other (List.mem_filter.mpr ⟨member', by simpa using below'⟩)

/-- There is nothing in front of the first entry only. -/
theorem before_none {map : OrderedMap κ ν} {key : κ} (missing : map.before key = none) :
    ∀ entry ∈ map.entries, key ≤ entry.1 := by
  intro entry member
  have empty := List.getLast?_eq_none_iff.mp missing
  by_contra below
  have inFront : entry ∈ map.entries.filter fun entry => entry.1 < key :=
    List.mem_filter.mpr ⟨member, by simpa using below⟩
  rw [empty] at inFront
  exact absurd inFront List.not_mem_nil

/-- Above all keys the entry in front is the last one. -/
theorem last_eq_before {map : OrderedMap κ ν} {key : κ} (missing : map.lowerBound key = none) :
    map.last = map.before key := by
  have all : (map.entries.filter fun entry => entry.1 < key) = map.entries := by
    rw [List.filter_eq_self]
    intro entry member
    simpa using lowerBound_none missing entry member
  rw [last, before, all]

/-! ### Changing a map -/

/-- Assignment through `operator[]`. -/
def insert (map : OrderedMap κ ν) (key : κ) (value : ν) : OrderedMap κ ν where
  entries :=
    (map.entries.filter fun entry => entry.1 < key) ++
      (key, value) :: map.entries.filter fun entry => key < entry.1
  sorted := by
    refine List.pairwise_append.mpr ⟨map.sorted.filter _, ?_, ?_⟩
    · refine List.pairwise_cons.mpr ⟨fun entry member => ?_, map.sorted.filter _⟩
      simpa using (List.mem_filter.mp member).2
    · intro entry member other member'
      have below : entry.1 < key := by simpa using (List.mem_filter.mp member).2
      rcases List.mem_cons.mp member' with rfl | later
      · exact below
      · exact below.trans (by simpa using (List.mem_filter.mp later).2)

/-- `erase`. -/
def erase (map : OrderedMap κ ν) (key : κ) : OrderedMap κ ν where
  entries := map.entries.filter fun entry => entry.1 ≠ key
  sorted := map.sorted.filter _

@[simp] theorem mem_insert {map : OrderedMap κ ν} {key : κ} {value : ν} {entry : κ × ν} :
    entry ∈ (map.insert key value).entries ↔
      entry = (key, value) ∨ entry ∈ map.entries ∧ entry.1 ≠ key := by
  simp only [insert, List.mem_append, List.mem_cons, List.mem_filter, decide_eq_true_eq, ne_eq]
  have split : ¬entry.1 = key ↔ entry.1 < key ∨ key < entry.1 := ne_iff_lt_or_gt
  rw [split]
  tauto

@[simp] theorem mem_erase {map : OrderedMap κ ν} {key : κ} {entry : κ × ν} :
    entry ∈ (map.erase key).entries ↔ entry ∈ map.entries ∧ entry.1 ≠ key := by
  simp [erase]

/-! ### Other values -/

universe w

/-- The same keys with other values. -/
def mapValues {μ : Type w} (map : OrderedMap κ ν) (f : ν → μ) : OrderedMap κ μ where
  entries := map.entries.map fun entry => (entry.1, f entry.2)
  sorted := List.pairwise_map.mpr map.sorted

section

variable {μ : Type w} {map : OrderedMap κ ν} {f : ν → μ} {key : κ}

theorem ext_entries {first second : OrderedMap κ ν} (same : first.entries = second.entries) :
    first = second := by
  cases first
  cases second
  cases same
  rfl

@[simp] theorem mem_mapValues {entry : κ × μ} :
    entry ∈ (map.mapValues f).entries ↔ ∃ value, (entry.1, value) ∈ map.entries ∧
      f value = entry.2 := by
  simp only [mapValues, List.mem_map]
  constructor
  · rintro ⟨old, member, rfl⟩
    exact ⟨old.2, member, rfl⟩
  · rintro ⟨value, member, found⟩
    exact ⟨(entry.1, value), member, by rw [found]⟩

/-- A lookup goes by the keys alone. -/
theorem lowerBound_mapValues :
    (map.mapValues f).lowerBound key = (map.lowerBound key).map fun entry =>
      (entry.1, f entry.2) := by
  rw [lowerBound, mapValues, List.find?_map]
  rfl

theorem last_mapValues :
    (map.mapValues f).last = map.last.map fun entry => (entry.1, f entry.2) := by
  rw [last, mapValues, List.getLast?_map]
  rfl

theorem before_mapValues :
    (map.mapValues f).before key = (map.before key).map fun entry => (entry.1, f entry.2) := by
  rw [before, mapValues, List.filter_map, List.getLast?_map]
  rfl

theorem insert_mapValues {value : ν} :
    (map.insert key value).mapValues f = (map.mapValues f).insert key (f value) := by
  apply ext_entries
  simp only [mapValues, insert, List.map_append, List.map_cons, List.filter_map]
  rfl

theorem erase_mapValues : (map.erase key).mapValues f = (map.mapValues f).erase key := by
  apply ext_entries
  simp only [mapValues, erase, List.filter_map]
  rfl

end

end OrderedMap

end LibAtbus
