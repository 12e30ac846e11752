/-
Module: LibAtbus.Proofs.SubDomains
Layer: Proofs
Purpose: Collections of sub-domains. The domains of endpoints with a children mask of at most 30 are
  regions of the ids, so a collection that only `insert_child` and `remove_child` have changed keeps
  them apart under their greatest ids, and its lookups find exactly what is stored.
Trusted boundary: none
Main exports: Endpoint.domains, EndpointCollection.Apart, SubDomains, SubDomains.insertChild_iff,
  SubDomains.findChild_iff, SubDomains.removeChild_iff, collection_table
-/
import LibAtbus.Foundation.Regions
import LibAtbus.Foundation.Transitions
import LibAtbus.Node.Registry

namespace LibAtbus.Node

open Transitions

/-- The domains of endpoints: two that share an id agree above the larger of their masks. -/
def Endpoint.domains : Regions BusId Endpoint where
  Valid endpoint := endpoint.childrenMask ≤ 30
  own := Endpoint.id
  low endpoint := childrenMinId endpoint.id endpoint.childrenMask
  high endpoint := childrenMaxId endpoint.id endpoint.childrenMask
  low_le small := ((Endpoint.isChildNode_iff_between small).mp (Endpoint.isChildNode_self _)).1
  le_high small := ((Endpoint.isChildNode_iff_between small).mp (Endpoint.isChildNode_self _)).2
  nested := by
    intro a b x smallA smallB inA inB
    have sameA :=
      (Endpoint.isChildNode_iff smallA).mp ((Endpoint.isChildNode_iff_between smallA).mpr inA)
    have sameB :=
      (Endpoint.isChildNode_iff smallB).mp ((Endpoint.isChildNode_iff_between smallB).mpr inB)
    -- the smaller domain is in the larger one, so both its ends are
    have inner : ∀ {a b : Endpoint}, a.childrenMask ≤ 30 → b.childrenMask ≤ 30 →
        SameDomain a.childrenMask x a.id → SameDomain b.childrenMask x b.id →
        a.childrenMask ≤ b.childrenMask →
        childrenMinId b.id b.childrenMask ≤ childrenMinId a.id a.childrenMask ∧
          childrenMaxId a.id a.childrenMask ≤ childrenMaxId b.id b.childrenMask := by
      intro a b smallA smallB sameA sameB narrower
      have within : ∀ y, a.isChildNode y = true → b.isChildNode y = true := by
        intro y inside
        rw [Endpoint.isChildNode_iff smallA] at inside
        rw [Endpoint.isChildNode_iff smallB]
        exact (inside.mono narrower).trans ((sameA.mono narrower).symm.trans sameB)
      have least := (Endpoint.isChildNode_iff_between smallB).mp
        (within _ ((Endpoint.isChildNode_iff_between smallA).mpr ⟨le_refl _, ?_⟩))
      · have greatest := (Endpoint.isChildNode_iff_between smallB).mp
          (within _ (Endpoint.isChildNode_childrenMaxId smallA))
        exact ⟨least.1, greatest.2⟩
      · have own := (Endpoint.isChildNode_iff_between smallA).mp (Endpoint.isChildNode_self a)
        exact own.1.trans own.2
    rcases le_total a.childrenMask b.childrenMask with narrower | wider
    · exact .inl (inner smallA smallB sameA sameB narrower)
    · exact .inr (inner smallB smallA sameB sameA wider)

/-- The domain of an endpoint is its region. -/
theorem Endpoint.covers_iff {endpoint : Endpoint} {id : BusId}
    (small : endpoint.childrenMask ≤ 30) :
    Endpoint.domains.Covers endpoint id ↔ endpoint.isChildNode id = true :=
  (Endpoint.isChildNode_iff_between small).symm

/-- No id is in the domains of both endpoints. -/
def Endpoint.Apart (first second : Endpoint) : Prop :=
  ∀ id, ¬(first.isChildNode id = true ∧ second.isChildNode id = true)

theorem Endpoint.apart_iff {first second : Endpoint} (small : first.childrenMask ≤ 30)
    (small' : second.childrenMask ≤ 30) :
    Endpoint.domains.Apart first second ↔ first.Apart second := by
  simp only [Regions.Apart, Endpoint.Apart, Endpoint.covers_iff small, Endpoint.covers_iff small']

/-- What holds of a collection of sub-domains: masks of at most 30, keys that are the greatest ids
    of the domains, and domains that are pairwise disjoint. -/
structure SubDomains (collection : EndpointCollection) : Prop where
  mask : ∀ entry ∈ collection.map.entries, entry.2.childrenMask ≤ 30
  keyed : ∀ entry ∈ collection.map.entries, entry.1 = childrenMaxId entry.2.id entry.2.childrenMask
  disjoint : ∀ entry ∈ collection.map.entries, ∀ other ∈ collection.map.entries, entry ≠ other →
    entry.2.Apart other.2

theorem SubDomains.table {collection : EndpointCollection} (holds : SubDomains collection) :
    Endpoint.domains.Table collection.map where
  valid := holds.mask
  keyed := holds.keyed
  apart entry member other member' distinct :=
    (Endpoint.apart_iff (holds.mask entry member) (holds.mask other member')).mpr
      (holds.disjoint entry member other member' distinct)

theorem SubDomains.of_table {collection : EndpointCollection}
    (table : Endpoint.domains.Table collection.map) : SubDomains collection where
  mask := table.valid
  keyed := table.keyed
  disjoint entry member other member' distinct :=
    (Endpoint.apart_iff (table.valid entry member) (table.valid other member')).mp
      (table.apart entry member other member' distinct)

theorem SubDomains.empty : SubDomains .empty :=
  ⟨fun _ member => absurd member List.not_mem_nil, fun _ member => absurd member List.not_mem_nil,
    fun _ member => absurd member List.not_mem_nil⟩

namespace EndpointCollection

variable {collection : EndpointCollection} {endpoint stored : Endpoint} {id : BusId}

/-- The endpoints of a collection are those of its entries. -/
theorem mem_endpoints : stored ∈ collection.endpoints ↔
    ∃ key, (key, stored) ∈ collection.map.entries := by
  simp [endpoints]

/-- An insertion stores the endpoint or changes nothing. -/
theorem insertChild_eq (collection : EndpointCollection) (endpoint : Endpoint) :
    collection.insertChild endpoint = (false, collection) ∨
      collection.insertChild endpoint = (true, collection.store endpoint) := by
  rw [insertChild]
  repeat' split
  all_goals first | exact .inl rfl | exact .inr rfl

theorem insertChild_false (refused : (collection.insertChild endpoint).1 = false) :
    (collection.insertChild endpoint).2 = collection := by
  rcases insertChild_eq collection endpoint with result | result
  · rw [result]
  · rw [result] at refused
    cases refused

theorem insertChild_true (stored : (collection.insertChild endpoint).1 = true) :
    (collection.insertChild endpoint).2 = collection.store endpoint := by
  rcases insertChild_eq collection endpoint with result | result
  · rw [result] at stored
    cases stored
  · rw [result]

/-- A removal takes one entry or changes nothing. -/
theorem removeChild_eq (collection : EndpointCollection) (id : BusId) :
    collection.removeChild id = (false, collection) ∨
      ∃ key, collection.removeChild id = (true, collection.drop key) := by
  rw [removeChild]
  repeat' split
  · exact .inl rfl
  · exact .inl rfl
  · exact .inr ⟨_, rfl⟩

theorem removeChild_false (refused : (collection.removeChild id).1 = false) :
    (collection.removeChild id).2 = collection := by
  rcases removeChild_eq collection id with result | ⟨key, result⟩
  · rw [result]
  · rw [result] at refused
    cases refused

/-- The tests `insert_child` makes on the lower bound of the new id and on the entry in front of
    it. -/
theorem insertChild_iff_tests : (collection.insertChild endpoint).1 = true ↔
    (∀ entry, collection.map.lowerBound endpoint.id = some entry →
      entry.2.isChildNode endpoint.id = false ∧ endpoint.isChildNode entry.2.id = false) ∧
    ∀ entry, collection.map.before endpoint.id = some entry →
      endpoint.isChildNode entry.2.id = false := by
  have decided : ∀ found : Option (BusId × Endpoint),
      (¬(found.any fun entry => endpoint.isChildNode entry.2.id) = true) ↔
        ∀ entry, found = some entry → endpoint.isChildNode entry.2.id = false := by
    intro found
    cases found <;> simp
  rw [insertChild]
  split
  case h_1 missing =>
    rw [OrderedMap.last_eq_before missing, ← decided]
    split <;> simp_all
  case h_2 key iter found =>
    simp only [← decided, found, Option.some.injEq, forall_eq']
    by_cases same : iter.id = endpoint.id
    · have covered := Endpoint.isChildNode_self endpoint
      rw [if_pos same, same, covered]
      simp
    · cases nested : iter.isChildNode endpoint.id || endpoint.isChildNode iter.id with
      | true =>
          rw [if_neg same, if_pos rfl]
          rcases Bool.or_eq_true _ _ |>.mp nested with covered | covered
          · simp [covered]
          · simp [covered]
      | false =>
          obtain ⟨outside, apart⟩ := Bool.or_eq_false_iff.mp nested
          rw [if_neg same, if_neg Bool.false_ne_true, outside, apart]
          split <;> simp_all

end EndpointCollection

namespace SubDomains

variable {collection : EndpointCollection} {endpoint stored : Endpoint} {id : BusId}

/-- `insert_child` succeeds exactly when the new domain is disjoint from all that are stored. -/
theorem insertChild_iff (holds : SubDomains collection) (small : endpoint.childrenMask ≤ 30) :
    (collection.insertChild endpoint).1 = true ↔
      ∀ stored ∈ collection.endpoints, stored.Apart endpoint := by
  have free := holds.table.free_iff (a := endpoint) small
  rw [EndpointCollection.insertChild_iff_tests]
  have apart : (∀ entry ∈ collection.map.entries, Endpoint.domains.Apart entry.2 endpoint) ↔
      ∀ stored ∈ collection.endpoints, stored.Apart endpoint := by
    simp only [EndpointCollection.endpoints, List.forall_mem_map]
    exact forall₂_congr fun entry member => Endpoint.apart_iff (holds.mask entry member) small
  rw [← apart, free]
  refine and_congr (forall₂_congr fun entry found => ?_) (forall₂_congr fun entry found => ?_)
  · have member := (OrderedMap.lowerBound_some found).1
    rw [Endpoint.covers_iff (holds.mask entry member), Endpoint.covers_iff small, Bool.not_eq_true,
      Bool.not_eq_true]
    rfl
  · rw [Endpoint.covers_iff small, Bool.not_eq_true]
    rfl

/-- What is stored after a successful insertion. -/
theorem mem_store (holds : SubDomains collection) (small : endpoint.childrenMask ≤ 30)
    (free : ∀ stored ∈ collection.endpoints, stored.Apart endpoint) :
    stored ∈ (collection.store endpoint).endpoints ↔ stored = endpoint ∨
      stored ∈ collection.endpoints := by
  have apart : ∀ entry ∈ collection.map.entries, Endpoint.domains.Apart entry.2 endpoint := by
    intro entry member
    exact (Endpoint.apart_iff (holds.mask entry member) small).mpr
      (free _ (List.mem_map_of_mem member))
  rw [EndpointCollection.mem_endpoints, EndpointCollection.mem_endpoints]
  have entries : ∀ entry, entry ∈ (collection.store endpoint).map.entries ↔
      entry = (childrenMaxId endpoint.id endpoint.childrenMask, endpoint) ∨
        entry ∈ collection.map.entries := by
    intro entry
    exact holds.table.mem_insert_free (a := endpoint) small apart
  simp only [entries, Prod.mk.injEq]
  constructor
  · rintro ⟨key, ⟨-, rfl⟩ | member⟩
    · exact .inl rfl
    · exact .inr ⟨key, member⟩
  · rintro (rfl | ⟨key, member⟩)
    · exact ⟨_, .inl ⟨rfl, rfl⟩⟩
    · exact ⟨key, .inr member⟩

theorem store (holds : SubDomains collection) (small : endpoint.childrenMask ≤ 30)
    (free : ∀ stored ∈ collection.endpoints, stored.Apart endpoint) :
    SubDomains (collection.store endpoint) := by
  apply of_table
  apply holds.table.insert (a := endpoint) small
  intro entry member
  exact (Endpoint.apart_iff (holds.mask entry member) small).mpr
    (free _ (List.mem_map_of_mem member))

/-- `find_child` finds the endpoint whose domain has the id. -/
theorem findChild_iff (holds : SubDomains collection) : collection.findChild id = some stored ↔
    stored ∈ collection.endpoints ∧ stored.isChildNode id = true := by
  constructor
  · exact EndpointCollection.findChild_some
  · rintro ⟨member, inside⟩
    obtain ⟨key, member⟩ := EndpointCollection.mem_endpoints.mp member
    have first := holds.table.lowerBound_of_covers member
      ((Endpoint.covers_iff (holds.mask _ member)).mpr inside)
    simp only [EndpointCollection.findChild, first, inside, if_true, ite_self]

theorem findChild_eq_none_iff (holds : SubDomains collection) : collection.findChild id = none ↔
    ∀ stored ∈ collection.endpoints, stored.isChildNode id = false := by
  rw [Option.eq_none_iff_forall_ne_some]
  simp only [ne_eq, holds.findChild_iff, not_and, Bool.not_eq_true]

/-- `remove_child` succeeds exactly when an endpoint with the id is stored, which is then the first
    one whose key reaches the id. -/
theorem removeChild_iff (holds : SubDomains collection) :
    (collection.removeChild id).1 = true ↔ ∃ stored ∈ collection.endpoints, stored.id = id := by
  rw [EndpointCollection.removeChild]
  constructor
  · intro removed
    split at removed
    case h_1 => cases removed
    case h_2 key iter found =>
      split at removed
      case isTrue => cases removed
      case isFalse same =>
        exact ⟨iter, List.mem_map_of_mem (OrderedMap.lowerBound_some found).1, not_not.mp same⟩
  · rintro ⟨stored, member, rfl⟩
    obtain ⟨key, member⟩ := EndpointCollection.mem_endpoints.mp member
    have first := holds.table.lowerBound_of_covers member
      ((Endpoint.covers_iff (holds.mask _ member)).mpr (Endpoint.isChildNode_self stored))
    simp [first]

/-- No two endpoints have the same id. -/
theorem eq_of_id (holds : SubDomains collection) {other : Endpoint}
    (member : stored ∈ collection.endpoints) (member' : other ∈ collection.endpoints)
    (same : stored.id = other.id) : stored = other := by
  have found := holds.findChild_iff.mpr ⟨member, Endpoint.isChildNode_self stored⟩
  rw [same, holds.findChild_iff.mpr ⟨member', Endpoint.isChildNode_self other⟩] at found
  exact (Option.some.inj found).symm

/-- What is stored after a removal. -/
theorem mem_removeChild (holds : SubDomains collection) :
    stored ∈ (collection.removeChild id).2.endpoints ↔ stored ∈ collection.endpoints ∧
      stored.id ≠ id := by
  cases removed : (collection.removeChild id).1 with
  | false =>
      rw [EndpointCollection.removeChild_false removed]
      have missing : ¬∃ stored ∈ collection.endpoints, stored.id = id := by
        rw [← holds.removeChild_iff, removed]
        exact Bool.false_ne_true
      exact ⟨fun member => ⟨member, fun same => missing ⟨stored, member, same⟩⟩, And.left⟩
  | true =>
      obtain ⟨found, member, rfl⟩ := holds.removeChild_iff.mp removed
      obtain ⟨key, entry⟩ := EndpointCollection.mem_endpoints.mp member
      have first := holds.table.lowerBound_of_covers entry
        ((Endpoint.covers_iff (holds.mask _ entry)).mpr (Endpoint.isChildNode_self found))
      have after : (collection.removeChild found.id).2 = collection.drop key := by
        simp only [EndpointCollection.removeChild]
        rw [show collection.map.lowerBound found.id = some (key, found) from first]
        simp
      rw [after, EndpointCollection.mem_endpoints, EndpointCollection.mem_endpoints]
      simp only [EndpointCollection.drop, OrderedMap.mem_erase]
      constructor
      · rintro ⟨key', member', other⟩
        refine ⟨⟨key', member'⟩, fun same => other ?_⟩
        have same := holds.eq_of_id (EndpointCollection.mem_endpoints.mpr ⟨_, member'⟩) member same
        subst same
        exact (holds.keyed _ member').trans (holds.keyed _ entry).symm
      · rintro ⟨⟨key', member'⟩, other⟩
        refine ⟨key', member', fun same => other ?_⟩
        have same := OrderedMap.eq_of_key_eq member' entry same
        rw [(Prod.mk.inj same).2]

theorem removeChild (holds : SubDomains collection) (id : BusId) :
    SubDomains (collection.removeChild id).2 := by
  rcases EndpointCollection.removeChild_eq collection id with result | ⟨key, result⟩
  · rwa [result]
  · rw [result]
    exact of_table (holds.table.erase key)

/-- Both calls keep the domains apart. -/
theorem call (holds : SubDomains collection) {change : CollectionCall} (small : change.MaskLe) :
    SubDomains (collection.call change) := by
  cases change with
  | insert endpoint =>
      rw [EndpointCollection.call]
      cases stored : (collection.insertChild endpoint).1 with
      | false => rwa [EndpointCollection.insertChild_false stored]
      | true =>
          rw [EndpointCollection.insertChild_true stored]
          exact holds.store small ((holds.insertChild_iff small).mp stored)
  | remove id => exact holds.removeChild id

end SubDomains

/-- After any calls of `insert_child` and `remove_child`, with endpoints of any ids and children
    masks of at most 30: keys are the greatest ids of domains, and the domains are disjoint. An
    endpoint is inserted exactly when its domain is disjoint from all others, and changes nothing
    otherwise; `find_child` finds the endpoint whose domain has the id; `remove_child` succeeds
    exactly when an endpoint with just that id is stored, and removes it only. -/
theorem collection_table {collection : EndpointCollection}
    {made : List (Transition EndpointCollection CollectionCall)}
    (run : Run collectionStep .empty made collection) :
    SubDomains collection ∧
    (∀ endpoint : Endpoint, endpoint.childrenMask ≤ 30 →
      ((collection.insertChild endpoint).1 = true ↔
        ∀ stored ∈ collection.endpoints, stored.Apart endpoint) ∧
      ((collection.insertChild endpoint).1 = true → ∀ stored,
        stored ∈ (collection.insertChild endpoint).2.endpoints ↔
          stored = endpoint ∨ stored ∈ collection.endpoints) ∧
      ((collection.insertChild endpoint).1 = false →
        (collection.insertChild endpoint).2 = collection)) ∧
    (∀ id,
      (∀ stored, collection.findChild id = some stored ↔
        stored ∈ collection.endpoints ∧ stored.isChildNode id = true) ∧
      (collection.findChild id = none ↔
        ∀ stored ∈ collection.endpoints, stored.isChildNode id = false)) ∧
    ∀ id,
      ((collection.removeChild id).1 = true ↔ ∃ stored ∈ collection.endpoints, stored.id = id) ∧
      ((collection.removeChild id).1 = false → (collection.removeChild id).2 = collection) ∧
      ∀ stored, stored ∈ (collection.removeChild id).2.endpoints ↔
        stored ∈ collection.endpoints ∧ stored.id ≠ id := by
  have holds : SubDomains collection := by
    have preserved : ∀ t : Transition EndpointCollection CollectionCall, SubDomains t.pre →
        collectionStep t.pre t.label t.post → True → SubDomains t.post := by
      intro t holds taken _
      rw [taken.2]
      exact holds.call taken.1
    exact run.invariant SubDomains.empty preserved fun _ _ => trivial
  refine ⟨holds, fun endpoint small => ⟨holds.insertChild_iff small, fun stored => ?_,
    EndpointCollection.insertChild_false⟩, fun id =>
    ⟨fun stored => holds.findChild_iff, holds.findChild_eq_none_iff⟩, fun id =>
    ⟨holds.removeChild_iff, EndpointCollection.removeChild_false,
      fun stored => holds.mem_removeChild⟩⟩
  intro other
  rw [EndpointCollection.insertChild_true stored]
  exact holds.mem_store small ((holds.insertChild_iff small).mp stored)

/-- Two endpoints are inserted, the domain of a third is in that of the first, and the second is
    removed. -/
theorem collection_table_four_calls :
    ∃ made collection, Run collectionStep .empty made collection ∧ made.length = 4 ∧
      collection.endpoints =
        [{ id := 0x12345679#64, childrenMask := 8, globalRouter := false, listen := [] }] ∧
      SubDomains collection := by
  let first : Endpoint :=
    { id := 0x12345679#64, childrenMask := 8, globalRouter := false, listen := [] }
  let second : Endpoint :=
    { id := 0x12345589#64, childrenMask := 8, globalRouter := false, listen := [] }
  let third : Endpoint :=
    { id := 0x12345680#64, childrenMask := 4, globalRouter := false, listen := [] }
  have step : ∀ (collection : EndpointCollection) (change : CollectionCall), change.MaskLe →
      collectionStep collection change (collection.call change) := fun _ _ small => ⟨small, rfl⟩
  have small : (8 : Nat) ≤ 30 ∧ (4 : Nat) ≤ 30 := by decide
  have run := ((((Run.refl.tail (step .empty (.insert first) small.1)).tail
    (step _ (.insert second) small.1)).tail (step _ (.insert third) small.2)).tail
    (step _ (.remove 0x12345589#64) trivial))
  exact ⟨_, _, run, rfl, by decide +kernel, (collection_table run).1⟩

end LibAtbus.Node
