/-
Module: LibAtbus.Proofs.NodeDisconnect
Layer: Proofs
Purpose: What `node::disconnect` leaves for an id that is registered. A brother is reset, removed
  and reported, and nothing else changes. The parent leaves its place without a report. A child is
  only reset: the entry that is removed is looked for among the brothers, so that the child stays
  registered.
Trusted boundary: human-reviewed spec
Main exports: NodeObjects.DisconnectsOnly, NodeObjects.SoleBrother, disconnect_only_iff,
  disconnect_leaves_child
-/
import LibAtbus.Proofs.ObjectTables

namespace LibAtbus.Node

open Transitions

universe u v

variable {ε : Type u} {κ : Type v} {view : ε → Endpoint}

namespace ObjectCollection

variable {collection : ObjectCollection view} {id : BusId} {e : ε}

/-- An object found by its own id is the one that is removed under the id. -/
theorem removeChild_of_findChild (found : collection.findChild id = some e)
    (named : (view e).id = id) :
    ∃ key, (key, e) ∈ collection.map.entries ∧
      collection.removeChild id = (some e, collection.drop key) := by
  rw [findChild] at found
  rw [removeChild]
  split at found
  · cases found
  · rename_i key stored low
    have same : stored = e := by
      repeat' split at found
      · cases found
        rfl
      · cases found
        rfl
      · cases found
    rw [same] at low
    refine ⟨key, (OrderedMap.lowerBound_some low).1, ?_⟩
    rw [same, if_neg (not_not.mpr named)]

/-- An object is stored under one key. -/
theorem key_of_object {first second : BusId × ε} (memFirst : first ∈ collection.map.entries)
    (memSecond : second ∈ collection.map.entries) (same : first.2 = second.2) : first = second := by
  have keyed := collection.keyed first memFirst
  rw [same, ← collection.keyed second memSecond] at keyed
  exact OrderedMap.eq_of_key_eq memFirst memSecond keyed

theorem mem_objects : e ∈ collection.objects ↔ ∃ key, (key, e) ∈ collection.map.entries := by
  simp [objects]

end ObjectCollection

namespace NodeObjects

variable [DecidableEq ε] [DecidableEq κ] {n : NodeObjects view κ} {id : BusId} {e : ε}

/-- What `node::disconnect` is to do for a registered id: it succeeds, reports one endpoint with the
    id, leaves no endpoint with the id registered or to be found, and every other in its table, with
    its connections. -/
structure DisconnectsOnly (n : NodeObjects view κ) (id : BusId)
    (done : ErrorType × List ε × NodeObjects view κ) : Prop where
  code : done.1 = .success
  reported : ∃ e, n.Registered e ∧ (view e).id = id ∧ done.2.1 = [e]
  gone : ∀ e, done.2.2.Registered e → (view e).id ≠ id
  unreachable : done.2.2.getEndpoint id = none
  father : done.2.2.father = n.father.filter fun e => (view e).id ≠ id
  brother : done.2.2.brother.map.entries = n.brother.map.entries.filter fun entry =>
    (view entry.2).id ≠ id
  children : done.2.2.children.map.entries = n.children.map.entries.filter fun entry =>
    (view entry.2).id ≠ id
  untouched : ∀ e, n.Registered e → (view e).id ≠ id →
    done.2.2.conns.endpoints e = n.conns.endpoints e ∧
      ∀ c ∈ (n.conns.endpoints e).all, done.2.2.conns.conns c = n.conns.conns c

/-- The id is not that of the parent, `find_child` finds it among the brothers, and no other brother
    or child has it. -/
structure SoleBrother (n : NodeObjects view κ) (id : BusId) : Prop where
  notFather : ∀ father, n.father = some father → (view father).id ≠ id
  found : ∃ e, n.brother.findChild id = some e ∧ (view e).id = id ∧
    ∀ other ∈ n.brother.objects, (view other).id = id → other = e
  notChild : ∀ e ∈ n.children.objects, (view e).id ≠ id

/-! ### The branches of the source -/

theorem disconnect_father {father : ε} (settled : n.conns.Settled) (known : n.father = some father)
    (named : (view father).id = id) :
    n.disconnect id = .ok (.success, [], { n.afterReset father with father := none }) := by
  rw [disconnect, known, Option.filter_some, if_pos (decide_eq_true named.symm)]
  dsimp only
  rw [resetEndpoint_ok settled]
  rfl

omit [DecidableEq ε] [DecidableEq κ] in
theorem filter_father (notFather : ∀ father, n.father = some father → (view father).id ≠ id) :
    n.father.filter (fun father => id = (view father).id) = none := by
  cases known : n.father with
  | none => rfl
  | some father =>
      have other : ¬id = (view father).id := fun same => notFather father known same.symm
      rw [Option.filter_some, if_neg (by simpa using other)]

theorem disconnect_brother (settled : n.conns.Settled)
    (notFather : ∀ father, n.father = some father → (view father).id ≠ id)
    (found : n.brother.findChild id = some e) (named : (view e).id = id) :
    n.disconnect id = .ok (.success, (n.brother.removeChild id).1.toList,
      { n.afterReset e with brother := (n.brother.removeChild id).2 }) := by
  rw [disconnect, filter_father notFather, found, Option.filter_some, if_pos (decide_eq_true named)]
  dsimp only
  rw [resetEndpoint_ok settled]
  rfl

/-- What is left for an id that is no brother's: the children are not touched. -/
theorem disconnect_other (settled : n.conns.Settled)
    (notFather : ∀ father, n.father = some father → (view father).id ≠ id)
    (notFound : (n.brother.findChild id).filter (fun ep => (view ep).id = id) = none) :
    ∃ done, n.disconnect id = .ok done ∧
      (done.1 = .success → done.2.2.children = n.children ∧
        ∃ e ∈ n.children.objects, (view e).id = id) := by
  rw [disconnect, filter_father notFather, notFound]
  dsimp only
  split
  · rename_i ep found
    obtain ⟨known, named⟩ := Option.filter_eq_some_iff.mp found
    rw [resetEndpoint_ok settled]
    refine ⟨_, rfl, fun _ => ⟨rfl, ep, ObjectCollection.findChild_mem known, ?_⟩⟩
    simpa using named
  · exact ⟨_, rfl, fun success => by cases success⟩

/-! ### When the registered endpoint alone is disconnected -/

omit [DecidableEq ε] [DecidableEq κ] in
theorem getEndpoint_gone (gone : ∀ e, n.Registered e → (view e).id ≠ id) :
    n.getEndpoint id = none := by
  have missing : ∀ collection : ObjectCollection view,
      (∀ e ∈ collection.objects, (view e).id ≠ id) →
      (collection.findChild id).filter (fun res => (view res).id == id) = none := by
    intro collection apart
    cases found : collection.findChild id with
    | none => rfl
    | some e =>
        have other := apart e (ObjectCollection.findChild_mem found)
        rw [Option.filter_some, if_neg (by simpa using other)]
  have notParent : ¬n.isParentNode id = true := by
    rw [isParentNode, Option.any_eq_true]
    rintro ⟨father, known, parent⟩
    exact gone father (.inl known) (eq_of_beq parent).symm
  rw [getEndpoint, if_neg notParent]
  split
  · exact missing n.brother fun e member => gone e (.inr (.inl member))
  · split
    · exact missing n.children fun e member => gone e (.inr (.inr member))
    · rfl

/-- The brother that is disconnected leaves the others. -/
theorem SoleBrother.disconnects (settled : n.conns.Settled) (sole : n.SoleBrother id) :
    ∃ done, n.disconnect id = .ok done ∧ n.DisconnectsOnly id done := by
  obtain ⟨e, found, named, only⟩ := sole.found
  obtain ⟨key, member, removed⟩ := ObjectCollection.removeChild_of_findChild found named
  have registered : n.Registered e := .inr (.inl (ObjectCollection.mem_objects.mpr ⟨key, member⟩))
  have father : n.father = n.father.filter fun e => (view e).id ≠ id := by
    cases known : n.father with
    | none => rfl
    | some father =>
        have other := sole.notFather father known
        rw [Option.filter_some, if_pos (by simpa using other)]
  have children : n.children.map.entries = n.children.map.entries.filter fun entry =>
    (view entry.2).id ≠ id := by
    symm
    rw [List.filter_eq_self]
    intro entry stored
    have other := sole.notChild entry.2 (ObjectCollection.mem_objects.mpr ⟨entry.1, stored⟩)
    simpa using other
  have brother : (n.brother.drop key).map.entries =
      n.brother.map.entries.filter fun entry => (view entry.2).id ≠ id := by
    apply List.filter_congr
    intro entry stored
    have keys : entry.1 = key ↔ (view entry.2).id = id := by
      constructor
      · intro same
        have equal := OrderedMap.eq_of_key_eq stored member same
        rw [equal]
        exact named
      · intro same
        have object := only entry.2 (ObjectCollection.mem_objects.mpr ⟨entry.1, stored⟩) same
        have equal := ObjectCollection.key_of_object stored member object
        rw [equal]
    simp only [ne_eq, keys]
  have gone : ∀ f,
      ({ n.afterReset e with brother := n.brother.drop key } : NodeObjects view κ).Registered f →
      (view f).id ≠ id := by
    rintro f (known | stored | stored)
    · exact sole.notFather f known
    · obtain ⟨key', entry⟩ := ObjectCollection.mem_objects.mp stored
      have kept : (key', f) ∈ (n.brother.drop key).map.entries := entry
      rw [brother] at kept
      simpa using (List.mem_filter.mp kept).2
    · exact sole.notChild f stored
  refine ⟨_, disconnect_brother settled sole.notFather found named, ?_⟩
  rw [removed]
  refine ⟨rfl, ⟨e, registered, named, rfl⟩, gone, getEndpoint_gone gone, father, brother, children,
    ?_⟩
  intro f _ other
  have apart : f ≠ e := fun same => other (same ▸ named)
  exact afterReset_other settled apart

/-- In every reachable state, `disconnect` removes and reports the endpoint with the id and no
    other, exactly when that endpoint is a brother, and the only one with the id. -/
theorem disconnect_only_iff {start : NodeObjects view κ}
    {made : List (Transition (NodeObjects view κ) (ObjectEvent ε κ))} (initial : start.Initial)
    (run : Run objectStep start made n) (id : BusId) :
    (∃ done, n.disconnect id = .ok done ∧ n.DisconnectsOnly id done) ↔ n.SoleBrother id := by
  have settled : n.conns.Settled := run_sound initial run
  refine ⟨?_, SoleBrother.disconnects settled⟩
  rintro ⟨done, taken, only⟩
  have notFather : ∀ father, n.father = some father → (view father).id ≠ id := by
    intro father known named
    rw [disconnect_father settled known named] at taken
    cases taken
    obtain ⟨e, -, -, silent⟩ := only.reported
    cases silent
  cases found : (n.brother.findChild id).filter (fun ep => (view ep).id = id) with
  | none =>
      obtain ⟨other, same, children⟩ := disconnect_other settled notFather found
      rw [taken] at same
      cases same
      obtain ⟨kept, e, stored, named⟩ := children only.code
      have still : done.2.2.Registered e := .inr (.inr (kept ▸ stored))
      exact absurd named (only.gone e still)
  | some e =>
      obtain ⟨known, named'⟩ := Option.filter_eq_some_iff.mp found
      have named : (view e).id = id := by simpa using named'
      obtain ⟨key, member, removed⟩ := ObjectCollection.removeChild_of_findChild known named
      rw [disconnect_brother settled notFather known named, removed] at taken
      cases taken
      refine ⟨notFather, ⟨e, known, named, ?_⟩, ?_⟩
      · intro other stored same
        obtain ⟨key', entry⟩ := ObjectCollection.mem_objects.mp stored
        by_contra apart
        have elsewhere : key' ≠ key := by
          intro sameKey
          have equal := OrderedMap.eq_of_key_eq entry member sameKey
          exact apart (Prod.mk.inj equal).2
        have left : other ∈ (n.brother.drop key).objects :=
          ObjectCollection.mem_objects.mpr ⟨key', OrderedMap.mem_erase.mpr ⟨entry, elsewhere⟩⟩
        exact only.gone other (.inr (.inl left)) same
      · intro child stored same
        exact only.gone child (.inr (.inr stored)) same

end NodeObjects

/-! ### A brother and a child -/

/-- Endpoints by their ids, each with the least domain. -/
def byId (id : BusId) : Endpoint where
  id := id
  childrenMask := 0
  globalRouter := false
  listen := []

/-- A node that was created: its own domain are the ids from 0x12340000 to 0x1234FFFF. -/
def NodeObjects.fresh : NodeObjects byId Nat where
  self := { id := 0x12345678#64, childrenMask := 16, globalRouter := false, listen := [] }
  father := none
  brother := .empty
  children := .empty
  conns := ⟨fun _ => {}, fun _ => {}⟩
  checkList := []

theorem NodeObjects.fresh_initial : fresh.Initial :=
  ⟨rfl, rfl, rfl, ⟨fun _ => ⟨rfl, rfl⟩, fun _ => rfl⟩, rfl⟩

/-- The node with one endpoint. -/
def NodeObjects.holding (id : BusId) : NodeObjects byId Nat := (fresh.addEndpoint id).2

theorem NodeObjects.run_holding (id : BusId) :
    Run objectStep fresh ([] ++ [⟨fresh, .addEndpoint id, NodeObjects.holding id⟩])
      (NodeObjects.holding id) :=
  Run.refl.tail rfl

/-- A node with a brother. -/
theorem disconnect_only_iff_brother :
    (∃ done, (NodeObjects.holding 0x43210000#64).disconnect 0x43210000#64 = .ok done ∧
        (NodeObjects.holding 0x43210000#64).DisconnectsOnly 0x43210000#64 done) ↔
      (NodeObjects.holding 0x43210000#64).SoleBrother 0x43210000#64 :=
  NodeObjects.disconnect_only_iff NodeObjects.fresh_initial (NodeObjects.run_holding _)
    0x43210000#64

/-- A child stays registered although it was disconnected with success. -/
theorem disconnect_leaves_child :
    ∃ made n, Run objectStep NodeObjects.fresh made n ∧ n.Registered (0x12340001#64 : BusId) ∧
      ¬∃ done, n.disconnect 0x12340001#64 = .ok done ∧ n.DisconnectsOnly 0x12340001#64 done := by
  refine ⟨_, _, NodeObjects.run_holding 0x12340001#64, ?_, ?_⟩
  · exact .inr (.inr (by decide))
  · rintro ⟨done, taken, only⟩
    cases taken
    obtain ⟨e, -, -, silent⟩ := only.reported
    cases silent

end LibAtbus.Node
