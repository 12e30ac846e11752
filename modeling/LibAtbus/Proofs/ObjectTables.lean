/-
Module: LibAtbus.Proofs.ObjectTables
Layer: Proofs
Purpose: The tables of objects are the tables of endpoints: seen through what the objects were
  created with, each insertion and removal is that of the node without objects. An object keeps its
  connections until it is reset, and the reset of an endpoint leaves all others as they are.
Trusted boundary: none
Main exports: NodeObjects.tables, tables_addEndpoint, tables_removeEndpoint, NodeObjects.afterReset,
  resetEndpoint_ok, handle_settled
-/
import LibAtbus.Node.Lifecycle
import LibAtbus.Node.Objects
import LibAtbus.Proofs.ConnectionBinding

namespace LibAtbus.Node

open Transitions

universe u v

variable {ε : Type u} {κ : Type v} {view : ε → Endpoint}

namespace ObjectCollection

variable {collection : ObjectCollection view} {id : BusId} {e : ε}

theorem values_congr {first second : EndpointCollection} (same : first.map = second.map) :
    first = second := by
  cases first
  cases second
  cases same
  rfl

theorem values_store : (collection.store e).values = collection.values.store (view e) :=
  values_congr OrderedMap.insert_mapValues

theorem values_drop {key : BusId} : (collection.drop key).values = collection.values.drop key :=
  values_congr OrderedMap.erase_mapValues

theorem endpoints_values : collection.values.endpoints = collection.objects.map view := by
  simp [EndpointCollection.endpoints, objects, values, OrderedMap.mapValues]

theorem lowerBound_values : collection.values.map.lowerBound id =
    (collection.map.lowerBound id).map fun entry => (entry.1, view entry.2) :=
  OrderedMap.lowerBound_mapValues

theorem before_values : collection.values.map.before id =
    (collection.map.before id).map fun entry => (entry.1, view entry.2) :=
  OrderedMap.before_mapValues

theorem last_values :
    collection.values.map.last = collection.map.last.map fun entry => (entry.1, view entry.2) :=
  OrderedMap.last_mapValues

theorem values_insertChild :
    collection.values.insertChild (view e) =
      ((collection.insertChild e).1, (collection.insertChild e).2.values) := by
  have tested : ∀ clash : Bool,
      (if clash then (false, collection.values) else (true, collection.values.store (view e))) =
        ((if clash then (false, collection) else (true, collection.store e)).1,
          (if clash then (false, collection) else (true, collection.store e)).2.values) := by
    intro clash
    cases clash with
    | true => rfl
    | false =>
        rw [← values_store]
        rfl
  rw [EndpointCollection.insertChild, insertChild, lowerBound_values, before_values, last_values]
  cases collection.map.lowerBound (view e).id with
  | none =>
      dsimp only [Option.map_none]
      rw [Option.any_map]
      apply tested
  | some entry =>
      dsimp only [Option.map_some]
      rw [Option.any_map]
      by_cases same : (view entry.2).id = (view e).id
      · rw [if_pos same, if_pos same]
      · rw [if_neg same, if_neg same]
        by_cases covered :
          ((view entry.2).isChildNode (view e).id || (view e).isChildNode (view entry.2).id) = true
        · rw [if_pos covered, if_pos covered]
        · rw [if_neg covered, if_neg covered]
          apply tested

theorem values_removeChild :
    collection.values.removeChild id =
      ((collection.removeChild id).1.isSome, (collection.removeChild id).2.values) := by
  rw [EndpointCollection.removeChild, removeChild, lowerBound_values]
  cases collection.map.lowerBound id with
  | none => rfl
  | some entry =>
      dsimp only [Option.map_some]
      split
      · rfl
      · rw [values_drop]
        rfl

/-- What is found is stored, and by its own id when the removal finds it. -/
theorem findChild_mem (found : collection.findChild id = some e) : e ∈ collection.objects := by
  rw [findChild] at found
  split at found
  · cases found
  · rename_i key stored low
    have member : stored ∈ collection.objects :=
      List.mem_map.mpr ⟨(key, stored), (OrderedMap.lowerBound_some low).1, rfl⟩
    repeat' split at found
    · cases found
      exact member
    · cases found
      exact member
    · cases found

end ObjectCollection

namespace NodeObjects

section

variable {n : NodeObjects view κ} {id : BusId} {e : ε} {ttl : Int} {msgSize : Nat}

/-- The tables of what the objects were created with. -/
def tables (n : NodeObjects view κ) (ttl : Int) (msgSize : Nat) : BusNode where
  self := n.self
  father := n.father.map view
  brother := n.brother.values
  children := n.children.values
  ttl := ttl
  msgSize := msgSize

theorem tables_isParentNode : (n.tables ttl msgSize).isParentNode id = n.isParentNode id := by
  rw [BusNode.isParentNode, isParentNode, tables]
  cases n.father with
  | none => rfl
  | some father => rfl

theorem tables_isBrotherNode : (n.tables ttl msgSize).isBrotherNode id = n.isBrotherNode id := by
  rw [BusNode.isBrotherNode, isBrotherNode, tables]
  cases n.father with
  | none => rfl
  | some father => rfl

theorem tables_isChildNode : (n.tables ttl msgSize).isChildNode id = n.isChildNode id := rfl

/-- Adding an object adds its endpoint. -/
theorem tables_addEndpoint :
    (n.tables ttl msgSize).addEndpoint (view e) =
      ((n.addEndpoint e).1, (n.addEndpoint e).2.tables ttl msgSize) := by
  have shaped : (n.tables ttl msgSize).isParentShaped (view e) = true ↔
      n.self.childrenMask < (view e).childrenMask ∧ (view e).isChildNode n.self.id = true := by
    rw [BusNode.isParentShaped, Bool.and_eq_true, decide_eq_true_iff]
    rfl
  rw [BusNode.addEndpoint, addEndpoint, tables_isBrotherNode, tables_isChildNode]
  by_cases parent : n.self.childrenMask < (view e).childrenMask ∧
    (view e).isChildNode n.self.id = true
  · rw [if_pos (shaped.mpr parent), if_pos parent]
    cases known : n.father with
    | none => simp [tables, known]
    | some father => simp [tables, known]
  · rw [if_neg (mt shaped.mp parent), if_neg parent]
    split
    · rw [show (n.tables ttl msgSize).brother = n.brother.values from rfl,
        ObjectCollection.values_insertChild]
      generalize n.brother.insertChild e = inserted
      obtain ⟨stored, brother⟩ := inserted
      cases stored with
      | true => rfl
      | false => rfl
    · split
      · rw [show (n.tables ttl msgSize).children = n.children.values from rfl,
          ObjectCollection.values_insertChild]
        generalize n.children.insertChild e = inserted
        obtain ⟨stored, children⟩ := inserted
        cases stored with
        | true => rfl
        | false => rfl
      · rfl

/-- Removing an object removes its endpoint. -/
theorem tables_removeEndpoint :
    (n.tables ttl msgSize).removeEndpoint id =
      ((n.removeEndpoint id).1, (n.removeEndpoint id).2.2.tables ttl msgSize) := by
  rw [BusNode.removeEndpoint, removeEndpoint, tables_isParentNode, tables_isBrotherNode,
    tables_isChildNode]
  split
  · rfl
  · split
    · rw [show (n.tables ttl msgSize).brother = n.brother.values from rfl,
        ObjectCollection.values_removeChild]
      generalize n.brother.removeChild id = removed
      obtain ⟨taken, brother⟩ := removed
      cases taken with
      | none => rfl
      | some e => rfl
    · split
      · rw [show (n.tables ttl msgSize).children = n.children.values from rfl,
          ObjectCollection.values_removeChild]
        generalize n.children.removeChild id = removed
        obtain ⟨taken, children⟩ := removed
        cases taken with
        | none => rfl
        | some e => rfl
      · rfl

end

/-! ### Resets -/

section

variable [DecidableEq ε] [DecidableEq κ] {n after : NodeObjects view κ} {id : BusId} {e f : ε}

/-- A node after the reset of an endpoint. -/
def afterReset (n : NodeObjects view κ) (e : ε) : NodeObjects view κ :=
  { n with
    conns := n.conns.unbound e
    checkList := n.checkList ++ [e] }

theorem settled_unbound {w : Bindings ε κ} (settled : w.Settled) (e : ε) :
    (w.unbound e).Settled := by
  have calms := Bindings.calms_unbound w e
  refine ⟨settled.bound.unbound e, ⟨fun c => ?_, fun f => ?_⟩⟩
  · exact calms.conns c (settled.quiet.conns c)
  · exact calms.endpoints f (settled.quiet.endpoints f)

theorem bindings_reset {w : Bindings ε κ} (settled : w.Settled) (e : ε) :
    w.resetEndpoint nesting e = .ok (w.unbound e) := by
  have reset : w.resetEndpoint (2 + 3) e = .ok (w.unbound e) :=
    Bindings.resetEndpoint_eq settled.bound (settled.quiet.endpoints e) fun c _ =>
      settled.quiet.conns c
  exact reset

/-- Between calls a reset ends without a fault. -/
theorem resetEndpoint_ok (settled : n.conns.Settled) :
    n.resetEndpoint e = .ok (n.afterReset e) := by
  have idle : ¬(n.conns.endpoints e).resetting = true := by
    rw [settled.quiet.endpoints e]
    exact Bool.false_ne_true
  rw [resetEndpoint, if_neg idle, bindings_reset settled]
  rfl

/-- The reset of an endpoint leaves the others and their connections. -/
theorem afterReset_other (settled : n.conns.Settled) (other : f ≠ e) :
    (n.afterReset e).conns.endpoints f = n.conns.endpoints f ∧
      ∀ c ∈ (n.conns.endpoints f).all, (n.afterReset e).conns.conns c = n.conns.conns c := by
  refine ⟨Function.update_of_ne other .., fun c member => ?_⟩
  have own := (settled.bound.binding c f).mpr member
  have notMine : c ∉ (n.conns.endpoints e).all := by
    intro mine
    have bound := (settled.bound.binding c e).mpr mine
    rw [own] at bound
    exact other (Option.some.inj bound)
  simp only [EndpointConns.all, List.mem_append, Option.mem_toList, not_or] at notMine
  have notCtrl : ¬(n.conns.endpoints e).ctrl = some c := notMine.1
  change (if (n.conns.endpoints e).ctrl = some c then _ else _) = _
  rw [if_neg notCtrl, if_neg notMine.2]

/-- An endpoint that was reset is not available; the others are what they were. -/
theorem available_afterReset (settled : n.conns.Settled) :
    (n.afterReset e).available f = (n.available f && !decide (f = e)) := by
  by_cases same : f = e
  · have emptied : (n.afterReset e).conns.endpoints e = {} := Function.update_self ..
    rw [same, available, emptied]
    simp
  · obtain ⟨endpoint, conns⟩ := afterReset_other settled same
    have running :
        ((n.conns.endpoints f).data.any fun c => ((n.afterReset e).conns.conns c).state.isRunning) =
        (n.conns.endpoints f).data.any fun c => (n.conns.conns c).state.isRunning := by
      rw [Bool.eq_iff_iff, List.any_eq_true, List.any_eq_true]
      refine exists_congr fun c => and_congr_right fun member => ?_
      rw [conns c (List.mem_append_right _ member)]
    rw [available, endpoint, running, available]
    simp [same]

/-! ### Runs -/

theorem disconnect_ok (settled : n.conns.Settled) (id : BusId) :
    ∃ done, n.disconnect id = .ok done ∧ done.2.2.conns.Settled := by
  rw [disconnect]
  split
  · rename_i father _
    rw [resetEndpoint_ok settled]
    exact ⟨_, rfl, settled_unbound settled father⟩
  · split
    · rename_i ep _
      rw [resetEndpoint_ok settled]
      exact ⟨_, rfl, settled_unbound settled ep⟩
    · split
      · rename_i ep _
        rw [resetEndpoint_ok settled]
        exact ⟨_, rfl, settled_unbound settled ep⟩
      · exact ⟨_, rfl, settled⟩

omit [DecidableEq ε] [DecidableEq κ] in
theorem conns_addEndpoint : (n.addEndpoint e).2.conns = n.conns := by
  rw [addEndpoint]
  repeat' split
  all_goals rfl

omit [DecidableEq ε] [DecidableEq κ] in
theorem conns_removeEndpoint : (n.removeEndpoint id).2.2.conns = n.conns := by
  rw [removeEndpoint]
  repeat' split
  all_goals rfl

/-- What the check of one endpoint does. -/
theorem checkOne_eq (settled : n.conns.Settled) (e : ε) :
    n.checkOne e = .ok (
      if n.available e then ([], n)
      else
        (((n.afterReset e).removeEndpoint (view e).id).2.1.toList.map fun object =>
            ⟨object, (n.afterReset e).available object⟩,
          ((n.afterReset e).removeEndpoint (view e).id).2.2)) := by
  rw [checkOne]
  split
  · rfl
  · rw [resetEndpoint_ok settled]
    rfl

theorem checkOne_settled (settled : n.conns.Settled) (e : ε) :
    ∃ done, n.checkOne e = .ok done ∧ done.2.conns.Settled := by
  refine ⟨_, checkOne_eq settled e, ?_⟩
  split
  · exact settled
  · rw [conns_removeEndpoint]
    exact settled_unbound settled e

/-- One round of the loop and what follows it. -/
theorem checkAll_cons {rest : List ε} {one others : List (Removal ε) × NodeObjects view κ}
    (checked : n.checkOne e = .ok one) (finished : one.2.checkAll rest = .ok others) :
    n.checkAll (e :: rest) = .ok (one.1 ++ others.1, others.2) := by
  simp [checkAll, checked, finished, bind, Except.bind, pure, Except.pure]

theorem checkAll_settled (settled : n.conns.Settled) (list : List ε) :
    ∃ done, n.checkAll list = .ok done ∧ done.2.conns.Settled := by
  induction list generalizing n with
  | nil => exact ⟨_, rfl, settled⟩
  | cons e rest ih =>
      obtain ⟨one, checked, kept⟩ := checkOne_settled settled e
      obtain ⟨others, finished, settled'⟩ := ih kept
      exact ⟨_, checkAll_cons checked finished, settled'⟩

/-- Every event keeps every connection bound to the endpoint that has it. -/
theorem handle_settled {event : ObjectEvent ε κ} (settled : n.conns.Settled)
    (taken : objectStep n event after) : after.conns.Settled := by
  rw [objectStep] at taken
  cases event with
  | call call =>
      rw [handle] at taken
      cases called : n.conns.call call with
      | error fault =>
          rw [called] at taken
          cases taken
      | ok w =>
          rw [called] at taken
          cases taken
          obtain ⟨w', same, kept⟩ := Bindings.call_spec settled (Bindings.allows_of_call_ok called)
          rw [called] at same
          cases same
          exact kept
  | addEndpoint e =>
      cases taken
      rw [conns_addEndpoint]
      exact settled
  | removeEndpoint tid =>
      cases taken
      rw [conns_removeEndpoint]
      exact settled
  | disconnect id =>
      obtain ⟨done, disconnected, kept⟩ := disconnect_ok settled id
      rw [handle, disconnected] at taken
      cases taken
      exact kept
  | addCheckList e =>
      cases taken
      exact settled
  | destroy e =>
      rw [handle, bindings_reset settled] at taken
      cases taken
      exact settled_unbound settled e
  | clear =>
      cases taken
      exact settled
  | proc =>
      have start : ({ n with checkList := [] } : NodeObjects view κ).conns.Settled := settled
      obtain ⟨done, checked, kept⟩ := checkAll_settled start n.checkList
      rw [handle, procCheckList, checked] at taken
      cases taken
      exact kept

/-- Every connection is bound to the endpoint that has it. -/
def Sound (n : NodeObjects view κ) : Prop := n.conns.Settled

theorem run_sound {start : NodeObjects view κ}
    {made : List (Transition (NodeObjects view κ) (ObjectEvent ε κ))} (initial : start.Initial)
    (run : Run objectStep start made n) : n.Sound := by
  have begins : start.Sound := initial.conns.settled
  have preserved : ∀ t : Transition (NodeObjects view κ) (ObjectEvent ε κ), t.pre.Sound →
      objectStep t.pre t.label t.post → True → t.post.Sound :=
    fun _ sound taken _ => handle_settled sound taken
  exact run.invariant begins preserved fun _ _ => trivial

end

end NodeObjects

end LibAtbus.Node
