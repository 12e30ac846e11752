/-
Module: LibAtbus.Proofs.DeferredCheck
Layer: Proofs
Purpose: What the check of the list in `node::proc` takes out of the tables. The list has endpoint
  objects, the removal goes by their ids. Resets of dead endpoints make no other endpoint
  unavailable, so a removal is wrong only where another object is registered under the id of a dead
  one: a new endpoint that has taken over the id is removed although it is available.
Trusted boundary: human-reviewed spec
Main exports: NodeObjects.RemovesOnlyDead, NodeObjects.NoneTakenOver, removeEndpoint_takes,
  checkAll_spec, proc_removes_only_dead, proc_removes_available
-/
import LibAtbus.Proofs.NodeDisconnect

namespace LibAtbus.Node

open Transitions

universe u v

variable {ε : Type u} {κ : Type v} {view : ε → Endpoint}

/-- A removal takes out the object under one key, with the id asked for, or changes nothing. -/
theorem ObjectCollection.removeChild_cases (collection : ObjectCollection view) (id : BusId) :
    collection.removeChild id = (none, collection) ∨
      ∃ key e, (key, e) ∈ collection.map.entries ∧ (view e).id = id ∧
        collection.removeChild id = (some e, collection.drop key) := by
  rw [removeChild]
  split
  · exact .inl rfl
  · rename_i key e low
    by_cases named : (view e).id = id
    · rw [if_neg (not_not.mpr named)]
      exact .inr ⟨key, e, (OrderedMap.lowerBound_some low).1, named, rfl⟩
    · rw [if_pos named]
      exact .inl rfl

/-- Of a collection without the entry of a key only the object of that key is gone. -/
theorem ObjectCollection.mem_drop {collection : ObjectCollection view} {key : BusId} {e f : ε}
    (member : (key, e) ∈ collection.map.entries) (stored : f ∈ collection.objects) :
    f ∈ (collection.drop key).objects ∨ f = e := by
  obtain ⟨key', entry⟩ := mem_objects.mp stored
  by_cases same : key' = key
  · have equal := OrderedMap.eq_of_key_eq entry member same
    exact .inr (Prod.mk.inj equal).2
  · exact .inl (mem_objects.mpr ⟨key', OrderedMap.mem_erase.mpr ⟨entry, same⟩⟩)

theorem ObjectCollection.of_mem_drop {collection : ObjectCollection view} {key : BusId} {f : ε}
    (stored : f ∈ (collection.drop key).objects) : f ∈ collection.objects := by
  obtain ⟨key', entry⟩ := mem_objects.mp stored
  exact mem_objects.mpr ⟨key', (OrderedMap.mem_erase.mp entry).1⟩

namespace NodeObjects

/-- What a removal by id does: it takes at most one object, which was registered with the id. -/
structure Takes (n : NodeObjects view κ) (id : BusId) (removed : Option ε)
    (after : NodeObjects view κ) : Prop where
  keeps : ∀ f, after.Registered f → n.Registered f
  taken : ∀ e, removed = some e → n.Registered e ∧ (view e).id = id
  lost : ∀ f, n.Registered f → ¬after.Registered f → removed = some f

section

variable {n : NodeObjects view κ} {id : BusId}

theorem takes_nothing : n.Takes id none n where
  keeps _ registered := registered
  taken _ found := by cases found
  lost _ registered gone := absurd registered gone

theorem removeEndpoint_takes (n : NodeObjects view κ) (id : BusId) :
    n.Takes id (n.removeEndpoint id).2.1 (n.removeEndpoint id).2.2 := by
  rw [removeEndpoint]
  split
  · rename_i parent
    rw [isParentNode, Option.any_eq_true] at parent
    obtain ⟨father, known, named⟩ := parent
    refine ⟨?_, ?_, ?_⟩
    · rintro f (absent | stored)
      · cases absent
      · exact .inr stored
    · intro e found
      rw [show n.father = some e from found] at known
      cases known
      exact ⟨.inl found, (eq_of_beq named).symm⟩
    · rintro f (found | stored) gone
      · exact found
      · exact absurd (.inr stored) gone
  · split
    · rcases n.brother.removeChild_cases id with kept | ⟨key, e, member, named, removed⟩
      · rw [kept]
        exact takes_nothing
      · rw [removed]
        refine ⟨?_, ?_, ?_⟩
        · rintro f (found | stored | stored)
          · exact .inl found
          · exact .inr (.inl (ObjectCollection.of_mem_drop stored))
          · exact .inr (.inr stored)
        · rintro f found
          cases found
          exact ⟨.inr (.inl (ObjectCollection.mem_objects.mpr ⟨key, member⟩)), named⟩
        · rintro f (found | stored | stored) gone
          · exact absurd (.inl found) gone
          · rcases ObjectCollection.mem_drop member stored with left | same
            · exact absurd (.inr (.inl left)) gone
            · exact congrArg some same.symm
          · exact absurd (.inr (.inr stored)) gone
    · split
      · rcases n.children.removeChild_cases id with kept | ⟨key, e, member, named, removed⟩
        · rw [kept]
          exact takes_nothing
        · rw [removed]
          refine ⟨?_, ?_, ?_⟩
          · rintro f (found | stored | stored)
            · exact .inl found
            · exact .inr (.inl stored)
            · exact .inr (.inr (ObjectCollection.of_mem_drop stored))
          · rintro f found
            cases found
            exact ⟨.inr (.inr (ObjectCollection.mem_objects.mpr ⟨key, member⟩)), named⟩
          · rintro f (found | stored | stored) gone
            · exact absurd (.inl found) gone
            · exact absurd (.inr (.inl stored)) gone
            · rcases ObjectCollection.mem_drop member stored with left | same
              · exact absurd (.inr (.inr left)) gone
              · exact congrArg some same.symm
      · exact takes_nothing

end

variable [DecidableEq ε] [DecidableEq κ] {n m : NodeObjects view κ} {list : List ε} {e : ε}

/-- What the check is to do: every object it takes out of a table is in the list and was not
    available when it was taken out, and an endpoint that was registered before and is not after is
    such an object. -/
def RemovesOnlyDead (n : NodeObjects view κ) : Prop :=
  ∃ done, n.procCheckList = .ok done ∧
    (∀ removal ∈ done.1, removal.object ∈ n.checkList ∧ removal.available = false) ∧
    ∀ e, n.Registered e → ¬done.2.Registered e → e ∈ n.checkList ∧ n.available e = false

/-- No endpoint that is available, or not in the list, is registered under the id of one in the list
    that is not available. -/
def NoneTakenOver (n : NodeObjects view κ) : Prop :=
  ∀ e ∈ n.checkList, n.available e = false → ∀ other, n.Registered other →
    (view other).id = (view e).id → other ∈ n.checkList ∧ n.available other = false

/-! ### The loop -/

/-- A stage of the loop: the availability of all endpoints is what it was, and nothing was
    registered. -/
structure Stage (n m : NodeObjects view κ) : Prop where
  settled : m.conns.Settled
  available : ∀ f, m.available f = n.available f
  registered : ∀ f, m.Registered f → n.Registered f

/-- What a part of the loop took out. -/
structure TookDead (n m : NodeObjects view κ) (removed : List (Removal ε))
    (after : NodeObjects view κ) : Prop where
  stage : n.Stage after
  dead : ∀ removal ∈ removed, removal.object ∈ n.checkList ∧ removal.available = false
  lost : ∀ f, m.Registered f → ¬after.Registered f → f ∈ n.checkList ∧ n.available f = false

theorem checkOne_spec (safe : n.NoneTakenOver) (stage : n.Stage m) (listed : e ∈ n.checkList) :
    ∃ done, m.checkOne e = .ok done ∧ TookDead n m done.1 done.2 := by
  refine ⟨_, checkOne_eq stage.settled e, ?_⟩
  cases alive : m.available e with
  | true => exact ⟨stage, by simp, fun f here gone => absurd here gone⟩
  | false =>
      have dead : n.available e = false := (stage.available e).symm.trans alive
      have reset : ∀ f, (m.afterReset e).available f = n.available f := by
        intro f
        rw [available_afterReset stage.settled, ← stage.available f]
        by_cases same : f = e
        · rw [same, alive, Bool.false_and]
        · simp [same]
      have takes := removeEndpoint_takes (m.afterReset e) (view e).id
      have removes : ∀ r, ((m.afterReset e).removeEndpoint (view e).id).2.1 = some r →
          r ∈ n.checkList ∧ n.available r = false := by
        intro r found
        obtain ⟨registered, named⟩ := takes.taken r found
        exact safe e listed dead r (stage.registered r registered) named
      have conns : ((m.afterReset e).removeEndpoint (view e).id).2.2.conns =
          (m.afterReset e).conns :=
        conns_removeEndpoint
      refine ⟨⟨?_, ?_, ?_⟩, ?_, ?_⟩
      · change (((m.afterReset e).removeEndpoint (view e).id).2.2).conns.Settled
        rw [conns]
        exact settled_unbound stage.settled e
      · intro f
        rw [← reset f]
        change (((m.afterReset e).removeEndpoint (view e).id).2.2).available f = _
        rw [available, available, conns]
      · intro f kept
        exact stage.registered f (takes.keeps f kept)
      · intro removal member
        obtain ⟨r, found, rfl⟩ := List.mem_map.mp member
        obtain ⟨inList, unavailable⟩ := removes r (Option.mem_toList.mp found)
        exact ⟨inList, (reset r).trans unavailable⟩
      · intro f here gone
        exact removes f (takes.lost f here gone)

theorem checkAll_spec (safe : n.NoneTakenOver) (stage : n.Stage m)
    (listed : ∀ e ∈ list, e ∈ n.checkList) :
    ∃ done, m.checkAll list = .ok done ∧ TookDead n m done.1 done.2 := by
  induction list generalizing m with
  | nil => exact ⟨_, rfl, stage, by simp, fun f here gone => absurd here gone⟩
  | cons e rest ih =>
      obtain ⟨one, checked, first⟩ := checkOne_spec safe stage (listed e (by simp))
      obtain ⟨others, finished, later⟩ := ih first.stage fun f member => listed f (by simp [member])
      refine ⟨_, checkAll_cons checked finished, later.stage, ?_, ?_⟩
      · intro removal member
        rcases List.mem_append.mp member with early | late
        · exact first.dead removal early
        · exact later.dead removal late
      · intro f here gone
        by_cases still : one.2.Registered f
        · exact later.lost f still gone
        · exact first.lost f here still

/-- The check of a list none of whose dead endpoints was replaced removes dead endpoints of the list
    alone. -/
theorem NoneTakenOver.removesOnlyDead (settled : n.conns.Settled) (safe : n.NoneTakenOver) :
    n.RemovesOnlyDead := by
  have stage : n.Stage { n with checkList := [] } := ⟨settled, fun _ => rfl, fun _ here => here⟩
  obtain ⟨done, checked, took⟩ := checkAll_spec safe stage fun _ member => member
  refine ⟨(done.1, { done.2 with checkList := [] }), ?_, took.dead, took.lost⟩
  rw [procCheckList, checked]
  rfl

/-- Between events the list can always be checked. -/
theorem Sound.proc (sound : n.Sound) : ∃ after, objectStep n .proc after := by
  have start : ({ n with checkList := [] } : NodeObjects view κ).conns.Settled := sound
  obtain ⟨done, checked, -⟩ := checkAll_settled start n.checkList
  refine ⟨{ done.2 with checkList := [] }, ?_⟩
  rw [objectStep, handle, procCheckList, checked]
  rfl

/-- In every run in which, whenever the list is checked, no endpoint that is available or not in the
    list is registered under the id of a dead one of the list, each check removes only dead
    endpoints of the list. -/
theorem proc_removes_only_dead {start : NodeObjects view κ}
    {made : List (Transition (NodeObjects view κ) (ObjectEvent ε κ))} (initial : start.Initial)
    (run : Run objectStep start made n)
    (condition : ∀ t ∈ made, t.label = .proc → t.pre.NoneTakenOver) :
    ∀ t ∈ made, t.label = .proc → t.pre.RemovesOnlyDead := by
  have begins : start.Sound := initial.conns.settled
  have preserved : ∀ t : Transition (NodeObjects view κ) (ObjectEvent ε κ), t.pre.Sound →
      objectStep t.pre t.label t.post → (t.label = .proc → t.pre.NoneTakenOver) →
      t.post.Sound ∧ (t.label = .proc → t.pre.RemovesOnlyDead) :=
    fun _ sound taken safe =>
      ⟨handle_settled sound taken, fun check => (safe check).removesOnlyDead sound⟩
  exact (run.forall_transition begins preserved condition).2

end NodeObjects

/-! ### One id, two objects -/

/-- All objects are created with one id. -/
def sameId : Nat → Endpoint := fun _ => byId 0x43210000#64

/-- A node that was created, with connections that were accepted and belong to no endpoint yet. -/
def NodeObjects.accepting : NodeObjects sameId Nat where
  self := { id := 0x12345678#64, childrenMask := 16, globalRouter := false, listen := [] }
  father := none
  brother := .empty
  children := .empty
  conns := ⟨fun _ => { state := .connected }, fun _ => {}⟩
  checkList := []

theorem NodeObjects.accepting_initial : accepting.Initial :=
  ⟨rfl, rfl, rfl, ⟨fun _ => ⟨rfl, rfl⟩, fun _ => rfl⟩, rfl⟩

/-- The node has an endpoint without connections, which is to be checked. -/
def NodeObjects.waiting : NodeObjects sameId Nat := (accepting.addEndpoint 0).2.addCheckList [0]

theorem NodeObjects.run_waiting : ∃ made, Run objectStep accepting made waiting ∧
    ∀ t ∈ made, t.label ≠ .proc := by
  have added : objectStep accepting (.addEndpoint 0) (accepting.addEndpoint 0).2 := rfl
  have listed : objectStep (accepting.addEndpoint 0).2 (.addCheckList 0) waiting := rfl
  exact ⟨_, (Run.refl.tail added).tail listed, by simp⟩

theorem NodeObjects.waiting_noneTakenOver : waiting.NoneTakenOver := by
  have objects : waiting.brother.objects = [0] ∧ waiting.children.objects = [] ∧
      waiting.available 0 = false := by
    decide +kernel
  have list : waiting.checkList = [0] := rfl
  intro e listed _ other registered _
  have first : other = 0 := by
    rcases registered with father | brother | child
    · cases father
    · rw [objects.1] at brother
      exact List.mem_singleton.mp brother
    · rw [objects.2.1] at child
      cases child
  rw [first, list]
  exact ⟨List.mem_singleton_self 0, objects.2.2⟩

/-- An endpoint that never got a connection is removed when the list is checked. -/
theorem proc_removes_only_dead_waiting :
    ∃ made n, Run objectStep NodeObjects.accepting made n ∧ (∃ t ∈ made, t.label = .proc) ∧
      ∀ t ∈ made, t.label = .proc → t.pre.RemovesOnlyDead := by
  obtain ⟨made, run, quiet⟩ := NodeObjects.run_waiting
  obtain ⟨after, checked⟩ := (NodeObjects.run_sound NodeObjects.accepting_initial run).proc
  refine ⟨_, _, run.tail checked, ⟨⟨.waiting, .proc, after⟩, by simp, rfl⟩,
    NodeObjects.proc_removes_only_dead NodeObjects.accepting_initial (run.tail checked) ?_⟩
  intro t member check
  rcases List.mem_append.mp member with early | last
  · exact absurd check (quiet t early)
  · rw [List.mem_singleton.mp last]
    exact NodeObjects.waiting_noneTakenOver

/-- The endpoint was removed for its faults, and another object registered under the id. -/
def NodeObjects.replaced : NodeObjects sameId Nat :=
  ((waiting.removeEndpoint 0x43210000#64).2.2.addEndpoint 1).2

/-- The new endpoint has a control connection and a data connection. -/
def NodeObjects.connected : NodeObjects sameId Nat :=
  { replaced with
    conns := ((replaced.conns.addConnection 1 (some 10) false).2.addConnection 1 (some 11) true).2 }

theorem NodeObjects.run_connected : ∃ made, Run objectStep accepting made connected := by
  obtain ⟨made, run, -⟩ := run_waiting
  have removed : objectStep waiting (.removeEndpoint 0x43210000#64)
      (waiting.removeEndpoint 0x43210000#64).2.2 := rfl
  have added : objectStep (waiting.removeEndpoint 0x43210000#64).2.2 (.addEndpoint 1) replaced :=
    rfl
  have ctrl : objectStep replaced (.call (.addConnection 1 (some 10) false))
      { replaced with conns := (replaced.conns.addConnection 1 (some 10) false).2 } := rfl
  have data : objectStep { replaced with
      conns := (replaced.conns.addConnection 1 (some 10) false).2 }
      (.call (.addConnection 1 (some 11) true)) connected := rfl
  exact ⟨_, (((run.tail removed).tail added).tail ctrl).tail data⟩

/-- An available endpoint is removed because its id is that of one that was to be checked. -/
theorem proc_removes_available :
    ∃ made n, Run objectStep NodeObjects.accepting made n ∧
      ¬∀ t ∈ made, t.label = .proc → t.pre.RemovesOnlyDead := by
  obtain ⟨made, run⟩ := NodeObjects.run_connected
  obtain ⟨after, checked⟩ := (NodeObjects.run_sound NodeObjects.accepting_initial run).proc
  refine ⟨_, _, run.tail checked, fun all => ?_⟩
  obtain ⟨done, found, dead, -⟩ := all ⟨.connected, .proc, after⟩ (by simp) rfl
  have removed : NodeObjects.connected.procCheckList.toOption.map Prod.fst = some [⟨1, true⟩] := by
    decide +kernel
  rw [found] at removed
  have alive := (dead ⟨1, true⟩ (by simp [Option.some.inj removed])).2
  cases alive

end LibAtbus.Node
