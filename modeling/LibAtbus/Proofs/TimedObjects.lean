/-
Module: LibAtbus.Proofs.TimedObjects
Layer: Proofs
Purpose: A node with timers is a node of objects: what its timers do to tables, bindings and the
  list of endpoints to check are events of the objects, so that each of its runs is a run of theirs,
  and what holds of those holds of it. In particular no assertion fails in `proc`, whatever fell due
  and whatever its pings destroy.
Trusted boundary: none
Main exports: NodeObjects.Reaches, NodeObjects.Keyed, TimedNode.Counts, counts_pingEndpoint,
  counts_onRecv, TimedNode.Fires, fireEach_ok, procPings_ok, TimedNode.Closes, procConnecting_ok,
  proc_ok, handle_reaches
-/
import LibAtbus.Node.Timers
import LibAtbus.Proofs.ConnectionResets
import LibAtbus.Proofs.EndpointRegistry

namespace LibAtbus.Node

open DelayQueue Transitions

universe u v

variable {ε : Type u} {κ : Type v} {view : ε → Endpoint} [DecidableEq ε] [DecidableEq κ]

/-! ### What events leave registered -/

namespace NodeObjects

variable {n m after : NodeObjects view κ} {e f : ε}

/-- Some events lead from one node to another. -/
def Reaches (n m : NodeObjects view κ) : Prop := ∃ made, Run objectStep n made m

theorem Reaches.refl : n.Reaches n := ⟨_, .refl⟩

theorem Reaches.trans (first : n.Reaches m) (second : m.Reaches after) : n.Reaches after := by
  obtain ⟨_, run⟩ := first
  obtain ⟨_, later⟩ := second
  exact ⟨_, run.append later⟩

theorem Reaches.event {event : ObjectEvent ε κ} (taken : n.handle event = .ok m) : n.Reaches m :=
  ⟨_, Run.refl.tail taken⟩

theorem Reaches.settled (reaches : n.Reaches m) (settled : n.conns.Settled) : m.conns.Settled := by
  obtain ⟨_, run⟩ := reaches
  have begins : n.Sound := settled
  have preserved : ∀ t : Transition (NodeObjects view κ) (ObjectEvent ε κ), t.pre.Sound →
      objectStep t.pre t.label t.post → True → t.post.Sound :=
    fun _ sound taken _ => handle_settled sound taken
  exact run.invariant begins preserved fun _ _ => trivial

omit [DecidableEq ε] [DecidableEq κ] in
theorem registered_congr (father : m.father = n.father) (brother : m.brother = n.brother)
    (children : m.children = n.children) : m.Registered f ↔ n.Registered f := by
  rw [Registered, Registered, father, brother, children]

omit [DecidableEq ε] [DecidableEq κ] in
theorem not_registered (father : n.father = none) (brother : n.brother = .empty)
    (children : n.children = .empty) : ¬n.Registered f := by
  rintro (known | stored | stored)
  · rw [father] at known
    cases known
  · rw [brother] at stored
    cases stored
  · rw [children] at stored
    cases stored

/-- The reset of an endpoint leaves the tables. -/
theorem registered_resetEndpoint (reset : n.resetEndpoint e = .ok m) :
    m.Registered f ↔ n.Registered f := by
  rw [resetEndpoint] at reset
  split at reset
  · cases reset
    exact Iff.rfl
  · cases done : n.conns.resetEndpoint nesting e with
    | error fault =>
        rw [done] at reset
        cases reset
    | ok conns =>
        rw [done] at reset
        cases reset
        exact Iff.rfl

theorem registered_checkOne {done : List (Removal ε) × NodeObjects view κ}
    (checked : n.checkOne e = .ok done) (kept : done.2.Registered f) : n.Registered f := by
  rw [checkOne] at checked
  split at checked
  · cases checked
    exact kept
  · cases reset : n.resetEndpoint e with
    | error fault =>
        rw [reset] at checked
        cases checked
    | ok m =>
        rw [reset] at checked
        cases checked
        exact (registered_resetEndpoint reset).mp
          ((removeEndpoint_takes m (view e).id).keeps f kept)

theorem registered_checkAll {list : List ε} {done : List (Removal ε) × NodeObjects view κ}
    (checked : n.checkAll list = .ok done) (kept : done.2.Registered f) : n.Registered f := by
  induction list generalizing n done with
  | nil =>
      cases checked
      exact kept
  | cons e rest ih =>
      rw [checkAll] at checked
      cases one : n.checkOne e with
      | error fault =>
          rw [one] at checked
          cases checked
      | ok first =>
          cases others : first.2.checkAll rest with
          | error fault =>
              rw [one] at checked
              simp only [bind, Except.bind, others] at checked
              cases checked
          | ok last =>
              rw [one] at checked
              simp only [bind, Except.bind, others] at checked
              cases checked
              exact registered_checkOne one (ih others kept)

theorem registered_procCheckList {done : List (Removal ε) × NodeObjects view κ}
    (checked : n.procCheckList = .ok done) (kept : done.2.Registered f) : n.Registered f := by
  rw [procCheckList] at checked
  cases all : NodeObjects.checkAll { n with checkList := [] } n.checkList with
  | error fault =>
      rw [all] at checked
      cases checked
  | ok last =>
      rw [all] at checked
      cases checked
      have before : ({ n with checkList := [] } : NodeObjects view κ).Registered f :=
        registered_checkAll all kept
      exact before

omit [DecidableEq ε] [DecidableEq κ] in
theorem mem_store {collection : ObjectCollection view} (stored : f ∈ (collection.store e).objects) :
    f = e ∨ f ∈ collection.objects := by
  obtain ⟨key, entry⟩ := ObjectCollection.mem_objects.mp stored
  rcases OrderedMap.mem_insert.mp entry with same | ⟨old, -⟩
  · exact .inl (Prod.mk.inj same).2
  · exact .inr (ObjectCollection.mem_objects.mpr ⟨key, old⟩)

omit [DecidableEq ε] [DecidableEq κ] in
theorem mem_insertChild {collection : ObjectCollection view}
    (stored : f ∈ (collection.insertChild e).2.objects) : f = e ∨ f ∈ collection.objects := by
  rw [ObjectCollection.insertChild] at stored
  repeat' split at stored
  all_goals first | exact .inr stored | exact mem_store stored

omit [DecidableEq ε] [DecidableEq κ] in
theorem registered_addEndpoint (kept : (n.addEndpoint e).2.Registered f) :
    f = e ∨ n.Registered f := by
  rw [addEndpoint] at kept
  split at kept
  · split at kept
    · rcases kept with father | stored
      · exact .inl (Option.some.inj father).symm
      · exact .inr (.inr stored)
    · exact .inr kept
  · split at kept
    · split at kept
      · rename_i brother inserted
        rcases kept with father | stored | child
        · exact .inr (.inl father)
        · have new : f ∈ (n.brother.insertChild e).2.objects := by rwa [inserted]
          exact (mem_insertChild new).imp id fun old => .inr (.inl old)
        · exact .inr (.inr (.inr child))
      · exact .inr kept
    · split at kept
      · split at kept
        · rename_i children inserted
          rcases kept with father | brother | stored
          · exact .inr (.inl father)
          · exact .inr (.inr (.inl brother))
          · have new : f ∈ (n.children.insertChild e).2.objects := by rwa [inserted]
            exact (mem_insertChild new).imp id fun old => .inr (.inr old)
        · exact .inr kept
      · exact .inr kept

omit [DecidableEq ε] [DecidableEq κ] in
theorem mem_removeChild {collection : ObjectCollection view} {id : BusId}
    (stored : f ∈ (collection.removeChild id).2.objects) : f ∈ collection.objects := by
  rcases collection.removeChild_cases id with kept | ⟨key, e, -, -, removed⟩
  · rwa [kept] at stored
  · rw [removed] at stored
    exact ObjectCollection.of_mem_drop stored

theorem registered_disconnect {id : BusId} {done : ErrorType × List ε × NodeObjects view κ}
    (settled : n.conns.Settled) (disconnected : n.disconnect id = .ok done)
    (kept : done.2.2.Registered f) : n.Registered f := by
  rw [disconnect] at disconnected
  repeat' split at disconnected
  · rw [resetEndpoint_ok settled] at disconnected
    cases disconnected
    rcases kept with father | stored
    · cases father
    · exact .inr stored
  · rw [resetEndpoint_ok settled] at disconnected
    cases disconnected
    exact kept.imp_right fun stored => stored.imp_left mem_removeChild
  · rw [resetEndpoint_ok settled] at disconnected
    cases disconnected
    exact kept.imp_right fun stored => stored.imp_left mem_removeChild
  · cases disconnected
    exact kept

/-- Only adding an endpoint registers one. -/
theorem registered_handle {event : ObjectEvent ε κ} (settled : n.conns.Settled)
    (taken : n.handle event = .ok after) (kept : after.Registered f) :
    n.Registered f ∨ event = .addEndpoint f := by
  cases event with
  | call call =>
      rw [handle] at taken
      cases called : n.conns.call call with
      | error fault =>
          rw [called] at taken
          cases taken
      | ok w =>
          rw [called] at taken
          cases taken
          exact .inl kept
  | addEndpoint e =>
      cases taken
      rcases registered_addEndpoint kept with same | before
      · exact .inr (congrArg ObjectEvent.addEndpoint same.symm)
      · exact .inl before
  | removeEndpoint tid =>
      cases taken
      exact .inl ((removeEndpoint_takes n tid).keeps f kept)
  | disconnect id =>
      rw [handle] at taken
      cases disconnected : n.disconnect id with
      | error fault =>
          rw [disconnected] at taken
          cases taken
      | ok done =>
          rw [disconnected] at taken
          cases taken
          exact .inl (registered_disconnect settled disconnected kept)
  | addCheckList e =>
      cases taken
      exact .inl kept
  | destroy e =>
      rw [handle] at taken
      cases reset : n.conns.resetEndpoint nesting e with
      | error fault =>
          rw [reset] at taken
          cases taken
      | ok conns =>
          rw [reset] at taken
          cases taken
          exact .inl kept
  | clear =>
      cases taken
      exact absurd kept (not_registered rfl rfl rfl)
  | proc =>
      rw [handle] at taken
      cases checked : n.procCheckList with
      | error fault =>
          rw [checked] at taken
          cases taken
      | ok done =>
          rw [checked] at taken
          cases taken
          exact .inl (registered_procCheckList checked kept)

/-- The tables of the objects behave as a map by id. -/
def Keyed (n : NodeObjects view κ) : Prop := RegistryInv (n.tables 0 0)

omit [DecidableEq ε] [DecidableEq κ] in
theorem Keyed.removeEndpoint (keyed : n.Keyed) (id : BusId) : (n.removeEndpoint id).2.2.Keyed := by
  have kept := RegistryInv.removeEndpoint keyed id
  rwa [tables_removeEndpoint] at kept

omit [DecidableEq ε] [DecidableEq κ] in
/-- A node that has no endpoints. -/
theorem Keyed.empty (mask : n.self.childrenMask ≤ 30) (father : n.father = none)
    (brother : n.brother = .empty) (children : n.children = .empty) : n.Keyed := by
  have initial : (⟨n.tables 0 0, []⟩ : Registry).Initial :=
    ⟨mask, congrArg (Option.map view) father, congrArg ObjectCollection.values brother,
      congrArg ObjectCollection.values children, rfl⟩
  exact (Registry.Inv.initial initial).tables

/-- The event adds no endpoint, or one that leaves the tables a map. -/
def AddsApart (n : NodeObjects view κ) : ObjectEvent ε κ → Prop
  | .addEndpoint e => (view e).childrenMask ≤ 30 ∧ (n.tables 0 0).TakesApart (view e)
  | _ => True

omit [DecidableEq ε] [DecidableEq κ] in
theorem Keyed.dropBrother (keyed : n.Keyed) (id : BusId) :
    Keyed { n with brother := (n.brother.removeChild id).2 } := by
  have kept := RegistryInv.dropBrother keyed id
  rwa [show (n.tables 0 0).brother = n.brother.values from rfl, ObjectCollection.values_removeChild]
    at kept

theorem Keyed.disconnect {id : BusId} {done : ErrorType × List ε × NodeObjects view κ}
    (keyed : n.Keyed) (settled : n.conns.Settled) (disconnected : n.disconnect id = .ok done) :
    done.2.2.Keyed := by
  rw [NodeObjects.disconnect] at disconnected
  repeat' split at disconnected
  · rw [resetEndpoint_ok settled] at disconnected
    cases disconnected
    exact RegistryInv.dropFather keyed
  · rw [resetEndpoint_ok settled] at disconnected
    cases disconnected
    exact keyed.dropBrother id
  · rw [resetEndpoint_ok settled] at disconnected
    cases disconnected
    exact keyed.dropBrother id
  · cases disconnected
    exact keyed

theorem Keyed.checkOne {done : List (Removal ε) × NodeObjects view κ} (keyed : n.Keyed)
    (settled : n.conns.Settled) (checked : n.checkOne e = .ok done) : done.2.Keyed := by
  rw [checkOne_eq settled] at checked
  cases checked
  split
  · exact keyed
  · have reset : (n.afterReset e).Keyed := keyed
    exact reset.removeEndpoint _

theorem Keyed.checkAll {list : List ε} {done : List (Removal ε) × NodeObjects view κ}
    (keyed : n.Keyed) (settled : n.conns.Settled) (checked : n.checkAll list = .ok done) :
    done.2.Keyed := by
  induction list generalizing n done with
  | nil =>
      cases checked
      exact keyed
  | cons e rest ih =>
      obtain ⟨one, first, kept⟩ := checkOne_settled settled e
      rw [NodeObjects.checkAll, first] at checked
      cases others : one.2.checkAll rest with
      | error fault =>
          simp only [bind, Except.bind, others] at checked
          cases checked
      | ok last =>
          simp only [bind, Except.bind, others] at checked
          cases checked
          have later : last.2.Keyed := ih (keyed.checkOne settled first) kept others
          exact later

theorem Keyed.procCheckList {done : List (Removal ε) × NodeObjects view κ} (keyed : n.Keyed)
    (settled : n.conns.Settled) (checked : n.procCheckList = .ok done) : done.2.Keyed := by
  rw [NodeObjects.procCheckList] at checked
  cases all : NodeObjects.checkAll { n with checkList := [] } n.checkList with
  | error fault =>
      rw [all] at checked
      cases checked
  | ok last =>
      rw [all] at checked
      cases checked
      have start : Keyed ({ n with checkList := [] } : NodeObjects view κ) := keyed
      have checked : last.2.Keyed := start.checkAll settled all
      exact checked

/-- Such tables stay a map. -/
theorem Keyed.handle {event : ObjectEvent ε κ} (keyed : n.Keyed) (settled : n.conns.Settled)
    (taken : n.handle event = .ok after) (apart : n.AddsApart event) : after.Keyed := by
  cases event with
  | call call =>
      rw [NodeObjects.handle] at taken
      cases called : n.conns.call call with
      | error fault =>
          rw [called] at taken
          cases taken
      | ok conns =>
          rw [called] at taken
          cases taken
          exact keyed
  | addEndpoint e =>
      cases taken
      have added := RegistryInv.addEndpoint keyed apart.1 apart.2
      rwa [tables_addEndpoint] at added
  | removeEndpoint tid =>
      cases taken
      exact keyed.removeEndpoint tid
  | disconnect id =>
      rw [NodeObjects.handle] at taken
      cases disconnected : n.disconnect id with
      | error fault =>
          rw [disconnected] at taken
          cases taken
      | ok done =>
          rw [disconnected] at taken
          cases taken
          exact keyed.disconnect settled disconnected
  | addCheckList e =>
      cases taken
      exact keyed
  | destroy e =>
      rw [NodeObjects.handle] at taken
      cases reset : n.conns.resetEndpoint nesting e with
      | error fault =>
          rw [reset] at taken
          cases taken
      | ok conns =>
          rw [reset] at taken
          cases taken
          exact keyed
  | clear =>
      cases taken
      exact .empty keyed.mask rfl rfl rfl
  | proc =>
      rw [NodeObjects.handle] at taken
      cases checked : n.procCheckList with
      | error fault =>
          rw [checked] at taken
          cases taken
      | ok done =>
          rw [checked] at taken
          cases taken
          exact keyed.procCheckList settled checked

omit [DecidableEq ε] [DecidableEq κ] in
theorem Registered.mem_endpoints (registered : n.Registered e) :
    view e ∈ (n.tables 0 0).endpoints := by
  rw [BusNode.mem_endpoints]
  rcases registered with father | brother | child
  · exact .inl (congrArg (Option.map view) father)
  · refine .inr (.inl ?_)
    change view e ∈ n.brother.values.endpoints
    rw [ObjectCollection.endpoints_values]
    exact List.mem_map_of_mem brother
  · refine .inr (.inr ?_)
    change view e ∈ n.children.values.endpoints
    rw [ObjectCollection.endpoints_values]
    exact List.mem_map_of_mem child

omit [DecidableEq ε] [DecidableEq κ] in
/-- Such tables lose the endpoint whose id is removed. -/
theorem Keyed.not_registered (keyed : n.Keyed) :
    ¬(n.removeEndpoint (view e).id).2.2.Registered e := by
  intro kept
  have found := kept.mem_endpoints
  have left : view e ∈ ((n.tables 0 0).removeEndpoint (view e).id).2.endpoints ↔
      view e ∈ (n.tables 0 0).endpoints ∧ (view e).id ≠ (view e).id :=
    RegistryInv.mem_removeEndpoint keyed
  rw [tables_removeEndpoint] at left
  exact (left.mp found).2 rfl

omit [DecidableEq ε] [DecidableEq κ] in
theorem checkList_removeEndpoint {id : BusId} :
    (n.removeEndpoint id).2.2.checkList = n.checkList := by
  rw [removeEndpoint]
  repeat' split
  all_goals rfl

end NodeObjects

namespace TimedNode

variable {n m after : TimedNode view κ} {sendPing : κ → BitVec 32 → ErrorType} {e f : ε} {c : κ}

/-! ### Counting and pinging -/

/-- What counting faults and pinging leave: statistics, sequences and removals apart, all is as it
    was. -/
structure Counts (n after : TimedNode view κ) : Prop where
  expired : after.expired = n.expired
  conf : after.conf = n.conf
  sec : after.sec = n.sec
  pingList : after.pingList = n.pingList
  connectingList : after.connectingList = n.connectingList
  conns : after.objects.conns = n.objects.conns
  checkList : after.objects.checkList = n.objects.checkList
  reaches : n.objects.Reaches after.objects
  registered : ∀ f, after.objects.Registered f → n.objects.Registered f
  keyed : n.objects.Keyed → after.objects.Keyed

theorem Counts.refl : n.Counts n :=
  ⟨rfl, rfl, rfl, rfl, rfl, rfl, rfl, .refl, fun _ kept => kept, id⟩

theorem Counts.trans (first : n.Counts m) (second : m.Counts after) : n.Counts after where
  expired := second.expired.trans first.expired
  conf := second.conf.trans first.conf
  sec := second.sec.trans first.sec
  pingList := second.pingList.trans first.pingList
  connectingList := second.connectingList.trans first.connectingList
  conns := second.conns.trans first.conns
  checkList := second.checkList.trans first.checkList
  reaches := first.reaches.trans second.reaches
  registered f kept := first.registered f (second.registered f kept)
  keyed known := second.keyed (first.keyed known)

theorem counts_setStat (change : EndpointStat → EndpointStat) : n.Counts (n.setStat e change) :=
  ⟨rfl, rfl, rfl, rfl, rfl, rfl, rfl, .refl, fun _ kept => kept, id⟩

theorem counts_addEndpointFault (e : ε) : n.Counts (n.addEndpointFault e).2 := by
  unfold addEndpointFault
  dsimp only
  split
  · have removed : n.objects.handle (.removeEndpoint (view e).id) =
        .ok (n.objects.removeEndpoint (view e).id).2.2 := rfl
    exact ⟨rfl, rfl, rfl, rfl, rfl, NodeObjects.conns_removeEndpoint,
      NodeObjects.checkList_removeEndpoint, .event removed,
      (NodeObjects.removeEndpoint_takes _ _).keeps, fun known => known.removeEndpoint _⟩
  · dsimp only
    apply counts_setStat

theorem counts_checkPing (e : ε) : n.Counts (n.checkPing e).2 := by
  rw [checkPing]
  split
  · exact counts_addEndpointFault e
  · exact .refl

theorem counts_pingConnection (sendPing : κ → BitVec 32 → ErrorType) (e : ε) :
    n.Counts (n.pingConnection sendPing e).2.2 := by
  have allocated : n.Counts { n with msgSeq := n.msgSeq + 1#32 } :=
    ⟨rfl, rfl, rfl, rfl, rfl, rfl, rfl, .refl, fun _ kept => kept, id⟩
  rw [pingConnection]
  split
  · exact .refl
  · dsimp only
    split
    · exact allocated.trans (counts_addEndpointFault e)
    · dsimp only
      exact allocated.trans (counts_setStat _)

theorem counts_pingEndpoint (sendPing : κ → BitVec 32 → ErrorType) (e : ε) :
    n.Counts (n.pingEndpoint sendPing e).2.2 := by
  rw [pingEndpoint]
  split
  · exact counts_checkPing e
  · exact (counts_checkPing e).trans (counts_pingConnection sendPing e)

theorem counts_bindingFault (c : κ) : n.Counts (n.bindingFault c) := by
  unfold bindingFault
  split
  · exact .refl
  · exact counts_addEndpointFault _

theorem counts_onRecvNodePong (c : κ) (m : Msg) : n.Counts (n.onRecvNodePong c m).2 := by
  unfold onRecvNodePong
  repeat' split
  · exact .refl
  · exact .refl
  · dsimp only
    apply counts_setStat

theorem counts_dispatchStat (c : κ) (m : Msg) (res ret : Int) :
    n.Counts (n.dispatchStat c m res ret).2.2 := by
  rw [dispatchStat]
  split
  · exact counts_onRecvNodePong c m
  · exact .refl

theorem counts_clearFault (c : κ) : n.Counts (n.clearFault c) := by
  unfold clearFault
  split
  · exact .refl
  · apply counts_setStat

theorem counts_onRecv (c : κ) (failed : Bool) (m : Option Msg) (res ret : Int) :
    n.Counts (n.onRecv c failed m res ret) := by
  unfold onRecv
  split
  · exact counts_bindingFault c
  · cases m with
    | none => exact counts_bindingFault c
    | some m =>
        have dispatched := counts_dispatchStat (n := n) c m res ret
        dsimp only
        repeat' split
        · exact dispatched.trans (counts_bindingFault c)
        · exact dispatched.trans (counts_bindingFault c)
        · exact dispatched.trans (counts_clearFault c)

/-! ### What a ping destroys -/

/-- What pings in `proc` leave, with the endpoints that are destroyed after them: the configuration,
    the clock and the timers are as they were, nothing comes up or back, and what is still
    registered was not destroyed. -/
structure Fires (n after : TimedNode view κ) : Prop where
  conf : after.conf = n.conf
  sec : after.sec = n.sec
  pingList : after.pingList = n.pingList
  connectingList : after.connectingList = n.connectingList
  reaches : n.objects.Reaches after.objects
  registered : ∀ f, after.objects.Registered f → n.objects.Registered f
  keyed : n.objects.Keyed → after.objects.Keyed
  downs : n.objects.conns.Downs after.objects.conns
  dead : ∀ f, n.expired f = true → after.expired f = true
  alive : ∀ f, after.objects.Registered f → n.expired f = false → after.expired f = false

theorem Fires.refl : n.Fires n :=
  ⟨rfl, rfl, rfl, rfl, .refl, fun _ kept => kept, id, .refl, fun _ gone => gone,
    fun _ _ exists' => exists'⟩

theorem Fires.trans (first : n.Fires m) (second : m.Fires after) : n.Fires after where
  conf := second.conf.trans first.conf
  sec := second.sec.trans first.sec
  pingList := second.pingList.trans first.pingList
  connectingList := second.connectingList.trans first.connectingList
  reaches := first.reaches.trans second.reaches
  registered f kept := first.registered f (second.registered f kept)
  keyed known := second.keyed (first.keyed known)
  downs := first.downs.trans second.downs
  dead f gone := second.dead f (first.dead f gone)
  alive f kept exists' := second.alive f kept (first.alive f (second.registered f kept) exists')

theorem Counts.fires (counts : n.Counts after) : n.Fires after where
  conf := counts.conf
  sec := counts.sec
  pingList := counts.pingList
  connectingList := counts.connectingList
  reaches := counts.reaches
  registered := counts.registered
  keyed := counts.keyed
  downs := by
    rw [counts.conns]
    exact .refl
  dead f gone := by rwa [counts.expired]
  alive f _ exists' := by rwa [counts.expired]

theorem Fires.settled (fires : n.Fires after) (settled : n.objects.conns.Settled) :
    after.objects.conns.Settled :=
  fires.reaches.settled settled

theorem onObjects_ok {event : ObjectEvent ε κ} (handled : n.onObjects event = .ok after) :
    ∃ objects, n.objects.handle event = .ok objects ∧ after = { n with objects := objects } := by
  rw [onObjects] at handled
  cases done : n.objects.handle event with
  | error fault =>
      rw [done] at handled
      cases handled
  | ok objects =>
      rw [done] at handled
      cases handled
      exact ⟨objects, rfl, rfl⟩

theorem destroy_ok (destroyed : n.destroy e = .ok after) :
    ∃ objects, n.objects.handle (.destroy e) = .ok objects ∧
      after = { n with objects := objects, expired := Function.update n.expired e true } := by
  rw [destroy] at destroyed
  cases done : n.onObjects (.destroy e) with
  | error fault =>
      rw [done] at destroyed
      cases destroyed
  | ok middle =>
      rw [done] at destroyed
      cases destroyed
      obtain ⟨objects, taken, rfl⟩ := onObjects_ok done
      exact ⟨objects, taken, rfl⟩

/-- An endpoint is destroyed without a fault, and what it leaves beside the tables is as it was. -/
theorem destroy_fires (settled : n.objects.conns.Settled) (gone : ¬n.objects.Registered e) :
    ∃ after, n.destroy e = .ok after ∧ n.Fires after ∧ after.stat = n.stat ∧
      after.msgSeq = n.msgSeq := by
  let objects := { n.objects with conns := n.objects.conns.unbound e }
  have taken : n.objects.handle (.destroy e) = .ok objects := by
    rw [NodeObjects.handle, NodeObjects.bindings_reset settled]
    rfl
  have destroyed : n.destroy e = .ok { n with
      objects := objects, expired := Function.update n.expired e true } := by
    rw [destroy, onObjects, taken]
    rfl
  refine ⟨_, destroyed, ⟨rfl, rfl, rfl, rfl, .event taken, fun _ kept => kept, id,
    NodeObjects.downs_destroy taken, fun f dead => ?_, fun f kept exists' => ?_⟩, rfl, rfl⟩
  · rcases eq_or_ne f e with rfl | other
    · exact Function.update_self ..
    · exact (Function.update_of_ne other ..).trans dead
  · have other : f ≠ e := fun same => gone (same ▸ kept)
    exact (Function.update_of_ne other ..).trans exists'

/-- What nothing refers to any more is destroyed without a fault. -/
theorem release_fires (settled : n.objects.conns.Settled) (held : ε → Bool) (list : List ε) :
    ∃ after, n.release held list = .ok after ∧ n.Fires after ∧ after.stat = n.stat ∧
      after.msgSeq = n.msgSeq := by
  induction list generalizing n with
  | nil => exact ⟨n, rfl, .refl, rfl, rfl⟩
  | cons e rest ih =>
      rw [release]
      split
      · rename_i unreferenced
        obtain ⟨destroyed, done, fires, stat, seq⟩ := destroy_fires settled unreferenced.1
        obtain ⟨after, released, later, stat', seq'⟩ := ih (fires.settled settled)
        rw [done]
        exact ⟨after, released, fires.trans later, stat'.trans stat, seq'.trans seq⟩
      · exact ih settled

/-- A ping in `proc` ends without a fault. -/
theorem procPing_ok (settled : n.objects.conns.Settled) (env : ProcEnv ε κ) (e : ε) :
    ∃ after, n.procPing env e = .ok (⟨e, (n.pingEndpoint env.sendPing e).2.1⟩, after) ∧
      (n.pingEndpoint env.sendPing e).2.2.Fires after ∧
      after.stat = (n.pingEndpoint env.sendPing e).2.2.stat ∧
      after.msgSeq = (n.pingEndpoint env.sendPing e).2.2.msgSeq := by
  have pinged := (counts_pingEndpoint (n := n) env.sendPing e).fires
  obtain ⟨after, released, fires, stat, seq⟩ := release_fires (pinged.settled settled) env.held
    (n.objects.father.toList ++ n.objects.brother.objects ++ n.objects.children.objects)
  refine ⟨after, ?_, fires, stat, seq⟩
  simp only [procPing, bind, Except.bind, released]
  rfl

/-- The due pings, one after the other: those of the endpoints that still exist when their turn
    comes are sent, in order, and these wait again. Of an endpoint that exists in the end no ping
    was left out. -/
structure Pinged (n : TimedNode view κ) (items : List ε) (pings : List (Ping ε κ))
    (after : TimedNode view κ) : Prop where
  fires : n.Fires after
  sublist : (pings.map Ping.endpoint).Sublist items
  live : ∀ e ∈ pings.map Ping.endpoint, n.expired e = false
  count : ∀ e, after.expired e = false → (pings.map Ping.endpoint).count e = items.count e

theorem fireEach_ok (env : ProcEnv ε κ) (settled : n.objects.conns.Settled) (items : List ε)
    (before : List (Ping ε κ)) :
    ∃ pings after, n.Pinged items pings after ∧
      fireEach (firePing env) (.ok (before, n)) items =
        (.ok (before ++ pings, after), pings.map Ping.endpoint) := by
  induction items generalizing n before with
  | nil =>
      refine ⟨[], n, ⟨.refl, List.Sublist.refl _, by simp, fun _ _ => rfl⟩, ?_⟩
      simp [fireEach]
  | cons e rest ih =>
      rw [fireEach]
      cases gone : n.expired e with
      | true =>
          obtain ⟨pings, after, pinged, ended⟩ := ih settled before
          have lapsed : firePing env (.ok (before, n)) e = none := by
            rw [firePing, if_pos gone]
          rw [lapsed]
          refine ⟨pings, after,
            ⟨pinged.fires, pinged.sublist.cons e, pinged.live, fun f exists' => ?_⟩, ended⟩
          have other : e ≠ f := by
            rintro rfl
            rw [pinged.fires.dead e gone] at exists'
            cases exists'
          rw [List.count_cons_of_ne other, pinged.count f exists']
      | false =>
          obtain ⟨middle, sent, released, -, -⟩ := procPing_ok settled env e
          have fires := (counts_pingEndpoint (n := n) env.sendPing e).fires.trans released
          obtain ⟨pings, after, pinged, ended⟩ :=
            ih (fires.settled settled) (before ++ [⟨e, (n.pingEndpoint env.sendPing e).2.1⟩])
          have fired : firePing env (.ok (before, n)) e =
              some (.ok (before ++ [⟨e, (n.pingEndpoint env.sendPing e).2.1⟩], middle)) := by
            rw [firePing, if_neg (by rw [gone]; exact Bool.false_ne_true), sent]
            rfl
          have live : ∀ f ∈ pings.map Ping.endpoint, n.expired f = false := by
            intro f member
            cases dead : n.expired f with
            | false => rfl
            | true =>
                have lapsed := pinged.live f member
                rw [fires.dead f dead] at lapsed
                cases lapsed
          rw [fired]
          refine ⟨⟨e, (n.pingEndpoint env.sendPing e).2.1⟩ :: pings, after,
            ⟨fires.trans pinged.fires, pinged.sublist.cons_cons e, ?_, fun f exists' => ?_⟩, ?_⟩
          · exact List.forall_mem_cons.mpr ⟨gone, live⟩
          · rw [List.map_cons, List.count_cons, List.count_cons, pinged.count f exists']
          · dsimp only
            rw [ended, List.append_assoc]
            rfl

/-- The part of `proc` on the list of pings ends without a fault. -/
theorem procPings_ok (settled : n.objects.conns.Settled) (env : ProcEnv ε κ) (sec : Nat) :
    ∃ pings after, n.Pinged ((n.pingList.takeWhile (isDue sec)).map Prod.snd) pings after ∧
      fireEach (firePing env) (.ok ([], n)) ((n.pingList.takeWhile (isDue sec)).map Prod.snd) =
        (.ok (pings, after), pings.map Ping.endpoint) ∧
      n.procPings env sec = .ok (pings, { after with
        pingList := n.pingList.dropWhile (isDue sec) ++
          (pings.map Ping.endpoint).map fun e => (sec + n.conf.pingInterval, e) }) := by
  obtain ⟨pings, after, pinged, ended⟩ :=
    fireEach_ok env settled ((n.pingList.takeWhile (isDue sec)).map Prod.snd) []
  rw [List.nil_append] at ended
  refine ⟨pings, after, pinged, ended, ?_⟩
  rw [procPings, fireDue_eq (Nat.le_add_right _ _) (Nat.lt_succ_self _), ended]
  rfl

/-! ### Connections that are late -/

/-- What resetting connections leaves: the bindings and the list of endpoints to check apart, all is
    as it was. -/
structure Closes (n after : TimedNode view κ) : Prop where
  stat : after.stat = n.stat
  expired : after.expired = n.expired
  conf : after.conf = n.conf
  sec : after.sec = n.sec
  msgSeq : after.msgSeq = n.msgSeq
  pingList : after.pingList = n.pingList
  father : after.objects.father = n.objects.father
  brother : after.objects.brother = n.objects.brother
  children : after.objects.children = n.objects.children
  reaches : n.objects.Reaches after.objects
  keyed : n.objects.Keyed → after.objects.Keyed
  downs : n.objects.conns.Downs after.objects.conns

theorem Closes.trans (first : n.Closes m) (second : m.Closes after) : n.Closes after where
  stat := second.stat.trans first.stat
  expired := second.expired.trans first.expired
  conf := second.conf.trans first.conf
  sec := second.sec.trans first.sec
  msgSeq := second.msgSeq.trans first.msgSeq
  pingList := second.pingList.trans first.pingList
  father := second.father.trans first.father
  brother := second.brother.trans first.brother
  children := second.children.trans first.children
  reaches := first.reaches.trans second.reaches
  keyed known := second.keyed (first.keyed known)
  downs := first.downs.trans second.downs

theorem Closes.registered (closes : n.Closes after) :
    after.objects.Registered f ↔ n.objects.Registered f :=
  NodeObjects.registered_congr closes.father closes.brother closes.children

/-- A reset of a connection ends without a fault. -/
theorem resetConnection_spec (settled : n.objects.conns.Settled) (c : κ) :
    ∃ after, n.resetConnection c = .ok after ∧ n.Closes after ∧
      n.objects.conns.resetConnection nesting c = .ok after.objects.conns ∧
      after.connectingList = n.connectingList := by
  have allowed : n.objects.conns.Allows (.resetConnection c) := trivial
  obtain ⟨conns, called, -⟩ := Bindings.call_spec settled allowed
  let objects :=
    { n.objects with
      conns := conns }.addCheckList ((BindingCall.resetConnection c).resets n.objects.conns)
  have handled : n.objects.handle (.call (.resetConnection c)) = .ok objects := by
    rw [NodeObjects.handle, called]
    rfl
  refine ⟨{ n with objects := objects }, ?_,
    ⟨rfl, rfl, rfl, rfl, rfl, rfl, rfl, rfl, rfl, .event handled, id,
      (Bindings.downs_resets nesting).1 _ c _ called⟩,
    called, rfl⟩
  rw [resetConnection, handled]
  rfl

theorem Closes.settled (closes : n.Closes after) (settled : n.objects.conns.Settled) :
    after.objects.conns.Settled :=
  closes.reaches.settled settled

/-- The loop over the connections that are not connected yet ends without a fault. -/
theorem procConnecting_ok (settled : n.objects.conns.Settled) (sec : Nat) (queue : List (Nat × κ)) :
    ∃ done, n.procConnecting sec queue = .ok done ∧ n.Closes done.2 := by
  induction queue generalizing n with
  | nil => exact ⟨_, rfl, ⟨rfl, rfl, rfl, rfl, rfl, rfl, rfl, rfl, rfl, .refl, id, .refl⟩⟩
  | cons entry rest ih =>
      obtain ⟨time, c⟩ := entry
      rw [procConnecting]
      split
      · obtain ⟨done, ended, closes⟩ := ih settled
        rw [ended]
        exact ⟨_, rfl, closes⟩
      · split
        · obtain ⟨reset, done, closes, -, -⟩ := resetConnection_spec settled c
          obtain ⟨later, ended, closes'⟩ := ih (closes.settled settled)
          rw [done]
          simp only [bind, Except.bind, ended]
          exact ⟨_, rfl, closes.trans closes'⟩
        · exact ⟨_, rfl, ⟨rfl, rfl, rfl, rfl, rfl, rfl, rfl, rfl, rfl, .refl, id, .refl⟩⟩

/-! ### The whole of `proc` -/

omit [DecidableEq ε] [DecidableEq κ] in
/-- The timer of a connection changes the list of connections alone. -/
theorem addConnectionTimer_rest (c : κ) :
    n.addConnectionTimer c =
      { n with connectingList := (n.addConnectionTimer c).connectingList } := by
  rw [addConnectionTimer]
  split
  · rfl
  · rfl

omit [DecidableEq ε] [DecidableEq κ] in
@[simp] theorem addConnectionTimer_objects : (n.addConnectionTimer c).objects = n.objects := by
  rw [addConnectionTimer_rest]

/-- What the part of `proc` about the parent does: nothing, a connection with its timer, or a
    ping. -/
inductive FatherStep (n : TimedNode view κ) (env : ProcEnv ε κ) : FatherDone view κ → Prop where
  | idle : FatherStep n env { node := n }
  | connects {c : κ} (made : c ∈ env.created) :
      FatherStep n env { node := n.addConnectionTimer c, created := [c] }
  | pings {father : ε} {after : TimedNode view κ} (known : n.objects.father = some father)
      (released : (n.pingEndpoint env.sendPing father).2.2.Fires after)
      (stat : after.stat = (n.pingEndpoint env.sendPing father).2.2.stat)
      (msgSeq : after.msgSeq = (n.pingEndpoint env.sendPing father).2.2.msgSeq) :
      FatherStep n env
      { node := after, pings := [⟨father, (n.pingEndpoint env.sendPing father).2.1⟩] }

theorem procFather_ok (settled : n.objects.conns.Settled) (env : ProcEnv ε κ) :
    ∃ done, n.procFather env = .ok done ∧ n.FatherStep env done := by
  rw [procFather]
  split
  · split
    · cases created : env.created with
      | none => exact ⟨_, rfl, .idle⟩
      | some c => exact ⟨_, rfl, .connects created⟩
    · rename_i father found
      obtain ⟨after, sent, fires, stat, seq⟩ := procPing_ok settled env father
      rw [sent]
      exact ⟨_, rfl, .pings (Option.filter_eq_some_iff.mp found).1 fires stat seq⟩
  · exact ⟨_, rfl, .idle⟩

namespace FatherStep

variable {env : ProcEnv ε κ} {done : FatherDone view κ}

/-- But for the list of connections, it does what a ping may do. -/
theorem fires (step : n.FatherStep env done) :
    n.Fires { done.node with connectingList := n.connectingList } := by
  cases step with
  | idle => exact .refl
  | connects made =>
      rw [addConnectionTimer_rest]
      exact .refl
  | @pings father after known released stat seq =>
      have fires := (counts_pingEndpoint (n := n) env.sendPing father).fires.trans released
      exact ⟨fires.conf, fires.sec, fires.pingList, rfl, fires.reaches, fires.registered,
        fires.keyed, fires.downs, fires.dead, fires.alive⟩

/-- The connection that was created waits, unless it is connected already. -/
theorem list (step : n.FatherStep env done) (created : ∀ c ∈ env.created, n.isConnected c = false) :
    done.node.connectingList =
      n.connectingList ++ done.created.map fun c => (n.sec + n.conf.firstIdleTimeout, c) := by
  cases step with
  | idle => simp
  | connects made => simp [addConnectionTimer, created _ made]
  | @pings father after known released stat seq =>
      have fires := (counts_pingEndpoint (n := n) env.sendPing father).fires.trans released
      simp [fires.connectingList]

/-- At most the parent is pinged. -/
theorem parent (step : n.FatherStep env done) :
    done.pings.length ≤ 1 ∧ ∀ ping ∈ done.pings, n.objects.father = some ping.endpoint := by
  cases step with
  | idle => simp
  | connects made => simp
  | pings known released stat seq => simp [known]

end FatherStep

omit [DecidableEq ε] [DecidableEq κ] in
@[simp] theorem procTime_objects (sec usec : Nat) : (n.procTime sec usec).objects = n.objects := by
  rw [procTime]
  repeat' split
  all_goals rfl

omit [DecidableEq ε] [DecidableEq κ] in
/-- The clock does not go back. -/
theorem procTime_sec (sec usec : Nat) : (n.procTime sec usec).sec = max n.sec sec := by
  rw [procTime]
  repeat' split
  all_goals try dsimp only
  all_goals omega

omit [DecidableEq ε] [DecidableEq κ] in
/-- Setting the clock changes nothing else. -/
theorem procTime_rest (sec usec : Nat) :
    (n.procTime sec usec).stat = n.stat ∧ (n.procTime sec usec).expired = n.expired ∧
      (n.procTime sec usec).conf = n.conf ∧ (n.procTime sec usec).msgSeq = n.msgSeq ∧
      (n.procTime sec usec).pingList = n.pingList ∧
      (n.procTime sec usec).connectingList = n.connectingList := by
  rw [procTime]
  repeat' split
  all_goals exact ⟨rfl, rfl, rfl, rfl, rfl, rfl⟩

/-- The stages of `proc`: the node after the connections that are late, what was done about the
    parent, what pinging the endpoints did, and what the check of the list did. -/
structure Stages (n : TimedNode view κ) (env : ProcEnv ε κ) (sec : Nat)
    (connected : TimedNode view κ) (father : FatherDone view κ)
    (pinged : List (Ping ε κ) × TimedNode view κ) (removal : List (Removal ε) × NodeObjects view κ)
    (done : ProcDone view κ) : Prop where
  connecting : n.procConnecting sec n.connectingList = .ok (done.verdicts, connected)
  closes : n.Closes connected
  step : connected.FatherStep env father
  fired : father.node.Pinged ((n.pingList.takeWhile (isDue sec)).map Prod.snd) pinged.1 pinged.2
  handled : fireEach (firePing env) (.ok ([], father.node))
    ((n.pingList.takeWhile (isDue sec)).map Prod.snd) =
    (.ok pinged, pinged.1.map Ping.endpoint)
  checked : pinged.2.objects.procCheckList = .ok removal
  node : done.node = { pinged.2 with
    objects := removal.2
    pingList := n.pingList.dropWhile (isDue sec) ++
      (pinged.1.map Ping.endpoint).map fun e => (sec + n.conf.pingInterval, e) }
  created : done.created = father.created
  pings : done.pings = father.pings ++ pinged.1

/-- `proc` ends without a fault. -/
theorem proc_ok (settled : n.objects.conns.Settled) (env : ProcEnv ε κ) (sec : Nat) :
    ∃ done connected father pinged removal, n.proc env sec = .ok done ∧
      n.Stages env sec connected father pinged removal done := by
  obtain ⟨⟨verdicts, connected⟩, ended, closes⟩ := procConnecting_ok settled sec n.connectingList
  have settled₁ := closes.settled settled
  obtain ⟨father, answered, step⟩ := procFather_ok settled₁ env
  have settled₂ : father.node.objects.conns.Settled := step.fires.settled settled₁
  obtain ⟨pings, after, pinged, handled, did⟩ := procPings_ok settled₂ env sec
  have timers : father.node.pingList = n.pingList := step.fires.pingList.trans closes.pingList
  have conf : father.node.conf = n.conf := step.fires.conf.trans closes.conf
  rw [timers] at pinged handled
  rw [timers, conf] at did
  obtain ⟨objects, proceeded⟩ := NodeObjects.Sound.proc (pinged.fires.settled settled₂)
  rw [objectStep, NodeObjects.handle] at proceeded
  cases checked : after.objects.procCheckList with
  | error fault =>
      rw [checked] at proceeded
      cases proceeded
  | ok removal =>
      let done : ProcDone view κ :=
        { node := { after with
            objects := removal.2
            pingList := n.pingList.dropWhile (isDue sec) ++
              (pings.map Ping.endpoint).map fun e => (sec + n.conf.pingInterval, e) }
          verdicts := verdicts
          created := father.created
          pings := father.pings ++ pings
          removed := removal.1 }
      refine ⟨done, connected, father, (pings, after), removal, ?_,
        ⟨ended, closes, step, pinged, handled, checked, rfl, rfl, rfl⟩⟩
      rw [proc]
      simp only [ended, bind, Except.bind, answered, did, checked]
      rfl

theorem proc_stages {env : ProcEnv ε κ} {sec : Nat} {done : ProcDone view κ}
    (settled : n.objects.conns.Settled) (ended : n.proc env sec = .ok done) :
    ∃ connected father pinged removal, n.Stages env sec connected father pinged removal done := by
  obtain ⟨done', connected, father, pinged, removal, ended', stages⟩ := proc_ok settled env sec
  rw [ended] at ended'
  cases ended'
  exact ⟨connected, father, pinged, removal, stages⟩

/-- But for the timers, `proc` leaves what a ping may leave. -/
theorem proc_fires {env : ProcEnv ε κ} {sec : Nat} {done : ProcDone view κ}
    (settled : n.objects.conns.Settled) (ended : n.proc env sec = .ok done) :
    n.Fires { done.node with pingList := n.pingList, connectingList := n.connectingList } := by
  obtain ⟨connected, father, pinged, removal, stages⟩ := proc_stages settled ended
  have closes := stages.closes
  have step := stages.step.fires
  have fires := stages.fired.fires
  have settled₁ := closes.settled settled
  have settled₂ : father.node.objects.conns.Settled := step.settled settled₁
  have settled₃ := fires.settled settled₂
  have last : pinged.2.objects.handle .proc = .ok removal.2 := by
    rw [NodeObjects.handle, stages.checked]
    rfl
  have known : ∀ f, pinged.2.objects.Registered f → n.objects.Registered f := fun f kept =>
    closes.registered.mp (step.registered f (fires.registered f kept))
  have kept : ∀ f, removal.2.Registered f → pinged.2.objects.Registered f := fun f kept =>
    NodeObjects.registered_procCheckList stages.checked kept
  rw [stages.node]
  refine ⟨fires.conf.trans (step.conf.trans closes.conf),
    fires.sec.trans (step.sec.trans closes.sec), rfl, rfl,
    ((closes.reaches.trans step.reaches).trans fires.reaches).trans (.event last),
    fun f registered => known f (kept f registered), fun keyed =>
      ?_, ((closes.downs.trans step.downs).trans fires.downs).trans
      (NodeObjects.downs_procCheckList settled₃ stages.checked),
    fun f dead => ?_, fun f registered exists' => ?_⟩
  · exact NodeObjects.Keyed.handle (fires.keyed (step.keyed (closes.keyed keyed))) settled₃ last
      trivial
  · exact fires.dead f (step.dead f (by rwa [closes.expired]))
  · have before := kept f registered
    refine fires.alive f before (step.alive f (fires.registered f before) ?_)
    rwa [closes.expired]

/-! ### Runs -/

omit [DecidableEq ε] [DecidableEq κ] in
/-- Adding an endpoint changes the tables and the list of pings. -/
theorem addEndpoint_rest (e : ε) :
    (n.addEndpoint e).2 = { n with
      objects := (n.objects.addEndpoint e).2
      pingList := n.pingList ++
        if (n.objects.addEndpoint e).1 = .success ∧ n.conf.pingInterval ≠ 0 then
          [(n.sec + n.conf.pingInterval, e)]
        else [] } := by
  rw [addEndpoint]
  by_cases added : (n.objects.addEndpoint e).1 = .success
  · by_cases none : n.conf.pingInterval = 0
    · simp [added, none, addPingTimer]
    · simp [added, none, addPingTimer]
  · simp [added]

theorem reset_ok (handled : n.handle .reset = .ok after) :
    after = { n with
      objects :=
        { n.objects with
          father := none
          brother := .empty
          children := .empty
          conns :=
            n.connectingList.foldl (fun conns entry => (conns.disconnect entry.2).2) n.objects.conns
          checkList := [] }
      pingList := []
      connectingList := [] } := by
  have cleared : n.onObjects .clear = .ok { n with objects :=
      { n.objects with father := none, brother := .empty, children := .empty, checkList := [] } } :=
    rfl
  rw [handle, reset, cleared] at handled
  exact (Except.ok.inj handled).symm

theorem proc_done {env : ProcEnv ε κ} {sec : Nat} (handled : n.handle (.proc env sec) = .ok after) :
    ∃ done, n.proc env sec = .ok done ∧ after = done.node := by
  rw [handle] at handled
  cases ended : n.proc env sec with
  | error fault =>
      rw [ended] at handled
      cases handled
  | ok done =>
      rw [ended] at handled
      cases handled
      exact ⟨done, rfl, rfl⟩

theorem reaches_disconnects (objects : NodeObjects view κ) (queue : List (Nat × κ)) :
    objects.Reaches { objects with
      conns := queue.foldl (fun conns entry => (conns.disconnect entry.2).2) objects.conns } := by
  induction queue generalizing objects with
  | nil => exact .refl
  | cons entry rest ih =>
      have disconnected : objects.handle (.call (.disconnect entry.2)) =
          .ok ({ objects with conns := (objects.conns.disconnect entry.2).2 }.addCheckList []) :=
        rfl
      rw [NodeObjects.addCheckList, List.append_nil] at disconnected
      exact (NodeObjects.Reaches.event disconnected).trans (ih _)

/-- Every event of the node is a sequence of events of its objects. -/
theorem handle_reaches {event : TimedEvent ε κ} (settled : n.objects.conns.Settled)
    (handled : n.handle event = .ok after) : n.objects.Reaches after.objects := by
  have single : ∀ {event : ObjectEvent ε κ} {after : TimedNode view κ},
      n.onObjects event = .ok after → n.objects.Reaches after.objects := by
    intro event after done
    obtain ⟨objects, taken, rfl⟩ := onObjects_ok done
    exact .event taken
  cases event with
  | call call => exact single handled
  | createConnection c =>
      cases handled
      rw [addConnectionTimer_objects]
      exact .refl
  | addEndpoint e =>
      cases handled
      have added : n.objects.handle (.addEndpoint e) = .ok (n.objects.addEndpoint e).2 := rfl
      rw [addEndpoint_rest]
      exact .event added
  | removeEndpoint tid => exact single handled
  | disconnect id => exact single handled
  | addCheckList e => exact single handled
  | destroy e =>
      obtain ⟨objects, taken, rfl⟩ := destroy_ok handled
      exact .event taken
  | recv c failed m res ret =>
      cases handled
      exact (counts_onRecv c failed m res ret).reaches
  | allocSeq =>
      cases handled
      exact .refl
  | reset =>
      have cleared : n.objects.handle .clear =
          .ok { n.objects with
            father := none, brother := .empty, children := .empty, checkList := [] } := rfl
      rw [reset_ok handled]
      exact (NodeObjects.Reaches.event cleared).trans (reaches_disconnects _ n.connectingList)
  | clock sec usec =>
      cases handled
      rw [procTime_objects]
      exact .refl
  | proc env sec =>
      obtain ⟨done, ended, rfl⟩ := proc_done handled
      exact (proc_fires settled ended).reaches

/-- Between events no reset is going on, and every connection is bound to the endpoint that has
    it. -/
def Sound (n : TimedNode view κ) : Prop := n.objects.conns.Settled

theorem Sound.step {event : TimedEvent ε κ} (sound : n.Sound) (taken : timedStep n event after) :
    after.Sound :=
  (handle_reaches sound taken.2).settled sound

end TimedNode

end LibAtbus.Node
