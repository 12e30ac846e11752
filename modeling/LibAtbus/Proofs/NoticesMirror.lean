/-
Module: LibAtbus.Proofs.NoticesMirror
Layer: Proofs
Purpose: What the user of a node hears of its endpoints. Every endpoint that is registered is
  announced once, and every one that leaves its table is reported once, in every order of events, so
  that the notices tell the tables at any time; but for the parent that `disconnect` drops, of which
  nothing is heard.
Trusted boundary: human-reviewed spec
Main exports: NodeObjects.Placed, NodeObjects.Silent, NodeObjects.Mirrored, Mirrored.step,
  notices_mirror
-/
import LibAtbus.Proofs.SubDomains
import LibAtbus.Proofs.TimedObjects

namespace LibAtbus.Node

open ChangeLog Transitions

universe u v

variable {ε : Type u} {κ : Type v} {view : ε → Endpoint}

/-! ### Tables -/

namespace ObjectCollection

variable {collection : ObjectCollection view} {id : BusId} {e f : ε}

/-- What is dropped under its key is gone. -/
theorem mem_drop_iff {key : BusId} (member : (key, e) ∈ collection.map.entries) :
    f ∈ (collection.drop key).objects ↔ f ∈ collection.objects ∧ f ≠ e := by
  constructor
  · intro left
    refine ⟨of_mem_drop left, ?_⟩
    rintro rfl
    obtain ⟨key', entry⟩ := mem_objects.mp left
    obtain ⟨old, other⟩ := OrderedMap.mem_erase.mp entry
    have same := key_of_object old member rfl
    exact other (congrArg Prod.fst same)
  · rintro ⟨stored, other⟩
    exact (mem_drop member stored).resolve_right other

/-- A removal takes what it reports. -/
theorem mem_removeChild_iff :
    f ∈ (collection.removeChild id).2.objects ↔ f ∈ collection.objects ∧
      (collection.removeChild id).1 ≠ some f := by
  rcases collection.removeChild_cases id with kept | ⟨key, e, member, -, removed⟩
  · simp [kept]
  · rw [removed, mem_drop_iff member]
    simp [eq_comm]

theorem mem_of_removeChild (taken : (collection.removeChild id).1 = some e) :
    e ∈ collection.objects := by
  rcases collection.removeChild_cases id with kept | ⟨key, f, member, -, removed⟩
  · rw [kept] at taken
    cases taken
  · rw [removed] at taken
    cases taken
    exact mem_objects.mpr ⟨key, member⟩

theorem insertChild_cases (collection : ObjectCollection view) (e : ε) :
    collection.insertChild e = (false, collection) ∨
      collection.insertChild e = (true, collection.store e) := by
  rw [insertChild]
  repeat' split
  all_goals first | exact .inl rfl | exact .inr rfl

/-- An insertion with success stores an object that was not there, and takes the place of none. -/
theorem mem_insertChild_iff (holds : SubDomains collection.values)
    (small : (view e).childrenMask ≤ 30) (stored : (collection.insertChild e).1 = true) :
    e ∉ collection.objects ∧ ∀ f, f ∈ (collection.insertChild e).2.objects ↔ f = e ∨
      f ∈ collection.objects := by
  have free := (holds.insertChild_iff small).mp (by rw [values_insertChild]; exact stored)
  rw [endpoints_values] at free
  constructor
  · intro member
    have self := Endpoint.isChildNode_self (view e)
    exact free (view e) (List.mem_map_of_mem member) (view e).id ⟨self, self⟩
  · intro f
    rcases collection.insertChild_cases e with refused | inserted
    · rw [refused] at stored
      cases stored
    rw [inserted]
    constructor
    · exact NodeObjects.mem_store
    · rintro (rfl | member)
      · exact mem_objects.mpr ⟨_, OrderedMap.mem_insert.mpr (.inl rfl)⟩
      · obtain ⟨key, entry⟩ := mem_objects.mp member
        refine mem_objects.mpr ⟨key, OrderedMap.mem_insert.mpr (.inr ⟨entry, fun same => ?_⟩)⟩
        -- the greatest id of the new domain would be that of an old one
        have keyed := collection.keyed (key, f) entry
        have oldMask : (view f).childrenMask ≤ 30 := by
          have listed : view f ∈ collection.values.endpoints := by
            rw [endpoints_values]
            exact List.mem_map_of_mem member
          obtain ⟨key', entry'⟩ := EndpointCollection.mem_endpoints.mp listed
          exact holds.mask _ entry'
        have ours := Endpoint.isChildNode_childrenMaxId small
        have theirs := Endpoint.isChildNode_childrenMaxId oldMask
        rw [← keyed] at theirs
        rw [← same] at ours
        exact free (view f) (List.mem_map_of_mem member) key ⟨theirs, ours⟩

theorem insertChild_domains (holds : SubDomains collection.values)
    (small : (view e).childrenMask ≤ 30) : SubDomains (collection.insertChild e).2.values := by
  have kept : SubDomains (collection.values.call (.insert (view e))) := holds.call small
  rwa [EndpointCollection.call, values_insertChild] at kept

/-- The objects of a collection are different. -/
theorem nodup_objects (collection : ObjectCollection view) : collection.objects.Nodup := by
  refine List.Nodup.map_on
    (fun first memFirst second memSecond same => key_of_object memFirst memSecond same) ?_
  refine collection.map.sorted.imp fun {a b} less same => ?_
  rw [same] at less
  exact lt_irrefl _ less

end ObjectCollection

namespace NodeObjects

variable {n m after : NodeObjects view κ} {id : BusId} {e f : ε}

/-! ### One table each -/

/-- The endpoint is one that can only be the parent. -/
def ParentShaped (n : NodeObjects view κ) (e : ε) : Prop :=
  n.self.childrenMask < (view e).childrenMask ∧ (view e).isChildNode n.self.id = true

/-- Each endpoint is in the table its id and mask give it: a parent is no brother and no child, and
    a child is no brother. The domains of a table are disjoint. -/
structure Placed (n : NodeObjects view κ) : Prop where
  father : ∀ e, n.father = some e → n.ParentShaped e
  brother : ∀ e ∈ n.brother.objects, ¬n.ParentShaped e ∧ n.isChildNode (view e).id = false
  children : ∀ e ∈ n.children.objects, ¬n.ParentShaped e ∧ n.isChildNode (view e).id = true
  brotherDomains : SubDomains n.brother.values
  childDomains : SubDomains n.children.values

theorem Placed.congr (placed : n.Placed) (self : m.self = n.self) (father : m.father = n.father)
    (brother : m.brother = n.brother) (children : m.children = n.children) : m.Placed := by
  obtain ⟨self', father', brother', children', conns, checkList⟩ := m
  cases self
  cases father
  cases brother
  cases children
  exact ⟨placed.father, placed.brother, placed.children, placed.brotherDomains, placed.childDomains⟩

theorem placed_of_empty (father : n.father = none) (brother : n.brother = .empty)
    (children : n.children = .empty) : n.Placed := by
  refine ⟨fun e known => ?_, fun e member => ?_, fun e member => ?_, ?_, ?_⟩
  · rw [father] at known
    cases known
  · rw [brother] at member
    cases member
  · rw [children] at member
    cases member
  · rw [brother]
    exact .empty
  · rw [children]
    exact .empty

/-- A brother is no child. -/
theorem not_child_of_brother (brother : n.isBrotherNode id = true) : n.isChildNode id = false := by
  rw [isBrotherNode, Endpoint.isBrotherNode, Bool.and_eq_true, bne_iff_ne] at brother
  rw [isChildNode, Endpoint.isChildNode, beq_eq_false_iff_ne]
  exact brother.1

theorem Placed.dropFather (placed : n.Placed) :
    ({ n with father := none } : NodeObjects view κ).Placed where
  father e known := by cases known
  brother := placed.brother
  children := placed.children
  brotherDomains := placed.brotherDomains
  childDomains := placed.childDomains

theorem Placed.removeBrother (placed : n.Placed) (id : BusId) :
    ({ n with brother := (n.brother.removeChild id).2 } : NodeObjects view κ).Placed where
  father := placed.father
  brother e member := placed.brother e (mem_removeChild member)
  children := placed.children
  brotherDomains := by
    have kept := placed.brotherDomains.removeChild id
    rwa [ObjectCollection.values_removeChild] at kept
  childDomains := placed.childDomains

theorem Placed.removeOwnChild (placed : n.Placed) (id : BusId) :
    ({ n with children := (n.children.removeChild id).2 } : NodeObjects view κ).Placed where
  father := placed.father
  brother := placed.brother
  children e member := placed.children e (mem_removeChild member)
  brotherDomains := placed.brotherDomains
  childDomains := by
    have kept := placed.childDomains.removeChild id
    rwa [ObjectCollection.values_removeChild] at kept

/-! ### What the notices say -/

/-- The endpoints that are registered. -/
def registered (n : NodeObjects view κ) : Set ε := {e | n.Registered e}

theorem registered_of_empty (father : n.father = none) (brother : n.brother = .empty)
    (children : n.children = .empty) : n.registered = ∅ := by
  refine Set.eq_empty_of_forall_notMem ?_
  rintro e (known | stored | stored)
  · rw [father] at known
    cases known
  · rw [brother] at stored
    cases stored
  · rw [children] at stored
    cases stored

/-- The parent is taken out. -/
theorem Placed.takesFather (placed : n.Placed) :
    Follows n.registered (n.father.toList.map .removed) (registered { n with father := none }) := by
  refine .takes (fun e known => .inl known) fun e => ?_
  constructor
  · rintro (absent | stored)
    · cases absent
    · refine ⟨.inr stored, fun known => ?_⟩
      have shaped := placed.father e known
      rcases stored with brother | child
      · exact (placed.brother e brother).1 shaped
      · exact (placed.children e child).1 shaped
  · rintro ⟨known | stored, other⟩
    · exact absurd known other
    · exact .inr stored

/-- A brother is taken out. -/
theorem Placed.takesBrother (placed : n.Placed) (id : BusId) :
    Follows n.registered ((n.brother.removeChild id).1.toList.map .removed)
      (registered { n with brother := (n.brother.removeChild id).2 }) := by
  refine .takes (fun e taken => .inr (.inl (ObjectCollection.mem_of_removeChild taken))) fun e => ?_
  have left := @ObjectCollection.mem_removeChild_iff _ _ n.brother id e
  constructor
  · rintro (known | stored | child)
    · refine ⟨.inl known, fun taken => ?_⟩
      exact (placed.brother e (ObjectCollection.mem_of_removeChild taken)).1 (placed.father e known)
    · exact ⟨.inr (.inl (left.mp stored).1), (left.mp stored).2⟩
    · refine ⟨.inr (.inr child), fun taken => ?_⟩
      have brother := (placed.brother e (ObjectCollection.mem_of_removeChild taken)).2
      rw [(placed.children e child).2] at brother
      cases brother
  · rintro ⟨known | stored | child, other⟩
    · exact .inl known
    · exact .inr (.inl (left.mpr ⟨stored, other⟩))
    · exact .inr (.inr child)

/-- A child is taken out. -/
theorem Placed.takesChild (placed : n.Placed) (id : BusId) :
    Follows n.registered ((n.children.removeChild id).1.toList.map .removed)
      (registered { n with children := (n.children.removeChild id).2 }) := by
  refine .takes (fun e taken => .inr (.inr (ObjectCollection.mem_of_removeChild taken))) fun e => ?_
  have left := @ObjectCollection.mem_removeChild_iff _ _ n.children id e
  constructor
  · rintro (known | brother | stored)
    · refine ⟨.inl known, fun taken => ?_⟩
      exact (placed.children e (ObjectCollection.mem_of_removeChild taken)).1
        (placed.father e known)
    · refine ⟨.inr (.inl brother), fun taken => ?_⟩
      have child := (placed.children e (ObjectCollection.mem_of_removeChild taken)).2
      rw [(placed.brother e brother).2] at child
      cases child
    · exact ⟨.inr (.inr (left.mp stored).1), (left.mp stored).2⟩
  · rintro ⟨known | brother | stored, other⟩
    · exact .inl known
    · exact .inr (.inl brother)
    · exact .inr (.inr (left.mpr ⟨stored, other⟩))

/-- A removal by id is reported. -/
theorem Placed.removeEndpoint (placed : n.Placed) (id : BusId) :
    (n.removeEndpoint id).2.2.Placed ∧
      Follows n.registered ((n.removeEndpoint id).2.1.toList.map .removed)
        (n.removeEndpoint id).2.2.registered := by
  rw [NodeObjects.removeEndpoint]
  split
  · exact ⟨placed.dropFather, placed.takesFather⟩
  · split
    · have kept := placed.removeBrother id
      have follows := placed.takesBrother id
      split
      · rename_i e brother removed
        rw [removed] at kept follows
        exact ⟨kept, follows⟩
      · exact ⟨placed, .nil⟩
    · split
      · have kept := placed.removeOwnChild id
        have follows := placed.takesChild id
        split
        · rename_i e children removed
          rw [removed] at kept follows
          exact ⟨kept, follows⟩
        · exact ⟨placed, .nil⟩
      · exact ⟨placed, .nil⟩

/-- An endpoint that is added is announced. -/
theorem Placed.addEndpoint (placed : n.Placed) (small : (view e).childrenMask ≤ 30) :
    (n.addEndpoint e).2.Placed ∧
      Follows n.registered (if (n.addEndpoint e).1 = .success then [.added e] else [])
        (n.addEndpoint e).2.registered := by
  have announced : ∀ {m : NodeObjects view κ}, ¬n.Registered e →
      (∀ f, m.Registered f ↔ f = e ∨ n.Registered f) →
      Follows n.registered [.added e] m.registered := by
    intro m new stored
    have same : insert e n.registered = m.registered := Set.ext fun f => (stored f).symm
    exact .added new (Follows.nil_iff.mpr same)
  rw [NodeObjects.addEndpoint]
  by_cases shaped : n.self.childrenMask < (view e).childrenMask ∧
    (view e).isChildNode n.self.id = true
  · rw [if_pos shaped]
    cases known : n.father with
    | some father => exact ⟨placed, .nil⟩
    | none =>
        have new : ¬n.Registered e := by
          rintro (father | brother | child)
          · rw [known] at father
            cases father
          · exact (placed.brother e brother).1 shaped
          · exact (placed.children e child).1 shaped
        refine ⟨⟨?_, placed.brother, placed.children, placed.brotherDomains, placed.childDomains⟩,
          announced new ?_⟩
        · intro f father
          cases father
          exact shaped
        · intro f
          simp [Registered, known, eq_comm]
  rw [if_neg shaped]
  by_cases brotherly : n.isBrotherNode (view e).id = true
  · rw [if_pos brotherly]
    have notChild := not_child_of_brother brotherly
    cases inserted : n.brother.insertChild e with
    | mk success brother =>
        cases success with
        | false => exact ⟨placed, .nil⟩
        | true =>
            obtain ⟨fresh, stored⟩ :=
              ObjectCollection.mem_insertChild_iff placed.brotherDomains small
              (congrArg Prod.fst inserted)
            have domains := ObjectCollection.insertChild_domains placed.brotherDomains small
            rw [inserted] at stored domains
            have new : ¬n.Registered e := by
              rintro (father | brother | child)
              · exact shaped (placed.father e father)
              · exact fresh brother
              · rw [(placed.children e child).2] at notChild
                cases notChild
            refine ⟨⟨placed.father, ?_, placed.children, domains, placed.childDomains⟩,
              announced new ?_⟩
            · intro f member
              rcases (stored f).mp member with rfl | old
              · exact ⟨shaped, notChild⟩
              · exact placed.brother f old
            · intro f
              have table : f ∈ brother.objects ↔ f = e ∨ f ∈ n.brother.objects := stored f
              rw [Registered, table, or_assoc, or_left_comm]
              rfl
  rw [if_neg brotherly]
  by_cases childish : n.isChildNode (view e).id = true
  · rw [if_pos childish]
    cases inserted : n.children.insertChild e with
    | mk success children =>
        cases success with
        | false => exact ⟨placed, .nil⟩
        | true =>
            obtain ⟨fresh, stored⟩ := ObjectCollection.mem_insertChild_iff placed.childDomains small
              (congrArg Prod.fst inserted)
            have domains := ObjectCollection.insertChild_domains placed.childDomains small
            rw [inserted] at stored domains
            have new : ¬n.Registered e := by
              rintro (father | brother | child)
              · exact shaped (placed.father e father)
              · rw [(placed.brother e brother).2] at childish
                cases childish
              · exact fresh child
            refine ⟨⟨placed.father, placed.brother, ?_, placed.brotherDomains, domains⟩,
              announced new ?_⟩
            · intro f member
              rcases (stored f).mp member with rfl | old
              · exact ⟨shaped, childish⟩
              · exact placed.children f old
            · intro f
              have table : f ∈ children.objects ↔ f = e ∨ f ∈ n.children.objects := stored f
              rw [Registered, table, @or_left_comm (f ∈ n.brother.objects), or_left_comm]
              rfl
  rw [if_neg childish]
  exact ⟨placed, .nil⟩

/-- A reset of the node reports all endpoints. -/
theorem Placed.clear (placed : n.Placed) :
    Follows n.registered
      ((n.father.toList ++ n.brother.objects ++ n.children.objects).map .removed) ∅ := by
  have brotherApart : n.brother.objects.Disjoint n.children.objects := by
    intro e brother child
    have other := (placed.brother e brother).2
    rw [(placed.children e child).2] at other
    cases other
  have fatherApart : ∀ e, n.father = some e → e ∉ n.brother.objects ++ n.children.objects := by
    intro e known member
    rcases List.mem_append.mp member with brother | child
    · exact (placed.brother e brother).1 (placed.father e known)
    · exact (placed.children e child).1 (placed.father e known)
  have members : ∀ e, e ∈ n.father.toList ++ n.brother.objects ++ n.children.objects ↔
      n.Registered e := by
    intro e
    rw [List.mem_append, List.mem_append, Option.mem_toList, Registered, or_assoc]
  have apart : (n.father.toList ++ n.brother.objects ++ n.children.objects).Nodup := by
    rw [List.append_assoc]
    refine List.Nodup.append ?_
      (n.brother.nodup_objects.append n.children.nodup_objects brotherApart) ?_
    · cases n.father with
      | none => exact List.nodup_nil
      | some father => exact List.nodup_singleton father
    · intro e known
      exact fatherApart e (Option.mem_toList.mp known)
  have known : ∀ e ∈ n.father.toList ++ n.brother.objects ++ n.children.objects, e ∈ n.registered :=
    fun e member => (members e).mp member
  have all := Follows.takesAll apart known
  have empty :
      n.registered \ {e | e ∈ n.father.toList ++ n.brother.objects ++ n.children.objects} = ∅ := by
    ext e
    refine iff_of_false (fun left => left.2 ((members e).mpr left.1)) (Set.notMem_empty e)
  rwa [empty] at all

variable [DecidableEq ε] [DecidableEq κ]

/-- A reset of an endpoint leaves the tables. -/
theorem Placed.resetEndpoint (placed : n.Placed) (reset : n.resetEndpoint e = .ok m) :
    m.Placed ∧ m.registered = n.registered := by
  rw [NodeObjects.resetEndpoint] at reset
  split at reset
  · cases reset
    exact ⟨placed, rfl⟩
  · cases done : n.conns.resetEndpoint nesting e with
    | error fault =>
        rw [done] at reset
        cases reset
    | ok conns =>
        rw [done] at reset
        cases reset
        exact ⟨placed.congr rfl rfl rfl rfl, rfl⟩

theorem Placed.checkOne {done : List (Removal ε) × NodeObjects view κ} (placed : n.Placed)
    (checked : n.checkOne e = .ok done) :
    done.2.Placed ∧
      Follows n.registered (done.1.map fun removal => .removed removal.object)
        done.2.registered := by
  rw [NodeObjects.checkOne] at checked
  split at checked
  · cases checked
    exact ⟨placed, .nil⟩
  · cases reset : n.resetEndpoint e with
    | error fault =>
        rw [reset] at checked
        cases checked
    | ok m =>
        rw [reset] at checked
        cases checked
        obtain ⟨placed', same⟩ := placed.resetEndpoint reset
        obtain ⟨kept, follows⟩ := placed'.removeEndpoint (view e).id
        refine ⟨kept, ?_⟩
        rw [← same, List.map_map]
        exact follows

theorem Placed.checkAll {list : List ε} {done : List (Removal ε) × NodeObjects view κ}
    (placed : n.Placed) (checked : n.checkAll list = .ok done) :
    done.2.Placed ∧
      Follows n.registered (done.1.map fun removal => .removed removal.object)
        done.2.registered := by
  induction list generalizing n done with
  | nil =>
      cases checked
      exact ⟨placed, .nil⟩
  | cons e rest ih =>
      rw [NodeObjects.checkAll] at checked
      cases one : n.checkOne e with
      | error fault =>
          rw [one] at checked
          cases checked
      | ok first =>
          cases others : first.2.checkAll rest with
          | error fault =>
              rw [one] at checked
              simp only [bind, Except.bind, others] at checked
              cases checked
          | ok last =>
              rw [one] at checked
              simp only [bind, Except.bind, others] at checked
              cases checked
              obtain ⟨placed', follows⟩ := placed.checkOne one
              obtain ⟨placed'', later⟩ := ih placed' others
              refine ⟨placed'', ?_⟩
              rw [List.map_append]
              exact follows.append later

/-- The parent is dropped by `disconnect`. -/
def Silent (n : NodeObjects view κ) : ObjectEvent ε κ → Prop
  | .disconnect id => ∃ father, n.father = some father ∧ (view father).id = id
  | _ => False

/-- A disconnect is reported, but for that of the parent. -/
theorem Placed.disconnect {done : ErrorType × List ε × NodeObjects view κ} (placed : n.Placed)
    (settled : n.conns.Settled) (disconnected : n.disconnect id = .ok done) :
    done.2.2.Placed ∧
      (Follows n.registered (done.2.1.map .removed) done.2.2.registered ↔
        ¬n.Silent (.disconnect id)) := by
  by_cases silent : ∃ father, n.father = some father ∧ (view father).id = id
  · obtain ⟨father, known, named⟩ := silent
    rw [disconnect_father settled known named] at disconnected
    cases disconnected
    have dropped := (placed.congr (m := n.afterReset father) rfl rfl rfl rfl).dropFather
    refine ⟨dropped, iff_of_false (fun follows => ?_) (not_not.mpr ⟨father, known, named⟩)⟩
    -- the parent would still be registered
    have same := Follows.nil_iff.mp follows
    have taken := placed.takesFather
    rw [known] at taken
    cases taken with
    | removed _ later =>
        have gone := Follows.nil_iff.mp later
        have still : father ∈ n.registered \ {father} := by
          rw [gone]
          exact same.subset (.inl known)
        exact still.2 rfl
  · have notFather : ∀ father, n.father = some father → (view father).id ≠ id :=
      fun father known named => silent ⟨father, known, named⟩
    have reset : ∀ e, (n.afterReset e).Placed := fun e => placed.congr rfl rfl rfl rfl
    suffices done.2.2.Placed ∧ Follows n.registered (done.2.1.map .removed) done.2.2.registered from
      ⟨this.1, iff_of_true this.2 silent⟩
    rw [NodeObjects.disconnect, filter_father notFather] at disconnected
    dsimp only at disconnected
    split at disconnected
    · rename_i e _
      rw [resetEndpoint_ok settled] at disconnected
      cases disconnected
      exact ⟨(reset e).removeBrother id, (reset e).takesBrother id⟩
    · split at disconnected
      · rename_i e _
        rw [resetEndpoint_ok settled] at disconnected
        cases disconnected
        exact ⟨(reset e).removeBrother id, (reset e).takesBrother id⟩
      · cases disconnected
        exact ⟨placed, .nil⟩

/-- What a transition is heard of. -/
def heard (t : Transition (NodeObjects view κ) (ObjectEvent ε κ)) : List (Change ε) :=
  t.pre.notices t.label

/-- The tables, and the assertions that hold of the connections. -/
structure Mirrored (n : NodeObjects view κ) : Prop where
  settled : n.conns.Settled
  placed : n.Placed

/-- The notices of every event tell what it does to the tables, but for a disconnect of the
    parent. -/
theorem Mirrored.step {event : ObjectEvent ε κ} (masks : ∀ e, (view e).childrenMask ≤ 30)
    (mirrored : n.Mirrored) (taken : objectStep n event after) :
    after.Mirrored ∧
      (Follows n.registered (n.notices event) after.registered ↔ ¬n.Silent event) := by
  have settled : after.conns.Settled := handle_settled mirrored.settled taken
  have placed := mirrored.placed
  suffices after.Placed ∧
      (Follows n.registered (n.notices event) after.registered ↔ ¬n.Silent event) from
    ⟨⟨settled, this.1⟩, this.2⟩
  have loud : ¬False := id
  rw [objectStep] at taken
  cases event with
  | call call =>
      rw [handle] at taken
      cases called : n.conns.call call with
      | error fault =>
          rw [called] at taken
          cases taken
      | ok w =>
          rw [called] at taken
          cases taken
          exact ⟨placed.congr rfl rfl rfl rfl, iff_of_true .nil loud⟩
  | addEndpoint e =>
      cases taken
      obtain ⟨kept, follows⟩ := placed.addEndpoint (masks e)
      exact ⟨kept, iff_of_true follows loud⟩
  | removeEndpoint tid =>
      cases taken
      obtain ⟨kept, follows⟩ := placed.removeEndpoint tid
      exact ⟨kept, iff_of_true follows loud⟩
  | disconnect id =>
      rw [handle] at taken
      rw [notices]
      cases disconnected : n.disconnect id with
      | error fault =>
          rw [disconnected] at taken
          cases taken
      | ok done =>
          rw [disconnected] at taken
          cases taken
          exact placed.disconnect mirrored.settled disconnected
  | addCheckList e =>
      cases taken
      exact ⟨placed.congr rfl rfl rfl rfl, iff_of_true .nil loud⟩
  | destroy e =>
      rw [handle] at taken
      cases reset : n.conns.resetEndpoint nesting e with
      | error fault =>
          rw [reset] at taken
          cases taken
      | ok conns =>
          rw [reset] at taken
          cases taken
          exact ⟨placed.congr rfl rfl rfl rfl, iff_of_true .nil loud⟩
  | clear =>
      cases taken
      refine ⟨placed_of_empty rfl rfl rfl, iff_of_true ?_ loud⟩
      have dropped :
          registered
          ({ n with father := none, brother := .empty, children := .empty, checkList := [] } :
          NodeObjects view κ) = ∅ := registered_of_empty rfl rfl rfl
      rw [dropped]
      exact placed.clear
  | proc =>
      rw [handle, procCheckList] at taken
      rw [notices, procCheckList]
      cases checked : NodeObjects.checkAll { n with checkList := [] } n.checkList with
      | error fault =>
          rw [checked] at taken
          cases taken
      | ok done =>
          rw [checked] at taken
          cases taken
          have begins : Placed { n with checkList := [] } := placed.congr rfl rfl rfl rfl
          obtain ⟨kept, follows⟩ := begins.checkAll checked
          exact ⟨kept.congr rfl rfl rfl rfl, iff_of_true follows loud⟩

end NodeObjects

/-- What the user hears of the endpoints of a node tells its tables: in every run from its creation,
    with masks of at most 30, the notices of each event tell what it does to the tables, unless it
    is a disconnect of the parent, which they do not tell. Without one, each endpoint that is
    registered was announced when it was not registered, each that is not registered any more was
    reported when it was, and nothing else was heard; so each was announced as often as it was
    reported, and once more while it is registered. -/
theorem notices_mirror [DecidableEq ε] [DecidableEq κ] {start n : NodeObjects view κ}
    {made : List (Transition (NodeObjects view κ) (ObjectEvent ε κ))}
    (masks : ∀ e, (view e).childrenMask ≤ 30) (initial : start.Initial)
    (run : Run objectStep start made n) :
    (∀ t ∈ made, Follows t.pre.registered (NodeObjects.heard t) t.post.registered ↔
      ¬t.pre.Silent t.label) ∧
      ((∀ t ∈ made, ¬t.pre.Silent t.label) →
        Follows ∅ (made.flatMap NodeObjects.heard) n.registered ∧
        ∀ e, (made.flatMap NodeObjects.heard).count (.added e) =
          (made.flatMap NodeObjects.heard).count (.removed e) + open Classical in if n.Registered e
            then 1 else 0) := by
  have empty := NodeObjects.registered_of_empty initial.father initial.brother initial.children
  have begins : start.Mirrored :=
    ⟨initial.conns.settled,
      NodeObjects.placed_of_empty initial.father initial.brother initial.children⟩
  have step : ∀ t : Transition (NodeObjects view κ) (ObjectEvent ε κ), t.pre.Mirrored →
      objectStep t.pre t.label t.post → True → t.post.Mirrored ∧
        (Follows t.pre.registered (NodeObjects.heard t) t.post.registered ↔
          ¬t.pre.Silent t.label) :=
    fun _ mirrored taken _ => mirrored.step masks taken
  have steps := (run.forall_transition begins step fun _ _ => trivial).2
  refine ⟨steps, fun loud => ?_⟩
  have follows := Follows.run run fun t member => (steps t member).mpr (loud t member)
  rw [empty] at follows
  refine ⟨follows, fun e => ?_⟩
  have counted := follows.count e
  rw [if_neg (Set.notMem_empty e), Nat.add_zero] at counted
  exact counted

/-- A brother is added, found without connections by the check, and added again. -/
theorem notices_mirror_brother :
    ∃ made n, Run objectStep NodeObjects.fresh made n ∧ n.Registered (0x43210000#64 : BusId) ∧
      made.flatMap NodeObjects.heard = [.added 0x43210000#64, .removed 0x43210000#64,
        .added 0x43210000#64] ∧
      Follows ∅ (made.flatMap NodeObjects.heard) n.registered := by
  let held : NodeObjects byId Nat := .holding 0x43210000#64
  let listed := held.addCheckList [0x43210000#64]
  obtain ⟨checked, proc, added, known, reported⟩ : ∃ checked, objectStep listed .proc checked ∧
      (checked.addEndpoint 0x43210000#64).1 = .success ∧
      (checked.addEndpoint 0x43210000#64).2.Registered (0x43210000#64 : BusId) ∧
      listed.notices .proc = [.removed 0x43210000#64] := by
    refine ⟨_, rfl, by decide, ?_, by decide⟩
    exact .inr (.inl (by decide))
  have list : objectStep held (.addCheckList 0x43210000#64) listed := rfl
  have again : objectStep checked (.addEndpoint 0x43210000#64)
      (checked.addEndpoint 0x43210000#64).2 := rfl
  have run := (((NodeObjects.run_holding 0x43210000#64).tail list).tail proc).tail again
  have first : NodeObjects.fresh.notices (.addEndpoint 0x43210000#64) = [.added 0x43210000#64] := by
    decide
  have last : checked.notices (.addEndpoint 0x43210000#64) = [.added 0x43210000#64] := if_pos added
  refine ⟨_, _, run, known, ?_, ?_⟩
  · simp only [List.nil_append, List.cons_append, List.flatMap_cons, List.flatMap_nil,
      NodeObjects.heard, first, reported, last]
    rfl
  · refine ((notices_mirror (fun _ => Nat.zero_le _) NodeObjects.fresh_initial run).2
      fun t member => ?_).1
    simp only [List.nil_append, List.cons_append, List.mem_cons, List.not_mem_nil,
      or_false] at member
    obtain rfl | rfl | rfl | rfl := member
    · exact id
    · exact id
    · exact id
    · exact id

end LibAtbus.Node
