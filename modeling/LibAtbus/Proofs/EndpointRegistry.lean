/-
Module: LibAtbus.Proofs.EndpointRegistry
Layer: Proofs
Purpose: The tables of a node as a map from ids to endpoints. `add_endpoint`, `remove_endpoint` and
  `get_endpoint` each classify an id by the parent of the moment. The tables behave as a map as long
  as no endpoint is added under the id of the parent, or as a parent under an id in use, and a
  parent comes only when all siblings known so far are in its domain: otherwise a sibling is stored
  where no call looks for it.
Trusted boundary: none
Main exports: RegistryInv, BusNode.TakesApart, ActsAsMap, Registry.Inv.call_iff,
  registry_actsAsMap_iff, sibling_lost_to_parent
-/
import LibAtbus.Proofs.SubDomains

namespace LibAtbus.Node

open Transitions

/-! ### The classification of ids -/

namespace BusNode

variable {node : BusNode} {endpoint father : Endpoint} {id : BusId}

/-- The mask of the parent, or 0 without one. -/
def fatherMask (node : BusNode) : Nat := (node.father.map Endpoint.childrenMask).getD 0

theorem isBrotherNode_eq : node.isBrotherNode id = node.self.isBrotherNode id node.fatherMask := by
  rw [isBrotherNode, fatherMask]
  cases node.father <;> rfl

theorem isParentNode_iff : node.isParentNode id = true ↔ ∃ father, node.father = some father ∧
    father.id = id := by
  rw [isParentNode]
  cases node.father with
  | none => simp
  | some father =>
      simp only [Node.isParentNode, beq_iff_eq, Option.some.injEq, exists_eq_left']
      exact eq_comm

theorem isParentShaped_iff : node.isParentShaped endpoint = true ↔
    node.self.childrenMask < endpoint.childrenMask ∧ endpoint.isChildNode node.id = true := by
  rw [isParentShaped, Bool.and_eq_true, decide_eq_true_eq]

theorem mem_endpoints : endpoint ∈ node.endpoints ↔
    node.father = some endpoint ∨ endpoint ∈ node.brother.endpoints ∨
    endpoint ∈ node.children.endpoints := by
  rw [endpoints, List.mem_append, List.mem_append, Option.mem_toList, or_assoc]

/-! The operations on an id of each kind; a failed operation leaves its collection as it is. -/

theorem removeEndpoint_parent (parent : node.isParentNode id = true) :
    node.removeEndpoint id = (.success, { node with father := none }) := by
  rw [removeEndpoint, if_pos parent]

theorem removeEndpoint_brother (notParent : node.isParentNode id = false)
    (brother : node.isBrotherNode id = true) : node.removeEndpoint id =
      (if (node.brother.removeChild id).1 then .success else .atnodeNotFound,
        { node with brother := (node.brother.removeChild id).2 }) := by
  rw [removeEndpoint, notParent, if_neg Bool.false_ne_true, if_pos brother]
  rcases EndpointCollection.removeChild_eq node.brother id with result | ⟨key, result⟩
  · rw [result]
    rfl
  · rw [result]
    rfl

theorem removeEndpoint_child (notParent : node.isParentNode id = false)
    (notBrother : node.isBrotherNode id = false) (child : node.isChildNode id = true) :
    node.removeEndpoint id =
      (if (node.children.removeChild id).1 then .success else .atnodeNotFound,
        { node with children := (node.children.removeChild id).2 }) := by
  rw [removeEndpoint, notParent, notBrother, if_neg Bool.false_ne_true, if_neg Bool.false_ne_true,
    if_pos child]
  rcases EndpointCollection.removeChild_eq node.children id with result | ⟨key, result⟩
  · rw [result]
    rfl
  · rw [result]
    rfl

theorem removeEndpoint_unknown (notParent : node.isParentNode id = false)
    (notBrother : node.isBrotherNode id = false) (notChild : node.isChildNode id = false) :
    node.removeEndpoint id = (.atnodeInvalidId, node) := by
  rw [removeEndpoint, notParent, notBrother, notChild]
  rfl

theorem addEndpoint_brother (notShaped : node.isParentShaped endpoint = false)
    (brother : node.isBrotherNode endpoint.id = true) : node.addEndpoint endpoint =
      (if (node.brother.insertChild endpoint).1 then .success else .atnodeMaskConflict,
        { node with brother := (node.brother.insertChild endpoint).2 }) := by
  rw [addEndpoint, notShaped, if_neg Bool.false_ne_true, if_pos brother]
  rcases EndpointCollection.insertChild_eq node.brother endpoint with result | result
  · rw [result]
    rfl
  · rw [result]
    rfl

theorem addEndpoint_child (notShaped : node.isParentShaped endpoint = false)
    (notBrother : node.isBrotherNode endpoint.id = false)
    (child : node.isChildNode endpoint.id = true) :
    node.addEndpoint endpoint =
      (if (node.children.insertChild endpoint).1 then .success else .atnodeMaskConflict,
        { node with children := (node.children.insertChild endpoint).2 }) := by
  rw [addEndpoint, notShaped, notBrother, if_neg Bool.false_ne_true, if_neg Bool.false_ne_true,
    if_pos child]
  rcases EndpointCollection.insertChild_eq node.children endpoint with result | result
  · rw [result]
    rfl
  · rw [result]
    rfl

theorem addEndpoint_unknown (notShaped : node.isParentShaped endpoint = false)
    (notBrother : node.isBrotherNode endpoint.id = false)
    (notChild : node.isChildNode endpoint.id = false) :
    node.addEndpoint endpoint = (.atnodeInvalidId, node) := by
  rw [addEndpoint, notShaped, notBrother, notChild]
  rfl

end BusNode

/-! ### The invariant -/

/-- What holds of the tables while they behave as a map: every endpoint is where its id is looked
    for, and the id of the parent is no other endpoint's. -/
structure RegistryInv (node : BusNode) : Prop where
  mask : node.self.childrenMask ≤ 30
  fatherMask : ∀ {father}, node.father = some father → father.childrenMask ≤ 30
  fatherShaped : ∀ {father}, node.father = some father → node.isParentShaped father = true
  brother : SubDomains node.brother
  children : SubDomains node.children
  sibling : ∀ endpoint ∈ node.brother.endpoints, node.isBrotherNode endpoint.id = true
  child : ∀ endpoint ∈ node.children.endpoints, node.isChildNode endpoint.id = true
  fatherId : ∀ {father}, node.father = some father →
    ∀ endpoint ∈ node.brother.endpoints ++ node.children.endpoints, endpoint.id ≠ father.id

namespace RegistryInv

variable {node : BusNode} {endpoint other : Endpoint} {id : BusId}

theorem fatherMask_le (inv : RegistryInv node) : node.fatherMask ≤ 30 := by
  rw [BusNode.fatherMask]
  cases known : node.father with
  | none => exact Nat.zero_le _
  | some father => exact inv.fatherMask known

theorem isBrotherNode_iff (inv : RegistryInv node) : node.isBrotherNode id = true ↔
    node.isChildNode id = false ∧
      (node.fatherMask = 0 ∨ SameDomain node.fatherMask id node.id) := by
  rw [BusNode.isBrotherNode_eq, Endpoint.isBrotherNode_iff inv.mask inv.fatherMask_le,
    ← Endpoint.isChildNode_iff inv.mask, Bool.not_eq_true, BusNode.isChildNode]

/-- A sibling is not taken for the parent or a child, a child not for the parent or a sibling. -/
theorem of_mem_brother (inv : RegistryInv node) (member : endpoint ∈ node.brother.endpoints) :
    node.isParentNode endpoint.id = false ∧ node.isBrotherNode endpoint.id = true := by
  refine ⟨?_, inv.sibling endpoint member⟩
  rw [← Bool.not_eq_true, BusNode.isParentNode_iff]
  rintro ⟨father, known, same⟩
  exact inv.fatherId known endpoint (List.mem_append_left _ member) same.symm

theorem of_mem_children (inv : RegistryInv node) (member : endpoint ∈ node.children.endpoints) :
    node.isParentNode endpoint.id = false ∧ node.isBrotherNode endpoint.id = false ∧
      node.isChildNode endpoint.id = true := by
  have child := inv.child endpoint member
  refine ⟨?_, ?_, child⟩
  · rw [← Bool.not_eq_true, BusNode.isParentNode_iff]
    rintro ⟨father, known, same⟩
    exact inv.fatherId known endpoint (List.mem_append_right _ member) same.symm
  · rw [← Bool.not_eq_true, inv.isBrotherNode_iff, child]
    simp

/-- Every endpoint of the tables is found under its id. -/
theorem getEndpoint_of_mem (inv : RegistryInv node) (member : endpoint ∈ node.endpoints) :
    node.getEndpoint endpoint.id = some endpoint := by
  rw [BusNode.getEndpoint]
  rcases BusNode.mem_endpoints.mp member with known | stored | stored
  · rw [if_pos (BusNode.isParentNode_iff.mpr ⟨endpoint, known, rfl⟩), known]
  · obtain ⟨notParent, brother⟩ := inv.of_mem_brother stored
    have found := inv.brother.findChild_iff.mpr ⟨stored, Endpoint.isChildNode_self endpoint⟩
    rw [notParent, brother, found]
    simp
  · obtain ⟨notParent, notBrother, child⟩ := inv.of_mem_children stored
    have found := inv.children.findChild_iff.mpr ⟨stored, Endpoint.isChildNode_self endpoint⟩
    rw [notParent, notBrother, child, found]
    simp

/-- No two endpoints of the tables have the same id. -/
theorem nodup_ids (inv : RegistryInv node) : (node.endpoints.map Endpoint.id).Nodup := by
  have collection : ∀ {coll : EndpointCollection}, SubDomains coll →
      (coll.endpoints.map Endpoint.id).Nodup := by
    intro coll holds
    rw [EndpointCollection.endpoints, List.map_map, List.Nodup, List.pairwise_map]
    refine coll.map.sorted.imp_of_mem ?_
    intro entry later member member' below same
    have equal := holds.eq_of_id (List.mem_map_of_mem member) (List.mem_map_of_mem member') same
    rw [holds.keyed entry member, holds.keyed later member', equal] at below
    exact lt_irrefl _ below
  rw [BusNode.endpoints, List.map_append, List.map_append, List.append_assoc]
  refine List.nodup_append.mpr
    ⟨?_, List.nodup_append.mpr ⟨collection inv.brother, collection inv.children, ?_⟩, ?_⟩
  · cases node.father <;> simp
  · rintro id member _ member' rfl
    obtain ⟨sibling, stored, rfl⟩ := List.mem_map.mp member
    obtain ⟨child, stored', same⟩ := List.mem_map.mp member'
    have brother := (inv.of_mem_brother stored).2
    rw [← same, (inv.of_mem_children stored').2.1] at brother
    cases brother
  · rintro id member _ member' rfl
    obtain ⟨father, known, rfl⟩ := List.mem_map.mp member
    rw [← List.map_append] at member'
    obtain ⟨endpoint, stored, same⟩ := List.mem_map.mp member'
    exact inv.fatherId (Option.mem_toList.mp known) endpoint stored same

theorem eq_of_id (inv : RegistryInv node) (member : endpoint ∈ node.endpoints)
    (member' : other ∈ node.endpoints) (same : endpoint.id = other.id) : endpoint = other := by
  have found := inv.getEndpoint_of_mem member
  rw [same, inv.getEndpoint_of_mem member'] at found
  exact (Option.some.inj found).symm

/-! ### Removal -/

theorem ne_id_of_brother (inv : RegistryInv node) (notBrother : node.isBrotherNode id = false)
    (stored : endpoint ∈ node.brother.endpoints) : endpoint.id ≠ id := by
  rintro rfl
  rw [inv.sibling endpoint stored] at notBrother
  cases notBrother

theorem ne_id_of_children (inv : RegistryInv node)
    (elsewhere : node.isBrotherNode id = true ∨ node.isChildNode id = false)
    (stored : endpoint ∈ node.children.endpoints) : endpoint.id ≠ id := by
  rintro rfl
  obtain ⟨-, notBrother, child⟩ := inv.of_mem_children stored
  rw [notBrother, child] at elsewhere
  simp at elsewhere

theorem ne_id_of_father {father : Endpoint} (notParent : node.isParentNode id = false)
    (known : node.father = some father) : father.id ≠ id := by
  intro same
  rw [BusNode.isParentNode_iff.mpr ⟨father, known, same⟩] at notParent
  cases notParent

/-- What `remove_endpoint` leaves in the tables. -/
theorem mem_removeEndpoint (inv : RegistryInv node) :
    endpoint ∈ (node.removeEndpoint id).2.endpoints ↔
    endpoint ∈ node.endpoints ∧ endpoint.id ≠ id := by
  cases parent : node.isParentNode id with
  | true =>
      rw [BusNode.removeEndpoint_parent parent, BusNode.mem_endpoints, BusNode.mem_endpoints]
      obtain ⟨father, known, rfl⟩ := BusNode.isParentNode_iff.mp parent
      have others := inv.fatherId known endpoint
      rw [List.mem_append] at others
      simp only [known, reduceCtorEq, false_or, Option.some.injEq]
      constructor
      · exact fun stored => ⟨.inr stored, others stored⟩
      · rintro ⟨rfl | stored, other⟩
        · exact absurd rfl other
        · exact stored
  | false =>
      have father : node.father = some endpoint → endpoint.id ≠ id := ne_id_of_father parent
      cases brother : node.isBrotherNode id with
      | true =>
          have children : endpoint ∈ node.children.endpoints → endpoint.id ≠ id :=
            inv.ne_id_of_children (.inl brother)
          rw [BusNode.removeEndpoint_brother parent brother, BusNode.mem_endpoints,
            BusNode.mem_endpoints, inv.brother.mem_removeChild]
          constructor
          · rintro (known | ⟨stored, other⟩ | stored)
            · exact ⟨.inl known, father known⟩
            · exact ⟨.inr (.inl stored), other⟩
            · exact ⟨.inr (.inr stored), children stored⟩
          · rintro ⟨known | stored | stored, other⟩
            · exact .inl known
            · exact .inr (.inl ⟨stored, other⟩)
            · exact .inr (.inr stored)
      | false =>
          have siblings : endpoint ∈ node.brother.endpoints → endpoint.id ≠ id :=
            inv.ne_id_of_brother brother
          cases child : node.isChildNode id with
          | true =>
              rw [BusNode.removeEndpoint_child parent brother child, BusNode.mem_endpoints,
                BusNode.mem_endpoints, inv.children.mem_removeChild]
              constructor
              · rintro (known | stored | ⟨stored, other⟩)
                · exact ⟨.inl known, father known⟩
                · exact ⟨.inr (.inl stored), siblings stored⟩
                · exact ⟨.inr (.inr stored), other⟩
              · rintro ⟨known | stored | stored, other⟩
                · exact .inl known
                · exact .inr (.inl stored)
                · exact .inr (.inr ⟨stored, other⟩)
          | false =>
              have children : endpoint ∈ node.children.endpoints → endpoint.id ≠ id :=
                inv.ne_id_of_children (.inr child)
              rw [BusNode.removeEndpoint_unknown parent brother child, BusNode.mem_endpoints]
              constructor
              · rintro (known | stored | stored)
                · exact ⟨.inl known, father known⟩
                · exact ⟨.inr (.inl stored), siblings stored⟩
                · exact ⟨.inr (.inr stored), children stored⟩
              · exact fun held => held.1

/-- `remove_endpoint` succeeds on the id of an endpoint of the tables. -/
theorem removeEndpoint_success (inv : RegistryInv node) (member : endpoint ∈ node.endpoints) :
    (node.removeEndpoint endpoint.id).1 = .success := by
  rcases BusNode.mem_endpoints.mp member with known | stored | stored
  · rw [BusNode.removeEndpoint_parent (BusNode.isParentNode_iff.mpr ⟨endpoint, known, rfl⟩)]
  · obtain ⟨notParent, brother⟩ := inv.of_mem_brother stored
    rw [BusNode.removeEndpoint_brother notParent brother,
      inv.brother.removeChild_iff.mpr ⟨endpoint, stored, rfl⟩]
    rfl
  · obtain ⟨notParent, notBrother, child⟩ := inv.of_mem_children stored
    rw [BusNode.removeEndpoint_child notParent notBrother child,
      inv.children.removeChild_iff.mpr ⟨endpoint, stored, rfl⟩]
    rfl

/-- Without a parent every id outside the domain of the node is a sibling's. -/
theorem dropFather (inv : RegistryInv node) : RegistryInv { node with father := none } where
  mask := inv.mask
  fatherMask known := absurd known (by simp)
  fatherShaped known := absurd known (by simp)
  brother := inv.brother
  children := inv.children
  sibling endpoint stored := by
    have outside := (inv.isBrotherNode_iff.mp (inv.sibling endpoint stored)).1
    change node.self.isBrotherNode endpoint.id 0 = true
    rw [Endpoint.isBrotherNode_iff inv.mask (Nat.zero_le _), ← Endpoint.isChildNode_iff inv.mask,
      Bool.not_eq_true]
    exact ⟨outside, .inl rfl⟩
  child := inv.child
  fatherId known := absurd known (by simp)

theorem dropBrother (inv : RegistryInv node) (id : BusId) :
    RegistryInv { node with brother := (node.brother.removeChild id).2 } := by
  have kept : ∀ endpoint ∈ (node.brother.removeChild id).2.endpoints,
      endpoint ∈ node.brother.endpoints :=
    fun endpoint stored => (inv.brother.mem_removeChild.mp stored).1
  exact
    { inv with
      brother := inv.brother.removeChild id
      sibling := fun endpoint stored => inv.sibling endpoint (kept endpoint stored)
      fatherId := fun known endpoint stored => inv.fatherId known endpoint <| by
        rw [List.mem_append] at stored ⊢
        exact stored.imp_left (kept endpoint) }

theorem dropChild (inv : RegistryInv node) (id : BusId) :
    RegistryInv { node with children := (node.children.removeChild id).2 } := by
  have kept : ∀ endpoint ∈ (node.children.removeChild id).2.endpoints,
      endpoint ∈ node.children.endpoints :=
    fun endpoint stored => (inv.children.mem_removeChild.mp stored).1
  exact
    { inv with
      children := inv.children.removeChild id
      child := fun endpoint stored => inv.child endpoint (kept endpoint stored)
      fatherId := fun known endpoint stored => inv.fatherId known endpoint <| by
        rw [List.mem_append] at stored ⊢
        exact stored.imp_right (kept endpoint) }

/-- A removal keeps the invariant. -/
theorem removeEndpoint (inv : RegistryInv node) (id : BusId) :
    RegistryInv (node.removeEndpoint id).2 := by
  cases parent : node.isParentNode id with
  | true =>
      rw [BusNode.removeEndpoint_parent parent]
      exact inv.dropFather
  | false =>
      cases brother : node.isBrotherNode id with
      | true =>
          rw [BusNode.removeEndpoint_brother parent brother]
          exact inv.dropBrother id
      | false =>
          cases child : node.isChildNode id with
          | true =>
              rw [BusNode.removeEndpoint_child parent brother child]
              exact inv.dropChild id
          | false => rwa [BusNode.removeEndpoint_unknown parent brother child]

/-! ### Addition -/

/-- What `add_endpoint` does: it refuses and changes nothing, or it takes the endpoint as the
    parent, as a sibling or as a child, in a collection whose domains are all apart from the new
    one. -/
inductive Added (node : BusNode) (endpoint : Endpoint) : ErrorType × BusNode → Prop where
  | refused {res : ErrorType} (failed : res ≠ .success) : Added node endpoint (res, node)
  | father (shaped : node.isParentShaped endpoint = true) (first : node.father = none) :
      Added node endpoint (.success, { node with father := some endpoint })
  | brother (other : node.isParentShaped endpoint = false)
      (sibling : node.isBrotherNode endpoint.id = true)
      (free : ∀ stored ∈ node.brother.endpoints, stored.Apart endpoint) :
      Added node endpoint (.success, { node with brother := node.brother.store endpoint })
  | child (other : node.isParentShaped endpoint = false)
      (notBrother : node.isBrotherNode endpoint.id = false)
      (below : node.isChildNode endpoint.id = true)
      (free : ∀ stored ∈ node.children.endpoints, stored.Apart endpoint) :
      Added node endpoint (.success, { node with children := node.children.store endpoint })

theorem addEndpoint_added (inv : RegistryInv node) (small : endpoint.childrenMask ≤ 30) :
    Added node endpoint (node.addEndpoint endpoint) := by
  cases shaped : node.isParentShaped endpoint with
  | true =>
      rw [BusNode.addEndpoint, if_pos shaped]
      cases first : node.father with
      | none => exact .father shaped first
      | some father => exact .refused (by decide)
  | false =>
      cases sibling : node.isBrotherNode endpoint.id with
      | true =>
          rw [BusNode.addEndpoint_brother shaped sibling]
          cases stored : (node.brother.insertChild endpoint).1 with
          | false =>
              rw [EndpointCollection.insertChild_false stored]
              exact .refused (by decide)
          | true =>
              rw [EndpointCollection.insertChild_true stored]
              exact .brother shaped sibling ((inv.brother.insertChild_iff small).mp stored)
      | false =>
          cases below : node.isChildNode endpoint.id with
          | true =>
              rw [BusNode.addEndpoint_child shaped sibling below]
              cases stored : (node.children.insertChild endpoint).1 with
              | false =>
                  rw [EndpointCollection.insertChild_false stored]
                  exact .refused (by decide)
              | true =>
                  rw [EndpointCollection.insertChild_true stored]
                  exact .child shaped sibling below ((inv.children.insertChild_iff small).mp stored)
          | false =>
              rw [BusNode.addEndpoint_unknown shaped sibling below]
              exact .refused (by decide)

/-- An endpoint that was taken is in the tables beside all that were there. -/
theorem mem_addEndpoint (inv : RegistryInv node) (small : endpoint.childrenMask ≤ 30)
    (taken : (node.addEndpoint endpoint).1 = .success) :
    other ∈ (node.addEndpoint endpoint).2.endpoints ↔ other ∈ node.endpoints ∨
      other = endpoint := by
  have added := inv.addEndpoint_added small
  generalize node.addEndpoint endpoint = result at added taken
  cases added with
  | refused failed => exact absurd taken failed
  | father shaped first =>
      rw [BusNode.mem_endpoints, BusNode.mem_endpoints, first]
      simp only [Option.some.injEq, reduceCtorEq, false_or]
      rw [or_comm, eq_comm]
  | brother _ _ free =>
      rw [BusNode.mem_endpoints, BusNode.mem_endpoints, inv.brother.mem_store small free]
      tauto
  | child _ _ _ free =>
      rw [BusNode.mem_endpoints, BusNode.mem_endpoints, inv.children.mem_store small free]
      tauto

end RegistryInv

/-- An endpoint leaves the tables a map. As the first parent it has an id of its own, and the
    siblings known so far are in its domain. As a sibling or child it has not the id of the parent,
    unless it is refused because its domain overlaps one that is stored. -/
def BusNode.TakesApart (node : BusNode) (endpoint : Endpoint) : Prop :=
  if node.isParentShaped endpoint then
    node.father = none →
      (∀ stored ∈ node.brother.endpoints ++ node.children.endpoints, stored.id ≠ endpoint.id) ∧
      ∀ stored ∈ node.brother.endpoints, endpoint.isChildNode stored.id = true
  else
    ∀ father, node.father = some father → father.id = endpoint.id →
      ∃ stored ∈ (if node.isBrotherNode endpoint.id then node.brother else node.children).endpoints,
        ¬stored.Apart endpoint

namespace RegistryInv

variable {node : BusNode} {endpoint : Endpoint}

/-- With a first parent whose domain has all siblings, they remain siblings. -/
theorem addFather (inv : RegistryInv node) (small : endpoint.childrenMask ≤ 30)
    (shaped : node.isParentShaped endpoint = true)
    (ids : ∀ stored ∈ node.brother.endpoints ++ node.children.endpoints, stored.id ≠ endpoint.id)
    (within : ∀ stored ∈ node.brother.endpoints, endpoint.isChildNode stored.id = true) :
    RegistryInv { node with father := some endpoint } where
  mask := inv.mask
  fatherMask known := by
    cases known
    exact small
  fatherShaped known := by
    cases known
    exact shaped
  brother := inv.brother
  children := inv.children
  sibling stored member := by
    have outside := (inv.isBrotherNode_iff.mp (inv.sibling stored member)).1
    have above := (BusNode.isParentShaped_iff.mp shaped).2
    rw [Endpoint.isChildNode_iff small] at above
    have inside := within stored member
    rw [Endpoint.isChildNode_iff small] at inside
    change node.self.isBrotherNode stored.id endpoint.childrenMask = true
    rw [Endpoint.isBrotherNode_iff inv.mask small, ← Endpoint.isChildNode_iff inv.mask,
      Bool.not_eq_true]
    exact ⟨outside, .inr (inside.trans above.symm)⟩
  child := inv.child
  fatherId known := by
    cases known
    exact ids

/-- An addition that leaves the tables a map keeps the invariant. -/
theorem addEndpoint (inv : RegistryInv node) (small : endpoint.childrenMask ≤ 30)
    (apart : node.TakesApart endpoint) : RegistryInv (node.addEndpoint endpoint).2 := by
  have added := inv.addEndpoint_added small
  rw [BusNode.TakesApart] at apart
  generalize node.addEndpoint endpoint = result at added
  cases added with
  | refused failed => exact inv
  | father shaped first =>
      rw [if_pos shaped] at apart
      exact inv.addFather small shaped (apart first).1 (apart first).2
  | brother other sibling free =>
      rw [other, if_neg Bool.false_ne_true, if_pos sibling] at apart
      have mem {stored : Endpoint} : stored ∈ (node.brother.store endpoint).endpoints ↔
          stored = endpoint ∨ stored ∈ node.brother.endpoints := inv.brother.mem_store small free
      exact
        { inv with
          brother := inv.brother.store small free
          sibling := fun stored member => by
            rcases mem.mp member with rfl | old
            · exact sibling
            · exact inv.sibling stored old
          fatherId := fun {father} known stored member => by
            rcases List.mem_append.mp member with member | member
            · rcases mem.mp member with rfl | old
              · intro same
                obtain ⟨covering, inTable, overlaps⟩ := apart father known same.symm
                exact overlaps (free covering inTable)
              · exact inv.fatherId known stored (List.mem_append_left _ old)
            · exact inv.fatherId known stored (List.mem_append_right _ member) }
  | child other notBrother below free =>
      rw [other, notBrother, if_neg Bool.false_ne_true, if_neg Bool.false_ne_true] at apart
      have mem {stored : Endpoint} : stored ∈ (node.children.store endpoint).endpoints ↔
          stored = endpoint ∨ stored ∈ node.children.endpoints := inv.children.mem_store small free
      exact
        { inv with
          children := inv.children.store small free
          child := fun stored member => by
            rcases mem.mp member with rfl | old
            · exact below
            · exact inv.child stored old
          fatherId := fun {father} known stored member => by
            rcases List.mem_append.mp member with member | member
            · exact inv.fatherId known stored (List.mem_append_left _ member)
            · rcases mem.mp member with rfl | old
              · intro same
                obtain ⟨covering, inTable, overlaps⟩ := apart father known same.symm
                exact overlaps (free covering inTable)
              · exact inv.fatherId known stored (List.mem_append_right _ old) }

end RegistryInv

/-! ### The tables as a map -/

/-- The endpoints that were added and not removed since are found under their ids. Removing one
    succeeds, takes only it out of the tables and leaves the others to be found. No two endpoints of
    the tables have the same id. -/
structure ActsAsMap (registry : Registry) : Prop where
  reachable : ∀ endpoint ∈ registry.added, registry.node.getEndpoint endpoint.id = some endpoint
  removed : ∀ endpoint ∈ registry.added, (registry.node.removeEndpoint endpoint.id).1 = .success
  removes : ∀ endpoint ∈ registry.added, ∀ other,
    other ∈ (registry.node.removeEndpoint endpoint.id).2.endpoints ↔
      other ∈ registry.node.endpoints ∧ other ≠ endpoint
  others : ∀ endpoint ∈ registry.added, ∀ other ∈ registry.added, other ≠ endpoint →
    (registry.node.removeEndpoint endpoint.id).2.getEndpoint other.id = some other
  distinct : (registry.node.endpoints.map Endpoint.id).Nodup

/-- The invariant of a registry: that of the tables, which have just the endpoints that were
    added. -/
structure Registry.Inv (registry : Registry) : Prop where
  tables : RegistryInv registry.node
  added : ∀ endpoint, endpoint ∈ registry.added ↔ endpoint ∈ registry.node.endpoints

/-- The condition on a call: an addition leaves the tables a map. -/
def RegistryCall.Apart (node : BusNode) : RegistryCall → Prop
  | .add endpoint => node.TakesApart endpoint
  | .remove _ => True

namespace Registry.Inv

variable {registry : Registry} {endpoint : Endpoint} {id : BusId}

theorem initial (start : registry.Initial) : registry.Inv where
  tables :=
    { mask := start.mask
      fatherMask := fun known => absurd (start.father.symm.trans known) (by simp)
      fatherShaped := fun known => absurd (start.father.symm.trans known) (by simp)
      brother := start.brother ▸ SubDomains.empty
      children := start.children ▸ SubDomains.empty
      sibling := fun stored member => absurd (start.brother ▸ member) List.not_mem_nil
      child := fun stored member => absurd (start.children ▸ member) List.not_mem_nil
      fatherId := fun known => absurd (start.father.symm.trans known) (by simp) }
  added stored := by
    rw [start.added, BusNode.mem_endpoints, start.father, start.brother, start.children]
    simp

/-- While the invariant holds the tables are a map. -/
theorem actsAsMap (inv : registry.Inv) : ActsAsMap registry where
  reachable stored member := inv.tables.getEndpoint_of_mem ((inv.added stored).mp member)
  removed stored member := inv.tables.removeEndpoint_success ((inv.added stored).mp member)
  removes stored member other := by
    rw [inv.tables.mem_removeEndpoint]
    refine and_congr_right fun member' => not_congr ⟨?_, congrArg Endpoint.id⟩
    exact inv.tables.eq_of_id member' ((inv.added stored).mp member)
  others stored member other member' different := by
    apply (inv.tables.removeEndpoint stored.id).getEndpoint_of_mem
    rw [inv.tables.mem_removeEndpoint]
    have inTable := (inv.added other).mp member'
    exact ⟨inTable,
      fun same => different (inv.tables.eq_of_id inTable ((inv.added stored).mp member) same)⟩
  distinct := inv.tables.nodup_ids

/-- A call that leaves the tables a map keeps the invariant. -/
theorem call (inv : registry.Inv) {change : RegistryCall} (small : change.MaskLe)
    (apart : change.Apart registry.node) : (registry.call change).Inv := by
  cases change with
  | add endpoint =>
      refine ⟨inv.tables.addEndpoint small apart, fun stored => ?_⟩
      simp only [Registry.call]
      split
      · rename_i taken
        rw [List.mem_append, List.mem_singleton, inv.added, inv.tables.mem_addEndpoint small taken]
      · rename_i refused
        have added := inv.tables.addEndpoint_added small
        generalize registry.node.addEndpoint endpoint = result at added refused
        cases added with
        | refused failed => exact inv.added stored
        | father => exact absurd rfl refused
        | brother => exact absurd rfl refused
        | child => exact absurd rfl refused
  | remove id =>
      refine ⟨inv.tables.removeEndpoint id, fun stored => ?_⟩
      simp only [Registry.call]
      rw [List.mem_filter, decide_eq_true_eq, inv.added, inv.tables.mem_removeEndpoint]

/-- Two endpoints of the tables with one id, one of them the parent. -/
theorem not_nodup {node : BusNode} {father stored : Endpoint} (known : node.father = some father)
    (member : stored ∈ node.brother.endpoints ++ node.children.endpoints)
    (same : stored.id = father.id) : ¬(node.endpoints.map Endpoint.id).Nodup := by
  intro distinct
  rw [BusNode.endpoints, known, List.append_assoc] at distinct
  exact (List.nodup_cons.mp distinct).1 (same ▸ List.mem_map_of_mem member)

/-- A sibling outside the domain of a first parent is found by no call any more. -/
theorem isChildNode_of_actsAsMap (inv : registry.Inv) (small : endpoint.childrenMask ≤ 30)
    (shaped : registry.node.isParentShaped endpoint = true) {stored : Endpoint}
    (member : stored ∈ registry.node.brother.endpoints)
    (found :
      BusNode.getEndpoint { registry.node with father := some endpoint } stored.id = some stored) :
    endpoint.isChildNode stored.id = true := by
  by_contra away
  have outside := (inv.tables.isBrotherNode_iff.mp (inv.tables.sibling stored member)).1
  have notParent : ¬BusNode.isParentNode { registry.node with
      father := some endpoint } stored.id = true := by
    rw [BusNode.isParentNode_iff]
    rintro ⟨father, known, same⟩
    cases known
    exact away (same ▸ Endpoint.isChildNode_self endpoint)
  have notBrother : ¬BusNode.isBrotherNode { registry.node with
      father := some endpoint } stored.id = true := by
    change ¬registry.node.self.isBrotherNode stored.id endpoint.childrenMask = true
    obtain ⟨larger, above⟩ := BusNode.isParentShaped_iff.mp shaped
    rw [Endpoint.isChildNode_iff small] at above away
    rw [Endpoint.isBrotherNode_iff inv.tables.mask small]
    rintro ⟨-, none | same⟩
    · omega
    · exact away (same.trans above)
  have notChild : ¬BusNode.isChildNode { registry.node with
      father := some endpoint } stored.id = true := by
    change ¬registry.node.isChildNode stored.id = true
    rw [outside]
    exact Bool.false_ne_true
  rw [BusNode.getEndpoint, if_neg notParent, if_neg notBrother, if_neg notChild] at found
  cases found

/-- An endpoint with the id of the parent, in a collection that takes it. -/
theorem not_distinct_of_clash (inv : registry.Inv) (small : endpoint.childrenMask ≤ 30)
    (other : registry.node.isParentShaped endpoint = false) {father : Endpoint}
    (known : registry.node.father = some father) (same : father.id = endpoint.id)
    (free : ∀ stored ∈ (if registry.node.isBrotherNode endpoint.id then registry.node.brother
      else registry.node.children).endpoints, stored.Apart endpoint) :
    ¬((registry.node.addEndpoint endpoint).2.endpoints.map Endpoint.id).Nodup := by
  cases sibling : registry.node.isBrotherNode endpoint.id with
  | true =>
      rw [if_pos sibling] at free
      have stored := (inv.tables.brother.insertChild_iff small).mpr free
      rw [BusNode.addEndpoint_brother other sibling, stored,
        EndpointCollection.insertChild_true stored]
      have member := (inv.tables.brother.mem_store small free).mpr (.inl rfl)
      have known' :
          BusNode.father { registry.node with brother := registry.node.brother.store endpoint } =
            some father := known
      exact not_nodup known' (List.mem_append_left _ member) same.symm
  | false =>
      rw [sibling, if_neg Bool.false_ne_true] at free
      -- the id of the parent is in its domain, so it is a child's if it is no sibling's
      have below : registry.node.isChildNode endpoint.id = true := by
        have above := (BusNode.isParentShaped_iff.mp (inv.tables.fatherShaped known)).2
        rw [Endpoint.isChildNode_iff (inv.tables.fatherMask known), same] at above
        by_contra outside
        have brother : registry.node.isBrotherNode endpoint.id = true ↔
            registry.node.isChildNode endpoint.id = false ∧
            (registry.node.fatherMask = 0 ∨
              SameDomain registry.node.fatherMask endpoint.id registry.node.id) :=
          inv.tables.isBrotherNode_iff
        rw [sibling, BusNode.fatherMask, known] at brother
        simp only [Bool.false_eq_true, false_iff, not_and, not_or] at brother
        exact (brother (by simpa using outside)).2 above.symm
      have stored := (inv.tables.children.insertChild_iff small).mpr free
      rw [BusNode.addEndpoint_child other sibling below, stored,
        EndpointCollection.insertChild_true stored]
      have member := (inv.tables.children.mem_store small free).mpr (.inl rfl)
      have known' :
          BusNode.father { registry.node with children := registry.node.children.store endpoint } =
            some father := known
      exact not_nodup known' (List.mem_append_right _ member) same.symm

/-- Any other addition breaks the map. -/
theorem takesApart_of_actsAsMap (inv : registry.Inv) (small : endpoint.childrenMask ≤ 30)
    (acts : ActsAsMap (registry.call (.add endpoint))) : registry.node.TakesApart endpoint := by
  have reachable := acts.reachable
  have distinct := acts.distinct
  simp only [Registry.call] at reachable distinct
  rw [BusNode.TakesApart]
  cases shaped : registry.node.isParentShaped endpoint with
  | true =>
      rw [if_pos rfl]
      intro first
      have result : registry.node.addEndpoint endpoint =
          (.success, { registry.node with father := some endpoint }) := by
        rw [BusNode.addEndpoint, if_pos shaped, first]
      rw [result] at reachable distinct
      refine ⟨fun stored member same => ?_, fun stored member => ?_⟩
      · have known : BusNode.father { registry.node with
            father := some endpoint } = some endpoint := rfl
        exact not_nodup known member same distinct
      · have inTable := (inv.added stored).mpr (BusNode.mem_endpoints.mpr (.inr (.inl member)))
        exact inv.isChildNode_of_actsAsMap small shaped member
          (reachable stored (List.mem_append_left _ inTable))
  | false =>
      rw [if_neg Bool.false_ne_true]
      intro father known same
      by_contra free
      push Not at free
      exact inv.not_distinct_of_clash small shaped known same free distinct

/-- A call keeps the tables a map exactly when it meets the condition. -/
theorem call_iff (inv : registry.Inv) {change : RegistryCall} (small : change.MaskLe) :
    ActsAsMap (registry.call change) ↔ change.Apart registry.node := by
  refine ⟨fun acts => ?_, fun apart => (inv.call small apart).actsAsMap⟩
  cases change with
  | add endpoint => exact inv.takesApart_of_actsAsMap small acts
  | remove id => trivial

end Registry.Inv

/-- After every call of a run from empty tables the tables are a map exactly when every addition of
    the run meets the condition. -/
theorem registry_actsAsMap_iff {start registry : Registry} (empty : start.Initial)
    {made : List (Transition Registry RegistryCall)} (run : Run registryStep start made registry) :
    (∀ t ∈ made, ActsAsMap t.post) ↔ ∀ t ∈ made, t.label.Apart t.pre.node := by
  apply run.forall_iff (Registry.Inv.initial empty)
  · intro t inv taken apart
    rw [taken.2]
    exact inv.call taken.1 apart
  · intro t inv taken
    rw [taken.2]
    exact inv.call_iff taken.1

/-- A node with empty tables. -/
def Registry.fresh (self : Endpoint) : Registry where
  node :=
    { self := self
      father := none
      brother := .empty
      children := .empty
      ttl := 16
      msgSize := 65536 }
  added := []

theorem Registry.fresh_initial {self : Endpoint} (small : self.childrenMask ≤ 30) :
    (fresh self).Initial :=
  ⟨small, rfl, rfl, rfl, rfl⟩

/-- A parent, then a sibling in its domain, which is removed again. -/
theorem registry_actsAsMap_iff_three_calls :
    ∃ start made registry, Registry.Initial start ∧ Run registryStep start made registry ∧
      made.length = 3 ∧ registry.added.length = 1 ∧
      ((∀ t ∈ made, ActsAsMap t.post) ↔ ∀ t ∈ made, t.label.Apart t.pre.node) := by
  let self : Endpoint :=
    { id := 0x10100#64, childrenMask := 8, globalRouter := false, listen := [] }
  let father : Endpoint :=
    { id := 0x10000#64, childrenMask := 16, globalRouter := false, listen := [] }
  let sibling : Endpoint :=
    { id := 0x10200#64, childrenMask := 8, globalRouter := false, listen := [] }
  have step : ∀ (registry : Registry) (change : RegistryCall), change.MaskLe →
      registryStep registry change (registry.call change) := fun _ _ small => ⟨small, rfl⟩
  have small : (8 : Nat) ≤ 30 ∧ (16 : Nat) ≤ 30 := by decide
  have run := ((Run.refl.tail (step (.fresh self) (.add father) small.2)).tail
    (step _ (.add sibling) small.1)).tail (step _ (.remove 0x10200#64) trivial)
  have initial : (Registry.fresh self).Initial := Registry.fresh_initial small.1
  exact ⟨_, _, _, initial, run, rfl, by decide +kernel, registry_actsAsMap_iff initial run⟩

/-- A sibling is added while there is no parent, then a parent whose domain has not that sibling.
    Both are added with success; then `get_endpoint` of the sibling finds nothing, and
    `remove_endpoint` refuses. -/
theorem sibling_lost_to_parent :
    let self : Endpoint :=
  { id := 0x10100#64, childrenMask := 8, globalRouter := false, listen := [] }
    let sibling : Endpoint :=
      { id := 0x20000#64, childrenMask := 8, globalRouter := false, listen := [] }
    let father : Endpoint :=
      { id := 0x10000#64, childrenMask := 16, globalRouter := false, listen := [] }
    ∃ made registry, Run registryStep (.fresh self) made registry ∧
      made.map Transition.label = [.add sibling, .add father] ∧
      registry.added = [sibling, father] ∧
      registry.node.getEndpoint sibling.id = none ∧
      (registry.node.removeEndpoint sibling.id).1 = .atnodeInvalidId ∧
      ¬ActsAsMap registry := by
  intro self sibling father
  have step : ∀ (registry : Registry) (change : RegistryCall), change.MaskLe →
      registryStep registry change (registry.call change) := fun _ _ small => ⟨small, rfl⟩
  have small : (8 : Nat) ≤ 30 ∧ (16 : Nat) ≤ 30 := by decide
  have run :=
    (Run.refl.tail (step (.fresh self) (.add sibling) small.1)).tail (step _ (.add father) small.2)
  have lost : (((Registry.fresh self).call (.add sibling)).call (.add father)).node.getEndpoint
      sibling.id =
      none := by decide +kernel
  have added : (((Registry.fresh self).call (.add sibling)).call (.add father)).added =
      [sibling, father] := by
    decide +kernel
  refine ⟨_, _, run, rfl, added, lost, by decide +kernel, fun acts => ?_⟩
  have found := acts.reachable sibling (added ▸ List.mem_cons_self)
  rw [lost] at found
  cases found

end LibAtbus.Node
