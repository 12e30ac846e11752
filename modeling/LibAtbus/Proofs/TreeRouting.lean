/-
Module: LibAtbus.Proofs.TreeRouting
Layer: Proofs
Purpose: In a network configured as a tree, `send_msg` hands a message for another node to the
  parent, to the sibling or to the child on whose side that node is, so the way gets shorter with
  every hop.
Trusted boundary: none
Main exports: TreeNetwork.target_hop, TreeNetwork.hops_spec, treeRouting_delivers
-/
import LibAtbus.Node.Network

namespace LibAtbus.Node

universe u

namespace TreeNetwork

variable {ι : Type u} {net : TreeNetwork ι} {v w t p : ι} {e : Endpoint} {x : BusId}

/-! ### The domains of nodes and endpoints -/

theorem isChildNode_iff_owns : (net.node v).isChildNode x = true ↔ net.Owns v x :=
  Endpoint.isChildNode_iff (net.mask_le v)

theorem mask_le_of_represents (stands : net.Represents e w) : e.childrenMask ≤ 30 := by
  rw [stands.2]
  exact net.mask_le w

/-- An endpoint has the domain of the node it stands for. -/
theorem isChildNode_of_represents (stands : net.Represents e w) :
    e.isChildNode x = true ↔ net.Owns w x := by
  rw [Endpoint.isChildNode_iff (mask_le_of_represents stands), stands.1, stands.2, Network.Owns]

/-- The parent is recognised by its id. -/
theorem isParentNode_iff : (net.node v).isParentNode (net.id t) = true ↔ net.parent v = some t := by
  rw [BusNode.isParentNode]
  cases above : net.parent v with
  | none =>
      rw [net.no_father above]
      simp
  | some p =>
      obtain ⟨father, known, stands⟩ := net.father above
      simp only [known, Node.isParentNode, beq_iff_eq, stands.1, Option.some.injEq]
      constructor
      · intro same
        exact (Network.id_injective same).symm
      · intro same
        rw [same]

/-- What may be a sibling is outside the own domain. -/
theorem not_owns_of_isBrotherNode (brother : (net.node v).isBrotherNode x = true) :
    ¬net.Owns v x := by
  rw [BusNode.isBrotherNode] at brother
  cases above : net.parent v with
  | none =>
      rw [net.no_father above] at brother
      exact ((Endpoint.isBrotherNode_iff (net.mask_le v) (Nat.zero_le _)).mp brother).1
  | some p =>
      obtain ⟨father, known, stands⟩ := net.father above
      rw [known] at brother
      exact ((Endpoint.isBrotherNode_iff (net.mask_le v) (mask_le_of_represents stands)).mp
        brother).1

/-! ### The nodes in the tables -/

/-- The endpoints of the tables stand for other nodes. -/
theorem exists_represented (stored : e ∈ (net.node v).endpoints) :
    ∃ w, net.Represents e w ∧ w ≠ v := by
  have notParent : ∀ {w p : ι}, net.parent w = some p → w ≠ p := by
    intro w p step same
    have smaller := net.mask_lt step
    rw [same] at smaller
    exact lt_irrefl _ smaller
  rw [BusNode.endpoints, List.mem_append, List.mem_append] at stored
  rcases stored with (father | brother) | child
  · cases step : net.parent v with
    | none =>
        rw [net.no_father step] at father
        exact absurd father List.not_mem_nil
    | some p =>
        obtain ⟨e', known, stands⟩ := net.father step
        rw [known] at father
        obtain rfl := List.mem_singleton.mp father
        exact ⟨p, stands, (notParent step).symm⟩
  · obtain ⟨w, p, -, -, other, stands⟩ := net.brother e brother
    exact ⟨w, stands, other.symm⟩
  · obtain ⟨c, step, stands⟩ := net.children e child
    exact ⟨c, stands, notParent step⟩

/-- The parent of a node is another node. -/
theorem father_apart : ∀ father, (net.node v).father = some father → father.id ≠ net.id v := by
  intro father known same
  have stored : father ∈ (net.node v).endpoints := by simp [BusNode.endpoints, known]
  obtain ⟨w, stands, other⟩ := exists_represented stored
  exact other (Network.id_injective (stands.1.symm.trans same))

/-- A node whose domain does not have all ids has a parent. -/
theorem exists_parent (outside : ¬net.Owns v (net.id t)) : ∃ p, net.parent v = some p := by
  have apart : t ∉ net.tree.domain v := outside
  exact DomainTree.exists_parent apart

/-! ### The next hop -/

/-- `find_child` finds the child on whose side an id is. -/
theorem findChild_child {c : ι} (step : net.parent c = some v) (inside : net.Owns c x) :
    ∃ e, (net.node v).children.findChild x = some e ∧ e ∈ (net.node v).children.endpoints ∧
      net.Represents e c := by
  obtain ⟨e, member, stands⟩ := net.child step
  refine ⟨e, ?_, member, stands⟩
  apply EndpointCollection.findChild_of_mem member
  · intro other member'
    obtain ⟨c', -, stands'⟩ := net.children other member'
    exact mask_le_of_represents stands'
  · intro other member' y owned' owned
    obtain ⟨c', step', stands'⟩ := net.children other member'
    by_cases same : c = c'
    · subst same
      exact ⟨stands'.1.trans stands.1.symm, stands'.2.trans stands.2.symm⟩
    · have both := And.intro ((isChildNode_of_represents stands).mp owned)
        ((isChildNode_of_represents stands').mp owned')
      exact absurd both (net.disjoint step step' same y)
  · exact (isChildNode_of_represents stands).mpr inside

/-- Towards a node in the own domain: the child that is above it. -/
theorem target_down (inside : net.Owns v (net.id t)) (other : t ≠ v) :
    ∃ e c, (net.node v).target (net.id t) = .ok e ∧ e ∈ (net.node v).endpoints ∧
      net.Represents e c ∧ net.tree.Hop t v c := by
  have below : t ∈ net.tree.domain v := inside
  obtain ⟨c, step, member⟩ := DomainTree.exists_child below other
  obtain ⟨e, found, stored, stands⟩ := findChild_child step member
  refine ⟨e, c, ?_, ?_, stands, .down step member⟩
  · have notParent : (net.node v).isParentNode (net.id t) = false := by
      refine Bool.eq_false_iff.mpr fun parent => ?_
      exact net.own (isParentNode_iff.mp parent) inside
    have notBrother : (net.node v).isBrotherNode (net.id t) = false := by
      refine Bool.eq_false_iff.mpr fun brother => ?_
      exact not_owns_of_isBrotherNode brother inside
    have child : (net.node v).isChildNode (net.id t) = true := isChildNode_iff_owns.mpr inside
    rw [BusNode.target_of_not_parent notParent]
    simp [notBrother, child, found]
  · simp [BusNode.endpoints, stored]

/-- Towards a node outside the own domain: the parent, or the sibling that is above it. -/
theorem target_up (outside : ¬net.Owns v (net.id t)) :
    ∃ e w, (net.node v).target (net.id t) = .ok e ∧ e ∈ (net.node v).endpoints ∧
      net.Represents e w ∧ net.tree.Hop t v w := by
  obtain ⟨p, step⟩ := exists_parent outside
  obtain ⟨father, known, stands⟩ := net.father step
  have upward : (net.node v).upward = some father := by
    rw [BusNode.upward, net.no_global, known]
    rfl
  have toFather : (net.node v).target (net.id t) = .ok father →
      ∃ e w, (net.node v).target (net.id t) = .ok e ∧ e ∈ (net.node v).endpoints ∧
        net.Represents e w ∧ net.tree.Hop t v w := by
    intro picked
    exact ⟨father, p, picked, by simp [BusNode.endpoints, known], stands, .up outside step⟩
  cases parent : (net.node v).isParentNode (net.id t) with
  | true =>
      exact toFather (BusNode.target_of_parent known parent)
  | false =>
      have picked := BusNode.target_of_not_parent parent
      cases brother : (net.node v).isBrotherNode (net.id t) with
      | false =>
          have notChild : (net.node v).isChildNode (net.id t) = false :=
            Bool.eq_false_iff.mpr fun child => outside (isChildNode_iff_owns.mp child)
          exact toFather (by simp [picked, brother, notChild, upward])
      | true =>
          cases found : (net.node v).brother.findChild (net.id t) with
          | none =>
              exact toFather (by simp [picked, brother, found, upward])
          | some e =>
              obtain ⟨member, below⟩ := EndpointCollection.findChild_some found
              obtain ⟨w, p', step', sibling, -, standsFor⟩ := net.brother e member
              have inside : net.Owns w (net.id t) := (isChildNode_of_represents standsFor).mp below
              refine ⟨e, w, ?_, ?_, standsFor, .across outside step' sibling inside⟩
              · simp [picked, brother, found]
              · simp [BusNode.endpoints, member]

/-- The endpoint `send_msg` picks towards another node is a hop towards it. -/
theorem target_hop (other : t ≠ v) :
    ∃ e w, (net.node v).target (net.id t) = .ok e ∧ e ∈ (net.node v).endpoints ∧
      net.Represents e w ∧ net.tree.Hop t v w := by
  by_cases inside : net.Owns v (net.id t)
  · exact target_down inside other
  · exact target_up inside

/-! ### Whole ways -/

variable {link : ι → Link}

/-- A message as the nodes it was sent on by have marked it. -/
def carried (net : TreeNetwork ι) (m : Msg) (via : List ι) : Msg :=
  via.foldl (fun m v => m.stamp (net.id v)) m

/-- Every endpoint of the tables has a connection that takes the message, as it comes there over
    nodes that are visited once. -/
def Usable (net : TreeNetwork ι) (link : ι → Link) (m : Msg) : Prop :=
  ∀ via v, (via ++ [v]).Nodup →
    ∀ e ∈ (net.node v).endpoints, (link v).Accepts e (net.carried m (via ++ [v]))

/-- A message for another node gets one hop nearer. -/
theorem nextHop_hop (other : t ≠ v) {m : Msg}
    (usable : ∀ e ∈ (net.node v).endpoints, (link v).Accepts e (m.stamp (net.id v))) :
    ∃ w, net.nextHop link (net.id t) v m = some (w, m.stamp (net.id v)) ∧ net.tree.Hop t v w := by
  obtain ⟨e, w, picked, stored, stands, hop⟩ := target_hop other
  have otherId : net.id t ≠ net.id v := fun same => other (Network.id_injective same)
  refine ⟨w, ?_, hop⟩
  rw [Network.nextHop, sendMsg_of_accepts otherId picked (usable e stored)]
  simp only [Network.locate_of_represents stands, Option.map_some]

/-- The nodes a message visits are hops towards its target, and end there unless there is no room
    left. -/
theorem hops_spec {m : Msg} (usable : net.Usable link m) (room : Nat) (via : List ι) (v : ι)
    (come : (via ++ [v]).IsChain (net.tree.Hop t)) :
    ∃ path, net.hops link (net.id t) room v (net.carried m via) = some (v :: path) ∧
      (v :: path).IsChain (net.tree.Hop t) ∧
      ((v :: path).getLast (List.cons_ne_nil _ _) = t ∨ path.length = room) := by
  induction room generalizing via v with
  | zero => exact ⟨[], rfl, .singleton _, .inr rfl⟩
  | succ room ih =>
      by_cases there : t = v
      · subst there
        exact ⟨[], by simp [Network.hops], .singleton _, .inl rfl⟩
      · have marked : net.carried m (via ++ [v]) = (net.carried m via).stamp (net.id v) := by
          simp [carried]
        have accepts := usable via v (DomainTree.nodup_of_hops come)
        rw [marked] at accepts
        obtain ⟨w, taken, hop⟩ := nextHop_hop there accepts
        have goes : ((via ++ [v]) ++ [w]).IsChain (net.tree.Hop t) := by
          refine come.append (.singleton w) fun last isLast next isNext => ?_
          rw [List.getLast?_concat, Option.mem_some_iff] at isLast
          rw [List.head?_cons, Option.mem_some_iff] at isNext
          exact isLast ▸ isNext ▸ hop
        obtain ⟨path, rest, chain, ends⟩ := ih (via ++ [v]) w goes
        rw [marked] at rest
        have otherId : net.id v ≠ net.id t := fun same => there (Network.id_injective same).symm
        refine ⟨w :: path, ?_, List.isChain_cons_cons.mpr ⟨hop, chain⟩, ?_⟩
        · simp [Network.hops, otherId, taken, rest]
        · rcases ends with arrived | full
          · left
            rw [List.getLast_cons (List.cons_ne_nil _ _), arrived]
          · right
            rw [List.length_cons, full]

end TreeNetwork

/-- Tree routing delivers: however many hops are taken from one node towards another one with
    `send_msg`, no node refuses the message and none is visited twice; it visits no more nodes than
    the path in the tree has, and after as many hops as that path has edges it is there. -/
theorem treeRouting_delivers {ι : Type u} (net : TreeNetwork ι) (link : ι → Link)
    (m : Msg) (usable : net.Usable link m) (src dst : ι) (room : Nat) :
    ∃ path, net.hops link (net.id dst) room src m = some path ∧ path.head? = some src ∧ path.Nodup ∧
      path.length ≤ net.tree.graph.dist src dst + 1 ∧
      (net.tree.graph.dist src dst ≤ room → path.getLast? = some dst) := by
  obtain ⟨path, visited, chain, ends⟩ :=
    TreeNetwork.hops_spec (t := dst) usable room [] src (.singleton src)
  have length := DomainTree.length_add_distance_le chain
  have bound := DomainTree.distance_le_dist net.tree dst src
  refine ⟨src :: path, visited, rfl, DomainTree.nodup_of_hops chain, ?_, ?_⟩
  · rw [List.length_cons]
    omega
  · intro enough
    rw [List.getLast?_eq_getLast_of_ne_nil (List.cons_ne_nil _ _)]
    rcases ends with arrived | full
    · rw [arrived]
    · have none_left : net.tree.distance dst ((src :: path).getLast (List.cons_ne_nil _ _)) =
          0 := by omega
      rw [DomainTree.eq_of_distance_eq_zero none_left]

/-- From a grandchild of the root over its parent and the root to the other child of the root. -/
theorem treeRouting_delivers_over_root :
    ∃ path, (TreeNetwork.sample 16).hops (fun _ _ => some fun _ => .success) 0x10200#64 3 3
        ⟨⟨.dataTransformReq, 0, 0, 1, 0x10110#64⟩, {}⟩ = some path ∧
      path.head? = some 3 ∧ path.Nodup ∧
      path.length ≤ (TreeNetwork.sample 16).tree.graph.dist 3 2 + 1 ∧
      ((TreeNetwork.sample 16).tree.graph.dist 3 2 ≤ 3 → path.getLast? = some 2) :=
  treeRouting_delivers (TreeNetwork.sample 16) _ _ (fun _ _ _ _ _ => ⟨_, rfl, rfl⟩) 3 2 3

example :
    (TreeNetwork.sample 16).hops (fun _ _ => some fun _ => .success) 0x10200#64 3 3
      ⟨⟨.dataTransformReq, 0, 0, 1, 0x10110#64⟩, {}⟩ = some [3, 1, 0, 2] := by
  decide

end LibAtbus.Node
