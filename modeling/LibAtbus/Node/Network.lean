/-
Module: LibAtbus.Node.Network
Layer: Node
Purpose: Networks of nodes, and networks in which the tables of the nodes are those of a tree: the
  domain of a child lies in that of its parent without the id of the parent, siblings have disjoint
  domains, and every node knows its parent, its children and some of its siblings. Such a network is
  a tree of domains.
Trusted boundary: human-reviewed spec
Main exports: Network, Network.hops, TreeNetwork, TreeNetwork.tree, TreeNetwork.sample
-/
import LibAtbus.Foundation.DomainTree
import LibAtbus.Node.Routing

namespace LibAtbus.Node

universe u

/-- Nodes with distinct ids; a connection to an endpoint leads to the node that has its id. -/
structure Network (ι : Type u) where
  node : ι → BusNode
  locate : BusId → Option ι
  locate_id : ∀ v, locate (node v).id = some v
  id_of_locate : ∀ {id v}, locate id = some v → (node v).id = id

namespace Network

variable {ι : Type u} (net : Network ι)

/-- The id of a node. -/
abbrev id (v : ι) : BusId := (net.node v).id

/-- The endpoint stands for the node. -/
def Represents (endpoint : Endpoint) (v : ι) : Prop :=
  endpoint.id = net.id v ∧ endpoint.childrenMask = (net.node v).self.childrenMask

/-- The id is in the domain of the node. -/
def Owns (v : ι) (id : BusId) : Prop := SameDomain (net.node v).self.childrenMask id (net.id v)

instance (endpoint : Endpoint) (v : ι) : Decidable (net.Represents endpoint v) :=
  inferInstanceAs (Decidable (_ ∧ _))

instance (v : ι) (id : BusId) : Decidable (net.Owns v id) :=
  inferInstanceAs (Decidable (SameDomain _ _ _))

/-- The node that gets what a node sends towards an id with `send_msg`, and what it gets. -/
def nextHop (link : ι → Link) (tid : BusId) (v : ι) (m : Msg) : Option (ι × Msg) :=
  match (sendMsg (net.node v) (link v) tid m).sent with
  | none => none
  | some (target, marked) => (net.locate target.id).map fun next => (next, marked)

/-- The nodes a message visits within some hops towards an id; a message that is not sent on before
    it is there has no such path. -/
def hops (link : ι → Link) (tid : BusId) : Nat → ι → Msg → Option (List ι)
  | 0, v, _ => some [v]
  | room + 1, v, m =>
      if net.id v = tid then some [v]
      else
        match net.nextHop link tid v m with
        | none => none
        | some (next, marked) => (hops link tid room next marked).map fun path => v :: path

variable {net} {v w : ι}

theorem id_injective (same : net.id v = net.id w) : v = w := by
  have located : net.locate (net.id v) = some v := net.locate_id v
  rw [same, net.locate_id w] at located
  exact (Option.some.inj located).symm

theorem locate_of_represents {endpoint : Endpoint} (stands : net.Represents endpoint v) :
    net.locate endpoint.id = some v := by
  rw [stands.1, net.locate_id]

theorem Owns.self (v : ι) : net.Owns v (net.id v) := rfl

/-- A domain lies in another one that is not smaller and has the id of its owner. -/
theorem owns_of_owns (narrower : (net.node v).self.childrenMask ≤ (net.node w).self.childrenMask)
    (inside : net.Owns w (net.id v)) (x : BusId) (owned : net.Owns v x) : net.Owns w x :=
  (owned.mono narrower).trans inside

/-- Domains are disjoint when not even the larger mask joins their owners. -/
theorem not_owns_both (apart :
    ¬SameDomain (max (net.node v).self.childrenMask (net.node w).self.childrenMask)
    (net.id v) (net.id w)) (x : BusId) : ¬(net.Owns v x ∧ net.Owns w x) := by
  rintro ⟨inFirst, inSecond⟩
  apply apart
  exact (inFirst.mono (le_max_left _ _)).symm.trans (inSecond.mono (le_max_right _ _))

end Network

/-- A network configured as a tree. -/
structure TreeNetwork (ι : Type u) extends Network ι where
  parent : ι → Option ι
  root : ι
  parent_eq_none : ∀ {v}, parent v = none → v = root
  mask_le : ∀ v, (node v).self.childrenMask ≤ 30
  nested : ∀ {v p}, parent v = some p → ∀ x, toNetwork.Owns v x → toNetwork.Owns p x
  disjoint : ∀ {v w p}, parent v = some p → parent w = some p → v ≠ w →
    ∀ x, ¬(toNetwork.Owns v x ∧ toNetwork.Owns w x)
  own : ∀ {v p}, parent v = some p → ¬toNetwork.Owns v (toNetwork.id p)
  no_global : ∀ v, (node v).self.globalRouter = false
  no_father : ∀ {v}, parent v = none → (node v).father = none
  father : ∀ {v p}, parent v = some p → ∃ e, (node v).father = some e ∧ toNetwork.Represents e p
  child : ∀ {v c}, parent c = some v → ∃ e ∈ (node v).children.endpoints, toNetwork.Represents e c
  children : ∀ {v}, ∀ e ∈ (node v).children.endpoints, ∃ c, parent c = some v ∧
    toNetwork.Represents e c
  brother : ∀ {v}, ∀ e ∈ (node v).brother.endpoints,
    ∃ w p, parent v = some p ∧ parent w = some p ∧ v ≠ w ∧ toNetwork.Represents e w

namespace TreeNetwork

variable {ι : Type u} (net : TreeNetwork ι)

/-- A child has a smaller mask than its parent, which is in the larger of the two domains only. -/
theorem mask_lt {v p : ι} (step : net.parent v = some p) :
    (net.node v).self.childrenMask < (net.node p).self.childrenMask := by
  by_contra wide
  have inside : net.Owns p (net.id v) := net.nested step _ (Network.Owns.self v)
  apply net.own step
  exact (SameDomain.mono inside (Nat.not_lt.mp wide)).symm

/-- The nodes of the network, with the nodes in their domains. -/
def tree : DomainTree ι where
  parent := net.parent
  root := net.root
  domain v := {w | net.Owns v (net.id w)}
  rank v := (net.node v).self.childrenMask
  top := 30
  rank_le := net.mask_le
  rank_lt := net.mask_lt
  parent_eq_none := net.parent_eq_none
  self_mem := Network.Owns.self
  nested step w := net.nested step (net.id w)
  disjoint first second other :=
    Set.disjoint_left.mpr fun w inFirst inSecond =>
      net.disjoint first second other (net.id w) ⟨inFirst, inSecond⟩
  own := net.own

/-! ### A small tree -/

namespace Sample

/-- A root `0x10000`, its children `0x10100` and `0x10200`, and `0x10110` below the first of
    them. -/
def endpoint : Fin 4 → Endpoint
  | 0 => { id := 0x10000#64, childrenMask := 16, globalRouter := false, listen := [] }
  | 1 => { id := 0x10100#64, childrenMask := 8, globalRouter := false, listen := [] }
  | 2 => { id := 0x10200#64, childrenMask := 8, globalRouter := false, listen := [] }
  | 3 => { id := 0x10110#64, childrenMask := 4, globalRouter := false, listen := [] }

def parent : Fin 4 → Option (Fin 4)
  | 0 => none
  | 1 => some 0
  | 2 => some 0
  | 3 => some 1

/-- The children of a node, in the order of the greatest ids of their domains. -/
def children : Fin 4 → EndpointCollection
  | 0 => ⟨⟨[(0x101ff#64, endpoint 1), (0x102ff#64, endpoint 2)], by decide⟩, by decide⟩
  | 1 => ⟨⟨[(0x1011f#64, endpoint 3)], by decide⟩, by decide⟩
  | _ => ⟨⟨[], .nil⟩, by decide⟩

def node (ttl : Int) (v : Fin 4) : BusNode where
  self := endpoint v
  father := (parent v).map endpoint
  brother := ⟨⟨[], .nil⟩, by decide⟩
  children := children v
  ttl := ttl
  msgSize := 65536

end Sample

/-- The small tree, with no sibling connected directly. -/
def sample (ttl : Int) : TreeNetwork (Fin 4) where
  node := Sample.node ttl
  locate id := (List.finRange 4).find? fun v => (Sample.endpoint v).id == id
  locate_id := by
    have located : ∀ v,
        ((List.finRange 4).find? fun w => (Sample.endpoint w).id == (Sample.endpoint v).id) =
        some v := by decide
    exact located
  id_of_locate := by
    intro id v found
    have same := List.find?_some found
    exact beq_iff_eq.mp same
  parent := Sample.parent
  root := 0
  parent_eq_none := by decide
  mask_le := by
    have small : ∀ v, (Sample.endpoint v).childrenMask ≤ 30 := by decide
    exact small
  nested step := by
    have inside : ∀ v p, Sample.parent v = some p →
        (Sample.endpoint v).childrenMask ≤ (Sample.endpoint p).childrenMask ∧
          SameDomain (Sample.endpoint p).childrenMask (Sample.endpoint v).id
            (Sample.endpoint p).id := by
      decide
    exact Network.owns_of_owns (inside _ _ step).1 (inside _ _ step).2
  disjoint first second other := by
    have apart : ∀ v w p, Sample.parent v = some p → Sample.parent w = some p → v ≠ w →
        ¬SameDomain (max (Sample.endpoint v).childrenMask (Sample.endpoint w).childrenMask)
          (Sample.endpoint v).id (Sample.endpoint w).id := by
      decide
    exact Network.not_owns_both (apart _ _ _ first second other)
  own step := by
    have outside : ∀ v p, Sample.parent v = some p →
        ¬SameDomain (Sample.endpoint v).childrenMask (Sample.endpoint p).id
          (Sample.endpoint v).id := by
      decide
    exact outside _ _ step
  no_global := by
    have limited : ∀ v, (Sample.endpoint v).globalRouter = false := by decide
    exact limited
  no_father above := congrArg (Option.map Sample.endpoint) above
  father step := ⟨_, congrArg (Option.map Sample.endpoint) step, rfl, rfl⟩
  child step := by
    have stored : ∀ v c, Sample.parent c = some v →
        Sample.endpoint c ∈ (Sample.children v).endpoints := by decide
    exact ⟨_, stored _ _ step, rfl, rfl⟩
  children e member := by
    have known : ∀ v, ∀ e ∈ (Sample.children v).endpoints,
        ∃ c, Sample.parent c = some v ∧ e = Sample.endpoint c := by decide
    obtain ⟨c, step, rfl⟩ := known _ e member
    exact ⟨c, step, rfl, rfl⟩
  brother e member := nomatch member

end TreeNetwork

end LibAtbus.Node
