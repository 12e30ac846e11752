/-
Module: LibAtbus.Foundation.DomainTree
Layer: Foundation
Purpose: Rooted trees whose nodes own domains: the domain of a child lies inside that of its parent,
  those of siblings are disjoint, and no node lies in the domain of a child. Then the nodes in a
  domain are exactly the ones below its owner, so where to go next towards a node can be told from
  domains alone. A hop down to the child whose domain has the node, up to the parent, or across to
  the sibling whose domain has the node shortens the way.
Trusted boundary: none
Main exports: DomainTree, DomainTree.below_of_mem, DomainTree.distance, DomainTree.Hop,
  DomainTree.Hop.distance_lt, DomainTree.nodup_of_hops, DomainTree.length_add_distance_le,
  DomainTree.distance_le_dist
-/
import Mathlib.Combinatorics.SimpleGraph.Metric
import Mathlib.Data.Set.Lattice
import Mathlib.Logic.Relation
import Mathlib.Order.CompletePartialOrder

namespace LibAtbus

universe u

/-- A rooted tree with a domain for every node. The rank grows towards the root and is bounded, so
    climbing ends. -/
structure DomainTree (ι : Type u) where
  parent : ι → Option ι
  root : ι
  domain : ι → Set ι
  rank : ι → Nat
  top : Nat
  rank_le : ∀ v, rank v ≤ top
  rank_lt : ∀ {v p}, parent v = some p → rank v < rank p
  parent_eq_none : ∀ {v}, parent v = none → v = root
  self_mem : ∀ v, v ∈ domain v
  nested : ∀ {v p}, parent v = some p → domain v ⊆ domain p
  disjoint : ∀ {v w p}, parent v = some p → parent w = some p → v ≠ w →
    Disjoint (domain v) (domain w)
  own : ∀ {v p}, parent v = some p → p ∉ domain v

namespace DomainTree

variable {ι : Type u} (tree : DomainTree ι)

/-- The first node is the second one or below it. -/
abbrev Below (v a : ι) : Prop :=
  Relation.ReflTransGen (fun child parent => tree.parent child = some parent) v a

variable {tree} {v w p t a : ι}

/-! ### Nodes in a domain -/

/-- Every node is below the root. -/
theorem below_root (v : ι) : tree.Below v tree.root := by
  induction room : tree.top - tree.rank v using Nat.strongRecOn generalizing v with
  | ind room ih =>
      cases above : tree.parent v with
      | none =>
          rw [tree.parent_eq_none above]
      | some p =>
          have higher := tree.rank_lt above
          have bound := tree.rank_le p
          exact .head above (ih (tree.top - tree.rank p) (by omega) p rfl)

/-- Domains grow towards the root. -/
theorem Below.domain_subset (below : tree.Below v a) : tree.domain v ⊆ tree.domain a := by
  induction below with
  | refl => exact subset_rfl
  | tail _ step ih => exact ih.trans (tree.nested step)

/-- A node is in the domains of the nodes above it. -/
theorem Below.mem (below : tree.Below t v) : t ∈ tree.domain v :=
  below.domain_subset (tree.self_mem t)

/-- The nodes in a domain are below its owner, as far as both are below the same node. -/
theorem below_of_common (target : tree.Below t a) (owner : tree.Below v a)
    (member : t ∈ tree.domain v) : tree.Below t v := by
  induction height : tree.rank a using Nat.strongRecOn generalizing a with
  | ind height ih =>
      rcases Relation.ReflTransGen.cases_tail owner with rfl | ⟨c, ownerBelow, ownerStep⟩
      · exact target
      · rcases Relation.ReflTransGen.cases_tail target with rfl | ⟨b, targetBelow, targetStep⟩
        · -- the target would lie in the domain of its own child
          exact absurd (Below.domain_subset ownerBelow member) (tree.own ownerStep)
        · by_cases same : b = c
          · subst same
            exact ih (tree.rank b) (height ▸ tree.rank_lt ownerStep) targetBelow ownerBelow rfl
          · have apart := tree.disjoint targetStep ownerStep same
            exact absurd (Below.domain_subset ownerBelow member)
              (Set.disjoint_left.mp apart (Below.mem targetBelow))

/-- The nodes in a domain are below its owner. -/
theorem below_of_mem (member : t ∈ tree.domain v) : tree.Below t v :=
  below_of_common (below_root t) (below_root v) member

/-- A node in the domain of another one is in that of one of its children. -/
theorem exists_child (member : t ∈ tree.domain v) (other : t ≠ v) :
    ∃ c, tree.parent c = some v ∧ t ∈ tree.domain c := by
  rcases Relation.ReflTransGen.cases_tail (below_of_mem member) with same | ⟨c, below, step⟩
  · exact absurd same.symm other
  · exact ⟨c, step, Below.mem below⟩

/-- There is only one such child. -/
theorem child_unique (first : tree.parent v = some p) (second : tree.parent w = some p)
    (memFirst : t ∈ tree.domain v) (memSecond : t ∈ tree.domain w) : v = w := by
  by_contra other
  exact Set.disjoint_left.mp (tree.disjoint first second other) memFirst memSecond

/-- A node whose domain does not have all nodes has a parent. -/
theorem exists_parent (outside : t ∉ tree.domain v) : ∃ p, tree.parent v = some p := by
  cases above : tree.parent v with
  | some p => exact ⟨p, rfl⟩
  | none =>
      rw [tree.parent_eq_none above] at outside
      exact absurd (Below.mem (below_root t)) outside

/-! ### Distance -/

/-- The number of edges from a node to the target: up until the domain has the target, then down. -/
inductive Distance (tree : DomainTree ι) (t : ι) : ι → Nat → Prop where
  | here : Distance tree t t 0
  | down {v c : ι} {n : Nat} (step : tree.parent c = some v) (member : t ∈ tree.domain c)
      (rest : Distance tree t c n) : Distance tree t v (n + 1)
  | up {v p : ι} {n : Nat} (outside : t ∉ tree.domain v) (step : tree.parent v = some p)
      (rest : Distance tree t p n) : Distance tree t v (n + 1)

theorem Distance.unique {n m : Nat} (first : Distance tree t v n) (second : Distance tree t v m) :
    n = m := by
  induction first generalizing m with
  | here =>
      cases second with
      | here => rfl
      | down step member => exact absurd member (tree.own step)
      | up outside => exact absurd (tree.self_mem t) outside
  | down step member _ ih =>
      cases second with
      | here => exact absurd member (tree.own step)
      | down step' member' rest =>
          obtain rfl := child_unique step step' member member'
          exact congrArg (· + 1) (ih rest)
      | up outside => exact absurd (tree.nested step member) outside
  | up outside step _ ih =>
      cases second with
      | here => exact absurd (tree.self_mem t) outside
      | down step' member => exact absurd (tree.nested step' member) outside
      | up _ step' rest =>
          obtain rfl := Option.some.inj (step.symm.trans step')
          exact congrArg (· + 1) (ih rest)

/-- Every node has a distance. -/
theorem exists_distance (t v : ι) : ∃ n, Distance tree t v n := by
  have below : ∀ {a}, tree.Below t a → ∃ n, Distance tree t a n := by
    intro a below
    induction below with
    | refl => exact ⟨0, .here⟩
    | tail below step ih =>
        obtain ⟨n, rest⟩ := ih
        exact ⟨n + 1, .down step (Below.mem below) rest⟩
  induction room : tree.top - tree.rank v using Nat.strongRecOn generalizing v with
  | ind room ih =>
      by_cases member : t ∈ tree.domain v
      · exact below (below_of_mem member)
      · obtain ⟨p, step⟩ := exists_parent member
        have higher := tree.rank_lt step
        have bound := tree.rank_le p
        obtain ⟨n, rest⟩ := ih (tree.top - tree.rank p) (by omega) p rfl
        exact ⟨n + 1, .up member step rest⟩

/-- The distance of a node to the target. -/
noncomputable def distance (tree : DomainTree ι) (t v : ι) : Nat :=
  (exists_distance t v : ∃ n, Distance tree t v n).choose

theorem distance_spec (tree : DomainTree ι) (t v : ι) : Distance tree t v (tree.distance t v) :=
  (exists_distance t v).choose_spec

theorem Distance.eq {n : Nat} (far : Distance tree t v n) : tree.distance t v = n :=
  (tree.distance_spec t v).unique far

/-- Only the target is at distance zero. -/
theorem eq_of_distance_eq_zero (near : tree.distance t v = 0) : v = t := by
  have far := tree.distance_spec t v
  rw [near] at far
  cases far with
  | here => rfl

/-! ### Hops -/

/-- A hop towards the target: down to the child whose domain has it, up from a domain that does not
    have it, or from there across to the sibling whose domain does. -/
inductive Hop (tree : DomainTree ι) (t : ι) : ι → ι → Prop where
  | down {v c : ι} (step : tree.parent c = some v) (member : t ∈ tree.domain c) : Hop tree t v c
  | up {v p : ι} (outside : t ∉ tree.domain v) (step : tree.parent v = some p) : Hop tree t v p
  | across {v w p : ι} (outside : t ∉ tree.domain v) (step : tree.parent v = some p)
      (sibling : tree.parent w = some p) (member : t ∈ tree.domain w) : Hop tree t v w

/-- From a domain that has the target, a hop leads to one that does. -/
theorem Hop.mem_of_mem (hop : Hop tree t v w) (member : t ∈ tree.domain v) : t ∈ tree.domain w := by
  cases hop with
  | down step below => exact below
  | up outside step => exact absurd member outside
  | across outside step sibling below => exact below

/-- A hop shortens the way. -/
theorem Hop.distance_lt (hop : Hop tree t v w) : tree.distance t w < tree.distance t v := by
  have near := tree.distance_spec t w
  cases hop with
  | down step member =>
      rw [(Distance.down step member near).eq]
      exact Nat.lt_succ_self _
  | up outside step =>
      rw [(Distance.up outside step near).eq]
      exact Nat.lt_succ_self _
  | across outside step sibling member =>
      rw [(Distance.up outside step (.down sibling member near)).eq]
      exact Nat.lt_succ_of_lt (Nat.lt_succ_self _)

/-- Hops towards the target never come back to a node. -/
theorem nodup_of_hops {path : List ι} (hops : path.IsChain (Hop tree t)) : path.Nodup := by
  let Nearer : ι → ι → Prop := fun v w => tree.distance t w < tree.distance t v
  have transitive : Trans Nearer Nearer Nearer := ⟨fun first second => lt_trans second first⟩
  have nearer : path.IsChain Nearer := hops.imp fun _ _ hop => hop.distance_lt
  refine nearer.pairwise.imp ?_
  intro v w shorter same
  subst same
  exact lt_irrefl _ shorter

/-- The way left after some hops. -/
theorem length_add_distance_le {path : List ι} (hops : (v :: path).IsChain (Hop tree t)) :
    path.length + tree.distance t ((v :: path).getLast (List.cons_ne_nil _ _)) ≤
      tree.distance t v := by
  induction path generalizing v with
  | nil => simp
  | cons w path ih =>
      obtain ⟨hop, rest⟩ := List.isChain_cons_cons.mp hops
      have shorter := hop.distance_lt
      have left := ih rest
      rw [List.getLast_cons (List.cons_ne_nil _ _), List.length_cons]
      omega

/-! ### The graph of the tree -/

/-- The edges between a node and its parent. -/
def graph (tree : DomainTree ι) : SimpleGraph ι where
  Adj v w := tree.parent v = some w ∨ tree.parent w = some v
  symm := by
    constructor
    intro v w edge
    exact edge.symm
  loopless := by
    constructor
    intro v edge
    rcases edge with step | step
    · exact absurd (tree.rank_lt step) (lt_irrefl _)
    · exact absurd (tree.rank_lt step) (lt_irrefl _)

/-- An edge changes the distance by one. -/
theorem distance_le_of_adj (edge : tree.graph.Adj v w) :
    tree.distance t v ≤ tree.distance t w + 1 := by
  have near := tree.distance_spec t v
  have near' := tree.distance_spec t w
  rcases edge with step | step
  · by_cases member : t ∈ tree.domain v
    · have length := (Distance.down step member near).eq
      omega
    · have length := (Distance.up member step near').eq
      omega
  · by_cases member : t ∈ tree.domain w
    · have length := (Distance.down step member near').eq
      omega
    · have length := (Distance.up member step near).eq
      omega

/-- No walk is shorter than the distance. -/
theorem distance_le_length (walk : tree.graph.Walk v t) : tree.distance t v ≤ walk.length := by
  induction walk with
  | nil => exact le_of_eq Distance.here.eq
  | cons edge walk ih =>
      rw [SimpleGraph.Walk.length_cons]
      exact (distance_le_of_adj edge).trans (Nat.succ_le_succ ih)

theorem Distance.reachable {n : Nat} (far : Distance tree t v n) : tree.graph.Reachable v t := by
  induction far with
  | here => exact .refl _
  | down step _ _ ih => exact (SimpleGraph.Adj.reachable (Or.inr step)).trans ih
  | up _ step _ ih => exact (SimpleGraph.Adj.reachable (Or.inl step)).trans ih

/-- The distance is no more than the number of edges of the path between the nodes. -/
theorem distance_le_dist (tree : DomainTree ι) (t v : ι) :
    tree.distance t v ≤ tree.graph.dist v t := by
  obtain ⟨walk, length⟩ := (tree.distance_spec t v).reachable.exists_walk_length_eq_dist
  rw [← length]
  exact distance_le_length walk

end DomainTree

end LibAtbus
