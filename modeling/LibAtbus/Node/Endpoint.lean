/-
Module: LibAtbus.Node.Endpoint
Layer: Node
Purpose: The identifiers of bus nodes and the domains they own, from `src/atbus_endpoint.cpp`, and
  the endpoint collections of a node with the lookup of `node::find_child`. A children mask of `m`
  gives a node the ids that agree with its own above the low `m` bits; the masks are built from a
  shifted `int`, as in the source, and are the expected ones up to 30.
Trusted boundary: human-reviewed spec
Main exports: Endpoint, Endpoint.isChildNode, Endpoint.isBrotherNode, EndpointCollection,
  EndpointCollection.findChild, Endpoint.isChildNode_iff, Endpoint.isBrotherNode_iff,
  EndpointCollection.findChild_some, EndpointCollection.findChild_of_mem
-/
import LibAtbus.Foundation.OrderedMap
import LibAtbus.Node.Protocol
import Mathlib.Data.Nat.Bitwise

namespace LibAtbus.Node

instance : LinearOrder BusId where
  le_refl := BitVec.le_refl
  le_trans _ _ _ := BitVec.le_trans
  le_antisymm _ _ := BitVec.le_antisymm
  le_total := BitVec.le_total
  lt_iff_le_not_ge _ _ := by
    rw [BitVec.not_le]
    exact ⟨fun below => ⟨BitVec.le_of_lt below, below⟩, fun both => both.2⟩
  toDecidableLE := inferInstance
  toDecidableLT := inferInstance
  toDecidableEq := inferInstance
  min_def _ _ := rfl
  max_def _ _ := rfl

/-! ### Domains -/

/-- `(1 << mask) - 1`, an `int` widened to `bus_id_t`. -/
def lowBits (mask : Nat) : BusId := ((1#32 <<< mask) - 1#32).signExtend 64

/-- `~((1 << mask) - 1)`, complemented before it is widened. -/
def highBits (mask : Nat) : BusId := (~~~((1#32 <<< mask) - 1#32)).signExtend 64

/-- `get_children_min_id`, whose `maskv` is already a `bus_id_t` when it is complemented. -/
def childrenMinId (id : BusId) (mask : Nat) : BusId := id &&& ~~~lowBits mask

/-- `get_children_max_id`. -/
def childrenMaxId (id : BusId) (mask : Nat) : BusId := id ||| lowBits mask

/-- `endpoint`, as routing and registration see it: its id and children mask, whether the
    `GLOBAL_ROUTER` flag is set, the addresses it listens on, and the process and host it registered
    from. -/
structure Endpoint where
  id : BusId
  childrenMask : Nat
  globalRouter : Bool
  listen : List String
  pid : BitVec 32 := 0#32
  hostname : String := ""
deriving DecidableEq, Repr

/-- `endpoint::is_child_node`. -/
def Endpoint.isChildNode (endpoint : Endpoint) (id : BusId) : Bool :=
  id &&& highBits endpoint.childrenMask == endpoint.id &&& highBits endpoint.childrenMask

/-- `endpoint::is_brother_node`. -/
def Endpoint.isBrotherNode (endpoint : Endpoint) (id : BusId) (fatherMask : Nat) : Bool :=
  id &&& highBits endpoint.childrenMask != endpoint.id &&& highBits endpoint.childrenMask &&
    (fatherMask == 0 || id &&& highBits fatherMask == endpoint.id &&& highBits fatherMask)

/-- `endpoint::is_parent_node`. -/
def isParentNode (id fatherId : BusId) : Bool := id == fatherId

/-- The two ids agree above the low bits of the mask. -/
def SameDomain (mask : Nat) (x y : BusId) : Prop := x.toNat / 2 ^ mask = y.toNat / 2 ^ mask

instance (mask : Nat) (x y : BusId) : Decidable (SameDomain mask x y) :=
  inferInstanceAs (Decidable (_ = _))

/-- A larger mask makes a larger domain. -/
theorem SameDomain.mono {low high : Nat} {x y : BusId} (same : SameDomain low x y)
    (wider : low ≤ high) : SameDomain high x y := by
  obtain ⟨extra, rfl⟩ := Nat.exists_eq_add_of_le wider
  rw [SameDomain] at same ⊢
  rw [Nat.pow_add, ← Nat.div_div_eq_div_mul, ← Nat.div_div_eq_div_mul, same]

theorem highBits_getLsbD {mask i : Nat} (small : mask ≤ 30) (inside : i < 64) :
    (highBits mask).getLsbD i = decide (mask ≤ i) := by
  have checked : ∀ mask ≤ 30, ∀ i < 64, (highBits mask).getLsbD i = decide (mask ≤ i) := by
    decide +kernel
  exact checked mask small i inside

theorem lowBits_toNat {mask : Nat} (small : mask ≤ 30) : (lowBits mask).toNat = 2 ^ mask - 1 := by
  have checked : ∀ mask ≤ 30, (lowBits mask).toNat = 2 ^ mask - 1 := by decide +kernel
  exact checked mask small

/-- Masking compares the bits above the low ones. -/
theorem and_highBits_eq_iff {mask : Nat} (small : mask ≤ 30) (x y : BusId) :
    x &&& highBits mask = y &&& highBits mask ↔ SameDomain mask x y := by
  constructor
  · intro same
    apply Nat.eq_of_testBit_eq
    intro i
    rw [Nat.testBit_div_two_pow, Nat.testBit_div_two_pow]
    by_cases inside : i + mask < 64
    · have bit := congrArg (fun word => word.getLsbD (i + mask)) same
      simp only [BitVec.getLsbD_and, highBits_getLsbD small inside, Nat.le_add_left, decide_true,
        Bool.and_true] at bit
      exact bit
    · have low := BitVec.getLsbD_of_ge x (i + mask) (Nat.not_lt.mp inside)
      have low' := BitVec.getLsbD_of_ge y (i + mask) (Nat.not_lt.mp inside)
      exact low.trans low'.symm
  · intro same
    apply BitVec.eq_of_getLsbD_eq
    intro i inside
    rw [BitVec.getLsbD_and, BitVec.getLsbD_and, highBits_getLsbD small inside]
    by_cases above : mask ≤ i
    · have bit := congrArg (fun value => value.testBit (i - mask)) same
      simp only [Nat.testBit_div_two_pow, Nat.sub_add_cancel above] at bit
      have bit' : x.getLsbD i = y.getLsbD i := bit
      rw [bit']
    · simp [above]

/-- The least id of a domain. -/
theorem childrenMinId_toNat {mask : Nat} (small : mask ≤ 30) (id : BusId) :
    (childrenMinId id mask).toNat = id.toNat / 2 ^ mask * 2 ^ mask := by
  apply Nat.eq_of_testBit_eq
  intro i
  rw [childrenMinId, Nat.testBit_mul_two_pow, Nat.testBit_div_two_pow]
  by_cases inside : i < 64
  · have low : (lowBits mask).getLsbD i = decide (i < mask) := by
      rw [BitVec.getLsbD, lowBits_toNat small, Nat.testBit_two_pow_sub_one]
    have bit : (id &&& ~~~lowBits mask).getLsbD i = (decide (mask ≤ i) && id.getLsbD i) := by
      rw [BitVec.getLsbD_and, BitVec.getLsbD_not, low, Bool.and_comm]
      by_cases above : mask ≤ i
      · simp [inside, above]
      · simp [inside, above, Nat.not_le.mp above]
    rw [show (id &&& ~~~lowBits mask).toNat.testBit i = _ from bit]
    by_cases above : mask ≤ i
    · simp [above, Nat.sub_add_cancel above, BitVec.getLsbD]
    · simp [above]
  · have high := BitVec.getLsbD_of_ge (id &&& ~~~lowBits mask) i (Nat.not_lt.mp inside)
    have high' := BitVec.getLsbD_of_ge id i (Nat.not_lt.mp inside)
    rw [show (id &&& ~~~lowBits mask).toNat.testBit i = false from high]
    by_cases above : mask ≤ i
    · simp only [Nat.sub_add_cancel above]
      rw [show id.toNat.testBit i = false from high', Bool.and_false]
    · simp [above]

/-- The greatest id of a domain. -/
theorem childrenMaxId_toNat {mask : Nat} (small : mask ≤ 30) (id : BusId) :
    (childrenMaxId id mask).toNat = id.toNat / 2 ^ mask * 2 ^ mask + (2 ^ mask - 1) := by
  rw [childrenMaxId, BitVec.toNat_or, lowBits_toNat small]
  apply Nat.eq_of_testBit_eq
  intro i
  rw [Nat.testBit_or, Nat.testBit_two_pow_sub_one, Nat.mul_comm,
    Nat.testBit_two_pow_mul_add _ (Nat.sub_one_lt (Nat.two_pow_pos mask).ne')]
  by_cases low : i < mask
  · simp [low, Nat.testBit_two_pow_sub_one]
  · have above : mask ≤ i := Nat.not_lt.mp low
    simp [low, Nat.testBit_div_two_pow, Nat.sub_add_cancel above]

namespace Endpoint

variable {endpoint : Endpoint} {x : BusId} {fatherMask : Nat}

/-- A node's domain has the ids that agree with its own above its mask. -/
theorem isChildNode_iff (small : endpoint.childrenMask ≤ 30) :
    endpoint.isChildNode x = true ↔ SameDomain endpoint.childrenMask x endpoint.id := by
  rw [isChildNode, beq_iff_eq, and_highBits_eq_iff small]

/-- A node is in its own domain. -/
theorem isChildNode_self (endpoint : Endpoint) : endpoint.isChildNode endpoint.id = true := by
  rw [isChildNode, beq_self_eq_true]

/-- A domain is the interval of ids between its least and its greatest one. -/
theorem isChildNode_iff_between (small : endpoint.childrenMask ≤ 30) :
    endpoint.isChildNode x = true ↔ childrenMinId endpoint.id endpoint.childrenMask ≤ x ∧
      x ≤ childrenMaxId endpoint.id endpoint.childrenMask := by
  rw [isChildNode_iff small, SameDomain, BitVec.le_def, BitVec.le_def, childrenMinId_toNat small,
    childrenMaxId_toNat small, Nat.div_eq_iff (Nat.two_pow_pos _),
    Nat.add_sub_assoc (Nat.one_le_two_pow)]

/-- The greatest id of a domain is in it. -/
theorem isChildNode_childrenMaxId (small : endpoint.childrenMask ≤ 30) :
    endpoint.isChildNode (childrenMaxId endpoint.id endpoint.childrenMask) = true := by
  have self := (isChildNode_iff_between small).mp (isChildNode_self endpoint)
  exact (isChildNode_iff_between small).mpr ⟨le_trans self.1 self.2, le_refl _⟩

/-- Ids outside the domain that are in the one of the parent. -/
theorem isBrotherNode_iff (small : endpoint.childrenMask ≤ 30) (fatherSmall : fatherMask ≤ 30) :
    endpoint.isBrotherNode x fatherMask = true ↔ ¬SameDomain endpoint.childrenMask x endpoint.id ∧
      (fatherMask = 0 ∨ SameDomain fatherMask x endpoint.id) := by
  rw [isBrotherNode, Bool.and_eq_true, bne_iff_ne, ne_eq, and_highBits_eq_iff small,
    Bool.or_eq_true, beq_iff_eq, beq_iff_eq, and_highBits_eq_iff fatherSmall]

end Endpoint

/-! ### Collections -/

/-- `endpoint_collection_t`: endpoints keyed by the greatest id of their domain. -/
structure EndpointCollection where
  map : OrderedMap BusId Endpoint
  keyed : ∀ entry ∈ map.entries, entry.1 = childrenMaxId entry.2.id entry.2.childrenMask

/-- The endpoints of a collection. -/
def EndpointCollection.endpoints (collection : EndpointCollection) : List Endpoint :=
  collection.map.entries.map Prod.snd

/-- `node::find_child`. -/
def EndpointCollection.findChild (collection : EndpointCollection) (id : BusId) : Option Endpoint :=
  match collection.map.lowerBound id with
  | none => none
  | some (_, endpoint) =>
      if endpoint.id = id then some endpoint
      else if endpoint.isChildNode id then some endpoint
      else none

namespace EndpointCollection

variable {collection : EndpointCollection} {id : BusId} {endpoint : Endpoint}

/-- What `find_child` finds is in the collection and has the id in its domain. -/
theorem findChild_some (found : collection.findChild id = some endpoint) :
    endpoint ∈ collection.endpoints ∧ endpoint.isChildNode id = true := by
  rw [findChild] at found
  split at found
  · cases found
  · rename_i key other first
    have member : other ∈ collection.endpoints :=
      List.mem_map_of_mem (OrderedMap.lowerBound_some first).1
    split at found
    · rename_i same
      cases found
      subst same
      exact ⟨member, Endpoint.isChildNode_self endpoint⟩
    · split at found
      · rename_i inside
        cases found
        exact ⟨member, inside⟩
      · cases found

/-- Testing what `find_child` found once more changes nothing. -/
theorem filter_findChild (collection : EndpointCollection) (id : BusId) :
    (collection.findChild id).filter (fun endpoint => endpoint.isChildNode id) =
      collection.findChild id := by
  cases found : collection.findChild id with
  | none => rfl
  | some endpoint =>
      have inside := (findChild_some found).2
      simp only [Option.filter, inside, if_true]

/-- When no two domains overlap, `find_child` finds the endpoint whose domain has the id: the first
    key that reaches the id is in the domain of that endpoint, and is in the domain it is the key
    of. -/
theorem findChild_of_mem (member : endpoint ∈ collection.endpoints)
    (small : ∀ other ∈ collection.endpoints, other.childrenMask ≤ 30)
    (apart : ∀ other ∈ collection.endpoints, ∀ x, other.isChildNode x = true →
      endpoint.isChildNode x = true →
        other.id = endpoint.id ∧ other.childrenMask = endpoint.childrenMask)
    (inside : endpoint.isChildNode id = true) : collection.findChild id = some endpoint := by
  obtain ⟨⟨key, _⟩, stored, rfl⟩ := List.mem_map.mp member
  have keyed : key = childrenMaxId _ _ := collection.keyed _ stored
  obtain ⟨least, greatest⟩ := (Endpoint.isChildNode_iff_between (small _ member)).mp inside
  cases found : collection.map.lowerBound id with
  | none =>
      have below : key < id := OrderedMap.lowerBound_none found _ stored
      rw [keyed] at below
      exact absurd greatest (not_le_of_gt below)
  | some entry =>
      obtain ⟨first, other⟩ := entry
      obtain ⟨stored', reaches, minimal⟩ := OrderedMap.lowerBound_some found
      have member' : other ∈ collection.endpoints := List.mem_map_of_mem stored'
      have keyed' : first = childrenMaxId _ _ := collection.keyed _ stored'
      have own : other.isChildNode first = true := by
        rw [keyed']
        exact Endpoint.isChildNode_childrenMaxId (small _ member')
      have shared : Endpoint.isChildNode _ first = true :=
        (Endpoint.isChildNode_iff_between (small _ member)).mpr
          ⟨le_trans least reaches, keyed ▸ minimal _ stored (keyed ▸ greatest)⟩
      obtain ⟨sameId, sameMask⟩ := apart other member' first own shared
      have sameKey : first = key := by rw [keyed', keyed, sameId, sameMask]
      obtain ⟨-, rfl⟩ := Prod.mk.inj (OrderedMap.eq_of_key_eq stored' stored sameKey)
      simp only [findChild, found, inside, if_true, ite_self]

end EndpointCollection

end LibAtbus.Node
