/-
Module: LibAtbus.Proofs.DomainArithmetic
Layer: Proofs
Purpose: The arithmetic of domains with the types of the source. A mask is built from the `int` 1,
  shifted and reduced by one, and only then widened to a bus id: each step is checked against the
  range of its type. Up to a mask of 30 every step is defined and the four functions agree with the
  intervals of ids that they stand for; from 31 on the shifted one is no `int`.
Trusted boundary: human-reviewed spec
Main exports: inInt, maskInt, checkedMinId, checkedMaxId, Endpoint.checkedIsChildNode,
  Endpoint.checkedIsBrotherNode, lowCleared, lowSet, ArithmeticRight, arithmeticRight_iff
-/
import LibAtbus.Node.Endpoint

namespace LibAtbus.Node

/-! ### The expressions of the source, checked -/

/-- A value of type `int`, if it is in the range of the type. -/
def inInt (value : Int) : Option Int :=
  if -2 ^ 31 ≤ value ∧ value < 2 ^ 31 then some value else none

/-- `1 << mask`: the count has to be below the width of `int` and the power one of its values. -/
def shiftedOne (mask : Nat) : Option Int := if mask < 32 then inInt (2 ^ mask) else none

/-- `(1 << mask) - 1`. -/
def maskInt (mask : Nat) : Option Int := do
  let power ← shiftedOne mask
  inInt (power - 1)

/-- `get_children_min_id`, undefined where one of its steps is. -/
def checkedMinId (id : BusId) (mask : Nat) : Option BusId := do
  let maskv ← maskInt mask
  return id &&& ~~~BitVec.ofInt 64 maskv

/-- `get_children_max_id`, undefined where one of its steps is. -/
def checkedMaxId (id : BusId) (mask : Nat) : Option BusId := do
  let maskv ← maskInt mask
  return id ||| BitVec.ofInt 64 maskv

/-- `endpoint::is_child_node`, undefined where one of its steps is. -/
def Endpoint.checkedIsChildNode (endpoint : Endpoint) (id : BusId) : Option Bool := do
  let low ← maskInt endpoint.childrenMask
  let mask : BusId := BitVec.ofInt 64 (~~~low)
  return id &&& mask == endpoint.id &&& mask

/-- `endpoint::is_brother_node`, undefined where one of its steps is. The father's mask is built
    also where it is zero. -/
def Endpoint.checkedIsBrotherNode (endpoint : Endpoint) (id : BusId) (fatherMask : Nat) :
    Option Bool := do
  let low ← maskInt endpoint.childrenMask
  let cMask : BusId := BitVec.ofInt 64 (~~~low)
  let fatherLow ← maskInt fatherMask
  let fMask : BusId := BitVec.ofInt 64 (~~~fatherLow)
  return id &&& cMask != endpoint.id &&& cMask &&
    (fatherMask == 0 || id &&& fMask == endpoint.id &&& fMask)

/-- A mask is an `int` up to 30. -/
theorem maskInt_eq (mask : Nat) :
    maskInt mask = if mask ≤ 30 then some (2 ^ mask - 1) else none := by
  by_cases narrow : mask < 32
  · have checked : ∀ mask < 32, maskInt mask = if mask ≤ 30 then some (2 ^ mask - 1) else none := by
      decide +kernel
    exact checked mask narrow
  · rw [maskInt, shiftedOne, if_neg narrow, if_neg (by omega)]
    rfl

theorem maskInt_wide {mask : Nat} (wide : ¬mask ≤ 30) : maskInt mask = none := by
  rw [maskInt_eq, if_neg wide]

section

variable {id x : BusId} {mask fatherMask : Nat} {endpoint : Endpoint}

/-- Widened, the `int` has the low bits of the mask. -/
theorem ofInt_mask (small : mask ≤ 30) : BitVec.ofInt 64 (2 ^ mask - 1) = lowBits mask := by
  have checked : ∀ mask ≤ 30, BitVec.ofInt 64 (2 ^ mask - 1) = lowBits mask := by decide +kernel
  exact checked mask small

/-- Complemented before it is widened, it has all bits above. -/
theorem ofInt_not_mask (small : mask ≤ 30) :
    BitVec.ofInt 64 (~~~(2 ^ mask - 1)) = highBits mask := by
  have checked : ∀ mask ≤ 30, BitVec.ofInt 64 (~~~(2 ^ mask - 1)) = highBits mask := by
    decide +kernel
  exact checked mask small

/-! ### Where every step is defined -/

theorem checkedMinId_eq (small : mask ≤ 30) :
    checkedMinId id mask = some (childrenMinId id mask) := by
  rw [checkedMinId, maskInt_eq, if_pos small, childrenMinId, ← ofInt_mask small]
  rfl

theorem checkedMaxId_eq (small : mask ≤ 30) :
    checkedMaxId id mask = some (childrenMaxId id mask) := by
  rw [checkedMaxId, maskInt_eq, if_pos small, childrenMaxId, ← ofInt_mask small]
  rfl

theorem checkedIsChildNode_eq (small : endpoint.childrenMask ≤ 30) :
    endpoint.checkedIsChildNode x = some (endpoint.isChildNode x) := by
  rw [Endpoint.checkedIsChildNode, maskInt_eq, if_pos small,
    Endpoint.isChildNode, ← ofInt_not_mask small]
  rfl

theorem checkedIsBrotherNode_eq (small : endpoint.childrenMask ≤ 30)
    (fatherSmall : fatherMask ≤ 30) :
    endpoint.checkedIsBrotherNode x fatherMask = some (endpoint.isBrotherNode x fatherMask) := by
  rw [Endpoint.checkedIsBrotherNode, maskInt_eq, maskInt_eq, if_pos small, if_pos fatherSmall,
    Endpoint.isBrotherNode, ← ofInt_not_mask small, ← ofInt_not_mask fatherSmall]
  rfl

/-! ### The intervals of ids -/

/-- An id with its low bits cleared. -/
def lowCleared (id : BusId) (mask : Nat) : BusId := id >>> mask <<< mask

/-- An id with its low bits set. -/
def lowSet (id : BusId) (mask : Nat) : BusId := ~~~lowCleared (~~~id) mask

/-- The ids from the one with its low bits cleared to the one with its low bits set. -/
def InDomain (id : BusId) (mask : Nat) (x : BusId) : Prop :=
  lowCleared id mask ≤ x ∧ x ≤ lowSet id mask

instance (id : BusId) (mask : Nat) (x : BusId) : Decidable (InDomain id mask x) :=
  inferInstanceAs (Decidable (_ ∧ _))

/-- What the domain arithmetic is to do for a node, an id and a father's mask: every step is
    defined, the least and the greatest id of the node's domain are its own with the low bits
    cleared and set, its children are the ids in between, and its brothers the others that are in
    the father's domain. -/
structure ArithmeticRight (endpoint : Endpoint) (x : BusId) (fatherMask : Nat) : Prop where
  least : checkedMinId endpoint.id endpoint.childrenMask =
    some (lowCleared endpoint.id endpoint.childrenMask)
  greatest : checkedMaxId endpoint.id endpoint.childrenMask =
    some (lowSet endpoint.id endpoint.childrenMask)
  child : endpoint.checkedIsChildNode x =
    some (decide (InDomain endpoint.id endpoint.childrenMask x))
  brother : endpoint.checkedIsBrotherNode x fatherMask =
    some (decide (¬InDomain endpoint.id endpoint.childrenMask x ∧
      (fatherMask = 0 ∨ InDomain endpoint.id fatherMask x)))

theorem getLsbD_lowBits (small : mask ≤ 30) (i : Nat) :
    (lowBits mask).getLsbD i = decide (i < mask) := by
  rw [BitVec.getLsbD, lowBits_toNat small, Nat.testBit_two_pow_sub_one]

theorem getLsbD_lowCleared {i : Nat} (inside : i < 64) :
    (lowCleared id mask).getLsbD i = (decide (mask ≤ i) && id.getLsbD i) := by
  rw [lowCleared, BitVec.getLsbD_shiftLeft, BitVec.getLsbD_ushiftRight]
  by_cases above : mask ≤ i
  · have back : mask + (i - mask) = i := by omega
    simp [inside, above, back]
  · simp [above, Nat.not_le.mp above]

theorem childrenMinId_eq (small : mask ≤ 30) : childrenMinId id mask = lowCleared id mask := by
  apply BitVec.eq_of_getLsbD_eq
  intro i inside
  rw [getLsbD_lowCleared inside, childrenMinId, BitVec.getLsbD_and, BitVec.getLsbD_not,
    getLsbD_lowBits small, Bool.and_comm]
  by_cases above : mask ≤ i
  · simp [inside, above]
  · simp [above, Nat.not_le.mp above]

theorem childrenMaxId_eq (small : mask ≤ 30) : childrenMaxId id mask = lowSet id mask := by
  apply BitVec.eq_of_getLsbD_eq
  intro i inside
  rw [lowSet, BitVec.getLsbD_not, getLsbD_lowCleared inside, BitVec.getLsbD_not, childrenMaxId,
    BitVec.getLsbD_or, getLsbD_lowBits small]
  by_cases above : mask ≤ i
  · simp [inside, above]
  · simp [inside, above, Nat.not_le.mp above]

/-- The domain of an id is the interval between its least and its greatest one. -/
theorem sameDomain_iff_inDomain (small : mask ≤ 30) :
    SameDomain mask x id ↔ InDomain id mask x := by
  rw [InDomain, ← childrenMinId_eq small, ← childrenMaxId_eq small, SameDomain, BitVec.le_def,
    BitVec.le_def, childrenMinId_toNat small, childrenMaxId_toNat small,
    Nat.div_eq_iff (Nat.two_pow_pos _), Nat.add_sub_assoc (Nat.one_le_two_pow)]

/-- The domain arithmetic is defined and right exactly for masks up to 30, the node's and the
    father's. -/
theorem arithmeticRight_iff (endpoint : Endpoint) (x : BusId) (fatherMask : Nat) :
    ArithmeticRight endpoint x fatherMask ↔ endpoint.childrenMask ≤ 30 ∧ fatherMask ≤ 30 := by
  constructor
  · intro right
    constructor
    · by_contra wide
      have least := right.least
      rw [checkedMinId, maskInt_wide wide] at least
      cases least
    · by_contra wide
      have brother := right.brother
      rw [Endpoint.checkedIsBrotherNode, maskInt_wide wide] at brother
      cases found : maskInt endpoint.childrenMask with
      | none =>
          rw [found] at brother
          cases brother
      | some low =>
          rw [found] at brother
          cases brother
  · rintro ⟨small, fatherSmall⟩
    constructor
    · rw [checkedMinId_eq small, childrenMinId_eq small]
    · rw [checkedMaxId_eq small, childrenMaxId_eq small]
    · rw [checkedIsChildNode_eq small, Option.some_inj, Bool.eq_iff_iff, decide_eq_true_iff,
        Endpoint.isChildNode_iff small, sameDomain_iff_inDomain small]
    · rw [checkedIsBrotherNode_eq small fatherSmall, Option.some_inj, Bool.eq_iff_iff,
        decide_eq_true_iff, Endpoint.isBrotherNode_iff small fatherSmall,
        sameDomain_iff_inDomain small, sameDomain_iff_inDomain fatherSmall]

/-- With a mask of 32 the one is shifted out of its type. -/
theorem arithmetic_wrong_at_32 :
    ¬ArithmeticRight
      { id := 0x1234567890#64, childrenMask := 32, globalRouter := false, listen := [] }
      0x1234567891#64 0 := by
  intro right
  exact absurd right.least (by decide)

end

end LibAtbus.Node
