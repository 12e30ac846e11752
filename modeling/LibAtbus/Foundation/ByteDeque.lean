/-
Module: LibAtbus.Foundation.ByteDeque
Layer: Foundation
Purpose: A deque of chunks of bytes. A chunk has a size, the count of its bytes that are consumed,
  and the bytes that have been written to it. Chunks are added, consumed and removed at either side.
  The load of a deque is the number of bytes that are not consumed. What is said of a side is said
  of both: a list is empty, or it has an element at that side and the others.
Trusted boundary: none
Main exports: Side, Side.put, Side.take?, Chunk, Chunk.consume, Chunk.write, pop, load, pop_put,
  popped_put
-/
import Mathlib.Algebra.GroupWithZero.Nat
import Mathlib.Data.List.Forall2

namespace LibAtbus.ByteDeque

universe u v

/-! ### Sides -/

/-- A side of a deque. -/
inductive Side where
  | front
  | back
deriving DecidableEq, Repr

namespace Side

variable {α : Type u} {β : Type v} {R : α → β → Prop} {side : Side} {x z : α} {xs : List α} {y : β}
  {ys : List β}

/-- An element put to a side. -/
def put : Side → α → List α → List α
  | front, x, xs => x :: xs
  | back, x, xs => xs ++ [x]

/-- The element at a side, and the others. -/
def take? : Side → List α → Option (α × List α)
  | front, xs => xs.head?.map fun x => (x, xs.tail)
  | back, xs => xs.getLast?.map fun x => (x, xs.dropLast)

/-- The element at a side. -/
def peek? (side : Side) (xs : List α) : Option α := (side.take? xs).map Prod.fst

@[simp] theorem take?_put : side.take? (side.put x xs) = some (x, xs) := by
  cases side with
  | front => rfl
  | back => simp [take?, put]

@[simp] theorem peek?_put : side.peek? (side.put x xs) = some x := by
  simp [peek?]

@[simp] theorem take?_nil : side.take? ([] : List α) = none := by
  cases side with
  | front => rfl
  | back => rfl

@[simp] theorem peek?_nil : side.peek? ([] : List α) = none := by
  simp [peek?]

@[simp] theorem length_put : (side.put x xs).length = xs.length + 1 := by
  cases side with
  | front => rfl
  | back => exact List.length_append

@[simp] theorem mem_put : z ∈ side.put x xs ↔ z = x ∨ z ∈ xs := by
  cases side with
  | front => exact List.mem_cons
  | back => simp [put, or_comm]

theorem put_ne_nil : side.put x xs ≠ [] := by
  cases side with
  | front => exact List.cons_ne_nil _ _
  | back => exact List.append_ne_nil_of_right_ne_nil _ (List.cons_ne_nil _ _)

theorem map_put {f : α → β} : (side.put x xs).map f = side.put (f x) (xs.map f) := by
  cases side with
  | front => rfl
  | back => exact List.map_append

theorem sum_put {n : Nat} {ns : List Nat} : (side.put n ns).sum = n + ns.sum := by
  cases side with
  | front => exact List.sum_cons
  | back => simp [put, Nat.add_comm]

/-- A list is empty or has an element at a side. -/
theorem nil_or_put (side : Side) (xs : List α) : xs = [] ∨ ∃ x rest, xs = side.put x rest := by
  cases side with
  | front =>
      cases xs with
      | nil => exact .inl rfl
      | cons x rest => exact .inr ⟨x, rest, rfl⟩
  | back =>
      rcases List.eq_nil_or_concat xs with rfl | ⟨rest, x, rfl⟩
      · exact .inl rfl
      · exact .inr ⟨x, rest, List.concat_eq_append⟩

/-- Lists related element by element are related at a side and in the others. -/
theorem forall₂_put : List.Forall₂ R (side.put x xs) (side.put y ys) ↔ R x y ∧
    List.Forall₂ R xs ys := by
  cases side with
  | front => exact List.forall₂_cons
  | back =>
      rw [put, put, ← List.forall₂_reverse_iff, List.reverse_concat, List.reverse_concat,
        List.forall₂_cons, List.forall₂_reverse_iff]

theorem forall₂_put_left (related : List.Forall₂ R (side.put x xs) ys) :
    ∃ y rest, ys = side.put y rest ∧ R x y ∧ List.Forall₂ R xs rest := by
  rcases side.nil_or_put ys with rfl | ⟨y, rest, rfl⟩
  · exact absurd (List.forall₂_nil_right_iff.mp related) put_ne_nil
  · exact ⟨y, rest, rfl, forall₂_put.mp related⟩

end Side

/-! ### Lists related element by element -/

section

variable {α : Type u} {β : Type v} {γ : Type} {R : α → β → Prop} {xs : List α} {ys : List β}

theorem forall₂_mem_right (related : List.Forall₂ R xs ys) {y : β} (member : y ∈ ys) :
    ∃ x ∈ xs, R x y := by
  induction related with
  | nil => cases member
  | @cons first _ rest _ head _ ih =>
      rcases List.mem_cons.mp member with rfl | later
      · exact ⟨first, List.mem_cons_self, head⟩
      · obtain ⟨x, there, held⟩ := ih later
        exact ⟨x, List.mem_cons_of_mem _ there, held⟩

theorem forall₂_map_eq {f : α → γ} {g : β → γ} (related : List.Forall₂ R xs ys)
    (same : ∀ x ∈ xs, ∀ y, R x y → f x = g y) : xs.map f = ys.map g := by
  induction related with
  | nil => rfl
  | @cons first _ rest _ head _ ih =>
      rw [List.map_cons, List.map_cons, same first List.mem_cons_self _ head,
        ih fun x member => same x (List.mem_cons_of_mem _ member)]

theorem forall₂_iff_getElem? : List.Forall₂ R xs ys ↔
    xs.length = ys.length ∧ ∀ (i : Nat) (x : α) (y : β), xs[i]? = some x → ys[i]? = some y →
    R x y := by
  rw [List.forall₂_iff_get]
  constructor
  · rintro ⟨length, each⟩
    refine ⟨length, fun i x y left right => ?_⟩
    obtain ⟨inLeft, rfl⟩ := List.getElem?_eq_some_iff.mp left
    obtain ⟨inRight, rfl⟩ := List.getElem?_eq_some_iff.mp right
    exact each i inLeft inRight
  · rintro ⟨length, each⟩
    exact ⟨length, fun i inLeft inRight =>
      each i _ _ (List.getElem?_eq_getElem inLeft) (List.getElem?_eq_getElem inRight)⟩

/-- A change of one element that keeps a value of it keeps the values of all. -/
theorem map_modify_eq {f : α → γ} {g : α → α} (kept : ∀ x, f (g x) = f x) (i : Nat) :
    (xs.modify i g).map f = xs.map f := by
  apply List.ext_getElem?
  intro j
  rw [List.getElem?_map, List.getElem?_map, List.getElem?_modify]
  cases xs[j]? with
  | none => rfl
  | some x =>
      by_cases here : i = j
      · simp [here, kept]
      · simp [here]

/-- A change of the last element. -/
theorem modify_last {g : α → α} {x : α} : (xs ++ [x]).modify xs.length g = xs ++ [g x] := by
  induction xs with
  | nil => rfl
  | cons first xs ih =>
      rw [List.cons_append, List.length_cons, List.modify_succ_cons, ih, List.cons_append]

variable {R' : α → β → Prop}

theorem forall₂_imp_mem (related : List.Forall₂ R xs ys) (each : ∀ x ∈ xs, ∀ y, R x y → R' x y) :
    List.Forall₂ R' xs ys := by
  have both := (List.forall₂_and_left xs ys).mpr ⟨fun x (member : x ∈ xs) => member, related⟩
  exact both.imp fun x y ⟨member, held⟩ => each x member y held

/-- Elements that are related to some are related to others made of them. -/
theorem forall₂_map_self {f : α → β} (related : List.Forall₂ R xs ys)
    (each : ∀ x ∈ xs, ∀ y, R x y → R' x (f x)) : List.Forall₂ R' xs (xs.map f) := by
  rw [List.forall₂_map_right_iff]
  induction related with
  | nil => exact .nil
  | @cons first _ rest _ head _ ih =>
      apply List.Forall₂.cons
      · exact each first List.mem_cons_self _ head
      · exact ih fun x member => each x (List.mem_cons_of_mem _ member)

/-- Elements that are related stay so when those at one place change together and the others allow
    for it. -/
theorem forall₂_modify {f : α → α} {g : β → β} {i : Nat} (related : List.Forall₂ R xs ys)
    (changed : ∀ x y, xs[i]? = some x → R x y → R' (f x) (g y))
    (others : ∀ j x y, i ≠ j → xs[j]? = some x → R x y → R' x y) :
    List.Forall₂ R' (xs.modify i f) (ys.modify i g) := by
  rw [forall₂_iff_getElem?] at related ⊢
  obtain ⟨length, each⟩ := related
  refine ⟨by rw [List.length_modify, List.length_modify, length], fun j x' y' left right => ?_⟩
  rw [List.getElem?_modify, Option.map_eq_map, Option.map_eq_some_iff] at left right
  obtain ⟨x, inLeft, rfl⟩ := left
  obtain ⟨y, inRight, rfl⟩ := right
  have held := each j x y inLeft inRight
  by_cases same : i = j
  · rw [if_pos same, if_pos same]
    exact changed x y (same ▸ inLeft) held
  · rw [if_neg same, if_neg same]
    exact others j x y same inLeft held

end

/-! ### Chunks -/

/-- A chunk of bytes. Bytes that have not been written have no value. -/
structure Chunk where
  size : Nat
  consumed : Nat
  written : Nat → Option UInt8

namespace Chunk

/-- A chunk that nothing has been written to. -/
def fresh (size : Nat) : Chunk := { size := size, consumed := 0, written := fun _ => none }

/-- The number of bytes that are not consumed. -/
def remaining (chunk : Chunk) : Nat := chunk.size - chunk.consumed

/-- Up to `s` more bytes are consumed. -/
def consume (chunk : Chunk) (s : Nat) : Chunk :=
  { chunk with consumed := chunk.consumed + min s chunk.remaining }

/-- Bytes are written from an offset on. -/
def write (chunk : Chunk) (offset : Nat) (bytes : List UInt8) : Chunk :=
  { chunk with
    written :=
      fun i =>
        if offset ≤ i ∧ i < offset + bytes.length then bytes[i - offset]? else chunk.written i }

/-- Whether a chunk is exhausted when up to `s` more bytes are consumed. -/
def exhausted (chunk : Chunk) (s : Nat) : Bool := (chunk.consume s).remaining = 0

variable (chunk : Chunk) (s : Nat)

theorem remaining_consume :
    (chunk.consume s).remaining = chunk.remaining - min s chunk.remaining := by
  simp only [consume, remaining]
  omega

/-- An exhausted chunk gives all that it has. -/
theorem exhausted_iff : chunk.exhausted s = true ↔ min s chunk.remaining = chunk.remaining := by
  rw [exhausted, decide_eq_true_iff, remaining_consume]
  omega

end Chunk

/-! ### The deque -/

/-- Up to `s` bytes of the chunk at a side are consumed; if it is then exhausted it is removed,
    where that is asked. -/
def pop (side : Side) (s : Nat) (remove : Bool) (deque : List Chunk) : List Chunk :=
  match side.take? deque with
  | none => []
  | some (chunk, rest) =>
      if remove && chunk.exhausted s then rest else side.put (chunk.consume s) rest

/-- The number of bytes that are not consumed. -/
def load (deque : List Chunk) : Nat := (deque.map Chunk.remaining).sum

section

variable {side : Side} {s : Nat} {remove : Bool} {chunk : Chunk} {chunks : List Chunk}

@[simp] theorem pop_nil : pop side s remove [] = [] := by
  rw [pop, Side.take?_nil]

theorem pop_put : pop side s remove (side.put chunk chunks) =
    if remove && chunk.exhausted s then chunks else side.put (chunk.consume s) chunks := by
  rw [pop, Side.take?_put]

theorem load_put : load (side.put chunk chunks) = chunk.remaining + load chunks := by
  rw [load, Side.map_put, Side.sum_put, load]

/-- What a pop does to the number of chunks and to the load. -/
structure Popped (s : Nat) (remove : Bool) (chunk : Chunk) (before after : List Chunk) : Prop where
  number : before.length = after.length + if remove && chunk.exhausted s then 1 else 0
  load : load before = load after + min s chunk.remaining

theorem popped_put (s : Nat) (remove : Bool) :
    Popped s remove chunk (side.put chunk chunks) (pop side s remove (side.put chunk chunks)) := by
  have least := chunk.exhausted_iff s
  rw [pop_put]
  by_cases removed : (remove && chunk.exhausted s) = true
  · have all := least.mp (Bool.and_eq_true_iff.mp removed).2
    refine ⟨?_, ?_⟩
    · rw [if_pos removed, if_pos removed, Side.length_put]
    · rw [if_pos removed, load_put, all, Nat.add_comm]
  · refine ⟨?_, ?_⟩
    · rw [if_neg removed, if_neg removed, Side.length_put, Side.length_put, Nat.add_zero]
    · rw [if_neg removed, load_put, load_put, Chunk.remaining_consume]
      omega

end

end LibAtbus.ByteDeque
