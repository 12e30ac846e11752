/-
Module: LibAtbus.Proofs.MemReservation
Layer: Proofs
Purpose: What a successful compare-exchange of the write cursor hands out. As long as the write
  cursor has not gone round the whole ring between a writer's load of it and its compare-exchange,
  the nodes handed out are apart from every node in use, and the tail node and the protected nodes
  stay free. A cursor that has gone round looks unchanged, and then the space check is worth
  nothing.
Trusted boundary: none
Main exports: GrantSafe, ReserveInvariant, reserveStep_safe, reservations_disjoint,
  reservations_overlap
-/
import LibAtbus.Channel.MemReserve
import LibAtbus.Foundation.Transitions
import LibAtbus.Proofs.MemRing
import Mathlib.Data.Finset.Card

namespace LibAtbus.Channel

open RingIndex Transitions

/-! ### The property -/

/-- The nodes of the ring from `start` on, `count` of them. -/
def ringNodes (nodeCount start count : Nat) : Finset Nat :=
  (Finset.range count).image (slot nodeCount start)

/-- The nodes between the two cursors. -/
def occupiedNodes (channel : MemChannel) : Finset Nat :=
  ringNodes channel.nodeCount channel.atomicReadCur
    (dist channel.nodeCount channel.atomicReadCur channel.atomicWriteCur)

/-- The nodes a compare-exchange hands out, if it is one that succeeds. -/
def grantedNodes (state : ReserveState) : ReserveLabel → Option (Finset Nat)
  | .compareExchange writer spurious =>
      match state.writers writer with
      | .loadedRead blockNodes writeCur _ _ =>
          if state.channel.atomicWriteCur = writeCur ∧ !spurious then
            some (ringNodes state.channel.nodeCount writeCur blockNodes)
          else none
      | _ => none
  | _ => none

/-- The nodes handed out are not in use, and besides them one tail node and the protected nodes are
    free. -/
def GrantSafe (t : Transition ReserveState ReserveLabel) : Prop :=
  ∀ granted, grantedNodes t.pre t.label = some granted →
    Disjoint (occupiedNodes t.pre.channel) granted ∧
      1 + t.pre.channel.conf.protectNodeCount ≤
        (Finset.range t.pre.channel.nodeCount \ (occupiedNodes t.pre.channel ∪ granted)).card

/-- The condition on a step: a writer whose compare-exchange is about to succeed has not been
    overtaken by a whole lap of the write cursor since it loaded it, and its block has nodes, or
    none are protected. -/
def NotLapped (t : Transition ReserveState ReserveLabel) : Prop :=
  ∀ writer blockNodes writeCur readCur seen, t.label = .compareExchange writer false →
    t.pre.writers writer = .loadedRead blockNodes writeCur readCur seen →
    t.pre.channel.atomicWriteCur = writeCur →
      t.pre.reserved < seen + t.pre.channel.nodeCount ∧
        (0 < blockNodes ∨ t.pre.channel.conf.protectNodeCount = 0)

/-! ### The invariant -/

/-- What is known of a writer's locals: how far the write cursor has come since it was loaded, and
    how far the read cursor has. -/
def WriterInvariant (state : ReserveState) : ReserveWriter → Prop
  | .idle => True
  | .loadedWrite _ writeCur seen =>
      seen ≤ state.reserved ∧ writeCur < state.channel.nodeCount ∧
        state.channel.atomicWriteCur =
          slot state.channel.nodeCount writeCur (state.reserved - seen)
  | .loadedRead blockNodes writeCur readCur seen =>
      seen ≤ state.reserved ∧ writeCur < state.channel.nodeCount ∧
        state.channel.atomicWriteCur =
          slot state.channel.nodeCount writeCur (state.reserved - seen) ∧
        readCur < state.channel.nodeCount ∧
        blockNodes ≤ memAvailableNode state.channel.nodeCount state.channel.conf.protectNodeCount
          readCur writeCur ∧
        ∃ consumed, consumed + state.blocks.sum ≤ state.reserved ∧
          seen < consumed + state.channel.nodeCount ∧
          state.channel.atomicReadCur = slot state.channel.nodeCount readCur
            (state.reserved - state.blocks.sum - consumed)

/-- The blocks not yet consumed lie between the cursors, with a free node behind them. -/
structure ReserveInvariant (state : ReserveState) : Prop where
  nodeCount_pos : 0 < state.channel.nodeCount
  nodeCount_le : state.channel.nodeCount ≤ 2 ^ 63
  readCur_lt : state.channel.atomicReadCur < state.channel.nodeCount
  blocks_lt : state.blocks.sum < state.channel.nodeCount
  blocks_le : state.blocks.sum ≤ state.reserved
  writeCur : state.channel.atomicWriteCur =
    slot state.channel.nodeCount state.channel.atomicReadCur state.blocks.sum
  writers : ∀ writer, WriterInvariant state (state.writers writer)

theorem ReserveState.Initial.invariant {state : ReserveState} (initial : state.Initial) :
    ReserveInvariant state := by
  have none : state.blocks.sum = 0 := by rw [initial.blocks]; rfl
  refine
    { nodeCount_pos := initial.nodeCount_pos
      nodeCount_le := initial.nodeCount_le
      readCur_lt := initial.readCur_lt
      blocks_lt := by rw [none]; exact initial.nodeCount_pos
      blocks_le := by omega
      writeCur := ?_
      writers := ?_ }
  · rw [none, slot_zero initial.readCur_lt, initial.writeCur]
  · intro writer
    rw [initial.idle writer]
    trivial

section

variable {state : ReserveState}

theorem ReserveInvariant.writeCur_lt (holds : ReserveInvariant state) :
    state.channel.atomicWriteCur < state.channel.nodeCount := by
  rw [holds.writeCur]
  exact slot_lt holds.nodeCount_pos

/-- The occupied nodes are those of the blocks not yet consumed. -/
theorem ReserveInvariant.dist_eq (holds : ReserveInvariant state) :
    dist state.channel.nodeCount state.channel.atomicReadCur state.channel.atomicWriteCur =
      state.blocks.sum := by
  rw [holds.writeCur]
  exact dist_slot holds.readCur_lt holds.blocks_lt

/-- The heart of the argument: a write cursor that compares equal and has not gone round is the one
    loaded, so the space found then is still there. -/
theorem ReserveInvariant.room (holds : ReserveInvariant state)
    {blockNodes writeCur readCur seen : Nat}
    (writer : WriterInvariant state (.loadedRead blockNodes writeCur readCur seen))
    (same : state.channel.atomicWriteCur = writeCur)
    (notLapped : state.reserved < seen + state.channel.nodeCount)
    (nonempty : 0 < blockNodes ∨ state.channel.conf.protectNodeCount = 0) :
    state.blocks.sum + blockNodes + 1 + state.channel.conf.protectNodeCount ≤
      state.channel.nodeCount := by
  obtain ⟨seenLe, writeLt, moved, readLt, enough, consumed, consumedLe, close, read⟩ := writer
  have unmoved : state.reserved - seen = 0 := by
    rw [same] at moved
    have zero := dist_slot (n := state.channel.nodeCount) writeLt
      (show state.reserved - seen < state.channel.nodeCount by omega)
    rwa [← moved, dist_self writeLt, eq_comm] at zero
  have total : writeCur = slot state.channel.nodeCount readCur (state.reserved - consumed) := by
    have walked := holds.writeCur
    rw [same, read, slot_slot] at walked
    rw [walked]
    congr 1
    omega
  have occupied : dist state.channel.nodeCount readCur writeCur = state.reserved - consumed := by
    rw [total]
    exact dist_slot readLt (by omega)
  rw [memAvailableNode_eq holds.nodeCount_le readLt writeLt, occupied] at enough
  omega

/-- A stretch of the ring shorter than the ring has as many nodes as its length. -/
theorem card_ringNodes {nodeCount start count : Nat} (fits : count ≤ nodeCount) :
    (ringNodes nodeCount start count).card = count := by
  unfold ringNodes
  rw [Finset.card_image_of_injOn, Finset.card_range]
  intro j inJ k inK same
  have below := Finset.mem_range.mp inJ
  have below' := Finset.mem_range.mp inK
  exact (slot_inj (by omega) (by omega)).mp same

/-- Two stretches one behind the other that fit the ring together share no node. -/
theorem disjoint_ringNodes {nodeCount start count more : Nat} (fits : count + more ≤ nodeCount) :
    Disjoint (ringNodes nodeCount start count)
      (ringNodes nodeCount (slot nodeCount start count) more) := by
  rw [Finset.disjoint_left]
  intro node first second
  obtain ⟨j, inJ, rfl⟩ := Finset.mem_image.mp first
  obtain ⟨k, inK, same⟩ := Finset.mem_image.mp second
  have below := Finset.mem_range.mp inJ
  have below' := Finset.mem_range.mp inK
  rw [slot_slot, slot_inj (by omega) (by omega)] at same
  omega

theorem ringNodes_subset {nodeCount start count : Nat} (pos : 0 < nodeCount) :
    ringNodes nodeCount start count ⊆ Finset.range nodeCount := by
  intro node member
  obtain ⟨j, _, rfl⟩ := Finset.mem_image.mp member
  exact Finset.mem_range.mpr (slot_lt pos)

/-- Room for the block, the tail node and the protected nodes makes the grant safe. -/
theorem ReserveInvariant.grantSafe (holds : ReserveInvariant state) {blockNodes : Nat}
    (room : state.blocks.sum + blockNodes + 1 + state.channel.conf.protectNodeCount ≤
      state.channel.nodeCount) :
    Disjoint (occupiedNodes state.channel)
        (ringNodes state.channel.nodeCount state.channel.atomicWriteCur blockNodes) ∧
      1 + state.channel.conf.protectNodeCount ≤
        (Finset.range state.channel.nodeCount \ (occupiedNodes state.channel ∪
          ringNodes state.channel.nodeCount state.channel.atomicWriteCur blockNodes)).card := by
  have apart : Disjoint (occupiedNodes state.channel)
      (ringNodes state.channel.nodeCount state.channel.atomicWriteCur blockNodes) := by
    unfold occupiedNodes
    rw [holds.dist_eq, holds.writeCur]
    exact disjoint_ringNodes (by omega)
  refine ⟨apart, ?_⟩
  have inRing : occupiedNodes state.channel ∪
      ringNodes state.channel.nodeCount state.channel.atomicWriteCur blockNodes ⊆
        Finset.range state.channel.nodeCount :=
    Finset.union_subset (ringNodes_subset holds.nodeCount_pos)
      (ringNodes_subset holds.nodeCount_pos)
  rw [Finset.card_sdiff_of_subset inRing, Finset.card_range, Finset.card_union_of_disjoint apart,
    occupiedNodes, holds.dist_eq, card_ringNodes (by omega), card_ringNodes (by omega)]
  omega

/-! ### Steps -/

/-- A step that only moves one writer keeps the invariant if the writer's new locals satisfy
    theirs. -/
theorem ReserveInvariant.setWriter (holds : ReserveInvariant state) {writer : Nat}
    {place : ReserveWriter} (placed : WriterInvariant state place) :
    ReserveInvariant (state.setWriter writer place) :=
  { holds with
    writers := by
      intro other
      by_cases same : other = writer
      · subst same
        simp only [ReserveState.setWriter, Function.update_self]
        cases place <;> exact placed
      · simp only [ReserveState.setWriter, Function.update_of_ne same]
        have kept := holds.writers other
        cases at_ : state.writers other <;> rw [at_] at kept <;> exact kept }

/-- The locals right after a load of the write cursor. -/
theorem ReserveInvariant.loadedWrite (holds : ReserveInvariant state) (blockNodes : Nat) :
    WriterInvariant state
      (.loadedWrite blockNodes state.channel.atomicWriteCur state.reserved) := by
  refine ⟨le_rfl, holds.writeCur_lt, ?_⟩
  rw [Nat.sub_self, slot_zero holds.writeCur_lt]

/-- The locals right after a load of the read cursor that found room. -/
theorem ReserveInvariant.loadedRead (holds : ReserveInvariant state)
    {blockNodes writeCur seen : Nat}
    (writer : WriterInvariant state (.loadedWrite blockNodes writeCur seen))
    (enough : blockNodes ≤ memAvailableNode state.channel.nodeCount
      state.channel.conf.protectNodeCount state.channel.atomicReadCur writeCur) :
    WriterInvariant state
      (.loadedRead blockNodes writeCur state.channel.atomicReadCur seen) := by
  obtain ⟨seenLe, writeLt, moved⟩ := writer
  have blocksLt := holds.blocks_lt
  have blocksLe := holds.blocks_le
  refine ⟨seenLe, writeLt, moved, holds.readCur_lt, enough, state.reserved - state.blocks.sum,
    by omega, by omega, ?_⟩
  rw [Nat.sub_self, slot_zero holds.readCur_lt]

/-- A grant keeps the invariant: the write cursor moves on, and the other writers' locals fall
    further behind. -/
theorem ReserveInvariant.grant (holds : ReserveInvariant state) {writer blockNodes : Nat}
    (room : state.blocks.sum + blockNodes < state.channel.nodeCount) :
    ReserveInvariant { (state.setWriter writer .idle) with
      channel := { state.channel with
        atomicWriteCur := (state.channel.atomicWriteCur + blockNodes) % state.channel.nodeCount }
      blocks := state.blocks ++ [blockNodes]
      reserved := state.reserved + blockNodes } := by
  have total : (state.blocks ++ [blockNodes]).sum = state.blocks.sum + blockNodes := by simp
  have moved : (state.channel.atomicWriteCur + blockNodes) % state.channel.nodeCount =
      slot state.channel.nodeCount state.channel.atomicWriteCur blockNodes := rfl
  refine
    { nodeCount_pos := holds.nodeCount_pos
      nodeCount_le := holds.nodeCount_le
      readCur_lt := holds.readCur_lt
      blocks_lt := total.trans_lt room
      blocks_le := total.trans_le (Nat.add_le_add_right holds.blocks_le blockNodes)
      writeCur := ?_
      writers := ?_ }
  · rw [total, moved, holds.writeCur, slot_slot]
  · intro other
    by_cases same : other = writer
    · subst same
      simp only [ReserveState.setWriter, Function.update_self]
      trivial
    · simp only [ReserveState.setWriter, Function.update_of_ne same]
      have kept := holds.writers other
      cases place : state.writers other with
      | idle => trivial
      | loadedWrite nodes writeCur seen =>
          rw [place] at kept
          obtain ⟨seenLe, writeLt, walked⟩ := kept
          refine ⟨Nat.le_add_right_of_le seenLe, writeLt, ?_⟩
          have further : state.reserved - seen + blockNodes = state.reserved + blockNodes -
              seen := by
            omega
          rw [moved, walked, slot_slot, further]
      | loadedRead nodes writeCur readCur seen =>
          rw [place] at kept
          obtain ⟨seenLe, writeLt, walked, readLt, enough, consumed, consumedLe, close, read⟩ :=
            kept
          refine ⟨Nat.le_add_right_of_le seenLe, writeLt, ?_, readLt, enough, consumed, ?_, close,
            ?_⟩
          · have further : state.reserved - seen + blockNodes =
                state.reserved + blockNodes - seen := by omega
            rw [moved, walked, slot_slot, further]
          · show consumed + (state.blocks ++ [blockNodes]).sum ≤ state.reserved + blockNodes
            omega
          · have unread : state.reserved - state.blocks.sum - consumed =
                state.reserved + blockNodes - (state.blocks ++ [blockNodes]).sum - consumed := by
              omega
            rw [read, unread]

/-- Consuming blocks keeps the invariant. -/
theorem ReserveInvariant.consume (holds : ReserveInvariant state) (count : Nat) :
    ReserveInvariant { state with
      channel := { state.channel with
        atomicReadCur := memNextIndex state.channel state.channel.atomicReadCur
          (state.blocks.take count).sum }
      blocks := state.blocks.drop count } := by
  have blocksLt := holds.blocks_lt
  have blocksLe := holds.blocks_le
  have total : (state.blocks.take count).sum + (state.blocks.drop count).sum =
      state.blocks.sum := by
    rw [← List.sum_append, List.take_append_drop]
  refine
    { nodeCount_pos := holds.nodeCount_pos
      nodeCount_le := holds.nodeCount_le
      readCur_lt := slot_lt holds.nodeCount_pos
      blocks_lt := Nat.lt_of_le_of_lt (Nat.le_add_left _ _) (total.trans_lt blocksLt)
      blocks_le := (Nat.le_add_left _ _).trans (total.trans_le blocksLe)
      writeCur := ?_
      writers := ?_ }
  · rw [memNextIndex, slot_slot, total]
    exact holds.writeCur
  · intro other
    have kept := holds.writers other
    show WriterInvariant _ (state.writers other)
    cases place : state.writers other with
    | idle => trivial
    | loadedWrite nodes writeCur seen =>
        rw [place] at kept
        exact kept
    | loadedRead nodes writeCur readCur seen =>
        rw [place] at kept
        obtain ⟨seenLe, writeLt, walked, readLt, enough, consumed, consumedLe, close, read⟩ := kept
        refine ⟨seenLe, writeLt, walked, readLt, enough, consumed, ?_, close, ?_⟩
        · show consumed + (state.blocks.drop count).sum ≤ state.reserved
          omega
        · show memNextIndex state.channel state.channel.atomicReadCur _ =
            slot state.channel.nodeCount readCur
              (state.reserved - (state.blocks.drop count).sum - consumed)
          rw [memNextIndex, read, slot_slot]
          congr 1
          omega

end

/-- One step from a state that satisfies the invariant: if it does not follow a lap of the write
    cursor, it keeps the invariant and what it hands out is safe. -/
theorem reserveStep_safe (t : Transition ReserveState ReserveLabel) (holds : ReserveInvariant t.pre)
    (taken : reserveStep t.pre t.label = some t.post) (notLapped : NotLapped t) :
    ReserveInvariant t.post ∧ GrantSafe t := by
  obtain ⟨state, label, after⟩ := t
  cases label with
  | loadWrite writer len =>
      refine ⟨?_, fun granted found => absurd found.symm (Option.some_ne_none granted)⟩
      simp only [reserveStep] at taken
      split at taken
      · split at taken
        · cases taken
        · split at taken
          · cases taken
            exact holds
          · cases taken
            exact holds.setWriter (holds.loadedWrite _)
      · cases taken
  | loadRead writer =>
      refine ⟨?_, fun granted found => absurd found.symm (Option.some_ne_none granted)⟩
      have locals := holds.writers writer
      simp only [reserveStep] at taken
      split at taken
      · rename_i place
        rw [place] at locals
        split at taken
        · cases taken
          exact holds.setWriter trivial
        · rename_i enough
          cases taken
          exact holds.setWriter (holds.loadedRead locals (Nat.le_of_not_lt enough))
      · cases taken
  | compareExchange writer spurious =>
      have locals := holds.writers writer
      simp only [reserveStep] at taken
      split at taken
      · rename_i blockNodes writeCur readCur seen place
        rw [place] at locals
        split at taken
        · rename_i succeeds
          obtain ⟨same, notSpurious⟩ := succeeds
          have weak : spurious = false := by simpa using notSpurious
          subst weak
          obtain ⟨recent, nonempty⟩ :=
            notLapped writer blockNodes writeCur readCur seen rfl place same
          have room := holds.room locals same recent nonempty
          subst same
          refine ⟨?_, ?_⟩
          · cases taken
            exact holds.grant (by omega)
          · intro granted found
            simp only [grantedNodes, place, Bool.not_false, and_self, if_true, Option.some.injEq]
              at found
            subst found
            exact holds.grantSafe room
        · rename_i fails
          refine ⟨?_, ?_⟩
          · cases taken
            exact holds.setWriter (holds.loadedWrite blockNodes)
          · intro granted found
            simp only [grantedNodes, place] at found
            rw [if_neg fails] at found
            cases found
      · cases taken
  | consume count =>
      refine ⟨?_, fun granted found => absurd found.symm (Option.some_ne_none granted)⟩
      simp only [reserveStep] at taken
      split at taken
      · cases taken
        exact holds.consume count
      · cases taken

/-! ### Runs -/

/-- In every run in which no compare-exchange succeeds after a whole lap of the write cursor, every
    block is handed out apart from all nodes in use, and leaves the tail node and the protected
    nodes free. -/
theorem reservations_disjoint {start final : ReserveState}
    {made : List (Transition ReserveState ReserveLabel)} (initial : start.Initial)
    (run : Run (fun state label after => reserveStep state label = some after) start made final)
    (notLapped : ∀ t ∈ made, NotLapped t) : ∀ t ∈ made, GrantSafe t := by
  have steps := run.forall_transition initial.invariant
    (fun t holds taken condition => reserveStep_safe t holds taken condition) notLapped
  exact steps.2

/-- An empty channel of four nodes without protected ones. -/
def fourNodeStart : ReserveState :=
  { channel :=
      { nodeMagic := memChannelName, nodeSize := nodeDataSize, nodeSizeBinPower := 7, nodeCount := 4
        atomicReadCur := 0, atomicWriteCur := 0, firstFailedWritingTime := 0
        atomicOperationSeq := 0
        conf := ⟨0, 0, 4, 4⟩, areaChannelOffset := 0, areaHeadOffset := channelHeadSize
        areaDataOffset := channelHeadSize + 32, areaEndOffset := channelHeadSize + 544
        blockBadCount := 0, blockTimeoutCount := 0, nodeBadCount := 0
        nodeHeads := fun _ => .clean, dataArea := fun _ => 0 }
    writers := fun _ => .idle
    blocks := []
    reserved := 0 }

/-- One writer reserves a block of one node on a channel of four. -/
theorem reservations_disjoint_one_writer :
    ∃ made final, made ≠ [] ∧
      Run (fun state label after => reserveStep state label = some after) fourNodeStart made final ∧
      ∀ t ∈ made, GrantSafe t := by
  have facts : (do
      let loaded ← reserveStep fourNodeStart (.loadWrite 0 100)
      let checked ← reserveStep loaded (.loadRead 0)
      let _ ← reserveStep checked (.compareExchange 0 false)
      return (checked.writers 0, checked.reserved, checked.channel.nodeCount)) =
      some (.loadedRead 1 0 0 0, 0, 4) := by decide +kernel
  obtain ⟨loaded, step₁, facts⟩ := Option.bind_eq_some_iff.mp facts
  obtain ⟨checked, step₂, facts⟩ := Option.bind_eq_some_iff.mp facts
  obtain ⟨granted, step₃, facts⟩ := Option.bind_eq_some_iff.mp facts
  simp only [Option.pure_def, Option.some.injEq, Prod.mk.injEq] at facts
  obtain ⟨place, reserved, nodeCount⟩ := facts
  have run : Run (fun state label after => reserveStep state label = some after) fourNodeStart _
      granted := ((Run.refl.tail step₁).tail step₂).tail step₃
  have initial : fourNodeStart.Initial :=
    ⟨by decide, by decide, by decide, rfl, rfl, fun _ => rfl⟩
  refine ⟨_, granted, by simp, run, reservations_disjoint initial run ?_⟩
  intro t member writer blockNodes writeCur readCur seen isCompare here _
  simp only [List.nil_append, List.cons_append, List.mem_cons, List.not_mem_nil, or_false] at member
  rcases member with rfl | rfl | rfl
  · cases isCompare
  · cases isCompare
  · cases isCompare
    dsimp only at here ⊢
    rw [place] at here
    cases here
    rw [reserved, nodeCount]
    exact ⟨by decide, Or.inl (by decide)⟩

/-! ### A lap between the load and the compare-exchange -/

/-- Writer 0 stalls between its loads and its compare-exchange while writer 1 sends a block of one
    node, the reader consumes it, and writer 1 sends a block of three nodes, which brings the write
    cursor back to where writer 0 saw it. -/
def lapSchedule : List ReserveLabel :=
  [.loadWrite 0 200, .loadRead 0, .loadWrite 1 100, .loadRead 1, .compareExchange 1 false,
    .consume 1, .loadWrite 1 300, .loadRead 1, .compareExchange 1 false]

/-- Running a schedule. -/
def runSchedule : ReserveState → List ReserveLabel → Option ReserveState
  | state, [] => some state
  | state, label :: labels => (reserveStep state label).bind fun after => runSchedule after labels

/-- A schedule that runs through is a run of the step relation. -/
theorem runSchedule_run {start : ReserveState} {labels : List ReserveLabel} :
    ∀ {state final : ReserveState} {made : List (Transition ReserveState ReserveLabel)},
      Run (fun state label after => reserveStep state label = some after) start made state →
      runSchedule state labels = some final →
      ∃ made', Run (fun state label after => reserveStep state label = some after) start
        made' final := by
  induction labels with
  | nil =>
      intro state final made run ran
      cases ran
      exact ⟨made, run⟩
  | cons label labels ih =>
      intro state final made run ran
      obtain ⟨after, taken, rest⟩ := Option.bind_eq_some_iff.mp ran
      exact ih (run.tail taken) rest

/-- After the lap writer 0 succeeds and is handed a node that is in use. -/
theorem reservations_overlap :
    fourNodeStart.Initial ∧
      ∃ made final,
        Run (fun state label after => reserveStep state label = some after) fourNodeStart
        made final ∧ ∃ t ∈ made, ¬GrantSafe t := by
  have reached : (runSchedule fourNodeStart lapSchedule).map (fun state =>
      (state.writers 0, state.channel.nodeCount, state.channel.atomicReadCur,
        state.channel.atomicWriteCur)) = some (.loadedRead 2 0 0 0, 4, 1, 0) := by decide +kernel
  obtain ⟨state, ran, facts⟩ := Option.map_eq_some_iff.mp reached
  simp only [Prod.mk.injEq] at facts
  obtain ⟨place, nodeCount, readCur, writeCur⟩ := facts
  obtain ⟨made, run⟩ := runSchedule_run Run.refl ran
  obtain ⟨after, taken⟩ : ∃ after, reserveStep state (.compareExchange 0 false) = some after := by
    simp [reserveStep, place, writeCur]
  refine ⟨⟨by decide, by decide, by decide, rfl, rfl, fun _ => rfl⟩, _, after, run.tail taken,
    ⟨state, .compareExchange 0 false, after⟩, by simp, ?_⟩
  intro safe
  have granted : grantedNodes state (.compareExchange 0 false) = some (ringNodes 4 0 2) := by
    simp [grantedNodes, place, writeCur, nodeCount]
  have apart := (safe _ granted).1
  have occupied : occupiedNodes state.channel = ringNodes 4 1 (dist 4 1 0) := by
    rw [occupiedNodes, nodeCount, readCur, writeCur]
  rw [occupied] at apart
  exact absurd apart (by decide)

end LibAtbus.Channel
