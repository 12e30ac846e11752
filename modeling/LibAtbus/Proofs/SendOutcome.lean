/-
Module: LibAtbus.Proofs.SendOutcome
Layer: Proofs
Purpose: When the code of `mem_send` is that of an attempt. Each attempt that meets a conflict still
  moves the write cursor, so the attempts of one call lie one behind the other and what they will
  meet can be read off the channel before the call. The loop gives back the code of the first
  attempt without a conflict; where every attempt meets one, it gives back the zero that the code
  inside the loop hides.
Trusted boundary: none
Main exports: Attempt, Completes, TellsTruth, MeetsConflict, send_tells_truth_iff
-/
import LibAtbus.Proofs.MemFifo
import LibAtbus.Proofs.MemWrite

namespace LibAtbus.Channel

open ByteMemory RingIndex

/-- The codes after which `mem_send` tries again. -/
def Conflict (ret : ErrorType) : Prop := ret = .nodeBadBlockCseqId ∨ ret = .nodeBadBlockWseqId

instance (ret : ErrorType) : Decidable (Conflict ret) := inferInstanceAs (Decidable (_ ∨ _))

/-- The channel as the attempt with a number finds it. -/
inductive Attempt (channel : MemChannel) (msg : List UInt8) : Nat → MemChannel → Prop where
  | first : Attempt channel msg 0 channel
  | retry {i : Nat} {before after : MemChannel} {ret : ErrorType}
      (attempt : Attempt channel msg i before)
      (sent : memSendReal before msg = some (ret, after)) (conflict : Conflict ret) :
      Attempt channel msg (i + 1) after

/-- Between two states an attempt has published the message at the nodes that it reserved. -/
def Completes (before after : MemChannel) (msg : List UInt8) : Prop :=
  after.atomicWriteCur =
      memNextIndex before before.atomicWriteCur (memCalcNodeNum before msg.length) ∧
    ∃ oprSeq, Published after before.atomicWriteCur (memCalcNodeNum before msg.length) msg oprSeq

/-- `mem_send` returns; its success is that of an attempt, and it fails where every attempt meets a
    conflict. -/
structure TellsTruth (channel : MemChannel) (msg : List UInt8) : Prop where
  returns : ∃ ret after, memSend channel msg = some (ret, after)
  success : ∀ after, memSend channel msg = some (.success, after) →
    ∃ i < channel.conf.writeRetryTimes, ∃ before, Attempt channel msg i before ∧
      memSendReal before msg = some (.success, after) ∧ Completes before after msg
  conflicts : (∀ i < channel.conf.writeRetryTimes, ∀ before, Attempt channel msg i before →
      ∃ ret after, memSendReal before msg = some (ret, after) ∧ Conflict ret) →
    ∀ ret after, memSend channel msg = some (ret, after) → ret.failed = true

/-- What the attempt with a number meets when all before it met a conflict, read off the channel
    before the call: there is room for it, and one of its nodes but the first carries a sequence
    number. -/
def MeetsConflict (channel : MemChannel) (nodes i : Nat) : Prop :=
  (i + 1) * nodes ≤ channel.freeNodes ∧
    ¬Untagged channel (memNextIndex channel channel.atomicWriteCur (i * nodes)) nodes

section

variable {channel state : MemChannel} {msg : List UInt8} {nodes i : Nat}

instance : Decidable (MeetsConflict channel nodes i) := inferInstanceAs (Decidable (_ ∧ _))

/-! ### One attempt -/

/-- A channel after a number of attempts that met a conflict. -/
structure AfterConflicts (channel : MemChannel) (nodes i : Nat) (state : MemChannel) : Prop where
  shaped : state.Shaped
  cursors : state.CursorsIn
  nodeCount : state.nodeCount = channel.nodeCount
  writeCur : state.atomicWriteCur = slot channel.nodeCount channel.atomicWriteCur (i * nodes)
  free : state.freeNodes + i * nodes = channel.freeNodes
  heads : ∀ j, i * nodes ≤ j → j < channel.nodeCount →
    state.nodeHeads (slot channel.nodeCount channel.atomicWriteCur j) =
      channel.nodeHeads (slot channel.nodeCount channel.atomicWriteCur j)

theorem AfterConflicts.none (shaped : channel.Shaped) (cursors : channel.CursorsIn) :
    AfterConflicts channel nodes 0 channel where
  shaped := shaped
  cursors := cursors
  nodeCount := rfl
  writeCur := by rw [Nat.zero_mul, slot_zero cursors.write]
  free := by rw [Nat.zero_mul, Nat.add_zero]
  heads _ _ _ := rfl

/-- The room for the next attempt. -/
theorem AfterConflicts.room_iff (after : AfterConflicts channel nodes i state) :
    nodes ≤ state.freeNodes ↔ (i + 1) * nodes ≤ channel.freeNodes := by
  have total := after.free
  rw [Nat.succ_mul]
  omega

/-- The nodes of the next attempt are as they were before the call. -/
theorem AfterConflicts.untagged_iff (after : AfterConflicts channel nodes i state)
    (room : (i + 1) * nodes ≤ channel.freeNodes) :
    Untagged state state.atomicWriteCur nodes ↔
      Untagged channel (slot channel.nodeCount channel.atomicWriteCur (i * nodes)) nodes := by
  have few : channel.freeNodes ≤ channel.nodeCount := by
    unfold MemChannel.freeNodes
    omega
  rw [Nat.succ_mul] at room
  have same : ∀ j < nodes, state.nodeHeads (slot state.nodeCount state.atomicWriteCur j) =
      channel.nodeHeads
      (slot channel.nodeCount (slot channel.nodeCount channel.atomicWriteCur (i * nodes)) j) := by
    intro j inside
    rw [after.nodeCount, after.writeCur, slot_slot]
    exact after.heads _ (Nat.le_add_right _ _) (by omega)
  apply forall₂_congr
  intro j inside
  rw [same j inside]

/-- An attempt that meets a conflict leaves the channel as the next one expects it. -/
theorem AfterConflicts.conflict (after : AfterConflicts channel (blockNodes msg.length) i state)
    (nonempty : msg ≠ []) (small : msg.length + blockHeadSize + nodeDataSize ≤ 2 ^ 64)
    (meets : MeetsConflict channel (blockNodes msg.length) i) :
    ∃ next, memSendReal state msg = some (.nodeBadBlockWseqId, next) ∧
      AfterConflicts channel (blockNodes msg.length) (i + 1) next := by
  have room := after.room_iff.mpr meets.1
  have few : channel.freeNodes ≤ channel.nodeCount := by
    unfold MemChannel.freeNodes
    omega
  have span : (i + 1) * blockNodes msg.length = i * blockNodes msg.length + blockNodes msg.length :=
    Nat.succ_mul _ _
  rcases memSendReal_cases after.shaped after.cursors nonempty small with
    ⟨full, -⟩ | ⟨-, ret, next, sent, keeps, ⟨free, -⟩ | ⟨-, rfl⟩⟩
  · exact absurd room (Nat.not_le_of_lt full)
  · exact absurd ((after.untagged_iff meets.1).mp free) meets.2
  · refine ⟨next, sent, ?_⟩
    have counts : next.nodeCount = channel.nodeCount := keeps.nodeCount.trans after.nodeCount
    exact
      { shaped := keeps.shaped { after.shaped with }
        cursors := keeps.cursorsIn (MemChannel.reserved_cursorsIn after.cursors)
        nodeCount := counts
        writeCur := by
          rw [keeps.header]
          show slot state.nodeCount state.atomicWriteCur _ = _
          rw [after.nodeCount, after.writeCur, slot_slot, span]
        free := by
          have left := MemChannel.reserved_freeNodes after.cursors room
          have total := after.free
          rw [keeps.freeNodes]
          omega
        heads := by
          intro j lower upper
          rw [← after.heads j (by omega) upper]
          apply keeps.heads
          intro k inside
          show _ ≠ slot state.nodeCount state.atomicWriteCur k
          rw [after.nodeCount, after.writeCur, slot_slot]
          have meets := meets.1
          exact slot_ne upper (by omega) (by omega) }

/-- An attempt that meets none ends the call: it finds no room, or it publishes the message. -/
theorem AfterConflicts.ends (after : AfterConflicts channel (blockNodes msg.length) i state)
    (nonempty : msg ≠ []) (small : msg.length + blockHeadSize + nodeDataSize ≤ 2 ^ 64)
    (meets : ¬MeetsConflict channel (blockNodes msg.length) i) :
    ∃ ret next, memSendReal state msg = some (ret, next) ∧ ¬Conflict ret ∧
      (ret = .success → Completes state next msg) := by
  rcases memSendReal_cases after.shaped after.cursors nonempty small with
    ⟨-, sent⟩ | ⟨room, ret, next, sent, keeps, ⟨-, rfl, published⟩ | ⟨tagged, -⟩⟩
  · exact ⟨_, _, sent, by decide, fun success => by cases success⟩
  · refine ⟨_, next, sent, by decide, fun _ => ?_⟩
    unfold Completes
    rw [memCalcNodeNum_of_le after.shaped small]
    refine ⟨?_, _, published⟩
    rw [keeps.header]
    rfl
  · have fits := after.room_iff.mp room
    rw [after.untagged_iff fits] at tagged
    exact absurd ⟨fits, tagged⟩ meets

/-! ### The attempts of a call -/

/-- When every attempt meets a conflict, the call gives back the zero it began with. -/
theorem memSendTry_conflicts (nonempty : msg ≠ [])
    (small : msg.length + blockHeadSize + nodeDataSize ≤ 2 ^ 64) {left : Nat} :
    ∀ {i : Nat} {state : MemChannel}, AfterConflicts channel (blockNodes msg.length) i state →
      (∀ k < left, MeetsConflict channel (blockNodes msg.length) (i + k)) →
      ∃ after, memSendTry left state msg = some (.success, after) := by
  induction left with
  | zero =>
      intro i state after meets
      exact ⟨state, rfl⟩
  | succ left ih =>
      intro i state after meets
      obtain ⟨next, sent, onward⟩ := after.conflict nonempty small (meets 0 (Nat.succ_pos left))
      obtain ⟨final, rest⟩ := ih onward fun k below => by
        rw [Nat.add_right_comm]
        exact meets (k + 1) (Nat.succ_lt_succ below)
      refine ⟨final, ?_⟩
      rw [memSendTry, sent]
      exact (if_pos (.inr rfl)).trans rest

/-- The call gives back what the first attempt without a conflict gives back. -/
theorem memSendTry_ends (nonempty : msg ≠ [])
    (small : msg.length + blockHeadSize + nodeDataSize ≤ 2 ^ 64) {left : Nat} :
    ∀ {i : Nat} {state : MemChannel}, AfterConflicts channel (blockNodes msg.length) i state →
      Attempt channel msg i state →
      (∃ k < left, ¬MeetsConflict channel (blockNodes msg.length) (i + k)) →
      ∃ j < i + left, ∃ before ret after, Attempt channel msg j before ∧
        memSendReal before msg = some (ret, after) ∧
        ¬Conflict ret ∧ (ret = .success → Completes before after msg) ∧
        memSendTry left state msg = some (ret, after) := by
  induction left with
  | zero =>
      rintro i state after attempt ⟨k, below, -⟩
      exact absurd below (Nat.not_lt_zero k)
  | succ left ih =>
      rintro i state after attempt ⟨k, below, other⟩
      by_cases meets : MeetsConflict channel (blockNodes msg.length) i
      · obtain ⟨next, sent, onward⟩ := after.conflict nonempty small meets
        obtain ⟨k, rfl⟩ : ∃ before, k = before + 1 := by
          apply Nat.exists_eq_succ_of_ne_zero
          rintro rfl
          exact other meets
        have shift : i + 1 + k = i + (k + 1) := Nat.add_right_comm i 1 k
        obtain ⟨j, inside, before, ret, final, made, real, ends, completes, rest⟩ :=
          ih onward (attempt.retry sent (.inr rfl)) ⟨k, Nat.lt_of_succ_lt_succ below, shift ▸ other⟩
        refine ⟨j, by omega, before, ret, final, made, real, ends, completes, ?_⟩
        rw [memSendTry, sent]
        exact (if_pos (.inr rfl)).trans rest
      · obtain ⟨ret, next, sent, ends, completes⟩ := after.ends nonempty small meets
        refine ⟨i, Nat.lt_add_of_pos_right (Nat.succ_pos left), state, ret, next, attempt, sent,
          ends, completes, ?_⟩
        rw [memSendTry, sent]
        exact if_neg ends

/-- Where every attempt meets a conflict, `mem_send` does not tell the truth. -/
theorem not_tellsTruth (shaped : channel.Shaped) (cursors : channel.CursorsIn) (nonempty : msg ≠ [])
    (small : msg.length + blockHeadSize + nodeDataSize ≤ 2 ^ 64)
    (meets : ∀ i < channel.conf.writeRetryTimes, MeetsConflict channel (blockNodes msg.length) i) :
    ¬TellsTruth channel msg := by
  intro truth
  obtain ⟨after, sent⟩ :=
    memSendTry_conflicts nonempty small (.none shaped cursors) fun k below => by
    rw [Nat.zero_add]
    exact meets k below
  have attempts : ∀ {i : Nat} {before : MemChannel}, Attempt channel msg i before →
      i ≤ channel.conf.writeRetryTimes →
      AfterConflicts channel (blockNodes msg.length) i before := by
    intro i before attempt
    induction attempt with
    | first => exact fun _ => .none shaped cursors
    | retry attempt sent conflict ih =>
        intro upper
        obtain ⟨next, real, onward⟩ :=
          (ih (Nat.le_of_succ_le upper)).conflict nonempty small (meets _ upper)
        rw [sent] at real
        cases real
        exact onward
  have failed := truth.conflicts (fun i below before attempt => by
    obtain ⟨next, real, -⟩ := (attempts attempt below.le).conflict nonempty small (meets i below)
    exact ⟨_, next, real, .inr rfl⟩) _ _ sent
  exact absurd rfl ((ErrorType.failed_iff _).mp failed)

/-- The code of `mem_send` tells the truth exactly when one of the attempts it may make meets no
    conflict: there is no room for it, or none of the nodes it takes carries a sequence number, the
    first one left out. -/
theorem send_tells_truth_iff (shaped : channel.Shaped) (cursors : channel.CursorsIn)
    (nonempty : msg ≠ []) (small : msg.length + blockHeadSize + nodeDataSize ≤ 2 ^ 64) :
    TellsTruth channel msg ↔
      ∃ i < channel.conf.writeRetryTimes,
        ¬MeetsConflict channel (memCalcNodeNum channel msg.length) i := by
  rw [memCalcNodeNum_of_le shaped small]
  constructor
  · intro truth
    by_contra always
    apply not_tellsTruth shaped cursors nonempty small _ truth
    intro i below
    by_contra other
    exact always ⟨i, below, other⟩
  · rintro ⟨i, below, other⟩
    obtain ⟨j, inside, before, ret, after, attempt, real, ends, completes, sent⟩ :=
      memSendTry_ends nonempty small (.none shaped cursors) .first ⟨i, below, by rwa [Nat.zero_add]⟩
    have called : memSend channel msg = some (ret, after) := sent
    rw [Nat.zero_add] at inside
    refine { returns := ⟨ret, after, called⟩, success := ?success, conflicts := ?conflicts }
    case success =>
      intro final success
      rw [called] at success
      cases success
      exact ⟨j, inside, before, attempt, real, completes rfl⟩
    case conflicts =>
      intro all
      obtain ⟨ret', after', real', conflict⟩ := all j inside before attempt
      rw [real] at real'
      cases real'
      exact absurd conflict ends

/-! ### Stale heads -/

/-- A channel of thirty nodes whose heads all carry the sequence number of an old block. -/
def staleChannel : MemChannel :=
  { nodeMagic := memChannelName
    nodeSize := nodeDataSize
    nodeSizeBinPower := 7
    nodeCount := 30
    atomicReadCur := 0
    atomicWriteCur := 0
    firstFailedWritingTime := 0
    atomicOperationSeq := 7
    conf := ⟨0, 0, 4, 4⟩
    areaChannelOffset := 0
    areaHeadOffset := 4096
    areaDataOffset := 4336
    areaEndOffset := 8176
    blockBadCount := 0
    blockTimeoutCount := 0
    nodeBadCount := 0
    nodeHeads := fun _ => ⟨1, 7⟩
    dataArea := fun _ => 0 }

theorem staleChannel_shaped : staleChannel.Shaped := ⟨rfl, rfl, by decide, rfl⟩

theorem staleChannel_cursorsIn : staleChannel.CursorsIn := ⟨by decide, by decide⟩

/-- A message of one node has no node that could be in conflict. -/
theorem send_tells_truth_iff_stale : TellsTruth staleChannel [5] ↔
    ∃ i < 4, ¬MeetsConflict staleChannel 1 i :=
  send_tells_truth_iff staleChannel_shaped staleChannel_cursorsIn (by decide) (by decide)

/-- A message of two nodes meets a conflict four times; the call gives back success, and nothing is
    sent. -/
theorem send_hides_conflicts : ¬TellsTruth staleChannel (List.replicate 200 5) := by
  have length : (List.replicate 200 (5 : UInt8)).length = 200 := List.length_replicate
  apply not_tellsTruth staleChannel_shaped staleChannel_cursorsIn
  · exact List.ne_nil_of_length_pos (by rw [length]; decide)
  · rw [length]
    decide
  · rw [length]
    decide

end

end LibAtbus.Channel
