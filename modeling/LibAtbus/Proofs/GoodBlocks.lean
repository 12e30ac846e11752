/-
Module: LibAtbus.Proofs.GoodBlocks
Layer: Proofs
Purpose: A failing `mem_recv` and the complete blocks it passes. An error is carried along the scan
  while nodes are still cleared, so a complete block is lost when the scan clears a run of nodes
  with it in a call that ends with an error; in every other case the call leaves it for the next
  one.
Trusted boundary: none
Main exports: CompleteBlock, KeepsBlocks, ClearsFailing, good_blocks_kept_iff
-/
import LibAtbus.Proofs.MemScan

namespace LibAtbus.Channel

open ByteMemory RingIndex

/-- A complete block at a place: its first node is started and written, its size is plausible, its
    nodes are unread and carry its sequence number, and its check code is right. -/
structure CompleteBlock (channel : MemChannel) (b : Nat) : Prop where
  inside : b < channel.unread
  nodes : b + memCalcNodeNum channel (channel.sizeAt b) ≤ channel.unread
  start : Starts (channel.headAt b)
  written : Writen (channel.headAt b)
  size : channel.Plausible (channel.sizeAt b)
  tagged : ∀ j < memCalcNodeNum channel (channel.sizeAt b),
    (channel.headAt (b + j)).operationSeq = (channel.headAt b).operationSeq
  check : memFastCheck (memCopyBlock channel (channel.nodeAt b)) = blockFastCheck channel
    (channel.nodeAt b)

/-- A call that fails with another code than `BAD_DATA` leaves every complete block: the read cursor
    has not passed it, and the heads of its nodes are as they were. -/
def KeepsBlocks (clock : Nat) (channel : MemChannel) (len : Nat) : Prop :=
  ∃ result, memRecv clock channel len = some result ∧
    (result.ret.failed = true → result.ret ≠ .badData → ∀ b, CompleteBlock channel b →
      RingIndex.dist channel.nodeCount channel.atomicReadCur result.channel.atomicReadCur ≤ b ∧
        ∀ j < memCalcNodeNum channel (channel.sizeAt b),
          result.channel.nodeHeads (channel.nodeAt (b + j)) = channel.headAt (b + j))

/-- The scan clears a run of nodes that contains a place, with an error from before or because of
    the number of the nodes. -/
def ClearsFailing (clock : Nat) (channel : MemChannel) (len b : Nat) : Prop :=
  ∃ k m ret dropped, Scans channel clock len k ret dropped ∧ Clears channel len k m ∧ k ≤ b ∧
    b < m ∧ (ret ≠ .success ∨ memCalcNodeNum channel (channel.sizeAt k) ≠ m - k)

section

variable {channel : MemChannel} {clock len k b : Nat} {ret : ErrorType} {dropped : Bool}
  {here there : ScanPlace}

/-- A scan that comes behind a complete block has cleared it in a run that does not count. -/
theorem Scans.passes (path : Scans channel clock len k ret dropped)
    (block : CompleteBlock channel b) (behind : b < k) : ClearsFailing clock channel len b := by
  have passes : ∀ {there : ScanPlace},
      Relation.ReflTransGen (ScanStep channel clock len) ⟨0, .success, false⟩ there →
      b < there.place → ClearsFailing clock channel len b := by
    intro there rest
    induction rest with
    | refl => exact fun behind => absurd behind (Nat.not_lt_zero b)
    | @tail here next before step ih =>
        intro behind
        by_cases already : b < here.place
        · exact ih already
        have ahead := Nat.le_of_not_lt already
        cases step with
        | debris _ notStart =>
            obtain rfl := Nat.le_antisymm ahead (Nat.le_of_lt_succ behind)
            exact absurd block.start notStart
        | timeout _ _ unwritten =>
            obtain rfl := Nat.le_antisymm ahead (Nat.le_of_lt_succ behind)
            exact absurd block.written unwritten
        | badSize _ _ _ size =>
            obtain rfl := Nat.le_antisymm ahead (Nat.le_of_lt_succ behind)
            exact absurd block.size size
        | badCount clears count => exact ⟨_, _, _, _, before, clears, ahead, behind, .inr count⟩
  exact passes path behind

/-- A call that goes no further than a complete block leaves it. -/
theorem Moved.keeps {after : MemChannel} (moved : Moved channel after k dropped)
    (cursors : channel.CursorsIn) (block : CompleteBlock channel b) (ahead : k ≤ b) :
    RingIndex.dist channel.nodeCount channel.atomicReadCur after.atomicReadCur ≤ b ∧
      ∀ j < memCalcNodeNum channel (channel.sizeAt b),
        after.nodeHeads (channel.nodeAt (b + j)) = channel.headAt (b + j) := by
  have below := cursors.unread_lt
  have inside := block.inside
  have nodes := block.nodes
  constructor
  · rw [moved.readCur, MemChannel.nodeAt, dist_slot cursors.read (by omega)]
    exact ahead
  · intro j node
    apply moved.kept
    intro i before same
    have equal := (cursors.nodeAt_inj (by omega) (by omega)).mp same
    omega

/-- A call that fails and has not cleared a complete block has not passed it. -/
theorem Receives.keeps {result : RecvResult} (receives : Receives channel clock len result)
    (cursors : channel.CursorsIn)
    (failed : result.ret.failed = true) (notBad : result.ret ≠ .badData)
    (block : CompleteBlock channel b) (spared : ¬ClearsFailing clock channel len b) :
    RingIndex.dist channel.nodeCount channel.atomicReadCur result.channel.atomicReadCur ≤ b ∧
      ∀ j < memCalcNodeNum channel (channel.sizeAt b),
        result.channel.nodeHeads (channel.nodeAt (b + j)) = channel.headAt (b + j) := by
  have notBehind : ∀ {k : Nat} {ret : ErrorType} {dropped : Bool},
      Scans channel clock len k ret dropped → k ≤ b :=
    fun path => Nat.le_of_not_lt fun behind => spared (path.passes block behind)
  cases receives with
  | drained path moved => exact moved.keeps cursors block (notBehind path)
  | unfinished path _ _ _ _ _ moved => exact moved.keeps cursors block (notBehind path)
  | tooLarge path _ _ _ _ _ moved => exact moved.keeps cursors block (notBehind path)
  | passed path clears count error moved =>
      apply moved.keeps cursors block
      apply Nat.le_of_not_lt
      intro within
      exact spared ⟨_, _, _, _, path, clears, notBehind path, within, .inl error⟩
  | delivered =>
      dsimp only at failed notBad
      split at failed
      · rename_i differs
        exact absurd (if_pos differs) notBad
      · cases failed

/-- A call that clears a complete block fails, and has passed it. -/
theorem Receives.loses {result : RecvResult} (receives : Receives channel clock len result)
    (lost : ClearsFailing clock channel len b) :
    (result.ret = .nodeBadBlockBuffSize ∨ result.ret = .nodeBadBlockNodeNum) ∧
      ∃ c, b < c ∧ c ≤ channel.unread ∧ result.channel.atomicReadCur = channel.nodeAt c := by
  obtain ⟨e, final, dropped', c, path', stops, forward, last, cleared, moved, keeps⟩ :=
    receives.ended
  obtain ⟨k, m, ret, dropped, path, clears, ahead, within, cause⟩ := lost
  have error : final ≠ .success ∧ b < c := by
    by_cases count : memCalcNodeNum channel (channel.sizeAt k) = m - k
    · -- the scan stops here
      rcases (path.through path' stops).cases_head with same | ⟨next, step, -⟩
      · cases same
        rw [cleared m clears]
        exact ⟨cause.resolve_right (not_not.mpr count), within⟩
      · exact absurd step (clears.no_step count next)
    · -- the scan goes on behind the run
      have next := path.step (.badCount clears count)
      obtain ⟨reached, kept⟩ := scanned_forward (next.through path' stops)
      have error : ret.orElse .nodeBadBlockNodeNum ≠ .success := orElse_ne (by decide)
      have same : final = ret.orElse .nodeBadBlockNodeNum := kept error
      rw [same]
      exact ⟨error, Nat.lt_of_lt_of_le within (reached.trans forward)⟩
  have code := path'.code
  rw [keeps error.1]
  exact ⟨code.resolve_left error.1, c, error.2, last, moved.readCur⟩

/-- A failing call leaves every complete block exactly when its scan clears none in a run that does
    not count. -/
theorem good_blocks_kept_iff (cursors : channel.CursorsIn) (clock len : Nat) :
    KeepsBlocks clock channel len ↔ ∀ b, CompleteBlock channel b →
      ¬ClearsFailing clock channel len b := by
  obtain ⟨result, called, receives⟩ := memRecv_receives cursors clock len
  constructor
  · rintro ⟨result', called', kept⟩ b block lost
    obtain rfl := Option.some.inj (called.symm.trans called')
    obtain ⟨code, c, behind, last, cursor⟩ := receives.loses lost
    have failed : result.ret.failed = true ∧ result.ret ≠ .badData := by
      rcases code with size | number
      · rw [size]
        decide
      · rw [number]
        decide
    have place := (kept failed.1 failed.2 b block).1
    have below := cursors.unread_lt
    rw [cursor, MemChannel.nodeAt, dist_slot cursors.read (by omega)] at place
    exact Nat.not_lt_of_le place behind
  · intro spared
    exact ⟨result, called, fun failed notBad b block => receives.keeps cursors failed notBad block
      (spared b block)⟩

end

/-- A channel of four nodes with a block of size zero, behind which a message of one byte is
    complete. -/
def spoiledChannel : MemChannel :=
  { nodeMagic := memChannelName
    nodeSize := 128
    nodeSizeBinPower := 7
    nodeCount := 4
    atomicReadCur := 0
    atomicWriteCur := 2
    firstFailedWritingTime := 0
    atomicOperationSeq := 2
    conf := ⟨0, 0, 4, 4⟩
    areaChannelOffset := 0
    areaHeadOffset := 4096
    areaDataOffset := 4128
    areaEndOffset := 4640
    blockBadCount := 0
    blockTimeoutCount := 0
    nodeBadCount := 0
    nodeHeads := fun index => if index = 0 then ⟨3, 1⟩ else if index = 1 then ⟨3, 2⟩ else .clean
    dataArea := writeBytes (fun _ => 0) 128 (blockBytes [7]) }

theorem good_blocks_kept_iff_spoiled : KeepsBlocks 0 spoiledChannel 8 ↔
    ∀ b, CompleteBlock spoiledChannel b → ¬ClearsFailing 0 spoiledChannel 8 b :=
  good_blocks_kept_iff ⟨by decide, by decide⟩ 0 8

/-- The call that rejects the first block takes the second one with it. -/
theorem good_block_swallowed :
    CompleteBlock spoiledChannel 1 ∧ ¬KeepsBlocks 0 spoiledChannel 8 := by
  have block : CompleteBlock spoiledChannel 1 := by
    refine ⟨by decide, by decide, by decide, by decide, ?_, ?_, ?_⟩
    · rw [MemChannel.Plausible]
      decide
    · decide
    · decide +kernel
  refine ⟨block, ?_⟩
  rintro ⟨result, called, kept⟩
  have answer : (memRecv 0 spoiledChannel 8).map
      (fun result => (result.ret, result.channel.atomicReadCur)) =
      some (.nodeBadBlockBuffSize, 2) := by decide
  rw [called] at answer
  obtain ⟨ret, cursor⟩ := Prod.mk.inj (Option.some.inj answer)
  have failed : result.ret.failed = true ∧ result.ret ≠ .badData := by
    rw [ret]
    decide
  have place := (kept failed.1 failed.2 1 block).1
  rw [cursor] at place
  exact absurd place (by decide)

end LibAtbus.Channel
