/-
Module: LibAtbus.Proofs.MemScan
Layer: Proofs
Purpose: What `mem_recv` does on any contents of the node heads and the data area. The scanning loop
  is followed as a path over the nodes from the read cursor on, which is read off the channel as it
  was before the call: each node is skipped, or a run of nodes with one sequence number is cleared,
  until the loop stops in one of five ways. The description of every call follows from the place
  where its path ends.
Trusted boundary: none
Main exports: MemChannel.unread, MemChannel.nodeAt, SameTag, ScanStep, Scans, Moved, Receives,
  memRecv_receives
-/
import LibAtbus.Proofs.MemRead
import Mathlib.Logic.Relation

namespace LibAtbus.Channel

open ByteMemory RingIndex

/-! ### Nodes from the read cursor on -/

namespace MemChannel

/-- The number of nodes from the read cursor to the write cursor. -/
def unread (channel : MemChannel) : Nat :=
  RingIndex.dist channel.nodeCount channel.atomicReadCur channel.atomicWriteCur

/-- The node at a place counted from the read cursor. -/
def nodeAt (channel : MemChannel) (k : Nat) : Nat := slot channel.nodeCount channel.atomicReadCur k

/-- The head of the node at a place. -/
def headAt (channel : MemChannel) (k : Nat) : MemNodeHead := channel.nodeHeads (channel.nodeAt k)

/-- The size in the block head at a place. -/
def sizeAt (channel : MemChannel) (k : Nat) : Nat := blockBufferSize channel (channel.nodeAt k)

/-- Sizes that `mem_recv` takes for the size of a block. -/
def Plausible (channel : MemChannel) (size : Nat) : Prop :=
  ¬(size = 0 ∨
    size ≥ Word64.sub (channel.areaEndOffset - channel.areaDataOffset)
      channel.conf.protectMemorySize)

/-- The cursors are nodes of the channel. -/
structure CursorsIn (channel : MemChannel) : Prop where
  read : channel.atomicReadCur < channel.nodeCount
  write : channel.atomicWriteCur < channel.nodeCount

end MemChannel

/-- The node is marked as the first one of a block. -/
def Starts (head : MemNodeHead) : Prop := checkFlag head.flag .startNode = true

/-- The node is marked as written. -/
def Writen (head : MemNodeHead) : Prop := checkFlag head.flag .writen = true

instance (head : MemNodeHead) : Decidable (Starts head) := inferInstanceAs (Decidable (_ = true))

instance (head : MemNodeHead) : Decidable (Writen head) := inferInstanceAs (Decidable (_ = true))

/-- The unread nodes from one place up to another carry the sequence number of the first, and the
    next one does not or is not unread. -/
structure SameTag (channel : MemChannel) (k m : Nat) : Prop where
  after : k < m
  unread : m ≤ channel.unread
  same : ∀ j, k ≤ j → j < m → (channel.headAt j).operationSeq = (channel.headAt k).operationSeq
  stops : m = channel.unread ∨ (channel.headAt m).operationSeq ≠ (channel.headAt k).operationSeq

section

variable {channel : MemChannel} {k m : Nat}

theorem MemChannel.CursorsIn.unread_lt (cursors : channel.CursorsIn) :
    channel.unread < channel.nodeCount :=
  dist_lt (Nat.zero_lt_of_lt cursors.read)

theorem MemChannel.CursorsIn.nodeAt_unread (cursors : channel.CursorsIn) :
    channel.nodeAt channel.unread = channel.atomicWriteCur :=
  slot_dist cursors.read.le cursors.write

theorem MemChannel.CursorsIn.nodeAt_zero (cursors : channel.CursorsIn) :
    channel.nodeAt 0 = channel.atomicReadCur :=
  slot_zero cursors.read

theorem MemChannel.CursorsIn.nodeAt_lt (cursors : channel.CursorsIn) (k : Nat) :
    channel.nodeAt k < channel.nodeCount :=
  slot_lt (Nat.zero_lt_of_lt cursors.read)

/-- Different places up to the write cursor are different nodes. -/
theorem MemChannel.CursorsIn.nodeAt_inj (cursors : channel.CursorsIn) (first : k ≤ channel.unread)
    (second : m ≤ channel.unread) : channel.nodeAt k = channel.nodeAt m ↔ k = m := by
  have below := cursors.unread_lt
  exact slot_inj (Nat.lt_of_le_of_lt first below) (Nat.lt_of_le_of_lt second below)

/-- A place is at the write cursor exactly when all nodes before it are all that is unread. -/
theorem MemChannel.CursorsIn.atWrite_iff (cursors : channel.CursorsIn)
    (inside : k ≤ channel.unread) :
    channel.nodeAt k = channel.atomicWriteCur ↔ k = channel.unread := by
  rw [← cursors.nodeAt_unread]
  exact cursors.nodeAt_inj inside le_rfl

theorem memNextIndex_nodeAt {other : MemChannel} (same : other.nodeCount = channel.nodeCount) :
    memNextIndex other (channel.nodeAt k) 1 = channel.nodeAt (k + 1) := by
  rw [memNextIndex, same]
  exact slot_slot

/-- Every unread node begins such a run. -/
theorem exists_sameTag (inside : k < channel.unread) : ∃ m, SameTag channel k m := by
  have walk : ∀ rest j, j + rest = channel.unread → k < j →
      (∀ i, k ≤ i → i < j → (channel.headAt i).operationSeq = (channel.headAt k).operationSeq) →
      ∃ m, SameTag channel k m := by
    intro rest
    induction rest with
    | zero =>
        intro j total after same
        exact ⟨j, after, total.le, same, .inl total⟩
    | succ rest ih =>
        intro j total after same
        by_cases tagged : (channel.headAt j).operationSeq = (channel.headAt k).operationSeq
        · apply ih (j + 1) (by omega) (by omega)
          intro i lower upper
          rcases Nat.lt_succ_iff_lt_or_eq.mp upper with old | rfl
          · exact same i lower old
          · exact tagged
        · exact ⟨j, after, by omega, same, .inr tagged⟩
  apply walk (channel.unread - (k + 1)) (k + 1) (by omega) (Nat.lt_succ_self k)
  intro i lower upper
  have here : i = k := by omega
  rw [here]

/-- The run from a node is the only one. -/
theorem SameTag.unique {m' : Nat} (run : SameTag channel k m) (run' : SameTag channel k m') :
    m = m' := by
  rcases Nat.lt_trichotomy m m' with less | equal | more
  · rcases run.stops with last | other
    · have inside := run'.unread
      omega
    · exact absurd (run'.same m run.after.le less) other
  · exact equal
  · rcases run'.stops with last | other
    · have inside := run.unread
      omega
    · exact absurd (run.same m' run'.after.le more) other

end

/-! ### The path of a scan -/

/-- The scan clears the nodes from one place up to another: a block of plausible size that fits is
    written at the first, and they are the run of its sequence number. -/
structure Clears (channel : MemChannel) (len k m : Nat) : Prop where
  inside : k < channel.unread
  start : Starts (channel.headAt k)
  written : Writen (channel.headAt k)
  size : channel.Plausible (channel.sizeAt k)
  fits : channel.sizeAt k ≤ len
  run : SameTag channel k m

/-- Where a scan is: the place, the code so far, and whether an unfinished block was dropped on the
    way. -/
structure ScanPlace where
  place : Nat
  ret : ErrorType
  dropped : Bool

/-- How a scan goes on from a place, read off the channel as it was before the call. -/
inductive ScanStep (channel : MemChannel) (clock len : Nat) : ScanPlace → ScanPlace → Prop where
  | debris {k : Nat} {ret : ErrorType} {dropped : Bool} (inside : k < channel.unread)
      (notStart : ¬Starts (channel.headAt k)) :
      ScanStep channel clock len ⟨k, ret, dropped⟩ ⟨k + 1, ret, dropped⟩
  | timeout {k : Nat} {ret : ErrorType} (inside : k < channel.unread)
      (start : Starts (channel.headAt k))
      (unwritten : ¬Writen (channel.headAt k)) (failed : channel.firstFailedWritingTime ≠ 0)
      (expired :
        channel.blockTimeoutCount < stampDistance
        (clockStamp clock) channel.firstFailedWritingTime) :
      ScanStep channel clock len ⟨k, ret, false⟩ ⟨k + 1, ret, true⟩
  | badSize {k : Nat} {ret : ErrorType} {dropped : Bool} (inside : k < channel.unread)
      (start : Starts (channel.headAt k)) (written : Writen (channel.headAt k))
      (size : ¬channel.Plausible (channel.sizeAt k)) :
      ScanStep channel clock len ⟨k, ret, dropped⟩ ⟨k + 1, ret.orElse .nodeBadBlockBuffSize,
        dropped⟩
  | badCount {k m : Nat} {ret : ErrorType} {dropped : Bool} (clears : Clears channel len k m)
      (count : memCalcNodeNum channel (channel.sizeAt k) ≠ m - k) :
      ScanStep channel clock len ⟨k, ret, dropped⟩ ⟨m, ret.orElse .nodeBadBlockNodeNum, dropped⟩

/-- The scan of a call that starts from a channel comes to a place. -/
def Scans (channel : MemChannel) (clock len k : Nat) (ret : ErrorType) (dropped : Bool) : Prop :=
  Relation.ReflTransGen (ScanStep channel clock len) ⟨0, .success, false⟩ ⟨k, ret, dropped⟩

/-- What a call does besides its answer: the heads of the nodes up to a place are cleared and the
    read cursor goes there; the counters and the time of the first failure may change, and nothing
    else does. -/
structure Moved (channel after : MemChannel) (m : Nat) (dropped : Bool) : Prop where
  others : after = { channel with
    atomicReadCur := channel.nodeAt m
    nodeHeads := after.nodeHeads
    firstFailedWritingTime := after.firstFailedWritingTime
    blockBadCount := after.blockBadCount
    blockTimeoutCount :=
      if dropped then Word64.wrap (channel.blockTimeoutCount + 1) else channel.blockTimeoutCount
    nodeBadCount := after.nodeBadCount }
  cleared : ∀ i < m, after.nodeHeads (channel.nodeAt i) = .clean
  kept : ∀ index, (∀ i < m, index ≠ channel.nodeAt i) →
    after.nodeHeads index = channel.nodeHeads index

/-- The five ways in which a call ends. -/
inductive Receives (channel : MemChannel) (clock len : Nat) : RecvResult → Prop where
  | drained {ret : ErrorType} {dropped : Bool} {after : MemChannel}
      (path : Scans channel clock len channel.unread ret dropped)
      (moved : Moved channel after channel.unread dropped) :
      Receives channel clock len ⟨ret.orElse .noData, none, [], after⟩
  | unfinished {k : Nat} {ret : ErrorType} {dropped : Bool} {after : MemChannel}
      (path : Scans channel clock len k ret dropped) (inside : k < channel.unread)
      (start : Starts (channel.headAt k)) (unwritten : ¬Writen (channel.headAt k))
      (waits : dropped = true ∨ channel.firstFailedWritingTime = 0 ∨
        stampDistance (clockStamp clock) channel.firstFailedWritingTime ≤ channel.blockTimeoutCount)
      (time : after.firstFailedWritingTime =
        if dropped = true ∨ channel.firstFailedWritingTime = 0 then clockStamp clock
        else channel.firstFailedWritingTime)
      (moved : Moved channel after k dropped) :
      Receives channel clock len ⟨ret.orElse .noData, none, [], after⟩
  | tooLarge {k : Nat} {ret : ErrorType} {dropped : Bool} {after : MemChannel}
      (path : Scans channel clock len k ret dropped) (inside : k < channel.unread)
      (start : Starts (channel.headAt k)) (written : Writen (channel.headAt k))
      (size : channel.Plausible (channel.sizeAt k)) (larger : len < channel.sizeAt k)
      (moved : Moved channel after k dropped) :
      Receives channel clock len ⟨ret.orElse .buffLimit, some (channel.sizeAt k), [], after⟩
  | passed {k m : Nat} {ret : ErrorType} {dropped : Bool} {after : MemChannel}
      (path : Scans channel clock len k ret dropped) (clears : Clears channel len k m)
      (count : memCalcNodeNum channel (channel.sizeAt k) = m - k) (failed : ret ≠ .success)
      (moved : Moved channel after m dropped) :
      Receives channel clock len ⟨ret, none, [], after⟩
  | delivered {k m : Nat} {dropped : Bool} {after : MemChannel}
      (path : Scans channel clock len k .success dropped) (clears : Clears channel len k m)
      (count : memCalcNodeNum channel (channel.sizeAt k) = m - k)
      (moved : Moved channel after m dropped) :
      Receives channel clock len
        ⟨if memFastCheck (memCopyBlock channel (channel.nodeAt k)) ≠ blockFastCheck channel
          (channel.nodeAt k) then
            .badData else .success,
          some (channel.sizeAt k), memCopyBlock channel (channel.nodeAt k), after⟩

section

variable {channel : MemChannel} {clock len k k' : Nat} {ret ret' : ErrorType}
  {dropped dropped' : Bool}

theorem Scans.step (path : Scans channel clock len k ret dropped)
    (step : ScanStep channel clock len ⟨k, ret, dropped⟩ ⟨k', ret', dropped'⟩) :
    Scans channel clock len k' ret' dropped' :=
  Relation.ReflTransGen.tail path step

/-- A scan goes on in one way. -/
theorem scanStep_unique : Relator.RightUnique (ScanStep channel clock len) := by
  intro here next next' step step'
  cases step with
  | debris inside notStart =>
      cases step' with
      | debris => rfl
      | timeout _ start => exact absurd start notStart
      | badSize _ start => exact absurd start notStart
      | badCount clears => exact absurd clears.start notStart
  | timeout inside start unwritten =>
      cases step' with
      | debris _ notStart => exact absurd start notStart
      | timeout => rfl
      | badSize _ _ written => exact absurd written unwritten
      | badCount clears => exact absurd clears.written unwritten
  | badSize inside start written size =>
      cases step' with
      | debris _ notStart => exact absurd start notStart
      | timeout _ _ unwritten => exact absurd written unwritten
      | badSize => rfl
      | badCount clears => exact absurd clears.size size
  | badCount clears =>
      cases step' with
      | debris _ notStart => exact absurd clears.start notStart
      | timeout _ _ unwritten => exact absurd clears.written unwritten
      | badSize _ _ _ implausible => exact absurd clears.size implausible
      | badCount clears' => rw [clears.run.unique clears'.run]

/-- A scan goes forward, and keeps an error once it has one. -/
theorem ScanStep.forward {here next : ScanPlace} (step : ScanStep channel clock len here next) :
    here.place < next.place ∧ (here.ret ≠ .success → next.ret = here.ret) := by
  cases step with
  | debris => exact ⟨Nat.lt_succ_self _, fun _ => rfl⟩
  | timeout => exact ⟨Nat.lt_succ_self _, fun _ => rfl⟩
  | badSize => exact ⟨Nat.lt_succ_self _, fun failed => if_neg failed⟩
  | badCount clears => exact ⟨clears.run.after, fun failed => if_neg failed⟩

end

/-! ### One round of the loop -/

section

variable {channel : MemChannel} {clock len writeCur fuel cursor : Nat} {scan : RecvScan}

theorem memRecvScan_atWrite (atWrite : scan.readBeginCur = writeCur) :
    memRecvScan clock len writeCur (fuel + 1) scan =
      some { scan with readEndCur := scan.readBeginCur, ret := scan.ret.orElse .noData } := by
  rw [memRecvScan]
  exact if_pos atWrite

theorem memRecvScan_debris (notWrite : scan.readBeginCur ≠ writeCur)
    (notStart : ¬Starts (scan.channel.nodeHeads scan.readBeginCur)) :
    memRecvScan clock len writeCur (fuel + 1) scan = memRecvScan clock len writeCur fuel
      { scan with
        readEndCur := scan.readBeginCur
        readBeginCur := memNextIndex scan.channel scan.readBeginCur 1
        channel :=
          { scan.channel with nodeBadCount := Word64.wrap (scan.channel.nodeBadCount + 1) } } := by
  rw [Starts, Bool.not_eq_true] at notStart
  rw [memRecvScan]
  simp only [if_neg notWrite, notStart, Bool.not_false, if_true]

theorem memRecvScan_timeout (notWrite : scan.readBeginCur ≠ writeCur)
    (start : Starts (scan.channel.nodeHeads scan.readBeginCur))
    (unwritten : ¬Writen (scan.channel.nodeHeads scan.readBeginCur))
    (failed : scan.channel.firstFailedWritingTime ≠ 0)
    (expired :
      scan.channel.blockTimeoutCount < stampDistance
        (clockStamp clock) scan.channel.firstFailedWritingTime) :
    memRecvScan clock len writeCur (fuel + 1) scan = memRecvScan clock len writeCur fuel
      { scan with
        readEndCur := scan.readBeginCur
        readBeginCur := memNextIndex scan.channel scan.readBeginCur 1
        channel := { scan.channel with
          blockBadCount := Word64.wrap (scan.channel.blockBadCount + 1)
          nodeBadCount := Word64.wrap (scan.channel.nodeBadCount + 1)
          blockTimeoutCount := Word64.wrap (scan.channel.blockTimeoutCount + 1)
          firstFailedWritingTime := 0 } } := by
  rw [Starts] at start
  rw [Writen, Bool.not_eq_true] at unwritten
  rw [memRecvScan]
  simp only [if_neg notWrite, start, unwritten, Bool.not_false, Bool.not_true, if_true,
    Bool.false_eq_true, if_false, if_neg failed, if_pos expired]

theorem memRecvScan_unfinished (notWrite : scan.readBeginCur ≠ writeCur)
    (start : Starts (scan.channel.nodeHeads scan.readBeginCur))
    (unwritten : ¬Writen (scan.channel.nodeHeads scan.readBeginCur))
    (waits : scan.channel.firstFailedWritingTime = 0 ∨
      stampDistance (clockStamp clock) scan.channel.firstFailedWritingTime ≤
        scan.channel.blockTimeoutCount) :
    memRecvScan clock len writeCur (fuel + 1) scan =
      some { scan with
        readEndCur := scan.readBeginCur
        ret := scan.ret.orElse .noData
        channel := { scan.channel with
          firstFailedWritingTime :=
            if scan.channel.firstFailedWritingTime = 0 then clockStamp clock
            else scan.channel.firstFailedWritingTime } } := by
  rw [Starts] at start
  rw [Writen, Bool.not_eq_true] at unwritten
  rw [memRecvScan]
  simp only [if_neg notWrite, start, unwritten, Bool.not_false, Bool.not_true, if_true,
    Bool.false_eq_true, if_false]
  by_cases fresh : scan.channel.firstFailedWritingTime = 0
  · rw [if_pos fresh, if_pos fresh]
  · have soon := Nat.not_lt_of_le (waits.resolve_left fresh)
    rw [if_neg fresh, if_neg fresh, if_neg soon]

theorem memRecvScan_badSize (notWrite : scan.readBeginCur ≠ writeCur)
    (start : Starts (scan.channel.nodeHeads scan.readBeginCur))
    (written : Writen (scan.channel.nodeHeads scan.readBeginCur))
    (size : ¬scan.channel.Plausible (blockBufferSize scan.channel scan.readBeginCur)) :
    memRecvScan clock len writeCur (fuel + 1) scan = memRecvScan clock len writeCur fuel
      { scan with
        readEndCur := scan.readBeginCur
        ret := scan.ret.orElse .nodeBadBlockBuffSize
        readBeginCur := memNextIndex scan.channel scan.readBeginCur 1
        channel :=
          { scan.channel with nodeBadCount := Word64.wrap (scan.channel.nodeBadCount + 1) } } := by
  rw [Starts] at start
  rw [Writen] at written
  rw [MemChannel.Plausible, not_not] at size
  rw [memRecvScan]
  simp only [if_neg notWrite, start, written, Bool.not_true, Bool.false_eq_true, if_false,
    if_pos size]

theorem memRecvScan_tooLarge (notWrite : scan.readBeginCur ≠ writeCur)
    (start : Starts (scan.channel.nodeHeads scan.readBeginCur))
    (written : Writen (scan.channel.nodeHeads scan.readBeginCur))
    (size : scan.channel.Plausible (blockBufferSize scan.channel scan.readBeginCur))
    (larger : len < blockBufferSize scan.channel scan.readBeginCur) :
    memRecvScan clock len writeCur (fuel + 1) scan =
      some { scan with
        readEndCur := scan.readBeginCur
        ret := scan.ret.orElse .buffLimit
        recvSize := some (blockBufferSize scan.channel scan.readBeginCur) } := by
  rw [Starts] at start
  rw [Writen] at written
  rw [memRecvScan]
  simp only [if_neg notWrite, start, written, Bool.not_true, Bool.false_eq_true, if_false,
    if_neg size, if_pos larger]

/-- A block that is not too large: its nodes are cleared, and it is taken or rejected by their
    number. -/
theorem memRecvScan_cleared {readEnd : Nat} {heads : Nat → MemNodeHead}
    (notWrite : scan.readBeginCur ≠ writeCur)
    (start : Starts (scan.channel.nodeHeads scan.readBeginCur))
    (written : Writen (scan.channel.nodeHeads scan.readBeginCur))
    (size : scan.channel.Plausible (blockBufferSize scan.channel scan.readBeginCur))
    (fits : blockBufferSize scan.channel scan.readBeginCur ≤ len)
    (clears :
      memClearTags scan.channel writeCur (scan.channel.nodeHeads scan.readBeginCur).operationSeq
      (scan.channel.nodeCount + 1) scan.readBeginCur scan.channel.nodeHeads =
        some (readEnd, heads)) :
    memRecvScan clock len writeCur (fuel + 1) scan =
      if memCalcNodeNum scan.channel (blockBufferSize scan.channel scan.readBeginCur) ≠
          (readEnd + scan.channel.nodeCount - scan.readBeginCur) % scan.channel.nodeCount then
        memRecvScan clock len writeCur fuel
          { scan with
            readEndCur := readEnd
            ret := scan.ret.orElse .nodeBadBlockNodeNum
            readBeginCur := memNextIndex scan.channel scan.readBeginCur 1
            channel := { scan.channel with
              nodeHeads := heads
              nodeBadCount := Word64.wrap (scan.channel.nodeBadCount + 1)
              blockBadCount := Word64.wrap (scan.channel.blockBadCount + 1) } }
      else
        some { scan with
          readEndCur := readEnd
          channel := { scan.channel with nodeHeads := heads } } := by
  rw [Starts] at start
  rw [Writen] at written
  rw [memRecvScan]
  simp only [if_neg notWrite, start, written, Bool.not_true, Bool.false_eq_true, if_false,
    if_neg size, if_neg (Nat.not_lt_of_le fits), clears]

end

/-! ### The loop along its path -/

/-- The channel in the middle of a scan. -/
def scanned (channel : MemChannel) (dropped : Bool) (heads : Nat → MemNodeHead)
    (blockBad nodeBad : Nat) : MemChannel :=
  { channel with
    nodeHeads := heads
    firstFailedWritingTime := if dropped then 0 else channel.firstFailedWritingTime
    blockBadCount := blockBad
    blockTimeoutCount :=
      if dropped then Word64.wrap (channel.blockTimeoutCount + 1) else channel.blockTimeoutCount
    nodeBadCount := nodeBad }

/-- Only heads of nodes before a place differ from those of the channel. -/
def KeptFrom (channel : MemChannel) (k : Nat) (heads : Nat → MemNodeHead) : Prop :=
  ∀ index, (∀ i < k, index ≠ channel.nodeAt i) → heads index = channel.nodeHeads index

/-- What a call answers once its scan has ended and the heads of the skipped nodes are reset. -/
def memRecvResult (scan : RecvScan) (heads : Nat → MemNodeHead) : RecvResult :=
  { memDeliver scan with
    channel :=
      { (memDeliver scan).channel with nodeHeads := heads, atomicReadCur := scan.readEndCur } }

/-- The scan has ended at a place: the layout and the data are those of the channel, a scan without
    an error has cleared a run there, and with the heads before the place reset the call ends in one
    of the five ways. -/
structure EndsAt (channel : MemChannel) (clock len : Nat) (scan : RecvScan) (j : Nat) : Prop where
  inside : j ≤ channel.unread
  begins : scan.readBeginCur = channel.nodeAt j
  others : ∃ dropped heads blockBad nodeBad first, scan.channel =
    { scanned channel dropped heads blockBad nodeBad with firstFailedWritingTime := first }
  clears : scan.ret = .success → ∃ m, Clears channel len j m
  receives : ∀ heads, (∀ i < j, heads (channel.nodeAt i) = .clean) →
    (∀ index, (∀ i < j, index ≠ channel.nodeAt i) →
      heads index = (memDeliver scan).channel.nodeHeads index) →
    Receives channel clock len (memRecvResult scan heads)

/-- The scan has ended. -/
def Ends (channel : MemChannel) (clock len : Nat) (scan : RecvScan) : Prop :=
  ∃ j, EndsAt channel clock len scan j

section

variable {channel : MemChannel} {clock len k m j fuel readEnd blockBad nodeBad : Nat}
  {ret : ErrorType} {dropped : Bool} {heads cleared : Nat → MemNodeHead}

theorem KeptFrom.head (kept : KeptFrom channel k heads) (cursors : channel.CursorsIn)
    (lower : k ≤ j) (inside : j ≤ channel.unread) :
    heads (channel.nodeAt j) = channel.headAt j := by
  apply kept
  intro i before same
  have equal := (cursors.nodeAt_inj inside (show i ≤ channel.unread by omega)).mp same
  omega

theorem KeptFrom.mono (kept : KeptFrom channel k heads) (later : k ≤ m) :
    KeptFrom channel m heads :=
  fun index apart => kept index fun i before => apart i (Nat.lt_of_lt_of_le before later)

theorem not_starts_clean : ¬Starts .clean := by decide

theorem sizeAt_scanned :
    blockBufferSize (scanned channel dropped heads blockBad nodeBad) (channel.nodeAt k) =
      channel.sizeAt k := rfl

theorem plausible_scanned {size : Nat} :
    (scanned channel dropped heads blockBad nodeBad).Plausible size ↔ channel.Plausible size :=
  Iff.rfl

theorem memCalcNodeNum_scanned {size : Nat} :
    memCalcNodeNum (scanned channel dropped heads blockBad nodeBad) size =
      memCalcNodeNum channel size := rfl

theorem memNextIndex_scanned :
    memNextIndex (scanned channel dropped heads blockBad nodeBad) (channel.nodeAt j) 1 =
    channel.nodeAt (j + 1) :=
  memNextIndex_nodeAt rfl

/-- A clean node is skipped. -/
theorem memRecvScan_clean (cursors : channel.CursorsIn) (inside : j < channel.unread)
    (clean : heads (channel.nodeAt j) = .clean) :
    memRecvScan clock len channel.atomicWriteCur (fuel + 1)
        ⟨scanned channel dropped heads blockBad nodeBad, ret, channel.nodeAt j, readEnd, none⟩ =
      memRecvScan clock len channel.atomicWriteCur fuel
        ⟨scanned channel dropped heads blockBad (Word64.wrap (nodeBad + 1)), ret,
          channel.nodeAt (j + 1), channel.nodeAt j, none⟩ := by
  have notWrite : channel.nodeAt j ≠ channel.atomicWriteCur := by
    rw [Ne, cursors.atWrite_iff inside.le]
    exact inside.ne
  have notStart : ¬Starts (heads (channel.nodeAt j)) := by
    rw [clean]
    exact not_starts_clean
  rw [memRecvScan_debris notWrite notStart]
  dsimp only
  rw [memNextIndex_scanned]
  rfl

/-- What the reader compares with its clock, in the middle of a scan. -/
theorem waits_scanned (waits : dropped = true ∨ channel.firstFailedWritingTime = 0 ∨
    stampDistance (clockStamp clock) channel.firstFailedWritingTime ≤ channel.blockTimeoutCount) :
    (scanned channel dropped heads blockBad nodeBad).firstFailedWritingTime = 0 ∨
      stampDistance (clockStamp clock)
        (scanned channel dropped heads blockBad nodeBad).firstFailedWritingTime ≤
        (scanned channel dropped heads blockBad nodeBad).blockTimeoutCount := by
  cases dropped with
  | true => exact .inl rfl
  | false => exact waits.resolve_left Bool.false_ne_true

/-- The time that the reader has stored after it waited. -/
theorem time_scanned :
    (if (scanned channel dropped heads blockBad nodeBad).firstFailedWritingTime = 0 then
      clockStamp clock
        else (scanned channel dropped heads blockBad nodeBad).firstFailedWritingTime) =
    if dropped = true ∨ channel.firstFailedWritingTime = 0 then clockStamp clock
    else channel.firstFailedWritingTime := by
  cases dropped with
  | true => simp [scanned]
  | false => simp [scanned]

/-- The nodes that a rejected block has left clean are skipped. -/
theorem memRecvScan_skip (cursors : channel.CursorsIn) (inside : m ≤ channel.unread) {rest : Nat} :
    ∀ {j fuel readEnd nodeBad : Nat}, j + rest = m →
      (∀ i, j ≤ i → i < m → heads (channel.nodeAt i) = .clean) →
      ∃ readEnd' nodeBad',
        memRecvScan clock len channel.atomicWriteCur (fuel + rest)
            ⟨scanned channel dropped heads blockBad nodeBad, ret, channel.nodeAt j, readEnd, none⟩ =
          memRecvScan clock len channel.atomicWriteCur fuel
            ⟨scanned channel dropped heads blockBad nodeBad', ret, channel.nodeAt m, readEnd',
              none⟩ := by
  induction rest with
  | zero =>
      intro j fuel readEnd nodeBad total _
      obtain rfl : j = m := total
      exact ⟨readEnd, nodeBad, rfl⟩
  | succ rest ih =>
      intro j fuel readEnd nodeBad total clean
      have round :=
        @memRecvScan_clean channel clock len j (fuel + rest) readEnd blockBad nodeBad ret dropped
          heads cursors (by omega) (clean j le_rfl (by omega))
      obtain ⟨readEnd', nodeBad', later⟩ :=
        @ih (j + 1) fuel (channel.nodeAt j) (Word64.wrap (nodeBad + 1))
        (by omega) fun i lower upper => clean i (by omega) upper
      exact ⟨readEnd', nodeBad', round.trans later⟩

/-- The loop that clears a block runs to the end of the run of its first node. -/
theorem memClearTags_run (cursors : channel.CursorsIn) (kept : KeptFrom channel k heads)
    (run : SameTag channel k m) :
    ∃ cleared, memClearTags (scanned channel dropped heads blockBad nodeBad) channel.atomicWriteCur
        (channel.headAt k).operationSeq (channel.nodeCount + 1) (channel.nodeAt k) heads =
          some (channel.nodeAt m, cleared) ∧
      (∀ i, k ≤ i → i < m → cleared (channel.nodeAt i) = .clean) ∧ KeptFrom channel m cleared := by
  have below := cursors.unread_lt
  have after := run.after
  have inside := run.unread
  have same : ∀ j, k ≤ j → j < m → channel.nodeAt j ≠ channel.atomicWriteCur ∧
      (heads (channel.nodeAt j)).operationSeq = (channel.headAt k).operationSeq := by
    intro j lower upper
    refine ⟨?_, ?_⟩
    · rw [Ne, cursors.atWrite_iff (by omega)]
      omega
    · rw [kept.head cursors lower (by omega)]
      exact run.same j lower upper
  have stop : channel.nodeAt m = channel.atomicWriteCur ∨
      (heads (channel.nodeAt m)).operationSeq ≠ (channel.headAt k).operationSeq := by
    rw [cursors.atWrite_iff inside, kept.head cursors after.le inside]
    exact run.stops
  obtain ⟨cleared, walk, clean, others⟩ :=
    @memClearTags_walk (scanned channel dropped heads blockBad nodeBad)
    channel.atomicWriteCur (channel.headAt k).operationSeq channel.atomicReadCur m (m - k) k
      (channel.nodeCount + 1)
    heads (by omega) (show m < channel.nodeCount by omega) (by omega) same stop
  refine ⟨cleared, walk, clean, fun index apart => ?_⟩
  rw [others index fun j _ upper => apart j upper]
  exact kept index fun i before => apart i (by omega)

/-- The reset goes over the nodes from one place to another. -/
theorem memResetHeads_walk (cursors : channel.CursorsIn) (inside : j ≤ channel.unread)
    {other : MemChannel} (same : other.nodeCount = channel.nodeCount) {rest : Nat} :
    ∀ {i fuel : Nat} {heads : Nat → MemNodeHead}, i + rest = j → rest < fuel →
      ∃ reset, memResetHeads other (channel.nodeAt j) fuel (channel.nodeAt i) heads = some reset ∧
        (∀ l, i ≤ l → l < j → reset (channel.nodeAt l) = .clean) ∧
        ∀ index, (∀ l, i ≤ l → l < j → index ≠ channel.nodeAt l) → reset index = heads index := by
  induction rest with
  | zero =>
      intro i fuel heads total enough
      obtain ⟨fuel, rfl⟩ := Nat.exists_eq_add_one_of_ne_zero (Nat.ne_of_gt enough)
      obtain rfl : i = j := total
      refine ⟨heads, ?_, fun l lower upper => ?_, fun _ _ => rfl⟩
      · rw [memResetHeads]
        exact if_pos rfl
      · omega
  | succ rest ih =>
      intro i fuel heads total enough
      obtain ⟨fuel, rfl⟩ := Nat.exists_eq_add_one_of_ne_zero (Nat.ne_zero_of_lt enough)
      obtain ⟨reset, walked, clean, others⟩ :=
        @ih (i + 1) fuel (Function.update heads (channel.nodeAt i) .clean)
        (by omega) (by omega)
      have notYet : channel.nodeAt i ≠ channel.nodeAt j := by
        rw [Ne, cursors.nodeAt_inj (by omega) inside]
        omega
      refine ⟨reset, ?_, fun l lower upper => ?_, fun index apart => ?_⟩
      · rw [memResetHeads, if_neg notYet, memNextIndex_nodeAt same]
        exact walked
      · rcases Nat.lt_or_eq_of_le lower with later | rfl
        · exact clean l later upper
        · rw [others (channel.nodeAt i) fun l lower' upper' same' => ?_, Function.update_self]
          have equal := (cursors.nodeAt_inj (by omega) (by omega)).mp same'
          omega
      · rw [others index fun l lower upper => apart l (by omega) upper,
          Function.update_of_ne (apart i le_rfl (by omega))]

/-- The number of nodes that the reader finds in a run. -/
theorem dist_run (cursors : channel.CursorsIn) (run : SameTag channel k m) :
    (channel.nodeAt m + channel.nodeCount - channel.nodeAt k) % channel.nodeCount = m - k := by
  have below := cursors.unread_lt
  have after := run.after
  have inside := run.unread
  have ahead : channel.nodeAt m = slot channel.nodeCount (channel.nodeAt k) (m - k) := by
    rw [MemChannel.nodeAt, MemChannel.nodeAt, slot_slot, Nat.add_sub_cancel' after.le]
  rw [ahead]
  exact dist_slot (cursors.nodeAt_lt k) (by omega)

theorem memDeliver_failed {other : MemChannel} {begins ends : Nat} {recvSize : Option Nat}
    (failed : ret ≠ .success) :
    memDeliver ⟨other, ret, begins, ends, recvSize⟩ = ⟨ret, recvSize, [], other⟩ :=
  if_pos failed

theorem memDeliver_success {begins ends : Nat} :
    memDeliver ⟨scanned channel dropped heads blockBad nodeBad, .success,
    begins, ends, none⟩ =
      ⟨if memFastCheck (memCopyBlock channel begins) ≠ blockFastCheck channel begins then .badData
        else .success,
        some (blockBufferSize channel begins), memCopyBlock channel begins,
        { scanned channel dropped heads blockBad nodeBad with firstFailedWritingTime := 0 }⟩ := rfl

/-- A scan that stops without taking a block. -/
theorem ends_of_stop {first : Nat} {recvSize : Option Nat} (inside : k ≤ channel.unread)
    (failed : ret ≠ .success) (kept : KeptFrom channel k heads)
    (receives : ∀ after : MemChannel, after.firstFailedWritingTime = first →
      Moved channel after k dropped → Receives channel clock len ⟨ret, recvSize, [], after⟩) :
    Ends channel clock len ⟨{ scanned channel dropped heads blockBad nodeBad with
      firstFailedWritingTime := first },
      ret, channel.nodeAt k, channel.nodeAt k, recvSize⟩ := by
  refine ⟨k, inside, rfl, ⟨_, _, _, _, _, rfl⟩, fun success => absurd success failed,
    fun reset clean same => ?_⟩
  rw [memRecvResult, memDeliver_failed failed]
  rw [memDeliver_failed failed] at same
  apply receives _ rfl
  have untouched : ∀ index, (∀ i < k, index ≠ channel.nodeAt i) →
      reset index = channel.nodeHeads index := by
    intro index apart
    rw [same index apart]
    exact kept index apart
  exact ⟨rfl, clean, untouched⟩

theorem orElse_ne {ret other : ErrorType} (failed : other ≠ .success) :
    ret.orElse other ≠ .success := by
  rw [ErrorType.orElse]
  split
  · exact failed
  · assumption

/-- A scan that stops behind a block whose number of nodes is right. -/
theorem ends_of_taken (cursors : channel.CursorsIn) (path : Scans channel clock len k ret dropped)
    (clears : Clears channel len k m) (count : memCalcNodeNum channel (channel.sizeAt k) = m - k)
    (kept : KeptFrom channel m cleared)
    (clean : ∀ i, k ≤ i → i < m → cleared (channel.nodeAt i) = .clean) :
    Ends channel clock len ⟨scanned channel dropped cleared blockBad nodeBad, ret, channel.nodeAt k,
      channel.nodeAt m, none⟩ := by
  have inside := clears.inside
  have after := clears.run.after
  have last := clears.run.unread
  have moved : ∀ (reset : Nat → MemNodeHead) (first : Nat),
      (∀ i < k, reset (channel.nodeAt i) = .clean) →
      (∀ index, (∀ i < k, index ≠ channel.nodeAt i) → reset index = cleared index) →
      Moved channel { scanned channel dropped cleared blockBad nodeBad with
        firstFailedWritingTime := first
        nodeHeads := reset
        atomicReadCur := channel.nodeAt m } m dropped := by
    intro reset first before same
    have behind : ∀ i < m, reset (channel.nodeAt i) = .clean := by
      intro i upper
      by_cases early : i < k
      · exact before i early
      · rw [same _ fun l lower equal => ?_]
        · exact clean i (Nat.le_of_not_lt early) upper
        · have index := (cursors.nodeAt_inj (by omega) (by omega)).mp equal
          omega
    have untouched : ∀ index, (∀ i < m, index ≠ channel.nodeAt i) →
        reset index = channel.nodeHeads index := by
      intro index apart
      rw [same index fun i lower => apart i (Nat.lt_trans lower after)]
      exact kept index apart
    exact ⟨rfl, behind, untouched⟩
  refine ⟨k, inside.le, rfl, ⟨_, _, _, _, _, rfl⟩, fun _ => ⟨m, clears⟩,
    fun reset reset' same => ?_⟩
  by_cases failed : ret = .success
  · subst failed
    rw [memRecvResult, memDeliver_success]
    rw [memDeliver_success] at same
    have delivered := Receives.delivered path clears count (moved reset 0 reset' same)
    dsimp only at delivered ⊢
    exact delivered
  · rw [memRecvResult, memDeliver_failed failed]
    rw [memDeliver_failed failed] at same
    exact .passed path clears count failed (moved reset _ reset' same)

/-- From a place of its path on, the loop comes to one of its ends. -/
def EndsFrom (channel : MemChannel) (clock len fuel k : Nat) : Prop :=
  ∀ {readEnd blockBad nodeBad : Nat} {ret : ErrorType} {dropped : Bool} {heads : Nat → MemNodeHead},
    Scans channel clock len k ret dropped → KeptFrom channel k heads →
    ∃ scan, memRecvScan clock len channel.atomicWriteCur fuel
        ⟨scanned channel dropped heads blockBad nodeBad, ret, channel.nodeAt k, readEnd, none⟩ =
        some scan ∧
      Ends channel clock len scan

theorem endsFrom_unread (cursors : channel.CursorsIn) :
    EndsFrom channel clock len (fuel + 1) channel.unread := by
  intro readEnd blockBad nodeBad ret dropped heads path kept
  refine ⟨_, memRecvScan_atWrite cursors.nodeAt_unread, ?_⟩
  apply ends_of_stop le_rfl (orElse_ne (by decide)) kept
  intro after _ moved
  exact .drained path moved

/-- The write cursor is ahead of the place of an unread node. -/
theorem MemChannel.CursorsIn.notWrite (cursors : channel.CursorsIn) (inside : k < channel.unread) :
    channel.nodeAt k ≠ channel.atomicWriteCur := by
  rw [Ne, cursors.atWrite_iff inside.le]
  exact Nat.ne_of_lt inside

/-- The loop goes on behind a node that is no first node. -/
theorem EndsFrom.debris (later : EndsFrom channel clock len fuel (k + 1))
    (cursors : channel.CursorsIn) (inside : k < channel.unread)
    (start : ¬Starts (channel.headAt k)) : EndsFrom channel clock len (fuel + 1) k := by
  intro readEnd blockBad nodeBad ret dropped heads path kept
  have round := @later (channel.nodeAt k) blockBad (Word64.wrap (nodeBad + 1)) ret dropped heads
    (path.step (.debris inside start)) (kept.mono (Nat.le_succ k))
  rw [← kept.head cursors le_rfl inside.le] at start
  rw [memRecvScan_debris (cursors.notWrite inside) start]
  dsimp only
  rw [memNextIndex_scanned]
  exact round

/-- At a block that is not finished the loop waits, or goes on when its time is out. -/
theorem EndsFrom.unfinished (later : EndsFrom channel clock len fuel (k + 1))
    (cursors : channel.CursorsIn) (inside : k < channel.unread) (start : Starts (channel.headAt k))
    (unwritten : ¬Writen (channel.headAt k)) : EndsFrom channel clock len (fuel + 1) k := by
  intro readEnd blockBad nodeBad ret dropped heads path kept
  have notWrite := cursors.notWrite inside
  have head := kept.head cursors le_rfl inside.le
  have start' : Starts (heads (channel.nodeAt k)) := head.symm ▸ start
  have unwritten' : ¬Writen (heads (channel.nodeAt k)) := head.symm ▸ unwritten
  by_cases expired : dropped = false ∧ channel.firstFailedWritingTime ≠ 0 ∧
      channel.blockTimeoutCount < stampDistance (clockStamp clock) channel.firstFailedWritingTime
  · obtain ⟨rfl, failed, expired⟩ := expired
    have round :=
      @later (channel.nodeAt k) (Word64.wrap (blockBad + 1)) (Word64.wrap (nodeBad + 1)) ret true
        heads (path.step (.timeout inside start unwritten failed expired))
        (kept.mono (Nat.le_succ k))
    rw [memRecvScan_timeout notWrite start' unwritten' failed expired]
    dsimp only
    rw [memNextIndex_scanned]
    exact round
  · have waits : dropped = true ∨ channel.firstFailedWritingTime = 0 ∨
        stampDistance (clockStamp clock) channel.firstFailedWritingTime ≤
          channel.blockTimeoutCount := by
      cases dropped with
      | true => exact .inl rfl
      | false =>
          by_cases fresh : channel.firstFailedWritingTime = 0
          · exact .inr (.inl fresh)
          · exact .inr (.inr (Nat.le_of_not_lt fun late => expired ⟨rfl, fresh, late⟩))
    rw [memRecvScan_unfinished notWrite start' unwritten' (waits_scanned waits)]
    refine ⟨_, rfl, ?_⟩
    apply ends_of_stop inside.le (orElse_ne (by decide)) kept
    intro after time moved
    apply Receives.unfinished path inside start unwritten waits ?_ moved
    rw [time]
    exact time_scanned

theorem size_scanned : (scanned channel dropped heads blockBad nodeBad).Plausible
    (blockBufferSize (scanned channel dropped heads blockBad nodeBad) (channel.nodeAt k)) ↔
      channel.Plausible (channel.sizeAt k) := by
  rw [sizeAt_scanned, plausible_scanned]

/-- The loop goes on behind the first node of a block of an implausible size. -/
theorem EndsFrom.badSize (later : EndsFrom channel clock len fuel (k + 1))
    (cursors : channel.CursorsIn) (inside : k < channel.unread) (start : Starts (channel.headAt k))
    (written : Writen (channel.headAt k)) (size : ¬channel.Plausible (channel.sizeAt k)) :
    EndsFrom channel clock len (fuel + 1) k := by
  intro readEnd blockBad nodeBad ret dropped heads path kept
  have round :=
    @later (channel.nodeAt k) blockBad (Word64.wrap (nodeBad + 1))
      (ret.orElse .nodeBadBlockBuffSize)
      dropped heads (path.step (.badSize inside start written size)) (kept.mono (Nat.le_succ k))
  rw [← kept.head cursors le_rfl inside.le] at start written
  rw [memRecvScan_badSize (cursors.notWrite inside) start written]
  · dsimp only
    rw [memNextIndex_scanned]
    exact round
  · exact mt size_scanned.mp size

theorem endsFrom_tooLarge (cursors : channel.CursorsIn) (inside : k < channel.unread)
    (start : Starts (channel.headAt k)) (written : Writen (channel.headAt k))
    (size : channel.Plausible (channel.sizeAt k)) (larger : len < channel.sizeAt k) :
    EndsFrom channel clock len (fuel + 1) k := by
  intro readEnd blockBad nodeBad ret dropped heads path kept
  have head := kept.head cursors le_rfl inside.le
  have start' : Starts (heads (channel.nodeAt k)) := head.symm ▸ start
  have written' : Writen (heads (channel.nodeAt k)) := head.symm ▸ written
  rw [memRecvScan_tooLarge (cursors.notWrite inside) start' written']
  · refine ⟨_, rfl, ?_⟩
    apply ends_of_stop inside.le (orElse_ne (by decide)) kept
    intro after _ moved
    exact .tooLarge path inside start written size larger moved
  · exact size_scanned.mpr size
  · exact larger

/-- The run of a block that fits is cleared. With the right number of nodes the loop has its block;
    otherwise it goes over the clean nodes to the place behind the run. -/
theorem EndsFrom.block {rounds : Nat} (later : EndsFrom channel clock len rounds m)
    (cursors : channel.CursorsIn) (here : Clears channel len k m) :
    EndsFrom channel clock len (rounds + (m - (k + 1)) + 1) k := by
  intro readEnd blockBad nodeBad ret dropped heads path kept
  have head := kept.head cursors le_rfl here.inside.le
  have start : Starts (heads (channel.nodeAt k)) := head.symm ▸ here.start
  have written : Writen (heads (channel.nodeAt k)) := head.symm ▸ here.written
  have after := here.run.after
  obtain ⟨cleared, clears, clean, kept'⟩ :=
    @memClearTags_run channel k m blockBad nodeBad dropped heads cursors kept here.run
  rw [← head] at clears
  rw [memRecvScan_cleared (cursors.notWrite here.inside) start written]
  rotate_left
  · exact size_scanned.mpr here.size
  · exact here.fits
  · exact clears
  have number :
      (channel.nodeAt m + (scanned channel dropped heads blockBad nodeBad).nodeCount -
        channel.nodeAt k) %
      (scanned channel dropped heads blockBad nodeBad).nodeCount = m - k :=
        dist_run cursors here.run
  dsimp only
  rw [sizeAt_scanned, memCalcNodeNum_scanned, number]
  by_cases count : memCalcNodeNum channel (channel.sizeAt k) = m - k
  · rw [if_neg (not_not.mpr count)]
    refine ⟨_, rfl, ?_⟩
    exact ends_of_taken cursors path here count kept' clean
  · rw [if_pos count, memNextIndex_scanned]
    obtain ⟨readEnd', nodeBad', skipped⟩ := @memRecvScan_skip channel clock len m
      (Word64.wrap (blockBad + 1)) (ret.orElse .nodeBadBlockNodeNum) dropped cleared cursors
      here.run.unread
      (m - (k + 1)) (k + 1) rounds (channel.nodeAt m) (Word64.wrap (nodeBad + 1)) (by omega)
      fun i lower => clean i (by omega)
    have round :=
      @later readEnd' (Word64.wrap (blockBad + 1)) nodeBad' (ret.orElse .nodeBadBlockNodeNum)
        dropped cleared (path.step (.badCount here count)) kept'
    rw [← skipped] at round
    exact round

/-- With enough rounds left the loop comes to an end from every place. -/
theorem endsFrom (cursors : channel.CursorsIn) {rest : Nat} :
    ∀ {k fuel : Nat}, k + rest = channel.unread → rest < fuel →
      EndsFrom channel clock len fuel k := by
  induction rest using Nat.strong_induction_on with
  | _ rest ih =>
      intro k fuel total enough
      obtain ⟨fuel, rfl⟩ := Nat.exists_eq_add_one_of_ne_zero (Nat.ne_zero_of_lt enough)
      by_cases last : k = channel.unread
      · subst last
        exact endsFrom_unread cursors
      have inside : k < channel.unread := by omega
      have later : EndsFrom channel clock len fuel (k + 1) :=
        ih (rest - 1) (by omega) (by omega) (by omega)
      by_cases start : Starts (channel.headAt k)
      case neg => exact later.debris cursors inside start
      by_cases written : Writen (channel.headAt k)
      case neg => exact later.unfinished cursors inside start written
      by_cases size : channel.Plausible (channel.sizeAt k)
      case neg => exact later.badSize cursors inside start written size
      by_cases larger : len < channel.sizeAt k
      · exact endsFrom_tooLarge cursors inside start written size larger
      · obtain ⟨m, run⟩ := exists_sameTag inside
        have after := run.after
        have within := run.unread
        obtain ⟨rounds, rfl⟩ : ∃ rounds, fuel = rounds + (m - (k + 1)) :=
          ⟨fuel - (m - (k + 1)), by omega⟩
        have behind : EndsFrom channel clock len rounds m :=
          ih (rest - (m - k)) (by omega) (by omega) (by omega)
        exact behind.block cursors ⟨inside, start, written, size, Nat.le_of_not_lt larger, run⟩

/-- The scan of a call ends. -/
theorem memRecvScan_start (cursors : channel.CursorsIn) (clock len : Nat) : ∃ scan,
    memRecvScan clock len channel.atomicWriteCur (channel.nodeCount + 1)
      ⟨channel, .success, channel.atomicReadCur, channel.atomicReadCur, none⟩ = some scan ∧
    Ends channel clock len scan := by
  have below := cursors.unread_lt
  have ends : EndsFrom channel clock len (channel.nodeCount + 1) 0 :=
    endsFrom cursors (Nat.zero_add _) (by omega)
  have ended :=
    @ends channel.atomicReadCur channel.blockBadCount channel.nodeBadCount .success false
      channel.nodeHeads
    .refl fun _ _ => rfl
  rw [cursors.nodeAt_zero] at ended
  exact ended

/-- The reset of the heads before the place where a scan has ended. -/
theorem memResetHeads_start (cursors : channel.CursorsIn) (inside : j ≤ channel.unread)
    (heads : Nat → MemNodeHead) :
    ∃ reset,
      memResetHeads channel (channel.nodeAt j) (channel.nodeCount + 1) channel.atomicReadCur heads =
        some reset ∧
      (∀ i < j, reset (channel.nodeAt i) = .clean) ∧
      ∀ index, (∀ i < j, index ≠ channel.nodeAt i) → reset index = heads index := by
  have below := cursors.unread_lt
  obtain ⟨reset, walked, clean, others⟩ :=
    @memResetHeads_walk channel j cursors inside channel rfl j 0
    (channel.nodeCount + 1) heads (Nat.zero_add j) (by omega)
  rw [cursors.nodeAt_zero] at walked
  exact ⟨reset, walked, fun i => clean i (Nat.zero_le i), fun index apart => others index fun i _ =>
    apart i⟩

/-- Every call returns, and ends in one of the five ways. -/
theorem memRecv_receives (cursors : channel.CursorsIn) (clock len : Nat) :
    ∃ result, memRecv clock channel len = some result ∧ Receives channel clock len result := by
  obtain ⟨scan, looped, j, ended⟩ := memRecvScan_start cursors clock len
  obtain ⟨reset, walked, clean, others⟩ :=
    memResetHeads_start cursors ended.inside (memDeliver scan).channel.nodeHeads
  refine ⟨memRecvResult scan reset, ?_, ended.receives reset clean others⟩
  rw [memRecv]
  dsimp only
  rw [looped]
  dsimp only
  rw [ended.begins, walked]
  rfl

end

/-! ### Where a call ends -/

section

variable {channel after : MemChannel} {clock len k m e : Nat} {ret ret' : ErrorType}
  {dropped dropped' : Bool} {here there : ScanPlace} {result : RecvResult}

theorem scanned_forward (rest : Relation.ReflTransGen (ScanStep channel clock len) here there) :
    here.place ≤ there.place ∧ (here.ret ≠ .success → there.ret = here.ret) := by
  induction rest with
  | refl => exact ⟨le_rfl, fun _ => rfl⟩
  | tail _ step ih =>
      obtain ⟨less, keeps⟩ := step.forward
      refine ⟨ih.1.trans less.le, fun failed => ?_⟩
      have before := ih.2 failed
      rw [← before] at failed
      exact (keeps failed).trans before

/-- The codes that a scan collects. -/
theorem Scans.code (path : Scans channel clock len k ret dropped) :
    ret = .success ∨ ret = .nodeBadBlockBuffSize ∨ ret = .nodeBadBlockNodeNum := by
  have codes : ∀ {there : ScanPlace},
      Relation.ReflTransGen (ScanStep channel clock len) ⟨0, .success, false⟩ there →
      there.ret = .success ∨ there.ret = .nodeBadBlockBuffSize ∨
      there.ret = .nodeBadBlockNodeNum := by
    intro there rest
    induction rest with
    | refl => exact .inl rfl
    | tail _ step ih =>
        cases step with
        | debris => exact ih
        | timeout => exact ih
        | badSize =>
            dsimp only at ih ⊢
            rcases ih with rfl | rfl | rfl <;> decide
        | badCount =>
            dsimp only at ih ⊢
            rcases ih with rfl | rfl | rfl <;> decide
  exact codes path

/-- A path whose end allows no step passes through every place that the scan comes to. -/
theorem Scans.through (path : Scans channel clock len k ret dropped)
    (path' : Scans channel clock len e ret' dropped')
    (ends : ∀ next, ¬ScanStep channel clock len ⟨e, ret', dropped'⟩ next) :
    Relation.ReflTransGen (ScanStep channel clock len) ⟨k, ret, dropped⟩ ⟨e, ret', dropped'⟩ := by
  rcases Relation.ReflTransGen.total_of_right_unique scanStep_unique path path' with ahead | behind
  · exact ahead
  · rcases behind.cases_head with same | ⟨next, step, -⟩
    · rw [same]
    · exact absurd step (ends next)

/-- The scan stops at a block whose number of nodes is right. -/
theorem Clears.no_step (clears : Clears channel len k m)
    (count : memCalcNodeNum channel (channel.sizeAt k) = m - k) (next : ScanPlace) :
    ¬ScanStep channel clock len ⟨k, ret, dropped⟩ next := by
  intro step
  cases step with
  | debris _ notStart => exact notStart clears.start
  | timeout _ _ unwritten => exact unwritten clears.written
  | badSize _ _ _ implausible => exact implausible clears.size
  | badCount clears' count' =>
      rw [← clears.run.unique clears'.run] at count'
      exact count' count

theorem Moved.readCur (moved : Moved channel after m dropped) :
    after.atomicReadCur = channel.nodeAt m := by
  rw [moved.others]

theorem Moved.dataArea (moved : Moved channel after m dropped) :
    after.dataArea = channel.dataArea := by
  rw [moved.others]

/-- A call scans to a place that allows no step, clears the heads up to there, or behind the run of
    that place if the scan clears it, and keeps an error once it has one. -/
theorem Receives.ended (receives : Receives channel clock len result) : ∃ e ret dropped c,
    Scans channel clock len e ret dropped ∧
    (∀ next, ¬ScanStep channel clock len ⟨e, ret, dropped⟩ next) ∧
      e ≤ c ∧ c ≤ channel.unread ∧ (∀ m, Clears channel len e m → c = m) ∧
      Moved channel result.channel c dropped ∧ (ret ≠ .success → result.ret = ret) := by
  cases receives with
  | drained path moved =>
      refine ⟨_, _, _, _, path, fun next step => ?_, le_rfl, le_rfl, fun m clears => ?_, moved,
        fun failed => if_neg failed⟩
      · cases step with
        | debris inside => exact absurd inside (Nat.lt_irrefl _)
        | timeout inside => exact absurd inside (Nat.lt_irrefl _)
        | badSize inside => exact absurd inside (Nat.lt_irrefl _)
        | badCount clears => exact absurd clears.inside (Nat.lt_irrefl _)
      · exact absurd clears.inside (Nat.lt_irrefl _)
  | unfinished path inside start unwritten waits time moved =>
      refine ⟨_, _, _, _, path, fun next step => ?_, le_rfl, inside.le, fun m clears => ?_, moved,
        fun failed => if_neg failed⟩
      · cases step with
        | debris _ notStart => exact notStart start
        | timeout _ _ _ failed expired =>
            rcases waits with before | fresh | soon
            · cases before
            · exact failed fresh
            · exact Nat.not_lt_of_le soon expired
        | badSize _ _ written => exact unwritten written
        | badCount clears => exact unwritten clears.written
      · exact absurd clears.written unwritten
  | tooLarge path inside start written size larger moved =>
      refine ⟨_, _, _, _, path, fun next step => ?_, le_rfl, inside.le, fun m clears => ?_, moved,
        fun failed => if_neg failed⟩
      · cases step with
        | debris _ notStart => exact notStart start
        | timeout _ _ unwritten => exact unwritten written
        | badSize _ _ _ implausible => exact implausible size
        | badCount clears => exact Nat.not_lt_of_le clears.fits larger
      · exact absurd larger (Nat.not_lt_of_le clears.fits)
  | passed path clears count failed moved =>
      exact ⟨_, _, _, _, path, clears.no_step count, clears.run.after.le, clears.run.unread,
        fun m clears' => clears.run.unique clears'.run, moved, fun _ => rfl⟩
  | delivered path clears count moved =>
      exact ⟨_, _, _, _, path, clears.no_step count, clears.run.after.le, clears.run.unread,
        fun m clears' => clears.run.unique clears'.run, moved, fun failed => absurd rfl failed⟩

end

end LibAtbus.Channel
