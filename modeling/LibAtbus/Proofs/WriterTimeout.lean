/-
Module: LibAtbus.Proofs.WriterTimeout
Layer: Proofs
Purpose: How long the reader waits for the writer of an unfinished block. It compares the time since
  its first failure with `block_timeout_count`, the number of blocks it has dropped before, where
  `conf_send_timeout_ms` was meant; so whether a writer is given its time depends on the counter and
  the stored time that the channel already has.
Trusted boundary: none
Main exports: OldestUnfinished, recvRun, Skipped, GivesTime, StampsNear, writer_given_time_iff
-/
import LibAtbus.Proofs.MemScan

namespace LibAtbus.Channel

open ByteMemory RingIndex

/-- The oldest block is unfinished: the first node with a start mark is not marked as written. -/
structure OldestUnfinished (channel : MemChannel) (u : Nat) : Prop where
  inside : u < channel.unread
  before : ∀ k < u, ¬Starts (channel.headAt k)
  start : Starts (channel.headAt u)
  unwritten : ¬Writen (channel.headAt u)

/-- Calls of `mem_recv`, each with its reading of `clock()` and the length of its buffer. -/
def recvRun (channel : MemChannel) (calls : List (Nat × Nat)) : Option MemChannel :=
  (memCalls channel (calls.map fun call => .recv call.1 call.2)).map Prod.snd

/-- The read cursor has moved past the node, or its head is changed. -/
def Skipped (channel : MemChannel) (u : Nat) (after : MemChannel) : Prop :=
  u < RingIndex.dist channel.nodeCount channel.atomicReadCur after.atomicReadCur ∨
    after.nodeHeads (channel.nodeAt u) ≠ channel.headAt u

/-- Readings of `clock()` that do not go back. They are nonnegative values of `clock_t`, in
    microseconds. -/
structure Readings (calls : List (Nat × Nat)) : Prop where
  sorted : calls.Pairwise fun call later => call.1 ≤ later.1
  clock : ∀ call ∈ calls, call.1 < 2 ^ 63

/-- No run of calls skips the unfinished block at a place before `conf_send_timeout_ms` have gone by
    since the first of them. -/
def GivesTime (channel : MemChannel) (u : Nat) : Prop :=
  ∀ calls final, Readings calls → recvRun channel calls = some final → Skipped channel u final →
    ∃ first ∈ calls.head?, ∃ last ∈ calls.getLast?,
      first.1 + 1000 * channel.conf.confSendTimeoutMs ≤ last.1

/-- The condition on the state before the calls: nothing has to be waited for; or a time is stored,
    and no reading is further from it than `block_timeout_count`; or no two readings that are closer
    than `conf_send_timeout_ms` are further apart than that. -/
def StampsNear (channel : MemChannel) : Prop :=
  channel.conf.confSendTimeoutMs = 0 ∨
    (channel.firstFailedWritingTime ≠ 0 ∧ ∀ clock < 2 ^ 63,
      stampDistance (clockStamp clock) channel.firstFailedWritingTime ≤ channel.blockTimeoutCount) ∨
    (channel.firstFailedWritingTime = 0 ∧ ∀ clock elapsed, clock + elapsed < 2 ^ 63 →
      elapsed < 1000 * channel.conf.confSendTimeoutMs → clockStamp clock ≠ 0 →
        stampDistance (clockStamp (clock + elapsed)) (clockStamp clock) ≤ channel.blockTimeoutCount)

section

variable {channel state after final : MemChannel} {u clock len first : Nat}
  {calls : List (Nat × Nat)}

@[simp] theorem recvRun_nil : recvRun channel [] = some channel := rfl

theorem recvRun_cons {result : RecvResult} (called : memRecv clock channel len = some result) :
    recvRun channel ((clock, len) :: calls) = recvRun result.channel calls := by
  simp only [recvRun, List.map_cons, memCalls, memCall, called, Option.map_some,
    Option.bind_eq_bind, Option.bind_some]
  cases memCalls result.channel (calls.map fun call => .recv call.1 call.2) <;> rfl

/-! ### One call -/

/-- The scan comes to the unfinished block. -/
theorem OldestUnfinished.scans (oldest : OldestUnfinished channel u) (clock len : Nat) :
    Scans channel clock len u .success false := by
  have inside := oldest.inside
  have path : ∀ k ≤ u, Scans channel clock len k .success false := by
    intro k
    induction k with
    | zero => exact fun _ => .refl
    | succ k ih =>
        intro upper
        exact (ih (Nat.le_of_succ_le upper)).step (.debris (by omega) (oldest.before k upper))
  exact path u le_rfl

/-- As long as its time is not out, the scan comes no further. -/
theorem OldestUnfinished.scans_le (oldest : OldestUnfinished channel u) {k : Nat} {ret : ErrorType}
    {dropped : Bool} (soon : channel.firstFailedWritingTime = 0 ∨
      stampDistance (clockStamp clock) channel.firstFailedWritingTime ≤ channel.blockTimeoutCount)
    (path : Scans channel clock len k ret dropped) : k ≤ u ∧ (k = u → dropped = false) := by
  have stops : ∀ next, ¬ScanStep channel clock len ⟨u, .success, false⟩ next := by
    intro next step
    cases step with
    | debris _ notStart => exact notStart oldest.start
    | timeout _ _ _ failed expired =>
        rcases soon with fresh | soon
        · exact failed fresh
        · exact Nat.not_lt_of_le soon expired
    | badSize _ _ written => exact oldest.unwritten written
    | badCount clears => exact oldest.unwritten clears.written
  have rest := path.through (oldest.scans clock len) stops
  refine ⟨(scanned_forward rest).1, fun here => ?_⟩
  rcases rest.cases_head with same | ⟨next, step, rest⟩
  · cases same
    rfl
  · have further := Nat.lt_of_lt_of_le step.forward.1 (scanned_forward rest).1
    exact absurd here (Nat.ne_of_lt further)

/-- A call whose time is not out stops at the unfinished block and remembers when it first met
    it. -/
theorem OldestUnfinished.waits (oldest : OldestUnfinished channel u) (cursors : channel.CursorsIn)
    (soon : channel.firstFailedWritingTime = 0 ∨
      stampDistance (clockStamp clock) channel.firstFailedWritingTime ≤ channel.blockTimeoutCount)
      (len : Nat) :
    ∃ result, memRecv clock channel len = some result ∧ Moved channel result.channel u false ∧
      result.channel.firstFailedWritingTime =
        if channel.firstFailedWritingTime = 0 then clockStamp clock
          else channel.firstFailedWritingTime := by
  obtain ⟨result, called, receives⟩ := memRecv_receives cursors clock len
  refine ⟨result, called, ?_⟩
  have here : ∀ {k : Nat} {ret : ErrorType} {dropped : Bool},
      Scans channel clock len k ret dropped → Starts (channel.headAt k) → k = u := by
    intro k ret dropped path start
    rcases Nat.lt_or_eq_of_le (oldest.scans_le soon path).1 with before | same
    · exact absurd start (oldest.before k before)
    · exact same
  cases receives with
  | drained path =>
      have last := (oldest.scans_le soon path).1
      exact absurd oldest.inside (Nat.not_lt_of_le last)
  | @unfinished k ret dropped after path inside start unwritten waits time moved =>
      obtain rfl := here path start
      obtain rfl := (oldest.scans_le soon path).2 rfl
      refine ⟨moved, time.trans ?_⟩
      simp only [Bool.false_eq_true, false_or]
  | tooLarge path inside start written =>
      rw [here path start] at written
      exact absurd written oldest.unwritten
  | passed path clears =>
      have written := clears.written
      rw [here path clears.start] at written
      exact absurd written oldest.unwritten
  | delivered path clears =>
      have written := clears.written
      rw [here path clears.start] at written
      exact absurd written oldest.unwritten

/-- A call whose time is out goes on behind it. -/
theorem OldestUnfinished.skips (oldest : OldestUnfinished channel u) (cursors : channel.CursorsIn)
    (failed : channel.firstFailedWritingTime ≠ 0)
    (expired :
      channel.blockTimeoutCount < stampDistance (clockStamp clock) channel.firstFailedWritingTime)
    (len : Nat) :
    ∃ result c dropped, memRecv clock channel len = some result ∧
      Moved channel result.channel c dropped ∧ u < c := by
  obtain ⟨result, called, receives⟩ := memRecv_receives cursors clock len
  obtain ⟨e, ret, dropped, c, path, stops, forward, -, -, moved, -⟩ := receives.ended
  have next :=
    (oldest.scans clock len).step
      (.timeout oldest.inside oldest.start oldest.unwritten failed expired)
  have reached := (scanned_forward (next.through path stops)).1
  exact ⟨result, c, dropped, called, moved, Nat.lt_of_lt_of_le reached forward⟩

/-! ### Runs of calls -/

/-- What the calls leave as it was while they wait: the ring, the write cursor, the counter, and the
    nodes from the read cursor, which has come to a place, to the unfinished block. -/
structure Waiting (channel : MemChannel) (u j : Nat) (state : MemChannel) : Prop where
  nodeCount : state.nodeCount = channel.nodeCount
  writeCur : state.atomicWriteCur = channel.atomicWriteCur
  timeouts : state.blockTimeoutCount = channel.blockTimeoutCount
  upper : j ≤ u
  readCur : state.atomicReadCur = channel.nodeAt j
  heads : ∀ i, j ≤ i → i ≤ u → state.nodeHeads (channel.nodeAt i) = channel.headAt i

/-- A place counted from a read cursor that has moved. -/
theorem nodeAt_moved {j : Nat} (nodeCount : state.nodeCount = channel.nodeCount)
    (readCur : state.atomicReadCur = channel.nodeAt j) (i : Nat) :
    state.nodeAt i = channel.nodeAt (j + i) := by
  rw [MemChannel.nodeAt, nodeCount, readCur, MemChannel.nodeAt, slot_slot, MemChannel.nodeAt]

theorem unread_moved {j : Nat} (cursors : channel.CursorsIn) (inside : j ≤ channel.unread)
    (nodeCount : state.nodeCount = channel.nodeCount)
    (writeCur : state.atomicWriteCur = channel.atomicWriteCur)
    (readCur : state.atomicReadCur = channel.nodeAt j) : state.unread = channel.unread - j := by
  have below := cursors.unread_lt
  have ahead : channel.atomicWriteCur = slot channel.nodeCount (channel.nodeAt j)
      (channel.unread - j) := by
    rw [MemChannel.nodeAt, slot_slot, Nat.add_sub_cancel' inside]
    exact cursors.nodeAt_unread.symm
  rw [MemChannel.unread, nodeCount, writeCur, readCur, ahead]
  exact dist_slot (cursors.nodeAt_lt j) (by omega)

theorem waiting_start (cursors : channel.CursorsIn) : Waiting channel u 0 channel :=
  ⟨rfl, rfl, rfl, Nat.zero_le u, cursors.nodeAt_zero.symm, fun _ _ _ => rfl⟩

section

variable {j : Nat} (waiting : Waiting channel u j state) (oldest : OldestUnfinished channel u)
  (cursors : channel.CursorsIn)

include waiting

theorem Waiting.node (i : Nat) : state.nodeAt i = channel.nodeAt (j + i) :=
  nodeAt_moved waiting.nodeCount waiting.readCur i

theorem Waiting.block : state.nodeAt (u - j) = channel.nodeAt u := by
  rw [waiting.node, Nat.add_sub_cancel' waiting.upper]

include cursors

theorem Waiting.cursorsIn : state.CursorsIn := by
  constructor
  · rw [waiting.readCur, waiting.nodeCount]
    exact cursors.nodeAt_lt j
  · rw [waiting.writeCur, waiting.nodeCount]
    exact cursors.write

include oldest

/-- While the calls wait, the block is the oldest one. -/
theorem Waiting.unfinished : OldestUnfinished state (u - j) := by
  have inside := oldest.inside
  have upper := waiting.upper
  have unread :=
    unread_moved cursors (show j ≤ channel.unread by omega) waiting.nodeCount waiting.writeCur
      waiting.readCur
  have head : ∀ i ≤ u - j, state.headAt i = channel.headAt (j + i) := by
    intro i last
    rw [MemChannel.headAt, waiting.node]
    exact waiting.heads (j + i) (by omega) (by omega)
  have last : j + (u - j) = u := Nat.add_sub_cancel' upper
  refine ⟨by omega, ?_, ?_, ?_⟩
  · intro k before
    rw [head k before.le]
    exact oldest.before (j + k) (by omega)
  · rw [head _ le_rfl, last]
    exact oldest.start
  · rw [head _ le_rfl, last]
    exact oldest.unwritten

/-- A call that stops at the block keeps waiting. -/
theorem Waiting.moved (moved : Moved state after (u - j) false) : Waiting channel u u after := by
  have inside := oldest.inside
  have upper := waiting.upper
  refine ⟨?_, ?_, ?_, le_rfl, ?_, fun i lower last => ?_⟩
  · rw [moved.others]
    exact waiting.nodeCount
  · rw [moved.others]
    exact waiting.writeCur
  · rw [moved.others]
    exact waiting.timeouts
  · rw [moved.readCur, waiting.block]
  · obtain rfl := Nat.le_antisymm last lower
    rw [moved.kept _ fun k before same => ?_, waiting.heads i upper le_rfl]
    rw [waiting.node, cursors.nodeAt_inj inside.le (by omega)] at same
    omega

/-- While the calls wait, the block is not skipped. -/
theorem Waiting.not_skipped : ¬Skipped channel u state := by
  have inside := oldest.inside
  have below := cursors.unread_lt
  have upper := waiting.upper
  rintro (past | changed)
  · rw [waiting.readCur, MemChannel.nodeAt, dist_slot cursors.read (by omega)] at past
    omega
  · exact changed (waiting.heads u upper le_rfl)

end

/-- A call that goes on behind the block skips it. -/
theorem Waiting.skipped {j c : Nat} {dropped : Bool} (waiting : Waiting channel u j state)
    (oldest : OldestUnfinished channel u) (moved : Moved state after c dropped) (past : u - j < c) :
    Skipped channel u after := by
  right
  rw [← waiting.block, moved.cleared _ past]
  intro same
  have start := oldest.start
  rw [← same] at start
  exact not_starts_clean start

/-! ### Time -/

/-- The stored time, seen from a channel on which the calls began at a reading: it is the one stored
    before, or that of a reading of the calls. -/
def StoredBetween (channel : MemChannel) (first now stored : Nat) : Prop :=
  if channel.firstFailedWritingTime = 0 then
    stored = 0 ∨ ∃ met, first ≤ met ∧ met ≤ now ∧ clockStamp met ≠ 0 ∧ stored = clockStamp met
  else stored = channel.firstFailedWritingTime

theorem StoredBetween.mono {now later stored : Nat}
    (between : StoredBetween channel first now stored) (order : now ≤ later) :
    StoredBetween channel first later stored := by
  rw [StoredBetween] at between ⊢
  split
  · rename_i fresh
    rw [if_pos fresh] at between
    rcases between with zero | ⟨met, lower, upper, stamp⟩
    · exact .inl zero
    · exact .inr ⟨met, lower, upper.trans order, stamp⟩
  · rename_i stores
    rwa [if_neg stores] at between

/-- A call that waits stores its own time if none is stored. -/
theorem StoredBetween.waited {stored : Nat} (between : StoredBetween channel first clock stored)
    (order : first ≤ clock) :
    StoredBetween channel first clock (if stored = 0 then clockStamp clock else stored) := by
  by_cases zero : stored = 0
  · rw [if_pos zero]
    rw [StoredBetween] at between ⊢
    split
    · by_cases stamp : clockStamp clock = 0
      · exact .inl stamp
      · exact .inr ⟨clock, order, le_rfl, stamp, rfl⟩
    · rename_i stores
      rw [if_neg stores, zero] at between
      exact absurd between.symm stores
  · rw [if_neg zero]
    exact between

/-- With stamps that are near, a call whose time is out has come late enough. -/
theorem StampsNear.late {stored : Nat} (near : StampsNear channel)
    (between : StoredBetween channel first clock stored) (order : first ≤ clock)
    (bound : clock < 2 ^ 63) (failed : stored ≠ 0)
    (expired : channel.blockTimeoutCount < stampDistance (clockStamp clock) stored) :
    first + 1000 * channel.conf.confSendTimeoutMs ≤ clock := by
  rw [StoredBetween] at between
  rcases near with nothing | ⟨stores, near⟩ | ⟨fresh, near⟩
  · rw [nothing]
    exact order
  · rw [if_neg stores] at between
    rw [between] at expired
    exact absurd expired (Nat.not_lt_of_le (near clock bound))
  · rw [if_pos fresh] at between
    obtain ⟨met, lower, upper, stamp, rfl⟩ := between.resolve_left failed
    obtain ⟨elapsed, rfl⟩ := Nat.exists_eq_add_of_le upper
    by_contra early
    have close := near met elapsed bound (by omega) stamp
    exact Nat.not_lt_of_le close expired

/-- As long as the stamps are near, a run that skips the block has come late enough. -/
theorem recvRun_late (near : StampsNear channel) (oldest : OldestUnfinished channel u)
    (cursors : channel.CursorsIn) :
    ∀ {calls : List (Nat × Nat)} {j now : Nat} {state : MemChannel}, Waiting channel u j state →
      Readings calls →
      (∀ call ∈ calls, now ≤ call.1) → first ≤ now →
      StoredBetween channel first now state.firstFailedWritingTime →
      recvRun state calls = some final → Skipped channel u final →
      ∃ last ∈ calls.getLast?, first + 1000 * channel.conf.confSendTimeoutMs ≤ last.1 := by
  intro calls
  induction calls with
  | nil =>
      intro j now state waiting _ _ _ _ ran skipped
      rw [recvRun_nil] at ran
      obtain rfl := Option.some.inj ran
      exact absurd skipped (waiting.not_skipped oldest cursors)
  | cons call calls ih =>
      intro j now state waiting readings later order between ran skipped
      obtain ⟨clock, len⟩ := call
      have bound : clock < 2 ^ 63 := readings.clock _ List.mem_cons_self
      have after : ∀ later ∈ calls, clock ≤ later.1 := (List.pairwise_cons.mp readings.sorted).1
      have rest : Readings calls :=
        ⟨(List.pairwise_cons.mp readings.sorted).2,
          fun call member => readings.clock call (List.mem_cons_of_mem _ member)⟩
      have present : now ≤ clock := later _ List.mem_cons_self
      have unfinished := waiting.unfinished oldest cursors
      have between' := between.mono present
      by_cases expired : state.firstFailedWritingTime ≠ 0 ∧
          state.blockTimeoutCount < stampDistance (clockStamp clock) state.firstFailedWritingTime
      · -- this call skips the block, late enough, and the later ones are no earlier
        obtain ⟨failed, expired⟩ := expired
        rw [waiting.timeouts] at expired
        have late := near.late between' (order.trans present) bound failed expired
        refine ⟨_, List.getLast?_eq_some_getLast (List.cons_ne_nil _ _), ?_⟩
        rcases List.mem_cons.mp
          (List.getLast_mem (List.cons_ne_nil (clock, len) calls)) with same | member
        · rw [same]
          exact late
        · exact late.trans (after _ member)
      · -- this call waits
        have soon : state.firstFailedWritingTime = 0 ∨
            stampDistance (clockStamp clock) state.firstFailedWritingTime ≤
              state.blockTimeoutCount := by
          rw [not_and_or, not_not, Nat.not_lt] at expired
          exact expired
        obtain ⟨result, called, moved, stored⟩ :=
          unfinished.waits (waiting.cursorsIn cursors) soon len
        rw [recvRun_cons called] at ran
        have next : StoredBetween channel first clock result.channel.firstFailedWritingTime := by
          rw [stored]
          exact between'.waited (order.trans present)
        obtain ⟨last, isLast, late⟩ :=
          ih (waiting.moved oldest cursors moved) rest after (order.trans present) next ran
          skipped
        refine ⟨last, ?_, late⟩
        rw [List.getLast?_cons, Option.mem_def.mp isLast]
        rfl

/-- The first call skips the block when the stored time is far from its reading. -/
theorem recvRun_skips (oldest : OldestUnfinished channel u) (cursors : channel.CursorsIn)
    (failed : channel.firstFailedWritingTime ≠ 0)
    (expired :
      channel.blockTimeoutCount < stampDistance (clockStamp clock) channel.firstFailedWritingTime) :
    ∃ final, recvRun channel [(clock, 0)] = some final ∧ Skipped channel u final := by
  obtain ⟨result, c, dropped, called, moved, past⟩ := oldest.skips cursors failed expired 0
  refine ⟨result.channel, (recvRun_cons called).trans recvRun_nil, ?_⟩
  exact (waiting_start cursors).skipped oldest moved past

/-- The second call skips the block when its reading is far from that of the first. -/
theorem recvRun_skips_second {elapsed : Nat} (oldest : OldestUnfinished channel u)
    (cursors : channel.CursorsIn) (fresh : channel.firstFailedWritingTime = 0)
    (stamp : clockStamp clock ≠ 0)
    (expired :
      channel.blockTimeoutCount < stampDistance (clockStamp (clock + elapsed)) (clockStamp clock)) :
    ∃ final, recvRun channel [(clock, 0), (clock + elapsed, 0)] = some final ∧
      Skipped channel u final := by
  obtain ⟨first, called, moved, stored⟩ :=
    @OldestUnfinished.waits channel u clock oldest cursors (.inl fresh) 0
  have waiting : Waiting channel u u first.channel :=
    (waiting_start cursors).moved oldest cursors moved
  rw [if_pos fresh] at stored
  have unfinished := waiting.unfinished oldest cursors
  rw [← waiting.timeouts, ← stored] at expired
  rw [← stored] at stamp
  obtain ⟨second, c, dropped, called', moved', past⟩ :=
    unfinished.skips (waiting.cursorsIn cursors) stamp expired 0
  refine ⟨second.channel, ?_, waiting.skipped oldest moved' past⟩
  rw [recvRun_cons called, recvRun_cons called', recvRun_nil]

/-- Stamps that are not near make a call skip the block too early: the first one, if a time is
    stored, or the second. -/
theorem GivesTime.stampsNear (gives : GivesTime channel u) (cursors : channel.CursorsIn)
    (oldest : OldestUnfinished channel u) : StampsNear channel := by
  by_cases nothing : channel.conf.confSendTimeoutMs = 0
  · exact .inl nothing
  right
  by_cases fresh : channel.firstFailedWritingTime = 0
  · refine .inr ⟨fresh, fun clock elapsed bound early stamp => Nat.le_of_not_lt fun expired => ?_⟩
    obtain ⟨final, ran, skipped⟩ := recvRun_skips_second oldest cursors fresh stamp expired
    have readings : Readings [(clock, 0), (clock + elapsed, 0)] := by
      constructor
      · simp
      · simp only [List.mem_cons, List.not_mem_nil, or_false, forall_eq_or_imp, forall_eq]
        omega
    obtain ⟨first, isFirst, last, isLast, late⟩ := gives _ _ readings ran skipped
    cases isFirst
    cases isLast
    have waited : clock + 1000 * channel.conf.confSendTimeoutMs ≤ clock + elapsed := late
    omega
  · refine .inl ⟨fresh, fun clock bound => Nat.le_of_not_lt fun expired => ?_⟩
    obtain ⟨final, ran, skipped⟩ := recvRun_skips oldest cursors fresh expired
    have readings : Readings [(clock, 0)] := by
      constructor
      · exact List.pairwise_singleton _ _
      · intro call member
        rw [List.mem_singleton.mp member]
        exact bound
    obtain ⟨first, isFirst, last, isLast, late⟩ := gives _ _ readings ran skipped
    cases isFirst
    cases isLast
    have waited : clock + 1000 * channel.conf.confSendTimeoutMs ≤ clock := late
    omega

theorem StampsNear.givesTime (near : StampsNear channel) (cursors : channel.CursorsIn)
    (oldest : OldestUnfinished channel u) : GivesTime channel u := by
  intro calls final readings ran skipped
  cases calls with
  | nil =>
      rw [recvRun_nil] at ran
      obtain rfl := Option.some.inj ran
      exact absurd skipped ((waiting_start cursors).not_skipped oldest cursors)
  | cons call calls =>
      have later : ∀ other ∈ call :: calls, call.1 ≤ other.1 := by
        intro other member
        rcases List.mem_cons.mp member with rfl | member
        · exact le_rfl
        · exact (List.pairwise_cons.mp readings.sorted).1 other member
      have between : StoredBetween channel call.1 call.1 channel.firstFailedWritingTime := by
        rw [StoredBetween]
        split
        · rename_i fresh
          exact .inl fresh
        · rfl
      exact ⟨call, rfl,
        recvRun_late near oldest cursors (waiting_start cursors) readings later le_rfl between ran
          skipped⟩

/-- A writer is given its time exactly when the stamps are near. -/
theorem writer_given_time_iff (cursors : channel.CursorsIn) (oldest : OldestUnfinished channel u) :
    GivesTime channel u ↔ StampsNear channel :=
  ⟨fun gives => gives.stampsNear cursors oldest, fun near => near.givesTime cursors oldest⟩

end

/-- A channel of four nodes as `mem_init` makes it, with a writer at work on its first block. -/
def startedChannel : MemChannel :=
  { nodeMagic := memChannelName
    nodeSize := 128
    nodeSizeBinPower := 7
    nodeCount := 4
    atomicReadCur := 0
    atomicWriteCur := 1
    firstFailedWritingTime := 0
    atomicOperationSeq := 1
    conf := ⟨0, 0, 4, 4⟩
    areaChannelOffset := 0
    areaHeadOffset := 4096
    areaDataOffset := 4128
    areaEndOffset := 4640
    blockBadCount := 0
    blockTimeoutCount := 0
    nodeBadCount := 0
    nodeHeads := fun index => if index = 0 then ⟨2, 1⟩ else .clean
    dataArea := fun _ => 0 }

theorem startedChannel_unfinished : startedChannel.CursorsIn ∧ OldestUnfinished startedChannel 0 :=
  ⟨⟨by decide, by decide⟩,
    ⟨by decide, fun k before => absurd before (Nat.not_lt_zero k), by decide, by decide⟩⟩

theorem writer_given_time_iff_started : GivesTime startedChannel 0 ↔ StampsNear startedChannel :=
  writer_given_time_iff startedChannel_unfinished.1 startedChannel_unfinished.2

/-- The second of two calls that are a microsecond apart skips the block, where four milliseconds
    are configured. -/
theorem writer_not_given_time : startedChannel.conf.confSendTimeoutMs = 4 ∧
    ¬GivesTime startedChannel 0 := by
  refine ⟨rfl, fun gives => ?_⟩
  obtain ⟨cursors, oldest⟩ := startedChannel_unfinished
  have expired : startedChannel.blockTimeoutCount < stampDistance (clockStamp (1 + 1))
      (clockStamp 1) := by decide
  obtain ⟨final, ran, skipped⟩ := recvRun_skips_second oldest cursors rfl (by decide) expired
  have readings : Readings [(1, 0), (1 + 1, 0)] := by
    constructor
    · decide
    · decide
  obtain ⟨first, isFirst, last, isLast, late⟩ := gives _ _ readings ran skipped
  cases isFirst
  cases isLast
  exact absurd late (by decide)

end LibAtbus.Channel
