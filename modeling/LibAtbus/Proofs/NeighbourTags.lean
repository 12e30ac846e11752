/-
Module: LibAtbus.Proofs.NeighbourTags
Layer: Proofs
Purpose: The sequence numbers of neighbouring blocks. The reader finds the end of a block where the
  number changes, so the blocks of a channel are told apart as long as no two neighbours carry the
  same one. A send draws its number before it looks for room. Refused sends use numbers up, and
  after a whole period of them the number of the newest block comes back.
Trusted boundary: none
Main exports: UnreadBlock, TagsApart, TagStep, FreshTag, MemRing.tagsApart_iff, neighbour_tags_iff
-/
import LibAtbus.Foundation.TagCounter
import LibAtbus.Foundation.Transitions
import LibAtbus.Proofs.MemFifo
import LibAtbus.Proofs.MemWrite
import Mathlib.Data.List.Chain

namespace LibAtbus.Channel

open ByteMemory RingIndex TiledRing Transitions

/-! ### Blocks of a channel -/

/-- An unread block lies at the nodes from one place up to another: it starts at the first, and the
    next block or the write cursor comes with the second. -/
structure UnreadBlock (channel : MemChannel) (k m : Nat) : Prop where
  inside : k < m
  unread : m ≤ channel.unread
  first : Starts (channel.headAt k)
  rest : ∀ j, k < j → j < m → ¬Starts (channel.headAt j)
  stops : m = channel.unread ∨ Starts (channel.headAt m)

/-- Every unread block carries a sequence number, neighbours carry different ones, and the clearing
    loop of `mem_recv` stops exactly at the end of the block it began with. -/
structure TagsApart (channel : MemChannel) : Prop where
  nonzero : ∀ k m, UnreadBlock channel k m → (channel.headAt k).operationSeq ≠ 0
  apart : ∀ k m l, UnreadBlock channel k m → UnreadBlock channel m l →
    (channel.headAt k).operationSeq ≠ (channel.headAt m).operationSeq
  scan : ∀ k m, UnreadBlock channel k m → ∃ heads,
    memClearTags channel channel.atomicWriteCur (channel.headAt k).operationSeq
      (channel.nodeCount + 1)
      (channel.nodeAt k) channel.nodeHeads = some (channel.nodeAt m, heads)

/-! ### Runs -/

/-- The numbers that `mem_fetch_operation_seq` draws before it begins again: zero is left out. -/
def seqPeriod : Nat := 2 ^ 32 - 1

/-- The message of a send lies in the address space beside the channel. -/
def MemCall.InMemory : MemCall → Prop
  | .send msg => msg.length + channelMinSize ≤ 2 ^ 64
  | .recv _ _ => True

/-- The numbers drawn since the write cursor last moved, followed over a call. -/
def drawnAfter (before after : MemChannel) (drawn : Nat) : Nat :=
  if after.atomicWriteCur ≠ before.atomicWriteCur then 0
  else if after.atomicOperationSeq ≠ before.atomicOperationSeq then drawn + 1
  else drawn

/-- A call takes the channel to its next state; the numbers drawn are counted beside it. -/
def TagStep (state : MemChannel × Nat) (call : MemCall) (state' : MemChannel × Nat) : Prop :=
  call.InMemory ∧ (∃ reply, memCall state.1 call = some (reply, state'.1)) ∧
    state'.2 = drawnAfter state.1 state'.1 state.2

/-- The call is a send that finds room. -/
def FindsRoom (channel : MemChannel) : MemCall → Prop
  | .send msg => msg ≠ [] ∧ memCalcNodeNum channel msg.length ≤ channel.freeNodes
  | .recv _ _ => False

/-- The condition on a call: when a send finds room behind an unread block, the numbers drawn since
    the last one that found room, its own included, are no whole number of periods. -/
def FreshTag (state : MemChannel × Nat) (call : MemCall) : Prop :=
  FindsRoom state.1 call → state.1.unread ≠ 0 → ¬seqPeriod ∣ state.2 + 1

section

variable {channel after : MemChannel} {blocks left right : List Block} {block : Block}
  {msg : List UInt8} {k m : Nat}

/-- A block ends in one place. -/
theorem UnreadBlock.unique {m' : Nat} (at_ : UnreadBlock channel k m)
    (at' : UnreadBlock channel k m') : m = m' := by
  rcases Nat.lt_trichotomy m m' with less | equal | more
  · rcases at_.stops with last | next
    · exact absurd (Nat.lt_of_lt_of_le less at'.unread) (by omega)
    · exact absurd next (at'.rest m at_.inside less)
  · exact equal
  · rcases at'.stops with last | next
    · exact absurd (Nat.lt_of_lt_of_le more at_.unread) (by omega)
    · exact absurd next (at_.rest m' at'.inside more)

/-! ### The blocks of a ring -/

theorem MemRing.unread_eq (ring : MemRing channel blocks) :
    channel.unread = extent Block.nodes blocks := by
  unfold MemChannel.unread
  rw [ring.writeCur]
  exact dist_slot ring.readCur_lt ring.extent_lt

/-- The head at a place of a block. -/
theorem MemRing.headAt_block {j : Nat} (ring : MemRing channel (left ++ block :: right))
    (below : j < block.nodes) : channel.headAt (extent Block.nodes left + j) = block.head j := by
  rw [MemChannel.headAt, MemChannel.nodeAt, slot_node]
  exact ring.head below

theorem Block.starts_iff {j : Nat} (phase : block.phase = .writen) :
    Starts (block.head j) ↔ j = 0 := by
  rw [Block.head, phase]
  by_cases first : j = 0
  · simp only [first, if_true, iff_true]
    show checkFlag 3 .startNode = true
    decide
  · simp only [first, if_false, iff_false]
    show ¬checkFlag 1 .startNode = true
    decide

theorem Block.head_operationSeq {j : Nat} (phase : block.phase = .writen) :
    (block.head j).operationSeq = block.oprSeq := by
  rw [Block.head, phase]
  by_cases first : j = 0
  · rw [first]
    rfl
  · simp only [first, if_false]

/-- A block of the ring lies between its first node and the block behind it. -/
theorem MemRing.unreadBlock (ring : MemRing channel (left ++ block :: right))
    (writen : ∀ member ∈ left ++ block :: right, member.phase = .writen) :
    UnreadBlock channel (extent Block.nodes left) (extent Block.nodes left + block.nodes) := by
  have phase := writen block (by simp)
  have unread := ring.unread_eq
  have first := ring.headAt_block Block.nodes_pos
  rw [extent_append, extent_cons] at unread
  refine ⟨Nat.lt_add_of_pos_right Block.nodes_pos, by omega, ?first, ?rest, ?stops⟩
  case first =>
    rw [← Nat.add_zero (extent Block.nodes left), first]
    exact (Block.starts_iff phase).mpr rfl
  case rest =>
    intro j after before start
    obtain ⟨i, rfl⟩ := Nat.exists_eq_add_of_lt after
    rw [Nat.add_assoc, ring.headAt_block (by omega), Block.starts_iff phase] at start
    exact absurd start (Nat.succ_ne_zero i)
  case stops =>
    cases right with
    | nil =>
        left
        rw [unread, extent_nil]
        rfl
    | cons next right =>
        right
        have regroup : left ++ block :: next :: right = (left ++ [block]) ++ next :: right := by
          simp
        have begins : extent Block.nodes left + block.nodes = extent Block.nodes (left ++ [block]) +
            0 := by simp
        rw [regroup] at ring
        rw [begins, ring.headAt_block Block.nodes_pos]
        exact (Block.starts_iff (writen next (by simp))).mpr rfl

/-- The blocks of the channel are those of the ring. -/
theorem MemRing.unreadBlock_iff (ring : MemRing channel blocks)
    (writen : ∀ member ∈ blocks, member.phase = .writen) :
    UnreadBlock channel k m ↔ ∃ left block right, blocks = left ++ block :: right ∧
      k = extent Block.nodes left ∧ m = extent Block.nodes left + block.nodes := by
  constructor
  · intro here
    have inside : k < extent Block.nodes blocks := by
      rw [← ring.unread_eq]
      exact Nat.lt_of_lt_of_le here.inside here.unread
    obtain ⟨left, block, right, j, rfl, below, rfl⟩ := exists_tile inside
    have start := here.first
    rw [ring.headAt_block below, Block.starts_iff (writen block (by simp))] at start
    subst start
    exact ⟨left, block, right, rfl, rfl, here.unique (ring.unreadBlock writen)⟩
  · rintro ⟨left, block, right, rfl, rfl, rfl⟩
    exact ring.unreadBlock writen

/-- The sequence number at the first node of a block of the ring. -/
theorem MemRing.tagAt (ring : MemRing channel (left ++ block :: right))
    (phase : block.phase = .writen) :
    (channel.headAt (extent Block.nodes left)).operationSeq = block.oprSeq := by
  have first := ring.headAt_block Block.nodes_pos
  rw [Nat.add_zero] at first
  rw [first, Block.head_operationSeq phase]

/-- The sequence number at the first node of the block behind another one. -/
theorem MemRing.tagAt_next {next : Block} (ring : MemRing channel (left ++ block :: next :: right))
    (phase : next.phase = .writen) :
    (channel.headAt (extent Block.nodes left + block.nodes)).operationSeq = next.oprSeq := by
  have regroup : left ++ block :: next :: right = (left ++ [block]) ++ next :: right := by simp
  have begins : extent Block.nodes left + block.nodes = extent Block.nodes (left ++ [block]) := by
    simp
  rw [regroup] at ring
  rw [begins, ring.tagAt phase]

/-- The clearing loop runs to the end of a block whose neighbour carries another number. -/
theorem MemRing.scanStops (ring : MemRing channel (left ++ block :: right))
    (phase : block.phase = .writen)
    (next : ∀ other ∈ right.head?, other.phase = .writen ∧ block.oprSeq ≠ other.oprSeq) :
    ∃ heads, memClearTags channel channel.atomicWriteCur block.oprSeq (channel.nodeCount + 1)
      (channel.nodeAt (extent Block.nodes left)) channel.nodeHeads =
        some (channel.nodeAt (extent Block.nodes left + block.nodes), heads) := by
  have unread := ring.unread_eq
  have few := ring.extent_lt
  have cursor := ring.writeCur
  rw [extent_append, extent_cons] at unread few
  have atWrite : ∀ j < channel.nodeCount, channel.nodeAt j = channel.atomicWriteCur →
      j = extent Block.nodes left + (block.nodes + extent Block.nodes right) := by
    intro j below same
    rw [cursor, extent_append, extent_cons] at same
    exact (slot_inj below few).mp same
  have tagged : ∀ j, extent Block.nodes left ≤ j → j < extent Block.nodes left + block.nodes →
      channel.nodeAt j ≠ channel.atomicWriteCur ∧
      (channel.headAt j).operationSeq = block.oprSeq := by
    intro j lower upper
    obtain ⟨i, rfl⟩ := Nat.exists_eq_add_of_le lower
    refine ⟨fun same => ?_, ?_⟩
    · have place := atWrite _ (by omega) same
      omega
    · rw [ring.headAt_block (by omega), Block.head_operationSeq phase]
  have stop : channel.nodeAt (extent Block.nodes left + block.nodes) = channel.atomicWriteCur ∨
      (channel.headAt (extent Block.nodes left + block.nodes)).operationSeq ≠ block.oprSeq := by
    cases right with
    | nil =>
        left
        rw [cursor]
        simp [MemChannel.nodeAt]
    | cons other right =>
        right
        rw [ring.tagAt_next (next other rfl).1]
        exact (next other rfl).2.symm
  obtain ⟨heads, walk, -⟩ :=
    memClearTags_walk rfl (show extent Block.nodes left + block.nodes < channel.nodeCount by omega)
      (show block.nodes < channel.nodeCount + 1 by omega) tagged stop
  exact ⟨heads, walk⟩

/-- Neighbours of a ring that are told apart carry different numbers. -/
theorem MemRing.chain_of_tagsApart (ring : MemRing channel blocks)
    (writen : ∀ member ∈ blocks, member.phase = .writen) (tags : TagsApart channel) :
    blocks.IsChain fun block next => block.oprSeq ≠ next.oprSeq := by
  rw [List.isChain_iff_forall_rel_of_append_cons_cons]
  rintro block next left right rfl
  have first := ring.unreadBlock writen
  have firstTag := ring.tagAt (writen block (by simp))
  have secondTag := ring.tagAt_next (writen next (by simp))
  have regroup : left ++ block :: next :: right = (left ++ [block]) ++ next :: right := by simp
  have begins : extent Block.nodes left + block.nodes = extent Block.nodes (left ++ [block]) := by
    simp
  rw [regroup] at ring writen
  have second := ring.unreadBlock writen
  rw [← begins] at second
  rw [← firstTag, ← secondTag]
  exact tags.apart _ _ _ first second

theorem MemRing.tagsApart_of_chain (ring : MemRing channel blocks)
    (writen : ∀ member ∈ blocks, member.phase = .writen)
    (chain : blocks.IsChain fun block next => block.oprSeq ≠ next.oprSeq) : TagsApart channel := by
  rw [List.isChain_iff_forall_rel_of_append_cons_cons] at chain
  refine { nonzero := ?nonzero, apart := ?apart, scan := ?scan }
  case nonzero =>
    intro k m here
    obtain ⟨left, block, right, rfl, rfl, -⟩ := (ring.unreadBlock_iff writen).mp here
    rw [ring.tagAt (writen block (by simp))]
    exact (ring.valid block (by simp)).oprSeq_ne
  case apart =>
    intro k m l here there
    obtain ⟨left, block, right, rfl, rfl, rfl⟩ := (ring.unreadBlock_iff writen).mp here
    cases right with
    | nil =>
        have beyond := Nat.lt_of_lt_of_le there.inside there.unread
        rw [ring.unread_eq, extent_append, extent_cons, extent_nil] at beyond
        exact absurd beyond (Nat.lt_irrefl _)
    | cons next right =>
        rw [ring.tagAt (writen block (by simp)), ring.tagAt_next (writen next (by simp))]
        exact chain rfl
  case scan =>
    intro k m here
    obtain ⟨left, block, right, rfl, rfl, rfl⟩ := (ring.unreadBlock_iff writen).mp here
    rw [ring.tagAt (writen block (by simp))]
    apply ring.scanStops (writen block (by simp))
    intro other isNext
    cases right with
    | nil => cases isNext
    | cons next right =>
        cases isNext
        exact ⟨writen other (by simp), chain rfl⟩

/-- The blocks of a ring are told apart exactly when no two neighbours carry the same number. -/
theorem MemRing.tagsApart_iff (ring : MemRing channel blocks)
    (writen : ∀ member ∈ blocks, member.phase = .writen) :
    TagsApart channel ↔ blocks.IsChain fun block next => block.oprSeq ≠ next.oprSeq :=
  ⟨ring.chain_of_tagsApart writen, ring.tagsApart_of_chain writen⟩

/-! ### The numbers drawn -/

/-- Between calls every block is written, and the operation sequence is as many draws behind the
    newest block as were counted. -/
structure Counted (channel : MemChannel) (drawn : Nat) (blocks : List Block) : Prop where
  ring : MemRing channel blocks
  writen : ∀ member ∈ blocks, member.phase = .writen
  counter : channel.atomicOperationSeq < 2 ^ 32
  last : ∀ newest ∈ blocks.getLast?, TagCounter.Tag seqPeriod newest.oprSeq ∧
    channel.atomicOperationSeq = TagCounter.later seqPeriod newest.oprSeq drawn

theorem nextOprSeq_eq (below : channel.atomicOperationSeq < 2 ^ 32) :
    nextOprSeq channel = TagCounter.next seqPeriod channel.atomicOperationSeq := by
  unfold nextOprSeq memFetchOperationSeq TagCounter.next seqPeriod
  dsimp only
  split <;> omega

theorem nextOprSeq_tag (below : channel.atomicOperationSeq < 2 ^ 32) :
    TagCounter.Tag seqPeriod (nextOprSeq channel) := by
  rw [nextOprSeq_eq below]
  exact TagCounter.next_tag (by decide)

theorem nextOprSeq_ne_self : nextOprSeq channel ≠ channel.atomicOperationSeq := by
  unfold nextOprSeq memFetchOperationSeq
  dsimp only
  split <;> omega

theorem drawnAfter_same {drawn : Nat} (cursor : after.atomicWriteCur = channel.atomicWriteCur)
    (counter : after.atomicOperationSeq = channel.atomicOperationSeq) :
    drawnAfter channel after drawn = drawn := by
  rw [drawnAfter, if_neg fun moved => moved cursor, if_neg fun drew => drew counter]

/-- A receive takes a block off or leaves the channel as it is. -/
theorem Counted.recv {drawn clock len : Nat} {result : RecvResult}
    (counted : Counted channel drawn blocks)
    (chain : blocks.IsChain fun block next => block.oprSeq ≠ next.oprSeq)
    (got : memRecv clock channel len = some result) :
    ∃ rest, Counted result.channel (drawnAfter channel result.channel drawn) rest ∧
      rest.IsChain fun block next => block.oprSeq ≠ next.oprSeq := by
  cases blocks with
  | nil =>
      rw [memRecv_empty counted.ring] at got
      cases got
      rw [drawnAfter_same rfl rfl]
      exact ⟨[], counted, chain⟩
  | cons block rest =>
      have phase := counted.writen block (by simp)
      by_cases fits : block.msg.length ≤ len
      · have next : ∀ other ∈ rest.head?, (other.head 0).operationSeq ≠ block.oprSeq := by
          intro other isNext
          cases rest with
          | nil => cases isNext
          | cons following rest =>
              cases isNext
              rw [Block.head_operationSeq (counted.writen other (by simp))]
              exact (List.isChain_cons_cons.mp chain).1.symm
        obtain ⟨heads, taken, ring, -⟩ := memRecv_taken counted.ring phase fits next
        rw [taken] at got
        cases got
        have same : drawnAfter channel { channel with
            nodeHeads := heads
            firstFailedWritingTime := 0
            atomicReadCur := slot channel.nodeCount channel.atomicReadCur block.nodes } drawn =
              drawn :=
          drawnAfter_same rfl rfl
        rw [same]
        refine ⟨rest, ⟨ring, ?_, counted.counter, ?_⟩, chain.tail⟩
        · exact fun member inside => counted.writen member (List.mem_cons_of_mem _ inside)
        · intro newest isLast
          apply counted.last newest
          cases rest with
          | nil => cases isLast
          | cons following rest =>
              rw [List.getLast?_cons_cons]
              exact isLast
      · rw [memRecv_tooLarge counted.ring phase (Nat.lt_of_not_le fits)] at got
        cases got
        rw [drawnAfter_same rfl rfl]
        exact ⟨block :: rest, counted, chain⟩

/-- A refused send draws at most one number. -/
theorem Counted.refused {drawn : Nat} (counted : Counted channel drawn blocks) (nodes : Nat) :
    Counted (channel.refused nodes) (drawnAfter channel (channel.refused nodes) drawn) blocks := by
  rcases channel.refused_cases nodes with same | drew
  · rw [same, drawnAfter_same rfl rfl]
    exact counted
  · have count : drawnAfter channel { channel with
        atomicOperationSeq := nextOprSeq channel } drawn = drawn + 1 := by
      rw [drawnAfter, if_neg fun moved => moved rfl, if_pos nextOprSeq_ne_self]
    rw [drew, count]
    refine ⟨counted.ring.counters, counted.writen, ?_, ?_⟩
    · exact Nat.lt_succ_of_le (nextOprSeq_tag counted.counter).le
    · intro newest isLast
      obtain ⟨isTag, place⟩ := counted.last newest isLast
      refine ⟨isTag, ?_⟩
      rw [← TagCounter.next_later, ← place]
      exact nextOprSeq_eq counted.counter

/-- The block of an accepted send is the newest, with no number drawn behind it. -/
theorem Counted.accepted {drawn : Nat} (counted : Counted channel drawn blocks)
    (room : blockNodes msg.length ≤ channel.freeNodes)
    (keeps :
      KeepsOff (channel.reserved (blockNodes msg.length)) after channel.atomicWriteCur
        (blockNodes msg.length))
    (ring : MemRing after (blocks ++ [⟨msg, nextOprSeq channel, .writen⟩])) :
    drawnAfter channel after drawn = 0 ∧
      Counted after 0 (blocks ++ [⟨msg, nextOprSeq channel, .writen⟩]) := by
  have isTag := nextOprSeq_tag counted.counter
  have counter : after.atomicOperationSeq = nextOprSeq channel := by
    rw [keeps.header]
    rfl
  have write : channel.atomicWriteCur < channel.nodeCount := by
    rw [counted.ring.writeCur]
    exact slot_lt counted.ring.formatted.nodeCount_pos
  have fits : blockNodes msg.length < channel.nodeCount := by
    unfold MemChannel.freeNodes at room
    omega
  have away : after.atomicWriteCur ≠ channel.atomicWriteCur := by
    have further :=
      @slot_ne channel.nodeCount channel.atomicWriteCur (blockNodes msg.length) 0 fits (by omega)
      blockNodes_pos.ne'
    rw [slot_zero write] at further
    rw [keeps.header]
    exact further
  refine ⟨if_pos away, ring, ?_, ?_, ?_⟩
  · intro member inside
    rcases List.mem_append.mp inside with old | new
    · exact counted.writen member old
    · rw [List.mem_singleton.mp new]
  · rw [counter]
    exact Nat.lt_succ_of_le isTag.le
  · intro newest isLast
    rw [List.getLast?_concat] at isLast
    cases isLast
    exact ⟨isTag, counter.trans (TagCounter.later_zero isTag).symm⟩

/-- A send that finds no room is refused; one that finds room appends its block. -/
theorem Counted.send {drawn : Nat} {ret : ErrorType} (counted : Counted channel drawn blocks)
    (inMemory : msg.length + channelMinSize ≤ 2 ^ 64)
    (sent : memSend channel msg = some (ret, after)) :
    (¬FindsRoom channel (.send msg) ∧ Counted after (drawnAfter channel after drawn) blocks) ∨
      (FindsRoom channel (.send msg) ∧ drawnAfter channel after drawn = 0 ∧
        Counted after 0 (blocks ++ [⟨msg, nextOprSeq channel, .writen⟩])) := by
  have formatted := counted.ring.formatted
  have retries := formatted.writeRetry
  by_cases empty : msg = []
  · subst empty
    have nothing : memSend channel [] = some (.success, channel) :=
      memSend_of_real retries rfl (by decide)
    rw [nothing] at sent
    cases sent
    rw [drawnAfter_same rfl rfl]
    exact .inl ⟨fun accepts => accepts.1 rfl, counted⟩
  · have nodes := memCalcNodeNum_eq formatted.shaped inMemory
    rcases counted.ring.send_cases empty inMemory with
      ⟨full, real⟩ | ⟨room, state, real, keeps, ring⟩
    · rw [memSend_of_real retries real (by decide)] at sent
      cases sent
      refine .inl ⟨fun accepts => ?_, counted.refused _⟩
      have room := accepts.2
      rw [nodes] at room
      exact absurd full (Nat.not_lt_of_le room)
    · rw [memSend_of_real retries real (by decide)] at sent
      cases sent
      exact .inr ⟨⟨empty, nodes ▸ room⟩, counted.accepted room keeps ring⟩

/-! ### Runs of any length -/

/-- What every step keeps: the numbers drawn are counted, and no two neighbours carry the same
    one. -/
def TagInvariant (state : MemChannel × Nat) : Prop :=
  ∃ blocks, Counted state.1 state.2 blocks ∧ blocks.IsChain fun block next =>
    block.oprSeq ≠ next.oprSeq

/-- A step takes the invariant with it; or it is an accepted send, whose block is the newest. -/
theorem TagInvariant.step {state state' : MemChannel × Nat} {call : MemCall}
    (invariant : TagInvariant state) (step : TagStep state call state') :
    (¬FindsRoom state.1 call ∧ TagInvariant state') ∨
      (FindsRoom state.1 call ∧ ∃ blocks new, Counted state.1 state.2 blocks ∧
        (blocks.IsChain fun block next => block.oprSeq ≠ next.oprSeq) ∧
        Counted state'.1 state'.2 (blocks ++ [new]) ∧ new.oprSeq = nextOprSeq state.1) := by
  obtain ⟨blocks, counted, chain⟩ := invariant
  obtain ⟨inMemory, ⟨reply, called⟩, drawn⟩ := step
  unfold TagInvariant
  rw [drawn]
  cases call with
  | send msg =>
      obtain ⟨⟨ret, after⟩, sent, same⟩ := Option.map_eq_some_iff.mp called
      cases same
      rcases counted.send inMemory sent with ⟨refused, counted'⟩ | ⟨accepts, fresh, counted'⟩
      · exact .inl ⟨refused, blocks, counted', chain⟩
      · rw [fresh]
        exact .inr ⟨accepts, blocks, _, counted, chain, counted', rfl⟩
  | recv clock len =>
      obtain ⟨result, got, same⟩ := Option.map_eq_some_iff.mp called
      have next : result.channel = state'.1 := congrArg Prod.snd same
      rw [← next]
      exact .inl ⟨id, counted.recv chain got⟩

/-- The number a send draws is that of the newest block when the draws since make up whole
    periods. -/
theorem Counted.fresh_iff {drawn : Nat} (counted : Counted channel drawn blocks) :
    (∀ newest ∈ blocks.getLast?, newest.oprSeq ≠ nextOprSeq channel) ↔
      (channel.unread ≠ 0 → ¬seqPeriod ∣ drawn + 1) := by
  have unread := counted.ring.unread_eq
  cases found : blocks.getLast? with
  | none =>
      rw [List.getLast?_eq_none_iff.mp found] at unread
      exact ⟨fun _ some_unread => absurd unread some_unread, fun _ _ isNone => by cases isNone⟩
  | some newest =>
      obtain ⟨isTag, place⟩ := counted.last newest found
      obtain ⟨before, rfl⟩ := List.getLast?_eq_some_iff.mp found
      have some_unread : channel.unread ≠ 0 := by
        rw [unread, extent_append, extent_cons]
        have pos := @Block.nodes_pos newest
        omega
      have drawn_next : nextOprSeq channel = TagCounter.later seqPeriod newest.oprSeq
          (drawn + 1) := by
        rw [nextOprSeq_eq counted.counter, place, TagCounter.next_later]
      rw [drawn_next, ← TagCounter.later_eq_iff isTag]
      exact ⟨fun differ _ same => differ newest rfl same.symm, fun differ _ isLast => by
        cases isLast
        exact fun same => differ some_unread same.symm⟩

/-- A step keeps the blocks told apart exactly when it meets the condition. -/
theorem TagInvariant.apart_iff {state state' : MemChannel × Nat} {call : MemCall}
    (invariant : TagInvariant state) (step : TagStep state call state') :
    TagsApart state'.1 ↔ FreshTag state call := by
  rcases invariant.step step with
    ⟨refused, blocks, counted, chain⟩ | ⟨accepts, blocks, new, counted, chain, counted', tag⟩
  · exact ⟨fun _ accepts => absurd accepts refused, fun _ =>
      (counted.ring.tagsApart_iff counted.writen).mpr chain⟩
  · have newest : (∀ last ∈ blocks.getLast?, ∀ first ∈ [new].head?, last.oprSeq ≠ first.oprSeq) ↔
        ∀ last ∈ blocks.getLast?, last.oprSeq ≠ nextOprSeq state.1 := by
      rw [← tag]
      exact forall₂_congr fun last isLast => ⟨fun all => all new rfl, fun differ first isFirst => by
        cases isFirst
        exact differ⟩
    rw [counted'.ring.tagsApart_iff counted'.writen, List.isChain_append, newest, counted.fresh_iff]
    exact ⟨fun all _ => all.2.2, fun fresh => ⟨chain, List.isChain_singleton _, fresh accepts⟩⟩

theorem TagInvariant.kept {state state' : MemChannel × Nat} {call : MemCall}
    (invariant : TagInvariant state) (step : TagStep state call state')
    (fresh : FreshTag state call) : TagInvariant state' := by
  have apart := (invariant.apart_iff step).mpr fresh
  rcases invariant.step step with ⟨-, kept⟩ | ⟨-, blocks, new, -, -, counted', -⟩
  · exact kept
  · exact ⟨_, counted', (counted'.ring.tagsApart_iff counted'.writen).mp apart⟩

theorem memInit_tagInvariant {len : Nat} (word : len < 2 ^ 64)
    (init : memInit len none = .ok channel) : TagInvariant (channel, 0) := by
  obtain ⟨serial, zero⟩ := memInit_serialRing word init
  refine ⟨[], ⟨serial.ring, serial.writen, ?_, ?_⟩, List.isChain_nil⟩
  · rw [zero]
    decide
  · intro newest isLast
    cases isLast

/-- In every run of calls the blocks are told apart in all states reached exactly when every
    accepted send draws a number that is no whole number of periods behind that of the newest unread
    block. -/
theorem neighbour_tags_iff {len : Nat} (word : len < 2 ^ 64) (init : memInit len none = .ok channel)
    {made : List (Transition (MemChannel × Nat) MemCall)} {final : MemChannel × Nat}
    (run : Run TagStep (channel, 0) made final) :
    (TagsApart channel ∧ ∀ t ∈ made, TagsApart t.post.1) ↔ ∀ t ∈ made, FreshTag t.pre t.label := by
  have start := memInit_tagInvariant word init
  have first : TagsApart channel := by
    obtain ⟨blocks, counted, chain⟩ := start
    exact (counted.ring.tagsApart_iff counted.writen).mpr chain
  have steps := run.forall_iff start (fun t invariant taken fresh => invariant.kept taken fresh)
    (fun t invariant taken => invariant.apart_iff taken)
  exact ⟨fun all => steps.mp all.2, fun fresh => ⟨first, steps.mpr fresh⟩⟩

/-! ### A whole period of refused sends -/

/-- The step of a send that is refused after it has drawn its number. -/
theorem Counted.refusedStep {drawn : Nat} (counted : Counted channel drawn blocks)
    (nonempty : msg ≠ []) (inMemory : msg.length + channelMinSize ≤ 2 ^ 64)
    (full : channel.freeNodes < blockNodes msg.length)
    (small :
      memExceedsChannel channel.nodeCount channel.conf.protectNodeCount (blockNodes msg.length) =
        false) :
    TagStep (channel, drawn) (.send msg) ({ channel with atomicOperationSeq := nextOprSeq channel },
      drawn + 1) ∧
      Counted { channel with atomicOperationSeq := nextOprSeq channel } (drawn + 1) blocks := by
  have drew : channel.refused (blockNodes msg.length) = { channel with
      atomicOperationSeq := nextOprSeq channel } :=
    if_neg (Bool.not_eq_true _ ▸ small)
  have count : drawnAfter channel { channel with atomicOperationSeq := nextOprSeq channel } drawn =
      drawn + 1 := by
    rw [drawnAfter, if_neg fun moved => moved rfl, if_pos nextOprSeq_ne_self]
  have kept := counted.refused (blockNodes msg.length)
  rw [drew, count] at kept
  rcases counted.ring.send_cases nonempty inMemory with ⟨-, real⟩ | ⟨room, -⟩
  · have sent := memSend_of_real counted.ring.formatted.writeRetry real (by decide)
    rw [drew] at sent
    refine ⟨⟨inMemory, ⟨.send .buffLimit, ?_⟩, count.symm⟩, kept⟩
    rw [memCall, sent]
    rfl
  · exact absurd full (Nat.not_lt_of_le room)

/-- The step of a send that finds room. -/
theorem Counted.acceptedStep {drawn : Nat} (counted : Counted channel drawn blocks)
    (nonempty : msg ≠ []) (inMemory : msg.length + channelMinSize ≤ 2 ^ 64)
    (room : blockNodes msg.length ≤ channel.freeNodes) :
    ∃ after, TagStep (channel, drawn) (.send msg) (after, 0) ∧
      KeepsOff (channel.reserved (blockNodes msg.length)) after channel.atomicWriteCur
        (blockNodes msg.length) ∧
      Counted after 0 (blocks ++ [⟨msg, nextOprSeq channel, .writen⟩]) := by
  rcases counted.ring.send_cases nonempty inMemory with ⟨full, -⟩ | ⟨-, after, real, keeps, ring⟩
  · exact absurd full (Nat.not_lt_of_le room)
  · have sent := memSend_of_real counted.ring.formatted.writeRetry real (by decide)
    obtain ⟨count, counted'⟩ := counted.accepted room keeps ring
    refine ⟨after, ⟨inMemory, ⟨.send .success, ?_⟩, count.symm⟩, keeps, counted'⟩
    rw [memCall, sent]
    rfl

/-- A channel of three nodes, one of which holds a block. -/
structure Narrow (channel : MemChannel) (drawn : Nat) (block : Block) : Prop where
  counted : Counted channel drawn [block]
  nodeCount : channel.nodeCount = 3
  protect : channel.conf.protectNodeCount = 0
  single : block.nodes = 1

theorem Narrow.free {drawn : Nat} (narrow : Narrow channel drawn block) :
    channel.freeNodes = 1 := by
  unfold MemChannel.freeNodes
  rw [narrow.counted.ring.unread_eq, extent_cons, extent_nil, narrow.nodeCount, narrow.protect,
    narrow.single]

/-- A run goes on with any number of sends of two nodes: each is refused and draws a number. -/
theorem Narrow.refusals {start : MemChannel × Nat}
    {before : List (Transition (MemChannel × Nat) MemCall)} {drawn : Nat}
    (narrow : Narrow channel drawn block) (run : Run TagStep start before (channel, drawn))
    (long : blockNodes msg.length = 2) (inMemory : msg.length + channelMinSize ≤ 2 ^ 64)
    (times : Nat) :
    ∃ made final, Run TagStep start made (final, drawn + times) ∧
      made.map Transition.label = before.map Transition.label ++ List.replicate times (.send msg) ∧
      Narrow final (drawn + times) block := by
  have nonempty : msg ≠ [] := by
    rintro rfl
    exact absurd long (by decide)
  induction times with
  | zero =>
      refine ⟨before, channel, run, ?_, narrow⟩
      rw [List.replicate_zero, List.append_nil]
  | succ times ih =>
      obtain ⟨made, final, run', labels, narrow'⟩ := ih
      obtain ⟨step, counted⟩ := narrow'.counted.refusedStep nonempty inMemory
        (by rw [narrow'.free, long]; decide)
        (by rw [narrow'.nodeCount, narrow'.protect, long]; decide)
      refine ⟨_, _, run'.tail step, ?_, counted, narrow'.nodeCount, narrow'.protect, narrow'.single⟩
      rw [List.map_append, labels, List.replicate_succ', List.append_assoc]
      rfl

/-- The neighbour that comes after a whole period carries the same number. -/
theorem Narrow.repeats {drawn : Nat} (narrow : Narrow channel drawn block)
    (period : seqPeriod ∣ drawn + 1) (short : blockNodes msg.length = 1)
    (inMemory : msg.length + channelMinSize ≤ 2 ^ 64) (nonempty : msg ≠ []) :
    ∃ after, TagStep (channel, drawn) (.send msg) (after, 0) ∧ ¬TagsApart after := by
  obtain ⟨after, step, -, -⟩ :=
    narrow.counted.acceptedStep nonempty inMemory (by rw [narrow.free, short])
  have invariant : TagInvariant (channel, drawn) := ⟨_, narrow.counted, List.isChain_singleton _⟩
  refine ⟨after, step, fun tags => ?_⟩
  have fresh := (invariant.apart_iff step).mp tags
  have room : FindsRoom channel (.send msg) := by
    refine ⟨nonempty, ?_⟩
    rw [memCalcNodeNum_eq narrow.counted.ring.formatted.shaped inMemory, narrow.free, short]
  have some_unread : channel.unread ≠ 0 := by
    rw [narrow.counted.ring.unread_eq, extent_cons, extent_nil, narrow.single]
    decide
  exact fresh room some_unread period

/-- The first send on a new channel of three nodes. -/
theorem narrow_start : ∃ channel after block, memInit 4504 none = .ok channel ∧
    TagStep (channel, 0) (.send [5]) (after, 0) ∧ Narrow after 0 block := by
  have init : memInit 4504 none = .ok _ := rfl
  obtain ⟨serial, zero⟩ := memInit_serialRing (by decide) init
  have counted : Counted _ 0 [] :=
    ⟨serial.ring, serial.writen, by rw [zero]; decide, fun _ isLast => by cases isLast⟩
  obtain ⟨after, step, keeps, counted'⟩ :=
    @Counted.acceptedStep _ _ [5] _ counted (by decide) (by decide) (by decide)
  refine ⟨_, after, _, init, step, counted', keeps.nodeCount, ?_, by decide⟩
  rw [keeps.header]
  rfl

/-- Two sends on a new channel, whose blocks are neighbours. -/
theorem neighbour_tags_iff_two : ∃ channel made final, memInit 4504 none = .ok channel ∧
    Run TagStep (channel, 0) made final ∧ made.map Transition.label = [.send [5], .send [6]] ∧
    final.1.unread = 2 ∧ ∀ t ∈ made, TagsApart t.post.1 := by
  obtain ⟨channel, after, block, init, step, narrow⟩ := narrow_start
  obtain ⟨final, step', -, counted⟩ := @Counted.acceptedStep _ _ [6] _ narrow.counted (by decide)
    (by decide) (by rw [narrow.free]; decide)
  have run := (Run.refl.tail step).tail step'
  have short : blockNodes [(6 : UInt8)].length = 1 := by decide
  have unread : final.unread = 2 := by
    rw [counted.ring.unread_eq, extent_append, extent_cons, extent_nil, narrow.single, extent_cons,
      extent_nil, Block.nodes, short]
  refine ⟨channel, _, _, init, run, rfl, unread,
    ((neighbour_tags_iff (by decide) init run).mpr ?_).2⟩
  have first : ¬seqPeriod ∣ 0 + 1 := by decide
  intro t member
  rcases List.mem_append.mp member with old | new
  · rw [List.mem_singleton.mp old]
    exact fun _ _ => first
  · rw [List.mem_singleton.mp new]
    exact fun _ _ => first

/-- A block of one node; then all numbers but one are drawn by sends that are refused; then another
    block of one node. Both blocks carry the number one, and nothing tells them apart. -/
theorem neighbour_tags_repeat : ∃ channel made final, memInit 4504 none = .ok channel ∧
    Run TagStep (channel, 0) made final ∧
    made.map Transition.label =
      [.send [5]] ++ List.replicate (2 ^ 32 - 2) (.send (List.replicate 200 7)) ++ [.send [6]] ∧
    ¬TagsApart final.1 := by
  obtain ⟨channel, sent, block, init, first, narrow⟩ := narrow_start
  have length : (List.replicate 200 (7 : UInt8)).length = 200 := List.length_replicate
  have long : blockNodes (List.replicate 200 (7 : UInt8)).length = 2 := by
    rw [length]
    decide
  have inMemory : (List.replicate 200 (7 : UInt8)).length + channelMinSize ≤ 2 ^ 64 := by
    rw [length]
    decide
  obtain ⟨made, full, run, labels, narrow'⟩ :=
    narrow.refusals (Run.refl.tail first) long inMemory (2 ^ 32 - 2)
  obtain ⟨final, last, together⟩ :=
    @Narrow.repeats _ _ [6] _ narrow' (by decide) (by decide) (by decide) (by decide)
  refine ⟨channel, _, _, init, run.tail last, ?_, together⟩
  rw [List.map_append, labels]
  rfl

end

end LibAtbus.Channel
