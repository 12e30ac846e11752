/-
Module: LibAtbus.Proofs.MemFifo
Layer: Proofs
Purpose: The memory channel refines the abstract first-in first-out queue when its calls run one at
  a time. Every call of every run is an observation of the queue whose contents are the messages of
  the blocks in the ring.
Trusted boundary: none
Main exports: Observes, SerialRing, MemChannel.HasRoom, memCall_refines, memCalls_refines,
  memChannel_refines_fifo
-/
import LibAtbus.Foundation.FifoQueue
import LibAtbus.Proofs.MemWrite

namespace LibAtbus.Channel

open FifoQueue RingIndex TiledRing

/-! ### Observing the queue -/

/-- The observation of the queue that a call and its reply amount to. -/
inductive Observes : MemCall → MemReply → QueueEvent (List UInt8) → Prop where
  | accepted (msg : List UInt8) : Observes (.send msg) (.send .success) (.accepted msg)
  | refused (msg : List UInt8) : Observes (.send msg) (.send .buffLimit) (.refused msg)
  | taken (clock len : Nat) (msg : List UInt8) (fits : msg.length ≤ len) :
      Observes (.recv clock len) (.recv .success (some msg.length) msg) (.taken msg)
  | empty (clock len : Nat) : Observes (.recv clock len) (.recv .noData none []) .empty
  | tooLarge (clock len : Nat) (msg : List UInt8) (larger : len < msg.length) :
      Observes (.recv clock len) (.recv .buffLimit (some msg.length) []) (.tooLarge msg)

/-- Call by call, the replies of a run are observations of the queue. -/
inductive Observations :
    List MemCall → List MemReply → List (QueueEvent (List UInt8)) → Prop where
  | nil : Observations [] [] []
  | cons {call : MemCall} {reply : MemReply} {event : QueueEvent (List UInt8)}
      {calls : List MemCall} {replies : List MemReply} {events : List (QueueEvent (List UInt8))}
      (head : Observes call reply event) (tail : Observations calls replies events) :
      Observations (call :: calls) (reply :: replies) (event :: events)

/-- The reply of a receive and the queue behind it, as the queue alone determines them. -/
def recvAnswer (len : Nat) : List (List UInt8) → MemReply × List (List UInt8)
  | [] => (.recv .noData none [], [])
  | msg :: queue =>
      if msg.length ≤ len then (.recv .success (some msg.length) msg, queue)
      else (.recv .buffLimit (some msg.length) [], msg :: queue)

/-- That reply is an observation of the queue. -/
theorem recvAnswer_observes (room : List (List UInt8) → List UInt8 → Prop) (clock len : Nat)
    (queue : List (List UInt8)) :
    ∃ event, Observes (.recv clock len) (recvAnswer len queue).1 event ∧
      QueueStep room queue event (recvAnswer len queue).2 := by
  cases queue with
  | nil => exact ⟨_, .empty clock len, .empty⟩
  | cons msg queue =>
      by_cases fits : msg.length ≤ len
      · rw [recvAnswer, if_pos fits]
        exact ⟨_, .taken clock len msg fits, .taken msg queue⟩
      · rw [recvAnswer, if_neg fits]
        exact ⟨_, .tooLarge clock len msg (Nat.lt_of_not_le fits), .tooLarge msg queue⟩

/-- The calls a run is about: messages are not empty and shorter than half the address space. -/
def MemCall.Proper : MemCall → Prop
  | .send msg => msg ≠ [] ∧ msg.length < 2 ^ 63
  | .recv _ _ => True

def MemCall.isSend : MemCall → Bool
  | .send _ => true
  | .recv _ _ => false

/-! ### The invariant between calls -/

/-- Between calls every block is written, and the sequence numbers grow along the ring up to the
    counter. -/
structure SerialRing (channel : MemChannel) (blocks : List Block) : Prop where
  ring : MemRing channel blocks
  writen : ∀ block ∈ blocks, block.phase = .writen
  growing : blocks.Pairwise fun earlier later => earlier.oprSeq < later.oprSeq
  counter : ∀ block ∈ blocks, block.oprSeq ≤ channel.atomicOperationSeq

/-- The queue a ring of blocks stands for. -/
def messages (blocks : List Block) : List (List UInt8) := blocks.map Block.msg

/-- There are nodes left for a message behind those that are queued: one stays free as the tail, and
    so do the protected ones. -/
def MemChannel.HasRoom (channel : MemChannel) (queue : List (List UInt8))
    (msg : List UInt8) : Prop :=
  extent (fun msg => blockNodes msg.length) queue + blockNodes msg.length +
    channel.conf.protectNodeCount <
    channel.nodeCount

section

variable {channel : MemChannel} {blocks : List Block}

theorem binPower_nodeDataSize : binPower nodeDataSize nodeDataSize = 7 := by decide +kernel

theorem memDefaultConf_protect_le (channel : MemChannel) :
    (memDefaultConf channel).conf.protectNodeCount ≤ channel.nodeCount := by
  have clamp : ∀ count bound : Nat, (if count > bound then bound else count) ≤ bound := by
    intro count bound
    split <;> omega
  exact clamp _ _

/-- A freshly initialised channel is an empty ring. -/
theorem memInit_serialRing {len : Nat} (small : len < 2 ^ 64)
    (init : memInit len none = .ok channel) :
    SerialRing channel [] ∧ channel.atomicOperationSeq = 0 := by
  unfold memInit at init
  split at init
  · cases init
  · rename_i large
    unfold channelMinSize channelHeadSize nodeDataSize nodeHeadSize at large
    cases init
    refine ⟨?_, rfl⟩
    have nodes : 0 < (len - channelHeadSize) / (nodeDataSize + nodeHeadSize) := by
      unfold channelHeadSize nodeDataSize nodeHeadSize
      omega
    have few : (len - channelHeadSize) / (nodeDataSize + nodeHeadSize) < 2 ^ 57 := by
      unfold channelHeadSize nodeDataSize nodeHeadSize
      omega
    exact
      { ring :=
          { formatted :=
              { nodeSize := rfl
                nodeSizeBinPower := binPower_nodeDataSize
                nodeCount_pos := nodes
                nodeCount_lt := few
                dataLength := by simp [memDefaultConf]
                protectNode := memDefaultConf_protect_le _
                protectMemory := rfl
                writeRetry := Nat.succ_pos 3 }
            readCur_lt := nodes
            extent_lt := nodes
            writeCur := (slot_zero nodes).symm
            heads := ⟨trivial, fun _ _ _ => rfl⟩
            bytes := ⟨trivial, fun _ _ _ => trivial⟩
            valid := by simp }
        writen := by simp
        growing := List.Pairwise.nil
        counter := by simp }

/-- Along a serial ring the first block's sequence number is not the next one's. -/
theorem SerialRing.next_ne {block : Block} {rest : List Block}
    (serial : SerialRing channel (block :: rest)) :
    ∀ other ∈ rest.head?, (other.head 0).operationSeq ≠ block.oprSeq := by
  intro other isNext
  have member : other ∈ rest := List.mem_of_mem_head? isNext
  have later := List.rel_of_pairwise_cons serial.growing member
  have written := serial.writen other (List.mem_cons_of_mem _ member)
  rw [Block.head, written]
  exact Nat.ne_of_gt later

/-- A receive answers as the queue determines. -/
theorem memCall_recv (serial : SerialRing channel blocks) (clock len : Nat) :
    ∃ after rest, memCall channel (.recv clock len) =
        some ((recvAnswer len (messages blocks)).1, after) ∧
      SerialRing after rest ∧ messages rest = (recvAnswer len (messages blocks)).2 ∧
      after.HasRoom = channel.HasRoom ∧ after.atomicOperationSeq = channel.atomicOperationSeq := by
  cases blocks with
  | nil =>
      refine ⟨channel, [], ?_, serial, rfl, rfl, rfl⟩
      rw [memCall, memRecv_empty serial.ring]
      rfl
  | cons block rest =>
      have phase := serial.writen block (by simp)
      by_cases fits : block.msg.length ≤ len
      · obtain ⟨heads, got, ring, _⟩ :=
          @memRecv_taken channel rest block clock len serial.ring phase fits serial.next_ne
        have serial' : SerialRing _ rest :=
          { ring := ring
            writen := fun other member => serial.writen other (List.mem_cons_of_mem _ member)
            growing := serial.growing.of_cons
            counter := fun other member => serial.counter other (List.mem_cons_of_mem _ member) }
        refine ⟨_, rest, ?_, serial', ?_, rfl, rfl⟩
        · rw [memCall, got, messages, List.map_cons, recvAnswer, if_pos fits]
          rfl
        · rw [messages, messages, List.map_cons, recvAnswer, if_pos fits]
      · refine ⟨channel, block :: rest, ?_, serial, ?_, rfl, rfl⟩
        · rw [memCall, memRecv_tooLarge serial.ring phase (Nat.lt_of_not_le fits), messages,
            List.map_cons, recvAnswer, if_neg fits]
          rfl
        · rw [messages, List.map_cons, recvAnswer, if_neg fits]

/-- The retry loop is left at the first answer that is no write conflict. -/
theorem memSend_of_real {msg : List UInt8} {ret : ErrorType} {after : MemChannel}
    (retries : 0 < channel.conf.writeRetryTimes)
    (sent : memSendReal channel msg = some (ret, after))
    (noConflict : ret ≠ .nodeBadBlockCseqId ∧ ret ≠ .nodeBadBlockWseqId) :
    memSend channel msg = some (ret, after) := by
  obtain ⟨times, positive⟩ : ∃ times, channel.conf.writeRetryTimes = times + 1 :=
    ⟨channel.conf.writeRetryTimes - 1, by omega⟩
  rw [memSend, positive, memSendTry, sent]
  dsimp only
  rw [if_neg (by tauto)]

/-- A writer finds its nodes free exactly when there is room behind the messages in the ring. -/
theorem MemRing.hasRoom_iff (ring : MemRing channel blocks) {msg : List UInt8} :
    channel.HasRoom (messages blocks) msg ↔ blockNodes msg.length ≤ channel.freeNodes := by
  have queued : extent (fun msg => blockNodes msg.length) (messages blocks) =
      extent Block.nodes blocks := by
    rw [messages, extent, extent, List.map_map]
    rfl
  have unread : channel.unread = extent Block.nodes blocks := by
    rw [MemChannel.unread, ring.writeCur]
    exact dist_slot ring.readCur_lt ring.extent_lt
  have nonempty := @blockNodes_pos msg.length
  rw [MemChannel.HasRoom, MemChannel.freeNodes, queued, unread]
  omega

/-- A send appends its message to the queue if there is room for it, and leaves the queue as it is
    if there is none. -/
theorem memCall_send (serial : SerialRing channel blocks) {msg : List UInt8} (nonempty : msg ≠ [])
    (small : msg.length < 2 ^ 63) (room : channel.atomicOperationSeq + 1 < 2 ^ 32) :
    ∃ ret after blocks', memCall channel (.send msg) = some (.send ret, after) ∧
      SerialRing after blocks' ∧ after.HasRoom = channel.HasRoom ∧
      after.atomicOperationSeq ≤ channel.atomicOperationSeq + 1 ∧
      (ret = .success ∧ channel.HasRoom (messages blocks) msg ∧
        messages blocks' = messages blocks ++ [msg] ∨
        ret = .buffLimit ∧ ¬channel.HasRoom (messages blocks) msg ∧
        messages blocks' = messages blocks) := by
  have retries := serial.ring.formatted.writeRetry
  have next : nextOprSeq channel = channel.atomicOperationSeq + 1 := by
    unfold nextOprSeq memFetchOperationSeq
    dsimp only
    rw [Nat.mod_eq_of_lt room, if_pos (by omega)]
  have beside : msg.length + channelMinSize ≤ 2 ^ 64 := by
    unfold channelMinSize channelHeadSize nodeDataSize nodeHeadSize
    omega
  rcases serial.ring.send_cases nonempty beside with
    ⟨few, full⟩ | ⟨enough, after, sent, keeps, ring⟩
  · have none : ¬channel.HasRoom (messages blocks) msg := by
      rw [serial.ring.hasRoom_iff]
      exact Nat.not_le_of_lt few
    have called : memCall channel (.send msg) =
        some (.send .buffLimit, channel.refused (blockNodes msg.length)) := by
      rw [memCall, memSend_of_real retries full (by decide)]
      rfl
    rcases channel.refused_cases (blockNodes msg.length) with same | drawn
    · rw [same] at called
      exact ⟨.buffLimit, channel, blocks, called, serial, rfl, Nat.le_succ _, .inr ⟨rfl, none, rfl⟩⟩
    · rw [drawn] at called
      have serial' : SerialRing { channel with atomicOperationSeq := nextOprSeq channel } blocks :=
        { serial with
          ring := serial.ring.counters
          counter := fun block member => by
            have below := serial.counter block member
            show block.oprSeq ≤ nextOprSeq channel
            omega }
      exact ⟨.buffLimit, _, blocks, called, serial', rfl, next.le, .inr ⟨rfl, none, rfl⟩⟩
  · have seq : after.atomicOperationSeq = nextOprSeq channel := by
      rw [keeps.header]
      rfl
    have same : after.HasRoom = channel.HasRoom := by
      rw [keeps.header]
      rfl
    refine ⟨.success, after, blocks ++ [⟨msg, nextOprSeq channel, .writen⟩], ?_, ?_, same, by omega,
      .inl ⟨rfl, serial.ring.hasRoom_iff.mpr enough, ?_⟩⟩
    · rw [memCall, memSend_of_real retries sent (by decide)]
      rfl
    · exact
        { ring := ring
          writen := by
            intro block member
            rcases List.mem_append.mp member with old | new
            · exact serial.writen block old
            · rw [List.mem_singleton.mp new]
          growing := by
            refine List.pairwise_append.mpr ⟨serial.growing, List.pairwise_singleton _ _, ?_⟩
            intro earlier old later new
            have below := serial.counter earlier old
            rw [List.mem_singleton.mp new]
            show earlier.oprSeq < nextOprSeq channel
            omega
          counter := by
            intro block member
            rcases List.mem_append.mp member with old | new
            · have below := serial.counter block old
              omega
            · rw [List.mem_singleton.mp new, seq] }
    · simp [messages]

/-- Every call is an observation of the queue and keeps the invariant. -/
theorem memCall_refines (serial : SerialRing channel blocks) {call : MemCall} (proper : call.Proper)
    (room : call.isSend → channel.atomicOperationSeq + 1 < 2 ^ 32) :
    ∃ reply after blocks' event, memCall channel call = some (reply, after) ∧
      SerialRing after blocks' ∧ after.HasRoom = channel.HasRoom ∧
      after.atomicOperationSeq ≤ channel.atomicOperationSeq + (if call.isSend then 1 else 0) ∧
      Observes call reply event ∧
      QueueStep channel.HasRoom (messages blocks) event (messages blocks') := by
  cases call with
  | send msg =>
      obtain ⟨ret, after, blocks', sent, serial', same, counter, accepted | refused⟩ :=
        memCall_send serial proper.1 proper.2 (room rfl)
      · obtain ⟨rfl, fits, contents⟩ := accepted
        refine ⟨_, after, blocks', _, sent, serial', same, counter, .accepted msg, ?_⟩
        rw [contents]
        exact .accepted fits
      · obtain ⟨rfl, full, contents⟩ := refused
        refine ⟨_, after, blocks', _, sent, serial', same, counter, .refused msg, ?_⟩
        rw [contents]
        exact .refused full
  | recv clock len =>
      obtain ⟨after, rest, got, serial', contents, same, counter⟩ := memCall_recv serial clock len
      obtain ⟨event, observes, step⟩ :=
        recvAnswer_observes channel.HasRoom clock len (messages blocks)
      rw [← contents] at step
      exact ⟨_, after, rest, event, got, serial', same, counter.le, observes, step⟩

end

/-! ### Runs -/

/-- A run of calls is a run of the queue, as long as the sequence counter does not come round. -/
theorem memCalls_refines {calls : List MemCall} :
    ∀ {channel : MemChannel} {blocks : List Block}, SerialRing channel blocks →
      (∀ call ∈ calls, call.Proper) →
      channel.atomicOperationSeq + calls.countP MemCall.isSend < 2 ^ 32 →
      ∃ replies final blocks' events, memCalls channel calls = some (replies, final) ∧
        SerialRing final blocks' ∧
        final.atomicOperationSeq ≤ channel.atomicOperationSeq + calls.countP MemCall.isSend ∧
        Observations calls replies events ∧
        QueueRun channel.HasRoom (messages blocks) events (messages blocks') := by
  induction calls with
  | nil =>
      intro channel blocks serial _ _
      exact ⟨[], channel, blocks, [], rfl, serial, Nat.le_refl _, .nil, .nil _⟩
  | cons call calls ih =>
      intro channel blocks serial proper room
      rw [List.countP_cons] at room ⊢
      obtain ⟨reply, middle, blocks₁, event, called, serial₁, same, counter, observes, step⟩ :=
        memCall_refines serial (proper call (by simp))
          (by intro isSend; rw [if_pos isSend] at room; omega)
      obtain ⟨replies, final, blocks₂, events, ran, serial₂, counter₂, observations, run⟩ :=
        ih serial₁ (fun other member => proper other (List.mem_cons_of_mem _ member)) (by omega)
      rw [same] at run
      refine ⟨reply :: replies, final, blocks₂, event :: events, ?_, serial₂, by omega,
        .cons observes observations, .cons step run⟩
      rw [memCalls, called]
      simp [ran]

/-- Receives alone: the replies depend on nothing but the queue. -/
theorem memCalls_reads_determined {reads : List MemCall} :
    ∀ {channel other : MemChannel} {blocks blocks' : List Block}, SerialRing channel blocks →
      SerialRing other blocks' → messages blocks = messages blocks' →
      (∀ call ∈ reads, call.isSend = false) →
      (memCalls channel reads).map Prod.fst = (memCalls other reads).map Prod.fst := by
  induction reads with
  | nil =>
      intro channel other blocks blocks' _ _ _ _
      rfl
  | cons call reads ih =>
      intro channel other blocks blocks' serial serial' same receives
      cases call with
      | send msg => exact absurd (receives (.send msg) (by simp)) (by simp [MemCall.isSend])
      | recv clock len =>
          obtain ⟨after, rest, got, next, contents, -⟩ := memCall_recv serial clock len
          obtain ⟨after', rest', got', next', contents', -⟩ := memCall_recv serial' clock len
          have later := ih next next' (by rw [contents, contents', same])
            fun read member => receives read (List.mem_cons_of_mem _ member)
          rw [same] at got
          rw [memCalls, memCalls, got, got']
          cases first : memCalls after reads with
          | none =>
              cases second : memCalls after' reads with
              | none => simp [first, second]
              | some answer => simp [first, second] at later
          | some answer =>
              cases second : memCalls after' reads with
              | none => simp [first, second] at later
              | some answer' =>
                  simp only [first, second, Option.map_some, Option.some.injEq] at later
                  simp [first, second, later]

/-- The memory channel is a first-in first-out queue. On a channel that `mem_init` made with its
    default configuration, every sequence of calls has replies, each of them is an observation of
    the queue that starts empty, and so the messages received are those accepted, in order, up to
    the ones still in the queue. A message is refused when there is no room for it behind the queue,
    and only then; it leaves every later receive the answer it would have given. -/
theorem memChannel_refines_fifo {len : Nat} {channel : MemChannel} {calls : List MemCall}
    (small : len < 2 ^ 64) (init : memInit len none = .ok channel)
    (proper : ∀ call ∈ calls, call.Proper)
    (sends : calls.countP MemCall.isSend < 2 ^ 32 - 1) :
    (∃ replies final events pending, memCalls channel calls = some (replies, final) ∧
      Observations calls replies events ∧ QueueRun channel.HasRoom [] events pending ∧
      acceptedItems events = takenItems events ++ pending) ∧
    ∀ earlier msg later replies before after reads, calls = earlier ++ .send msg :: later →
      memCalls channel earlier = some (replies, before) →
      memSend before msg = some (.buffLimit, after) →
      (∀ call ∈ reads, MemCall.isSend call = false) →
      (memCalls after reads).map Prod.fst = (memCalls before reads).map Prod.fst := by
  obtain ⟨serial, fresh⟩ := memInit_serialRing small init
  constructor
  · obtain ⟨replies, final, blocks, events, ran, _, _, observations, run⟩ :=
      memCalls_refines serial proper (by omega)
    refine ⟨replies, final, events, messages blocks, ran, observations, run, ?_⟩
    exact run.conservation
  · intro earlier msg later replies before after reads split ran refused receives
    subst split
    rw [List.countP_append, List.countP_cons] at sends
    have isSend : MemCall.isSend (.send msg) = true := rfl
    rw [if_pos isSend] at sends
    obtain ⟨replies', before', blocks, events, ran', serial', counter, _, _⟩ :=
      memCalls_refines serial (fun call member => proper call (List.mem_append_left _ member))
        (by omega)
    rw [ran] at ran'
    cases ran'
    have properMsg := proper (.send msg) (by simp)
    obtain ⟨ret, after', blocks', sent, serial'', -, -, accepted | kept⟩ :=
      memCall_send serial' properMsg.1 properMsg.2 (by omega)
    · rw [memCall, refused, accepted.1] at sent
      cases sent
    · rw [memCall, refused] at sent
      cases sent
      exact memCalls_reads_determined serial'' serial' kept.2.2 receives

/-- Two messages and four receives, one of them with a buffer that is too small. -/
theorem memChannel_refines_fifo_short_run :
    ∃ channel, memInit 8192 none = .ok channel ∧
      ∃ replies final events pending,
        memCalls channel [.send [1, 2, 3], .send [4], .recv 0 2, .recv 0 8, .recv 0 8, .recv 0 8] =
            some (replies, final) ∧
          Observations [.send [1, 2, 3], .send [4], .recv 0 2, .recv 0 8, .recv 0 8, .recv 0 8]
            replies events ∧
          QueueRun channel.HasRoom [] events pending ∧
          acceptedItems events = takenItems events ++ pending := by
  have init : memInit 8192 none = .ok _ := rfl
  have small : 8192 < 2 ^ 64 := by decide
  exact ⟨_, init, (memChannel_refines_fifo small init (by simp [MemCall.Proper]) (by decide)).1⟩

end LibAtbus.Channel
