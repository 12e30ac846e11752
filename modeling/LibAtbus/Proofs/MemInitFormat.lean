/-
Module: LibAtbus.Proofs.MemInitFormat
Layer: Proofs
Purpose: What `mem_init` establishes. The header, the heads and the data slots lie apart inside the
  buffer for every length. With the default configuration the header carries what it stands for, and
  the first message that needs fewer nodes than are not protected goes through. With a configuration
  of the caller it is the pointer that is copied: no attempt to write is allowed, and every message
  is dropped with success.
Trusted boundary: none
Main exports: Arranged, Established, memInit_arranged, memInit_establishes_iff, memInit_conf_drops
-/
import LibAtbus.Proofs.MemFifo
import LibAtbus.Proofs.MemWrite

namespace LibAtbus.Channel

open ByteMemory RingIndex TiledRing

/-! ### Areas -/

section

variable (channel : MemChannel)

/-- The header of the channel, as addresses of the buffer. -/
def MemChannel.headerArea : Set Nat :=
  Set.Ico channel.areaChannelOffset (channel.areaChannelOffset + channelHeadSize)

/-- The area of the node heads. -/
def MemChannel.headArea : Set Nat := Set.Ico channel.areaHeadOffset channel.areaDataOffset

/-- The area of the data slots. -/
def MemChannel.slotArea : Set Nat := Set.Ico channel.areaDataOffset channel.areaEndOffset

/-- The head of a node, where `mem_get_node_head` finds it. -/
def MemChannel.headOf (index : Nat) : Set Nat :=
  cell (channel.areaChannelOffset + (channel.areaHeadOffset - channel.areaChannelOffset))
    nodeHeadSize index

/-- The data slot of a node, where `mem_get_node_head` and `mem_get_block_head` find it. -/
def MemChannel.slotOf (index : Nat) : Set Nat :=
  cell (channel.areaChannelOffset + (channel.areaDataOffset - channel.areaChannelOffset))
    nodeDataSize index

end

/-- The areas of a channel lie inside a buffer of `len` bytes and have no address in common; nor
    have the heads or the slots of different nodes, which lie in the areas. -/
structure Arranged (channel : MemChannel) (len : Nat) : Prop where
  header : channel.headerArea ⊆ Set.Ico 0 len
  heads : channel.headArea ⊆ Set.Ico 0 len
  slots : channel.slotArea ⊆ Set.Ico 0 len
  headerHeads : Disjoint channel.headerArea channel.headArea
  headerSlots : Disjoint channel.headerArea channel.slotArea
  headsSlots : Disjoint channel.headArea channel.slotArea
  headInside : ∀ i < channel.nodeCount, channel.headOf i ⊆ channel.headArea
  slotInside : ∀ i < channel.nodeCount, channel.slotOf i ⊆ channel.slotArea
  headsApart : ∀ i j, i ≠ j → Disjoint (channel.headOf i) (channel.headOf j)
  slotsApart : ∀ i j, i ≠ j → Disjoint (channel.slotOf i) (channel.slotOf j)

/-- The channel takes a message and hands it out again. There are no bytes to hand out for an empty
    one, and `mem_recv` says so. -/
def PassesOn (channel : MemChannel) (msg : List UInt8) : Prop :=
  ∃ sent, memSend channel msg = some (.success, sent) ∧ ∀ clock len, msg.length ≤ len →
    ∃ result, memRecv clock sent len = some result ∧ result.buf = msg ∧
      (msg ≠ [] → result.ret = .success ∧ result.recvSize = some msg.length)

/-- What `mem_init` is to establish in a buffer of `len` bytes: the areas, the size of a node, the
    configuration of the caller or the defaults, and a channel on which a first message goes through
    that needs fewer nodes than are not protected. -/
structure Established (channel : MemChannel) (len : Nat) (conf : Option MemConf) : Prop where
  areas : Arranged channel len
  power : channel.nodeSize = 2 ^ channel.nodeSizeBinPower
  protectNode : channel.conf.protectNodeCount =
    conf.elim (channel.nodeCount / 128) MemConf.protectNodeCount
  sendTimeout : channel.conf.confSendTimeoutMs = conf.elim 4 MemConf.confSendTimeoutMs
  writeRetry : channel.conf.writeRetryTimes = conf.elim 4 MemConf.writeRetryTimes
  protectMemory : channel.conf.protectMemorySize = channel.conf.protectNodeCount * channel.nodeSize
  passes : ∀ msg, blockNodes msg.length < channel.nodeCount - channel.conf.protectNodeCount →
    PassesOn channel msg

section

variable {channel : MemChannel} {len : Nat} {msg : List UInt8}

/-- The offsets of a new channel, whatever the configuration. -/
structure Offsets (channel : MemChannel) (len : Nat) : Prop where
  start : channel.areaChannelOffset = 0
  heads : channel.areaHeadOffset = channelHeadSize
  slots : channel.areaDataOffset = channelHeadSize + channel.nodeCount * nodeHeadSize
  final : channel.areaEndOffset = channel.areaDataOffset + channel.nodeCount * nodeDataSize
  fits : channelHeadSize ≤ len
  count : channel.nodeCount = (len - channelHeadSize) / (nodeDataSize + nodeHeadSize)

theorem memInit_offsets {conf : Option Nat} (init : memInit len conf = .ok channel) :
    Offsets channel len := by
  unfold memInit at init
  split at init
  · cases init
  · rename_i large
    have fits : channelHeadSize ≤ len := by
      unfold channelMinSize at large
      omega
    cases conf with
    | none =>
        cases init
        exact ⟨rfl, rfl, rfl, rfl, fits, rfl⟩
    | some address =>
        cases init
        exact ⟨rfl, rfl, rfl, rfl, fits, rfl⟩

/-- Rounding down leaves the end of the last slot inside the buffer. -/
theorem Offsets.total (offsets : Offsets channel len) : channel.areaEndOffset ≤ len := by
  have fits := offsets.fits
  rw [offsets.final, offsets.slots, offsets.count]
  unfold channelHeadSize nodeDataSize nodeHeadSize at *
  omega

/-- The areas of a new channel, whatever the configuration. -/
theorem memInit_arranged {conf : Option Nat} (init : memInit len conf = .ok channel) :
    Arranged channel len := by
  have offsets := memInit_offsets init
  have total := offsets.total
  obtain ⟨start, heads, slots, final, fits, -⟩ := offsets
  have headBase :
      channel.areaChannelOffset + (channel.areaHeadOffset - channel.areaChannelOffset) =
      channelHeadSize := by
    rw [start, heads, Nat.sub_zero, Nat.zero_add]
  have slotBase : channel.areaChannelOffset + (channel.areaDataOffset - channel.areaChannelOffset) =
      channel.areaDataOffset := by
    rw [start, Nat.sub_zero, Nat.zero_add]
  have behindHeads : channelHeadSize ≤ channel.areaDataOffset := by
    rw [slots]
    exact Nat.le_add_right _ _
  have behindSlots : channel.areaDataOffset ≤ channel.areaEndOffset := by
    rw [final]
    exact Nat.le_add_right _ _
  have headerArea : channel.headerArea = Set.Ico 0 channelHeadSize := by
    rw [MemChannel.headerArea, start, Nat.zero_add]
  have headArea : channel.headArea = Set.Ico channelHeadSize channel.areaDataOffset := by
    rw [MemChannel.headArea, heads]
  exact
    { header := headerArea ▸ Set.Ico_subset_Ico_right fits
      heads := headArea ▸ Set.Ico_subset_Ico (Nat.zero_le _) (behindSlots.trans total)
      slots := Set.Ico_subset_Ico (Nat.zero_le _) total
      headerHeads := by
        rw [headerArea, headArea]
        exact Set.Ico_disjoint_Ico_same
      headerSlots := by
        rw [headerArea, MemChannel.slotArea, Set.disjoint_left]
        intro address inHeader inSlots
        exact absurd inHeader.2 (Nat.not_lt_of_le (behindHeads.trans inSlots.1))
      headsSlots := by
        rw [headArea]
        exact Set.Ico_disjoint_Ico_same
      headInside := by
        intro i inside
        rw [MemChannel.headOf, headBase, headArea, slots]
        exact cell_subset inside
      slotInside := by
        intro i inside
        rw [MemChannel.slotOf, slotBase, MemChannel.slotArea, final]
        exact cell_subset inside
      headsApart := fun _ _ differ => cell_disjoint differ
      slotsApart := fun _ _ differ => cell_disjoint differ }

/-! ### The first message -/

/-- A message that needs fewer nodes than are not protected finds room on a new channel. -/
theorem memSend_first (ring : MemRing channel []) (nonempty : msg ≠ [])
    (small : msg.length + channelMinSize ≤ 2 ^ 64)
    (room : blockNodes msg.length < channel.nodeCount - channel.conf.protectNodeCount) :
    ∃ sent, memSend channel msg = some (.success, sent) ∧
      MemRing sent [⟨msg, nextOprSeq channel, .writen⟩] := by
  have start : channel.atomicWriteCur = channel.atomicReadCur := by
    rw [ring.writeCur, extent_nil, slot_zero ring.readCur_lt]
  have free : blockNodes msg.length ≤ channel.freeNodes := by
    unfold MemChannel.freeNodes MemChannel.unread
    rw [start, dist_self ring.readCur_lt]
    omega
  rcases ring.send_cases nonempty small with ⟨short, -⟩ | ⟨-, sent, real, -, ring'⟩
  · exact absurd free (Nat.not_le_of_lt short)
  · exact ⟨sent, memSend_of_real ring.formatted.writeRetry real (by decide), ring'⟩

/-- The first message goes through a new channel with the default configuration. -/
theorem memInit_passesOn (word : len < 2 ^ 64) (init : memInit len none = .ok channel)
    (room : blockNodes msg.length < channel.nodeCount - channel.conf.protectNodeCount) :
    PassesOn channel msg := by
  have ring := (memInit_serialRing word init).1.ring
  by_cases empty : msg = []
  · subst empty
    refine ⟨channel, memSend_of_real ring.formatted.writeRetry rfl (by decide),
      fun clock space _ => ?_⟩
    exact ⟨_, memRecv_empty ring, rfl, fun bytes => absurd rfl bytes⟩
  · have small : msg.length + channelMinSize ≤ 2 ^ 64 := by
      have offsets := memInit_offsets init
      have large := @le_blockNodes_mul msg.length
      have total := offsets.total
      have few : (blockNodes msg.length + 1) * nodeDataSize ≤ channel.nodeCount * nodeDataSize :=
        Nat.mul_le_mul_right _ (by omega)
      rw [offsets.final, offsets.slots] at total
      unfold channelMinSize channelHeadSize nodeDataSize nodeHeadSize blockHeadSize at *
      omega
    obtain ⟨sent, sends, ring'⟩ := memSend_first ring empty small room
    refine ⟨sent, sends, fun clock space fits => ?_⟩
    obtain ⟨heads, taken, -⟩ := @memRecv_taken sent _ _ clock space ring' rfl fits (by simp)
    exact ⟨_, taken, rfl, fun _ => ⟨rfl, rfl⟩⟩

/-- The default configuration: one node of 128 is protected. -/
theorem memInit_default (init : memInit len none = .ok channel) :
    channel.conf = ⟨channel.nodeCount / 128, channel.nodeCount / 128 * nodeDataSize, 4, 4⟩ := by
  have clamped : ∀ count : Nat,
      (if count >>> 7 > count then count else count >>> 7) = count / 128 := by
    intro count
    rw [Nat.shiftRight_eq_div_pow, if_neg]
    exact Nat.not_lt_of_le (Nat.div_le_self _ _)
  unfold memInit at init
  split at init
  · cases init
  · cases init
    simp only [memDefaultConf, ne_eq, not_true_eq_false, and_false, if_false, if_true, clamped]

/-- A configuration of the caller leaves no attempt to write: every message is dropped with
    success. -/
theorem memInit_conf_drops {address : Nat} (init : memInit len (some address) = .ok channel)
    (msg : List UInt8) :
    channel.conf = ⟨address, 0, 0, 0⟩ ∧ memSend channel msg = some (.success, channel) := by
  have conf : channel.conf = ⟨address, 0, 0, 0⟩ := by
    unfold memInit at init
    split at init
    · cases init
    · cases init
      rfl
  refine ⟨conf, ?_⟩
  rw [memSend, conf]
  rfl

/-- `mem_init` establishes the channel for every length exactly when the caller hands over no
    configuration. -/
theorem memInit_establishes_iff {conf : Option (Nat × MemConf)} (word : len < 2 ^ 64)
    (proper : ∀ given ∈ conf, given.2.protectNodeCount < channel.nodeCount ∧
      1 ≤ given.2.writeRetryTimes)
    (init : memInit len (conf.map Prod.fst) = .ok channel) :
    Established channel len (conf.map Prod.snd) ↔ conf = none := by
  constructor
  · intro established
    cases conf with
    | none => rfl
    | some given =>
        have retry := established.writeRetry
        have positive := (proper given rfl).2
        rw [(memInit_conf_drops init []).1] at retry
        exact absurd retry.symm (Nat.ne_of_gt positive)
  · rintro rfl
    have formatted := (memInit_serialRing word init).1.ring.formatted
    have defaults := memInit_default init
    exact
      { areas := memInit_arranged init
        power := by
          rw [formatted.nodeSize, formatted.nodeSizeBinPower]
          rfl
        protectNode := congrArg MemConf.protectNodeCount defaults
        sendTimeout := congrArg MemConf.confSendTimeoutMs defaults
        writeRetry := congrArg MemConf.writeRetryTimes defaults
        protectMemory := by
          rw [formatted.protectMemory, formatted.nodeSize]
        passes := fun _ room => memInit_passesOn word init room }

/-- A buffer of two pages without a configuration. -/
theorem memInit_establishes_iff_default : ∃ channel, memInit 8192 none = .ok channel ∧
    (Established channel 8192 none ↔ (none : Option (Nat × MemConf)) = none) := by
  have init : memInit 8192 none = .ok _ := rfl
  exact ⟨_, init, @memInit_establishes_iff _ 8192 none (by decide) (by simp) init⟩

/-- A configuration at an address: the channel protects as many nodes as the address says and never
    tries to write. -/
theorem memInit_copies_pointer : ∃ channel, memInit 8192 (some 65536) = .ok channel ∧
    ¬Established channel 8192 (some ⟨1, 128, 4, 4⟩) := by
  have init : memInit 8192 (some 65536) = .ok _ := rfl
  refine ⟨_, init, fun established => ?_⟩
  exact absurd established.writeRetry (by decide)

end

end LibAtbus.Channel
