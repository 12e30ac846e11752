/-
Module: LibAtbus.Proofs.MemAttach
Layer: Proofs
Purpose: Attaching to a channel that is already there. No call changes the layout recorded in the
  header, and the comparison of `mem_attach` runs from the unterminated magic text into the recorded
  node size. From the two it follows what attach answers on every reachable channel, and what
  becomes of the channel when the callers initialise it after a failed attach.
Trusted boundary: none
Main exports: MemChannel.layout, memCalls_layout, strCaseCmp_magic, attach_preserves_iff
-/
import LibAtbus.Channel.MemChannel

namespace LibAtbus.Channel

open ByteMemory

/-! ### The layout survives every call -/

/-- The channel with everything that calls change taken away. -/
def MemChannel.layout (channel : MemChannel) : MemChannel :=
  { channel with
    atomicReadCur := 0
    atomicWriteCur := 0
    firstFailedWritingTime := 0
    atomicOperationSeq := 0
    blockBadCount := 0
    blockTimeoutCount := 0
    nodeBadCount := 0
    nodeHeads := fun _ => .clean
    dataArea := fun _ => 0 }

section

variable {channel final : MemChannel} {buf : List UInt8} {ret : ErrorType}

theorem memTagNodes_layout {newWriteCur oprSeq fuel : Nat} :
    ∀ {index : Nat} {channel : MemChannel} {done : Bool},
      memTagNodes newWriteCur oprSeq fuel index channel = some (done, final) →
      final.layout = channel.layout := by
  induction fuel with
  | zero =>
      intro index channel done ran
      cases ran
  | succ fuel ih =>
      intro index channel done ran
      rw [memTagNodes] at ran
      split at ran
      · cases ran
        rfl
      · unfold memTagNode at ran
        dsimp only at ran
        split at ran
        · rename_i conflict
          split at conflict
          · cases ran
            rfl
          · cases conflict
        · rename_i tagged found
          split at found
          · cases found
          · cases found
            have kept := ih ran
            exact kept

theorem memWriteBlock_layout {writeCur newWriteCur oprSeq : Nat}
    (ran : memWriteBlock channel writeCur newWriteCur oprSeq buf = some (ret, final)) :
    final.layout = channel.layout := by
  unfold memWriteBlock at ran
  dsimp only at ran
  split at ran
  · cases ran
  · rename_i tagged tags
    have kept := memTagNodes_layout tags
    cases ran
    exact kept
  · rename_i tagged tags
    have kept := memTagNodes_layout tags
    cases ran
    exact kept

theorem memSendReal_layout (ran : memSendReal channel buf = some (ret, final)) :
    final.layout = channel.layout := by
  unfold memSendReal at ran
  split at ran
  · cases ran
    rfl
  · dsimp only at ran
    split at ran
    · cases ran
      rfl
    · split at ran
      · cases ran
        rfl
      · rename_i writeCur newWriteCur reserved found
        have kept : reserved.layout = channel.layout := by
          unfold memReserve at found
          dsimp only at found
          split at found
          · cases found
          · cases found
            rfl
        rw [memWriteBlock_layout ran, kept]

theorem memSendTry_layout {times : Nat} :
    ∀ {channel : MemChannel}, memSendTry times channel buf = some (ret, final) →
      final.layout = channel.layout := by
  induction times with
  | zero =>
      intro channel ran
      cases ran
      rfl
  | succ times ih =>
      intro channel ran
      rw [memSendTry] at ran
      split at ran
      · cases ran
      · rename_i conflict middle sent
        have kept := memSendReal_layout sent
        split at ran
        · rw [ih ran, kept]
        · cases ran
          exact kept

theorem memRecvScan_layout {clock len writeCur fuel : Nat} {result : RecvScan} :
    ∀ {scan : RecvScan}, memRecvScan clock len writeCur fuel scan = some result →
      result.channel.layout = scan.channel.layout := by
  induction fuel with
  | zero =>
      intro scan ran
      cases ran
  | succ fuel ih =>
      intro scan ran
      rw [memRecvScan] at ran
      dsimp only at ran
      split at ran
      · cases ran
        rfl
      · split at ran
        · have kept := ih ran
          exact kept
        · split at ran
          · split at ran
            · cases ran
              rfl
            · split at ran
              · have kept := ih ran
                exact kept
              · cases ran
                rfl
          · split at ran
            · have kept := ih ran
              exact kept
            · split at ran
              · cases ran
                rfl
              · split at ran
                · cases ran
                · split at ran
                  · have kept := ih ran
                    exact kept
                  · cases ran
                    rfl

theorem memRecv_layout {clock len : Nat} {got : RecvResult}
    (ran : memRecv clock channel len = some got) : got.channel.layout = channel.layout := by
  unfold memRecv at ran
  dsimp only at ran
  split at ran
  · cases ran
  · rename_i scan scanned
    split at ran
    · cases ran
    · cases ran
      rw [← memRecvScan_layout scanned]
      unfold memDeliver
      dsimp only
      split <;> rfl

/-- No sequence of calls changes what the header records about the layout. -/
theorem memCalls_layout {calls : List MemCall} :
    ∀ {channel : MemChannel} {replies : List MemReply},
      memCalls channel calls = some (replies, final) → final.layout = channel.layout := by
  induction calls with
  | nil =>
      intro channel replies ran
      cases ran
      rfl
  | cons call calls ih =>
      intro channel replies ran
      rw [memCalls] at ran
      cases called : memCall channel call with
      | none => simp [called] at ran
      | some answer =>
          obtain ⟨reply, middle⟩ := answer
          cases rest : memCalls middle calls with
          | none => simp [called, rest] at ran
          | some answer' =>
              obtain ⟨replies', last⟩ := answer'
              simp only [called, rest, Option.bind_eq_bind, Option.bind_some, Option.pure_def,
                Option.some.injEq, Prod.mk.injEq] at ran
              obtain ⟨-, rfl⟩ := ran
              rw [ih rest]
              cases call with
              | send buf =>
                  obtain ⟨sent, found, same⟩ := Option.map_eq_some_iff.mp called
                  cases same
                  exact memSendTry_layout found
              | recv clock len =>
                  obtain ⟨got, found, same⟩ := Option.map_eq_some_iff.mp called
                  cases same
                  exact memRecv_layout found

end

/-! ### What attach answers on an initialised channel -/

/-- The fields of the header that `mem_init` records and the attaching functions concern. -/
structure MemChannel.Recorded (channel : MemChannel) : Prop where
  nodeMagic : channel.nodeMagic = memChannelName
  nodeSize : channel.nodeSize = nodeDataSize
  areaEnd : channelMinSize ≤ channel.areaEndOffset

section

variable {channel final : MemChannel} {len : Nat}

/-- Every initialised channel records its layout, and the layout fits the buffer. -/
theorem memInit_recorded {conf : Option Nat} (init : memInit len conf = .ok channel) :
    channel.Recorded ∧ channel.areaEndOffset ≤ len ∧ channelMinSize ≤ len := by
  unfold memInit at init
  split at init
  · cases init
  · rename_i large
    have nodes : 0 < (len - channelHeadSize) / (nodeDataSize + nodeHeadSize) := by
      unfold channelMinSize channelHeadSize nodeDataSize nodeHeadSize at *
      omega
    have areaEnd : channelMinSize ≤
        channelHeadSize + (len - channelHeadSize) / (nodeDataSize + nodeHeadSize) * nodeHeadSize +
          (len - channelHeadSize) / (nodeDataSize + nodeHeadSize) * nodeDataSize := by
      unfold channelMinSize channelHeadSize nodeDataSize nodeHeadSize at *
      omega
    have fits : channelHeadSize + (len - channelHeadSize) / (nodeDataSize + nodeHeadSize) *
          nodeHeadSize + (len - channelHeadSize) / (nodeDataSize + nodeHeadSize) * nodeDataSize ≤
        len := by
      unfold channelMinSize channelHeadSize nodeDataSize nodeHeadSize at *
      omega
    cases conf with
    | none =>
        cases init
        exact ⟨⟨rfl, rfl, areaEnd⟩, fits, Nat.le_of_not_lt large⟩
    | some address =>
        cases init
        exact ⟨⟨rfl, rfl, areaEnd⟩, fits, Nat.le_of_not_lt large⟩

/-- What is recorded stays recorded. -/
theorem MemChannel.Recorded.of_layout (recorded : channel.Recorded)
    (same : final.layout = channel.layout) :
    final.Recorded ∧ final.areaEndOffset = channel.areaEndOffset := by
  have magic : final.layout.nodeMagic = channel.layout.nodeMagic := by rw [same]
  have size : final.layout.nodeSize = channel.layout.nodeSize := by rw [same]
  have areaEnd : final.layout.areaEndOffset = channel.layout.areaEndOffset := by rw [same]
  exact ⟨⟨magic.trans recorded.nodeMagic, size.trans recorded.nodeSize,
    recorded.areaEnd.trans areaEnd.ge⟩,
    areaEnd⟩

/-- The comparison with the magic text does not stop behind its eight characters: there is no
    terminator there, and the next byte is the low byte of the node size. -/
theorem strCaseCmp_magic (recorded : channel.Recorded) :
    strCaseCmp memChannelName channel.headerByte 0 = -128 := by
  have bytes : ∀ i < 9, channel.headerByte i =
      ([65, 84, 66, 85, 83, 77, 69, 77, 128] : List UInt8).getD i 0 := by
    intro i below
    unfold MemChannel.headerByte
    rw [recorded.nodeMagic, recorded.nodeSize]
    have cases : i = 0 ∨ i = 1 ∨ i = 2 ∨ i = 3 ∨ i = 4 ∨ i = 5 ∨ i = 6 ∨ i = 7 ∨ i = 8 := by omega
    rcases cases with rfl | rfl | rfl | rfl | rfl | rfl | rfl | rfl | rfl <;> rfl
  simp [strCaseCmp, memChannelName, bytes, toLower]

/-- Attaching to an initialised channel never succeeds. -/
theorem memAttach_recorded (recorded : channel.Recorded) :
    memAttach channel.headerByte len =
      if len < channelMinSize then .channelSizeTooSmall else .channelBufferInvalid := by
  unfold memAttach
  rw [strCaseCmp_magic recorded]
  rfl

/-- So the callers that attach first initialise the channel again whenever the buffer can hold
    one. -/
theorem memAttachElseInit_recorded (recorded : channel.Recorded) :
    memAttachElseInit channel len =
      match memInit len none with
      | .ok fresh => (.success, fresh)
      | .error res => (res, channel) := by
  unfold memAttachElseInit
  rw [memAttach_recorded recorded]
  split <;> rfl

end

/-! ### Attaching preserves a live channel exactly when the buffer is too small for one -/

/-- What the callers of attach rely on: it succeeds exactly when the recorded areas fit, and what
    they do after it leaves the channel as it is. -/
def AttachPreserves (channel : MemChannel) (len : Nat) : Prop :=
  (memAttach channel.headerByte len = .success ↔ channel.areaEndOffset ≤ len) ∧
    (memAttachElseInit channel len).2 = channel

/-- On every channel reached from an initialised one, attaching does what its callers rely on
    exactly when the length is too small for any channel, so that both attach and initialise refuse
    it. -/
theorem attach_preserves_iff {len len' : Nat} {conf : Option Nat} {fresh channel : MemChannel}
    {calls : List MemCall} {replies : List MemReply} (init : memInit len conf = .ok fresh)
    (ran : memCalls fresh calls = some (replies, channel)) :
    AttachPreserves channel len' ↔ len' < channelMinSize := by
  obtain ⟨recordedFresh, _, _⟩ := memInit_recorded init
  obtain ⟨recorded, _⟩ := recordedFresh.of_layout (memCalls_layout ran)
  have areaEnd := recorded.areaEnd
  constructor
  · rintro ⟨answer, kept⟩
    by_contra large
    rw [memAttach_recorded recorded, if_neg large] at answer
    have beyond : ¬channel.areaEndOffset ≤ len' := fun fits => nomatch answer.mpr fits
    rw [memAttachElseInit_recorded recorded] at kept
    cases again : memInit len' none with
    | ok other =>
        obtain ⟨_, fits, _⟩ := memInit_recorded again
        rw [again] at kept
        rw [show other = channel from kept] at fits
        exact beyond fits
    | error res =>
        unfold memInit at again
        rw [if_neg large] at again
        cases again
  · intro tooSmall
    constructor
    · rw [memAttach_recorded recorded, if_pos tooSmall]
      constructor
      · intro impossible
        cases impossible
      · intro fits
        omega
    · rw [memAttachElseInit_recorded recorded, memInit, if_pos tooSmall]

/-- A buffer of a hundred bytes is refused, and the channel with a message in it is as it was. -/
theorem attach_preserves_small_buffer :
    ∃ fresh channel, memInit 4368 none = .ok fresh ∧
      memCalls fresh [.send [7]] = some ([.send .success], channel) ∧
      AttachPreserves channel 100 := by
  have sent : ((memInit 4368 none).toOption.bind fun fresh =>
      (memCalls fresh [.send [7]]).map Prod.fst) = some [.send .success] := by decide +kernel
  have tooSmall : 100 < channelMinSize := by decide
  cases init : memInit 4368 none with
  | error res =>
      rw [init] at sent
      cases sent
  | ok fresh =>
      rw [init] at sent
      obtain ⟨⟨replies, channel⟩, ran, rfl⟩ := Option.map_eq_some_iff.mp sent
      exact ⟨fresh, channel, rfl, ran, (attach_preserves_iff init ran).mpr tooSmall⟩

/-- A message is sent, a second party connects with the buffer's own length, and the message is
    gone. -/
theorem attach_reinitialises_live_channel :
    ∃ fresh channel, memInit 4368 none = .ok fresh ∧
      memCalls fresh [.send [7]] = some ([.send .success], channel) ∧
      ¬AttachPreserves channel 4368 ∧
      (memCalls (memAttachElseInit channel 4368).2 [.recv 0 8]).map Prod.fst =
        some [.recv .noData none []] := by
  have sent : ((memInit 4368 none).toOption.bind fun fresh =>
      (memCalls fresh [.send [7]]).map Prod.fst) = some [.send .success] := by decide +kernel
  have lost : ((memInit 4368 none).toOption.bind fun fresh =>
      (memCalls fresh [.recv 0 8]).map Prod.fst) = some [.recv .noData none []] := by decide +kernel
  cases init : memInit 4368 none with
  | error res =>
      rw [init] at sent
      cases sent
  | ok fresh =>
      rw [init] at sent lost
      obtain ⟨⟨replies, channel⟩, ran, same⟩ := Option.map_eq_some_iff.mp sent
      obtain ⟨recordedFresh, fits, _⟩ := memInit_recorded init
      obtain ⟨recorded, areaEnd⟩ := recordedFresh.of_layout (memCalls_layout ran)
      refine ⟨fresh, channel, rfl, ?_, ?_, ?_⟩
      · rw [ran, ← show replies = _ from same]
      · rintro ⟨answer, _⟩
        have attached := answer.mpr (areaEnd.trans_le fits)
        rw [memAttach_recorded recorded] at attached
        cases attached
      · rw [memAttachElseInit_recorded recorded, init]
        exact lost

end LibAtbus.Channel
