/-
Module: LibAtbus.Channel.MemWriters
Layer: Channel
Purpose: Any number of writers and one reader on a memory channel. A writer runs through
  `mem_send_real` in steps (fetch a sequence number, reserve nodes, start the first node, tag the
  others one by one, store, mark as written) and other writers and `mem_recv` run between any two of
  them. One history variable keeps the clock reading at which the reader first met the unfinished
  block it stands at.
Trusted boundary: human-reviewed spec
Main exports: BlockWriter, WritersState, WritersLabel, writersStep
-/
import LibAtbus.Channel.MemChannel

namespace LibAtbus.Channel

/-- Where a writer stands in `mem_send_real`, with the locals it still needs. -/
inductive BlockWriter where
  | idle
  | fetched (buf : List UInt8) (oprSeq : Nat)
  | reserved (buf : List UInt8) (oprSeq writeCur newWriteCur : Nat)
  | tagging (buf : List UInt8) (oprSeq writeCur newWriteCur index : Nat)
  | stored (oprSeq writeCur newWriteCur : Nat)
deriving DecidableEq, Repr

/-- The nodes of a writer's block, from its reservation until it is marked as written: the first
    node and the node behind the last. -/
def BlockWriter.claimed : BlockWriter → Option (Nat × Nat)
  | .idle => none
  | .fetched _ _ => none
  | .reserved _ _ writeCur newWriteCur => some (writeCur, newWriteCur)
  | .tagging _ _ writeCur newWriteCur _ => some (writeCur, newWriteCur)
  | .stored _ writeCur newWriteCur => some (writeCur, newWriteCur)

/-- The channel, its writers, and when the reader met the block it waits for. -/
structure WritersState where
  channel : MemChannel
  writers : Nat → BlockWriter
  metClock : Option Nat

/-- The steps of the writers and of the reader. -/
inductive WritersLabel where
  | fetch (writer : Nat) (buf : List UInt8)
  | reserve (writer : Nat)
  | start (writer : Nat)
  | tag (writer : Nat)
  | store (writer : Nat)
  | finish (writer : Nat)
  | recv (clock len : Nat)
deriving DecidableEq, Repr

/-- The node at the read cursor belongs to a block that was started and is not written. -/
def readerWaits (channel : MemChannel) : Bool :=
  let head := channel.nodeHeads channel.atomicReadCur
  channel.atomicReadCur != channel.atomicWriteCur && checkFlag head.flag .startNode &&
    !checkFlag head.flag .writen

/-- The state with another channel and one writer at another place. -/
def WritersState.move (state : WritersState) (channel : MemChannel) (writer : Nat)
    (place : BlockWriter) : WritersState :=
  { state with
    channel := channel
    writers := Function.update state.writers writer place }

/-- One step, where its label is possible. -/
def writersStep (state : WritersState) : WritersLabel → Option WritersState
  | .fetch writer buf =>
      match state.writers writer with
      | .idle =>
          -- a buffer lies in the address space beside the channel
          if buf.length = 0 ∨ 2 ^ 64 < buf.length + channelMinSize then none
          else if memExceedsChannel state.channel.nodeCount state.channel.conf.protectNodeCount
              (memCalcNodeNum state.channel buf.length) then some state
          else
            let fetched := memFetchOperationSeq state.channel
            some (state.move fetched.2 writer (.fetched buf fetched.1))
      | _ => none
  | .reserve writer =>
      match state.writers writer with
      | .fetched buf oprSeq =>
          match memReserve state.channel (memCalcNodeNum state.channel buf.length) with
          | none => some (state.move state.channel writer .idle)
          | some (writeCur, newWriteCur, channel) =>
              some (state.move channel writer (.reserved buf oprSeq writeCur newWriteCur))
      | _ => none
  | .start writer =>
      match state.writers writer with
      | .reserved buf oprSeq writeCur newWriteCur =>
          some (state.move (memStartBlock state.channel writeCur oprSeq) writer
            (.tagging buf oprSeq writeCur newWriteCur (memNextIndex state.channel writeCur 1)))
      | _ => none
  | .tag writer =>
      match state.writers writer with
      | .tagging buf oprSeq writeCur newWriteCur index =>
          if index = newWriteCur then none
          else match memTagNode state.channel index oprSeq with
            | none => some (state.move state.channel writer .idle)
            | some channel => some (state.move channel writer
                (.tagging buf oprSeq writeCur newWriteCur (memNextIndex state.channel index 1)))
      | _ => none
  | .store writer =>
      match state.writers writer with
      | .tagging buf oprSeq writeCur newWriteCur index =>
          if index = newWriteCur then
            some (state.move (memStoreBlock state.channel writeCur newWriteCur buf) writer
              (.stored oprSeq writeCur newWriteCur))
          else none
      | _ => none
  | .finish writer =>
      match state.writers writer with
      | .stored oprSeq writeCur _ =>
          some (state.move (memFinishBlock state.channel writeCur oprSeq).2 writer .idle)
      | _ => none
  | .recv clock len =>
      (memRecv clock state.channel len).map fun got =>
        { state with
          channel := got.channel
          metClock :=
            if got.channel.atomicReadCur ≠ state.channel.atomicReadCur then none
            else if readerWaits state.channel && state.metClock.isNone then some clock
            else state.metClock }

end LibAtbus.Channel
