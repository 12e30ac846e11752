/-
Module: LibAtbus.Channel.MemReserve
Layer: Channel
Purpose: The cursor loop of `mem_send_real` as a step relation. The first load of
  `atomic_write_cur`, every load of `atomic_read_cur` and every compare-exchange of
  `atomic_write_cur` are steps of their own, taken by any number of writers in any order, and the
  reader consumes whole blocks and stores `atomic_read_cur`. Two history variables record what has
  been handed out: the blocks not yet consumed and the number of nodes ever reserved. No step looks
  at the latter.
Trusted boundary: human-reviewed spec
Main exports: ReserveState, ReserveLabel, reserveStep
-/
import LibAtbus.Channel.MemChannel

namespace LibAtbus.Channel

/-- Where a writer stands in the cursor loop, with its locals `node_count`, `write_cur` and
    `read_cur`. `seen` is a history variable: the nodes reserved when `write_cur` was loaded. -/
inductive ReserveWriter where
  | idle
  | loadedWrite (blockNodes writeCur seen : Nat)
  | loadedRead (blockNodes writeCur readCur seen : Nat)
deriving DecidableEq, Repr

/-- The channel, its writers and the history variables. -/
structure ReserveState where
  channel : MemChannel
  writers : Nat → ReserveWriter
  blocks : List Nat
  reserved : Nat

/-- The steps. `loadWrite` begins a send of `len` bytes; a compare-exchange may fail spuriously, as
    the weak form of the source is allowed to. -/
inductive ReserveLabel where
  | loadWrite (writer len : Nat)
  | loadRead (writer : Nat)
  | compareExchange (writer : Nat) (spurious : Bool)
  | consume (count : Nat)
deriving DecidableEq, Repr

/-- The state with one writer at another place. -/
def ReserveState.setWriter (state : ReserveState) (writer : Nat) (place : ReserveWriter) :
    ReserveState :=
  { state with writers := Function.update state.writers writer place }

/-- One step, where its label is possible. -/
def reserveStep (state : ReserveState) : ReserveLabel → Option ReserveState
  | .loadWrite writer len =>
      match state.writers writer with
      | .idle =>
          let blockNodes := memCalcNodeNum state.channel len
          if len = 0 then none
          else if memExceedsChannel state.channel.nodeCount state.channel.conf.protectNodeCount
              blockNodes then some state
          else some (state.setWriter writer
            (.loadedWrite blockNodes state.channel.atomicWriteCur state.reserved))
      | _ => none
  | .loadRead writer =>
      match state.writers writer with
      | .loadedWrite blockNodes writeCur seen =>
          let readCur := state.channel.atomicReadCur
          if blockNodes > memAvailableNode state.channel.nodeCount
              state.channel.conf.protectNodeCount readCur writeCur then
            some (state.setWriter writer .idle)
          else some (state.setWriter writer (.loadedRead blockNodes writeCur readCur seen))
      | _ => none
  | .compareExchange writer spurious =>
      match state.writers writer with
      | .loadedRead blockNodes writeCur _ _ =>
          if state.channel.atomicWriteCur = writeCur ∧ !spurious then
            let newWriteCur := (writeCur + blockNodes) % state.channel.nodeCount
            some { (state.setWriter writer .idle) with
              channel := { state.channel with atomicWriteCur := newWriteCur }
              blocks := state.blocks ++ [blockNodes]
              reserved := state.reserved + blockNodes }
          else some (state.setWriter writer
            (.loadedWrite blockNodes state.channel.atomicWriteCur state.reserved))
      | _ => none
  | .consume count =>
      if count ≤ state.blocks.length then
        some { state with
          channel := { state.channel with
            atomicReadCur := memNextIndex state.channel state.channel.atomicReadCur
              (state.blocks.take count).sum }
          blocks := state.blocks.drop count }
      else none

/-- Where the runs start: an empty ring anywhere, no writer in the loop. -/
structure ReserveState.Initial (state : ReserveState) : Prop where
  nodeCount_pos : 0 < state.channel.nodeCount
  nodeCount_le : state.channel.nodeCount ≤ 2 ^ 63
  readCur_lt : state.channel.atomicReadCur < state.channel.nodeCount
  writeCur : state.channel.atomicWriteCur = state.channel.atomicReadCur
  blocks : state.blocks = []
  idle : ∀ writer, state.writers writer = .idle

/-- One writer on its own runs through the loop as `memReserve` says. -/
theorem reserveStep_serial {state : ReserveState} {writer len : Nat}
    (idle : state.writers writer = .idle) (nonempty : len ≠ 0)
    (small : memExceedsChannel state.channel.nodeCount state.channel.conf.protectNodeCount
      (memCalcNodeNum state.channel len) = false) :
    (do
      let state ← reserveStep state (.loadWrite writer len)
      let state ← reserveStep state (.loadRead writer)
      if state.writers writer = .idle then none
      else return (← reserveStep state (.compareExchange writer false)).channel) =
    (memReserve state.channel (memCalcNodeNum state.channel len)).map fun reserved =>
      reserved.2.2 := by
  simp only [reserveStep, idle, small, ReserveState.setWriter, memReserve]
  rw [if_neg nonempty]
  by_cases full : memCalcNodeNum state.channel len > memAvailableNode state.channel.nodeCount
      state.channel.conf.protectNodeCount state.channel.atomicReadCur state.channel.atomicWriteCur
  · simp [full]
  · simp [full]

end LibAtbus.Channel
