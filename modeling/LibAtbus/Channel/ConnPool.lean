/-
Module: LibAtbus.Channel.ConnPool
Layer: Channel
Purpose: The connections of an `io_stream_channel` and the map that keeps them, keyed by file
  descriptor. `uv_close` frees the descriptor at once and runs the close callback later, so a
  descriptor can be given out again while the entry of its last connection is still in the map.
Trusted boundary: human-reviewed spec; libuv runs each close callback once, after the call that
  closed
Main exports: Connection, ConnPoolState, ConnPoolLabel, connPoolStep, closeEvents
-/
import Mathlib.Logic.Function.Basic

namespace LibAtbus.Channel

/-- `io_stream_connection::status_t`. -/
inductive ConnStatus where
  | created
  | connecting
  | connected
  | disconnecting
  | disconnected
deriving DecidableEq, Repr

/-- The part of `io_stream_connection` that opening and closing work on; of the callback of an
    active disconnect only whether it is set. -/
structure Connection where
  fd : Nat
  status : ConnStatus
  actDiscCbk : Bool
deriving DecidableEq, Repr

/-- The channel's `conn_pool`, the connection objects made so far, the handles whose close callback
    is still to run, and the descriptors the system has given out. -/
structure ConnPoolState where
  connPool : Nat → Option Nat
  conns : Nat → Option Connection
  closing : List Nat
  fdOpen : Nat → Bool

/-- A channel without connections. -/
def ConnPoolState.init : ConnPoolState :=
  { connPool := fun _ => none, conns := fun _ => none, closing := [], fdOpen := fun _ => false }

/-- The callbacks a close fires, with the connection they are fired for. -/
inductive ConnEvent where
  | disconnected (conn : Nat)
  | actDisconnected (conn : Nat)
deriving DecidableEq, Repr

/-- An accept or connect that completes, a call of `io_stream_disconnect`, a close callback. -/
inductive ConnPoolLabel where
  | makeConnection (conn fd : Nat)
  | disconnect (conn : Nat) (callback : Bool)
  | connectionOnClose (conn : Nat)
deriving DecidableEq, Repr

/-- `io_stream_make_connection` on a handle with the given descriptor, followed by the assignment of
    `EN_ST_CONNECTED` that all its callers make. -/
def makeConnection (state : ConnPoolState) (conn fd : Nat) : ConnPoolState :=
  { state with
    connPool := Function.update state.connPool fd (some conn)
    conns := Function.update state.conns conn (some ⟨fd, .connected, false⟩)
    fdOpen := Function.update state.fdOpen fd true }

/-- `io_stream_disconnect`. The handle is closed only when the connection is still connected. -/
def disconnect (state : ConnPoolState) (conn : Nat) (connection : Connection) (callback : Bool) :
    ConnPoolState :=
  if connection.status = .connected then
    { state with
      conns := Function.update state.conns conn
        (some { connection with status := .disconnecting, actDiscCbk := callback })
      closing := state.closing ++ [conn]
      fdOpen := Function.update state.fdOpen connection.fd false }
  else
    { state with
      conns := Function.update state.conns conn (some { connection with actDiscCbk := callback }) }

/-- The callbacks `io_stream_connection_on_close` fires: for the connection it finds under the
    closed connection's descriptor, and then for the closed connection itself. -/
def closeEvents (state : ConnPoolState) (conn : Nat) (connection : Connection) : List ConnEvent :=
  match state.connPool connection.fd with
  | none => []
  | some found =>
      .disconnected found :: (if connection.actDiscCbk then [.actDisconnected conn] else [])

/-- `io_stream_connection_on_close`: mark what is found under the descriptor and erase the entry. -/
def connectionOnClose (state : ConnPoolState) (connection : Connection) : ConnPoolState :=
  match state.connPool connection.fd with
  | none => state
  | some found =>
      { state with
        connPool := Function.update state.connPool connection.fd none
        conns := Function.update state.conns found
          ((state.conns found).map fun other => { other with status := .disconnected }) }

/-- One step, where its label is possible: a new object gets a descriptor that is not open, only a
    connection the pool keeps can be disconnected, and a close callback runs for a closed handle. -/
def connPoolStep (state : ConnPoolState) : ConnPoolLabel → Option ConnPoolState
  | .makeConnection conn fd =>
      if state.conns conn = none ∧ state.fdOpen fd = false then some (makeConnection state conn fd)
      else none
  | .disconnect conn callback =>
      match state.conns conn with
      | some connection =>
          if state.connPool connection.fd = some conn then
            some (disconnect state conn connection callback)
          else none
      | none => none
  | .connectionOnClose conn =>
      match state.conns conn with
      | some connection =>
          if conn ∈ state.closing then
            some { connectionOnClose state connection with closing := state.closing.erase conn }
          else none
      | none => none

end LibAtbus.Channel
