/-
Module: LibAtbus.Node.Binding
Layer: Node
Purpose: Endpoints and the connections bound to them, from `src/atbus_endpoint.cpp` and
  `src/atbus_connection.cpp`: adding and removing a connection, the reset of either side, which
  calls the other side and is cut by the RESETTING flags, and the callbacks of the stream channel
  that reset a connection. An assertion that fails is a fault. The calls a reset makes are bounded
  by a depth; a reset that is not done by then is a fault too. A destructor makes the call of
  `reset` alone, and is no call of its own here.
Trusted boundary: human-reviewed spec
Main exports: Connection, EndpointConns, Bindings, Bindings.addConnection,
  Bindings.removeConnection, Bindings.resetConnection, Bindings.resetEndpoint, BindingCall,
  Bindings.call
-/
import LibAtbus.Detail.ErrorType
import Mathlib.Logic.Function.Basic

namespace LibAtbus.Node

universe u v

/-- `connection::state_t`. -/
inductive ConnState where
  | disconnected
  | connecting
  | handshaking
  | connected
  | disconnecting
deriving DecidableEq, Repr

/-- `connection`: `state_`, `binding_` and the flag RESETTING. -/
structure Connection (ε : Type u) where
  state : ConnState := .disconnected
  binding : Option ε := none
  resetting : Bool := false
deriving DecidableEq, Repr

/-- `endpoint`: `ctrl_conn_`, `data_conn_` and the flag RESETTING. -/
structure EndpointConns (κ : Type v) where
  ctrl : Option κ := none
  data : List κ := []
  resetting : Bool := false
deriving DecidableEq, Repr

/-- The endpoints and connections of a node. -/
structure Bindings (ε : Type u) (κ : Type v) where
  conns : κ → Connection ε
  endpoints : ε → EndpointConns κ

/-- What ends a call early: the assertion of `endpoint::remove_connection`, the one at the end of
    `connection::reset`, or calls that are nested too deep. -/
inductive BindingFault where
  | notBound
  | stillBound
  | tooDeep
deriving DecidableEq, Repr

namespace Bindings

variable {ε : Type u} {κ : Type v} [DecidableEq ε] [DecidableEq κ]

/-- Changes one connection. -/
def setConn (w : Bindings ε κ) (c : κ) (change : Connection ε → Connection ε) : Bindings ε κ :=
  { w with conns := Function.update w.conns c (change (w.conns c)) }

/-- Changes one endpoint. -/
def setEndpoint (w : Bindings ε κ) (e : ε) (change : EndpointConns κ → EndpointConns κ) :
    Bindings ε κ :=
  { w with endpoints := Function.update w.endpoints e (change (w.endpoints e)) }

/-- `endpoint::add_connection`. -/
def addConnection (w : Bindings ε κ) (e : ε) (conn : Option κ) (forceData : Bool) :
    Bool × Bindings ε κ :=
  match conn with
  | none => (false, w)
  | some c =>
      if (w.endpoints e).resetting then (false, w)
      else if (w.conns c).binding = some e then (true, w)
      else if (w.conns c).binding.isSome then (false, w)
      else
        let added :=
          if forceData || (w.endpoints e).ctrl.isSome then
            w.setEndpoint e fun endpoint => { endpoint with data := endpoint.data ++ [c] }
          else w.setEndpoint e fun endpoint => { endpoint with ctrl := some c }
        -- a connection that is there already needs no handshake
        (true, added.setConn c fun conn =>
          { conn with
            binding := some e
            state := if conn.state = .handshaking then .connected else conn.state })

/-- `connection::disconnect`, as far as the bindings go. -/
def disconnect (w : Bindings ε κ) (c : κ) : ErrorType × Bindings ε κ :=
  if (w.conns c).state = .disconnected then (.notInited, w)
  else if (w.conns c).state = .disconnecting then (.success, w)
  else (.success, w.setConn c fun conn => { conn with state := .disconnected })

/-- The control connection goes first in `endpoint::reset`: it only loses its binding. -/
def releaseCtrl (w : Bindings ε κ) (e : ε) : Bindings ε κ :=
  match (w.endpoints e).ctrl with
  | none => w
  | some c =>
      (w.setConn c fun conn => { conn with binding := none }).setEndpoint e fun endpoint =>
        { endpoint with ctrl := none }

/-- A data connection loses its binding and leaves the list of its endpoint. -/
def eraseData (w : Bindings ε κ) (e : ε) (c : κ) : Bindings ε κ :=
  (w.setConn c fun conn => { conn with binding := none }).setEndpoint e fun endpoint =>
    { endpoint with data := endpoint.data.erase c }

mutual

/-- `connection::reset`. -/
def resetConnection : Nat → Bindings ε κ → κ → Except BindingFault (Bindings ε κ)
  | 0, _, _ => .error .tooDeep
  | depth + 1, w, c =>
      if (w.conns c).resetting then .ok w
      else
        let closing := ((w.setConn c fun conn => { conn with resetting := true }).disconnect c).2
        match (closing.conns c).binding with
        | none => .ok (closing.setConn c fun conn => { conn with resetting := false })
        | some e =>
            match removeConnection depth closing e (some c) with
            | .error fault => .error fault
            | .ok removed =>
                if (removed.2.conns c).binding.isSome then .error .stillBound
                else .ok (removed.2.setConn c fun conn => { conn with resetting := false })

/-- `endpoint::remove_connection`. -/
def removeConnection : Nat → Bindings ε κ → ε → Option κ → Except BindingFault (Bool × Bindings ε κ)
  | 0, _, _, _ => .error .tooDeep
  | _ + 1, w, _, none => .ok (false, w)
  | depth + 1, w, e, some c =>
      if (w.conns c).binding ≠ some e then .error .notBound
      else if (w.endpoints e).resetting then
        -- the reset of the endpoint clears its lists itself
        .ok (true, w.setConn c fun conn => { conn with binding := none })
      else if (w.endpoints e).ctrl = some c then (resetEndpoint depth w e).map fun after =>
        (true, after)
      else if c ∈ (w.endpoints e).data then
        -- without data connections the endpoint goes offline
        if ((w.eraseData e c).endpoints e).data.isEmpty then
          (resetEndpoint depth (w.eraseData e c) e).map fun after => (true, after)
        else .ok (true, w.eraseData e c)
      else .ok (false, w)

/-- `endpoint::reset`. -/
def resetEndpoint : Nat → Bindings ε κ → ε → Except BindingFault (Bindings ε κ)
  | 0, _, _ => .error .tooDeep
  | depth + 1, w, e =>
      if (w.endpoints e).resetting then .ok w
      else
        let started :=
  (w.setEndpoint e fun endpoint => { endpoint with resetting := true }).releaseCtrl e
        -- nothing is added to or erased from the list while the flag is set
        ((started.endpoints e).data.foldlM (fun w c => resetConnection depth w c) started).map
          fun after => after.setEndpoint e fun endpoint => { endpoint with
          data := [], resetting := false }

end

end Bindings

/-- A call on an endpoint or a connection, or a callback of the stream channel for a connection; a
    connection that came to be registers, which may fail. -/
inductive BindingCall (ε : Type u) (κ : Type v) where
  | addConnection (e : ε) (conn : Option κ) (forceData : Bool)
  | removeConnection (e : ε) (conn : Option κ)
  | resetEndpoint (e : ε)
  | resetConnection (c : κ)
  | disconnect (c : κ)
  | onConnected (c : κ) (failed : Bool) (regFailed : Bool)
  | onDisconnected (c : κ)
deriving DecidableEq, Repr

/-- How deep the calls of a reset may be nested. -/
def nesting : Nat := 5

/-- What a call leaves. -/
def Bindings.call {ε : Type u} {κ : Type v} [DecidableEq ε] [DecidableEq κ] (w : Bindings ε κ) :
    BindingCall ε κ → Except BindingFault (Bindings ε κ)
  | .addConnection e conn forceData => .ok (w.addConnection e conn forceData).2
  | .removeConnection e conn => (w.removeConnection nesting e conn).map Prod.snd
  | .resetEndpoint e => w.resetEndpoint nesting e
  | .resetConnection c => w.resetConnection nesting c
  | .disconnect c => .ok (w.disconnect c).2
  | .onConnected c failed regFailed =>
      if failed then w.resetConnection nesting c
      else
        let connected := w.setConn c fun conn =>
          { conn with state := if conn.binding.isSome then .connected else .handshaking }
        if regFailed then connected.resetConnection nesting c else .ok connected
  | .onDisconnected c => w.resetConnection nesting c

/-- One call that ends without a fault. -/
def bindingStep {ε : Type u} {κ : Type v} [DecidableEq ε] [DecidableEq κ] (w : Bindings ε κ)
    (call : BindingCall ε κ) (after : Bindings ε κ) : Prop :=
  w.call call = .ok after

/-- Nothing is bound and nothing is being reset. -/
structure Bindings.Initial {ε : Type u} {κ : Type v} (w : Bindings ε κ) : Prop where
  conns : ∀ c, (w.conns c).binding = none ∧ (w.conns c).resetting = false
  endpoints : ∀ e, w.endpoints e = {}

end LibAtbus.Node
