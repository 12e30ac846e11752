/-
Module: LibAtbus.Node.DataConnection
Layer: Node
Purpose: Which connection an endpoint sends data over: `endpoint::get_data_connection` and
  `endpoint::get_ctrl_connection` of `src/atbus_endpoint.cpp`, with the flags they go by, and
  `node::connect` of `src/atbus_node.cpp`, which binds a new connection to an endpoint. `list::sort`
  is stable, as an insertion sort is. What becomes of a connection that is set up and not bound is
  left out.
Trusted boundary: human-reviewed spec
Main exports: LinkTraits, EndpointTraits, DataLinks, sortConnectionCmpFn, DataLinks.addConnection,
  DataLinks.connect, DataLinks.getCtrlConnection, DataLinks.getDataConnection
-/
import LibAtbus.Node.ConnectionSetup
import Mathlib.Data.List.Sort

namespace LibAtbus.Node

open Channel

universe u v

/-- What a `connection` is known for: its address and the flags ACCESS_SHARE_ADDR and
    ACCESS_SHARE_HOST. -/
structure LinkTraits where
  address : ChannelAddress := {}
  accessShareAddr : Bool := false
  accessShareHost : Bool := false
deriving DecidableEq, Repr

/-- What an `endpoint` is known for, and its flag CONNECTION_SORTED. -/
structure EndpointTraits where
  hostname : List Char
  pid : Int
  sorted : Bool := false
deriving DecidableEq, Repr

/-- The endpoints and connections of a node, with what they are bound to and the states of the
    connections. -/
structure DataLinks (ε : Type u) (κ : Type v) where
  bindings : Bindings ε κ
  conns : κ → LinkTraits
  endpoints : ε → EndpointTraits

/-- The channel of a connection, by its address. -/
def LinkTraits.transport (conn : LinkTraits) : Transport :=
  if schemeBegins "mem" conn.address.scheme then .mem
  else if schemeBegins "shm" conn.address.scheme then .shm
  else .ios

def BusConnection.traits (conn : BusConnection) : LinkTraits where
  address := conn.address
  accessShareAddr := conn.accessShareAddr
  accessShareHost := conn.accessShareHost

/-- `endpoint::sort_connection_cmp_fn`. -/
def sortConnectionCmpFn (left right : LinkTraits) : Bool :=
  if left.accessShareAddr ≠ right.accessShareAddr then left.accessShareAddr
  else if left.accessShareHost ≠ right.accessShareHost then left.accessShareHost
  else false

namespace DataLinks

variable {ε : Type u} {κ : Type v} [DecidableEq ε] [DecidableEq κ] (w : DataLinks ε κ)

/-! ### Binding -/

/-- `endpoint::add_connection`, with the flag CONNECTION_SORTED, which it takes away when the list
    grows. -/
def addConnection (e : ε) (c : κ) (forceData : Bool) : Bool × DataLinks ε κ :=
  let added := w.bindings.addConnection e (some c) forceData
  let pushed := (w.bindings.endpoints e).resetting = false ∧ (w.bindings.conns c).binding = none ∧
    (forceData || (w.bindings.endpoints e).ctrl.isSome) = true
  (added.1,
    { w with
      bindings := added.2
      endpoints :=
        if pushed then Function.update w.endpoints e { w.endpoints e with sorted := false }
          else w.endpoints })

/-- `node::connect(addr_str, ep)`, for a connection that it has just created. -/
def connect (e : ε) (c : κ) (text : List Char) (env : SetupEnv) :
    Except AddressError ErrorType × DataLinks ε κ :=
  let made := ConnectionNode.fresh.connectConn 0 text env
  match made.res with
  | .error thrown => (.error thrown, w)
  | .ok res =>
      if res.failed then (.ok res, w)
      else
        let conn := made.node.conns 0
        let connected : DataLinks ε κ :=
          { w with
            bindings := w.bindings.setConn c fun old => { old with state := conn.state }
            conns := Function.update w.conns c conn.traits }
        let added :=
          connected.addConnection e c (schemeBegins "mem:" text || schemeBegins "shm:" text)
        (.ok (if added.1 then .success else .badData), added.2)

/-! ### Choosing -/

/-- `endpoint::get_ctrl_connection`. -/
def getCtrlConnection (self : ε) (ep : Option ε) : Option κ :=
  match ep with
  | none => none
  | some ep =>
      if self = ep then none
      else (w.bindings.endpoints ep).ctrl.filter fun c => (w.bindings.conns c).state = .connected

/-- The sort of the data connections, which `endpoint::get_data_connection` makes when the flag is
    not set. -/
def sortConnections (ep : ε) : DataLinks ε κ :=
  if (w.endpoints ep).sorted then w
  else
    { w with
      bindings := w.bindings.setEndpoint ep fun endpoint =>
        { endpoint with
          data := endpoint.data.insertionSort fun c d =>
            sortConnectionCmpFn (w.conns d) (w.conns c) = false }
      endpoints := Function.update w.endpoints ep { w.endpoints ep with sorted := true } }

/-- The loop of `endpoint::get_data_connection`. -/
def firstDataConnection (sharePid shareHost : Bool) : List κ → Option κ
  | [] => none
  | c :: rest =>
      if (w.bindings.conns c).state ≠ .connected then firstDataConnection sharePid shareHost rest
      else if sharePid && (w.conns c).accessShareAddr then some c
      else if shareHost && (w.conns c).accessShareHost then some c
      else if !(w.conns c).accessShareHost then some c
      else firstDataConnection sharePid shareHost rest

/-- `endpoint::get_data_connection`. -/
def getDataConnection (self : ε) (ep : Option ε) : Option κ × DataLinks ε κ :=
  match ep with
  | none => (none, w)
  | some ep =>
      if self = ep then (none, w)
      else
        let shareHost : Bool := (w.endpoints ep).hostname = (w.endpoints self).hostname
        let sharePid : Bool := shareHost && (w.endpoints ep).pid = (w.endpoints self).pid
        let sorted := w.sortConnections ep
        match sorted.firstDataConnection sharePid shareHost (sorted.bindings.endpoints ep).data with
        | some c => (some c, sorted)
        | none => (sorted.getCtrlConnection self (some ep), sorted)

end DataLinks

end LibAtbus.Node
