/-
Module: LibAtbus.Node.ConnectionSetup
Layer: Node
Purpose: How the connections of a node are set up and closed, from `src/atbus_connection.cpp`:
  `connection::listen`, `connection::connect`, `connection::disconnect` and `connection::reset`,
  with the tables of the node that they work on, which are those of `src/atbus_node.cpp`. The
  connections have an owner, as `connection::create` gives them one. What the functions of the
  channels return is given, but for the stream channel, which has its own model.
Trusted boundary: human-reviewed spec
Main exports: ConnFns, BusConnection, ConnectionNode, ShareOutcome, SetupEnv, SetupDone,
  addProcConnection, removeProcConnection, listenConn, connectConn, disconnectConn, resetConn,
  setupConn, ListeningNode, ConnectionCall, connectionStep
-/
import LibAtbus.Channel.StreamSetup
import LibAtbus.Node.Binding
import Mathlib.Data.Finset.Lattice.Fold
import Mathlib.Order.Lattice.Nat

namespace LibAtbus.Node

open Channel

/-- The channels there are, in the order of their speed. -/
inductive Transport where
  | mem
  | shm
  | ios
deriving DecidableEq, Repr

/-- The functions in `conn_data_`, which are those of one kind of channel; `none` is NULL. -/
structure ConnFns where
  proc : Option Transport := none
  free : Option Transport := none
  push : Option Transport := none
deriving DecidableEq, Repr

/-- `connection`: its state, address, functions and flags, and whether `binding_` is set. -/
structure BusConnection where
  state : ConnState := .disconnected
  address : ChannelAddress := {}
  fns : ConnFns := {}
  regProc : Bool := false
  regFd : Bool := false
  accessShareAddr : Bool := false
  accessShareHost : Bool := false
  bound : Bool := false
deriving DecidableEq, Repr

/-- The connections of a node, with its tables: the connections that are polled, by their address,
    and the objects that `node::reset` waits for. -/
structure ConnectionNode where
  conns : Nat → BusConnection
  procConnections : List Char → Option Nat
  refObjs : Finset Nat

/-- What attaching and initialising a memory channel return. Neither of them knows about
    connections. -/
structure ShareOutcome where
  attach : ErrorType := .success
  init : ErrorType := .success
  attach_ne : attach ≠ .alreadyInited := by decide
  init_ne : init ≠ .alreadyInited := by decide

/-- What the functions of the channels meet in one call. -/
structure SetupEnv where
  share : ShareOutcome := {}
  channel : StreamChannel := {}
  uv : UvOutcome := {}

/-- Everything succeeds. -/
instance : Inhabited SetupEnv := ⟨{}⟩

/-- What a call to set up a connection returns, or throws, and the node it leaves. -/
structure SetupDone where
  res : Except AddressError ErrorType
  node : ConnectionNode

namespace ConnectionNode

/-- A node that has set up no connection yet. -/
def fresh : ConnectionNode :=
  { conns := fun _ => {}, procConnections := fun _ => none, refObjs := ∅ }

variable (n : ConnectionNode)

def setConn (i : Nat) (change : BusConnection → BusConnection) : ConnectionNode :=
  { n with conns := Function.update n.conns i (change (n.conns i)) }

/-- `node::add_proc_connection`, which refuses an address that is taken. -/
def addProcConnection (i : Nat) : Bool × ConnectionNode :=
  let key := (n.conns i).address.address
  if key = [] ∨ (n.procConnections key).isSome = true then (false, n)
  else (true, { n with procConnections := Function.update n.procConnections key (some i) })

/-- `node::remove_proc_connection`. -/
def removeProcConnection (key : List Char) : Bool × ConnectionNode :=
  if n.procConnections key = none then (false, n)
  else (true, { n with procConnections := Function.update n.procConnections key none })

/-- An address that `new` gives out, at which no object is. -/
def newObject : Nat := n.refObjs.sup id + 1

/-! ### Listening -/

/-- A memory channel is attached to, and initialised when that fails. -/
def openShare (share : ShareOutcome) : ErrorType :=
  if share.attach.failed then share.init else share.attach

/-- The branches of `connection::listen` for memory channels, which differ in the flag for the
    address space. What adding the connection to the table returns is not looked at. -/
def listenShare (i : Nat) (transport : Transport) (env : SetupEnv) : SetupDone :=
  let res := openShare env.share
  if res.failed then ⟨.ok res, n⟩
  else
    let opened :=
      n.setConn i fun conn => { conn with
        fns := { conn.fns with proc := transport, free := transport } }
    let added := (opened.addProcConnection i).2
    ⟨.ok res, added.setConn i fun conn =>
      { conn with
        regProc := true
        accessShareAddr := conn.accessShareAddr || transport == .mem
        accessShareHost := true
        state := .connected }⟩

/-- `connection::iostream_on_listen_cb`, with the `connection_async_data` it deletes. -/
def onListened (i : Nat) (object : Nat) (report : StreamReport) : ConnectionNode :=
  let told := n.setConn i fun conn =>
    if report.errcode.failed then { conn with state := .disconnected }
    else { conn with
      regFd := true, state := .connected, fns := { conn.fns with free := some .ios } }
  { told with refObjs := told.refObjs.erase object }

/-- The last branch of `connection::listen`: the stream channel, which may call back before it
    returns. -/
def listenStream (i : Nat) (addr : ChannelAddress) (env : SetupEnv) : SetupDone :=
  let object := n.newObject
  let waiting := { n with refObjs := insert object n.refObjs }.setConn i fun conn => { conn with
      state := .connecting }
  let setup := ioStreamListen (some env.channel) addr env.uv
  let after := setup.reports.foldl (fun after report => after.onListened i object report) waiting
  if setup.res.failed then ⟨.ok setup.res, { after with refObjs := after.refObjs.erase object }⟩
  else ⟨.ok .success, after⟩

/-! ### Connecting -/

/-- The branches of `connection::connect` for memory channels. A connection that has no endpoint is
    to be bound. -/
def connectShare (i : Nat) (transport : Transport) (env : SetupEnv) : SetupDone :=
  let res := openShare env.share
  if res.failed then ⟨.ok res, n⟩
  else
    ⟨.ok res, n.setConn i fun conn =>
      { conn with
        fns := { proc := transport, free := transport, push := transport }
        regProc := true
        state := if conn.bound then .connected else .handshaking }⟩

/-- The last branch of `connection::connect`. The stream channel calls back later. -/
def connectStream (i : Nat) (addr : ChannelAddress) (env : SetupEnv) : SetupDone :=
  let object := n.newObject
  let waiting := { n with refObjs := insert object n.refObjs }.setConn i fun conn => { conn with
      state := .connecting }
  let setup := ioStreamConnect (some env.channel) addr env.uv
  if setup.res.failed then ⟨.ok setup.res, { waiting with refObjs := waiting.refObjs.erase object }⟩
  else ⟨.ok .success, waiting⟩

/-! ### Both -/

/-- How `connection::listen` and `connection::connect` begin: the connection must not be in use, and
    the address is parsed into it. An exception leaves them before they have done anything else. -/
def parseAddress (i : Nat) (text : List Char)
    (next : ConnectionNode → ChannelAddress → SetupDone) : SetupDone :=
  if (n.conns i).state ≠ .disconnected then ⟨.ok .alreadyInited, n⟩
  else
    match makeAddress text (n.conns i).address with
    | .error thrown =>
        ⟨.error thrown, n.setConn i fun conn => { conn with
          address := { conn.address with address := text } }⟩
    | .ok (false, addr) => ⟨.ok .channelAddrInvalid, n.setConn i fun conn => { conn with
        address := addr }⟩
    | .ok (true, addr) => next (n.setConn i fun conn => { conn with address := addr }) addr

/-- `connection::listen`. -/
def listenConn (i : Nat) (text : List Char) (env : SetupEnv) : SetupDone :=
  n.parseAddress i text fun n addr =>
    if schemeBegins "mem" addr.scheme then n.listenShare i .mem env
    else if schemeBegins "shm" addr.scheme then n.listenShare i .shm env
    else n.listenStream i addr env

/-- `connection::connect`. -/
def connectConn (i : Nat) (text : List Char) (env : SetupEnv) : SetupDone :=
  n.parseAddress i text fun n addr =>
    if schemeBegins "mem" addr.scheme then n.connectShare i .mem env
    else if schemeBegins "shm" addr.scheme then n.connectShare i .shm env
    else n.connectStream i addr env

/-! ### Closing -/

/-- `connection::disconnect`. The table is keyed by the address, whoever is registered under it. -/
def disconnectConn (i : Nat) : ErrorType × ConnectionNode :=
  match (n.conns i).state with
  | .disconnected => (.notInited, n)
  | .disconnecting => (.success, n)
  | _ =>
      let removed :=
        if (n.conns i).regProc then (n.removeProcConnection (n.conns i).address.address).2 else n
      (.success, removed.setConn i fun conn =>
        { conn with regProc := false, fns := {}, state := .disconnected })

/-- `connection::reset`, for one connection: what it does to others, when it takes their endpoint
    down, are resets of these. -/
def resetConn (i : Nat) : ConnectionNode :=
  (n.disconnectConn i).2.setConn i fun conn =>
    { conn with
      bound := false
      regProc := false
      regFd := false
      accessShareAddr := false
      accessShareHost := false }

/-- What `endpoint::add_connection` does to a connection that has no endpoint yet. -/
def bindConn (i : Nat) : ConnectionNode :=
  n.setConn i fun conn =>
    if conn.bound then conn
    else { conn with
      bound := true, state := if conn.state = .handshaking then .connected else conn.state }

end ConnectionNode

/-- The two ways to set a connection up. -/
def setupConn : StreamOp → ConnectionNode → Nat → List Char → SetupEnv → SetupDone
  | .listen => ConnectionNode.listenConn
  | .connect => ConnectionNode.connectConn

/-! ### Calls one after the other -/

/-- A node with those of its connections that have listened with success and have been neither
    disconnected nor reset since. -/
structure ListeningNode where
  node : ConnectionNode
  listening : Nat → Bool

/-- The calls on a connection of a node. -/
inductive ConnectionCall where
  | setup (op : StreamOp) (i : Nat) (text : List Char) (env : SetupEnv)
  | disconnect (i : Nat)
  | reset (i : Nat)
  | bind (i : Nat)

/-- The address is none of the stream channel. -/
def MemoryAddress (text : List Char) : Prop :=
  ∀ addr, makeAddress text {} = .ok (true, addr) →
    schemeBegins "mem" addr.scheme = true ∨ schemeBegins "shm" addr.scheme = true

namespace ListeningNode

/-- Whether a call to set a connection up was a listen that succeeded. -/
def listened (op : StreamOp) (done : SetupDone) : Bool :=
  match op, done.res with
  | .listen, .ok .success => true
  | _, _ => false

def run (s : ListeningNode) : ConnectionCall → ListeningNode
  | .setup op i text env =>
      let done := setupConn op s.node i text env
      { node := done.node
        listening := if listened op done then Function.update s.listening i true else s.listening }
  | .disconnect i => ⟨(s.node.disconnectConn i).2, Function.update s.listening i false⟩
  | .reset i => ⟨s.node.resetConn i, Function.update s.listening i false⟩
  | .bind i => { s with node := s.node.bindConn i }

end ListeningNode

/-- A call, which is for a memory channel when it sets a connection up. -/
def connectionStep (s : ListeningNode) (call : ConnectionCall) (after : ListeningNode) : Prop :=
  (∀ op i text env, call = .setup op i text env → MemoryAddress text) ∧ after = s.run call

end LibAtbus.Node
