/-
Module: LibAtbus.Node.Timers
Layer: Node
Purpose: The timers of a node and the health of its endpoints, from `src/atbus_node.cpp`,
  `src/atbus_endpoint.cpp` and `src/atbus_msg_handler.cpp`: the list of connections that are not
  connected yet, the list of endpoints to ping, the faults that are counted for an endpoint, and
  `node::proc`, which works on all of them. The tables, the bindings and the list of endpoints to
  check are those of the node of objects. When the operation on the parent is due, what connecting
  to it and the channels give, and which endpoints the user still refers to, is given; the callbacks
  of the user are left out. Setting the clock is an event of its own: what `node::proc` polls before
  the rest of it are events in between.
Trusted boundary: human-reviewed spec
Main exports: EndpointStat, TimerConf, TimedNode, TimedNode.addConnectionTimer,
  TimedNode.addPingTimer, TimedNode.addEndpointFault, TimedNode.pingEndpoint, TimedNode.onRecv,
  TimedNode.procTime, TimedNode.procConnecting, TimedNode.release, TimedNode.procFather,
  TimedNode.procPings, TimedNode.proc, TimedEvent, timedStep
-/
import LibAtbus.Foundation.DelayQueue
import LibAtbus.Foundation.Transitions
import LibAtbus.Node.Objects

namespace LibAtbus.Node

open DelayQueue

universe u v

variable {ε : Type u} {κ : Type v} {view : ε → Endpoint}

/-- `endpoint::stat_t`. -/
structure EndpointStat where
  faultCount : BitVec 64 := 0#64
  unfinishedPing : BitVec 32 := 0#32
  pingDelay : BitVec 64 := 0#64
  lastPongTime : Nat := 0
deriving DecidableEq, Repr

/-- What the timers read of `conf_t`. -/
structure TimerConf where
  firstIdleTimeout : Nat
  pingInterval : Nat
  faultTolerant : Nat
deriving DecidableEq, Repr

/-- `node`, with its endpoints as objects: their statistics, which of them are destroyed, the time,
    the last sequence that was allocated, and the timers. -/
structure TimedNode (view : ε → Endpoint) (κ : Type v) where
  objects : NodeObjects view κ
  stat : ε → EndpointStat
  expired : ε → Bool
  conf : TimerConf
  sec : Nat
  usec : Nat
  msgSeq : BitVec 32
  pingList : List (Nat × ε)
  connectingList : List (Nat × κ)

/-- What the calls in `node::proc` meet: whether the operation on the parent is due, the connection
    that connecting to it creates unless it fails, what sending a ping over a connection returns,
    and the endpoints that are referred to from outside the node, such as through
    `endpoint::watch`. -/
structure ProcEnv (ε : Type u) (κ : Type v) where
  fatherDue : Bool
  created : Option κ
  sendPing : κ → BitVec 32 → ErrorType
  held : ε → Bool

/-- A ping that was asked for, and what was sent for it. -/
structure Ping (ε : Type u) (κ : Type v) where
  endpoint : ε
  sent : Option (κ × BitVec 32)
deriving DecidableEq, Repr

/-- Why a connection left the list of those that are not connected yet. -/
inductive Verdict where
  | connected
  | timedOut
deriving DecidableEq, Repr

namespace TimedNode

/-- `connection::is_connected`. -/
def isConnected (n : TimedNode view κ) (c : κ) : Bool :=
  (n.objects.conns.conns c).state = .connected

/-- `node::add_connection_timer`. -/
def addConnectionTimer (n : TimedNode view κ) (c : κ) : TimedNode view κ :=
  if n.isConnected c then n
  else { n with connectingList := n.connectingList ++ [(n.sec + n.conf.firstIdleTimeout, c)] }

/-- `node::add_ping_timer`. -/
def addPingTimer (n : TimedNode view κ) (e : ε) : TimedNode view κ :=
  if n.conf.pingInterval = 0 then n
  else { n with pingList := n.pingList ++ [(n.sec + n.conf.pingInterval, e)] }

/-- `node::add_endpoint`, with the timer of the endpoint. -/
def addEndpoint (n : TimedNode view κ) (e : ε) : ErrorType × TimedNode view κ :=
  let added := n.objects.addEndpoint e
  let timed := { n with objects := added.2 }
  (added.1, if added.1 = .success then timed.addPingTimer e else timed)

/-- `endpoint::get_ctrl_connection`. -/
def ctrlConnection (n : TimedNode view κ) (e : ε) : Option κ :=
  (n.objects.conns.endpoints e).ctrl.filter n.isConnected

/-- The time that pings and pongs are stamped with. -/
def timePoint (n : TimedNode view κ) : BitVec 64 :=
  BitVec.ofNat 64 (n.sec / 1000 * 1000 + n.usec / 1000 % 1000)

variable [DecidableEq ε]

def setStat (n : TimedNode view κ) (e : ε) (change : EndpointStat → EndpointStat) :
    TimedNode view κ :=
  { n with stat := Function.update n.stat e (change (n.stat e)) }

/-- `node::add_endpoint_fault`: an endpoint with too many faults is removed, by its id. -/
def addEndpointFault (n : TimedNode view κ) (e : ε) : Bool × TimedNode view κ :=
  let faultCount := (n.stat e).faultCount + 1#64
  let counted := n.setStat e fun stat => { stat with faultCount := faultCount }
  if n.conf.faultTolerant < faultCount.toNat then
    (true, { counted with objects := (counted.objects.removeEndpoint (view e).id).2.2 })
  else (false, counted)

/-- How `node::ping_endpoint` begins: that the last ping was not answered is a fault. -/
def checkPing (n : TimedNode view κ) (e : ε) : Bool × TimedNode view κ :=
  if (n.stat e).unfinishedPing ≠ 0#32 then n.addEndpointFault e else (false, n)

/-- The rest of `node::ping_endpoint`, which skips an endpoint without a control connection. -/
def pingConnection (n : TimedNode view κ) (sendPing : κ → BitVec 32 → ErrorType) (e : ε) :
    ErrorType × Option (κ × BitVec 32) × TimedNode view κ :=
  match n.ctrlConnection e with
  | none => (.success, none, n)
  | some c =>
      let pingSeq := n.msgSeq + 1#32
      let allocated := { n with msgSeq := pingSeq }
      let res := sendPing c pingSeq
      if res.failed then (res, none, (allocated.addEndpointFault e).2)
      else (.success, some (c, pingSeq), allocated.setStat e fun stat => { stat with
        unfinishedPing := pingSeq })

/-- `node::ping_endpoint`. -/
def pingEndpoint (n : TimedNode view κ) (sendPing : κ → BitVec 32 → ErrorType) (e : ε) :
    ErrorType × Option (κ × BitVec 32) × TimedNode view κ :=
  if (n.checkPing e).1 then (.atnodeFaultTolerant, none, (n.checkPing e).2)
  else (n.checkPing e).2.pingConnection sendPing e

/-! ### Receiving -/

/-- A fault of the endpoint of a connection. -/
def bindingFault (n : TimedNode view κ) (c : κ) : TimedNode view κ :=
  match (n.objects.conns.conns c).binding with
  | none => n
  | some e => (n.addEndpointFault e).2

/-- `on_recv_node_pong`, which takes only the answer to the last ping. -/
def onRecvNodePong (n : TimedNode view κ) (c : κ) (m : Msg) : Int × TimedNode view κ :=
  match m.body.ping with
  | none => (ErrorType.badData.code, n)
  | some ping =>
      match (n.objects.conns.conns c).binding.filter fun e =>
        m.head.sequence = (n.stat e).unfinishedPing with
      | none => (0, n)
      | some e =>
          (0, n.setStat e fun stat =>
            { stat with
              unfinishedPing := 0#32
              pingDelay := n.timePoint - ping.timePoint
              lastPongTime := n.sec })

/-- The dispatch of a message, as far as the statistics go, with the `ret` of its head afterwards:
    what dispatching another message than a pong returns and leaves in the head is given, and what
    it does to the tables are events before this one. -/
def dispatchStat (n : TimedNode view κ) (c : κ) (m : Msg) (res ret : Int) :
    Int × Int × TimedNode view κ :=
  if m.head.cmd = .nodePong then ((n.onRecvNodePong c m).1, m.head.ret, (n.onRecvNodePong c m).2)
  else (res, ret, n)

/-- A good message clears the faults of the endpoint of its connection. -/
def clearFault (n : TimedNode view κ) (c : κ) : TimedNode view κ :=
  match (n.objects.conns.conns c).binding with
  | none => n
  | some e => n.setStat e fun stat => { stat with faultCount := 0#64 }

/-- `node::on_recv`: `failed` when the status or the error code is negative. -/
def onRecv (n : TimedNode view κ) (c : κ) (failed : Bool) (m : Option Msg) (res ret : Int) :
    TimedNode view κ :=
  if failed then n.bindingFault c
  else
    match m with
    | none => n.bindingFault c
    | some m =>
        let (dispatched, headRet, after) := n.dispatchStat c m res ret
        if dispatched < 0 then after.bindingFault c
        else if headRet < 0 then after.bindingFault c
        else after.clearFault c

/-! ### Time passes -/

/-- How `node::proc` begins: the clock does not go back. -/
def procTime (n : TimedNode view κ) (sec usec : Nat) : TimedNode view κ :=
  if n.sec < sec then { n with sec := sec, usec := usec }
  else if sec = n.sec ∧ n.usec < usec then { n with usec := usec }
  else n

variable [DecidableEq κ]

/-- `connection::reset`, with the endpoints it takes down. -/
def resetConnection (n : TimedNode view κ) (c : κ) : Except BindingFault (TimedNode view κ) :=
  (n.objects.handle (.call (.resetConnection c))).map fun objects => { n with objects := objects }

/-- The part of `node::proc` on the connections that are not connected yet, from the front of their
    list: one that is late is reset. -/
def procConnecting (sec : Nat) : TimedNode view κ → List (Nat × κ) →
    Except BindingFault (List ((Nat × κ) × Verdict) × TimedNode view κ)
  | n, [] => .ok ([], { n with connectingList := [] })
  | n, (time, c) :: rest =>
      if n.isConnected c then do
        let (verdicts, after) ← procConnecting sec n rest
        return (((time, c), .connected) :: verdicts, after)
      else if time < sec then do
        let reset ← n.resetConnection c
        let (verdicts, after) ← procConnecting sec reset rest
        return (((time, c), .timedOut) :: verdicts, after)
      else .ok ([], { n with connectingList := (time, c) :: rest })

/-- The objects after an event on them alone. -/
def onObjects (n : TimedNode view κ) (event : ObjectEvent ε κ) :
    Except BindingFault (TimedNode view κ) :=
  (n.objects.handle event).map fun objects => { n with objects := objects }

/-- `endpoint::~endpoint`: the weak references of the list of pings lose it. -/
def destroy (n : TimedNode view κ) (e : ε) : Except BindingFault (TimedNode view κ) :=
  (n.onObjects (.destroy e)).map fun destroyed =>
    { destroyed with expired := Function.update n.expired e true }

/-- An endpoint that exists while nothing refers to it: no table, not the list of those to check,
    and nothing outside the node. -/
def Unreferenced (n : TimedNode view κ) (held : ε → Bool) (e : ε) : Prop :=
  ¬n.objects.Registered e ∧ e ∉ n.objects.checkList ∧ held e = false ∧ n.expired e = false

instance (n : TimedNode view κ) (held : ε → Bool) (e : ε) : Decidable (n.Unreferenced held e) :=
  inferInstanceAs (Decidable (¬(_ = _ ∨ _ ∈ _ ∨ _ ∈ _) ∧ _ ∉ _ ∧ _ = _ ∧ _ = _))

/-- Those endpoints are destroyed that nothing refers to any more. -/
def release (held : ε → Bool) : TimedNode view κ → List ε → Except BindingFault (TimedNode view κ)
  | n, [] => .ok n
  | n, e :: rest =>
      if n.Unreferenced held e then do
        let destroyed ← n.destroy e
        release held destroyed rest
      else release held n rest

/-- `node::ping_endpoint` in `node::proc`: an endpoint that the ping takes out of a table is
    destroyed at once, unless something else refers to it. -/
def procPing (n : TimedNode view κ) (env : ProcEnv ε κ) (e : ε) :
    Except BindingFault (Ping ε κ × TimedNode view κ) := do
  let (_, sent, pinged) := n.pingEndpoint env.sendPing e
  let released ← pinged.release env.held
    (n.objects.father.toList ++ n.objects.brother.objects ++ n.objects.children.objects)
  return (⟨e, sent⟩, released)

/-- What the part of `node::proc` about the parent did: its pings, and the connections it
    created. -/
structure FatherDone (view : ε → Endpoint) (κ : Type v) where
  node : TimedNode view κ
  pings : List (Ping ε κ) := []
  created : List κ := []

/-- The part of `node::proc` about the parent: it is pinged, or connected to over a new
    connection. -/
def procFather (n : TimedNode view κ) (env : ProcEnv ε κ) :
    Except BindingFault (FatherDone view κ) :=
  if env.fatherDue then
    match n.objects.father.filter fun father => (n.ctrlConnection father).isSome with
    | none =>
        match env.created with
        | none => .ok { node := n }
        | some c => .ok { node := n.addConnectionTimer c, created := [c] }
    | some father => do
        let (ping, pinged) ← n.procPing env father
        return { node := pinged, pings := [ping] }
  else .ok { node := n }

/-- The ping of an endpoint whose time has come, unless it was destroyed. -/
def firePing (env : ProcEnv ε κ) (done : Except BindingFault (List (Ping ε κ) × TimedNode view κ))
    (e : ε) : Option (Except BindingFault (List (Ping ε κ) × TimedNode view κ)) :=
  match done with
  | .error _ => none
  | .ok (pings, n) =>
      if n.expired e then none
      else
        some do
          let (ping, pinged) ← n.procPing env e
          return (pings ++ [ping], pinged)

/-- The part of `node::proc` on the list of pings. -/
def procPings (n : TimedNode view κ) (env : ProcEnv ε κ) (sec : Nat) :
    Except BindingFault (List (Ping ε κ) × TimedNode view κ) := do
  let (done, pingList) :=
    fireDue (firePing env) sec (sec + n.conf.pingInterval) (n.pingList.length + 1)
      (.ok ([], n)) n.pingList
  let (pings, pinged) ← done
  return (pings, { pinged with pingList := pingList })

/-- What `node::proc` did: the connections that left their list, those it created, the pings, and
    the endpoints that the check of the list took out of a table. -/
structure ProcDone (view : ε → Endpoint) (κ : Type v) where
  node : TimedNode view κ
  verdicts : List ((Nat × κ) × Verdict)
  created : List κ
  pings : List (Ping ε κ)
  removed : List (Removal ε)

/-- `node::proc`, after the clock was set and the connections were polled. -/
def proc (n : TimedNode view κ) (env : ProcEnv ε κ) (sec : Nat) :
    Except BindingFault (ProcDone view κ) := do
  let (verdicts, connected) ← n.procConnecting sec n.connectingList
  let father ← connected.procFather env
  let (pings, pinged) ← father.node.procPings env sec
  let (removed, objects) ← pinged.objects.procCheckList
  return {
    node := { pinged with objects := objects }
    verdicts := verdicts
    created := father.created
    pings := father.pings ++ pings
    removed := removed }

end TimedNode

/-! ### Events -/

/-- What happens to a node: calls on endpoints and connections, a connection is created, an endpoint
    is added, removed by its id, disconnected, put on the list or, when nothing refers to it any
    more, destroyed, a message or an error is received over a connection, a sequence is allocated
    for another message, the node is reset, and `proc`, which sets the clock, polls, and does the
    rest. -/
inductive TimedEvent (ε : Type u) (κ : Type v) where
  | call (call : BindingCall ε κ)
  | createConnection (c : κ)
  | addEndpoint (e : ε)
  | removeEndpoint (tid : BusId)
  | disconnect (id : BusId)
  | addCheckList (e : ε)
  | destroy (e : ε)
  | recv (c : κ) (failed : Bool) (m : Option Msg) (res ret : Int)
  | allocSeq
  | reset
  | clock (sec usec : Nat)
  | proc (env : ProcEnv ε κ) (sec : Nat)

namespace TimedNode

variable [DecidableEq ε] [DecidableEq κ]

/-- `node::reset`, where the endpoints are reset by calls of their own: the connections that are not
    connected yet are disconnected, and all lists are cleared. -/
def reset (n : TimedNode view κ) : Except BindingFault (TimedNode view κ) := do
  let cleared ← n.onObjects .clear
  return { cleared with
    objects :=
      { cleared.objects with
        conns :=
          n.connectingList.foldl (fun conns entry => (conns.disconnect entry.2).2)
            cleared.objects.conns }
    pingList := []
    connectingList := [] }

/-- The node after an event. -/
def handle (n : TimedNode view κ) : TimedEvent ε κ → Except BindingFault (TimedNode view κ)
  | .call call => n.onObjects (.call call)
  | .createConnection c => .ok (n.addConnectionTimer c)
  | .addEndpoint e => .ok (n.addEndpoint e).2
  | .removeEndpoint tid => n.onObjects (.removeEndpoint tid)
  | .disconnect id => n.onObjects (.disconnect id)
  | .addCheckList e => n.onObjects (.addCheckList e)
  | .destroy e => n.destroy e
  | .recv c failed m res ret => .ok (n.onRecv c failed m res ret)
  | .allocSeq => .ok { n with msgSeq := n.msgSeq + 1#32 }
  | .reset => n.reset
  | .clock sec usec => .ok (n.procTime sec usec)
  | .proc env sec => (n.proc env sec).map ProcDone.node

/-- An endpoint is added while it exists, and destroyed when no table and no list refers to it. A
    connection that is created is not connected. The rest of `proc` comes after the clock was
    set. -/
def Allows (n : TimedNode view κ) : TimedEvent ε κ → Prop
  | .addEndpoint e => n.expired e = false
  | .destroy e => ¬n.objects.Registered e ∧ e ∉ n.objects.checkList
  | .createConnection c => n.isConnected c = false
  | .proc env sec => sec ≤ n.sec ∧ ∀ c ∈ env.created, n.isConnected c = false
  | _ => True

end TimedNode

/-- One event. -/
def timedStep [DecidableEq ε] [DecidableEq κ] (n : TimedNode view κ) (event : TimedEvent ε κ)
    (after : TimedNode view κ) : Prop :=
  n.Allows event ∧ n.handle event = .ok after

/-- A node that was created: nothing is bound, registered, counted or waited for. -/
structure TimedNode.Initial (n : TimedNode view κ) : Prop where
  objects : n.objects.father = none ∧ n.objects.brother = .empty ∧ n.objects.children = .empty
  conns : n.objects.conns.Initial
  checkList : n.objects.checkList = []
  pingList : n.pingList = []
  connectingList : n.connectingList = []

end LibAtbus.Node
