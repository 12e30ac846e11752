/-
Module: LibAtbus.Node.Lifecycle
Layer: Node
Purpose: The state of a node and its parent, from `src/atbus_node.cpp`: `start`, the reconnection to
  the parent and the check of endpoints in `proc`, `reset`, the change of the state when the parent
  is added or removed, and the callbacks of connections and registration. What a call of a channel
  returns is an argument. The callbacks of the stream channel that a call makes (when connections
  are closed) are events of their own.
Trusted boundary: human-reviewed spec
Main exports: NodeStatus, NodeState, NodeState.onActived, NodeState.addEndpoint,
  NodeState.removeEndpoint, NodeState.disconnect, NodeState.onDisconnect, NodeState.start,
  NodeState.reset, NodeState.procFather, NodeState.procCheckList
-/
import LibAtbus.Node.Registry

namespace LibAtbus.Node

/-- `node::state_t`. -/
inductive NodeStatus where
  | created
  | inited
  | lostParent
  | connectingParent
  | running
  | closing
deriving DecidableEq, Repr

/-- `node`, with its tables: the state, the flags EN_FT_PARENT_REG_DONE, EN_FT_ACTIVED and
    EN_FT_SHUTDOWN, the times and addresses the parent is connected by, the endpoints to check, and
    whether `on_debug` is set. -/
structure NodeState where
  tables : BusNode
  status : NodeStatus
  parentRegDone : Bool
  actived : Bool
  shutdown : Bool
  sec : Nat
  fatherOprTimePoint : Nat
  fatherAddress : String
  firstIdleTimeout : Nat
  retryInterval : Nat
  pingInterval : Nat
  checkList : List Endpoint
  onDebug : Bool

namespace NodeState

/-- `node::add_check_list`. -/
def addCheckList (n : NodeState) (ep : Endpoint) : NodeState :=
  { n with checkList := n.checkList ++ [ep] }

/-- `node::on_actived`. -/
def onActived (n : NodeState) : NodeState :=
  { n with
    status := .running
    actived := true }

/-- `node::on_parent_reg_done`. -/
def onParentRegDone (n : NodeState) : NodeState := { n with parentRegDone := true }

/-- The node has no parent, or is connecting to it. -/
def awaitsParent (n : NodeState) : Bool := n.status = .lostParent || n.status = .connectingParent

/-- `node::add_endpoint`: a node that registered with its parent before is up when the parent is
    added. -/
def addEndpoint (n : NodeState) (ep : Endpoint) : ErrorType × NodeState :=
  let added := { n with tables := (n.tables.addEndpoint ep).2 }
  ((n.tables.addEndpoint ep).1,
    if n.tables.isParentShaped ep && n.tables.father.isNone then
      if n.awaitsParent && n.parentRegDone then added.onActived else added
    else added)

/-- `node::remove_endpoint`. -/
def removeEndpoint (n : NodeState) (tid : BusId) : ErrorType × NodeState :=
  let removed := { n with tables := (n.tables.removeEndpoint tid).2 }
  ((n.tables.removeEndpoint tid).1,
    if n.tables.isParentNode tid then
      { removed with
        status := .lostParent
        fatherOprTimePoint := n.sec + n.retryInterval }
    else removed)

/-- `node::disconnect`. Of a child only the connections are dropped: the entry that is removed is
    looked for among the siblings. -/
def disconnect (n : NodeState) (id : BusId) : ErrorType × NodeState :=
  if n.tables.father.any fun father => father.id = id then
    (.success, { n with tables := { n.tables with father := none } })
  else if (n.tables.brother.findChild id).any fun ep => ep.id = id then
    (.success,
      { n with tables := { n.tables with brother := (n.tables.brother.removeChild id).2 } })
  else if (n.tables.children.findChild id).any fun ep => ep.id = id then
    (.success,
      { n with tables := { n.tables with brother := (n.tables.brother.removeChild id).2 } })
  else (.atnodeNotFound, n)

/-- `node::on_disconnect`, for a connection with an address. -/
def onDisconnect (n : NodeState) (address : String) : NodeState :=
  if n.status = .connectingParent ∧ n.fatherAddress ≠ "" ∧ n.fatherAddress = address then
    { n with
      status := .lostParent
      fatherOprTimePoint := n.sec + n.retryInterval }
  else n

/-- `node::start`, at a time; `connected` is what connecting to the parent returns. -/
def start (n : NodeState) (now : Nat) (connected : ErrorType) : NodeState :=
  let timed := { n with sec := now }
  if n.fatherAddress ≠ "" then
    match n.tables.father with
    | some _ => timed
    | none =>
        if connected.failed then
          { timed with
            fatherOprTimePoint := now + n.retryInterval
            status := .lostParent }
        else
          { timed with
            fatherOprTimePoint := now + n.firstIdleTimeout
            status := .connectingParent }
  else timed.onActived

/-- `node::reset`, which drops the tables and clears the flags. -/
def reset (n : NodeState) : NodeState :=
  let orphan :=
    match n.tables.father with
    | some father => (n.removeEndpoint father.id).2
    | none => n
  { orphan with
    tables :=
      { orphan.tables with
        self := { orphan.tables.self with globalRouter := false }
        brother := .empty
        children := .empty }
    checkList := []
    status := .created
    parentRegDone := false
    actived := false
    shutdown := false }

/-- The time of `node::proc`. -/
def procTime (n : NodeState) (sec : Nat) : NodeState := { n with sec := max n.sec sec }

/-- The part of `node::proc` about the parent. `ctrl` tells whether the parent has a control
    connection, `connected` what connecting to it returns, and `faulty` whether the ping finds too
    many faults. -/
def procFather (n : NodeState) (sec : Nat) (ctrl : Bool) (connected : ErrorType) (faulty : Bool) :
    NodeState :=
  if n.fatherAddress ≠ "" ∧ n.fatherOprTimePoint ≠ 0 ∧ n.fatherOprTimePoint < sec then
    match n.tables.father.filter fun _ => ctrl with
    | none =>
        if connected.failed then { n with fatherOprTimePoint := sec + n.retryInterval }
        else
          { n with
            fatherOprTimePoint := sec + n.firstIdleTimeout
            status := .connectingParent }
    | some father =>
        let pinged := if faulty then (n.removeEndpoint father.id).2 else n
        { pinged with fatherOprTimePoint := sec + n.pingInterval }
  else n

/-- The part of `node::proc` that removes the endpoints of the list that have lost their
    connections. -/
def procCheckList (n : NodeState) (available : Endpoint → Bool) : NodeState :=
  { n.checkList.foldl (fun n ep => if available ep then n else (n.removeEndpoint ep.id).2) n with
    checkList := [] }

end NodeState

end LibAtbus.Node
