/-
Module: LibAtbus.Node.Routing
Layer: Node
Purpose: `node::send_msg` of `src/atbus_node.cpp`: the choice of the endpoint a message goes to from
  the parent and the two collections of a node, and the sending. A link says what becomes of a
  message for an endpoint: nothing when the endpoint has no usable connection, else the code that
  packing and pushing the message returns; a message is transmitted when that code is not an error.
Trusted boundary: human-reviewed spec
Main exports: BusNode, BusNode.target, Link, SendResult, sendMsg, sendMsg_of_accepts, sendMsg_sent
-/
import LibAtbus.Detail.ErrorType
import LibAtbus.Node.Endpoint

namespace LibAtbus.Node

/-- `node`, as routing sees it: its own endpoint, the parent and the collections of siblings and
    children, and from its configuration the ttl and the message size. -/
structure BusNode where
  self : Endpoint
  father : Option Endpoint
  brother : EndpointCollection
  children : EndpointCollection
  ttl : Int
  msgSize : Nat

namespace BusNode

/-- `get_id`. -/
abbrev id (node : BusNode) : BusId := node.self.id

/-- `node::is_parent_node`. -/
def isParentNode (node : BusNode) (id : BusId) : Bool :=
  match node.father with
  | some father => Node.isParentNode id father.id
  | none => false

/-- `node::is_brother_node`. -/
def isBrotherNode (node : BusNode) (id : BusId) : Bool :=
  match node.father with
  | some father => node.self.isBrotherNode id father.childrenMask
  | none => node.self.isBrotherNode id 0

/-- `node::is_child_node`. -/
def isChildNode (node : BusNode) (id : BusId) : Bool := node.self.isChildNode id

/-- All endpoints of the tables. -/
def endpoints (node : BusNode) : List Endpoint :=
  node.father.toList ++ node.brother.endpoints ++ node.children.endpoints

/-- The parent, for what the node has no route to itself; a node with the full table does not ask
    it. -/
def upward (node : BusNode) : Option Endpoint :=
  if node.self.globalRouter then none else node.father

/-- The endpoint `send_msg` picks for an id that is not the node's own. -/
def target (node : BusNode) (tid : BusId) : Except ErrorType Endpoint :=
  match node.father.filter fun _ => node.isParentNode tid with
  | some father => .ok father
  | none =>
      if node.isBrotherNode tid then
        -- a sibling, or a node below one
        match (node.brother.findChild tid).filter fun target => target.isChildNode tid with
        | some target => .ok target
        | none =>
            match node.upward with
            | some father => .ok father
            | none => .error .atnodeInvalidId
      else if node.isChildNode tid then
        match (node.children.findChild tid).filter fun target => target.isChildNode tid with
        | some target => .ok target
        | none => .error .atnodeInvalidId
      else
        match node.upward with
        | some father => .ok father
        | none => .error .atnodeNoConnection

/-- `node::get_endpoint`. -/
def getEndpoint (node : BusNode) (tid : BusId) : Option Endpoint :=
  if node.isParentNode tid then node.father
  else if node.isBrotherNode tid then (node.brother.findChild tid).filter fun res => res.id == tid
  else if node.isChildNode tid then (node.children.findChild tid).filter fun res => res.id == tid
  else none

end BusNode

/-- `get_data_connection` or `get_ctrl_connection` of a node, with what the connection it finds does
    with a message. -/
abbrev Link := Endpoint → Option (Msg → ErrorType)

/-- What `send_msg` does: its return code, the message as it leaves it, the endpoint it hands out,
    what it transmitted to whom, and what it passed to the node's own `on_recv`, without a
    connection. -/
structure SendResult where
  res : ErrorType
  msg : Msg
  epOut : Option Endpoint := none
  sent : Option (Endpoint × Msg) := none
  toSelf : Option Msg := none

/-- The marks `send_msg` puts on a message before it is packed. -/
def Msg.stamp (m : Msg) (id : BusId) : Msg :=
  { head := { m.head with srcBusId := id }
    body := { m.body with
      forward := m.body.forward.map fun data => { data with router := data.router ++ [id] } } }

/-- `node::send_msg`. -/
def sendMsg (node : BusNode) (link : Link) (tid : BusId) (m : Msg) : SendResult :=
  if tid = node.id then { res := .success, msg := m, toSelf := some m }
  else
    match node.target tid with
    | .error res => { res := res, msg := m }
    | .ok target =>
        match link target with
        | none => { res := .atnodeNoConnection, msg := m, epOut := some target }
        | some push =>
            let marked := m.stamp node.id
            { res := push marked
              msg := marked
              epOut := some target
              sent := if (push marked).failed then none else some (target, marked) }

/-! ### What is sent -/

variable {node : BusNode} {link : Link} {tid : BusId} {m marked : Msg} {target : Endpoint}

/-- A message for the parent goes there. -/
theorem BusNode.target_of_parent {father : Endpoint} (known : node.father = some father)
    (parent : node.isParentNode tid = true) : node.target tid = .ok father := by
  simp [target, known, parent, Option.filter]

/-- Without the test for the parent. -/
theorem BusNode.target_of_not_parent (other : node.isParentNode tid = false) :
    node.target tid =
      if node.isBrotherNode tid then
        match node.brother.findChild tid with
        | some target => .ok target
        | none =>
            match node.upward with
            | some father => .ok father
            | none => .error .atnodeInvalidId
      else if node.isChildNode tid then
        match node.children.findChild tid with
        | some target => .ok target
        | none => .error .atnodeInvalidId
      else
        match node.upward with
        | some father => .ok father
        | none => .error .atnodeNoConnection := by
  have notFather : node.father.filter (fun _ => node.isParentNode tid) = none := by
    rw [other]
    exact Option.filter_eq_none_iff.mpr fun _ _ => Bool.false_ne_true
  rw [target, notFather, EndpointCollection.filter_findChild, EndpointCollection.filter_findChild]

/-- What `get_endpoint` finds is in the tables. -/
theorem BusNode.mem_of_getEndpoint (found : node.getEndpoint tid = some target) :
    target ∈ node.endpoints := by
  rw [getEndpoint] at found
  rw [endpoints, List.mem_append, List.mem_append]
  split at found
  · exact .inl (.inl (Option.mem_toList.mpr found))
  · split at found
    · obtain ⟨found, -⟩ := Option.filter_eq_some_iff.mp found
      exact .inl (.inr (EndpointCollection.findChild_some found).1)
    · split at found
      · obtain ⟨found, -⟩ := Option.filter_eq_some_iff.mp found
        exact .inr (EndpointCollection.findChild_some found).1
      · cases found

/-- An endpoint with exactly the id is the one picked for it. -/
theorem BusNode.target_of_getEndpoint (found : node.getEndpoint tid = some target) :
    node.target tid = .ok target ∧ target.id = tid := by
  rw [getEndpoint] at found
  cases parent : node.isParentNode tid with
  | true =>
      rw [if_pos parent] at found
      refine ⟨target_of_parent found parent, ?_⟩
      rw [isParentNode, found] at parent
      exact (beq_iff_eq.mp parent).symm
  | false =>
      rw [if_neg (by simp [parent])] at found
      rw [target_of_not_parent parent]
      cases brother : node.isBrotherNode tid with
      | true =>
          rw [if_pos brother] at found
          obtain ⟨found, same⟩ := Option.filter_eq_some_iff.mp found
          exact ⟨by simp [found], beq_iff_eq.mp same⟩
      | false =>
          rw [if_neg (by simp [brother])] at found
          cases child : node.isChildNode tid with
          | true =>
              rw [if_pos child] at found
              obtain ⟨found, same⟩ := Option.filter_eq_some_iff.mp found
              exact ⟨by simp [found], beq_iff_eq.mp same⟩
          | false =>
              rw [if_neg (by simp [child])] at found
              cases found

/-- What `send_msg` returns when it picks no endpoint is an error. -/
theorem BusNode.failed_of_target_error {res : ErrorType} (refused : node.target tid = .error res) :
    res.failed = true := by
  rw [target] at refused
  repeat' split at refused
  all_goals cases refused
  all_goals rfl

/-- The link has a connection that takes the message. -/
def Link.Accepts (link : Link) (target : Endpoint) (m : Msg) : Prop :=
  ∃ push, link target = some push ∧ (push m).failed = false

instance (link : Link) (target : Endpoint) (m : Msg) : Decidable (link.Accepts target m) :=
  match found : link target with
  | none => .isFalse fun ⟨_, connected, _⟩ => nomatch found.symm.trans connected
  | some push =>
      decidable_of_iff ((push m).failed = false)
        ⟨fun taken => ⟨push, found, taken⟩,
          fun ⟨_, connected, taken⟩ => Option.some.inj (found.symm.trans connected) ▸ taken⟩

/-- A message goes to the endpoint picked for the id, if its connection takes it. -/
theorem sendMsg_of_accepts (other : tid ≠ node.id) (picked : node.target tid = .ok target)
    (accepts : link.Accepts target (m.stamp node.id)) :
    (sendMsg node link tid m).sent = some (target, m.stamp node.id) := by
  obtain ⟨push, connected, taken⟩ := accepts
  simp [sendMsg, other, picked, connected, taken]

/-- Whatever is sent went to the endpoint picked for the id, marked by the node. -/
theorem sendMsg_sent (sent : (sendMsg node link tid m).sent = some (target, marked)) :
    tid ≠ node.id ∧ node.target tid = .ok target ∧ marked = m.stamp node.id ∧
      link.Accepts target marked := by
  rw [sendMsg] at sent
  split at sent
  · cases sent
  · rename_i other
    split at sent
    · cases sent
    · rename_i picked
      split at sent
      · cases sent
      · rename_i push connected
        dsimp only at sent
        split at sent
        · cases sent
        · rename_i taken
          cases sent
          exact ⟨other, picked, rfl, push, connected, by simpa using taken⟩

/-- A message for another node fails exactly when nothing is sent. -/
theorem sendMsg_failed_iff (other : tid ≠ node.id) :
    (sendMsg node link tid m).res.failed = true ↔ (sendMsg node link tid m).sent = none := by
  rw [sendMsg, if_neg other]
  split
  · rename_i res picked
    exact iff_of_true (BusNode.failed_of_target_error picked) rfl
  · split
    · simp [ErrorType.failed_iff]
    · rename_i push connected
      cases taken : (push (m.stamp node.id)).failed with
      | true => simp [taken]
      | false => simp [taken]

end LibAtbus.Node
