/-
Module: LibAtbus.Node.Registration
Layer: Node
Purpose: The registration handlers of `src/atbus_msg_handler.cpp` with all they touch: the endpoint
  that may not be allocated, the connection that is bound, reset or disconnected, the sending of the
  reply over it, and how often `on_node_up` is called. The node and the reply are those of the
  dispatch of messages.
Trusted boundary: human-reviewed spec
Main exports: RegEnv, RegHandled, PeerConn.bindTo, PeerConn.disconnect, NodeState.upCalls,
  NodeState.addEndpointUps, RegEnv.send, NodeState.decideReg, regReq, regRspUps, regReq_dispatched
-/
import LibAtbus.Node.Dispatch

namespace LibAtbus.Node

/-- What the handler of a registration calls beside: the allocation of an endpoint, and whether a
    message, when it is packed, is below the message size of the node. Here `push` is the pushing of
    what is packed to a connection that takes it. -/
structure RegEnv extends HandlerEnv where
  allocated : Bool
  fits : Msg → Bool

/-- What the handling of a request came to: the code it decided on, what it did, the connection it
    leaves, and how often it called `on_node_up`. -/
structure RegHandled where
  code : ErrorType
  done : Dispatched
  conn : PeerConn
  nodeUps : Nat

namespace PeerConn

/-- `endpoint::add_connection` that succeeds, as far as the connection goes. -/
def bindTo (conn : PeerConn) (ep : Endpoint) : PeerConn :=
  if conn.binding.isSome then conn
  else
    { conn with
      binding := some ep
      state := if conn.state = .handshaking then .connected else conn.state }

/-- `connection::disconnect`, as far as the connection goes. -/
def disconnect (conn : PeerConn) : PeerConn :=
  if conn.state = .disconnected ∨ conn.state = .disconnecting then conn else { conn with
    state := .disconnected }

/-- A connection that `connection::push` takes a message for. -/
def takesPush (conn : PeerConn) : Bool := conn.state = .connected || conn.state = .handshaking

end PeerConn

/-- `msg_handler::send_msg` over a connection. -/
def RegEnv.send (env : RegEnv) (conn : PeerConn) (m : Msg) : ErrorType :=
  if env.fits m then (if conn.takesPush then env.push m else .notInited) else .buffLimit

/-- The handler's calls, where a message is sent over the connection. -/
def RegEnv.over (env : RegEnv) (conn : PeerConn) : HandlerEnv :=
  { env.toHandlerEnv with push := env.send conn }

namespace NodeState

/-- How often `node::on_actived` calls `on_node_up`. -/
def upCalls (n : NodeState) : Nat := if n.actived then 0 else 1

/-- How often `node::add_endpoint` calls `on_node_up`. -/
def addEndpointUps (n : NodeState) (ep : Endpoint) : Nat :=
  if n.tables.isParentShaped ep && n.tables.father.isNone then
    if n.awaitsParent && n.parentRegDone then n.upCalls else 0
  else 0

/-- `on_recv_node_reg_req` up to the reply. -/
def decideReg (env : RegEnv) (n : NodeState) (conn : PeerConn) (reg : RegData) : RegAnswer × Nat :=
  let answer := n.answerReg env.toHandlerEnv conn reg
  match n.regDecision conn reg with
  | .notMatch => (answer, 0)
  | .connected => (answer, 0)
  | .denied _ => (answer, 0)
  | .existed ep => (if answer.code.failed then answer else { answer with conn := conn.bindTo ep },
      0)
  | .create ep =>
      if env.allocated then
        (if answer.code.failed then answer else { answer with conn := conn.bindTo ep },
          n.addEndpointUps ep)
      else
        ({ code := .malloc, node := n, conn := conn, events := [.error ErrorType.malloc.code] }, 0)

end NodeState

/-- The end of `on_recv_node_reg_req`, with the connection. -/
def replyReg (env : RegEnv) (answer : RegAnswer) (sequence : BitVec 32) (nodeUps : Nat) :
    RegHandled where
  code := answer.code
  done := sendRegRsp (env.over answer.conn) answer sequence
  conn := if answer.conn.regFd && answer.code.failed then answer.conn.disconnect else answer.conn
  nodeUps := nodeUps

/-- `on_recv_node_reg_req` over a connection. -/
def regReq (env : RegEnv) (n : NodeState) (conn : PeerConn) (m : Msg) : RegHandled :=
  match m.body.reg with
  | none => replyReg env { code := .badData, node := n, conn := conn } m.head.sequence 0
  | some reg =>
      replyReg env (n.decideReg env conn reg).1 m.head.sequence (n.decideReg env conn reg).2

/-- How often `on_recv_node_reg_rsp` over a connection calls `on_node_up`. -/
def regRspUps (n : NodeState) (m : Msg) : Nat :=
  if m.head.ret < 0 then 0
  else if n.status = .connectingParent then
    match m.body.reg with
    | none => 0
    | some reg => if n.tables.isParentNode reg.busId then n.onParentRegDone.upCalls else 0
  else 0

section

variable {env : RegEnv} {n : NodeState} {conn : PeerConn} {m : Msg} {reg : RegData} {ep : Endpoint}

@[simp] theorem PeerConn.bindTo_regFd : (conn.bindTo ep).regFd = conn.regFd := by
  rw [bindTo]
  split
  · rfl
  · rfl

/-- A bound connection still takes messages. -/
theorem PeerConn.bindTo_takesPush (takes : conn.takesPush = true) :
    (conn.bindTo ep).takesPush = true := by
  rw [bindTo]
  split
  · exact takes
  · rw [takesPush] at takes ⊢
    cases state : conn.state with
    | handshaking => simp
    | connected => simp
    | disconnected => simp [state] at takes
    | connecting => simp [state] at takes
    | disconnecting => simp [state] at takes

/-- A connection that takes messages is disconnected afterwards. -/
theorem PeerConn.disconnect_state (takes : conn.takesPush = true) :
    conn.disconnect.state = .disconnected := by
  have open' : ¬(conn.state = .disconnected ∨ conn.state = .disconnecting) := by
    rintro (state | state)
    · simp [takesPush, state] at takes
    · simp [takesPush, state] at takes
  rw [disconnect, if_neg open']

/-- With an endpoint allocated, the answer is that of the dispatch, but for the connection, which
    keeps its descriptor, and all else when the registration is refused. -/
theorem NodeState.decideReg_answer (n : NodeState) (conn : PeerConn) (reg : RegData)
    (allocated : env.allocated = true) :
    ∃ bound, (n.decideReg env conn reg).1 = { n.answerReg env.toHandlerEnv conn reg with
      conn := bound } ∧
      bound.regFd = (n.answerReg env.toHandlerEnv conn reg).conn.regFd ∧
      ((n.answerReg env.toHandlerEnv conn reg).code.failed = true →
        bound = (n.answerReg env.toHandlerEnv conn reg).conn) := by
  have kept : ∀ known, ((n.answerReg env.toHandlerEnv conn reg).conn = conn) →
      ∃ bound,
        (if (n.answerReg env.toHandlerEnv conn reg).code.failed then n.answerReg env.toHandlerEnv
          conn reg
          else { n.answerReg env.toHandlerEnv conn reg with conn := conn.bindTo known }) =
          { n.answerReg env.toHandlerEnv conn reg with conn := bound } ∧
        bound.regFd = (n.answerReg env.toHandlerEnv conn reg).conn.regFd ∧
        ((n.answerReg env.toHandlerEnv conn reg).code.failed = true →
          bound = (n.answerReg env.toHandlerEnv conn reg).conn) := by
    intro known same
    split
    · exact ⟨_, rfl, rfl, fun _ => rfl⟩
    · rename_i accepted
      exact ⟨conn.bindTo known, rfl, by rw [same, PeerConn.bindTo_regFd],
        fun refused => absurd refused accepted⟩
  rw [decideReg]
  cases decided : n.regDecision conn reg with
  | notMatch => exact ⟨_, rfl, rfl, fun _ => rfl⟩
  | connected => exact ⟨_, rfl, rfl, fun _ => rfl⟩
  | denied code => exact ⟨_, rfl, rfl, fun _ => rfl⟩
  | existed known =>
      apply kept
      rw [answerReg, decided]
      dsimp only
      repeat' split
      all_goals rfl
  | create created =>
      simp only [allocated, if_true]
      apply kept
      rw [answerReg, decided]
      dsimp only [register]
      split
      · rfl
      · rfl

/-- The reply does not look at the connection but for its descriptor, and for a refusal, its
    state. -/
theorem sendRegRsp_withConn {calls : HandlerEnv} {answer : RegAnswer} {bound : PeerConn}
    {sequence : BitVec 32} (fd : bound.regFd = answer.conn.regFd)
    (refused : answer.code.failed = true → bound = answer.conn) :
    sendRegRsp calls { answer with conn := bound } sequence = sendRegRsp calls answer sequence := by
  rw [sendRegRsp, sendRegRsp, fd]
  cases failed : answer.code.failed with
  | true => rw [refused failed]
  | false => rfl

/-- With an endpoint allocated, the handler does what the dispatch does that sends over the
    connection it leaves or closes. -/
theorem regReq_dispatched (allocated : env.allocated = true) :
    ∃ bound, (regReq env n conn m).done = onRecvNodeRegReq (env.over bound) n (some conn) m := by
  cases known : m.body.reg with
  | none =>
      refine ⟨conn, ?_⟩
      simp only [regReq, onRecvNodeRegReq, known]
      rfl
  | some reg =>
      obtain ⟨bound, answered, fd, refused⟩ := n.decideReg_answer conn reg allocated
      refine ⟨bound, ?_⟩
      simp only [regReq, onRecvNodeRegReq, known, replyReg, answered]
      exact sendRegRsp_withConn fd refused

end

end LibAtbus.Node
