/-
Module: LibAtbus.Proofs.RegistrationAnswers
Layer: Proofs
Purpose: What becomes of a request of a registration. Whatever the handler decides, it replies over
  the connection with the code it decided on, and a refusal closes the connection and leaves the
  tables alone. A connection that is reset because it belongs to another id has lost its descriptor
  before the reply, and a request without a sequence is replied to with one of the node's own.
Trusted boundary: human-reviewed spec
Main exports: RegEnv.Sends, RegAnswered, NodeState.resetsLink, RegReplied, RegRefusalKeeps,
  registration_answered
-/
import LibAtbus.Node.Registration
import LibAtbus.Proofs.ParentRegistration

namespace LibAtbus.Node

/-- The message is packed below the message size and pushed with success. -/
structure RegEnv.Sends (env : RegEnv) (rsp : Msg) : Prop where
  fits : env.fits rsp = true
  push : (env.push rsp).failed = false

/-- The reply to a request, with what was decided on it. -/
def NodeState.regReply (env : RegEnv) (n : NodeState) (conn : PeerConn) (m : Msg) : Msg :=
  let sequence := if m.head.sequence = 0#32 then env.sequence else m.head.sequence
  match m.body.reg with
  | none => n.regMsg .nodeRegRsp ErrorType.badData.code sequence
  | some reg =>
      let answer := (n.decideReg env conn reg).1
      answer.node.regMsg .nodeRegRsp answer.code.code sequence

/-- A reply with the code that was decided and a sequence, and no other message. -/
def RegReplied (handled : RegHandled) (sequence : BitVec 32) : Prop :=
  ∃ rsp, handled.done.reply = some rsp ∧ handled.done.sent = [] ∧ rsp.head.cmd = .nodeRegRsp ∧
    rsp.head.ret = handled.code.code ∧ rsp.head.sequence = sequence

/-- A refusal leaves the connection disconnected and the registered endpoints as they were. -/
def RegRefusalKeeps (n : NodeState) (handled : RegHandled) : Prop :=
  handled.code.failed = true → handled.conn.state = .disconnected ∧
    handled.done.node.tables = n.tables

/-- Every request is answered, with its own sequence. -/
def RegAnswered (env : RegEnv) (n : NodeState) (conn : PeerConn) (m : Msg) : Prop :=
  RegReplied (regReq env n conn m) m.head.sequence ∧ RegRefusalKeeps n (regReq env n conn m)

/-- The request came over a connected link that is not that of an endpoint with the id of the
    request. -/
def NodeState.resetsLink (n : NodeState) (conn : PeerConn) (m : Msg) : Bool :=
  m.body.reg.any fun reg => n.regDecision conn reg = .notMatch

section

variable {env : RegEnv} {n : NodeState} {conn : PeerConn} {reg : RegData} {ep : Endpoint}
  {answer : RegAnswer} {sequence : BitVec 32} {ups : Nat}

/-- The connection of an answer still has its descriptor and takes messages. -/
structure RegAnswer.Open (answer : RegAnswer) : Prop where
  regFd : answer.conn.regFd = true
  takes : answer.conn.takesPush = true

/-- Over an open connection the reply is sent, with a sequence of the node's own if the request has
    none. -/
theorem replyReg_replied (opened : answer.Open)
    (sends : env.Sends (answer.node.regMsg .nodeRegRsp answer.code.code
      (if sequence = 0#32 then env.sequence else sequence))) :
    RegReplied (replyReg env answer sequence ups)
      (if sequence = 0#32 then env.sequence else sequence) := by
  let rsp := answer.node.regMsg .nodeRegRsp answer.code.code
    (if sequence = 0#32 then env.sequence else sequence)
  have accepted : ((env.over answer.conn).push rsp).failed = false := by
    change (env.send answer.conn rsp).failed = false
    rw [RegEnv.send, if_pos sends.fits, if_pos opened.takes]
    exact sends.push
  have done : sendRegRsp (env.over answer.conn) answer sequence =
      { res := ((env.over answer.conn).push rsp).code
        node := if answer.code.failed then answer.node.disconnectConn answer.conn else answer.node
        reply := some rsp
        events := answer.events } := by
    rw [sendRegRsp, if_pos opened.regFd]
    change Dispatched.mk _ _ _ (if ((env.over answer.conn).push rsp).failed then none else some rsp)
      _ = _
    rw [accepted]
    rfl
  have handled : (replyReg env answer sequence ups).done = _ := done
  refine ⟨rsp, ?_, ?_, rfl, rfl, rfl⟩
  · rw [handled]
  · rw [handled]

/-- A refusal over an open connection closes it; the tables are those of the answer. -/
theorem replyReg_keeps (opened : answer.Open)
    (kept : answer.code.failed = true → answer.node.tables = n.tables) :
    RegRefusalKeeps n (replyReg env answer sequence ups) := by
  intro failed
  have refused : answer.code.failed = true := failed
  constructor
  · dsimp only [replyReg]
    rw [opened.regFd, refused]
    exact PeerConn.disconnect_state opened.takes
  · dsimp only [replyReg, sendRegRsp]
    rw [if_pos opened.regFd]
    dsimp only
    rw [if_pos refused, NodeState.disconnectConn_tables]
    exact kept refused

/-! ### What was decided -/

/-- An endpoint is added, or the tables are as they were. -/
theorem BusNode.addEndpoint_outcome (node : BusNode) (ep : Endpoint) :
    (node.addEndpoint ep).1 = .success ∨ (node.addEndpoint ep).2 = node := by
  rw [addEndpoint]
  split
  · split
    · exact .inl rfl
    · exact .inr rfl
  · split
    · split
      · exact .inl rfl
      · exact .inr rfl
    · split
      · split
        · exact .inl rfl
        · exact .inr rfl
      · exact .inr rfl

/-- An endpoint that is not added leaves the tables as they were. -/
theorem BusNode.addEndpoint_refused {node : BusNode}
    (refused : (node.addEndpoint ep).1.failed = true) : (node.addEndpoint ep).2 = node := by
  rcases node.addEndpoint_outcome ep with success | kept
  · rw [success] at refused
    cases refused
  · exact kept

namespace NodeState

theorem register_refused {calls : HandlerEnv} {channels : List ChannelData}
    (refused : (n.register calls conn ep channels).code.failed = true) :
    (n.register calls conn ep channels).node.tables = n.tables := by
  rw [register] at refused ⊢
  split at refused
  · rename_i failed
    rw [if_pos failed]
    dsimp only [addEndpoint] at failed ⊢
    have kept := BusNode.addEndpoint_refused failed
    repeat' split
    all_goals exact kept
  · cases refused

/-- A request that is refused leaves the tables as they were. -/
theorem decideReg_tables (refused : (n.decideReg env conn reg).1.code.failed = true) :
    (n.decideReg env conn reg).1.node.tables = n.tables := by
  rw [decideReg, answerReg] at refused ⊢
  cases decided : n.regDecision conn reg with
  | notMatch => exact disconnectConn_tables n conn
  | connected => rfl
  | denied code => rfl
  | existed known =>
      dsimp only
      repeat' split
      all_goals rfl
  | create created =>
      rw [decided] at refused
      dsimp only at refused ⊢
      split at refused
      · rename_i allocated
        rw [if_pos allocated]
        split at refused
        · rename_i failed
          rw [if_pos failed]
          exact register_refused failed
        · rename_i accepted
          exact absurd refused accepted
      · rename_i missing
        rw [if_neg missing]

/-- Unless the connection is reset, it stays open. -/
theorem decideReg_open (env : RegEnv) (fd : conn.regFd = true) (takes : conn.takesPush = true)
    (other : n.regDecision conn reg ≠ .notMatch) : (n.decideReg env conn reg).1.Open := by
  have bound : ∀ known, RegAnswer.Open { n.answerReg env.toHandlerEnv conn reg with
      conn := conn.bindTo known } :=
    fun known => ⟨PeerConn.bindTo_regFd.trans fd, PeerConn.bindTo_takesPush takes⟩
  have kept : (n.answerReg env.toHandlerEnv conn reg).conn = conn := by
    rw [answerReg]
    cases decided : n.regDecision conn reg with
    | notMatch => exact absurd decided other
    | connected => rfl
    | denied code => rfl
    | existed known =>
        dsimp only
        repeat' split
        all_goals rfl
    | create created =>
        dsimp only [register]
        split
        · rfl
        · rfl
  have same : (n.answerReg env.toHandlerEnv conn reg).Open :=
    ⟨by rw [kept]; exact fd, by rw [kept]; exact takes⟩
  rw [decideReg]
  cases decided : n.regDecision conn reg with
  | notMatch => exact absurd decided other
  | connected => exact same
  | denied code => exact same
  | existed known =>
      dsimp only
      split
      · exact same
      · exact bound known
  | create created =>
      dsimp only
      split
      · split
        · exact same
        · exact bound created
      · exact ⟨fd, takes⟩

/-- A connection that is reset has lost its descriptor and is disconnected. -/
theorem decideReg_reset (env : RegEnv) (mismatch : n.regDecision conn reg = .notMatch) :
    (n.decideReg env conn reg).1.conn.regFd = false ∧
      (n.decideReg env conn reg).1.conn.state = .disconnected := by
  rw [decideReg, answerReg, mismatch]
  exact ⟨rfl, rfl⟩

end NodeState

open NodeState

/-- Every request over a connection with a descriptor that takes messages is answered with the code
    decided on and its own sequence, or one of the node's if it has none, when the reply can be sent
    and unless the connection is reset; and in every case a refusal leaves the connection
    disconnected and the registered endpoints as they were. -/
theorem registration_answered (env : RegEnv) (n : NodeState) (conn : PeerConn) (m : Msg)
    (fd : conn.regFd = true) (takes : conn.takesPush = true) :
    (n.resetsLink conn m = false → env.Sends (n.regReply env conn m) →
        RegReplied (regReq env n conn m)
          (if m.head.sequence = 0#32 then env.sequence else m.head.sequence)) ∧
      RegRefusalKeeps n (regReq env n conn m) := by
  cases known : m.body.reg with
  | none =>
      have handled : regReq env n conn m =
          replyReg env { code := .badData, node := n, conn := conn } m.head.sequence 0 := by
        simp only [regReq, known]
      have opened : RegAnswer.Open { code := .badData, node := n, conn := conn } := ⟨fd, takes⟩
      rw [handled, NodeState.regReply, known]
      exact ⟨fun _ sends => replyReg_replied opened sends, replyReg_keeps opened fun _ => rfl⟩
  | some reg =>
      have handled : regReq env n conn m =
          replyReg env (n.decideReg env conn reg).1 m.head.sequence
            (n.decideReg env conn reg).2 := by
        simp only [regReq, known]
      rw [handled, NodeState.regReply, known]
      by_cases mismatch : n.regDecision conn reg = .notMatch
      · obtain ⟨lost, closed⟩ := decideReg_reset env mismatch
        refine ⟨fun kept => ?_, fun refused => ⟨?_, ?_⟩⟩
        · rw [resetsLink, known, Option.any_some, mismatch] at kept
          exact absurd kept (by simp)
        · dsimp only [replyReg]
          rw [lost]
          exact closed
        · dsimp only [replyReg, sendRegRsp]
          rw [if_neg (by rw [lost]; exact Bool.false_ne_true)]
          exact decideReg_tables refused
      · have opened := decideReg_open env fd takes mismatch
        exact ⟨fun _ sends => replyReg_replied opened sends,
          replyReg_keeps opened decideReg_tables⟩

end

/-- Whatever is sent over connections succeeds. -/
def RegEnv.reachable : RegEnv where
  toHandlerEnv := .reachable
  allocated := true
  fits _ := true

/-- The node answers the registration of its parent. -/
theorem registration_answered_parent :
    RegReplied (regReq .reachable .connecting parentConn (parentMsg .nodeRegReq)) 1#32 ∧
      RegRefusalKeeps .connecting
        (regReq .reachable .connecting parentConn (parentMsg .nodeRegReq)) :=
  have answered := registration_answered .reachable .connecting parentConn
    (parentMsg .nodeRegReq) rfl rfl
  ⟨answered.1 rfl ⟨rfl, rfl⟩, answered.2⟩

/-- A request for another id over a connected link is not answered at all, and one without a
    sequence is answered with another, although whatever is sent is pushed with success. -/
theorem registration_unanswered :
    let mismatched : PeerConn := { parentConn with state := .connected }
    let request := parentMsg .nodeRegReq
    let unnumbered : Msg := { request with head := { request.head with sequence := 0#32 } }
    (∀ rsp, RegEnv.reachable.Sends rsp) ∧
      (mismatched.takesPush = true ∧ mismatched.regFd = true ∧
        ¬RegAnswered .reachable .connecting mismatched request) ∧
      parentConn.takesPush = true ∧ parentConn.regFd = true ∧
        ¬RegAnswered .reachable .connecting parentConn unnumbered := by
  intro mismatched request unnumbered
  refine ⟨fun rsp => ⟨rfl, rfl⟩, ⟨rfl, rfl, ?_⟩, rfl, rfl, ?_⟩
  · rintro ⟨⟨rsp, replied, -⟩, -⟩
    cases replied
  · rintro ⟨⟨rsp, replied, -, -, -, numbered⟩, -⟩
    cases replied
    exact absurd numbered (by decide)

end LibAtbus.Node
