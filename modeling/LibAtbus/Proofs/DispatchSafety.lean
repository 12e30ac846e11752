/-
Module: LibAtbus.Proofs.DispatchSafety
Layer: Proofs
Purpose: Which messages a node can dispatch. A handler needs a body, and some need the connection as
  well; a message without is to be answered with an error. The debug output of the dispatch looks up
  the binding of the connection exactly when there is none; the response to a registration is
  trusted to have a body; and the request of a registration is answered only over a connection with
  a descriptor.
Trusted boundary: none
Main exports: Msg.lacksBody, ProtocolCmd.needsConnection, Incomplete, Answers, Tolerates,
  dispatch_answers_iff, dispatch_follows_null
-/
import LibAtbus.Node.Dispatch

namespace LibAtbus.Node

/-- The body the handler of the command works on is not there. -/
def Msg.lacksBody (m : Msg) : Bool :=
  match m.head.cmd with
  | .dataTransformReq | .dataTransformRsp => m.body.forward.isNone
  | .customCmdReq => m.body.custom.isNone
  | .nodeRegReq | .nodeRegRsp => m.body.reg.isNone
  | .nodeConnSyn => m.body.conn.isNone
  | .nodePing | .nodePong => m.body.ping.isNone
  | .invalid | .nodeSyncReq | .nodeSyncRsp | .other _ _ => false

/-- The handler of the command works on the connection; those of the others take a message without
    one. -/
def ProtocolCmd.needsConnection : ProtocolCmd → Bool
  | .dataTransformReq | .dataTransformRsp | .nodeRegReq | .nodeRegRsp | .nodeConnSyn => true
  | _ => false

/-- A message whose required body or connection is missing. -/
def Incomplete (m : Msg) (conn : Option PeerConn) : Prop :=
  m.lacksBody = true ∨ m.head.cmd.needsConnection = true ∧ conn = none

/-- The dispatch follows no missing pointer, and answers an incomplete message with a negative code,
    which it returns or sends back. -/
def Answers (env : HandlerEnv) (n : NodeState) (conn : Option PeerConn) (m : Msg) : Prop :=
  ∃ done, dispatchMsg env n conn (some m) = .ok done ∧
    (Incomplete m conn → done.res < 0 ∨ ∃ rsp, done.reply = some rsp ∧ rsp.head.ret < 0)

/-- With `on_debug` set there is a connection. A response to a registration that came over a
    connection has its body, unless it is a refusal. A request of a registration is complete, or
    came over a connection with a descriptor. -/
def Tolerates (n : NodeState) (conn : Option PeerConn) (m : Msg) : Prop :=
  (n.onDebug = true → conn.isSome = true) ∧
  (m.head.cmd = .nodeRegRsp → conn.isSome = true → m.body.reg = none → m.head.ret < 0) ∧
  (m.head.cmd = .nodeRegReq → Incomplete m conn → ∃ c, conn = some c ∧ c.regFd = true)

variable {env : HandlerEnv} {n : NodeState} {conn : Option PeerConn} {m : Msg}

/-- A code that is an error is negative. -/
theorem code_neg {res : ErrorType} (failed : res.failed = true) : res.code < 0 :=
  of_decide_eq_true failed

theorem badData_neg : ErrorType.badData.code < 0 := by decide

theorem invalidMsg_neg : ErrorType.atnodeInvalidMsg.code < 0 := by decide

/-- A connection with a descriptor gets the response to a refused registration, or the sending
    fails. -/
theorem sendRegRsp_refused {answer : RegAnswer} {sequence : BitVec 32}
    (refused : answer.code.failed = true) (fd : answer.conn.regFd = true) :
    (sendRegRsp env answer sequence).res < 0 ∨
      ∃ rsp, (sendRegRsp env answer sequence).reply = some rsp ∧ rsp.head.ret < 0 := by
  rw [sendRegRsp, if_pos fd]
  generalize (if sequence = 0#32 then env.sequence else sequence) = allocated
  cases failed : (env.push (answer.node.regMsg .nodeRegRsp answer.code.code allocated)).failed with
  | true => exact .inl (code_neg failed)
  | false =>
      exact .inr ⟨answer.node.regMsg .nodeRegRsp answer.code.code allocated, by simp [failed],
        code_neg refused⟩

/-- An incomplete registration is answered exactly over a connection with a descriptor. -/
theorem onRecvNodeRegReq_answers_iff (command : m.head.cmd = .nodeRegReq)
    (incomplete : Incomplete m conn) : ((onRecvNodeRegReq env n conn m).res < 0 ∨
      ∃ rsp, (onRecvNodeRegReq env n conn m).reply = some rsp ∧ rsp.head.ret < 0) ↔
      ∃ c, conn = some c ∧ c.regFd = true := by
  cases conn with
  | none => simp [onRecvNodeRegReq]
  | some c =>
      have missing : m.body.reg = none := by
        simpa [Incomplete, Msg.lacksBody, command] using incomplete
      rw [onRecvNodeRegReq, missing]
      cases fd : c.regFd with
      | false => simp [sendRegRsp, fd]
      | true => exact iff_of_true (sendRegRsp_refused rfl fd) ⟨c, rfl, fd⟩

/-- A response to a registration is safe to handle, and answered when it is incomplete, exactly when
    it has a body or is a refusal, or there is no connection. -/
theorem onRecvNodeRegRsp_answers_iff (command : m.head.cmd = .nodeRegRsp) :
    (∃ done, onRecvNodeRegRsp n conn m = .ok done ∧
      (Incomplete m conn → done.res < 0 ∨ ∃ rsp, done.reply = some rsp ∧ rsp.head.ret < 0)) ↔
      (conn.isSome = true → m.body.reg = none → m.head.ret < 0) := by
  cases conn with
  | none =>
      exact iff_of_true ⟨_, rfl, fun _ => .inl badData_neg⟩ (by simp)
  | some c =>
      have incomplete : Incomplete m (some c) ↔ m.body.reg = none := by
        simp [Incomplete, Msg.lacksBody, command]
      rw [incomplete, onRecvNodeRegRsp]
      by_cases refused : m.head.ret < 0
      · rw [if_pos refused]
        exact iff_of_true ⟨_, rfl, fun _ => .inl refused⟩ fun _ _ => refused
      · rw [if_neg refused]
        cases known : m.body.reg with
        | none =>
            -- the body is looked at while the node connects to its parent; else the message passes
            -- for complete
            split
            · simp [refused]
            · simp [refused]
        | some reg =>
            split
            · simp
            · simp

/-- A message over a connection, or one to a node whose debug output is off, is dispatched to its
    handler. -/
theorem not_debugged (quiet : n.onDebug = true → conn.isSome = true) :
    ¬(n.onDebug && conn.isNone) = true := by
  cases conn with
  | none => simpa using quiet
  | some c => simp

/-- A handler that tests its body and its connection together does nothing without either. -/
theorem guarded_none {α : Type} {body : Option α} (missing : body.isNone = true ∨ conn = none) :
    body.filter (fun _ => conn.isSome) = none := by
  cases body with
  | none => rfl
  | some data =>
      rcases missing with absent | rfl
      · cases absent
      · rfl

theorem Incomplete.missing (incomplete : Incomplete m conn) : m.lacksBody = true ∨ conn = none :=
  incomplete.imp_right And.right

/-- A handler that needs no connection is only ever short of its body. -/
theorem Incomplete.body (incomplete : Incomplete m conn)
    (alone : m.head.cmd.needsConnection = false) : m.lacksBody = true := by
  rcases incomplete with lacks | ⟨needs, -⟩
  · exact lacks
  · rw [alone] at needs
    cases needs

/-- The handlers of all other commands answer what is incomplete with the code they return. -/
theorem answers_of_other (quiet : n.onDebug = true → conn.isSome = true)
    (notReq : m.head.cmd ≠ .nodeRegReq) (notRsp : m.head.cmd ≠ .nodeRegRsp) :
    Answers env n conn m := by
  have absent : ∀ {α : Type} {body : Option α}, body.isNone = true → body = none :=
    Option.isNone_iff_eq_none.mp
  rw [Answers, dispatchMsg, if_neg (not_debugged quiet)]
  cases command : m.head.cmd with
  | invalid => exact ⟨_, rfl, fun _ => .inl invalidMsg_neg⟩
  | other value undeclared => exact ⟨_, rfl, fun _ => .inl invalidMsg_neg⟩
  | nodeRegReq => exact absurd command notReq
  | nodeRegRsp => exact absurd command notRsp
  | nodeSyncReq =>
      refine ⟨_, rfl, fun incomplete => ?_⟩
      have lacks := incomplete.body (by rw [command]; rfl)
      simp [Msg.lacksBody, command] at lacks
  | nodeSyncRsp =>
      refine ⟨_, rfl, fun incomplete => ?_⟩
      have lacks := incomplete.body (by rw [command]; rfl)
      simp [Msg.lacksBody, command] at lacks
  | dataTransformReq =>
      refine ⟨_, rfl, fun incomplete => .inl ?_⟩
      have missing := incomplete.missing
      simp only [Msg.lacksBody, command] at missing
      rw [onRecvDataTransferReq, guarded_none missing]
      exact badData_neg
  | dataTransformRsp =>
      refine ⟨_, rfl, fun incomplete => .inl ?_⟩
      have missing := incomplete.missing
      simp only [Msg.lacksBody, command] at missing
      rw [onRecvDataTransferRsp, if_pos]
      · exact badData_neg
      · rcases missing with lacks | rfl
        · simp [lacks]
        · simp
  | nodeConnSyn =>
      refine ⟨_, rfl, fun incomplete => .inl ?_⟩
      have missing := incomplete.missing
      simp only [Msg.lacksBody, command] at missing
      rw [onRecvNodeConnSyn, guarded_none missing]
      exact badData_neg
  | customCmdReq =>
      refine ⟨_, rfl, fun incomplete => .inl ?_⟩
      have lacks := incomplete.body (by rw [command]; rfl)
      simp only [Msg.lacksBody, command] at lacks
      rw [onRecvCustomCmdReq, absent lacks]
      exact badData_neg
  | nodePing =>
      refine ⟨_, rfl, fun incomplete => .inl ?_⟩
      have lacks := incomplete.body (by rw [command]; rfl)
      simp only [Msg.lacksBody, command] at lacks
      rw [onRecvNodePing, absent lacks]
      exact badData_neg
  | nodePong =>
      refine ⟨_, rfl, fun incomplete => .inl ?_⟩
      have lacks := incomplete.body (by rw [command]; rfl)
      simp only [Msg.lacksBody, command] at lacks
      rw [onRecvNodePong, absent lacks]
      exact badData_neg

/-- A dispatch is safe, and an incomplete message answered, exactly when the conditions on the
    message, the connection and the node hold: in every state of the node, over every connection or
    none. -/
theorem dispatch_answers_iff (env : HandlerEnv) (n : NodeState) (conn : Option PeerConn) (m : Msg) :
    Answers env n conn m ↔ Tolerates n conn m := by
  by_cases quiet : n.onDebug = true → conn.isSome = true
  · by_cases request : m.head.cmd = .nodeRegReq
    · have dispatched : dispatchMsg env n conn (some m) = .ok (onRecvNodeRegReq env n conn m) := by
        rw [dispatchMsg, if_neg (not_debugged quiet), request]
      rw [Answers, dispatched, Tolerates, request]
      constructor
      · rintro ⟨done, handled, answered⟩
        cases handled
        refine ⟨quiet, fun response => absurd response ProtocolCmd.noConfusion,
          fun _ incomplete => ?_⟩
        exact (onRecvNodeRegReq_answers_iff request incomplete).mp (answered incomplete)
      · rintro ⟨-, -, complete⟩
        refine ⟨_, rfl, fun incomplete => ?_⟩
        exact (onRecvNodeRegReq_answers_iff request incomplete).mpr (complete rfl incomplete)
    · by_cases response : m.head.cmd = .nodeRegRsp
      · have dispatched : dispatchMsg env n conn (some m) = onRecvNodeRegRsp n conn m := by
          rw [dispatchMsg, if_neg (not_debugged quiet), response]
        rw [Answers, dispatched, onRecvNodeRegRsp_answers_iff response, Tolerates]
        exact ⟨fun safe => ⟨quiet, fun _ => safe, fun command => absurd command request⟩,
          fun tolerates => tolerates.2.1 response⟩
      · refine iff_of_true (answers_of_other quiet request response) ⟨quiet, ?_, ?_⟩
        · exact fun command => absurd command response
        · exact fun command => absurd command request
  · refine iff_of_false ?_ fun tolerates => quiet tolerates.1
    rintro ⟨done, dispatched, -⟩
    obtain ⟨debug, missing⟩ := Classical.not_imp.mp quiet
    rw [Bool.not_eq_true, Option.isSome_eq_false_iff] at missing
    simp [dispatchMsg, debug, missing] at dispatched

/-- A node that has just been initialised, with `on_debug` set. -/
def NodeState.debugged : NodeState where
  tables :=
    { self := { id := 0x10000#64, childrenMask := 16, globalRouter := false, listen := [] }
      father := none
      brother := .empty
      children := .empty
      ttl := 16
      msgSize := 65536 }
  status := .inited
  parentRegDone := false
  actived := false
  shutdown := false
  sec := 0
  fatherOprTimePoint := 0
  fatherAddress := "ipv4://127.0.0.1:16387"
  firstIdleTimeout := 30
  retryInterval := 3
  pingInterval := 60
  checkList := []
  onDebug := true

/-- Whatever is sent over connections succeeds. -/
def HandlerEnv.open : HandlerEnv where
  links := openLinks
  sequence := 1#32
  push _ := .success
  addConnection := true
  connect _ := .success

/-- A complete custom command that a node with `on_debug` set sends to itself, and an accepted
    registration without its body that comes while a node connects to its parent: both follow a
    missing pointer. -/
theorem dispatch_follows_null :
    let head : MsgHead :=
  { cmd := .customCmdReq, type := 0, ret := 0, sequence := 1#32, srcBusId := 0x10000#64 }
    let custom : Msg :=
      { head := head, body := { custom := some { fromId := 0x10000#64, commands := [[1]] } } }
    let response : Msg := { head := { head with cmd := .nodeRegRsp }, body := {} }
    let conn : PeerConn :=
      { state := .handshaking, binding := none, regFd := true, accessShareHost := false,
        address := "ipv4://127.0.0.1:16387" }
    let connecting := { NodeState.debugged with status := .connectingParent, onDebug := false }
    ¬Answers .open .debugged none custom ∧ ¬Incomplete custom none ∧
      ¬Answers .open connecting (some conn) response ∧
      (∃ null, dispatchMsg .open .debugged none (some custom) = .error null) ∧
      ∃ null, dispatchMsg .open connecting (some conn) (some response) = .error null := by
  intro head custom response conn connecting
  refine ⟨?_, ?_, ?_, ⟨.connection, rfl⟩, ⟨.body, rfl⟩⟩
  · rintro ⟨done, dispatched, -⟩
    cases dispatched
  · rintro (missing | ⟨needed, -⟩)
    · cases missing
    · cases needed
  · rintro ⟨done, dispatched, -⟩
    cases dispatched

end LibAtbus.Node
