/-
Module: LibAtbus.Proofs.HandshakeAgreement
Layer: Proofs
Purpose: Two nodes that register with each other over a stream connection. Whatever their tables are
  meanwhile, and however their messages, resets and losses interleave: a connection that was bound
  in the handshake is bound to the process on its other side; and when nothing is on its way any
  more, either both sides have closed it, or both have it connected and bound to the id of the
  other, unless their endpoint let go of it. At most four messages of the registration are taken.
Trusted boundary: none
Main exports: RegLeaves, PeerConn.Sane, Moves, PeerConn.handle_moves, PeerConn.handle_kept,
  Greeting, Settled, handshake_agrees
-/
import LibAtbus.Node.Handshake
import LibAtbus.Proofs.RegistrationAnswers

namespace LibAtbus.Node

open Transitions

/-! ### What a request leaves -/

/-- What the check of a request found is so. -/
def RegDecision.Found (conn : PeerConn) (reg : RegData) : RegDecision → Prop
  | .notMatch => conn.state = .connected
  | .connected => conn.state = .connected ∧ ∃ ep, conn.binding = some ep ∧ ep.id = reg.busId
  | .existed ep => conn.state ≠ .connected ∧ ep.id = reg.busId
  | .denied code => conn.state ≠ .connected ∧ code.failed = true
  | .create ep => conn.state ≠ .connected ∧ ep.id = reg.busId ∧ ep.pid = reg.pid ∧
      ep.hostname = reg.hostname

/-- The connection a decision on a request leaves: it is reset, a refusal does not touch it, it was
    bound to the id that asks already, or it is bound to an endpoint of the process that asks. -/
inductive RegLeaves (conn : PeerConn) (reg : RegData) : ErrorType → PeerConn → Prop where
  | reset {code : ErrorType} (refused : code.failed = true) : RegLeaves conn reg code conn.reset
  | refused {code : ErrorType} (refused : code.failed = true) : RegLeaves conn reg code conn
  | known {code : ErrorType} {ep : Endpoint} (accepted : code.failed = false)
      (connected : conn.state = .connected)
      (bound : conn.binding = some ep) (same : ep.id = reg.busId) : RegLeaves conn reg code conn
  | bound {code : ErrorType} {ep : Endpoint} (accepted : code.failed = false)
      (waiting : conn.state ≠ .connected)
      (same : ep.id = reg.busId) (process : ep.pid = reg.pid) (host : ep.hostname = reg.hostname) :
      RegLeaves conn reg code (conn.bindTo ep)

section

variable {env : RegEnv} {n : NodeState} {conn : PeerConn} {m : Msg} {reg : RegData} {ep : Endpoint}
  {code : ErrorType}

theorem NodeState.regDecision_found (n : NodeState) (conn : PeerConn) (reg : RegData) :
    (n.regDecision conn reg).Found conn reg := by
  rw [regDecision]
  split
  · rename_i connected
    split
    · rename_i same
      obtain ⟨ep, bound, same⟩ := (Option.any_eq_true _ _).mp same
      exact ⟨connected, ep, bound, of_decide_eq_true same⟩
    · exact connected
  · rename_i waiting
    split
    · rename_i ep found
      exact ⟨waiting, (BusNode.target_of_getEndpoint found).2⟩
    · split
      · exact ⟨waiting, rfl⟩
      · split
        · exact ⟨waiting, rfl⟩
        · exact ⟨waiting, rfl, rfl, rfl⟩

/-- An endpoint that was there has accepted the connection only if it is of the process that
    asks. -/
theorem NodeState.answerReg_existed {calls : HandlerEnv}
    (decided : n.regDecision conn reg = .existed ep) : (n.answerReg calls conn reg).conn = conn ∧
      ((n.answerReg calls conn reg).code.failed = false → ep.pid = reg.pid ∧
        ep.hostname = reg.hostname) := by
  rw [answerReg, decided]
  dsimp only
  split
  · exact ⟨rfl, fun accepted => by cases accepted⟩
  · rename_i same
    obtain ⟨process, host⟩ := not_or.mp same
    split
    · exact ⟨rfl, fun _ => ⟨not_not.mp process, not_not.mp host⟩⟩
    · exact ⟨rfl, fun accepted => by cases accepted⟩

theorem NodeState.answerReg_create {calls : HandlerEnv}
    (decided : n.regDecision conn reg = .create ep) : (n.answerReg calls conn reg).conn = conn := by
  rw [answerReg, decided]
  dsimp only [register]
  split
  · rfl
  · rfl

/-- An answer that leaves the connection, or binds it when it accepts. -/
theorem RegLeaves.answer {answer : RegAnswer} (kept : answer.conn = conn)
    (waiting : conn.state ≠ .connected) (same : ep.id = reg.busId)
    (process : answer.code.failed = false → ep.pid = reg.pid ∧ ep.hostname = reg.hostname) :
    RegLeaves conn reg (if answer.code.failed then answer else { answer with
      conn := conn.bindTo ep }).code
      (if answer.code.failed then answer else { answer with conn := conn.bindTo ep }).conn := by
  cases failed : answer.code.failed with
  | true =>
      rw [if_pos rfl, kept]
      exact .refused failed
  | false =>
      rw [if_neg Bool.false_ne_true]
      exact .bound failed waiting same (process failed).1 (process failed).2

/-- What `on_recv_node_reg_req` leaves of a connection before it replies. -/
theorem NodeState.decideReg_leaves (env : RegEnv) (n : NodeState) (conn : PeerConn)
    (reg : RegData) :
    RegLeaves conn reg (n.decideReg env conn reg).1.code (n.decideReg env conn reg).1.conn := by
  have found := n.regDecision_found conn reg
  rw [decideReg]
  cases decided : n.regDecision conn reg with
  | notMatch =>
      rw [answerReg, decided]
      exact .reset rfl
  | connected =>
      rw [decided] at found
      obtain ⟨connected, ep, bound, same⟩ := found
      rw [answerReg, decided]
      exact .known rfl connected bound same
  | denied code =>
      rw [decided] at found
      rw [answerReg, decided]
      exact .refused found.2
  | existed ep =>
      rw [decided] at found
      obtain ⟨kept, process⟩ := @answerReg_existed n conn reg ep env.toHandlerEnv decided
      exact .answer kept found.1 found.2 process
  | create ep =>
      rw [decided] at found
      obtain ⟨waiting, same, process, host⟩ := found
      dsimp only
      split
      · exact .answer (answerReg_create decided) waiting same fun _ => ⟨process, host⟩
      · exact .refused rfl

/-- What a complete request leaves of a connection with a descriptor: a refusal has closed it. -/
theorem regReq_leaves (env : RegEnv) (n : NodeState) (fd : conn.regFd = true)
    (known : m.body.reg = some reg) : (regReq env n conn m).conn = conn.reset ∨
      (regReq env n conn m).conn = conn.disconnect ∨
      ∃ code, code.failed = false ∧ RegLeaves conn reg code (regReq env n conn m).conn := by
  have leaves := n.decideReg_leaves env conn reg
  have handled : (regReq env n conn m).conn =
      (replyReg env (n.decideReg env conn reg).1 m.head.sequence
        (n.decideReg env conn reg).2).conn := by
    rw [regReq, known]
  rw [handled]
  dsimp only [replyReg]
  generalize (n.decideReg env conn reg).1 = answer at leaves
  obtain ⟨code, node, left, events⟩ := answer
  cases leaves with
  | reset refused => exact .inl rfl
  | refused refused =>
      refine .inr (.inl ?_)
      dsimp only at refused ⊢
      rw [fd, refused]
      rfl
  | known accepted connected bound same =>
      refine .inr (.inr ⟨code, accepted, ?_⟩)
      dsimp only at accepted ⊢
      rw [accepted, Bool.and_false]
      exact .known accepted connected bound same
  | bound accepted waiting same process host =>
      refine .inr (.inr ⟨code, accepted, ?_⟩)
      dsimp only at accepted ⊢
      rw [accepted, Bool.and_false]
      exact .bound accepted waiting same process host

/-- What any request leaves of a connection: what the decision left, or that disconnected. -/
theorem regReq_conn :
    ∃ left, ((regReq env n conn m).conn = left ∨ (regReq env n conn m).conn = left.disconnect) ∧
    (left = conn ∨ ∃ reg code, RegLeaves conn reg code left) := by
  have replied : ∀ (answer : RegAnswer) (sequence : BitVec 32) (ups : Nat),
      (replyReg env answer sequence ups).conn = answer.conn ∨
        (replyReg env answer sequence ups).conn = answer.conn.disconnect := by
    intro answer sequence ups
    dsimp only [replyReg]
    split
    · exact .inr rfl
    · exact .inl rfl
  rw [regReq]
  cases m.body.reg with
  | none => exact ⟨conn, replied ⟨.badData, n, conn, []⟩ m.head.sequence 0, .inl rfl⟩
  | some reg => exact ⟨_, replied _ _ _, .inr ⟨reg, _, n.decideReg_leaves env conn reg⟩⟩

/-- The reply to a request answers it. -/
theorem regReq_reply {rsp : Msg} (replied : (regReq env n conn m).done.reply = some rsp) :
    rsp.head.cmd = .nodeRegRsp := by
  have sends : ∀ {calls : HandlerEnv} {answer : RegAnswer} {sequence : BitVec 32},
      (sendRegRsp calls answer sequence).reply = some rsp → rsp.head.cmd = .nodeRegRsp := by
    intro calls answer sequence replied
    rw [sendRegRsp] at replied
    split at replied
    · simp only [Option.ite_none_left_eq_some, Option.some.injEq] at replied
      rw [← replied.2]
      rfl
    · cases replied
  rw [regReq] at replied
  split at replied
  · exact sends replied
  · exact sends replied

end

/-! ### One side -/

/-- What a connection of the handshake is like: an open one has a descriptor, and is bound only once
    it is connected. -/
structure PeerConn.Sane (conn : PeerConn) : Prop where
  fd : conn.takesPush = true → conn.regFd = true
  unbound : conn.state = .handshaking → conn.binding = none
  settled : conn.state ≠ .disconnecting

/-- The connection is connected, and to no other id than that of an endpoint. -/
def PeerConn.Met (conn : PeerConn) (other : Endpoint) : Prop :=
  conn.state = .connected ∧ ∀ ep, conn.binding = some ep → ep.id = other.id

/-- The message asks to register the process of an endpoint. -/
def Msg.Asks (m : Msg) (self : Endpoint) : Prop :=
  ∃ reg, m.body.reg = some reg ∧ reg.busId = self.id ∧ reg.pid = self.pid ∧
    reg.hostname = self.hostname

/-- A request to register is among what was sent. -/
def Requested (items : List StreamItem) : Prop := ∃ m, .msg m ∈ items ∧ m.head.cmd = .nodeRegReq

/-- What one side does, as its own connection and the other side see it. -/
structure Moves (own other : Endpoint) (conn : PeerConn) (item : Option StreamItem)
    (after : PeerConn) (sent : List StreamItem) : Prop where
  active : conn.state ≠ .disconnected
  sane : after.Sane
  asks : ∀ m, .msg m ∈ sent → m.head.cmd = .nodeRegReq → m.Asks own
  closes : .closed ∈ sent → after.state = .disconnected
  closed : item = some .closed → after.state = .disconnected
  ends : after.state = .disconnected → .closed ∈ sent ∨ item = some .closed
  begins : conn.state = .connecting → after.state = .connecting ∨ after.state = .disconnected ∨
    Requested sent
  keeps : conn.Met other → after.state = .disconnected ∨ after.Met other
  answers : ∀ m, item = some (.msg m) → m.head.cmd = .nodeRegReq → after.state = .disconnected ∨
    after.Met other
  binds : ∀ ep, after.binding = some ep → conn.binding = some ep ∨ ep.SameProcess other

section

variable {env : RegEnv} {n : NodeState} {conn after : PeerConn} {m : Msg} {reg : RegData}
  {self other ep : Endpoint} {sent : List StreamItem} {event : HandshakeEvent}
  {item : Option StreamItem}

theorem PeerConn.takesPush_iff : conn.takesPush = true ↔ conn.state = .connected ∨
    conn.state = .handshaking := by
  simp [takesPush]

theorem PeerConn.active_of_takesPush (takes : conn.takesPush = true) :
    conn.state ≠ .disconnected := by
  intro down
  simp [takesPush, down] at takes

theorem PeerConn.Sane.of_disconnected (down : conn.state = .disconnected) : conn.Sane where
  fd takes := by simp [takesPush, down] at takes
  unbound waiting := by simp [down] at waiting
  settled := by simp [down]

/-- A side that closes the connection tells the other one, or was told. -/
theorem Moves.of_down (active : conn.state ≠ .disconnected) (down : after.state = .disconnected)
    (loose : after.binding = none ∨ after.binding = conn.binding)
    (asks : ∀ m, .msg m ∈ sent → m.head.cmd = .nodeRegReq → m.Asks self)
    (ends : .closed ∈ sent ∨ item = some .closed) : Moves self other conn item after sent where
  active := active
  sane := .of_disconnected down
  asks := asks
  closes _ := down
  closed _ := down
  ends _ := ends
  begins _ := .inr (.inl down)
  keeps _ := .inl down
  answers _ _ _ := .inl down
  binds ep bound := by
    rcases loose with none | same
    · rw [none] at bound
      cases bound
    · exact .inl (same ▸ bound)

/-- A side that neither opens, closes nor binds the connection, and takes no request, at most lets
    go of it. -/
theorem Moves.of_same (active : conn.state ≠ .disconnected) (sane : conn.Sane)
    (state : after.state = conn.state) (fd : after.regFd = conn.regFd)
    (loose : after.binding = none ∨ after.binding = conn.binding)
    (quiet : ∀ sending ∈ sent, ∃ m, sending = .msg m ∧ m.head.cmd ≠ .nodeRegReq)
    (taken : ∀ arrived, item = some arrived → ∃ m, arrived = .msg m ∧ m.head.cmd ≠ .nodeRegReq) :
    Moves self other conn item after sent where
  active := active
  sane :=
    { fd := fun takes => by
        rw [PeerConn.takesPush, state] at takes
        exact fd.trans (sane.fd takes)
      unbound := fun waiting => by
        rcases loose with none | same
        · exact none
        · exact same.trans (sane.unbound (state ▸ waiting))
      settled := state ▸ sane.settled }
  asks m sending request := by
    obtain ⟨m', same, other⟩ := quiet _ sending
    cases same
    exact absurd request other
  closes closing := by
    obtain ⟨m, same, -⟩ := quiet _ closing
    cases same
  closed closing := by
    obtain ⟨m, same, -⟩ := taken _ closing
    cases same
  ends down := absurd (state ▸ down) active
  begins waiting := .inl (state ▸ waiting)
  keeps met := by
    refine .inr ⟨state ▸ met.1, fun ep bound => ?_⟩
    rcases loose with none | same
    · rw [none] at bound
      cases bound
    · exact met.2 ep (same ▸ bound)
  answers m arrived request := by
    obtain ⟨m', same, other⟩ := taken _ arrived
    cases same
    exact absurd request other
  binds ep bound := by
    rcases loose with none | same
    · rw [none] at bound
      cases bound
    · exact .inl (same ▸ bound)

/-- The message that registers a node asks for its process. -/
theorem NodeState.regMsg_asks {cmd : ProtocolCmd} {ret : Int} {sequence : BitVec 32}
    (at' : n.tables.self.SameProcess self) : (n.regMsg cmd ret sequence).Asks self :=
  ⟨_, rfl, at'.1, at'.2.1, at'.2.2⟩

/-- A connection that comes to be registers, or is closed at once. -/
theorem PeerConn.opened_moves (env : RegEnv) (named : self.id ≠ 0#64)
    (at' : n.tables.self.SameProcess self) (waiting : conn.state = .connecting) :
    Moves self other conn none (conn.opened.onNewConnection env n).1
      (conn.opened.onNewConnection env n).2 := by
  have active : conn.state ≠ .disconnected := by simp [waiting]
  have registers : n.tables.id ≠ 0#64 := fun zero => named (at'.1.symm.trans zero)
  rw [onNewConnection, if_neg registers]
  dsimp only
  split
  · exact .of_down active rfl (.inl rfl) (fun m sending => by simp at sending)
      (.inl (List.mem_singleton_self _))
  · exact
      { active := active
        sane :=
          { fd := fun _ => rfl
            unbound := fun waiting => by
              dsimp only [opened] at waiting ⊢
              split at waiting
              · rename_i free
                exact Option.isNone_iff_eq_none.mp free
              · cases waiting
            settled := by
              dsimp only [opened]
              split
              · simp
              · simp }
        asks := fun m sending _ => by
          cases List.mem_singleton.mp sending
          exact NodeState.regMsg_asks at'
        closes := fun closing => by simp at closing
        closed := fun closing => by cases closing
        ends := fun down => by
          dsimp only [opened] at down
          split at down
          · cases down
          · cases down
        begins := fun _ => .inr (.inr ⟨_, List.mem_singleton_self _, rfl⟩)
        keeps := fun met => absurd (waiting.symm.trans met.1) (by simp)
        answers := fun m arrived => by cases arrived
        binds := fun ep bound => .inl bound }

theorem PeerConn.disconnect_binding : conn.disconnect.binding = conn.binding := by
  rw [disconnect]
  split
  · rfl
  · rfl

/-- A connection that is accepted is connected to the id that asks. -/
theorem RegLeaves.met (leaves : RegLeaves conn reg code after) (accepted : code.failed = false)
    (sane : conn.Sane) (takes : conn.takesPush = true) (id : reg.busId = other.id)
    (pid : reg.pid = other.pid) (host : reg.hostname = other.hostname) :
    after.Sane ∧ after.Met other ∧ ∀ ep, after.binding = some ep → conn.binding = some ep ∨
      ep.SameProcess other := by
  cases leaves with
  | reset refused => simp [accepted] at refused
  | refused refused => simp [accepted] at refused
  | @known ep _ connected bound same =>
      refine ⟨sane, ⟨connected, fun ep' bound' => ?_⟩, fun _ bound' => .inl bound'⟩
      rw [bound] at bound'
      rw [← Option.some.inj bound', same, id]
  | @bound ep _ waiting same process hostname =>
      have handshaking := (PeerConn.takesPush_iff.mp takes).resolve_left waiting
      have binds : conn.bindTo ep = { conn with binding := some ep, state := .connected } := by
        rw [PeerConn.bindTo, sane.unbound handshaking, handshaking]
        rfl
      have of : ep.SameProcess other := ⟨same.trans id, process.trans pid, hostname.trans host⟩
      rw [binds]
      refine ⟨⟨fun _ => sane.fd takes, fun waiting => (by cases waiting), by simp⟩,
        ⟨rfl, fun ep' bound' => ?_⟩, fun ep' bound' => .inr ?_⟩
      · rw [← Option.some.inj bound']
        exact of.1
      · rw [← Option.some.inj bound']
        exact of

/-- What is sent after a request: the response, and that the connection was closed. -/
theorem PeerConn.request_sent {sending : StreamItem}
    (member : sending ∈ (regReq env n conn m).done.reply.toList.map .msg ++ after.closing) :
    (∃ rsp, sending = .msg rsp ∧ rsp.head.cmd = .nodeRegRsp) ∨ sending = .closed ∧
      after.takesPush = false := by
  rcases List.mem_append.mp member with reply | closes
  · obtain ⟨rsp, replied, same⟩ := List.mem_map.mp reply
    exact .inl ⟨rsp, same.symm, regReq_reply (Option.mem_toList.mp replied)⟩
  · rw [closing] at closes
    split at closes
    · cases closes
    · rename_i shut
      exact .inr ⟨List.mem_singleton.mp closes, Bool.not_eq_true _ ▸ shut⟩

/-- A request is answered, and the connection is closed then, or connected to the id that asks. -/
theorem PeerConn.request_moves (sane : conn.Sane) (takes : conn.takesPush = true)
    (request : m.head.cmd = .nodeRegReq) (genuine : m.Asks other) :
    Moves self other conn (some (.msg m)) (conn.onMessage env n m).1
      (conn.onMessage env n m).2 := by
  obtain ⟨reg, known, id, pid, host⟩ := genuine
  have active := active_of_takesPush takes
  have handled : conn.onMessage env n m =
      ((regReq env n conn m).conn, (regReq env n conn m).done.reply.toList.map .msg ++
        (regReq env n conn m).conn.closing) := by
    rw [onMessage, request]
  rw [handled]
  have asks : ∀ rsp, .msg rsp ∈ (regReq env n conn m).done.reply.toList.map StreamItem.msg ++
      (regReq env n conn m).conn.closing → rsp.head.cmd = .nodeRegReq → rsp.Asks self := by
    intro rsp sending isRequest
    rcases request_sent sending with ⟨rsp', same, response⟩ | ⟨same, -⟩
    · cases same
      rw [response] at isRequest
      cases isRequest
    · cases same
  have tells : (regReq env n conn m).conn.state = .disconnected →
      .closed ∈ (regReq env n conn m).done.reply.toList.map StreamItem.msg ++
        (regReq env n conn m).conn.closing := by
    intro down
    have shut : (regReq env n conn m).conn.takesPush = false := by simp [takesPush, down]
    simp [closing, shut]
  rcases regReq_leaves env n (sane.fd takes) known with reset | closed | ⟨code, accepted, leaves⟩
  · have down : (regReq env n conn m).conn.state = .disconnected := by rw [reset, PeerConn.reset]
    exact .of_down active down (.inl (by rw [reset, PeerConn.reset])) asks (.inl (tells down))
  · have down : (regReq env n conn m).conn.state = .disconnected := by
      rw [closed, disconnect_state takes]
    exact .of_down active down (.inr (by rw [closed, disconnect_binding])) asks (.inl (tells down))
  · obtain ⟨sane', met, binds⟩ := leaves.met accepted sane takes id pid host
    exact
      { active := active
        sane := sane'
        asks := asks
        closes := fun sending => by
          rcases request_sent sending with ⟨rsp, same, -⟩ | ⟨-, shut⟩
          · cases same
          · simp [takesPush, met.1] at shut
        closed := fun closing => by cases closing
        ends := fun down => absurd (met.1.symm.trans down) (by simp)
        begins := fun waiting => by simp [takesPush, waiting] at takes
        keeps := fun _ => .inr met
        answers := fun _ _ _ => .inr met
        binds := binds }

/-- Any message: a request is answered, a refusal closes the connection, and others leave it. -/
theorem PeerConn.onMessage_moves (env : RegEnv) (n : NodeState) (sane : conn.Sane)
    (takes : conn.takesPush = true) (genuine : m.head.cmd = .nodeRegReq → m.Asks other) :
    Moves self other conn (some (.msg m)) (conn.onMessage env n m).1
      (conn.onMessage env n m).2 := by
  have active := active_of_takesPush takes
  by_cases request : m.head.cmd = .nodeRegReq
  · exact request_moves sane takes request (genuine request)
  have kept : Moves self other conn (some (.msg m)) conn [] := by
    refine .of_same active sane rfl rfl (.inr rfl) (fun _ sending => by cases sending)
      fun arrived same => ?_
    exact ⟨m, (Option.some.inj same).symm, request⟩
  rw [onMessage]
  split
  · rename_i isRequest
    exact absurd isRequest request
  · split
    · have shut : conn.disconnect.takesPush = false := by simp [takesPush, disconnect_state takes]
      have told : conn.disconnect.closing = [.closed] := by
        rw [closing, if_neg (by simp [shut])]
      rw [told]
      refine .of_down active (disconnect_state takes) (.inr disconnect_binding)
        (fun m sending => ?_) ?_
      · simp at sending
      · exact .inl (List.mem_singleton_self _)
    · exact kept
  · exact kept

/-- What one side does on an event. -/
theorem PeerConn.handle_moves (sane : conn.Sane) (named : self.id ≠ 0#64) (at' : event.At self)
    (genuine : ∀ m, item = some (.msg m) → m.head.cmd = .nodeRegReq → m.Asks other)
    (handled : conn.handle event item = some (after, sent)) :
    Moves self other conn item after sent := by
  cases event with
  | opened n env =>
      cases item with
      | none =>
          obtain ⟨waiting, same⟩ := Option.ite_none_right_eq_some.mp handled
          have moves : Moves self other conn none _ _ := opened_moves env named at' waiting
          rw [Option.some.inj same] at moves
          exact moves
      | some _ => cases handled
  | received n env =>
      cases item with
      | none => cases handled
      | some arrived =>
          cases arrived with
          | msg m =>
              obtain ⟨takes, same⟩ := Option.ite_none_right_eq_some.mp handled
              have moves : Moves self other conn (some (.msg m)) _ _ :=
                onMessage_moves env n sane takes (genuine m rfl)
              rw [Option.some.inj same] at moves
              exact moves
          | closed =>
              obtain ⟨active, same⟩ := Option.ite_none_left_eq_some.mp handled
              cases Option.some.inj same
              exact .of_down active rfl (.inl rfl) (fun m sending => by cases sending) (.inr rfl)
  | reset =>
      cases item with
      | none =>
          obtain ⟨active, same⟩ := Option.ite_none_left_eq_some.mp handled
          cases Option.some.inj same
          exact .of_down active rfl (.inl rfl) (fun m sending => by simp at sending)
            (.inl (List.mem_singleton_self _))
      | some _ => cases handled
  | released =>
      cases item with
      | none =>
          obtain ⟨active, same⟩ := Option.ite_none_left_eq_some.mp handled
          cases Option.some.inj same
          exact .of_same active sane rfl rfl (.inl rfl) (fun _ sending => by cases sending)
            fun _ same => by cases same
      | some _ => cases handled
  | sent m =>
      cases item with
      | none =>
          obtain ⟨passes, same⟩ := Option.ite_none_right_eq_some.mp handled
          cases Option.some.inj same
          obtain ⟨takes, unrelated⟩ := Bool.and_eq_true_iff.mp passes
          refine .of_same (active_of_takesPush takes) sane rfl rfl (.inr rfl)
            (fun sending member => ?_)
            fun _ same => by cases same
          refine ⟨m, List.mem_singleton.mp member, fun request => ?_⟩
          simp [Msg.isReg, request] at unrelated
      | some _ => cases handled

end

/-! ### Bound connections -/

/-- A connection that is connected has an endpoint. -/
def PeerConn.Kept (conn : PeerConn) : Prop := conn.state = .connected → conn.binding.isSome

section

variable {env : RegEnv} {n : NodeState} {conn after : PeerConn} {m : Msg} {event : HandshakeEvent}
  {item : Option StreamItem} {sent : List StreamItem}

theorem PeerConn.Kept.disconnect (kept : conn.Kept) : conn.disconnect.Kept := by
  rw [PeerConn.disconnect]
  split
  · exact kept
  · exact fun up => by cases up

theorem PeerConn.reset_kept : conn.reset.Kept := fun up => by cases up

/-- A request that is accepted binds the connection. -/
theorem regReq_kept (kept : conn.Kept) : (regReq env n conn m).conn.Kept := by
  obtain ⟨left, after, decided⟩ := @regReq_conn env n conn m
  have bound : left.Kept := by
    rcases decided with rfl | ⟨reg, code, leaves⟩
    · exact kept
    · cases leaves with
      | reset _ => exact PeerConn.reset_kept
      | refused _ => exact kept
      | known _ _ _ _ => exact kept
      | @bound ep _ _ _ _ _ =>
          rw [PeerConn.bindTo]
          split
          · exact kept
          · exact fun _ => rfl
  rcases after with same | closed
  · rwa [same]
  · rw [closed]
    exact bound.disconnect

theorem PeerConn.Kept.onMessage (kept : conn.Kept) (env : RegEnv) (n : NodeState) (m : Msg) :
    (conn.onMessage env n m).1.Kept := by
  rw [PeerConn.onMessage]
  split
  · exact regReq_kept kept
  · split
    · exact kept.disconnect
    · exact kept
  · exact kept

theorem PeerConn.opened_kept : (conn.opened.onNewConnection env n).1.Kept := by
  have opens : conn.opened.Kept := by
    intro up
    dsimp only [opened] at up ⊢
    split at up
    · cases up
    · rename_i bound
      rwa [← Option.isSome_eq_false_iff, Bool.not_eq_false] at bound
  rw [onNewConnection]
  split
  · exact opens
  · dsimp only
    split
    · exact reset_kept
    · exact opens

/-- Only an endpoint that lets go of it leaves a connection connected and unbound. -/
theorem PeerConn.handle_kept (kept : conn.Kept) (held : event ≠ .released)
    (handled : conn.handle event item = some (after, sent)) : after.Kept := by
  cases event with
  | opened n env =>
      cases item with
      | none =>
          obtain ⟨-, same⟩ := Option.ite_none_right_eq_some.mp handled
          have opened : (conn.opened.onNewConnection env n).1.Kept := opened_kept
          rw [Option.some.inj same] at opened
          exact opened
      | some _ => cases handled
  | received n env =>
      cases item with
      | none => cases handled
      | some arrived =>
          cases arrived with
          | msg m =>
              obtain ⟨-, same⟩ := Option.ite_none_right_eq_some.mp handled
              have answered := kept.onMessage env n m
              rw [Option.some.inj same] at answered
              exact answered
          | closed =>
              obtain ⟨-, same⟩ := Option.ite_none_left_eq_some.mp handled
              cases Option.some.inj same
              exact reset_kept
  | reset =>
      cases item with
      | none =>
          obtain ⟨-, same⟩ := Option.ite_none_left_eq_some.mp handled
          cases Option.some.inj same
          exact reset_kept
      | some _ => cases handled
  | released => exact absurd rfl held
  | sent m =>
      cases item with
      | none =>
          obtain ⟨-, same⟩ := Option.ite_none_right_eq_some.mp handled
          cases Option.some.inj same
          exact kept
      | some _ => cases handled

end

/-! ### Both sides -/

/-- What relates a connection, what is on its way to it and the connection on the other side: the
    other side is closed only if the end of the stream is on its way or was seen, and once it was
    open its request is on its way or was answered. -/
structure Greeting (selves : Peer → Endpoint) (prebound : Peer → Option Endpoint) (s : Peer)
    (mine : PeerConn) (incoming : List StreamItem) (theirs : PeerConn) : Prop where
  sane : mine.Sane
  genuine : ∀ m, .msg m ∈ incoming → m.head.cmd = .nodeRegReq → m.Asks (selves s.other)
  closed : .closed ∈ incoming → theirs.state = .disconnected
  ends : theirs.state = .disconnected → mine.state = .disconnected ∨ .closed ∈ incoming
  greeted : theirs.state ≠ .connecting → mine.state = .disconnected ∨ .closed ∈ incoming ∨
    Requested incoming ∨ mine.Met (selves s.other)
  binds : ∀ ep, mine.binding = some ep → prebound s = some ep ∨ ep.SameProcess (selves s.other)

section

variable {selves : Peer → Endpoint} {prebound : Peer → Option Endpoint} {s : Peer}
  {mine mine' theirs : PeerConn} {item : Option StreamItem} {rest back sent : List StreamItem}

/-- The side that moves. -/
theorem Greeting.moved (greeting : Greeting selves prebound s mine (item.toList ++ rest) theirs)
    (moves : Moves (selves s) (selves s.other) mine item mine' sent) :
    Greeting selves prebound s mine' rest theirs where
  sane := moves.sane
  genuine m member := greeting.genuine m (List.mem_append_right _ member)
  closed member := greeting.closed (List.mem_append_right _ member)
  ends down := by
    rcases greeting.ends down with mine | member
    · exact absurd mine moves.active
    · rcases List.mem_append.mp member with taken | left
      · exact .inl (moves.closed (Option.mem_toList.mp taken))
      · exact .inr left
  greeted opened := by
    rcases greeting.greeted opened with mine | member | ⟨m, member, request⟩ | met
    · exact absurd mine moves.active
    · rcases List.mem_append.mp member with taken | left
      · exact .inl (moves.closed (Option.mem_toList.mp taken))
      · exact .inr (.inl left)
    · rcases List.mem_append.mp member with taken | left
      · rcases moves.answers m (Option.mem_toList.mp taken) request with down | met
        · exact .inl down
        · exact .inr (.inr (.inr met))
      · exact .inr (.inr (.inl ⟨m, left, request⟩))
    · rcases moves.keeps met with down | met'
      · exact .inl down
      · exact .inr (.inr (.inr met'))
  binds ep bound := by
    rcases moves.binds ep bound with before | process
    · exact greeting.binds ep before
    · exact .inr process

/-- The side that does not. -/
theorem Greeting.met_by (greeting : Greeting selves prebound s.other theirs back mine)
    (own : Greeting selves prebound s mine (item.toList ++ rest) theirs)
    (moves : Moves (selves s) (selves s.other) mine item mine' sent) :
    Greeting selves prebound s.other theirs (back ++ sent) mine' where
  sane := greeting.sane
  genuine m member request := by
    rcases List.mem_append.mp member with before | now
    · exact greeting.genuine m before request
    · rw [Peer.other_other]
      exact moves.asks m now request
  closed member := by
    rcases List.mem_append.mp member with before | now
    · exact absurd (greeting.closed before) moves.active
    · exact moves.closes now
  ends down := by
    rcases moves.ends down with sending | taken
    · exact .inr (List.mem_append_right _ sending)
    · exact .inl (own.closed (List.mem_append_left _ (Option.mem_toList.mpr taken)))
  greeted opened := by
    by_cases waiting : mine.state = .connecting
    · rcases moves.begins waiting with still | down | ⟨m, sending, request⟩
      · exact absurd still opened
      · rcases moves.ends down with sending | taken
        · exact .inr (.inl (List.mem_append_right _ sending))
        · exact .inl (own.closed (List.mem_append_left _ (Option.mem_toList.mpr taken)))
      · exact .inr (.inr (.inl ⟨m, List.mem_append_right _ sending, request⟩))
    · rcases greeting.greeted waiting with down | member | ⟨m, member, request⟩ | met
      · exact .inl down
      · exact .inr (.inl (List.mem_append_left _ member))
      · exact .inr (.inr (.inl ⟨m, List.mem_append_left _ member, request⟩))
      · exact .inr (.inr (.inr met))
  binds := greeting.binds

/-- A message is lost only when the end of the stream is still to come. -/
theorem Greeting.lost {gone : StreamItem}
    (greeting : Greeting selves prebound s mine (gone :: rest) theirs)
    (down : theirs.state = .disconnected) (message : gone ≠ .closed) :
    Greeting selves prebound s mine rest theirs :=
  have ends : mine.state = .disconnected ∨ .closed ∈ rest := by
    rcases greeting.ends down with mine | member
    · exact .inl mine
    · exact .inr ((List.mem_cons.mp member).resolve_left message.symm)
  { sane := greeting.sane
    genuine := fun m member => greeting.genuine m (List.mem_cons_of_mem _ member)
    closed := fun _ => down
    ends := fun _ => ends
    greeted := fun _ => ends.elim .inl fun member => .inr (.inl member)
    binds := greeting.binds }

variable {start d : Duplex PeerConn StreamItem}
  {made :
    List (Transition (Duplex PeerConn StreamItem) (Peer × Occurrence StreamItem HandshakeEvent))}

theorem HandshakeStart.greeting (begins : HandshakeStart start) (s : Peer) :
    Greeting selves (fun s => (start.party s).binding) s (start.party s) (start.inbox s)
      (start.party s.other) where
  sane :=
    { fd := fun takes => by simp [PeerConn.takesPush, begins.connecting] at takes
      unbound := fun waiting => by simp [begins.connecting] at waiting
      settled := by simp [begins.connecting] }
  genuine m member := by simp [begins.inbox] at member
  closed member := by simp [begins.inbox] at member
  ends down := by simp [begins.connecting] at down
  greeted opened := absurd (begins.connecting _) opened
  binds _ bound := .inl bound

/-- In every state of a run. -/
theorem handshake_greeting (begins : HandshakeStart start) (named : ∀ s, (selves s).id ≠ 0#64)
    (run : Run (DuplexStep (handshake selves)) start made d) :
    ∀ s, Greeting selves (fun s => (start.party s).binding) s (d.party s) (d.inbox s)
      (d.party s.other) := by
  refine run.duplex_invariant begins.greeting ?_ ?_
  · intro s event mine m mine' rest back sent theirs ⟨at', handled⟩ own other
    have moves : Moves (selves s) (selves s.other) mine m mine' sent :=
      PeerConn.handle_moves own.sane (named s) at'
        (fun m' arrived => own.genuine m' (by simp [arrived])) handled
    exact ⟨own.moved moves, other.met_by own moves⟩
  · intro s mine m rest theirs ⟨down, message⟩ greeting
    exact greeting.lost down message

end

/-! ### The messages of the registration -/

/-- How many messages of the registration a side that is yet to register can lead to. -/
def PeerConn.toRegister (conn : PeerConn) : Nat := if conn.state = .connecting then 2 else 0

/-- How many messages of the registration what is on its way can lead to, with itself. -/
def StreamItem.toRegister : StreamItem → Nat
  | .msg m =>
      match m.head.cmd with
      | .nodeRegReq => 2
      | .nodeRegRsp => 1
      | _ => 0
  | .closed => 0

section

variable {env : RegEnv} {n : NodeState} {conn after : PeerConn} {m : Msg} {reg : RegData}
  {event : HandshakeEvent} {item : Option StreamItem} {sent : List StreamItem}

theorem PeerConn.toRegister_eq_zero (begun : conn.state ≠ .connecting) : conn.toRegister = 0 := by
  rw [toRegister, if_neg begun]

theorem PeerConn.begun_of_takesPush (takes : conn.takesPush = true) : conn.state ≠ .connecting := by
  intro waiting
  simp [takesPush, waiting] at takes

theorem PeerConn.disconnect_begun (begun : conn.state ≠ .connecting) :
    conn.disconnect.state ≠ .connecting := by
  rw [disconnect]
  split
  · exact begun
  · simp

/-- A connection does not start over with a request. -/
theorem regReq_begun (takes : conn.takesPush = true) :
    (regReq env n conn m).conn.state ≠ .connecting := by
  obtain ⟨left, after, decided⟩ := @regReq_conn env n conn m
  have begun : left.state ≠ .connecting := by
    rcases decided with rfl | ⟨reg, code, leaves⟩
    · exact PeerConn.begun_of_takesPush takes
    · cases leaves with
      | reset _ => simp [PeerConn.reset]
      | refused _ => exact PeerConn.begun_of_takesPush takes
      | known _ _ _ _ => exact PeerConn.begun_of_takesPush takes
      | bound _ _ _ _ _ => exact PeerConn.begun_of_takesPush (PeerConn.bindTo_takesPush takes)
  rcases after with same | closed
  · rwa [same]
  · rw [closed]
    exact PeerConn.disconnect_begun begun

theorem PeerConn.closing_toRegister : (conn.closing.map StreamItem.toRegister).sum = 0 := by
  rw [closing]
  split
  · rfl
  · rfl

theorem StreamItem.toRegister_of_not_isReg (unrelated : m.isReg = false) :
    (StreamItem.msg m).toRegister = 0 := by
  obtain ⟨request, response⟩ := Bool.or_eq_false_iff.mp unrelated
  rw [toRegister]
  split
  · rename_i isRequest
    simp [isRequest] at request
  · rename_i isResponse
    simp [isResponse] at response
  · rfl

/-- A request leads to one response at most. -/
theorem regReq_reply_toRegister :
    (((regReq env n conn m).done.reply.toList.map StreamItem.msg).map StreamItem.toRegister).sum ≤
      1 := by
  cases replied : (regReq env n conn m).done.reply with
  | none => exact Nat.zero_le _
  | some rsp =>
      have response := regReq_reply replied
      simp [StreamItem.toRegister, response]

/-- A message of the registration leads to less than itself. -/
theorem PeerConn.onMessage_pays (env : RegEnv) (n : NodeState) (m : Msg)
    (takes : conn.takesPush = true) :
    (conn.onMessage env n m).1.toRegister +
      ((conn.onMessage env n m).2.map StreamItem.toRegister).sum +
      ((some (StreamItem.msg m)).filter StreamItem.isReg).toList.length ≤
        (StreamItem.msg m).toRegister := by
  have begun := begun_of_takesPush takes
  cases kind : m.isReg with
  | true =>
      have counted : ((some (StreamItem.msg m)).filter StreamItem.isReg).toList.length = 1 := by
        rw [Option.filter_some, StreamItem.isReg, if_pos kind]
        rfl
      rw [counted]
      rcases Bool.or_eq_true_iff.mp kind with request | response
      · have request := of_decide_eq_true request
        have once :
            ((regReq env n conn m).done.reply.toList.map
              (StreamItem.toRegister ∘ StreamItem.msg)).sum ≤ 1 := by
          have replied := @regReq_reply_toRegister env n conn m
          rwa [List.map_map] at replied
        simp only [onMessage, request, StreamItem.toRegister,
          toRegister_eq_zero (regReq_begun takes), List.map_append, List.map_map, List.sum_append,
          closing_toRegister]
        omega
      · have response := of_decide_eq_true response
        simp only [onMessage, response, StreamItem.toRegister]
        split
        · rw [toRegister_eq_zero (disconnect_begun begun), closing_toRegister]
        · rw [toRegister_eq_zero begun]
          rfl
  | false =>
      have uncounted : ((some (StreamItem.msg m)).filter StreamItem.isReg).toList.length = 0 := by
        rw [Option.filter_some, StreamItem.isReg, if_neg (by simp [kind])]
        rfl
      obtain ⟨request, response⟩ := Bool.or_eq_false_iff.mp kind
      rw [uncounted, onMessage]
      split
      · rename_i isRequest
        simp [isRequest] at request
      · rename_i isResponse
        simp [isResponse] at response
      · rw [toRegister_eq_zero begun]
        exact Nat.zero_le _

/-- A side registers once. -/
theorem PeerConn.onNewConnection_pays :
    (conn.opened.onNewConnection env n).1.toRegister +
      ((conn.opened.onNewConnection env n).2.map StreamItem.toRegister).sum ≤ 2 := by
  have opens : conn.opened.toRegister = 0 := by
    refine toRegister_eq_zero ?_
    dsimp only [opened]
    split
    · simp
    · simp
  rw [onNewConnection]
  split
  · rw [opens]
    exact Nat.zero_le _
  · dsimp only
    split
    · exact Nat.zero_le _
    · rw [opens]
      exact Nat.le_refl _

/-- An event leads to no more messages of the registration than it was counted for. -/
theorem PeerConn.handle_pays (handled : conn.handle event item = some (after, sent)) :
    after.toRegister + (sent.map StreamItem.toRegister).sum +
      (item.filter StreamItem.isReg).toList.length ≤
      conn.toRegister + (item.toList.map StreamItem.toRegister).sum := by
  cases event with
  | opened n env =>
      cases item with
      | none =>
          obtain ⟨waiting, same⟩ := Option.ite_none_right_eq_some.mp handled
          have before : conn.toRegister = 2 := by rw [toRegister, if_pos waiting]
          have pays : (conn.opened.onNewConnection env n).1.toRegister + _ ≤ 2 :=
            onNewConnection_pays
          rw [Option.some.inj same] at pays
          rw [before]
          exact pays
      | some _ => cases handled
  | received n env =>
      cases item with
      | none => cases handled
      | some arrived =>
          cases arrived with
          | msg m =>
              obtain ⟨takes, same⟩ := Option.ite_none_right_eq_some.mp handled
              have pays := onMessage_pays env n m takes
              rw [Option.some.inj same] at pays
              simpa using Nat.le_add_left_of_le pays
          | closed =>
              obtain ⟨active, same⟩ := Option.ite_none_left_eq_some.mp handled
              cases Option.some.inj same
              exact Nat.zero_le _
  | reset =>
      cases item with
      | none =>
          obtain ⟨active, same⟩ := Option.ite_none_left_eq_some.mp handled
          cases Option.some.inj same
          exact Nat.zero_le _
      | some _ => cases handled
  | released =>
      cases item with
      | none =>
          obtain ⟨active, same⟩ := Option.ite_none_left_eq_some.mp handled
          cases Option.some.inj same
          exact Nat.le_refl _
      | some _ => cases handled
  | sent m =>
      cases item with
      | none =>
          obtain ⟨passes, same⟩ := Option.ite_none_right_eq_some.mp handled
          cases Option.some.inj same
          obtain ⟨takes, unrelated⟩ := Bool.and_eq_true_iff.mp passes
          have weightless : (StreamItem.msg m).toRegister = 0 :=
            StreamItem.toRegister_of_not_isReg (by simpa using unrelated)
          simp [weightless]
      | some _ => cases handled

end

/-! ### The agreement -/

/-- Nothing is to come any more: both sides were opened, and no message is on its way to a side that
    is not closed. -/
structure Settled (d : Duplex PeerConn StreamItem) : Prop where
  opened : ∀ s, (d.party s).state ≠ .connecting
  inbox : ∀ s, (d.party s).state ≠ .disconnected → d.inbox s = []

section

variable {selves : Peer → Endpoint} {start d : Duplex PeerConn StreamItem}
  {made :
    List (Transition (Duplex PeerConn StreamItem) (Peer × Occurrence StreamItem HandshakeEvent))}

/-- A side whose connection no endpoint let go of has it bound once it is connected. -/
theorem handshake_kept {s : Peer} (begins : HandshakeStart start)
    (run : Run (DuplexStep (handshake selves)) start made d)
    (held : ∀ t ∈ made, t.label ≠ (s, .acted .released)) : (d.party s).Kept := by
  let inv (d : Duplex PeerConn StreamItem) : Prop := (d.party s).Kept
  have first : inv start := fun up => by
    rw [begins.connecting] at up
    cases up
  refine run.invariant first (fun t (kept : (t.pre.party s).Kept) taken held => ?_) held
  change (t.post.party s).Kept
  rcases taken.party s with same | ⟨event, sent, label, acted⟩ | ⟨event, m, sent, label, acted⟩
  · rwa [same]
  · exact PeerConn.handle_kept kept (fun released => held (by rw [label, released])) acted.2
  · refine PeerConn.handle_kept kept (fun released => ?_) acted.2
    have handled := acted.2
    rw [released] at handled
    cases handled

/-- A side that is not closed when all is settled is connected to no other id than that of the other
    one. -/
theorem Greeting.agreed {prebound : Peer → Option Endpoint} {s : Peer} (settled : Settled d)
    (greeting : Greeting selves prebound s (d.party s) (d.inbox s) (d.party s.other))
    (active : (d.party s).state ≠ .disconnected) :
    (d.party s.other).state ≠ .disconnected ∧ (d.party s).Met (selves s.other) := by
  have empty := settled.inbox s active
  have openEnd : (d.party s.other).state ≠ .disconnected := by
    intro down
    rcases greeting.ends down with mine | member
    · exact active mine
    · simp [empty] at member
  refine ⟨openEnd, ?_⟩
  rcases greeting.greeted (settled.opened s.other) with mine | member | ⟨m, member, -⟩ | met
  · exact absurd mine active
  · simp [empty] at member
  · simp [empty] at member
  · exact met

/-- When all is settled, both sides are closed, or both are connected to the other one. -/
theorem agree_of_greeting {prebound : Peer → Option Endpoint}
    (greeting : ∀ s, Greeting selves prebound s (d.party s) (d.inbox s) (d.party s.other))
    (settled : Settled d) : (∀ s, (d.party s).state = .disconnected) ∨
      ∀ s, (d.party s).Met (selves s.other) := by
  by_cases down : (d.party .left).state = .disconnected
  · by_cases down' : (d.party .right).state = .disconnected
    · refine .inl fun s => ?_
      cases s with
      | left => exact down
      | right => exact down'
    · exact absurd down ((greeting .right).agreed settled down').1
  · obtain ⟨down', agreed⟩ := (greeting .left).agreed settled down
    refine .inr fun s => ?_
    cases s with
    | left => exact agreed
    | right => exact ((greeting .right).agreed settled down').2

/-- A connection that has met the other side is bound to its id, if it is bound. -/
theorem PeerConn.Met.bound {conn : PeerConn} {other : Endpoint} (met : conn.Met other)
    (kept : conn.Kept) : ∃ ep, conn.binding = some ep ∧ ep.id = other.id := by
  obtain ⟨ep, bound⟩ := Option.isSome_iff_exists.mp (kept met.1)
  exact ⟨ep, bound, met.2 ep bound⟩

/-- Two nodes that register over a stream connection, whatever happens meanwhile: a connection is
    bound to what it was bound to before, or to the process on its other side; when all is settled,
    both sides are closed, or both are connected and each is bound to the id of the other, or to
    nothing if its endpoint let go of it; and no more than four messages of the registration are
    taken. -/
theorem handshake_agrees (begins : HandshakeStart start) (named : ∀ s, (selves s).id ≠ 0#64)
    (run : Run (DuplexStep (handshake selves)) start made d) :
    (∀ s ep, (d.party s).binding = some ep →
        (start.party s).binding = some ep ∨ ep.SameProcess (selves s.other)) ∧
      (Settled d →
        (∀ s, (d.party s).state = .disconnected) ∨
          ∀ s, (d.party s).Met (selves s.other) ∧
            ((∀ t ∈ made, t.label ≠ (s, .acted .released)) →
              ∃ ep, (d.party s).binding = some ep ∧ ep.id = (selves s.other).id)) ∧
      made.countP (takes StreamItem.isReg) ≤ 4 := by
  have greeting := handshake_greeting begins named run
  refine ⟨fun s => (greeting s).binds, fun settled => ?_, ?_⟩
  · refine (agree_of_greeting greeting settled).imp_right fun met s => ⟨met s, fun held => ?_⟩
    exact (met s).bound (handshake_kept begins run held)
  · have paid : made.countP (takes StreamItem.isReg) +
        d.weight PeerConn.toRegister StreamItem.toRegister ≤
        start.weight PeerConn.toRegister StreamItem.toRegister :=
      run.takes_le fun s event mine m mine' sent acted => PeerConn.handle_pays acted.2
    have all : start.weight PeerConn.toRegister StreamItem.toRegister = 4 := by
      simp [Duplex.weight, PeerConn.toRegister, begins.connecting, begins.inbox]
    omega

end

/-- Two nodes next to each other. -/
def greeter : Peer → Endpoint
  | .left =>
      { id := 0x10001#64
        childrenMask := 16
        globalRouter := false
        listen := []
        pid := 1#32
        hostname := "host" }
  | .right =>
      { id := 0x20001#64
        childrenMask := 16
        globalRouter := false
        listen := []
        pid := 2#32
        hostname := "host" }

/-- A node that knows no other. -/
def NodeState.alone (ep : Endpoint) : NodeState :=
  { NodeState.connecting with
    tables :=
      { NodeState.connecting.tables with
        self := ep
        father := none
        brother := .empty
        children := .empty } }

/-- Both sides of a connection before it is opened. -/
def greetingStart : Duplex PeerConn StreamItem where
  party _ :=
    { state := .connecting
      binding := none
      regFd := false
      accessShareHost := false
      address := "ipv4://127.0.0.1:16387" }
  inbox _ := []

/-- Both nodes register, answer the request of the other and see its response, and then they are
    connected. -/
theorem handshake_agrees_greeting :
    ∃ made d, Run (DuplexStep (handshake greeter)) greetingStart made d ∧ Settled d ∧
      made.countP (takes StreamItem.isReg) = 4 ∧
      ∀ s, (d.party s).state = .connected ∧ ∃ ep, (d.party s).binding = some ep ∧
        ep.id = (greeter s.other).id := by
  let opens (s : Peer) : HandshakeEvent := .opened (.alone (greeter s)) .reachable
  let receives (s : Peer) : HandshakeEvent := .received (.alone (greeter s)) .reachable
  have begins : Run (DuplexStep (handshake greeter)) greetingStart [] greetingStart := .refl
  have opened :=
    (begins.acting .left (opens .left) ⟨⟨rfl, rfl, rfl⟩, rfl⟩).acting .right (opens .right)
    ⟨⟨rfl, rfl, rfl⟩, rfl⟩
  have answered :=
    (opened.taking .right (receives .right) rfl ⟨⟨rfl, rfl, rfl⟩, rfl⟩).taking .left
      (receives .left) rfl
    ⟨⟨rfl, rfl, rfl⟩, rfl⟩
  have run :=
    (answered.taking .right (receives .right) rfl ⟨⟨rfl, rfl, rfl⟩, rfl⟩).taking .left
      (receives .left) rfl
    ⟨⟨rfl, rfl, rfl⟩, rfl⟩
  obtain ⟨made, d, run, settled, taken, connected, held⟩ : ∃ made d,
      Run (DuplexStep (handshake greeter)) greetingStart made d ∧ Settled d ∧
        made.countP (takes StreamItem.isReg) = 4 ∧ (d.party .left).state = .connected ∧
        ∀ s, ∀ t ∈ made, t.label ≠ (s, .acted .released) := by
    refine ⟨_, _, run, ⟨fun s => ?_, fun s _ => ?_⟩, rfl, rfl, by simp [opens]⟩
    · cases s with
      | left => exact ConnState.noConfusion
      | right => exact ConnState.noConfusion
    · cases s with
      | left => rfl
      | right => rfl
  have named : ∀ s, (greeter s).id ≠ 0#64 := by
    intro s
    cases s with
    | left => decide
    | right => decide
  refine ⟨made, d, run, settled, taken, ?_⟩
  have agrees := handshake_agrees ⟨fun _ => rfl, fun _ => rfl⟩ named run
  rcases agrees.2.1 settled with down | met
  · exact absurd (connected.symm.trans (down .left)) (by simp)
  · exact fun s => ⟨(met s).1.1, (met s).2 (held s)⟩

end LibAtbus.Node
