/-
Module: LibAtbus.Proofs.CallbackSafety
Layer: Proofs
Purpose: Which events of the stream channel the callbacks of a node survive. What a listen or a
  connect reports as a success has a connection; an accept that failed has none, which its callback
  does not look at. A read follows a missing connection only through a message that the node sends
  to itself, with the debug output on.
Trusted boundary: none
Main exports: StreamEvent.Safe, StreamSource.Harmless, StreamReport.Exact,
  iostreamOnRecvCb_nullConnection_iff, streamSource_safe_iff, failed_accept_follows_null
-/
import LibAtbus.Node.StreamCallbacks
import LibAtbus.Proofs.PayloadReports

namespace LibAtbus.Channel

/-! ### What the channel reports -/

/-- A success is reported with the connection, and a failure without. -/
def StreamReport.Exact (report : StreamReport) : Prop := report.errcode.failed = report.conn.isNone

theorem listenOn_exact {bindFailed listenFailed : ErrorType} {uv : UvOutcome} :
    ∀ report ∈ (listenOn bindFailed listenFailed uv).reports, report.Exact := by
  intro report member
  rw [listenOn] at member
  split at member
  · cases member
  · split at member
    · cases member
    · split at member
      · cases member
      · rw [List.mem_singleton.mp member]
        rfl

theorem resolve_silent {op : StreamOp} {addr : ChannelAddress} {uv : UvOutcome} :
    (resolve op addr uv).reports = [] := by
  rw [resolve]
  split <;> rfl

/-- A connect reports nothing before it returns. -/
theorem ioStreamConnect_silent {channel : Option StreamChannel} {addr : ChannelAddress}
    {uv : UvOutcome} : (ioStreamConnect channel addr uv).reports = [] := by
  rw [ioStreamConnect]
  split
  · rfl
  · split
    · split <;> rfl
    · split
      · rfl
      · split
        · exact resolve_silent
        · rfl

theorem call_exact {op : StreamOp} {channel : Option StreamChannel} {addr : ChannelAddress}
    {uv : UvOutcome} :
    ∀ report ∈ (op.call channel addr uv).reports, report.Exact := by
  cases op with
  | connect =>
      intro report member
      rw [StreamOp.call, ioStreamConnect_silent] at member
      cases member
  | listen =>
      intro report member
      rw [StreamOp.call, ioStreamListen] at member
      split at member
      · cases member
      · split at member
        · exact listenOn_exact report member
        · split at member
          · exact listenOn_exact report member
          · split at member
            · rw [resolve_silent] at member
              cases member
            · cases member

theorem allConnected_exact {channel : StreamChannel} {pipe : Bool} {status : Int} {uv : UvOutcome} :
    (ioStreamAllConnectedCb channel pipe status uv).Exact := by
  rw [ioStreamAllConnectedCb]
  split
  · cases pipe <;> rfl
  · split
    · rfl
    · split <;> rfl

theorem continued_exact {op : StreamOp} {channel : Option StreamChannel} {addr : ChannelAddress}
    {uv : UvOutcome} :
    let setup := op.call channel addr uv
    ∀ report ∈ (if setup.res = .success then setup
      else { setup with reports := setup.reports ++ [⟨none, .dnsGetaddrFailed⟩] } :
        StreamSetup).reports,
      report.Exact := by
  intro setup report member
  split at member
  · exact call_exact report member
  · rcases List.mem_append.mp member with made | added
    · exact call_exact report made
    · rw [List.mem_singleton.mp added]
      rfl

theorem dnsCb_exact {op : StreamOp} {channel : StreamChannel} {addr : ChannelAddress} {status : Int}
    {res : Option AddrInfo} {uv : UvOutcome} :
    ∀ report ∈ (op.dnsCb channel addr status res uv).reports,
    report.Exact := by
  have failed : ∀ report ∈ [(⟨none, .dnsGetaddrFailed⟩ : StreamReport)], report.Exact := by
    intro report member
    rw [List.mem_singleton.mp member]
    rfl
  have same : op.dnsCb = dnsContinue op.call := by cases op <;> rfl
  rw [same]
  unfold dnsContinue
  dsimp only
  split
  · exact failed
  · split
    · exact continued_exact
    · exact continued_exact
    · exact failed
    · exact failed

end LibAtbus.Channel

namespace LibAtbus.Node

open Channel

variable {unpack : Unpack} {env : CallbackEnv} {n : StreamNode}

/-- The callback follows no connection that is NULL, and creates none for an accept that failed. -/
def StreamEvent.Safe (unpack : Unpack) (env : CallbackEnv) (n : StreamNode)
    (event : StreamEvent) : Prop :=
  (event.handle unpack env n).escape ≠ some (.nullPointer .connection) ∧
    ∀ report, event = .accepted report → report.errcode.failed = true →
      (event.handle unpack env n).node.conns = n.conns

/-- What is read is a message over a connection whose handler sends to the node itself. -/
def TellsItself (unpack : Unpack) (n : NodeState) (conn : Option PeerConn) (status : ErrorType)
    (payload : Payload) : Prop :=
  status.failed = false ∧ payload.bytes ≠ [] ∧
    ∃ c m, conn = some c ∧ unpackMsg unpack payload = .ok (some m) ∧ selfSent payload.env n c m ≠ []

/-- The same of an event. -/
def StreamEvent.TellsItself (unpack : Unpack) (env : CallbackEnv) (n : StreamNode) :
    StreamEvent → Prop
  | .received (some fd) status bytes =>
      Node.TellsItself unpack n.state (n.connOf fd) status (env.payload bytes)
  | _ => False

/-- An accept succeeds; a read brings no message that makes the node send to itself while the debug
    output is on. -/
def StreamSource.Harmless (unpack : Unpack) (env : CallbackEnv) (n : StreamNode) :
    StreamSource → Prop
  | .accept _ channel status uv =>
      status = 0 ∧ uv.accept = 0 ∧ channel.closing = false ∧ uv.fileno.isSome = true
  | .read fd conf heap conn nread =>
      n.state.onDebug = true →
        ∀ event ∈ readEvents fd conf heap conn nread, ¬event.TellsItself unpack env n
  | _ => True

/-! ### Listening, connecting and closing -/

theorem onNewConnection_escape (i : Nat) : (n.onNewConnection env i).escape = none := by
  rw [StreamNode.onNewConnection]
  split
  · rfl
  · dsimp only
    split <;> rfl

/-- A success brings a connection. -/
theorem conn_of_succeeded {report : StreamReport} (told : report.Exact)
    (succeeded : ¬report.errcode.failed = true) : ∃ fd, report.conn = some fd := by
  rw [told, Option.isNone_iff_eq_none] at succeeded
  exact Option.ne_none_iff_exists'.mp succeeded

theorem reported_safe {op : StreamOp} {i : Nat} {report : StreamReport} (told : report.Exact) :
    (StreamEvent.reported op i report).Safe unpack env n := by
  have follows : ((StreamEvent.reported op i report).handle unpack env n).escape = none := by
    cases op with
    | listen =>
        rw [StreamEvent.reported, StreamEvent.handle, iostreamOnListenCb]
        split
        · rfl
        · rename_i succeeded
          obtain ⟨fd, known⟩ := conn_of_succeeded told succeeded
          rw [known]
    | connect =>
        rw [StreamEvent.reported, StreamEvent.handle, iostreamOnConnectedCb]
        split
        · rfl
        · rename_i succeeded
          obtain ⟨fd, known⟩ := conn_of_succeeded told succeeded
          rw [known]
          exact onNewConnection_escape i
  refine ⟨by simp [follows], fun other same => ?_⟩
  cases op <;> cases same

theorem disconnected_safe {fd : Nat} : (StreamEvent.disconnected (some fd)).Safe unpack env n := by
  refine ⟨?_, fun other same => by cases same⟩
  rw [StreamEvent.handle, iostreamOnDisconnected]
  split <;> simp

/-! ### Accepting -/

/-- The connection of an accept that failed is followed. -/
theorem accepted_safe_iff {report : StreamReport} (told : report.Exact) :
    (StreamEvent.accepted report).Safe unpack env n ↔ report.conn.isSome = true := by
  rw [StreamEvent.Safe, StreamEvent.handle, iostreamOnAccepted, Option.map_some, Option.getD_some]
  cases known : report.conn with
  | none => exact iff_of_false (fun safe => safe.1 rfl) Bool.false_ne_true
  | some fd =>
      refine iff_of_true ⟨?_, ?_⟩ rfl
      · dsimp only
        simp [onNewConnection_escape]
      · rintro _ ⟨⟩ refused
        rw [told, known] at refused
        cases refused

theorem ioStreamTcpConnectionCommon_isSome_iff {channel : StreamChannel} {status : Int}
    {uv : UvOutcome} : (ioStreamTcpConnectionCommon channel status uv).isSome = true ↔
      status = 0 ∧ uv.accept = 0 ∧ channel.closing = false ∧ uv.fileno.isSome = true := by
  rw [ioStreamTcpConnectionCommon]
  split
  · simp [*]
  · split
    · simp [*]
    · split
      · simp [*]
      · simp_all [ioStreamMakeConnection]

/-- What becomes of a new connection, in either listener. -/
theorem acceptCb_report (pipe : Bool) (channel : StreamChannel) (status : Int) (uv : UvOutcome) :
    (acceptCb pipe channel status uv).Exact ∧
      ((acceptCb pipe channel status uv).conn.isSome = true ↔
      status = 0 ∧ uv.accept = 0 ∧ channel.closing = false ∧ uv.fileno.isSome = true) := by
  cases pipe with
  | true =>
      rw [acceptCb, if_pos rfl, ioStreamPipeConnectionCb]
      split
      · exact ⟨rfl, by simp [*]⟩
      · split
        · exact ⟨rfl, by simp [*]⟩
        · split
          · exact ⟨rfl, by simp [*]⟩
          · rw [ioStreamMakeConnection]
            split
            · exact ⟨rfl, by simp [*]⟩
            · exact ⟨rfl, by simp_all⟩
  | false =>
      rw [acceptCb, if_neg Bool.false_ne_true,
        ioStreamTcpConnectionCb, ← ioStreamTcpConnectionCommon_isSome_iff]
      cases ioStreamTcpConnectionCommon channel status uv with
      | some conn => exact ⟨rfl, Iff.rfl⟩
      | none =>
          refine ⟨?_, Iff.rfl⟩
          cases channel.closing <;> rfl

/-! ### Reading -/

variable {handlers : HandlerEnv} {s : NodeState} {conn : Option PeerConn} {c : PeerConn} {m : Msg}
  {status : ErrorType} {payload : Payload}

/-- A message the node sends to itself has no connection, which only the debug output looks at. -/
theorem dispatchSelf_nullConnection_iff {own : List Msg} :
    dispatchSelf handlers s own = .error .connection ↔ s.onDebug = true ∧ own ≠ [] := by
  cases debug : s.onDebug with
  | true =>
      cases own with
      | nil => simp [dispatchSelf]
      | cons m later => simp [dispatchSelf, dispatchMsg, debug, bind, Except.bind]
  | false =>
      have fine : dispatchSelf handlers s own = .ok () := dispatchSelf_iff.mpr (by simp [debug])
      simp [fine]

/-- The dispatch itself has a connection. -/
theorem dispatchMsg_connected_ne :
    dispatchMsg handlers s (some c) (some m) ≠ .error .connection := by
  have connected : ¬(s.onDebug && Option.isNone (some c)) = true := by simp
  rw [dispatchMsg, if_neg connected]
  cases m.head.cmd with
  | nodeRegRsp =>
      dsimp only
      rw [onRecvNodeRegRsp]
      split
      · simp
      · split
        · split <;> simp
        · simp
  | _ => simp

theorem dispatchWithin_nullConnection_iff :
    dispatchWithin handlers s c m = .error .connection ↔ s.onDebug = true ∧
      selfSent handlers s c m ≠ [] := by
  rw [← dispatchSelf_nullConnection_iff, dispatchWithin]
  cases direct : dispatchMsg handlers s (some c) (some m) with
  | error null =>
      -- only a response to a registration follows a missing body, and it sends nothing
      have refused : ¬∃ done, dispatchMsg handlers s (some c) (some m) = .ok done := by
        simp [direct]
      obtain ⟨command, -⟩ := not_not.mp (mt dispatchMsg_connected_iff.mpr refused)
      have silent : selfSent handlers s c m = [] := by rw [selfSent, command]
      refine iff_of_false ?_ (by simp [silent, dispatchSelf])
      rintro ⟨⟩
      exact dispatchMsg_connected_ne direct
  | ok done =>
      cases dispatchSelf handlers s (selfSent handlers s c m) with
      | error null => simp [bind, Except.bind]
      | ok _ => simp [bind, Except.bind, pure, Except.pure]

theorem unpackMsg_ne {pointer : NullPointer} :
    unpackMsg unpack payload ≠ .error (.nullPointer pointer) := by
  rw [unpackMsg]
  split
  · simp
  · simp
  · split <;> simp

theorem receive_nullConnection_iff :
    receive unpack s c payload = .error (.nullPointer .connection) ↔
      s.onDebug = true ∧ ∃ m, unpackMsg unpack payload = .ok (some m) ∧
      selfSent payload.env s c m ≠ [] := by
  rw [receive]
  cases unpacked : unpackMsg unpack payload with
  | error escape =>
      refine iff_of_false ?_ (by simp)
      rintro ⟨⟩
      exact unpackMsg_ne unpacked
  | ok got =>
      cases got with
      | none => simp
      | some m =>
          have within := @dispatchWithin_nullConnection_iff payload.env s c m
          cases result : dispatchWithin payload.env s c m with
          | error null =>
              rw [result] at within
              simpa [onRecv, result, bind, Except.bind, Except.mapError] using within
          | ok done =>
              rw [result] at within
              simpa [onRecv, result, bind, Except.bind, pure, Except.pure,
                Except.mapError] using within

/-- The callback of a read follows a missing connection only by way of a message to the node
    itself. -/
theorem iostreamOnRecvCb_nullConnection_iff :
    iostreamOnRecvCb unpack s conn status payload = .error (.nullPointer .connection) ↔
      s.onDebug = true ∧ TellsItself unpack s conn status payload := by
  rw [TellsItself]
  unfold iostreamOnRecvCb
  cases failed : status.failed with
  | true => simp
  | false =>
      cases conn with
      | none => simp
      | some c =>
          by_cases empty : payload.bytes = []
          · simp [empty, onRecv, dispatchMsg, bind, Except.bind, pure, Except.pure, Except.mapError]
          · have received := @receive_nullConnection_iff unpack s c payload
            cases result : receive unpack s c payload with
            | error escape =>
                rw [result] at received
                simpa [empty, result, bind, Except.bind] using received
            | ok got =>
                rw [result] at received
                simpa [empty, result, bind, Except.bind, pure, Except.pure] using received

theorem received_safe_iff {fd : Nat} {bytes : List UInt8} :
    (StreamEvent.received (some fd) status bytes).Safe unpack env n ↔
      ¬(n.state.onDebug = true ∧
        (StreamEvent.received (some fd) status bytes).TellsItself unpack env n) := by
  rw [StreamEvent.TellsItself, ← iostreamOnRecvCb_nullConnection_iff, StreamEvent.Safe,
    StreamEvent.handle, iostreamOnRecved]
  cases iostreamOnRecvCb unpack n.state (n.connOf fd) status (env.payload bytes) with
  | error escape => simp
  | ok done => simp

theorem received_of_mem_readEvents {fd : Nat} {conf : StreamConf} {heap : Detail.Heap}
    {conn : StreamConnection} {nread : Int} {event : StreamEvent}
    (member : event ∈ readEvents fd conf heap conn nread) :
    ∃ status bytes, event = .received (some fd) status bytes := by
  rw [readEvents] at member
  split at member
  · cases member
  · obtain ⟨recved, -, rfl⟩ := List.mem_map.mp member
    exact ⟨recved.status, recved.data, rfl⟩

/-! ### All events -/

/-- All callbacks for an event are safe exactly if it is no failed accept, and no message that makes
    a node whose debug output is on send to itself. -/
theorem streamSource_safe_iff (unpack : Unpack) (env : CallbackEnv) (n : StreamNode)
    (source : StreamSource) : (∀ event ∈ source.events, event.Safe unpack env n) ↔
      source.Harmless unpack env n := by
  cases source with
  | accept pipe channel status uv =>
      obtain ⟨told, kept⟩ := acceptCb_report pipe channel status uv
      rw [StreamSource.events, List.forall_mem_singleton, accepted_safe_iff told, kept]
      rfl
  | call op i channel addr uv =>
      refine iff_of_true ?_ trivial
      rintro event member
      obtain ⟨report, made, rfl⟩ := List.mem_map.mp member
      exact reported_safe (call_exact report made)
  | resolved op i channel addr status res uv =>
      refine iff_of_true ?_ trivial
      rintro event member
      obtain ⟨report, made, rfl⟩ := List.mem_map.mp member
      exact reported_safe (dnsCb_exact report made)
  | allConnected i channel pipe status uv =>
      refine iff_of_true ?_ trivial
      rw [StreamSource.events, List.forall_mem_singleton]
      have told : (ioStreamAllConnectedCb channel pipe status uv).Exact := allConnected_exact
      have safe : (StreamEvent.reported .connect i _).Safe unpack env n := reported_safe told
      exact safe
  | read fd conf heap conn nread =>
      have each : ∀ event ∈ readEvents fd conf heap conn nread,
          (event.Safe unpack env n ↔
            ¬(n.state.onDebug = true ∧ event.TellsItself unpack env n)) := by
        intro event member
        obtain ⟨status, bytes, rfl⟩ := received_of_mem_readEvents member
        exact received_safe_iff
      rw [StreamSource.events, StreamSource.Harmless, forall₂_congr each]
      simp only [not_and]
      exact ⟨fun quiet debug event member => quiet event member debug,
        fun quiet event member debug => quiet debug event member⟩
  | onClose pool conn connection =>
      refine iff_of_true ?_ trivial
      intro event member
      obtain ⟨closed, -, found⟩ := List.mem_filterMap.mp member
      cases closed with
      | disconnected conn =>
          cases found
          exact disconnected_safe
      | actDisconnected conn => cases found

/-- A listener of a node without connections is called with an error: the callback makes a
    connection, in the state of a handshake, and follows the NULL it was given. -/
theorem failed_accept_follows_null :
    let source : StreamSource := .accept false {} (-24) {}
    let n : StreamNode :=
      { state := { NodeState.debugged with onDebug := false }, conns := [], data := fun _ => none }
    let env : CallbackEnv := { handlers := .open, faulty := none, srcBusId := 0 }
    ∃ event, source.events = [event] ∧ event = .accepted ⟨none, .sockConnectFailed⟩ ∧
      (event.handle unpackShort env n).escape = some (.nullPointer .connection) ∧
      (event.handle unpackShort env n).node.conns.map (·.peer.state) = [.handshaking] ∧
      ¬event.Safe unpackShort env n := by
  intro source n env
  exact ⟨_, rfl, rfl, rfl, rfl, fun safe => safe.1 rfl⟩

end LibAtbus.Node
