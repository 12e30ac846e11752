/-
Module: LibAtbus.Proofs.SetupFailure
Layer: Proofs
Purpose: What a failed listen or connect leaves of a connection. The memory channels are opened
  before anything is changed; the stream channel is called in the state CONNECTING, which stays when
  the call fails.
Trusted boundary: none
Main exports: StreamAddress, BusConnection.Clean, Reusable, setupConn_failed, setupConn_admitted,
  setup_failure_reusable_iff, failed_listen_stays_connecting
-/
import LibAtbus.Node.ConnectionSetup
import LibAtbus.Proofs.StreamOutcome

namespace LibAtbus.Node

open Channel

/-- The address is parsed, and its scheme is that of no memory channel. -/
def StreamAddress (text : List Char) : Prop :=
  ∃ addr, makeAddress text {} = .ok (true, addr) ∧ schemeBegins "mem" addr.scheme = false ∧
    schemeBegins "shm" addr.scheme = false

/-- A connection that carries nothing of an earlier use. -/
structure BusConnection.Clean (conn : BusConnection) : Prop where
  regProc : conn.regProc = false
  regFd : conn.regFd = false
  fns : conn.fns = {}

/-- The connection can be used as if the call had not been made. -/
structure Reusable (i : Nat) (before after : ConnectionNode) : Prop where
  state : (after.conns i).state = .disconnected
  clean : (after.conns i).Clean
  procConnections : after.procConnections = before.procConnections
  refObjs : after.refObjs = before.refObjs
  admitted : ∀ op text env, (setupConn op after i text env).res ≠ .ok .alreadyInited

variable {n : ConnectionNode} {i : Nat} {text : List Char} {addr : ChannelAddress} {env : SetupEnv}
  {op : StreamOp} {code : ErrorType} {transport : Transport}
  {change : BusConnection → BusConnection}

@[simp] theorem setConn_conns : ((n.setConn i change).conns i) = change (n.conns i) :=
  Function.update_self _ _ _

theorem setConn_other {j : Nat} (other : j ≠ i) : (n.setConn i change).conns j = n.conns j :=
  Function.update_of_ne other _ _

/-! ### Addresses -/

/-- What is parsed does not depend on what the address was before. -/
theorem makeAddress_true {before other : ChannelAddress}
    (parsed : makeAddress text before = .ok (true, addr)) :
    makeAddress text other = .ok (true, addr) := by
  rw [makeAddress] at parsed ⊢
  cases found : StdString.findFirstOf text "://".toList with
  | none =>
      rw [found] at parsed
      cases parsed
  | some place =>
      rw [found] at parsed
      exact parsed

theorem not_streamAddress (refused : ∀ addr, makeAddress text {} ≠ .ok (true, addr)) :
    ¬StreamAddress text := by
  rintro ⟨addr, parsed, -⟩
  exact refused addr parsed

/-! ### Codes -/

theorem openShare_ne (share : ShareOutcome) : ConnectionNode.openShare share ≠ .alreadyInited := by
  rw [ConnectionNode.openShare]
  split
  · exact share.init_ne
  · exact share.attach_ne

theorem refusal_ne {channel : Option StreamChannel} : refusal channel ≠ some .alreadyInited := by
  cases channel with
  | none => simp [refusal]
  | some channel =>
      rw [refusal]
      split
      · simp
      · split <;> simp

theorem listenOn_ne {bindFailed listenFailed : ErrorType} {uv : UvOutcome}
    (bind : bindFailed ≠ .alreadyInited) (listen : listenFailed ≠ .alreadyInited) :
    (listenOn bindFailed listenFailed uv).res ≠ .alreadyInited := by
  rw [listenOn]
  split
  · exact bind
  · split
    · exact listen
    · split <;> simp

theorem resolve_ne {uv : UvOutcome} : (resolve op addr uv).res ≠ .alreadyInited := by
  rw [resolve]
  split <;> simp

/-- The stream channel never says that it is in use already. -/
theorem call_ne {channel : Option StreamChannel} {uv : UvOutcome} :
    (op.call channel addr uv).res ≠ .alreadyInited := by
  cases op with
  | listen =>
      rw [StreamOp.call, ioStreamListen]
      split
      · rename_i res refused
        rintro rfl
        exact refusal_ne refused
      · split
        · exact listenOn_ne (by simp) (by simp)
        · split
          · exact listenOn_ne (by simp) (by simp)
          · split
            · exact resolve_ne
            · simp
  | connect =>
      rw [StreamOp.call, ioStreamConnect]
      split
      · rename_i res refused
        rintro rfl
        exact refusal_ne refused
      · split
        · split <;> simp
        · split
          · simp
          · split
            · exact resolve_ne
            · simp

/-! ### Calls on a connection that is not in use -/

/-- The memory channels of either call. -/
def shareSetup : StreamOp → ConnectionNode → Nat → Transport → SetupEnv → SetupDone
  | .listen => ConnectionNode.listenShare
  | .connect => ConnectionNode.connectShare

/-- The stream channel of either call. -/
def streamSetup : StreamOp → ConnectionNode → Nat → ChannelAddress → SetupEnv → SetupDone
  | .listen => ConnectionNode.listenStream
  | .connect => ConnectionNode.connectStream

/-- What either call does with an address. -/
def setupParsed (op : StreamOp) (i : Nat) (env : SetupEnv) (n : ConnectionNode)
    (addr : ChannelAddress) : SetupDone :=
  if schemeBegins "mem" addr.scheme then shareSetup op n i .mem env
  else if schemeBegins "shm" addr.scheme then shareSetup op n i .shm env
  else streamSetup op n i addr env

theorem setupConn_eq :
    setupConn op n i text env = n.parseAddress i text (setupParsed op i env) := by
  cases op <;> rfl

/-- An address that is refused is all that is left; another one is passed on. -/
theorem setupConn_cases (unused : (n.conns i).state = .disconnected) :
    ((∀ addr, makeAddress text {} ≠ .ok (true, addr)) ∧
      (∀ code, (setupConn op n i text env).res = .ok code → code = .channelAddrInvalid) ∧
      ∃ addr, (setupConn op n i text env).node = n.setConn i fun conn => { conn with
        address := addr }) ∨
    ∃ addr, makeAddress text {} = .ok (true, addr) ∧ setupConn op n i text env =
      setupParsed op i env (n.setConn i fun conn => { conn with address := addr }) addr := by
  rw [setupConn_eq, ConnectionNode.parseAddress, if_neg (not_not.mpr unused)]
  cases parsed : makeAddress text (n.conns i).address with
  | error thrown =>
      have refused : ∀ addr, makeAddress text (n.conns i).address ≠ .ok (true, addr) := by
        simp [parsed]
      exact .inl ⟨fun addr parsed => refused addr (makeAddress_true parsed), by simp, _, rfl⟩
  | ok result =>
      obtain ⟨accepted, addr⟩ := result
      cases accepted with
      | true => exact .inr ⟨addr, makeAddress_true parsed, rfl⟩
      | false =>
          have refused : ∀ addr, makeAddress text (n.conns i).address ≠ .ok (true, addr) := by
            simp [parsed]
          refine .inl ⟨fun addr parsed => refused addr (makeAddress_true parsed),
            fun code returned => ?_, addr, rfl⟩
          cases returned
          rfl

/-- The result is that of opening the channel. -/
theorem shareSetup_res :
    (shareSetup op n i transport env).res = .ok (ConnectionNode.openShare env.share) := by
  cases op with
  | listen =>
      rw [shareSetup, ConnectionNode.listenShare]
      split <;> rfl
  | connect =>
      rw [shareSetup, ConnectionNode.connectShare]
      split <;> rfl

theorem shareSetup_ne : (shareSetup op n i transport env).res ≠ .ok .alreadyInited := by
  rw [shareSetup_res]
  intro inited
  exact openShare_ne env.share (Except.ok.inj inited)

/-- Nothing is changed before the channel is open. -/
theorem shareSetup_failed (failed : (ConnectionNode.openShare env.share).failed = true) :
    (shareSetup op n i transport env).node = n := by
  cases op with
  | listen => rw [shareSetup, ConnectionNode.listenShare, if_pos failed]
  | connect => rw [shareSetup, ConnectionNode.connectShare, if_pos failed]

theorem streamSetup_ne : (streamSetup op n i addr env).res ≠ .ok .alreadyInited := by
  cases op with
  | listen =>
      have listen : (ioStreamListen (some env.channel) addr env.uv).res ≠ .alreadyInited :=
        @call_ne addr .listen _ _
      rw [streamSetup, ConnectionNode.listenStream]
      split
      · simpa using listen
      · simp
  | connect =>
      have connect : (ioStreamConnect (some env.channel) addr env.uv).res ≠ .alreadyInited :=
        @call_ne addr .connect _ _
      rw [streamSetup, ConnectionNode.connectStream]
      split
      · simpa using connect
      · simp

/-- A failure of the stream channel comes without a callback, so that the state is the one from
    before the call. -/
theorem streamSetup_failed (returned : (streamSetup op n i addr env).res = .ok code)
    (negative : code.failed = true) :
    ((streamSetup op n i addr env).node.conns i).state = .connecting := by
  cases op with
  | listen =>
      rw [streamSetup, ConnectionNode.listenStream] at returned ⊢
      split at returned
      · rename_i failed
        rw [if_pos failed]
        rw [(ioStreamListen_once _).reports_of_failed failed]
        simp [ConnectionNode.setConn]
      · cases returned
        cases negative
  | connect =>
      rw [streamSetup, ConnectionNode.connectStream] at returned ⊢
      split at returned
      · rename_i failed
        rw [if_pos failed]
        simp [ConnectionNode.setConn]
      · cases returned
        cases negative

/-- A connection that is not in use is not refused as one that is. -/
theorem setupConn_admitted (unused : (n.conns i).state = .disconnected) :
    (setupConn op n i text env).res ≠ .ok .alreadyInited := by
  rcases setupConn_cases unused with ⟨-, invalid, -⟩ | ⟨addr, -, same⟩
  · intro returned
    cases invalid _ returned
  · rw [same, setupParsed]
    split
    · exact shareSetup_ne
    · split
      · exact shareSetup_ne
      · exact streamSetup_ne

/-- What a call that fails leaves: without the stream channel, the address it was given; with it,
    the state it had while the channel was called. -/
theorem setupConn_failed (unused : (n.conns i).state = .disconnected)
    (returned : (setupConn op n i text env).res = .ok code) (negative : code.failed = true) :
    (¬StreamAddress text ∧ ∃ addr, (setupConn op n i text env).node =
      n.setConn i fun conn => { conn with address := addr }) ∨
    (StreamAddress text ∧ ((setupConn op n i text env).node.conns i).state = .connecting) := by
  rcases setupConn_cases unused with ⟨refused, -, addr, left⟩ | ⟨addr, parsed, same⟩
  · exact .inl ⟨not_streamAddress refused, addr, left⟩
  · have unchanged : ∀ {n transport}, (shareSetup op n i transport env).res = .ok code →
        (shareSetup op n i transport env).node = n := by
      intro n transport returned
      rw [← Except.ok.inj (shareSetup_res.symm.trans returned)] at negative
      exact shareSetup_failed negative
    have shared : schemeBegins "mem" addr.scheme = true ∨ schemeBegins "shm" addr.scheme = true →
        ¬StreamAddress text := by
      rintro memory ⟨other, parsed', notMem, notShm⟩
      cases parsed.symm.trans parsed'
      simp [notMem, notShm] at memory
    rw [same, setupParsed] at returned ⊢
    by_cases mem : schemeBegins "mem" addr.scheme = true
    · rw [if_pos mem] at returned ⊢
      exact .inl ⟨shared (.inl mem), addr, unchanged returned⟩
    · rw [if_neg mem] at returned ⊢
      by_cases shm : schemeBegins "shm" addr.scheme = true
      · rw [if_pos shm] at returned ⊢
        exact .inl ⟨shared (.inr shm), addr, unchanged returned⟩
      · rw [if_neg shm] at returned ⊢
        rw [Bool.not_eq_true] at mem shm
        exact .inr ⟨⟨addr, parsed, mem, shm⟩, streamSetup_failed returned negative⟩

/-- A call that fails leaves the connection as it should exactly if it did not get to the stream
    channel, and the connection carried nothing before. -/
theorem setup_failure_reusable_iff (op : StreamOp) (n : ConnectionNode) (i : Nat) (text : List Char)
    (env : SetupEnv) (code : ErrorType) (unused : (n.conns i).state = .disconnected)
    (returned : (setupConn op n i text env).res = .ok code) (negative : code.failed = true) :
    Reusable i n (setupConn op n i text env).node ↔ ¬StreamAddress text ∧ (n.conns i).Clean := by
  rcases setupConn_failed unused returned negative with ⟨notStream, addr, left⟩ | ⟨stream,
    connecting⟩
  · rw [left]
    constructor
    · intro reusable
      have clean := reusable.clean
      rw [setConn_conns] at clean
      exact ⟨notStream, clean.regProc, clean.regFd, clean.fns⟩
    · rintro ⟨-, clean⟩
      have state : ((n.setConn i fun conn => { conn with address := addr }).conns i).state =
          .disconnected := by
        rw [setConn_conns]
        exact unused
      refine ⟨state, ?_, rfl, rfl, fun op text env => setupConn_admitted state⟩
      rw [setConn_conns]
      exact ⟨clean.regProc, clean.regFd, clean.fns⟩
  · refine iff_of_false (fun reusable => ?_) fun condition => condition.1 stream
    have state := reusable.state
    rw [connecting] at state
    cases state

/-- A memory channel that can be neither attached to nor initialised. -/
theorem setup_failure_reusable_iff_mem :
    let env : SetupEnv :=
  { share := { attach := .channelBufferInvalid, init := .channelSizeTooSmall } }
    (setupConn .listen .fresh 0 "mem://4660".toList env).res = .ok .channelSizeTooSmall ∧
      Reusable 0 .fresh (setupConn .listen .fresh 0 "mem://4660".toList env).node := by
  intro env
  have returned : (setupConn .listen .fresh 0 "mem://4660".toList env).res =
      .ok .channelSizeTooSmall := rfl
  have parsed : makeAddress "mem://4660".toList {} = .ok (true,
      { address := "mem://4660".toList, scheme := "mem".toList, host := "4660".toList,
          port := 0 }) := rfl
  have memory : ¬StreamAddress "mem://4660".toList := by
    rintro ⟨addr, parsed', notMem, -⟩
    cases parsed.symm.trans parsed'
    cases notMem
  refine ⟨returned, ?_⟩
  exact (setup_failure_reusable_iff .listen .fresh 0 _ env _ rfl returned rfl).mpr ⟨memory, rfl,
    rfl, rfl⟩

/-- A path that cannot be bound: the connection stays in the state CONNECTING, and is refused from
    then on. -/
theorem failed_listen_stays_connecting :
    let done := setupConn .listen .fresh 0 "unix:///tmp/a".toList { uv := { bind := -98 } }
    done.res = .ok .pipeBindFailed ∧ (done.node.conns 0).state = .connecting ∧
      (setupConn .listen done.node 0 "unix:///tmp/b".toList {}).res = .ok .alreadyInited ∧
      ¬Reusable 0 .fresh done.node := by
  intro done
  have refused : (setupConn .listen done.node 0 "unix:///tmp/b".toList {}).res =
      .ok .alreadyInited := rfl
  exact ⟨rfl, rfl, refused, fun reusable => reusable.admitted .listen _ _ refused⟩

end LibAtbus.Node
