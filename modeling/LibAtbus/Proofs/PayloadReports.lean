/-
Module: LibAtbus.Proofs.PayloadReports
Layer: Proofs
Purpose: Which payloads a node survives. What is no message is to be reported and dropped, and later
  payloads are to be handled. Nothing catches the exceptions of msgpack, so that only a nil object
  is reported; every other payload has to be one object that converts to a message whose handlers
  follow no missing pointer.
Trusted boundary: none
Main exports: Conforms, Reported, FollowsNull, Benign, receive_reported_iff, ReportsAll, BenignCall,
  payloads_reported_iff, payload_escapes
-/
import LibAtbus.Foundation.Transitions
import LibAtbus.Node.Receive
import LibAtbus.Proofs.DispatchSafety

namespace LibAtbus.Node

open Packing Transitions

/-- The bytes of a payload are one object, which converts to the message. -/
def Conforms (unpack : Unpack) (payload : Payload) (m : Msg) : Prop :=
  ∃ object, unpack payload.bytes = some (object, []) ∧
    convertMsg object (.fresh payload.srcBusId) = .ok m

/-- A payload that is no message was reported, and nothing was dispatched. -/
def Reported (unpack : Unpack) (payload : Payload) (got : Received) : Prop :=
  (¬∃ m, Conforms unpack payload m) →
    got.dispatched = none ∧ NodeEvent.error ErrorType.unpack.code ∈ got.events

/-- The dispatch of a message follows a NULL pointer: the body of an accepted registration is
    missing while the node connects to its parent, or a message to the node itself is to be shown in
    the debug output. -/
def FollowsNull (env : HandlerEnv) (n : NodeState) (conn : PeerConn) (m : Msg) : Prop :=
  (m.head.cmd = .nodeRegRsp ∧ 0 ≤ m.head.ret ∧ n.status = .connectingParent ∧ m.body.reg = none) ∨
    n.onDebug = true ∧ selfSent env n conn m ≠ []

/-- A payload that is handled as it should be: it is a nil object, or a message whose dispatch is
    safe. -/
def Benign (unpack : Unpack) (n : NodeState) (conn : PeerConn) (payload : Payload) : Prop :=
  (∃ rest, unpack payload.bytes = some (.nil, rest)) ∨
    ∃ m, Conforms unpack payload m ∧ ¬FollowsNull payload.env n conn m

variable {unpack : Unpack} {env : HandlerEnv} {n : NodeState} {conn : PeerConn} {payload : Payload}
  {m : Msg}

/-! ### Dispatch -/

/-- A message without a connection is dispatched safely when it is not shown in the debug output. -/
theorem dispatchMsg_unconnected (quiet : n.onDebug = false) :
    ∃ done, dispatchMsg env n none (some m) = .ok done := by
  rw [dispatchMsg, quiet, Bool.false_and, if_neg Bool.false_ne_true]
  cases m.head.cmd with
  | nodeRegRsp => exact ⟨_, rfl⟩
  | _ => exact ⟨_, rfl⟩

/-- With a connection, only the response to a registration can be dispatched to a NULL pointer. -/
theorem dispatchMsg_connected_iff :
    (∃ done, dispatchMsg env n (some conn) (some m) = .ok done) ↔
      ¬(m.head.cmd = .nodeRegRsp ∧ 0 ≤ m.head.ret ∧ n.status = .connectingParent ∧
        m.body.reg = none) := by
  have connected : ¬(n.onDebug && Option.isNone (some conn)) = true := by simp
  rw [dispatchMsg, if_neg connected]
  cases command : m.head.cmd with
  | nodeRegRsp =>
      dsimp only
      rw [onRecvNodeRegRsp]
      by_cases refused : m.head.ret < 0
      · rw [if_pos refused]
        have negative : ¬0 ≤ m.head.ret := Int.not_le.mpr refused
        exact iff_of_true ⟨_, rfl⟩ fun follows => negative follows.2.1
      · rw [if_neg refused]
        have accepted : 0 ≤ m.head.ret := Int.not_lt.mp refused
        by_cases connecting : n.status = .connectingParent
        · rw [if_pos connecting]
          cases body : m.body.reg with
          | none => simp [accepted, connecting]
          | some reg => simp
        · rw [if_neg connecting]
          exact iff_of_true ⟨_, rfl⟩ fun follows => connecting follows.2.2.1
  | _ => exact iff_of_true ⟨_, rfl⟩ fun follows => ProtocolCmd.noConfusion follows.1

/-- What a handler sends to the node itself is dispatched safely exactly when there is nothing, or
    no debug output. -/
theorem dispatchSelf_iff {own : List Msg} :
    dispatchSelf env n own = .ok () ↔ ¬(n.onDebug = true ∧ own ≠ []) := by
  cases debug : n.onDebug with
  | false =>
      apply iff_of_true
      · induction own with
        | nil => rfl
        | cons m own ih =>
            obtain ⟨done, dispatched⟩ := @dispatchMsg_unconnected env _ m debug
            rw [dispatchSelf, dispatched]
            exact ih
      · exact fun shown => Bool.false_ne_true shown.1
  | true =>
      cases own with
      | nil => simp [dispatchSelf]
      | cons m own => simp [dispatchSelf, dispatchMsg, debug, bind, Except.bind]

/-- The dispatch of a message over a connection returns exactly when it follows no NULL pointer. -/
theorem dispatchWithin_iff :
    (∃ done, dispatchWithin env n conn m = .ok done) ↔ ¬FollowsNull env n conn m := by
  have direct := @dispatchMsg_connected_iff env n conn m
  have nested := @dispatchSelf_iff env n (selfSent env n conn m)
  rw [FollowsNull, not_or, ← direct, ← nested, dispatchWithin]
  cases dispatchMsg env n (some conn) (some m) with
  | error null => simp [bind, Except.bind]
  | ok done =>
      cases dispatchSelf env n (selfSent env n conn m) with
      | error null => simp [bind, Except.bind]
      | ok _ => simp [bind, Except.bind, pure, Except.pure]

/-! ### One payload -/

/-- Renaming what escapes changes nothing about what returns. -/
theorem mapError_ok_iff {ε ε' α : Type} {result : Except ε α} {rename : ε → ε'} {value : α} :
    result.mapError rename = .ok value ↔ result = .ok value := by
  cases result with
  | error escape => simp [Except.mapError]
  | ok value => simp [Except.mapError]

/-- An object that is not nil is converted. -/
theorem unpackMsg_of_object {object : PackedObject} {rest : List UInt8}
    (unpacked : unpack payload.bytes = some (object, rest)) (notNil : object ≠ .nil) :
    unpackMsg unpack payload =
      match convertMsg object (.fresh payload.srcBusId) with
      | .error error => .error (.typeError error)
      | .ok m => .ok (some m) := by
  rw [unpackMsg, unpacked]
  cases object with
  | nil => exact absurd rfl notNil
  | _ => rfl

/-- What was dispatched is as it should be exactly when it is a message. -/
theorem reported_dispatched_iff {got : Received} {done : Dispatched}
    (dispatched : got.dispatched = some done) :
    Reported unpack payload got ↔ ∃ m, Conforms unpack payload m := by
  simp [Reported, dispatched]

/-- A message is handled as it should be exactly when it is all of the payload and its dispatch is
    safe. -/
theorem onRecv_reported_iff :
    (∃ got, onRecv n conn (some m) payload = .ok got ∧ Reported unpack payload got) ↔
      ¬FollowsNull payload.env n conn m ∧ ∃ m, Conforms unpack payload m := by
  rw [← dispatchWithin_iff, onRecv]
  cases dispatchWithin payload.env n conn m with
  | error null => simp [bind, Except.bind]
  | ok done => simp [bind, Except.bind, pure, Except.pure, reported_dispatched_iff]

/-- A block is handled as it should be exactly when it is benign: over every connection, in every
    state of the node. -/
theorem receive_reported_iff :
    (∃ got, receive unpack n conn payload = .ok got ∧ Reported unpack payload got) ↔
      Benign unpack n conn payload := by
  cases unpacked : unpack payload.bytes with
  | none => simp [receive, unpackMsg, unpacked, Benign, Conforms]
  | some whole =>
      obtain ⟨object, rest⟩ := whole
      by_cases isNil : object = .nil
      · subst isNil
        apply iff_of_true
        · exact ⟨_, by rw [receive, unpackMsg, unpacked],
            fun _ => ⟨rfl, List.mem_singleton.mpr rfl⟩⟩
        · exact .inl ⟨rest, unpacked⟩
      · have noNil : ¬∃ rest, unpack payload.bytes = some (.nil, rest) := by simp [unpacked, isNil]
        rw [Benign, or_iff_right noNil, receive, unpackMsg_of_object unpacked isNil]
        cases converted : convertMsg object (.fresh payload.srcBusId) with
        | error error => simp [Conforms, unpacked, converted]
        | ok m =>
            have one : ∀ m', Conforms unpack payload m' → m' = m := by
              rintro m' ⟨object', whole, converted'⟩
              cases unpacked.symm.trans whole
              exact Except.ok.inj (converted'.symm.trans converted)
            simp only [mapError_ok_iff]
            rw [onRecv_reported_iff]
            constructor
            · rintro ⟨safe, m', conforms⟩
              exact ⟨m', conforms, by rwa [one m' conforms]⟩
            · rintro ⟨m', conforms, safe⟩
              exact ⟨by rwa [one m' conforms] at safe, m', conforms⟩

/-! ### The receive functions -/

/-- A payload of the stream is not unpacked when it is empty or its connection was released. -/
def StreamBenign (unpack : Unpack) (n : NodeState) (conn : Option PeerConn)
    (payload : Payload) : Prop :=
  match conn with
  | none => ∃ m, Conforms unpack payload m
  | some conn => if payload.bytes = [] then ∃ m,
      Conforms unpack payload m else Benign unpack n conn payload

/-- Every block of a loop is benign, in the state the blocks before it leave the node in. -/
def LoopBenign (unpack : Unpack) : NodeState → List RecvCall → Prop
  | _, [] => True
  | n, call :: calls =>
      Benign unpack n call.conn call.payload ∧
        ∀ got, receive unpack n call.conn call.payload = .ok got → LoopBenign unpack got.node calls

/-- The payloads of a call are benign, in the states they meet. -/
def ReceiveCall.Benign (unpack : Unpack) (n : NodeState) : ReceiveCall → Prop
  | .stream conn status payload => status.failed = false → StreamBenign unpack n conn payload
  | .mem staticBuffer loopTimes calls | .shm staticBuffer loopTimes calls =>
      staticBuffer = true → LoopBenign unpack n (deliveredCalls loopTimes calls)

/-- The callback of the stream handles its payload as it should exactly when that is benign. -/
theorem iostreamOnRecvCb_reported_iff {released : Option PeerConn} {status : ErrorType} :
    (∃ done, iostreamOnRecvCb unpack n released status payload = .ok done ∧
      List.Forall₂ (Reported unpack) (ReceiveCall.stream released status payload).delivered
        done.received) ↔
      (ReceiveCall.stream released status payload).Benign unpack n := by
  simp only [iostreamOnRecvCb, ReceiveCall.delivered, ReceiveCall.Benign]
  cases failed : status.failed with
  | true => simp
  | false =>
      cases released with
      | none => simp [StreamBenign, Reported]
      | some conn =>
          by_cases empty : payload.bytes = []
          · simp [StreamBenign, empty, onRecv, dispatchMsg, Except.mapError, bind, Except.bind,
              pure, Except.pure, reported_dispatched_iff]
          · have one := @receive_reported_iff unpack n conn payload
            simp only [StreamBenign, empty, if_false, ← one]
            cases receive unpack n conn payload with
            | error escape => simp [bind, Except.bind]
            | ok got => simp [bind, Except.bind, pure, Except.pure]

/-- The blocks a loop takes, one more round. -/
theorem deliveredCalls_cons {loopTimes : Nat} {call : RecvCall} {calls : List RecvCall} :
    deliveredCalls (loopTimes + 1) (call :: calls) =
      if call.res.failed then [] else call :: deliveredCalls loopTimes calls := by
  rw [deliveredCalls, List.take_succ_cons, List.takeWhile_cons]
  cases call.res.failed with
  | true => rfl
  | false => rfl

/-- A loop handles the blocks it takes as it should exactly when they are benign. -/
theorem procLoop_reported_iff {loopTimes : Nat} {calls : List RecvCall} {ret : Int} :
    (∃ done, procLoop unpack loopTimes calls n ret = .ok done ∧
      List.Forall₂ (Reported unpack) ((deliveredCalls loopTimes calls).map RecvCall.payload)
        done.received) ↔
      LoopBenign unpack n (deliveredCalls loopTimes calls) := by
  induction loopTimes generalizing calls n ret with
  | zero => simp [procLoop, deliveredCalls, LoopBenign]
  | succ loopTimes ih =>
      cases calls with
      | nil => simp [procLoop, deliveredCalls, LoopBenign]
      | cons call calls =>
          rw [deliveredCalls_cons, procLoop]
          by_cases noData : call.res = .noData
          · have failed : call.res.failed = true := by rw [noData]; rfl
            simp only [failed, if_true]
            rw [if_pos noData]
            simp [LoopBenign]
          · rw [if_neg noData]
            cases failed : call.res.failed with
            | true => simp [LoopBenign]
            | false =>
                have one := @receive_reported_iff unpack n call.conn call.payload
                simp only [Bool.false_eq_true, if_false, List.map_cons, LoopBenign, ← one]
                cases receive unpack n call.conn call.payload with
                | error escape => simp [bind, Except.bind]
                | ok got =>
                    have later :=
                      @ih got.node calls (if got.dispatched.isSome then ret + 1 else ret)
                    simp only [Except.ok.injEq, exists_eq_left', forall_eq', ← later, bind,
                      Except.bind]
                    generalize procLoop unpack loopTimes calls got.node
                      (if got.dispatched.isSome then ret + 1 else ret) = looped
                    cases looped with
                    | error escape => simp
                    | ok rest => simp [pure, Except.pure]

/-- The two loops of the memory channels. -/
theorem procFn_reported_iff {staticBuffer : Bool} {loopTimes : Nat} {calls : List RecvCall} :
    (∃ done, procFn unpack n staticBuffer loopTimes calls = .ok done ∧
      List.Forall₂ (Reported unpack)
        (if staticBuffer then (deliveredCalls loopTimes calls).map RecvCall.payload else [])
          done.received) ↔
      (staticBuffer = true → LoopBenign unpack n (deliveredCalls loopTimes calls)) := by
  cases staticBuffer with
  | false => simp [procFn]
  | true => simpa [procFn] using procLoop_reported_iff

/-- A call of a receive function returns, and has reported what is no message and handled all
    payloads, exactly when these are benign. -/
theorem receiveCall_reported_iff {call : ReceiveCall} :
    (∃ done, receiveCall unpack n call = .ok done ∧
      List.Forall₂ (Reported unpack) call.delivered done.received) ↔ call.Benign unpack n := by
  cases call with
  | stream conn status payload => exact iostreamOnRecvCb_reported_iff
  | mem staticBuffer loopTimes calls => exact procFn_reported_iff
  | shm staticBuffer loopTimes calls => exact procFn_reported_iff

/-! ### Runs -/

/-- The call was made, it returned, and its payloads were handled as they should be. -/
def ReportsAll (unpack : Unpack) (t : Transition (Except Escape NodeState) ReceiveCall) : Prop :=
  ∃ n done, t.pre = .ok n ∧ receiveCall unpack n t.label = .ok done ∧
    List.Forall₂ (Reported unpack) t.label.delivered done.received

/-- The call can be made, and its payloads are benign. -/
def BenignCall (unpack : Unpack) (t : Transition (Except Escape NodeState) ReceiveCall) : Prop :=
  ∃ n, t.pre = .ok n ∧ t.label.Benign unpack n

/-- In every run of the receive functions, all payloads are handled as they should be exactly when
    all of them are benign. -/
theorem payloads_reported_iff {unpack : Unpack} {start : NodeState}
    {made : List (Transition (Except Escape NodeState) ReceiveCall)}
    {after : Except Escape NodeState} (run : Run (ReceiveStep unpack) (.ok start) made after) :
    (∀ t ∈ made, ReportsAll unpack t) ↔ ∀ t ∈ made, BenignCall unpack t := by
  refine @Run.forall_iff _ _ _ _ _ _ (fun _ => True) _ _ run trivial ?_ ?_
  · intro t _ _ _
    trivial
  · intro t _ _
    simp only [ReportsAll, BenignCall, exists_and_left, receiveCall_reported_iff]

/-- What msgpack makes of the shortest objects: nil, an empty map, an empty array and the small
    integers. -/
def unpackShort : Unpack
  | [] => none
  | byte :: rest =>
      if byte < 0x80 then some (.int byte.toNat, rest)
      else if byte = 0x80 then some (.map [], rest)
      else if byte = 0x90 then some (.array [], rest)
      else if byte = 0xc0 then some (.nil, rest)
      else none

/-- A payload whose handlers can do whatever they want. -/
def Payload.open (bytes : List UInt8) : Payload where
  bytes := bytes
  env := .open
  faulty := none
  srcBusId := 0

/-- A connection on which nothing was received yet. -/
def PeerConn.accepted : PeerConn where
  state := .handshaking
  binding := none
  regFd := true
  accessShareHost := false
  address := "ipv4://127.0.0.1:16387"

/-- A ping, as its sender packs it. -/
def pingPacked : List UInt8 := [0x82, 1, 0x95, 14, 0, 0, 1, 7, 2, 0x91, 0]

/-- What msgpack makes of the ping and of the shortest objects. -/
def unpackPinged : Unpack := fun bytes =>
  if bytes = pingPacked then
    some (.map [(.int 1, .array [.int 14, .int 0, .int 0, .int 1, .int 7]),
      (.int 2, .array [.int 0])], [])
  else unpackShort bytes

/-- A nil object that the stream delivers is reported; and a memory channel delivers another one and
    then a ping, which is dispatched. -/
theorem payloads_reported_ping :
    let deliver := fun bytes => (⟨.success, .accepted, .open bytes⟩ : RecvCall)
    let first : ReceiveCall := .stream (some .accepted) .success (.open [0xc0])
    let second : ReceiveCall := .mem true 3 [deliver [0xc0], deliver pingPacked]
    ∃ after, ∃ made : List (Transition (Except Escape NodeState) ReceiveCall),
      Run (ReceiveStep unpackPinged) (.ok .debugged) made (.ok after) ∧
        made.map Transition.label = [first, second] ∧ ∀ t ∈ made, ReportsAll unpackPinged t := by
  intro deliver first second
  have nil : first.Benign unpackPinged .debugged := fun _ => .inl ⟨[], rfl⟩
  obtain ⟨done, returned⟩ : ∃ done, receiveCall unpackPinged .debugged second = .ok done := ⟨_, rfl⟩
  have ping : second.Benign unpackPinged .debugged := by
    refine fun _ =>
      ⟨.inl ⟨[], rfl⟩, fun got received => ⟨.inr ⟨_, ⟨_, rfl, rfl⟩, ?_⟩, fun _ _ => trivial⟩⟩
    rintro (⟨response, -⟩ | ⟨-, sent⟩)
    · cases response
    · exact sent rfl
  have run : Run (ReceiveStep unpackPinged) (.ok .debugged)
      ([] ++ [⟨.ok .debugged, first, .ok .debugged⟩] ++ [⟨.ok .debugged, second, .ok done.node⟩])
      (.ok done.node) := by
    refine (Run.refl.tail rfl).tail ?_
    rw [ReceiveStep, Except.bind, returned]
    rfl
  refine ⟨done.node, _, run, rfl, (payloads_reported_iff run).mpr fun t member => ?_⟩
  simp only [List.nil_append, List.cons_append, List.mem_cons, List.not_mem_nil, or_false] at member
  rcases member with rfl | rfl
  · exact ⟨.debugged, rfl, nil⟩
  · exact ⟨.debugged, rfl, ping⟩

/-- The integer 42, and a byte that begins no object: neither is a message, the exceptions leave
    `mem_proc_fn`, and the nil object behind them is not reported. -/
theorem payload_escapes :
    let deliver := fun bytes => (⟨.success, .accepted, .open bytes⟩ : RecvCall)
    let call := fun bytes => ReceiveCall.mem true 2 [deliver bytes, deliver [0xc0]]
    let mismatch : Except Escape NodeState := .error (.typeError .mismatch)
    Run (ReceiveStep unpackShort) (.ok .debugged) [⟨.ok .debugged, call [42], mismatch⟩] mismatch ∧
      ¬ReportsAll unpackShort ⟨.ok .debugged, call [42], mismatch⟩ ∧
      receiveCall unpackShort .debugged (call [0xc1]) = .error .unpackError ∧
      (call [42]).delivered = [.open [42], .open [0xc0]] ∧
      ¬∃ m, Conforms unpackShort (.open [42]) m := by
  intro deliver call mismatch
  refine ⟨.tail .refl rfl, ?_, rfl, rfl, ?_⟩
  · rintro ⟨n, done, ⟨⟩, returned, -⟩
    cases returned
  · rintro ⟨m, object, ⟨⟩, converted⟩
    cases converted

end LibAtbus.Node
