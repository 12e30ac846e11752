/-
Module: LibAtbus.Proofs.StreamOutcome
Layer: Proofs
Purpose: How often a stream listen or connect reports its outcome, over every run of calls and of
  callbacks from libuv. Every call is right but a connect to a scheme the channel does not know,
  which succeeds and is never heard of again.
Trusted boundary: none
Main exports: StreamCall.ReportsOnce, StreamCall.Dispatched, StreamCall.Account,
  streamCalls_account, streamCalls_report_iff, unknown_scheme_is_silent
-/
import LibAtbus.Channel.StreamSetup
import LibAtbus.Foundation.Transitions
import Mathlib.Algebra.Order.Ring.Nat

namespace LibAtbus.Channel

open Transitions

/-- A negative result comes without a callback, and a success with one, now or from libuv; what the
    caller passed is freed once, now or then. -/
structure StreamCall.ReportsOnce (call : StreamCall) : Prop where
  negative : call.res.failed = true → call.reports = [] ∧ call.requests = []
  success : call.res.failed = false → call.res = .success ∧
    call.reports.length + call.requests.length = 1
  freed : call.frees + call.requests.length = 1

/-- The scheme is one that the two functions dispatch on. -/
def ChannelAddress.Known (addr : ChannelAddress) : Prop :=
  schemeBegins "ipv4" addr.scheme || schemeBegins "ipv6" addr.scheme ||
    schemeBegins "unix" addr.scheme ||
    schemeBegins "dns" addr.scheme

instance (addr : ChannelAddress) : Decidable addr.Known := inferInstanceAs (Decidable (_ = true))

/-- The call is a listen, or the channel refuses it, or its scheme is known. -/
def StreamCall.Dispatched (call : StreamCall) : Prop :=
  call.op = .listen ∨ refusal call.channel ≠ none ∨ call.addr.Known

/-! ### The functions -/

/-- How many callbacks from libuv a request can lead to. -/
def UvRequest.rounds : UvRequest → Nat
  | .connecting _ => 1
  | .resolving .. => 2

/-- A call has failed without a callback or leaves one for later, or makes it. -/
inductive StreamSetup.Once : StreamSetup → Prop where
  | failed {res : ErrorType} (negative : res.failed = true) : Once { res := res }
  | reported (report : StreamReport) : Once { res := .success, reports := [report] }
  | requested (request : UvRequest) : Once { res := .success, requests := [request] }

theorem StreamSetup.Once.reports_of_failed {setup : StreamSetup} (once : setup.Once)
    (failed : setup.res.failed = true) : setup.reports = [] := by
  cases once with
  | failed negative => rfl
  | reported report => cases failed
  | requested request => rfl

section Functions

variable {op : StreamOp} {channel : StreamChannel} {addr : ChannelAddress} {uv : UvOutcome}
  {res : ErrorType}

theorem refusal_failed {channel : Option StreamChannel} (refused : refusal channel = some res) :
    res.failed = true := by
  cases channel with
  | none =>
      cases refused
      rfl
  | some channel =>
      rw [refusal] at refused
      split at refused
      · cases refused
        rfl
      · split at refused
        · cases refused
        · cases refused
          rfl

theorem listenOn_once {bindFailed listenFailed : ErrorType} (bind : bindFailed.failed = true)
    (listen : listenFailed.failed = true) : (listenOn bindFailed listenFailed uv).Once := by
  rw [listenOn]
  split
  · exact .failed bind
  · split
    · exact .failed listen
    · cases ioStreamMakeConnection uv with
      | none => exact .failed rfl
      | some conn => exact .reported _

theorem resolve_once : (resolve op addr uv).Once := by
  rw [resolve]
  split
  · exact .failed rfl
  · exact .requested _

theorem ioStreamListen_once (channel : Option StreamChannel) :
    (ioStreamListen channel addr uv).Once := by
  rw [ioStreamListen]
  cases refused : refusal channel with
  | some res => exact .failed (refusal_failed refused)
  | none =>
      dsimp only
      split
      · exact listenOn_once rfl rfl
      · split
        · exact listenOn_once rfl rfl
        · split
          · exact resolve_once
          · exact .failed rfl

/-- A connect is as careful if it gets past the dispatch. -/
theorem ioStreamConnect_once {channel : Option StreamChannel}
    (dispatched : refusal channel ≠ none ∨ addr.Known) :
    (ioStreamConnect channel addr uv).Once := by
  rw [ioStreamConnect]
  cases refused : refusal channel with
  | some res => exact .failed (refusal_failed refused)
  | none =>
      dsimp only
      split
      · split
        · exact .failed rfl
        · exact .requested _
      · split
        · exact .requested _
        · split
          · exact resolve_once
          · rename_i notSocket notPipe notName
            have known : addr.Known := dispatched.resolve_left (absurd refused)
            simp only [Bool.not_eq_true] at notSocket notPipe notName
            rw [ChannelAddress.Known, notSocket, notPipe, notName] at known
            cases known

/-- Without a refusal and with another scheme it succeeds and does nothing. -/
theorem ioStreamConnect_unknown {channel : Option StreamChannel} (accepted : refusal channel = none)
    (unknown : ¬addr.Known) : ioStreamConnect channel addr uv = { res := .success } := by
  simp only [ChannelAddress.Known, Bool.or_eq_true, not_or] at unknown
  obtain ⟨⟨⟨notIpv4, notIpv6⟩, notUnix⟩, notDns⟩ := unknown
  simp [ioStreamConnect, accepted, notIpv4, notIpv6, notUnix, notDns]

/-- The address names a socket. -/
def ChannelAddress.Numeric (addr : ChannelAddress) : Prop :=
  (schemeBegins "ipv4" addr.scheme || schemeBegins "ipv6" addr.scheme) = true

/-- A numeric address is not looked up again. -/
theorem call_rounds {channel : Option StreamChannel} {request : UvRequest} (numeric : addr.Numeric)
    (left : request ∈ (op.call channel addr uv).requests) : request.rounds = 1 := by
  rw [ChannelAddress.Numeric] at numeric
  cases op with
  | listen =>
      rw [StreamOp.call, ioStreamListen] at left
      split at left
      · cases left
      · rw [if_pos numeric, listenOn] at left
        split at left
        · cases left
        · split at left
          · cases left
          · split at left <;> cases left
  | connect =>
      rw [StreamOp.call, ioStreamConnect] at left
      split at left
      · cases left
      · rw [if_pos numeric] at left
        split at left
        · cases left
        · rw [List.mem_singleton.mp left]
          rfl

theorem call_once_of_numeric {channel : Option StreamChannel} (numeric : addr.Numeric) :
    (op.call channel addr uv).Once := by
  cases op with
  | listen => exact ioStreamListen_once channel
  | connect =>
      refine ioStreamConnect_once (.inr ?_)
      rw [ChannelAddress.Known, numeric, Bool.true_or, Bool.true_or]

/-- A lookup that is done makes the callback or leaves a connect to make it. -/
structure StreamSetup.Settles (setup : StreamSetup) : Prop where
  once : setup.reports.length + setup.requests.length = 1
  rounds : (setup.requests.map UvRequest.rounds).sum < 2

theorem StreamOp.dnsCb_eq : op.dnsCb = dnsContinue op.call := by cases op <;> rfl

/-- The call made again settles it, or the callback that is made when it fails. -/
theorem continued_settles {channel : Option StreamChannel} (numeric : addr.Numeric) :
    let setup := op.call channel addr uv
    (if setup.res = .success then setup
      else { setup with reports := setup.reports ++ [⟨none, .dnsGetaddrFailed⟩] } :
        StreamSetup).Settles := by
  intro setup
  have once : setup.Once := call_once_of_numeric numeric
  have rounds : ∀ request ∈ setup.requests, request.rounds = 1 :=
    fun request left => call_rounds numeric left
  clear_value setup
  cases once with
  | failed negative =>
      rw [if_neg ((ErrorType.failed_iff _).mp negative)]
      exact ⟨rfl, Nat.zero_lt_two⟩
  | reported report => exact ⟨rfl, Nat.zero_lt_two⟩
  | requested request =>
      have one := rounds request (List.mem_singleton_self _)
      exact ⟨rfl, by simp [one]⟩

theorem dnsCb_settles (op : StreamOp) (channel : StreamChannel) (addr : ChannelAddress)
    (status : Int) (info : Option AddrInfo) (uv : UvOutcome) :
    (op.dnsCb channel addr status info uv).Settles := by
  rw [StreamOp.dnsCb_eq]
  unfold dnsContinue
  dsimp only
  split
  · exact ⟨rfl, by decide⟩
  · split
    · exact continued_settles rfl
    · exact continued_settles rfl
    · exact ⟨rfl, by decide⟩
    · exact ⟨rfl, by decide⟩

end Functions

/-! ### Runs -/

/-- What has come of a call: the rounds it can still take, and the callbacks made and to come. -/
structure StreamCall.Account (call : StreamCall) : Prop where
  rounds : call.rounds + (call.requests.map UvRequest.rounds).sum ≤ 2
  right : call.Dispatched → call.ReportsOnce
  silent : ¬call.Dispatched → call.res = .success ∧ call.reports = [] ∧ call.requests = []

theorem StreamCall.Account.start (op : StreamOp) (channel : Option StreamChannel)
    (addr : ChannelAddress) (uv : UvOutcome) : (StreamCall.start op channel addr uv).Account := by
  have right : ∀ {setup : StreamSetup}, op.call channel addr uv = setup → setup.Once →
      (StreamCall.start op channel addr uv).ReportsOnce ∧
        ((StreamCall.start op channel addr uv).requests.map UvRequest.rounds).sum ≤ 2 := by
    intro setup same once
    rw [StreamCall.start, same]
    cases once with
    | failed negative =>
        exact ⟨⟨fun _ => ⟨rfl, rfl⟩, by simp [negative], by simp [negative]⟩, by simp⟩
    | reported report =>
        exact ⟨⟨(fun failed => by cases failed), fun _ => ⟨rfl, rfl⟩, rfl⟩, by simp⟩
    | requested request =>
        refine ⟨⟨(fun failed => by cases failed), fun _ => ⟨rfl, rfl⟩, rfl⟩, ?_⟩
        cases request <;> simp [UvRequest.rounds]
  by_cases dispatched : (StreamCall.start op channel addr uv).Dispatched
  · have once : (op.call channel addr uv).Once := by
      cases op with
      | listen => exact ioStreamListen_once channel
      | connect => exact ioStreamConnect_once (dispatched.resolve_left StreamOp.noConfusion)
    obtain ⟨reports, rounds⟩ := right rfl once
    exact ⟨by simpa [StreamCall.start] using rounds, fun _ => reports,
      fun not => absurd dispatched not⟩
  · obtain ⟨notListen, accepted, unknown⟩ : op ≠ .listen ∧ refusal channel = none ∧
        ¬addr.Known := by
      simpa [StreamCall.Dispatched, StreamCall.start, not_or] using dispatched
    cases op with
    | listen => exact absurd rfl notListen
    | connect =>
        have nothing : StreamOp.connect.call channel addr uv = { res := .success } :=
          ioStreamConnect_unknown accepted unknown
        refine ⟨?_, fun dispatched' => absurd dispatched' dispatched, fun _ => ?_⟩
        · simp [StreamCall.start, nothing]
        · simp [StreamCall.start, nothing]

/-- libuv calls back for a request: one round less to come, and for each callback to come one that
    is made or still to come. -/
theorem StreamCall.Account.answer {call : StreamCall} {request : UvRequest}
    {reports : List StreamReport} {requests : List UvRequest} (account : call.Account)
    (pending : request ∈ call.requests) (once : reports.length + requests.length = 1)
    (fewer : (requests.map UvRequest.rounds).sum < request.rounds) :
    (call.answer request reports requests).Account := by
  have dispatched : call.Dispatched := by
    by_contra not
    rw [(account.silent not).2.2] at pending
    cases pending
  obtain ⟨negative, success, freed⟩ := account.right dispatched
  have accepted : call.res.failed = false := by
    rw [← Bool.not_eq_true]
    intro failed
    rw [(negative failed).2] at pending
    cases pending
  have shorter : (call.requests.erase request).length + 1 = call.requests.length :=
    List.length_erase_add_one pending
  have rounds : request.rounds + ((call.requests.erase request).map UvRequest.rounds).sum =
      (call.requests.map UvRequest.rounds).sum := by
    simpa using ((List.perm_cons_erase pending).map UvRequest.rounds).sum_nat.symm
  have budget := account.rounds
  obtain ⟨succeeded, reported⟩ := success accepted
  refine ⟨?_, fun _ => ⟨?_, fun _ => ⟨succeeded, ?_⟩, ?_⟩, fun not => absurd dispatched not⟩
  · simp only [StreamCall.answer, List.map_append, List.sum_append]
    omega
  · exact fun failed => absurd failed (by simp [StreamCall.answer, accepted])
  · simp only [StreamCall.answer, List.length_append]
    omega
  · simp only [StreamCall.answer, List.length_append]
    omega

/-- All calls that were made. -/
def Accounted (calls : List StreamCall) : Prop := ∀ call ∈ calls, call.Account

theorem Accounted.step {calls calls' : List StreamCall} {label : StreamCallLabel}
    (accounts : Accounted calls) (taken : StreamCallStep calls label calls') :
    Accounted calls' := by
  cases taken with
  | start op channel addr uv =>
      intro call member
      rcases List.mem_append.mp member with old | new
      · exact accounts call old
      · rw [List.mem_singleton.mp new]
        exact .start op channel addr uv
  | connected channel status uv made pending =>
      intro call member
      rcases List.mem_or_eq_of_mem_set member with old | rfl
      · exact accounts call old
      · exact (accounts _ (List.mem_of_getElem? made)).answer pending rfl Nat.zero_lt_one
  | @resolved i call op addr channel status info uv made pending =>
      intro call member
      rcases List.mem_or_eq_of_mem_set member with old | rfl
      · exact accounts call old
      · have settles := dnsCb_settles op channel addr status info uv
        exact (accounts _ (List.mem_of_getElem? made)).answer pending settles.once settles.rounds

theorem streamCalls_account {calls : List StreamCall}
    {made : List (Transition (List StreamCall) StreamCallLabel)}
    (run : Run StreamCallStep [] made calls) : Accounted calls := by
  have initial : Accounted [] := fun call member => absurd member List.not_mem_nil
  exact run.invariant initial (fun t accounts taken (_ : True) => accounts.step taken) fun _ _ =>
    trivial

/-- In every run libuv calls back at most twice for a call, and a call reports its outcome once
    exactly if it is not a connect that the channel takes with a scheme it does not know. -/
theorem streamCalls_report_iff {calls : List StreamCall}
    {made : List (Transition (List StreamCall) StreamCallLabel)}
    (run : Run StreamCallStep [] made calls) :
    ∀ call ∈ calls, call.rounds ≤ 2 ∧ (call.ReportsOnce ↔ call.Dispatched) := by
  intro call member
  have account := streamCalls_account run call member
  refine ⟨Nat.le_of_add_right_le account.rounds, fun once => ?_, account.right⟩
  by_contra silent
  obtain ⟨succeeded, noReport, noRequest⟩ := account.silent silent
  have reported := (once.success (by rw [succeeded]; rfl)).2
  rw [noReport, noRequest] at reported
  cases reported

/-- A connect to a name: the name is found and the connect to its address made, and only then it is
    reported. -/
theorem streamCalls_report_iff_name :
    let addr := makeAddressOf "dns".toList "localhost".toList 16387
    let call := StreamCall.start .connect (some {}) addr {}
    let resolved := call.answer (.resolving .connect addr) [] [.connecting false]
    let connected := resolved.answer (.connecting false) [⟨some 5, .success⟩] []
    connected.rounds = 2 ∧ connected.ReportsOnce := by
  intro addr call resolved connected
  have lookup : StreamCallStep [call] (.resolved 0) [resolved] :=
    .resolved {} 0 (some (.inet "127.0.0.1".toList)) {} rfl (List.mem_singleton_self _)
  have connect : StreamCallStep [resolved] (.connected 0) [connected] :=
    .connected {} 0 { fileno := some 5 } rfl (List.mem_singleton_self _)
  have begin : StreamCallStep [] .start [call] := .start .connect (some {}) addr {}
  have run := ((Run.refl.tail begin).tail lookup).tail connect
  exact ⟨rfl, (streamCalls_report_iff run connected (List.mem_singleton_self _)).2.mpr
    (.inr (.inr (by decide)))⟩

/-- A connect with a scheme that nobody knows succeeds. Nothing is left with libuv, so that the
    callback is never made, and what was passed to it is not freed. -/
theorem unknown_scheme_is_silent :
    let call :=
  StreamCall.start .connect (some {}) (makeAddressOf "udp".toList "127.0.0.1".toList 16387) {}
    ∃ made, Run StreamCallStep [] made [call] ∧ call.res = .success ∧ call.reports = [] ∧
    call.requests = [] ∧
      call.frees = 0 ∧ ¬call.ReportsOnce := by
  intro call
  refine ⟨_, Run.refl.tail (StreamCallStep.start .connect (some {}) _ {}), rfl, rfl, rfl, rfl,
    fun once => ?_⟩
  exact absurd (once.success rfl).2 (by decide)

end LibAtbus.Channel
