/-
Module: LibAtbus.Proofs.ConnPoolClosing
Layer: Proofs
Purpose: Closing a connection concerns that connection and no other exactly in the runs in which no
  descriptor is given out again before the entry of its last connection has been erased.
Trusted boundary: none
Main exports: ClosesOnlyOwn, FdFresh, PoolInvariant, closing_iff_fresh, close_hits_reused_fd
-/
import LibAtbus.Channel.ConnPool
import LibAtbus.Foundation.Transitions
import Mathlib.Data.List.Nodup

namespace LibAtbus.Channel

open Transitions

/-! ### The property and its condition -/

/-- A close callback is fired for the connection that was closed and erases that entry only; a
    connected connection that is not being disconnected stays in the pool as it is; and nothing
    leaves the pool but by its own close callback. -/
structure ClosesOnlyOwn (t : Transition ConnPoolState ConnPoolLabel) : Prop where
  fires : ∀ conn connection, t.label = .connectionOnClose conn →
    t.pre.conns conn = some connection →
      closeEvents t.pre conn connection = .disconnected conn ::
          (if connection.actDiscCbk then [.actDisconnected conn] else []) ∧
        t.pre.connPool connection.fd = some conn ∧
        t.post.connPool = Function.update t.pre.connPool connection.fd none
  stays : ∀ conn connection, t.pre.conns conn = some connection → connection.status = .connected →
    (∀ callback, t.label ≠ .disconnect conn callback) →
      t.post.conns conn = some connection ∧ t.post.connPool connection.fd = some conn
  keeps : ∀ fd conn, t.pre.connPool fd = some conn → t.post.connPool fd ≠ some conn →
    t.label = .connectionOnClose conn

/-- A new connection gets a descriptor under which the pool has no entry. -/
def FdFresh (t : Transition ConnPoolState ConnPoolLabel) : Prop :=
  ∀ conn fd, t.label = .makeConnection conn fd → t.pre.connPool fd = none

/-! ### What a step can do -/

section

variable {state after : ConnPoolState} {label : ConnPoolLabel}

theorem connPoolStep_cases (taken : connPoolStep state label = some after) :
    (∃ conn fd, label = .makeConnection conn fd ∧ state.conns conn = none ∧
        after = makeConnection state conn fd) ∨
      (∃ conn callback connection, label = .disconnect conn callback ∧
        state.conns conn = some connection ∧ state.connPool connection.fd = some conn ∧
        after = disconnect state conn connection callback) ∨
      ∃ conn connection, label = .connectionOnClose conn ∧ state.conns conn = some connection ∧
        conn ∈ state.closing ∧
        after = { connectionOnClose state connection with
          closing := state.closing.erase conn } := by
  cases label with
  | makeConnection conn fd =>
      simp only [connPoolStep] at taken
      split at taken
      · rename_i fresh
        cases taken
        exact Or.inl ⟨conn, fd, rfl, fresh.1, rfl⟩
      · cases taken
  | disconnect conn callback =>
      simp only [connPoolStep] at taken
      split at taken
      · rename_i connection found
        split at taken
        · rename_i kept
          cases taken
          exact Or.inr (Or.inl ⟨conn, callback, connection, rfl, found, kept, rfl⟩)
        · cases taken
      · cases taken
  | connectionOnClose conn =>
      simp only [connPoolStep] at taken
      split at taken
      · rename_i connection found
        split at taken
        · rename_i pending
          cases taken
          exact Or.inr (Or.inr ⟨conn, connection, rfl, found, pending, rfl⟩)
        · cases taken
      · cases taken

/-- A disconnect changes no entry of the pool. -/
theorem disconnect_connPool {conn : Nat} {connection : Connection} {callback : Bool} :
    (disconnect state conn connection callback).connPool = state.connPool := by
  unfold disconnect
  split <;> rfl

/-- A disconnect touches one connection only. -/
theorem disconnect_conns_of_ne {conn other : Nat} {connection : Connection} {callback : Bool}
    (differ : other ≠ conn) :
    (disconnect state conn connection callback).conns other = state.conns other := by
  unfold disconnect
  split <;> exact Function.update_of_ne differ _ _

/-- A close callback that finds its own connection. -/
theorem connectionOnClose_own {conn : Nat} {connection : Connection}
    (known : state.conns conn = some connection) (kept : state.connPool connection.fd = some conn) :
    connectionOnClose state connection = { state with
      connPool := Function.update state.connPool connection.fd none
      conns := Function.update state.conns conn
        (some { connection with status := .disconnected }) } := by
  unfold connectionOnClose
  rw [kept]
  dsimp only
  rw [known, Option.map_some]

end

/-! ### What holds in every run -/

/-- The pool keeps connection objects only. -/
def PoolKnown (state : ConnPoolState) : Prop :=
  ∀ fd conn, state.connPool fd = some conn → state.conns conn ≠ none

/-- A step that drops no entry but by its own close callback was given a fresh descriptor. -/
theorem FdFresh.of_closesOnlyOwn {t : Transition ConnPoolState ConnPoolLabel}
    (known : PoolKnown t.pre) (taken : connPoolStep t.pre t.label = some t.post)
    (own : ClosesOnlyOwn t) : FdFresh t := by
  intro conn fd isMake
  rcases connPoolStep_cases taken with ⟨made, fd', label, new, post⟩ |
    ⟨other, callback, connection, label, _⟩ | ⟨other, connection, label, _⟩
  · rw [isMake] at label
    cases label
    cases found : t.pre.connPool fd with
    | none => rfl
    | some old =>
        have replaced : t.post.connPool fd ≠ some old := by
          rw [post]
          intro same
          simp only [makeConnection, Function.update_self, Option.some.injEq] at same
          subst same
          exact known fd conn found new
        have closed := own.keeps fd old found replaced
        rw [isMake] at closed
        cases closed
  · rw [isMake] at label
    cases label
  · rw [isMake] at label
    cases label

/-- Every step keeps known what the pool keeps. -/
theorem PoolKnown.step {state after : ConnPoolState} {label : ConnPoolLabel}
    (known : PoolKnown state) (taken : connPoolStep state label = some after) :
    PoolKnown after := by
  rcases connPoolStep_cases taken with ⟨made, fd', _, _, rfl⟩ |
    ⟨other, callback, connection, _, found, kept, rfl⟩ | ⟨other, connection, _, found, _, rfl⟩
  · intro fd conn entry
    by_cases same : conn = made
    · simp [makeConnection, same]
    · have old : state.connPool fd = some conn := by
        by_cases here : fd = fd'
        · rw [here] at entry
          simp only [makeConnection, Function.update_self, Option.some.injEq] at entry
          exact absurd entry.symm same
        · simpa [makeConnection, Function.update_of_ne here] using entry
      simpa [makeConnection, Function.update_of_ne same] using known fd conn old
  · intro fd conn entry
    rw [disconnect_connPool] at entry
    by_cases same : conn = other
    · unfold disconnect
      split <;> simp [same]
    · rw [disconnect_conns_of_ne same]
      exact known fd conn entry
  · intro fd conn entry
    unfold connectionOnClose at entry ⊢
    split at entry
    · exact known fd conn entry
    · rename_i other' _
      have old : state.connPool fd = some conn := by
        by_cases here : fd = connection.fd
        · simp [here] at entry
        · simpa [Function.update_of_ne here] using entry
      have before := known fd conn old
      by_cases same : conn = other'
      · subst same
        simpa using before
      · simpa [Function.update_of_ne same] using before

/-! ### What holds as long as descriptors are fresh -/

/-- The entries of the pool are the connections that have not had their close callback, each under
    its own descriptor, and the callbacks to come are those of the connections being
    disconnected. -/
structure PoolInvariant (state : ConnPoolState) : Prop where
  keyed : ∀ fd conn, state.connPool fd = some conn → ∃ connection,
    state.conns conn = some connection ∧ connection.fd = fd ∧ connection.status ≠ .disconnected
  stored : ∀ conn connection, state.conns conn = some connection →
    connection.status ≠ .disconnected → state.connPool connection.fd = some conn
  closing : ∀ conn, conn ∈ state.closing ↔ ∃ connection,
    state.conns conn = some connection ∧ connection.status = .disconnecting
  once : state.closing.Nodup

theorem ConnPoolState.init_invariant : PoolInvariant .init where
  keyed := fun _ _ entry => nomatch entry
  stored := fun _ _ known => nomatch known
  closing := fun _ => by simp [ConnPoolState.init]
  once := List.nodup_nil

section

variable {state : ConnPoolState} {conn fd : Nat} {connection : Connection}

theorem PoolInvariant.makeConnection (holds : PoolInvariant state) (new : state.conns conn = none)
    (fresh : state.connPool fd = none) : PoolInvariant (makeConnection state conn fd) where
  keyed := by
    intro fd' conn' entry
    by_cases here : fd' = fd
    · subst here
      simp only [Channel.makeConnection, Function.update_self, Option.some.injEq] at entry
      subst entry
      exact ⟨_, Function.update_self .., rfl, by simp⟩
    · simp only [Channel.makeConnection, Function.update_of_ne here] at entry
      obtain ⟨connection, known, own, live⟩ := holds.keyed fd' conn' entry
      have other : conn' ≠ conn := by
        rintro rfl
        rw [new] at known
        cases known
      exact ⟨connection, (Function.update_of_ne other _ _).trans known, own, live⟩
  stored := by
    intro conn' connection known live
    by_cases same : conn' = conn
    · subst same
      simp only [Channel.makeConnection, Function.update_self, Option.some.injEq] at known
      subst known
      exact Function.update_self ..
    · simp only [Channel.makeConnection, Function.update_of_ne same] at known
      have entry := holds.stored conn' connection known live
      have elsewhere : connection.fd ≠ fd := by
        intro here
        rw [here, fresh] at entry
        cases entry
      exact (Function.update_of_ne elsewhere _ _).trans entry
  closing := by
    intro conn'
    show conn' ∈ state.closing ↔ _
    by_cases same : conn' = conn
    · subst same
      rw [holds.closing conn', new]
      simp [Channel.makeConnection]
    · rw [holds.closing conn']
      simp [Channel.makeConnection, Function.update_of_ne same]
  once := holds.once

/-- A connection in the pool that gets another status keeps its descriptor, and the entries are as
    before. -/
theorem PoolInvariant.rewritten {callback : Bool} (holds : PoolInvariant state)
    (known : state.conns conn = some connection) (kept : state.connPool connection.fd = some conn)
    {status : ConnStatus} (open_ : status ≠ .disconnected) :
    (∀ fd' conn', state.connPool fd' = some conn' → ∃ connection',
      Function.update state.conns conn (some ⟨connection.fd, status, callback⟩) conn' =
        some connection' ∧
        connection'.fd = fd' ∧ connection'.status ≠ .disconnected) ∧
    ∀ conn' connection',
      Function.update state.conns conn (some ⟨connection.fd, status, callback⟩) conn' =
        some connection' → connection'.status ≠ .disconnected →
        state.connPool connection'.fd = some conn' := by
  constructor
  · intro fd' conn' entry
    obtain ⟨connection', known', own, live'⟩ := holds.keyed fd' conn' entry
    by_cases same : conn' = conn
    · subst same
      rw [known] at known'
      cases known'
      exact ⟨_, Function.update_self .., own, open_⟩
    · exact ⟨connection', (Function.update_of_ne same _ _).trans known', own, live'⟩
  · intro conn' connection' known' live'
    by_cases same : conn' = conn
    · subst same
      rw [Function.update_self] at known'
      cases known'
      exact kept
    · rw [Function.update_of_ne same] at known'
      exact holds.stored conn' connection' known' live'

theorem PoolInvariant.disconnect {callback : Bool} (holds : PoolInvariant state)
    (known : state.conns conn = some connection) (kept : state.connPool connection.fd = some conn) :
    PoolInvariant (disconnect state conn connection callback) := by
  -- in either branch the connection keeps its descriptor and gets a status that is not the last one
  have live : connection.status ≠ .disconnected := by
    obtain ⟨connection', known', _, live⟩ := holds.keyed _ _ kept
    rw [known] at known'
    cases known'
    exact live
  unfold Channel.disconnect
  split
  · rename_i connected
    have notClosing : conn ∉ state.closing := by
      intro member
      obtain ⟨connection', known', closing⟩ := (holds.closing conn).mp member
      rw [known] at known'
      cases known'
      rw [connected] at closing
      cases closing
    have other : ConnStatus.disconnecting ≠ .disconnected := by decide
    obtain ⟨keyed, stored⟩ := holds.rewritten known kept other
    refine ⟨keyed, stored, ?_, ?_⟩
    · intro conn'
      by_cases same : conn' = conn
      · simp [same]
      · simp [same, holds.closing conn']
    · rw [List.nodup_append]
      refine ⟨holds.once, List.nodup_singleton conn, ?_⟩
      intro other member conn' isConn same
      rw [List.mem_singleton.mp isConn] at same
      exact notClosing (same ▸ member)
  · obtain ⟨keyed, stored⟩ := holds.rewritten known kept live
    refine ⟨keyed, stored, ?_, holds.once⟩
    intro conn'
    rw [holds.closing conn']
    by_cases same : conn' = conn
    · simp [same, known]
    · simp [Function.update_of_ne same]

/-- A close callback finds its own connection under the descriptor. -/
theorem PoolInvariant.own_entry (holds : PoolInvariant state)
    (known : state.conns conn = some connection) (pending : conn ∈ state.closing) :
    state.connPool connection.fd = some conn := by
  obtain ⟨connection', known', closing⟩ := (holds.closing conn).mp pending
  rw [known] at known'
  cases known'
  exact holds.stored conn connection known (by simp [closing])

theorem PoolInvariant.connectionOnClose (holds : PoolInvariant state)
    (known : state.conns conn = some connection) (pending : conn ∈ state.closing) :
    PoolInvariant { connectionOnClose state connection with
      closing := state.closing.erase conn } := by
  have kept := holds.own_entry known pending
  rw [connectionOnClose_own known kept]
  refine
    { keyed := ?_
      stored := ?_
      closing := ?_
      once := holds.once.erase conn }
  · intro fd' conn' entry
    by_cases here : fd' = connection.fd
    · simp [here] at entry
    · simp only [Function.update_of_ne here] at entry
      obtain ⟨connection', known', own, live⟩ := holds.keyed fd' conn' entry
      have other : conn' ≠ conn := by
        rintro rfl
        rw [known] at known'
        cases known'
        exact here own.symm
      exact ⟨connection', (Function.update_of_ne other _ _).trans known', own, live⟩
  · intro conn' connection' known' live
    by_cases same : conn' = conn
    · subst same
      simp only [Function.update_self, Option.some.injEq] at known'
      subst known'
      exact absurd rfl live
    · simp only [Function.update_of_ne same] at known'
      have entry := holds.stored conn' connection' known' live
      have elsewhere : connection'.fd ≠ connection.fd := by
        intro here
        rw [here, kept] at entry
        cases entry
        exact same rfl
      exact (Function.update_of_ne elsewhere _ _).trans entry
  · intro conn'
    by_cases same : conn' = conn
    · subst same
      simp [holds.once.not_mem_erase]
    · rw [List.mem_erase_of_ne same, holds.closing conn']
      simp [Function.update_of_ne same]

/-! ### One step closes only its own -/

theorem closesOnlyOwn_makeConnection (holds : PoolInvariant state) (new : state.conns conn = none)
    (unused : state.connPool fd = none) :
    ClosesOnlyOwn ⟨state, .makeConnection conn fd, makeConnection state conn fd⟩ := by
  refine ⟨fun _ _ isClose => (nomatch isClose), ?_, ?_⟩
  · intro conn' connection known connected _
    have other : conn' ≠ conn := by
      rintro rfl
      rw [new] at known
      cases known
    have entry := holds.stored conn' connection known (by simp [connected])
    have elsewhere : connection.fd ≠ fd := by
      intro here
      rw [here, unused] at entry
      cases entry
    exact ⟨(Function.update_of_ne other _ _).trans known,
      (Function.update_of_ne elsewhere _ _).trans entry⟩
  · intro fd' conn' entry gone
    have elsewhere : fd' ≠ fd := by
      rintro rfl
      rw [show state.connPool fd' = none from unused] at entry
      cases entry
    exact absurd ((Function.update_of_ne elsewhere _ _).trans entry) gone

theorem closesOnlyOwn_disconnect (holds : PoolInvariant state) {callback : Bool} :
    ClosesOnlyOwn ⟨state, .disconnect conn callback,
      disconnect state conn connection callback⟩ := by
  refine ⟨fun _ _ isClose => (nomatch isClose), ?_, ?_⟩
  · intro conn' connection' known' connected notOwn
    have other : conn' ≠ conn := by
      rintro rfl
      exact notOwn callback rfl
    dsimp only
    rw [disconnect_conns_of_ne other, disconnect_connPool]
    exact ⟨known', holds.stored conn' connection' known' (by simp [connected])⟩
  · intro fd conn' entry gone
    dsimp only at gone
    rw [disconnect_connPool] at gone
    exact absurd entry gone

theorem closesOnlyOwn_connectionOnClose (holds : PoolInvariant state)
    (known : state.conns conn = some connection) (pending : conn ∈ state.closing) :
    ClosesOnlyOwn ⟨state, .connectionOnClose conn,
      { connectionOnClose state connection with closing := state.closing.erase conn }⟩ := by
  have kept := holds.own_entry known pending
  refine ⟨?_, ?_, ?_⟩
  · intro conn' connection' isClose known'
    cases isClose
    dsimp only at known' ⊢
    rw [known] at known'
    cases known'
    refine ⟨?_, kept, ?_⟩
    · rw [closeEvents, kept]
    · rw [connectionOnClose_own known kept]
  · intro conn' connection' known' connected _
    have other : conn' ≠ conn := by
      rintro rfl
      obtain ⟨connection'', known'', closing⟩ := (holds.closing conn').mp pending
      rw [show state.conns conn' = some connection' from known'] at known''
      cases known''
      rw [connected] at closing
      cases closing
    have entry := holds.stored conn' connection' known' (by simp [connected])
    have elsewhere : connection'.fd ≠ connection.fd := by
      intro here
      rw [here, kept] at entry
      cases entry
      exact other rfl
    dsimp only
    rw [connectionOnClose_own known kept]
    exact ⟨(Function.update_of_ne other _ _).trans known',
      (Function.update_of_ne elsewhere _ _).trans entry⟩
  · intro fd conn' entry gone
    dsimp only at gone entry
    rw [connectionOnClose_own known kept] at gone
    by_cases here : fd = connection.fd
    · rw [here, kept] at entry
      cases entry
      rfl
    · exact absurd ((Function.update_of_ne here _ _).trans entry) gone

end

/-- The step lemma: with a fresh descriptor the invariant is kept and the step closes only its
    own. -/
theorem connPoolStep_own (t : Transition ConnPoolState ConnPoolLabel) (holds : PoolInvariant t.pre)
    (taken : connPoolStep t.pre t.label = some t.post) (fresh : FdFresh t) :
    PoolInvariant t.post ∧ ClosesOnlyOwn t := by
  obtain ⟨state, label, after⟩ := t
  rcases connPoolStep_cases taken with ⟨conn, fd, isLabel, new, post⟩ |
    ⟨conn, callback, connection, isLabel, known, kept, post⟩ |
    ⟨conn, connection, isLabel, known, pending, post⟩
  · dsimp only at isLabel post
    subst isLabel post
    have unused := fresh conn fd rfl
    exact ⟨holds.makeConnection new unused, closesOnlyOwn_makeConnection holds new unused⟩
  · dsimp only at isLabel post
    subst isLabel post
    exact ⟨holds.disconnect known kept, closesOnlyOwn_disconnect holds⟩
  · dsimp only at isLabel post
    subst isLabel post
    exact ⟨holds.connectionOnClose known pending,
      closesOnlyOwn_connectionOnClose holds known pending⟩

/-! ### Runs -/

/-- In every run from a channel without connections: every close concerns its own connection and no
    other if and only if every new connection gets a descriptor the pool has no entry for. -/
theorem closing_iff_fresh {final : ConnPoolState}
    {made : List (Transition ConnPoolState ConnPoolLabel)}
    (run : Run (fun state label after => connPoolStep state label = some after) .init made final) :
    (∀ t ∈ made, ClosesOnlyOwn t) ↔ ∀ t ∈ made, FdFresh t := by
  constructor
  · intro own
    have known : PoolKnown .init := fun _ _ entry => nomatch entry
    have kept : ∀ t : Transition ConnPoolState ConnPoolLabel, PoolKnown t.pre →
        connPoolStep t.pre t.label = some t.post → ClosesOnlyOwn t → PoolKnown t.post ∧ FdFresh t :=
      fun t known taken own => ⟨known.step taken, .of_closesOnlyOwn known taken own⟩
    exact (run.forall_transition known kept own).2
  · intro fresh
    exact (run.forall_transition ConnPoolState.init_invariant connPoolStep_own fresh).2

/-- Two connections are open when the first is closed; only after its callback its descriptor is
    given to a third. -/
theorem closing_iff_fresh_three_connections :
    ∃ made final,
      Run (fun state label after => connPoolStep state label = some after) .init made final ∧
      made.map Transition.label =
        [.makeConnection 0 5, .makeConnection 1 6, .disconnect 0 true, .connectionOnClose 0,
          .makeConnection 2 5] ∧
      ∀ t ∈ made, ClosesOnlyOwn t := by
  let made₀ := makeConnection .init 0 5
  let made₁ := makeConnection made₀ 1 6
  let closing₀ := disconnect made₁ 0 ⟨5, .connected, false⟩ true
  let closed₀ : ConnPoolState :=
    { connectionOnClose closing₀ ⟨5, .disconnecting, true⟩ with
      closing := closing₀.closing.erase 0 }
  have step₁ : connPoolStep .init (.makeConnection 0 5) = some made₀ := rfl
  have step₂ : connPoolStep made₀ (.makeConnection 1 6) = some made₁ := rfl
  have step₃ : connPoolStep made₁ (.disconnect 0 true) = some closing₀ := rfl
  have step₄ : connPoolStep closing₀ (.connectionOnClose 0) = some closed₀ := rfl
  have step₅ : connPoolStep closed₀ (.makeConnection 2 5) = some (makeConnection closed₀ 2 5) := rfl
  have run : Run (fun state label after => connPoolStep state label = some after) .init _
      (makeConnection closed₀ 2 5) :=
    ((((Run.refl.tail step₁).tail step₂).tail step₃).tail step₄).tail step₅
  refine ⟨_, _, run, rfl, (closing_iff_fresh run).mpr ?_⟩
  intro t member conn fd isMake
  simp only [List.nil_append, List.cons_append, List.mem_cons, List.not_mem_nil, or_false] at member
  rcases member with rfl | rfl | rfl | rfl | rfl
  · cases isMake
    rfl
  · cases isMake
    rfl
  · cases isMake
  · cases isMake
  · cases isMake
    rfl

/-- A connection is closed, its descriptor is given to a new one, and then the close callback of the
    first runs: the pool has dropped the first before its callback, which is fired for the second
    and erases it. -/
theorem close_hits_reused_fd :
    ∃ made final, Run (fun state label after => connPoolStep state label = some after) .init made
        final ∧
      (∃ t ∈ made, t.label = .makeConnection 1 5 ∧ t.pre.connPool 5 = some 0 ∧
        t.post.connPool 5 = some 1) ∧
      ∃ t ∈ made, t.label = .connectionOnClose 0 ∧ ¬ClosesOnlyOwn t ∧
        (t.pre.conns 0).map (closeEvents t.pre 0) = some [.disconnected 1, .actDisconnected 0] ∧
        (t.pre.conns 1).map Connection.status = some .connected ∧ t.post.connPool 5 = none := by
  let made₀ := makeConnection .init 0 5
  let closing₀ := disconnect made₀ 0 ⟨5, .connected, false⟩ true
  let made₁ := makeConnection closing₀ 1 5
  let closed₀ : ConnPoolState :=
    { connectionOnClose made₁ ⟨5, .disconnecting, true⟩ with closing := made₁.closing.erase 0 }
  have step₁ : connPoolStep .init (.makeConnection 0 5) = some made₀ := rfl
  have step₂ : connPoolStep made₀ (.disconnect 0 true) = some closing₀ := rfl
  have step₃ : connPoolStep closing₀ (.makeConnection 1 5) = some made₁ := rfl
  have step₄ : connPoolStep made₁ (.connectionOnClose 0) = some closed₀ := rfl
  refine ⟨_, closed₀, (((Run.refl.tail step₁).tail step₂).tail step₃).tail step₄,
    ⟨⟨closing₀, .makeConnection 1 5, made₁⟩, by simp, rfl, rfl, rfl⟩,
    ⟨made₁, .connectionOnClose 0, closed₀⟩, by simp, rfl, ?_, rfl, rfl, rfl⟩
  intro own
  have kept := (own.fires 0 ⟨5, .disconnecting, true⟩ rfl rfl).2.1
  exact absurd kept (by decide)

end LibAtbus.Channel
