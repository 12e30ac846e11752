/-
Module: LibAtbus.Proofs.ProcRegistration
Layer: Proofs
Purpose: Which connections a node polls, over every run of calls on connections to memory channels.
  The table is keyed by address, and a connection removes whatever is registered under its own; that
  is its own entry exactly as long as nobody listens at an address that is taken, and no other
  connection that is closed shares the address of a listener.
Trusted boundary: none
Main exports: Registered, Separate, Polling, StartsListening, connectionStep_keeps,
  proc_registrations_iff, closed_connection_unregisters_listener
-/
import LibAtbus.Foundation.Transitions
import LibAtbus.Proofs.SetupFailure

namespace LibAtbus.Node

open Channel Transitions

/-- Every connection that listens is polled, and what is polled listens, at its own address and in
    the state CONNECTED. -/
structure Registered (s : ListeningNode) : Prop where
  polled : ∀ i, s.listening i = true → s.node.procConnections (s.node.conns i).address.address =
    some i
  own : ∀ key i, s.node.procConnections key = some i →
    s.listening i = true ∧ (s.node.conns i).state = .connected ∧
    (s.node.conns i).address.address = key

/-- The connection is in use, so that closing it does something. -/
def BusConnection.Open (conn : BusConnection) : Prop :=
  conn.state ≠ .disconnected ∧ conn.state ≠ .disconnecting

instance (conn : BusConnection) : Decidable conn.Open :=
  inferInstanceAs (Decidable (conn.state ≠ .disconnected ∧ conn.state ≠ .disconnecting))

/-- What closing the connection removes from the table is its own entry. -/
def OwnEntry (n : ConnectionNode) (i : Nat) : Prop :=
  (n.conns i).Open → (n.conns i).regProc = true →
    ∀ j, n.procConnections (n.conns i).address.address = some j → j = i

/-- A listen at the address opens a memory channel. -/
def Opens (text : List Char) (env : SetupEnv) : Prop :=
  (∃ addr, makeAddress text {} = .ok (true, addr)) ∧
    (ConnectionNode.openShare env.share).failed = false

/-- A listen that opens a memory channel does it at an address that nobody is registered under; and
    nobody else is registered under the address of a connection that is closed with the flag
    REG_PROC. -/
def Separate (t : Transition ListeningNode ConnectionCall) : Prop :=
  match t.label with
  | .setup .listen i text env =>
      (t.pre.node.conns i).state = .disconnected → Opens text env →
        t.pre.node.procConnections text = none
  | .setup .connect _ _ _ => True
  | .disconnect i | .reset i => OwnEntry t.pre.node i
  | .bind _ => True

/-- What holds in every state while the connections are apart: besides, who listens has the flag
    REG_PROC. -/
structure Polling (s : ListeningNode) : Prop where
  registered : Registered s
  regProc : ∀ i, s.listening i = true → (s.node.conns i).regProc = true

variable {s s' : ListeningNode} {n : ConnectionNode} {i : Nat} {text : List Char} {env : SetupEnv}
  {conn : BusConnection} {op : StreamOp}

/-! ### Connections that do not listen -/

theorem Registered.connected (registered : Registered s) (listens : s.listening i = true) :
    (s.node.conns i).state = .connected :=
  (registered.own _ i (registered.polled i listens)).2.1

theorem Registered.opened (registered : Registered s) (listens : s.listening i = true) :
    (s.node.conns i).Open := by
  rw [BusConnection.Open, registered.connected listens]
  exact ⟨ConnState.noConfusion, ConnState.noConfusion⟩

/-- A connection that is not in use does not listen. -/
theorem Registered.idle (registered : Registered s) (closed : ¬(s.node.conns i).Open) :
    s.listening i = false :=
  Bool.eq_false_of_not_eq_true fun listens => closed (registered.opened listens)

/-- A connection that does not listen may change, with the table left alone. -/
theorem Polling.frame (polling : Polling s) (idle : s.listening i = false)
    (conns : s'.node.conns = Function.update s.node.conns i conn)
    (table : s'.node.procConnections = s.node.procConnections)
    (listening : s'.listening = s.listening) : Polling s' := by
  have other : ∀ {j}, s.listening j = true → s'.node.conns j = s.node.conns j := by
    intro j listens
    rw [conns, Function.update_of_ne]
    rintro rfl
    rw [idle] at listens
    cases listens
  refine ⟨⟨fun j listens => ?_, fun key j entry => ?_⟩, fun j listens => ?_⟩
  · rw [listening] at listens
    rw [table, other listens]
    exact polling.registered.polled j listens
  · rw [table] at entry
    obtain ⟨listens, known⟩ := polling.registered.own key j entry
    rw [listening, other listens]
    exact ⟨listens, known⟩
  · rw [listening] at listens
    rw [other listens]
    exact polling.regProc j listens

/-- Binding changes the state of a connection only while it is not listening. -/
theorem Polling.bind (polling : Polling s) (i : Nat) :
    Polling { s with node := s.node.bindConn i } := by
  have other : ∀ {j}, s.listening j = true → ((s.node.bindConn i).conns j).state = .connected ∧
      ((s.node.bindConn i).conns j).address = (s.node.conns j).address ∧
      ((s.node.bindConn i).conns j).regProc = (s.node.conns j).regProc := by
    intro j listens
    have state := polling.registered.connected listens
    by_cases same : j = i
    · subst same
      rw [ConnectionNode.bindConn, setConn_conns]
      split
      · exact ⟨state, rfl, rfl⟩
      · refine ⟨?_, rfl, rfl⟩
        simp [state]
    · rw [ConnectionNode.bindConn, setConn_other same]
      exact ⟨state, rfl, rfl⟩
  refine ⟨⟨fun j listens => ?_, fun key j entry => ?_⟩, fun j listens => ?_⟩
  · rw [(other listens).2.1]
    exact polling.registered.polled j listens
  · obtain ⟨listens, -, address⟩ := polling.registered.own key j entry
    refine ⟨listens, (other listens).1, ?_⟩
    rw [(other listens).2.1]
    exact address
  · rw [(other listens).2.2]
    exact polling.regProc j listens

/-! ### Closing -/

/-- What closing a connection takes out of the table. -/
def closedTable (n : ConnectionNode) (i : Nat) : List Char → Option Nat :=
  if (n.conns i).Open ∧ (n.conns i).regProc = true then
    Function.update n.procConnections (n.conns i).address.address none
  else n.procConnections

theorem removeProcConnection_table (key : List Char) :
    (n.removeProcConnection key).2.procConnections = Function.update n.procConnections key none ∧
      (n.removeProcConnection key).2.conns = n.conns := by
  rw [ConnectionNode.removeProcConnection]
  split
  · rename_i missing
    refine ⟨?_, rfl⟩
    rw [← missing]
    exact (Function.update_eq_self _ _).symm
  · exact ⟨rfl, rfl⟩

theorem disconnectConn_open (opened : (n.conns i).Open) : (n.disconnectConn i).2 =
    (if (n.conns i).regProc then (n.removeProcConnection (n.conns i).address.address).2
      else n).setConn i
      fun conn => { conn with regProc := false, fns := {}, state := .disconnected } := by
  rw [ConnectionNode.disconnectConn]
  split
  · rename_i state
    exact absurd state opened.1
  · rename_i state
    exact absurd state opened.2
  · rfl

theorem disconnectConn_closed (closed : ¬(n.conns i).Open) : (n.disconnectConn i).2 = n := by
  rw [ConnectionNode.disconnectConn]
  split
  · rfl
  · rfl
  · rename_i disconnected disconnecting
    exact absurd ⟨disconnected, disconnecting⟩ closed

theorem disconnectConn_eq (n : ConnectionNode) (i : Nat) :
    ∃ conn, (n.disconnectConn i).2.conns = Function.update n.conns i conn ∧
      (n.disconnectConn i).2.procConnections = closedTable n i := by
  by_cases opened : (n.conns i).Open
  · rw [disconnectConn_open opened, ConnectionNode.setConn, closedTable]
    by_cases flagged : (n.conns i).regProc = true
    · rw [if_pos flagged, if_pos ⟨opened, flagged⟩, (removeProcConnection_table _).1,
        (removeProcConnection_table _).2]
      exact ⟨_, rfl, rfl⟩
    · rw [if_neg flagged, if_neg fun both => flagged both.2]
      exact ⟨_, rfl, rfl⟩
  · rw [disconnectConn_closed opened, closedTable, if_neg fun both => opened both.1]
    exact ⟨n.conns i, (Function.update_eq_self _ _).symm, rfl⟩

theorem resetConn_eq (n : ConnectionNode) (i : Nat) :
    ∃ conn, (n.resetConn i).conns = Function.update n.conns i conn ∧
      (n.resetConn i).procConnections = closedTable n i := by
  obtain ⟨conn, conns, table⟩ := disconnectConn_eq n i
  rw [ConnectionNode.resetConn, ConnectionNode.setConn, conns, table, Function.update_idem]
  exact ⟨_, rfl, rfl⟩

/-- A connection that removes no entry but its own leaves those of the others. -/
theorem OwnEntry.entry {key : List Char} {j : Nat} (ownEntry : OwnEntry n i) (other : j ≠ i)
    (entry : n.procConnections key = some j) : closedTable n i key = some j := by
  rw [closedTable]
  split
  · rename_i removes
    rw [Function.update_of_ne, entry]
    rintro rfl
    exact other (ownEntry removes.1 removes.2 j entry)
  · exact entry

/-- What is left in the table was there before, and belongs to another connection. -/
theorem Polling.entry_of_closed {key : List Char} {j : Nat} (polling : Polling s)
    (entry : closedTable s.node i key = some j) : s.node.procConnections key = some j ∧ j ≠ i := by
  rw [closedTable] at entry
  split at entry
  · by_cases same : key = (s.node.conns i).address.address
    · rw [same, Function.update_self] at entry
      cases entry
    · rw [Function.update_of_ne same] at entry
      refine ⟨entry, ?_⟩
      rintro rfl
      exact same (polling.registered.own key j entry).2.2.symm
  · rename_i stays
    refine ⟨entry, ?_⟩
    rintro rfl
    have listens := (polling.registered.own key j entry).1
    exact stays ⟨polling.registered.opened listens, polling.regProc j listens⟩

/-- Closing a connection keeps everybody else registered exactly if it removes no entry but its
    own. -/
theorem Polling.closed (polling : Polling s)
    (listening : s'.listening = Function.update s.listening i false)
    (left : ∃ conn, s'.node.conns = Function.update s.node.conns i conn ∧
      s'.node.procConnections = closedTable s.node i) :
    (Registered s' ↔ OwnEntry s.node i) ∧ (OwnEntry s.node i → Polling s') := by
  obtain ⟨conn, conns, table⟩ := left
  have different : ∀ {j}, s'.listening j = true → j ≠ i ∧ s.listening j = true := by
    intro j listens
    have other : j ≠ i := by
      rintro rfl
      rw [listening, Function.update_self] at listens
      cases listens
    rw [listening, Function.update_of_ne other] at listens
    exact ⟨other, listens⟩
  have keeps : OwnEntry s.node i → Polling s' := by
    intro ownEntry
    refine ⟨⟨fun j listens => ?_, fun key j entry => ?_⟩, fun j listens => ?_⟩
    · obtain ⟨other, listens⟩ := different listens
      rw [conns, Function.update_of_ne other, table]
      exact ownEntry.entry other (polling.registered.polled j listens)
    · rw [table] at entry
      obtain ⟨before, other⟩ := polling.entry_of_closed entry
      rw [conns, listening, Function.update_of_ne other, Function.update_of_ne other]
      exact polling.registered.own key j before
    · obtain ⟨other, listens⟩ := different listens
      rw [conns, Function.update_of_ne other]
      exact polling.regProc j listens
  refine ⟨⟨fun registered opened flagged j entry => ?_,
    fun ownEntry => (keeps ownEntry).registered⟩, keeps⟩
  -- another connection under the address would still listen, with its entry removed
  by_contra other
  obtain ⟨listens, -, address⟩ := polling.registered.own _ j entry
  have polled := registered.polled j (by rw [listening, Function.update_of_ne other, listens])
  rw [conns, Function.update_of_ne other, address, table, closedTable, if_pos ⟨opened, flagged⟩,
    Function.update_self] at polled
  cases polled

/-! ### Setting up -/

theorem makeAddress_address {before addr : ChannelAddress}
    (parsed : makeAddress text before = .ok (true, addr)) : addr.address = text ∧ text ≠ [] := by
  constructor
  · rw [makeAddress] at parsed
    split at parsed
    · cases parsed
    · dsimp only at parsed
      split at parsed
      · cases parsed
        rfl
      · cases parsed
  · rintro rfl
    cases parsed

/-- What a call at the address of a memory channel does to a connection that is not in use: it opens
    the channel, or it leaves the tables alone. -/
theorem setupConn_memory (op : StreamOp) (env : SetupEnv) (memory : MemoryAddress text)
    (unused : (n.conns i).state = .disconnected) :
    (∃ transport addr, Opens text env ∧ addr.address = text ∧ text ≠ [] ∧
      setupConn op n i text env =
      shareSetup op (n.setConn i fun conn => { conn with address := addr }) i transport env) ∨
    (¬Opens text env ∧ (∀ code, (setupConn op n i text env).res = .ok code → code.failed = true) ∧
      ∃ addr, (setupConn op n i text env).node = n.setConn i fun conn => { conn with
        address := addr }) := by
  rcases setupConn_cases unused with ⟨refused, invalid, addr, left⟩ | ⟨addr, parsed, same⟩
  · refine .inr ⟨fun opens => ?_, fun code returned => ?_, addr, left⟩
    · obtain ⟨⟨addr, parsed⟩, -⟩ := opens
      exact refused addr parsed
    · rw [invalid code returned]
      rfl
  · have shared : ∃ transport, setupConn op n i text env =
        shareSetup op (n.setConn i fun conn => { conn with address := addr }) i transport env := by
      rw [same, setupParsed]
      by_cases mem : schemeBegins "mem" addr.scheme = true
      · rw [if_pos mem]
        exact ⟨.mem, rfl⟩
      · rw [if_neg mem, if_pos ((memory addr parsed).resolve_left mem)]
        exact ⟨.shm, rfl⟩
    obtain ⟨transport, shared⟩ := shared
    by_cases failed : (ConnectionNode.openShare env.share).failed = true
    · refine .inr ⟨fun opens => ?_, fun code returned => ?_, addr, ?_⟩
      · rw [opens.2] at failed
        cases failed
      · rw [shared, shareSetup_res] at returned
        rw [← Except.ok.inj returned]
        exact failed
      · rw [shared]
        exact shareSetup_failed failed
    · obtain ⟨address, nonempty⟩ := makeAddress_address parsed
      exact .inl ⟨transport, addr, ⟨⟨addr, parsed⟩, Bool.eq_false_of_not_eq_true failed⟩, address,
        nonempty, shared⟩

/-- The table with a connection added, unless its address is taken. -/
def addedTable (table : List Char → Option Nat) (key : List Char) (i : Nat) :
    List Char → Option Nat :=
  if (table key).isSome then table else Function.update table key (some i)

theorem addProcConnection_table (nonempty : (n.conns i).address.address ≠ []) :
    (n.addProcConnection i).2.conns = n.conns ∧
      (n.addProcConnection i).2.procConnections = addedTable n.procConnections
        (n.conns i).address.address i := by
  rw [ConnectionNode.addProcConnection, addedTable]
  by_cases taken : (n.procConnections (n.conns i).address.address).isSome = true
  · rw [if_pos taken, if_pos (.inr taken)]
    exact ⟨rfl, rfl⟩
  · rw [if_neg taken, if_neg (not_or.mpr ⟨nonempty, taken⟩)]
    exact ⟨rfl, rfl⟩

/-- A listen that opens a memory channel. -/
theorem listenShare_opened (transport : Transport)
    (opened : (ConnectionNode.openShare env.share).failed = false)
    (nonempty : (n.conns i).address.address ≠ []) :
    (n.listenShare i transport env).res = .ok .success ∧
      (n.listenShare i transport env).node.procConnections =
        addedTable n.procConnections (n.conns i).address.address i ∧
      ∃ conn, conn.state = .connected ∧ conn.regProc = true ∧ conn.address = (n.conns i).address ∧
        (n.listenShare i transport env).node.conns = Function.update n.conns i conn := by
  have success : ConnectionNode.openShare env.share = .success := by
    by_contra other
    rw [(ErrorType.failed_iff _).mpr other] at opened
    cases opened
  let prepared :=
    n.setConn i fun conn => { conn with
      fns := { conn.fns with proc := transport, free := transport } }
  have address : (prepared.conns i).address = (n.conns i).address := by
    rw [setConn_conns]
  obtain ⟨conns, table⟩ := @addProcConnection_table prepared i (by rwa [address])
  rw [address] at table
  rw [ConnectionNode.listenShare, success]
  let listener : BusConnection :=
    { prepared.conns i with
      regProc := true
      accessShareAddr := (prepared.conns i).accessShareAddr || transport == .mem
      accessShareHost := true
      state := .connected }
  refine ⟨rfl, table, listener, rfl, rfl, address, ?_⟩
  change Function.update (prepared.addProcConnection i).2.conns i _ = _
  rw [conns]
  exact Function.update_idem _ _ _

/-- A connection that was not in use listens, and has been added to the table if the address was
    free. -/
structure StartsListening (s s' : ListeningNode) (i : Nat) (text : List Char) : Prop where
  unused : (s.node.conns i).state = .disconnected
  state : (s'.node.conns i).state = .connected
  address : (s'.node.conns i).address.address = text
  regProc : (s'.node.conns i).regProc = true
  others : ∀ j, j ≠ i → s'.node.conns j = s.node.conns j
  table : s'.node.procConnections = addedTable s.node.procConnections text i
  listening : s'.listening = Function.update s.listening i true

namespace StartsListening

theorem listens (starts : StartsListening s s' i text) : s'.listening i = true := by
  rw [starts.listening, Function.update_self]

theorem listening_of_ne {j : Nat} (starts : StartsListening s s' i text) (other : j ≠ i) :
    s'.listening j = s.listening j := by
  rw [starts.listening, Function.update_of_ne other]

theorem ne_of_listens {j : Nat} (starts : StartsListening s s' i text) (polling : Polling s)
    (listens : s.listening j = true) : j ≠ i := by
  rintro rfl
  exact (polling.registered.opened listens).1 starts.unused

theorem table_of_free (starts : StartsListening s s' i text)
    (free : s.node.procConnections text = none) :
    s'.node.procConnections = Function.update s.node.procConnections text (some i) := by
  rw [starts.table, addedTable, free]
  rfl

/-- At a free address the connection is added to those that are polled. -/
theorem polling (starts : StartsListening s s' i text) (polling : Polling s)
    (free : s.node.procConnections text = none) : Polling s' := by
  refine ⟨⟨fun j listens => ?_, fun key j entry => ?_⟩, fun j listens => ?_⟩
  · rw [starts.table_of_free free]
    by_cases same : j = i
    · rw [same, starts.address, Function.update_self]
    · rw [starts.listening_of_ne same] at listens
      have polled := polling.registered.polled j listens
      rw [starts.others j same, Function.update_of_ne, polled]
      intro taken
      rw [taken, free] at polled
      cases polled
  · rw [starts.table_of_free free] at entry
    by_cases new : key = text
    · rw [new, Function.update_self] at entry
      cases entry
      exact ⟨starts.listens, starts.state, starts.address.trans new.symm⟩
    · rw [Function.update_of_ne new] at entry
      obtain ⟨listens, known⟩ := polling.registered.own key j entry
      have other := starts.ne_of_listens polling listens
      rw [starts.listening_of_ne other, starts.others j other]
      exact ⟨listens, known⟩
  · by_cases same : j = i
    · rw [same]
      exact starts.regProc
    · rw [starts.listening_of_ne same] at listens
      rw [starts.others j same]
      exact polling.regProc j listens

/-- It is polled only if nobody was registered under the address. -/
theorem free_of_registered (starts : StartsListening s s' i text) (polling : Polling s)
    (registered : Registered s') : s.node.procConnections text = none := by
  cases entry : s.node.procConnections text with
  | none => rfl
  | some holder =>
      -- the table is left alone, so that it is the holder who is polled
      have polled := registered.polled i starts.listens
      rw [starts.address, starts.table, addedTable, entry] at polled
      cases entry.symm.trans polled
      exact absurd rfl (starts.ne_of_listens polling (polling.registered.own text i entry).1)

end StartsListening

/-- A call that sets nothing up changes no connection that listens. -/
theorem Polling.kept (polling : Polling s) (idle : s.listening i = false)
    (conns :
      ∃ conn, (setupConn op s.node i text env).node.conns = Function.update s.node.conns i conn)
    (table : (setupConn op s.node i text env).node.procConnections = s.node.procConnections)
    (other : ListeningNode.listened op (setupConn op s.node i text env) = false) :
    Polling (s.run (.setup op i text env)) := by
  obtain ⟨conn, conns⟩ := conns
  refine polling.frame idle conns table ?_
  rw [ListeningNode.run, other]
  rfl

theorem listened_iff {done : SetupDone} : ListeningNode.listened .listen done = true ↔
    done.res = .ok .success := by
  unfold ListeningNode.listened
  split
  · rename_i returned
    exact iff_of_true rfl returned
  · rename_i other
    exact iff_of_false Bool.false_ne_true (other rfl)

theorem listened_failed {done : SetupDone}
    (failed : ∀ code, done.res = .ok code → code.failed = true) :
    ListeningNode.listened op done = false := by
  cases op with
  | listen =>
      refine Bool.eq_false_of_not_eq_true fun listened => ?_
      cases failed _ (listened_iff.mp listened)
  | connect => rfl

/-- What one call does to the registrations. -/
def Keeps (t : Transition ListeningNode ConnectionCall) : Prop :=
  (Registered t.post ↔ Separate t) ∧ (Separate t → Polling t.post)

theorem Polling.keeps {t : Transition ListeningNode ConnectionCall} (polling : Polling t.post)
    (separate : Separate t) : Keeps t :=
  ⟨iff_of_true polling.registered separate, fun _ => polling⟩

/-- A call on a connection that is in use, or one that opens no channel. -/
theorem Separate.of_unopened (op : StreamOp)
    (unopened : (s.node.conns i).state = .disconnected → ¬Opens text env) :
    Separate ⟨s, .setup op i text env, s.run (.setup op i text env)⟩ := by
  cases op with
  | listen => exact fun unused opens => absurd opens (unopened unused)
  | connect => trivial

/-- A listen that opens a memory channel, with the address as it has been parsed. -/
theorem startsListening {addr : ChannelAddress} {transport : Transport}
    (unused : (s.node.conns i).state = .disconnected) (opens : Opens text env)
    (address : addr.address = text) (nonempty : text ≠ [])
    (shared : setupConn .listen s.node i text env =
      (s.node.setConn i fun conn => { conn with address := addr }).listenShare i transport env) :
    StartsListening s (s.run (.setup .listen i text env)) i text := by
  obtain ⟨success, table, conn, state, flagged, kept, conns⟩ :=
    @listenShare_opened (s.node.setConn i fun conn => { conn with address := addr }) i env transport
      opens.2
      (by rwa [setConn_conns, address])
  rw [setConn_conns] at table kept
  rw [address] at table
  rw [← shared] at success table conns
  have updated : (s.run (.setup .listen i text env)).node.conns =
      Function.update s.node.conns i conn :=
    conns.trans (Function.update_idem _ _ _)
  have own : (s.run (.setup .listen i text env)).node.conns i = conn := by
    rw [updated, Function.update_self]
  refine ⟨unused, ?_, ?_, ?_, fun j other => ?_, table, ?_⟩
  · rw [own, state]
  · rw [own, kept, address]
  · rw [own, flagged]
  · rw [updated, Function.update_of_ne other]
  · rw [ListeningNode.run, listened_iff.mpr success]
    rfl

theorem StartsListening.keeps (starts :
    StartsListening s (s.run (.setup .listen i text env)) i text)
    (polling : Polling s) (opens : Opens text env) :
    Keeps ⟨s, .setup .listen i text env, s.run (.setup .listen i text env)⟩ := by
  have separate : Separate ⟨s, .setup .listen i text env, s.run (.setup .listen i text env)⟩ ↔
      s.node.procConnections text = none :=
    ⟨fun separate => separate starts.unused opens, fun free _ _ => free⟩
  rw [Keeps, separate]
  have kept := starts.polling polling
  exact ⟨⟨starts.free_of_registered polling, fun free => (kept free).registered⟩, kept⟩

theorem Polling.setup (polling : Polling s) (memory : MemoryAddress text) (op : StreamOp) (i : Nat)
    (env : SetupEnv) : Keeps ⟨s, .setup op i text env, s.run (.setup op i text env)⟩ := by
  by_cases unused : (s.node.conns i).state = .disconnected
  · have idle : s.listening i = false := polling.registered.idle fun opened => opened.1 unused
    rcases setupConn_memory op env memory unused with
      ⟨transport, addr, opens, address, nonempty, shared⟩ | ⟨closed, failed, addr, left⟩
    · cases op with
      | listen => exact (startsListening unused opens address nonempty shared).keeps polling opens
      | connect =>
          have succeeded : ¬(ConnectionNode.openShare env.share).failed = true := by
            rw [opens.2]
            exact Bool.false_ne_true
          rw [shareSetup, ConnectionNode.connectShare, if_neg succeeded] at shared
          have conns : ∃ conn, (setupConn .connect s.node i text env).node.conns =
              Function.update s.node.conns i conn := by
            rw [shared]
            exact ⟨_, Function.update_idem _ _ _⟩
          have table : (setupConn .connect s.node i text env).node.procConnections =
              s.node.procConnections := by
            rw [shared]
            rfl
          exact (polling.kept idle conns table rfl).keeps trivial
    · have conns : ∃ conn,
          (setupConn op s.node i text env).node.conns = Function.update s.node.conns i conn := by
        rw [left]
        exact ⟨_, rfl⟩
      have table : (setupConn op s.node i text env).node.procConnections =
          s.node.procConnections := by
        rw [left]
        rfl
      exact (polling.kept idle conns table (listened_failed failed)).keeps
        (Separate.of_unopened op fun _ => closed)
  · have refused : setupConn op s.node i text env = ⟨.ok .alreadyInited, s.node⟩ := by
      rw [setupConn_eq, ConnectionNode.parseAddress, if_pos unused]
    have same : s.run (.setup op i text env) = s := by
      rw [ListeningNode.run, refused]
      cases op <;> rfl
    have after : Polling (s.run (.setup op i text env)) := by rwa [same]
    exact after.keeps (Separate.of_unopened op fun disconnected => absurd disconnected unused)

theorem connectionStep_keeps {t : Transition ListeningNode ConnectionCall} (polling : Polling t.pre)
    (taken : connectionStep t.pre t.label t.post) : Keeps t := by
  obtain ⟨pre, call, post⟩ := t
  obtain ⟨memory, same⟩ := taken
  change post = pre.run call at same
  subst same
  cases call with
  | setup op i text env => exact polling.setup (memory op i text env rfl) op i env
  | disconnect i => exact polling.closed rfl (disconnectConn_eq pre.node i)
  | reset i => exact polling.closed rfl (resetConn_eq pre.node i)
  | bind i => exact (polling.bind i).keeps trivial

/-- No connection has been set up yet. -/
structure ListeningNode.Initial (s : ListeningNode) : Prop where
  empty : ∀ key, s.node.procConnections key = none
  idle : ∀ i, s.listening i = false

theorem ListeningNode.Initial.polling (initial : s.Initial) : Polling s := by
  refine ⟨⟨fun i listens => ?_, fun key i entry => ?_⟩, fun i listens => ?_⟩
  · rw [initial.idle] at listens
    cases listens
  · rw [initial.empty] at entry
    cases entry
  · rw [initial.idle] at listens
    cases listens

/-- Over a run, those and only those that listen are polled throughout, exactly if all the calls
    keep the connections apart. -/
theorem proc_registrations_iff {start s : ListeningNode}
    {made : List (Transition ListeningNode ConnectionCall)} (initial : start.Initial)
    (run : Run connectionStep start made s) : (∀ t ∈ made, Registered t.post) ↔
      ∀ t ∈ made, Separate t :=
  run.forall_iff initial.polling
    (fun _ polling taken separate => (connectionStep_keeps polling taken).2 separate)
    fun _ polling taken => (connectionStep_keeps polling taken).1

namespace PollSample

def start : ListeningNode := ⟨.fresh, fun _ => false⟩

def key : List Char := "mem://4660".toList

def otherKey : List Char := "mem://4661".toList

def listens : ListeningNode := start.run (.setup .listen 0 key default)

def connects : ListeningNode := listens.run (.setup .connect 1 key default)

def closes : ListeningNode := connects.run (.disconnect 1)

/-- Another connection listens at another address. -/
def listensToo : ListeningNode := listens.run (.setup .listen 1 otherKey default)

def closesToo : ListeningNode := listensToo.run (.disconnect 1)

theorem initial : start.Initial := ⟨fun _ => rfl, fun _ => rfl⟩

theorem memory : MemoryAddress key := by
  intro addr parsed
  cases parsed
  exact .inl rfl

theorem memoryToo : MemoryAddress otherKey := by
  intro addr parsed
  cases parsed
  exact .inl rfl

theorem setup_step (s : ListeningNode) (op : StreamOp) (i : Nat) {text : List Char}
    (memory : MemoryAddress text) :
    connectionStep s (.setup op i text default) (s.run (.setup op i text default)) := by
  refine ⟨fun _ _ _ _ same => ?_, rfl⟩
  cases same
  exact memory

theorem disconnect_step (s : ListeningNode) (i : Nat) :
    connectionStep s (.disconnect i) (s.run (.disconnect i)) := by
  refine ⟨fun _ _ _ _ other => ?_, rfl⟩
  cases other

theorem listening :
    Run connectionStep start ([] ++ [⟨start, .setup .listen 0 key default, listens⟩]) listens :=
  Run.refl.tail (setup_step start .listen 0 memory)

theorem closing : Run connectionStep start
    ([] ++ [⟨start, .setup .listen 0 key default, listens⟩] ++
      [⟨listens, .setup .connect 1 key default, connects⟩] ++
      [⟨connects, .disconnect 1, closes⟩]) closes :=
  (listening.tail (setup_step listens .connect 1 memory)).tail (disconnect_step connects 1)

theorem closingToo : Run connectionStep start
    ([] ++ [⟨start, .setup .listen 0 key default, listens⟩] ++
      [⟨listens, .setup .listen 1 otherKey default, listensToo⟩] ++
      [⟨listensToo, .disconnect 1, closesToo⟩]) closesToo :=
  (listening.tail (setup_step listens .listen 1 memoryToo)).tail (disconnect_step listensToo 1)

end PollSample

open PollSample in
/-- Two connections listen at two addresses, and one of them is closed: the other one is still
    polled. -/
theorem proc_registrations_iff_listen :
    Registered listensToo ∧ Registered closesToo ∧ listensToo.listening 1 = true ∧
      closesToo.listening 0 = true ∧ closesToo.listening 1 = false := by
  have registered := (proc_registrations_iff initial closingToo).mpr (fun t member => ?_)
  · exact ⟨registered ⟨listens, .setup .listen 1 otherKey default, listensToo⟩ (by simp),
      registered ⟨listensToo, .disconnect 1, closesToo⟩ (by simp), rfl, rfl, rfl⟩
  · simp only [List.nil_append, List.cons_append, List.mem_cons, List.not_mem_nil,
      or_false] at member
    rcases member with rfl | rfl | rfl
    · exact fun _ _ => rfl
    · exact fun _ _ => rfl
    · intro _ _ j entry
      cases entry
      rfl

open PollSample in
/-- A connection to the same address, with which the node speaks to itself: when it is closed, the
    connection that listens is polled no more. -/
theorem closed_connection_unregisters_listener : ¬∀ (start s : ListeningNode)
    (made : List (Transition ListeningNode ConnectionCall)), start.Initial →
      Run connectionStep start made s → ∀ t ∈ made, Registered t.post := by
  intro claim
  have registered :=
    claim PollSample.start _ _ PollSample.initial closing ⟨connects, .disconnect 1, closes⟩
      (by simp)
  have polled := registered.polled 0 rfl
  cases polled

end LibAtbus.Node
