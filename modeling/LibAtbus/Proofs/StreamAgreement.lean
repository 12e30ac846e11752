/-
Module: LibAtbus.Proofs.StreamAgreement
Layer: Proofs
Purpose: Two nodes that register with each other over the bytes of a stream agree. Every run over
  the stream, however what was written is cut into reads and wherever a closing side cuts it off, is
  a run of the registration in which whole messages arrive; a side that is open can always go on
  reading and handling what it has read.
Trusted boundary: human-reviewed spec
Main exports: Carries, Carries.write, Carries.read, Carries.call, Carried,
  streamHandshakeStep_refines, StreamSettled, streamHandshake_agrees
-/
import LibAtbus.Node.StreamHandshake
import LibAtbus.Proofs.HandshakeAgreement
import LibAtbus.Proofs.StreamLinkRefinement

namespace LibAtbus.Node

open Channel Detail ByteMemory Transitions

section

variable {pack : Msg → List UInt8} {unpack : Unpack} {conf : NodeConf} {peer : StreamConf}
  {heap : Heap} {m : Msg} {env : RegEnv} {n : NodeState} {conn : PeerConn} {inbound after : Inbound}
  {incoming items : List StreamItem} {heard queue : List Msg} {dropped pending : List UInt8}
  {done later : List Frame}

/-! ### What is on its way -/

/-- What a message has lost when it arrives does not matter to the connection. -/
theorem PeerConn.onMessage_conveyed (conn : PeerConn) (env : RegEnv) (n : NodeState) (m : Msg) :
    conn.onMessage env n m.conveyed = conn.onMessage env n m := by
  have head : m.conveyed.head = m.head := rfl
  rw [onMessage, onMessage, head]
  split
  · rename_i request
    have reg : m.conveyed.body.reg = m.body.reg := by
      rw [Msg.conveyed, request]
      rfl
    rw [regReq, regReq, reg, head]
  · rfl
  · rfl

/-- What is sent over a stream can be read on the other side. -/
def Readable (pack : Msg → List UInt8) (unpack : Unpack) (peer : StreamConf) (heap : Heap)
    (m : Msg) : Prop :=
  Sendable pack unpack m ∧ Receivable peer heap (pack m).length

/-- The callbacks that are still to be made are those of messages, and what was not read yet
    completes the frames of others, when what a closing side dropped is put behind it; these
    messages, in order, are on their way. -/
structure Carries (pack : Msg → List UInt8) (unpack : Unpack) (peer : StreamConf) (heap : Heap)
    (inbound : Inbound) (incoming : List StreamItem) (heard queue : List Msg) (dropped : List UInt8)
    (done later : List Frame) (pending : List UInt8) : Prop where
  conveys : Conveys pack unpack peer heap (inbound.wire ++ dropped) inbound.stream queue done later
    pending
  whole : inbound.ended = false → dropped = []
  called : inbound.recved = (heard.map pack).map delivered
  sendable : ∀ m ∈ heard, Sendable pack unpack m
  incoming : incoming = (heard ++ queue).map .msg ++ if inbound.ended then [.closed] else []

/-- What is sent is on its way behind the rest. -/
theorem Carries.write (small : conf.msgSize ≤ 2 ^ 32 - 20)
    (written : Writes pack conf items inbound after)
    (readable : ∀ m, .msg m ∈ items → Readable pack unpack peer heap m)
    (carries :
      Carries pack unpack peer heap inbound incoming heard queue dropped done later pending) :
    after.recved = inbound.recved ∧ ∃ queue' dropped' later',
      Carries pack unpack peer heap after (incoming ++ items) heard queue' dropped' done later'
        pending := by
  induction written generalizing incoming queue dropped later with
  | nothing => exact ⟨rfl, queue, dropped, later, by rwa [List.append_nil]⟩
  | @msg m items inbound after _ _ _ _ result open' sending accepted _ ih =>
      have whole := carries.whole open'
      have conveys := carries.conveys
      rw [whole, List.append_nil] at conveys
      rcases sendMsg_wire small sending with ⟨-, frame, framed, payload, wire⟩ | ⟨failed, -⟩
      · obtain ⟨sendable, fits⟩ := readable m List.mem_cons_self
        have sent : Carries pack unpack peer heap { inbound with
            wire := inbound.wire ++ wireBytes result }
            (incoming ++ [.msg m]) heard (queue ++ [m]) [] done (later ++ [frame]) pending :=
          { conveys := by
              rw [List.append_nil, wire]
              exact conveys.send framed payload sendable fits
            whole := fun _ => rfl
            called := carries.called
            sendable := carries.sendable
            incoming := by
              rw [carries.incoming, open']
              simp }
        have rest := ih (fun m member => readable m (List.mem_cons_of_mem _ member)) sent
        rwa [List.append_assoc] at rest
      · rw [accepted] at failed
        cases failed
  | @closed items inbound after kept lost open' split _ ih =>
      have whole := carries.whole open'
      have conveys := carries.conveys
      rw [whole, List.append_nil, split] at conveys
      have cut : Carries pack unpack peer heap { inbound with
          wire := kept, ended := true } (incoming ++ [.closed])
          heard queue lost done later pending :=
        { conveys := conveys
          whole := fun going => by cases going
          called := carries.called
          sendable := carries.sendable
          incoming := by
            rw [carries.incoming, open']
            simp }
      have rest := ih (fun m member => readable m (List.mem_cons_of_mem _ member)) cut
      rwa [List.append_assoc] at rest

theorem Carries.all_called
    (carries :
      Carries pack unpack peer heap inbound incoming heard queue dropped done later pending)
    (called : inbound.recved = []) : heard = [] := by
  have empty := carries.called.symm.trans called
  exact List.map_eq_nil_iff.mp (List.map_eq_nil_iff.mp empty)

/-- What a read completes is to be called next. -/
theorem Carries.read {chunk rest : List UInt8} {memory : Heap} {stream : StreamState}
    (carries :
      Carries pack unpack peer heap inbound incoming heard queue dropped done later pending)
    (called : inbound.recved = []) (arrived : inbound.wire = chunk ++ rest)
    (malloc : ∀ size, (memory size).isSome = true)
    (taken : recvStep peer inbound.stream ⟨chunk, memory⟩ stream) :
    ∃ heard' queue' done' later' pending',
      Carries pack unpack peer heap
        { inbound with
          wire := rest
          stream := stream
          recved := stream.made.drop inbound.stream.made.length }
        incoming heard' queue' dropped done' later' pending' := by
  have all : inbound.wire ++ dropped = chunk ++ (rest ++ dropped) := by
    rw [arrived, List.append_assoc]
  obtain ⟨new, later', pending', split, made, conveys⟩ := carries.conveys.read all malloc taken
  have none := carries.all_called called
  have completed : (queue.take new.length).map pack = new.map Frame.payload := by
    rw [List.map_take, carries.conveys.packed, split, List.map_append]
    exact List.take_left' (List.length_map _)
  exact ⟨queue.take new.length, queue.drop new.length, _, later', pending',
    { conveys := conveys
      whole := carries.whole
      called := by rw [made, completed]
      sendable := fun m member => carries.conveys.sendable m (List.mem_of_mem_take member)
      incoming := by rw [List.take_append_drop, carries.incoming, none, List.nil_append] }⟩

/-- The callback for a message that arrived whole hands it over. -/
theorem Sendable.onRecved (sendable : Sendable pack unpack m) (setting : CallbackSetting)
    (takes : conn.takesPush = true) :
    conn.onRecved unpack setting (delivered (pack m)) =
      .ok (conn.onMessage setting.env setting.node m) := by
  have unpacked : unpackMsg unpack (setting.payload (pack m)) = .ok (some m.conveyed) :=
    sendable.unpacked ⟨0, conn, setting.env.toHandlerEnv, none, setting.srcBusId⟩
  have full : ¬((delivered (pack m)).status.failed = true ∨ (delivered (pack m)).data = []) := by
    rintro (failed | empty)
    · cases failed
    · exact sendable.nonempty empty
  rw [PeerConn.onRecved, if_neg full, if_pos takes, delivered]
  dsimp only
  rw [unpacked]
  dsimp only
  rw [PeerConn.onMessage_conveyed]

/-- A callback hands over the oldest message. -/
theorem Carries.call {recved : Recved} {others : List Recved} (setting : CallbackSetting)
    (carries :
      Carries pack unpack peer heap inbound incoming heard queue dropped done later pending)
    (next : inbound.recved = recved :: others) (takes : conn.takesPush = true) :
    ∃ m heard' rest, incoming = .msg m :: rest ∧
      conn.onRecved unpack setting recved = .ok (conn.onMessage setting.env setting.node m) ∧
      Carries pack unpack peer heap { inbound with
        recved := others } rest heard' queue dropped done later pending := by
  have called := carries.called
  rw [next] at called
  cases heard with
  | nil => cases called
  | cons m heard =>
      obtain ⟨rfl, rfl⟩ := List.cons.inj called
      have sendable := carries.sendable m List.mem_cons_self
      refine ⟨m, heard, _, carries.incoming, ?_, ?_⟩
      · exact sendable.onRecved setting takes
      · exact
          { conveys := carries.conveys
            whole := carries.whole
            called := rfl
            sendable := fun m member => carries.sendable m (List.mem_cons_of_mem _ member)
            incoming := rfl }

end

/-! ### Steps -/

/-- A connection that is under way does not start over. -/
theorem PeerConn.handle_begun {conn after : PeerConn} {event : HandshakeEvent}
    {item : Option StreamItem} {sent : List StreamItem}
    (handled : conn.handle event item = some (after, sent)) (begun : conn.state ≠ .connecting) :
    after.state ≠ .connecting := by
  cases event with
  | opened n env =>
      cases item with
      | none => exact absurd (Option.ite_none_right_eq_some.mp handled).1 begun
      | some _ => cases handled
  | received n env =>
      cases item with
      | none => cases handled
      | some arrived =>
          cases arrived with
          | msg m =>
              obtain ⟨takes, same⟩ := Option.ite_none_right_eq_some.mp handled
              have left : (conn.onMessage env n m).1 = after :=
                congrArg Prod.fst (Option.some.inj same)
              rw [← left, onMessage]
              split
              · exact regReq_begun takes
              · split
                · exact disconnect_begun begun
                · exact begun
              · exact begun
          | closed =>
              cases Option.some.inj (Option.ite_none_left_eq_some.mp handled).2
              simp [reset]
  | reset =>
      cases item with
      | none =>
          cases Option.some.inj (Option.ite_none_left_eq_some.mp handled).2
          simp [reset]
      | some _ => cases handled
  | released =>
      cases item with
      | none =>
          cases Option.some.inj (Option.ite_none_left_eq_some.mp handled).2
          exact begun
      | some _ => cases handled
  | sent m =>
      cases item with
      | none =>
          cases Option.some.inj (Option.ite_none_right_eq_some.mp handled).2
          exact begun
      | some _ => cases handled

/-- A side that is closed reads no more; the stream of any other carries what is on its way to it,
    and has called it only once it was open. -/
def Carried (pack : Msg → List UInt8) (unpack : Unpack) (peer : StreamConf) (heap : Heap)
    (mine : PeerConn) (inbound : Inbound) (incoming : List StreamItem) : Prop :=
  mine.state = .disconnected ∨
    (inbound.recved ≠ [] → mine.state ≠ .connecting) ∧
      ∃ heard queue dropped done later pending,
        Carries pack unpack peer heap inbound incoming heard queue dropped done later pending

section

variable {pack : Msg → List UInt8} {unpack : Unpack} {conf : Peer → NodeConf} {heap : Peer → Heap}
  {selves : Peer → Endpoint} {d after : StreamDuplex} {start e : Duplex PeerConn StreamItem}
  {s : Peer}
  {made :
    List (Transition (Duplex PeerConn StreamItem) (Peer × Occurrence StreamItem HandshakeEvent))}

/-- What is sent to a side is on its way to it. -/
theorem Carried.write {sender : NodeConf} {peer : StreamConf} {memory : Heap} {theirs : PeerConn}
    {inbound written : Inbound} {incoming items : List StreamItem}
    (small : sender.msgSize ≤ 2 ^ 32 - 20)
    (carried : Carried pack unpack peer memory theirs inbound incoming)
    (writes : Writes pack sender items inbound written)
    (readable : ∀ m, .msg m ∈ items → Readable pack unpack peer memory m) :
    Carried pack unpack peer memory theirs written (incoming ++ items) := by
  rcases carried with down | ⟨opened, heard, queue, dropped, done, later, pending, carries⟩
  · exact .inl down
  · obtain ⟨same, queue', dropped', later', carries'⟩ := carries.write small writes readable
    exact .inr ⟨same ▸ opened, heard, queue', dropped', done, later', pending, carries'⟩

/-- The streams to both sides carry what is on its way to them in a state of the registration. -/
def Realises (pack : Msg → List UInt8) (unpack : Unpack) (conf : Peer → NodeConf)
    (heap : Peer → Heap) (d : StreamDuplex) (e : Duplex PeerConn StreamItem) : Prop :=
  e.party = d.party ∧ ∀ s,
    Carried pack unpack (getIostreamConf (conf s)) (heap s) (d.party s) (d.inbound s) (e.inbox s)

/-- What is sent in an event can be read on the other side. -/
def Transmits (pack : Msg → List UInt8) (unpack : Unpack) (conf : Peer → NodeConf)
    (heap : Peer → Heap) (label : Peer × StreamHandshakeEvent) : Prop :=
  ∀ m, .msg m ∈ label.2.sent →
    Readable pack unpack (getIostreamConf (conf label.1.other)) (heap label.1.other) m

/-- What a side does, with what it takes and what it sends, is the same over the stream. -/
theorem Realises.become {mine : PeerConn} {inbound written : Inbound} {rest sent : List StreamItem}
    (small : (conf s).msgSize ≤ 2 ^ 32 - 20) (realises : Realises pack unpack conf heap d e)
    (carried : Carried pack unpack (getIostreamConf (conf s)) (heap s) mine inbound rest)
    (writes : Writes pack (conf s) sent (d.inbound s.other) written)
    (readable : ∀ m, .msg m ∈ sent →
      Readable pack unpack (getIostreamConf (conf s.other)) (heap s.other) m) :
    Realises pack unpack conf heap
      ⟨Function.update d.party s mine,
        Function.update (Function.update d.inbound s inbound) s.other written⟩
      (e.become s mine rest sent) := by
  obtain ⟨same, both⟩ := realises
  refine ⟨by rw [Duplex.become, same], fun t => ?_⟩
  by_cases own : t = s
  · rw [own, Duplex.become_inbox]
    dsimp only
    rw [Function.update_self, Function.update_of_ne s.other_ne.symm, Function.update_self]
    exact carried
  · rw [Peer.eq_other own, Duplex.become_inbox_other]
    dsimp only
    rw [Function.update_of_ne s.other_ne, Function.update_self]
    exact (both s.other).write small writes readable

/-- A side that is not closed, nor yet to be opened, takes messages. -/
theorem PeerConn.Sane.takes {conn : PeerConn} (sane : conn.Sane)
    (active : conn.state ≠ .disconnected) (begun : conn.state ≠ .connecting) :
    conn.takesPush = true := by
  have settled := sane.settled
  rw [takesPush]
  cases state : conn.state with
  | handshaking => rfl
  | connected => rfl
  | disconnected => exact absurd state active
  | connecting => exact absurd state begun
  | disconnecting => exact absurd state settled

/-- A closed side drops what it is called for. -/
theorem PeerConn.onRecved_down {conn : PeerConn} {setting : CallbackSetting} {recved : Recved}
    (down : conn.state = .disconnected) : conn.onRecved unpack setting recved = .ok (conn, []) := by
  have shut : conn.takesPush = false := by simp [takesPush, down]
  rw [onRecved, shut]
  split
  · rfl
  · rfl

/-- Every event over the stream is some, or none, of the registration. -/
theorem streamHandshakeStep_refines {label : Peer × StreamHandshakeEvent}
    (small : ∀ s, (conf s).msgSize ≤ 2 ^ 32 - 20) (named : ∀ s, (selves s).id ≠ 0#64)
    (begins : HandshakeStart start) (run : Run (DuplexStep (handshake selves)) start made e)
    (realises : Realises pack unpack conf heap d e)
    (taken : StreamHandshakeStep pack unpack conf selves d label after)
    (readable : Transmits pack unpack conf heap label) :
    ∃ more e', Run (DuplexStep (handshake selves)) start more e' ∧
      Realises pack unpack conf heap after e' := by
  have greeting := handshake_greeting begins named run
  obtain ⟨party, inbox⟩ := e
  obtain ⟨same, both⟩ := realises
  dsimp only at same both greeting
  subst same
  have realises : Realises pack unpack conf heap d ⟨d.party, inbox⟩ := ⟨rfl, both⟩
  cases taken with
  | @acted s event mine sent written at' handled writes =>
      have moves : Moves (selves s) (selves s.other) (d.party s) none mine sent :=
        PeerConn.handle_moves (greeting s).sane (named s) at' (fun _ arrived => by cases arrived)
          handled
      obtain ⟨opened, carries⟩ := (both s).resolve_left moves.active
      have carried : Carried pack unpack (getIostreamConf (conf s)) (heap s) mine (d.inbound s)
          (inbox s) :=
        .inr ⟨fun called => PeerConn.handle_begun handled (opened called), carries⟩
      have realised := realises.become (small s) carried writes readable
      rw [Function.update_eq_self] at realised
      exact ⟨_, _, run.acting s event ⟨at', handled⟩, realised⟩
  | @read s chunk rest memory stream takes called arrived malloc read =>
      refine ⟨made, _, run, rfl, fun t => ?_⟩
      by_cases own : t = s
      · obtain ⟨-, heard, queue, dropped, done, later, pending, carries⟩ :=
          (both s).resolve_left (PeerConn.active_of_takesPush takes)
        obtain ⟨heard', queue', done', later', pending', carries'⟩ :=
          carries.read called arrived malloc read
        rw [own]
        dsimp only
        rw [Function.update_self]
        exact .inr ⟨fun _ => PeerConn.begun_of_takesPush takes, heard', queue', dropped, done',
          later', pending', carries'⟩
      · dsimp only
        rw [Function.update_of_ne own]
        exact both t
  | @called s setting recved others mine sent written at' next handled writes =>
      by_cases down : (d.party s).state = .disconnected
      · rw [PeerConn.onRecved_down down] at handled
        cases handled
        cases writes
        refine ⟨made, _, run, (Function.update_eq_self ..).symm, fun t => ?_⟩
        dsimp only
        rw [Function.update_eq_self]
        by_cases own : t = s
        · rw [own]
          exact .inl down
        · rw [Peer.eq_other own, Function.update_self]
          exact both s.other
      · obtain ⟨opened, heard, queue, dropped, done, later, pending, carries⟩ :=
          (both s).resolve_left down
        have begun : (d.party s).state ≠ .connecting := opened (by simp [next])
        have takes := (greeting s).sane.takes down begun
        obtain ⟨m, heard', rest, arrived, answer, carries'⟩ := carries.call setting next takes
        rw [answer] at handled
        let event : HandshakeEvent := .received setting.node setting.env
        have answered : (d.party s).handle event (some (.msg m)) = some (mine, sent) := by
          rw [PeerConn.handle, if_pos takes, Except.ok.inj handled]
        have carried : Carried pack unpack (getIostreamConf (conf s)) (heap s) mine
            { d.inbound s with recved := others } rest :=
          .inr ⟨fun _ => PeerConn.handle_begun answered begun, heard', queue, dropped, done, later,
            pending, carries'⟩
        exact ⟨_, _, run.taking s event arrived ⟨at', answered⟩,
          realises.become (small s) carried writes readable⟩
  | @ended s takes called read ended =>
      have active := PeerConn.active_of_takesPush takes
      obtain ⟨-, heard, queue, dropped, done, later, pending, carries⟩ :=
        (both s).resolve_left active
      have none := carries.all_called called
      have arrived := carries.incoming
      rw [none, List.nil_append, ended, if_pos rfl] at arrived
      have shut : (d.party s.other).state = .disconnected := (greeting s).closed (by simp [arrived])
      obtain ⟨more, e', run', party, mine, theirs⟩ := run.losing s arrived fun item member => by
        obtain ⟨m, -, rfl⟩ := List.mem_map.mp member
        exact ⟨shut, by simp⟩
      have closes : (e'.party s).handle (.received (.alone (selves s)) .reachable) (some .closed) =
          some ((d.party s).reset, []) := by
        rw [party, PeerConn.handle, if_neg active]
      refine ⟨_, _,
        run'.taking s (.received (.alone (selves s)) .reachable) mine ⟨⟨rfl, rfl, rfl⟩,
          closes⟩, by rw [Duplex.become, party], fun t => ?_⟩
      by_cases own : t = s
      · rw [own]
        dsimp only
        exact .inl (by rw [Function.update_self, PeerConn.reset])
      · rw [Peer.eq_other own, Duplex.become_inbox_other, List.append_nil, theirs]
        dsimp only
        rw [Function.update_of_ne s.other_ne]
        exact both s.other

/-! ### Runs -/

/-- Every run over the stream is one of the registration. -/
theorem streamHandshake_run {begin : StreamDuplex}
    {moves : List (Transition StreamDuplex (Peer × StreamHandshakeEvent))}
    (small : ∀ s, (conf s).msgSize ≤ 2 ^ 32 - 20) (named : ∀ s, (selves s).id ≠ 0#64)
    (begins : StreamHandshakeStart conf heap begin)
    (run : Run (StreamHandshakeStep pack unpack conf selves) begin moves d)
    (readable : ∀ t ∈ moves, Transmits pack unpack conf heap t.label) :
    ∃ made e, Run (DuplexStep (handshake selves)) ⟨begin.party, fun _ => []⟩ made e ∧
      Realises pack unpack conf heap d e := by
  induction run with
  | refl =>
      refine ⟨[], _, .refl, rfl, fun s => .inr ⟨fun called => ?_, [], [], [], [], [], [], ?_⟩⟩
      · obtain ⟨contents, fresh⟩ := begins.fresh s
        rw [fresh] at called
        exact absurd rfl called
      · obtain ⟨contents, fresh⟩ := begins.fresh s
        rw [fresh]
        exact
          { conveys := .start contents
            whole := fun _ => rfl
            called := rfl
            sendable := fun m member => by cases member
            incoming := rfl }
  | @tail moves d after event _ taken ih =>
      obtain ⟨made, e, earlier, realises⟩ :=
        ih fun t member => readable t (List.mem_append_left _ member)
      exact streamHandshakeStep_refines small named ⟨begins.connecting, fun _ => rfl⟩ earlier
        realises taken
        (readable ⟨d, event, after⟩ (by simp))

/-- Nothing is to come any more: both sides were opened, and a side that is not closed has read all
    that was written and handled all it has read. -/
structure StreamSettled (d : StreamDuplex) : Prop where
  opened : ∀ s, (d.party s).state ≠ .connecting
  read : ∀ s, (d.party s).state ≠ .disconnected →
    (d.inbound s).wire = [] ∧ (d.inbound s).ended = false ∧ (d.inbound s).recved = []

theorem Realises.settled (realises : Realises pack unpack conf heap d e)
    (settled : StreamSettled d) : Settled e := by
  obtain ⟨same, both⟩ := realises
  refine ⟨fun s => same ▸ settled.opened s, fun s active => ?_⟩
  rw [same] at active
  obtain ⟨-, heard, queue, dropped, done, later, pending, carries⟩ := (both s).resolve_left active
  obtain ⟨read, going, called⟩ := settled.read s active
  have conveys := carries.conveys
  rw [read, carries.whole going, List.append_nil] at conveys
  rw [carries.incoming, going, carries.all_called called, conveys.finished rfl]
  rfl

/-- A callback binds the connection, if it connects it. -/
theorem PeerConn.Kept.onRecved {conn after : PeerConn} {setting : CallbackSetting} {recved : Recved}
    {sent : List StreamItem} (kept : conn.Kept)
    (handled : conn.onRecved unpack setting recved = .ok (after, sent)) : after.Kept := by
  rw [PeerConn.onRecved] at handled
  split at handled
  · cases handled
    exact kept
  · split at handled
    · split at handled
      · cases handled
      · cases handled
        exact kept
      · rename_i m _
        have answered := kept.onMessage setting.env setting.node m
        rw [Except.ok.inj handled] at answered
        exact answered
    · cases handled
      exact kept

/-- A side whose connection no endpoint lets go of has it bound once it is connected. -/
theorem streamHandshakeStep_kept {label : Peer × StreamHandshakeEvent}
    (taken : StreamHandshakeStep pack unpack conf selves d label after) (kept : (d.party s).Kept)
    (held : ∀ sent, label ≠ (s, .acted .released sent)) : (after.party s).Kept := by
  have stays : ∀ {t : Peer} {mine : PeerConn}, s ≠ t → (Function.update d.party t mine s).Kept := by
    intro t mine differ
    rwa [Function.update_of_ne differ]
  cases taken with
  | @acted t event mine sent inbound at' handled writes =>
      by_cases own : s = t
      · subst own
        dsimp only
        rw [Function.update_self]
        exact PeerConn.handle_kept kept (fun released => held sent (by rw [released])) handled
      · exact stays own
  | read _ _ _ _ _ => exact kept
  | @called t setting recved others mine sent inbound at' next handled writes =>
      by_cases own : s = t
      · subst own
        dsimp only
        rw [Function.update_self]
        exact kept.onRecved handled
      · exact stays own
  | @ended t takes called read ended =>
      by_cases own : s = t
      · subst own
        dsimp only
        rw [Function.update_self]
        exact PeerConn.reset_kept
      · exact stays own

/-- A side that is not closed has met no fault, has room for the next read, and can handle what it
    is called for next. -/
theorem Realises.goes_on (realises : Realises pack unpack conf heap d e) (sane : ((d.party s)).Sane)
    (active : (d.party s).state ≠ .disconnected) :
    (d.inbound s).stream.fault = none ∧ 0 < (ioStreamOnRecvAllocFn (d.inbound s).stream.conn).len ∧
      ∀ setting recved others, (d.inbound s).recved = recved :: others →
        ∃ answer, (d.party s).onRecved unpack setting recved = .ok answer := by
  obtain ⟨opened, heard, queue, dropped, done, later, pending, carries⟩ :=
    (realises.2 s).resolve_left active
  refine ⟨carries.conveys.noFault, carries.conveys.room, fun setting recved others next => ?_⟩
  have takes := sane.takes active (opened (by simp [next]))
  obtain ⟨m, heard', rest, -, answer, -⟩ := carries.call setting next takes
  exact ⟨_, answer⟩

/-- Two nodes that register over the bytes of a stream. In every run, however what was written is
    cut into reads and wherever a side that closes cuts it off, the sides do what they do in a run
    of the registration in which whole messages arrive. So a connection is bound to what it was
    bound to before, or to the process on its other side; a side that is open can go on reading and
    handling; and when all that was written is read and handled, both sides are closed, or both are
    connected and each is bound to the id of the other, or to nothing if its endpoint let go of
    it. -/
theorem streamHandshake_agrees {begin : StreamDuplex}
    {moves : List (Transition StreamDuplex (Peer × StreamHandshakeEvent))}
    (small : ∀ s, (conf s).msgSize ≤ 2 ^ 32 - 20) (named : ∀ s, (selves s).id ≠ 0#64)
    (begins : StreamHandshakeStart conf heap begin)
    (run : Run (StreamHandshakeStep pack unpack conf selves) begin moves d)
    (readable : ∀ t ∈ moves, Transmits pack unpack conf heap t.label) :
    (∃ made inbox,
      Run (DuplexStep (handshake selves)) ⟨begin.party, fun _ => []⟩ made ⟨d.party, inbox⟩) ∧
      (∀ s ep, (d.party s).binding = some ep →
        (begin.party s).binding = some ep ∨ ep.SameProcess (selves s.other)) ∧
      (∀ s, (d.party s).state ≠ .disconnected →
        (d.inbound s).stream.fault = none ∧
        0 < (ioStreamOnRecvAllocFn (d.inbound s).stream.conn).len ∧
          ∀ setting recved others, (d.inbound s).recved = recved :: others →
            ∃ answer, (d.party s).onRecved unpack setting recved = .ok answer) ∧
      (StreamSettled d →
        (∀ s, (d.party s).state = .disconnected) ∨
          ∀ s, (d.party s).Met (selves s.other) ∧
            ((∀ t ∈ moves, ∀ sent, t.label ≠ (s, .acted .released sent)) →
              ∃ ep, (d.party s).binding = some ep ∧ ep.id = (selves s.other).id)) := by
  have bound : ∀ s, (∀ t ∈ moves, ∀ sent, t.label ≠ (s, .acted .released sent)) →
      (d.party s).Kept := by
    intro s
    let inv (d : StreamDuplex) : Prop := (d.party s).Kept
    have first : inv begin := fun up => by
      rw [begins.connecting] at up
      cases up
    exact run.invariant first fun t kept taken held => streamHandshakeStep_kept taken kept held
  obtain ⟨made, e, run', realises⟩ := streamHandshake_run small named begins run readable
  have start : HandshakeStart ⟨begin.party, fun _ => []⟩ := ⟨begins.connecting, fun _ => rfl⟩
  have greeting := handshake_greeting start named run'
  have settled := fun quiet => agree_of_greeting greeting (realises.settled quiet)
  have same := realises.1
  rw [same] at greeting settled
  obtain ⟨party, inbox⟩ := e
  cases same
  exact ⟨⟨made, inbox, run'⟩, fun s => (greeting s).binds,
    fun s => realises.goes_on (greeting s).sane, fun quiet => (settled quiet).imp_right fun met s =>
      ⟨met s, fun held => (met s).bound (bound s held)⟩⟩

end

/-- The request and the response of a node that registers with its neighbour. -/
def greetingMsg (cmd : ProtocolCmd) (s : Peer) : Msg :=
  (NodeState.alone (greeter s)).regMsg cmd 0 RegEnv.reachable.sequence

/-- What msgpack writes for them. -/
def packGreeting (m : Msg) : List UInt8 :=
  let cmd := if m.head.cmd = .nodeRegReq then 11 else 12
  let side := if m.head.srcBusId = (greeter .left).id then 1 else 2
  [0x82, 1, 0x95, cmd, 0, 0, 1, 0xce, 0, side, 0, 1, 2, 0x96, 0xce, 0, side, 0, 1, side, 0xa4, 0x68,
    0x6f, 0x73, 0x74, 0x90, 0x10, 0xc2]

/-- The only bytes that arrive are those of the greeting. -/
def unpackGreeting : Unpack := fun bytes =>
  match [greetingMsg .nodeRegReq .left, greetingMsg .nodeRegReq .right,
    greetingMsg .nodeRegRsp .left,
      greetingMsg .nodeRegRsp .right].find? fun m => packGreeting m = bytes with
  | some m => (Packing.unpack [] (packMsg m)).map fun unpacked => (unpacked.1, [])
  | none => none

theorem unpackGreeting_packGreeting {cmd : ProtocolCmd} (s : Peer)
    (reg : cmd = .nodeRegReq ∨ cmd = .nodeRegRsp) :
    unpackGreeting (packGreeting (greetingMsg cmd s)) =
      (Packing.unpack [] (packMsg (greetingMsg cmd s))).map fun unpacked => (unpacked.1, []) := by
  rcases reg with rfl | rfl
  · cases s with
    | left => rfl
    | right => rfl
  · cases s with
    | left => rfl
    | right => rfl

theorem greetingMsg_sendable {cmd : ProtocolCmd} (s : Peer)
    (reg : cmd = .nodeRegReq ∨ cmd = .nodeRegRsp) :
    Sendable packGreeting unpackGreeting (greetingMsg cmd s) where
  packable := by
    have zero : IsInt32 0 := by decide
    rcases reg with rfl | rfl
    · exact ⟨zero, zero, fun _ known => (by cases known), fun _ known => (by cases known)⟩
    · exact ⟨zero, zero, fun _ known => (by cases known), fun _ known => (by cases known)⟩
  declared := by
    rcases reg with rfl | rfl
    · exact (by decide : ProtocolCmd.nodeRegReq.Declared)
    · exact (by decide : ProtocolCmd.nodeRegRsp.Declared)
  complete := by
    rcases reg with rfl | rfl
    · exact ProtocolCmd.noConfusion
    · exact ProtocolCmd.noConfusion
  nonempty := by simp [packGreeting]
  serialised object packed := by
    rw [unpackGreeting_packGreeting s reg, packed, Packing.unpack_tokens_nil]
    rfl

/-- What `send_msg` writes for them. -/
def greetingFrame (cmd : ProtocolCmd) (s : Peer) : List UInt8 :=
  match MsgHandler.sendMsg packGreeting roomyConf plenty 192 0 .reset (greetingMsg cmd s) with
  | .ok result => wireBytes result
  | .error _ => []

theorem greeting_writes {cmd : ProtocolCmd} (s : Peer) (reg : cmd = .nodeRegReq ∨ cmd = .nodeRegRsp)
    {inbound : Inbound} (open' : inbound.ended = false) :
    Writes packGreeting roomyConf [.msg (greetingMsg cmd s)] inbound
      { inbound with wire := inbound.wire ++ greetingFrame cmd s } := by
  have sent :
      (MsgHandler.sendMsg packGreeting roomyConf plenty 192 0 .reset
        (greetingMsg cmd s)).toOption.map
      (fun result => (result.res, wireBytes result)) = some (.success, greetingFrame cmd s) := by
    rcases reg with rfl | rfl
    · cases s with
      | left => decide +kernel
      | right => decide +kernel
    · cases s with
      | left => decide +kernel
      | right => decide +kernel
  generalize greetingFrame cmd s = frame at sent ⊢
  cases done : MsgHandler.sendMsg packGreeting roomyConf plenty 192 0 .reset
    (greetingMsg cmd s) with
  | error fault =>
      rw [done] at sent
      cases sent
  | ok result =>
      rw [done] at sent
      obtain ⟨accepted, rfl⟩ := Prod.mk.inj (Option.some.inj sent)
      exact .msg open' done accepted .nothing

/-- The connection of a side once it has registered. -/
def greeted (s : Peer) : PeerConn :=
  ((greetingStart.party s).opened.onNewConnection .reachable (.alone (greeter s))).1

/-- It is bound to the other side when the request of that has come. -/
def welcomed (s : Peer) : PeerConn :=
  ((greeted s).onMessage .reachable (.alone (greeter s)) (greetingMsg .nodeRegReq s.other)).1

theorem welcomed_request (s : Peer) :
    (greeted s).onMessage .reachable (.alone (greeter s)) (greetingMsg .nodeRegReq s.other) =
      (welcomed s, [.msg (greetingMsg .nodeRegRsp s)]) := by
  cases s with
  | left => rfl
  | right => rfl

theorem welcomed_response (s : Peer) :
    (welcomed s).onMessage .reachable (.alone (greeter s)) (greetingMsg .nodeRegRsp s.other) =
      (welcomed s, []) := by
  cases s with
  | left => rfl
  | right => rfl

theorem opened_request (s : Peer) :
    (greetingStart.party s).handle (.opened (.alone (greeter s)) .reachable) none =
      some (greeted s, [.msg (greetingMsg .nodeRegReq s)]) := by
  cases s with
  | left => rfl
  | right => rfl

/-- Where a side begins to read. -/
def greetingStream : StreamState := .start (getIostreamConf roomyConf) plenty fun _ => 0

/-- A read that brings all there is. -/
def greetingRead (stream : StreamState) (wire : List UInt8) : StreamState :=
  stream.recv (getIostreamConf roomyConf) ⟨wire, plenty⟩

theorem greeting_readable {cmd : ProtocolCmd} (s : Peer)
    (reg : cmd = .nodeRegReq ∨ cmd = .nodeRegRsp) :
    Readable packGreeting unpackGreeting (getIostreamConf roomyConf) plenty
      (greetingMsg cmd s) := by
  have length : (packGreeting (greetingMsg cmd s)).length = 28 := rfl
  refine ⟨greetingMsg_sendable s reg, ?_⟩
  rw [length]
  refine ⟨fun _ => by decide, fun _ => by decide, fun buffer static => ?_⟩
  cases static
  decide

/-- The right side reads the request of the left one, and later its response. -/
theorem greeting_reads_right : ∃ first second,
    recvStep (getIostreamConf roomyConf) greetingStream ⟨greetingFrame .nodeRegReq .left,
      plenty⟩ first ∧
    first.made.drop greetingStream.made.length =
      [delivered (packGreeting (greetingMsg .nodeRegReq .left))] ∧
    recvStep (getIostreamConf roomyConf) first ⟨greetingFrame .nodeRegRsp .left, plenty⟩ second ∧
    second.made.drop first.made.length =
      [delivered (packGreeting (greetingMsg .nodeRegRsp .left))] :=
  ⟨greetingRead greetingStream (greetingFrame .nodeRegReq .left),
    greetingRead (greetingRead greetingStream (greetingFrame .nodeRegReq .left))
      (greetingFrame .nodeRegRsp .left),
    ⟨rfl, by decide, by decide +kernel, rfl⟩, by decide +kernel,
    ⟨by decide +kernel, by decide, by decide +kernel, rfl⟩, by decide +kernel⟩

/-- The left side reads the request and the response of the right one at once. -/
theorem greeting_reads_left : ∃ stream,
    recvStep (getIostreamConf roomyConf) greetingStream
      ⟨greetingFrame .nodeRegReq .right ++ greetingFrame .nodeRegRsp .right, plenty⟩ stream ∧
    stream.made.drop greetingStream.made.length =
      [delivered (packGreeting (greetingMsg .nodeRegReq .right)),
        delivered (packGreeting (greetingMsg .nodeRegRsp .right))] :=
  ⟨greetingRead greetingStream
    (greetingFrame .nodeRegReq .right ++ greetingFrame .nodeRegRsp .right),
    ⟨rfl, by decide, by decide +kernel, rfl⟩, by decide +kernel⟩

/-- A callback for a message of the greeting. -/
theorem greeting_called {d : StreamDuplex} {cmd : ProtocolCmd} {others : List Recved}
    {after : PeerConn} {sent : List StreamItem} {inbound : Inbound} (s : Peer)
    (reg : cmd = .nodeRegReq ∨ cmd = .nodeRegRsp)
    (next : (d.inbound s).recved = delivered (packGreeting (greetingMsg cmd s.other)) :: others)
    (takes : (d.party s).takesPush = true)
    (handled :
      (d.party s).onMessage .reachable (.alone (greeter s)) (greetingMsg cmd s.other) =
        (after, sent)) (written : Writes packGreeting roomyConf sent (d.inbound s.other) inbound) :
    StreamHandshakeStep packGreeting unpackGreeting (fun _ => roomyConf) greeter d (s, .called sent)
      ⟨Function.update d.party s after,
        Function.update (Function.update d.inbound s { d.inbound s with recved := others }) s.other
          inbound⟩ := by
  let setting : CallbackSetting := ⟨.alone (greeter s), .reachable, 0⟩
  have answer := (greetingMsg_sendable s.other reg).onRecved setting takes
  have at' : setting.node.tables.self.SameProcess (greeter s) := ⟨rfl, rfl, rfl⟩
  exact .called at' next (answer.trans (congrArg Except.ok handled)) written

/-- Both nodes register and answer, and the left one reads the request and the response of the other
    at once; then they are connected and bound to each other. -/
theorem streamHandshake_agrees_greeting : ∃ moves d,
    Run (StreamHandshakeStep packGreeting unpackGreeting (fun _ => roomyConf) greeter)
      ⟨greetingStart.party, fun _ => ⟨[], false, greetingStream, []⟩⟩ moves d ∧
    StreamSettled d ∧ moves.length = 9 ∧
    ∀ s, (d.party s).state = .connected ∧ ∃ ep, (d.party s).binding = some ep ∧
      ep.id = (greeter s.other).id := by
  obtain ⟨first, second, reads, made, reads', made'⟩ := greeting_reads_right
  obtain ⟨stream, readsLeft, madeLeft⟩ := greeting_reads_left
  let opens (s : Peer) : HandshakeEvent := .opened (.alone (greeter s)) .reachable
  let fresh : Inbound := ⟨[], false, greetingStream, []⟩
  have at' (s : Peer) : (opens s).At (greeter s) := ⟨rfl, rfl, rfl⟩
  have heap (size : Nat) : (plenty size).isSome = true := rfl
  have start : Run (StreamHandshakeStep packGreeting unpackGreeting (fun _ => roomyConf) greeter)
      ⟨greetingStart.party, fun _ => fresh⟩ [] ⟨greetingStart.party, fun _ => fresh⟩ := .refl
  have opened :=
    start.tail (.acted (at' .left) (opened_request .left) (greeting_writes .left (.inl rfl) rfl))
  have opened' :=
    opened.tail
      (.acted (at' .right) (opened_request .right) (greeting_writes .right (.inl rfl) rfl))
  have read := opened'.tail (.read (s := .right) rfl rfl (List.append_nil _).symm heap reads)
  have answered :=
    read.tail
      (greeting_called .right (.inl rfl) made rfl (welcomed_request .right)
        (greeting_writes .right (.inr rfl) rfl))
  have readBoth :=
    answered.tail (.read (s := .left) rfl rfl (List.append_nil _).symm heap readsLeft)
  have answered' :=
    readBoth.tail
      (greeting_called .left (.inl rfl) madeLeft rfl (welcomed_request .left)
        (greeting_writes .left (.inr rfl) rfl))
  have seen :=
    answered'.tail (greeting_called .left (.inr rfl) rfl rfl (welcomed_response .left) .nothing)
  have readLast := seen.tail (.read (s := .right) rfl rfl (List.append_nil _).symm heap reads')
  have run :=
    readLast.tail (greeting_called .right (.inr rfl) made' rfl (welcomed_response .right) .nothing)
  obtain ⟨moves, d, run, settled, count, connected, held, readable⟩ : ∃ moves d,
      Run (StreamHandshakeStep packGreeting unpackGreeting (fun _ => roomyConf) greeter)
        ⟨greetingStart.party, fun _ => fresh⟩ moves d ∧
      StreamSettled d ∧ moves.length = 9 ∧ (d.party .left).state = .connected ∧
      (∀ s, ∀ t ∈ moves, ∀ sent, t.label ≠ (s, .acted .released sent)) ∧
      ∀ t ∈ moves,
        Transmits packGreeting unpackGreeting (fun _ => roomyConf) (fun _ => plenty) t.label := by
    have request (s : Peer) := greeting_readable s (.inl rfl)
    have response (s : Peer) := greeting_readable s (.inr rfl)
    refine ⟨_, _, run, ⟨fun s => ?_, fun s _ => ?_⟩, rfl, rfl, by simp [opens], ?_⟩
    · cases s with
      | left => exact ConnState.noConfusion
      | right => exact ConnState.noConfusion
    · cases s with
      | left => exact ⟨rfl, rfl, rfl⟩
      | right => exact ⟨rfl, rfl, rfl⟩
    · simp [Transmits, StreamHandshakeEvent.sent, request, response]
  have named : ∀ s, (greeter s).id ≠ 0#64 := by
    intro s
    cases s with
    | left => decide
    | right => decide
  have begins : StreamHandshakeStart (fun _ => roomyConf) (fun _ => plenty) ⟨greetingStart.party,
      fun _ => fresh⟩ :=
    ⟨fun _ => rfl, fun _ => ⟨_, rfl⟩⟩
  refine ⟨moves, d, run, settled, count, ?_⟩
  have agrees := streamHandshake_agrees (fun _ => by decide) named begins run readable
  rcases agrees.2.2.2 settled with down | met
  · exact absurd (connected.symm.trans (down .left)) (by simp)
  · exact fun s => ⟨(met s).1.1, (met s).2 (held s)⟩

end LibAtbus.Node
