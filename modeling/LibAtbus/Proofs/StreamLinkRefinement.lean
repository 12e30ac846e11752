/-
Module: LibAtbus.Proofs.StreamLinkRefinement
Layer: Proofs
Purpose: A stream between two nodes is a queue of messages, the same as a memory channel is. However
  the frames of the messages are cut into reads, the callbacks of a read hand over the oldest
  messages, as many as the read completed; the connection stays open with room for the next read,
  and when all bytes were read all messages were handled.
Trusted boundary: human-reviewed spec
Main exports: Conveys, ioStreamSend_outcome, iostreamCallbacks_handles, streamLinkStep_refines,
  streamLink_refines
-/
import LibAtbus.Proofs.MessageQueue
import LibAtbus.Proofs.SizeAgreement

namespace LibAtbus.Node

open Channel Detail ByteMemory Packing Transitions

section

variable {pack : Msg → List UInt8} {unpack : Unpack} {conf : NodeConf} {peer : StreamConf}
  {heap : Heap} {m : Msg} {wire : List UInt8} {stream : StreamState} {queue : List Msg}

/-! ### Sending -/

/-- A frame went to libuv exactly if the send succeeded. -/
theorem ioStreamSend_outcome {peer : StreamConf} {reqSize : Nat} {uvWrite : Int}
    {writeBuffers : BufferManager} {buf : List UInt8} {result : Channel.SendResult}
    (sent : ioStreamSend peer heap reqSize uvWrite writeBuffers buf = .ok result) :
    result.res = .success ∧ (∃ bytes bufLen, result.frame = some (bytes, bufLen)) ∨
      result.res.failed = true ∧ result.frame = none := by
  unfold ioStreamSend at sent
  split at sent
  case isTrue =>
    cases sent
    exact .inr ⟨rfl, rfl⟩
  case isFalse =>
    dsimp only at sent
    split at sent
    case h_1 =>
      obtain ⟨_, _, sent⟩ := ok_of_bind sent
      obtain ⟨_, _, sent⟩ := ok_of_bind sent
      obtain ⟨_, _, sent⟩ := ok_of_bind sent
      obtain ⟨frame, _, sent⟩ := ok_of_bind sent
      split at sent
      case isTrue =>
        cases sent
        exact .inr ⟨rfl, rfl⟩
      case isFalse =>
        cases sent
        exact .inl ⟨rfl, frame, _, rfl⟩
    case h_2 failed _ =>
      cases sent
      exact .inr ⟨(ErrorType.failed_iff _).mpr failed, rfl⟩

/-- A message that is sent puts its whole frame on the wire, one that is not puts nothing there. -/
theorem sendMsg_wire (small : conf.msgSize ≤ 2 ^ 32 - 20) {reqSize : Nat} {uvWrite : Int}
    {writeBuffers : BufferManager} {result : Channel.SendResult}
    (sent : MsgHandler.sendMsg pack conf heap reqSize uvWrite writeBuffers m = .ok result) :
    result.res = .success ∧
      (∃ frame : Frame, SentFrame frame.payload frame ∧ frame.payload = pack m ∧
      wireBytes result = frame.bytes) ∨ result.res.failed = true ∧ wireBytes result = [] := by
  rw [MsgHandler.sendMsg] at sent
  split at sent
  case isTrue =>
    cases sent
    exact .inr ⟨rfl, rfl⟩
  case isFalse short =>
    rcases ioStreamSend_outcome sent with ⟨accepted, bytes, bufLen, built⟩ | ⟨failed, none⟩
    · obtain ⟨frame, rfl, isSent, -, rfl⟩ := ioStreamSend_built sent built
      have payload := isSent.payload
      have vint := isSent.vint
      have whole : frame.bytes.length < 2 ^ 32 := by
        rw [frame.bytes_length, payload]
        omega
      refine .inl ⟨accepted, frame, ?_, payload, ?_⟩
      · rwa [payload]
      · rw [wireBytes, built]
        dsimp only
        rw [Nat.mod_eq_of_lt whole, List.take_length]
    · refine .inr ⟨failed, ?_⟩
      rw [wireBytes, none]

/-! ### The stream of messages -/

/-- What was not read yet completes the frames of the messages in the queue, of which the receiving
    side has the beginning, and it has delivered the frames before them. -/
structure Conveys (pack : Msg → List UInt8) (unpack : Unpack) (peer : StreamConf) (heap : Heap)
    (wire : List UInt8) (stream : StreamState) (queue : List Msg) (done later : List Frame)
    (pending : List UInt8) : Prop where
  noFault : stream.fault = none
  decoded : Decoded peer (readLimit peer heap) (readStatic peer heap) stream done pending
  ahead : pending ++ wire = (later.map Frame.bytes).flatten
  framed : ∀ frame ∈ done ++ later, SentFrame frame.payload frame
  fits : ∀ frame ∈ later, Receivable peer heap frame.payload.length
  packed : queue.map pack = later.map Frame.payload
  sendable : ∀ m ∈ queue, Sendable pack unpack m

/-- A fresh connection conveys nothing. -/
theorem Conveys.start (contents : Memory) :
    Conveys pack unpack peer heap [] (.start peer heap contents) [] [] [] [] where
  noFault := rfl
  decoded := (start_inv peer heap contents).1
  ahead := rfl
  framed frame member := by cases member
  fits frame member := by cases member
  packed := rfl
  sendable m member := by cases member

variable {done later : List Frame} {pending : List UInt8}

/-- The frame of a message behind those that are not read yet. -/
theorem Conveys.send {frame : Frame}
    (conveys : Conveys pack unpack peer heap wire stream queue done later pending)
    (framed : SentFrame frame.payload frame) (payload : frame.payload = pack m)
    (sendable : Sendable pack unpack m) (fits : Receivable peer heap (pack m).length) :
    Conveys pack unpack peer heap (wire ++ frame.bytes) stream (queue ++ [m]) done
      (later ++ [frame]) pending where
  noFault := conveys.noFault
  decoded := conveys.decoded
  ahead := by
    rw [← List.append_assoc, conveys.ahead, List.map_append, List.flatten_append]
    simp
  framed other member := by
    rw [← List.append_assoc] at member
    rcases List.mem_append.mp member with old | new
    · exact conveys.framed other old
    · exact List.mem_singleton.mp new ▸ framed
  fits other member := by
    rcases List.mem_append.mp member with old | new
    · exact conveys.fits other old
    · rw [List.mem_singleton.mp new, payload]
      exact fits
  packed := by
    rw [List.map_append, List.map_append, conveys.packed, List.map_singleton, List.map_singleton,
      payload]
  sendable other member := by
    rcases List.mem_append.mp member with old | new
    · exact conveys.sendable other old
    · exact List.mem_singleton.mp new ▸ sendable

/-- A read delivers the oldest frames that are not read yet, as many as it completes. -/
theorem Conveys.read {chunk rest : List UInt8} {memory : Heap} {post : StreamState}
    (conveys : Conveys pack unpack peer heap wire stream queue done later pending)
    (arrived : wire = chunk ++ rest) (malloc : ∀ size, (memory size).isSome = true)
    (taken : recvStep peer stream ⟨chunk, memory⟩ post) :
    ∃ new later' pending', later = new ++ later' ∧
      post.made.drop stream.made.length = (new.map Frame.payload).map delivered ∧
      Conveys pack unpack peer heap rest post (queue.drop new.length)
        (done ++ new) later' pending' := by
  have decoded := conveys.decoded
  have ahead : pending ++ chunk ++ rest = (later.map Frame.bytes).flatten := by
    rw [List.append_assoc, ← arrived, conveys.ahead]
  have starts : stream.received ++ chunk <+: ((done ++ later).map Frame.bytes).flatten := by
    refine ⟨rest, ?_⟩
    rw [decoded.received, List.map_append, List.flatten_append, ← ahead]
    simp only [List.append_assoc]
  have meets : FitsStep ⟨stream, ⟨chunk, memory⟩, post⟩ := decoded.fitsStep starts conveys.framed
  obtain ⟨noFault, received, going | refused⟩ := decoded.step taken meets
  · obtain ⟨new, pending', decoded'⟩ := going
    have split : pending ++ chunk = (new.map Frame.bytes).flatten ++ pending' := by
      have both := received.symm.trans decoded'.received
      rw [decoded.received, List.map_append, List.flatten_append, List.append_assoc,
        List.append_assoc] at both
      exact List.append_cancel_left both
    rw [split, List.append_assoc] at ahead
    obtain ⟨later', rfl, -⟩ := frames_of_prefix ⟨[], by rw [List.append_nil]; exact ahead⟩
    rw [List.map_append, List.flatten_append] at ahead
    have reported : new.map (Frame.report peer) = (new.map Frame.payload).map delivered := by
      rw [List.map_map]
      refine List.map_congr_left fun frame member => ?_
      exact (conveys.framed frame (by simp [member])).report
        (conveys.fits frame (by simp [member])).limit
    refine ⟨new, later', pending', rfl, ?_, ?_⟩
    · rw [decoded'.made, decoded.made, List.map_append, List.drop_left, reported]
    · exact
        { noFault := noFault
          decoded := decoded'
          ahead := List.append_cancel_left ahead
          framed := fun frame member => conveys.framed frame (by simpa [or_assoc] using member)
          fits := fun frame member => conveys.fits frame (List.mem_append_right _ member)
          packed := by
            rw [List.map_drop, conveys.packed, List.map_append]
            exact List.drop_left' (List.length_map _)
          sendable := fun m member => conveys.sendable m (List.mem_of_mem_drop member) }
  · obtain ⟨inHead, left, vintLen, msgLen, reaches, header, refused⟩ := refused.header
    rw [(decoded.inHead inHead).1] at reaches
    obtain ⟨earlier, rest', rfl, behind⟩ := reaches_of_frames ⟨rest, ahead⟩ reaches
    obtain ⟨frame, last, rfl, rfl, rfl⟩ := header_of_frames behind header
    have small := (conveys.framed frame (by simp)).small
    rw [frame.bytes_length] at small
    have accepts : Accepts (readLimit peer heap) (readStatic peer heap) memory
        (4 + frame.payload.length) :=
      @Receivable.accepts _ _ ⟨chunk, memory⟩ _ (conveys.fits frame (by simp)) (by omega) fun _ =>
        malloc
    exact absurd accepts refused

/-- There is room for the next read. -/
theorem Conveys.room (conveys :
    Conveys pack unpack peer heap wire stream queue done later pending) :
    0 < (ioStreamOnRecvAllocFn stream.conn).len :=
  conveys.decoded.offered ⟨wire, conveys.ahead⟩ fun frame member =>
    conveys.framed frame (List.mem_append_right _ member)

/-- When all that was written was read, all messages were delivered. -/
theorem Conveys.finished (conveys :
    Conveys pack unpack peer heap wire stream queue done later pending)
    (empty : wire = []) : queue = [] := by
  have whole : pending = (later.map Frame.bytes).flatten := by
    rw [← conveys.ahead, empty, List.append_nil]
  obtain ⟨rfl, -⟩ := conveys.decoded.finished whole
  exact List.map_eq_nil_iff.mp conveys.packed

/-! ### Handling -/

/-- The callbacks for messages that arrived whole handle these messages. -/
theorem iostreamCallbacks_handles {settings : List RecvSetting} :
    ∀ {queue : List Msg} {n : NodeState}, (∀ m ∈ queue, Sendable pack unpack m) →
      iostreamCallbacks unpack (settings.zip ((queue.map pack).map delivered)) n =
        (handleMsgs (settings.zip (queue.map Msg.conveyed)) n).map fun done =>
          (done.1, done.2, []) := by
  induction settings with
  | nil => exact fun _ => rfl
  | cons setting settings ih =>
      intro queue n sendable
      cases queue with
      | nil => rfl
      | cons m queue =>
          have first := sendable m List.mem_cons_self
          have handled : iostreamOnRecvCb unpack n (some setting.conn) (delivered (pack m)).status
              (setting.payload (delivered (pack m)).data) =
                ((onRecv n setting.conn (some m.conveyed) (setting.payload [])).mapError
                  .nullPointer).map
                  fun got => { ret := 0, node := got.node, received := [got] } := by
            rw [← first.receive setting, iostreamOnRecvCb, delivered,
              if_neg (by decide : ¬ErrorType.success.failed = true)]
            dsimp only
            rw [RecvSetting.payload, if_neg first.nonempty]
            rfl
          rw [List.map_cons, List.map_cons, List.map_cons, List.zip_cons_cons, List.zip_cons_cons,
            iostreamCallbacks, handled, handleMsgs]
          cases onRecv n setting.conn (some m.conveyed) (setting.payload []) with
          | error pointer => rfl
          | ok got =>
              have later := @ih queue got.node fun m member =>
                sendable m (List.mem_cons_of_mem _ member)
              change (iostreamCallbacks unpack _ got.node).bind _ =
                ((handleMsgs _ got.node).bind _).map _
              rw [later]
              cases handleMsgs (settings.zip (queue.map Msg.conveyed)) got.node with
              | error escape => rfl
              | ok done => rfl

/-! ### Runs -/

/-- What is sent may be sent, and the receiving side can hold it. -/
def LinkEvent.SendsTo (pack : Msg → List UInt8) (unpack : Unpack) (peer : StreamConf)
    (heap : Heap) : LinkEvent → Prop
  | .sent m _ _ => Sendable pack unpack m ∧ Receivable peer heap (pack m).length
  | .received _ _ _ => True
  | .released _ _ _ _ => True
  | .elsewhere _ => True

/-- The callbacks of a read handle the oldest messages. -/
theorem Conveys.handles {chunk rest : List UInt8} {memory : Heap} {post : StreamState}
    {settings : List RecvSetting} {n : NodeState}
    (conveys : Conveys pack unpack peer heap wire stream queue done later pending)
    (arrived : wire = chunk ++ rest) (malloc : ∀ size, (memory size).isSome = true)
    (taken : recvStep peer stream ⟨chunk, memory⟩ post)
    (called : settings.length = (post.made.drop stream.made.length).length) :
    iostreamCallbacks unpack (settings.zip (post.made.drop stream.made.length)) n =
      (handleMsgs (settings.zip (queue.map Msg.conveyed)) n).map fun done =>
        (done.1, done.2, []) := by
  obtain ⟨new, later', pending', rfl, made, -⟩ := conveys.read arrived malloc taken
  rw [made] at called ⊢
  have packed : (queue.map pack).map delivered =
      (new.map Frame.payload).map delivered ++ (later'.map Frame.payload).map delivered := by
    rw [conveys.packed, List.map_append, List.map_append]
  have oldest : settings.zip ((queue.map pack).map delivered) =
      settings.zip ((new.map Frame.payload).map delivered) := by
    have zipped : (settings ++ []).zip (_ ++ (later'.map Frame.payload).map delivered) = _ :=
      List.zip_append called
    rw [List.append_nil, List.zip_nil_left, List.append_nil] at zipped
    rw [packed, zipped]
  rw [← oldest]
  exact iostreamCallbacks_handles conveys.sendable

/-- Every event of the link is one of the queue. -/
theorem streamLinkStep_refines {link after : StreamLink} {event : LinkEvent}
    (small : conf.msgSize ≤ 2 ^ 32 - 20)
    (conveys : Conveys pack unpack peer heap link.wire link.stream queue done later pending)
    (taken : StreamLinkStep pack unpack conf peer link event after)
    (sends : event.SendsTo pack unpack peer heap) :
    ∃ queue' done' later' pending',
      Conveys pack unpack peer heap after.wire after.stream queue' done' later' pending' ∧
        MsgQueueStep ⟨queue, link.receiver⟩ event ⟨queue', after.receiver⟩ := by
  cases taken with
  | sent takes sending =>
      rcases sendMsg_wire small sending with ⟨accepted, frame, framed, payload, wire⟩ | ⟨failed,
        wire⟩
      · rw [accepted, wire]
        exact ⟨_, _, _, _, conveys.send framed payload sends.1 sends.2, .accepted⟩
      · rw [wire, List.append_nil]
        exact ⟨_, _, _, _, conveys, .refused failed⟩
  | unsent down =>
      refine ⟨_, _, _, _, conveys, .refused ?_⟩
      split
      case isTrue => rfl
      case isFalse => rfl
  | @received chunk rest memory stream settings n received events arrived malloc read called
      handled =>
      obtain ⟨new, later', pending', -, made, conveys'⟩ := conveys.read arrived malloc read
      rw [conveys.handles arrived malloc read called] at handled
      rw [made, List.length_map, List.length_map] at called
      cases result : handleMsgs (settings.zip (queue.map Msg.conveyed)) link.receiver with
      | error escape =>
          rw [result] at handled
          cases handled
      | ok handledAll =>
          rw [result] at handled
          cases handled
          refine ⟨_, _, _, _, conveys', ?_⟩
          rw [← called]
          exact .received result
  | elsewhere => exact ⟨_, _, _, _, conveys, .elsewhere⟩

/-- Every run of the link is one of the queue. -/
theorem streamLink_run {made : List (Transition StreamLink LinkEvent)} {start link : StreamLink}
    (small : conf.msgSize ≤ 2 ^ 32 - 20)
    (conveys : Conveys pack unpack peer heap start.wire start.stream [] done later pending)
    (run : Run (StreamLinkStep pack unpack conf peer) start made link)
    (sends : ∀ t ∈ made, t.label.SendsTo pack unpack peer heap) :
    ∃ traced queue done' later' pending',
      Run MsgQueueStep ⟨[], start.receiver⟩ traced ⟨queue, link.receiver⟩ ∧
      traced.map Transition.label = made.map Transition.label ∧
      Conveys pack unpack peer heap link.wire link.stream queue done' later' pending' := by
  induction run with
  | refl => exact ⟨[], [], _, _, _, .refl, rfl, conveys⟩
  | @tail made link after event _ taken ih =>
      obtain ⟨traced, queue, _, _, _, earlier, labels, conveys'⟩ :=
        ih fun t member => sends t (List.mem_append_left _ member)
      obtain ⟨queue', _, _, _, conveys'', step⟩ :=
        streamLinkStep_refines small conveys' taken (sends ⟨link, event, after⟩ (by simp))
      refine ⟨_, queue', _, _, _, earlier.tail step, ?_, conveys''⟩
      rw [List.map_append, List.map_append, labels]
      rfl

end

/-- A stream between two nodes is a queue of messages. In every run of the link from a fresh
    connection, whatever the reads are that the frames come in, the events are those of a queue that
    starts empty: the messages that were accepted are, in order, those that were handled and those
    still in the queue. The connection stays open with room for the next read, which hands the
    oldest messages to their handlers and reports nothing else; and when all that was written has
    been read, none is left. -/
theorem streamLink_refines {pack : Msg → List UInt8} {unpack : Unpack} {conf : NodeConf}
    {peer : StreamConf} {heap : Heap} {contents : Memory} {n : NodeState}
    {made : List (Transition StreamLink LinkEvent)} {link : StreamLink}
    (small : conf.msgSize ≤ 2 ^ 32 - 20)
    (run : Run (StreamLinkStep pack unpack conf peer) ⟨[], .start peer heap contents, n⟩ made link)
    (sends : ∀ t ∈ made, t.label.SendsTo pack unpack peer heap) :
    ∃ traced queue, Run MsgQueueStep ⟨[], n⟩ traced ⟨queue, link.receiver⟩ ∧
      traced.map Transition.label = made.map Transition.label ∧
      made.flatMap (fun t => t.label.accepted) = traced.flatMap handledMsgs ++ queue ∧
      link.stream.fault = none ∧ link.stream.conn.status = .connected ∧
      0 < (ioStreamOnRecvAllocFn link.stream.conn).len ∧ (link.wire = [] → queue = []) ∧
      ∀ (chunk rest : List UInt8) (memory : Heap) (post : StreamState)
      (settings : List RecvSetting),
        link.wire = chunk ++ rest → (∀ size, (memory size).isSome = true) →
        recvStep peer link.stream ⟨chunk, memory⟩ post →
        settings.length = (post.made.drop link.stream.made.length).length →
        iostreamCallbacks unpack (settings.zip (post.made.drop link.stream.made.length))
          link.receiver =
          (handleMsgs (settings.zip (queue.map Msg.conveyed)) link.receiver).map fun done =>
            (done.1, done.2, []) := by
  obtain ⟨traced, queue, done, later, pending, run', labels, conveys⟩ :=
    streamLink_run small (.start contents) run sends
  exact ⟨traced, queue, run', labels, msgQueue_conserved run' labels, conveys.noFault,
    conveys.decoded.connected, conveys.room, conveys.finished,
    fun chunk rest memory post settings arrived malloc taken called =>
      conveys.handles arrived malloc taken called⟩

/-- A ping is sent over a stream, and read at once. -/
theorem streamLink_refines_ping :
    ∃ made link,
      Run (StreamLinkStep (fun _ => pingBytes) unpackPing roomyConf (getIostreamConf roomyConf))
        ⟨[], .start (getIostreamConf roomyConf) plenty fun _ => 0, .connecting⟩ made link ∧
      made.length = 2 ∧ link.wire = [] ∧
      ∃ traced, Run MsgQueueStep ⟨[], .connecting⟩ traced ⟨[], link.receiver⟩ ∧
        traced.flatMap handledMsgs = [pingMsg] := by
  let start : StreamState := .start (getIostreamConf roomyConf) plenty fun _ => 0
  let event : ReadEvent := ⟨[171, 23, 134, 254, 15] ++ pingBytes, plenty⟩
  have sent :
      (MsgHandler.sendMsg (fun _ => pingBytes) roomyConf plenty 192 0 .reset pingMsg).toOption.map
      (fun result => (result.res, wireBytes result)) = some (.success, event.chunk) := by
    decide +kernel
  have read : recvStep (getIostreamConf roomyConf) start event
      (start.recv (getIostreamConf roomyConf) event) :=
    ⟨rfl, by decide, by decide +kernel, rfl⟩
  have delivers : (start.recv (getIostreamConf roomyConf) event).made.drop start.made.length =
      ([pingMsg].map fun _ => pingBytes).map delivered := by decide +kernel
  obtain ⟨handled, answered⟩ : ∃ handled,
      handleMsgs ([RecvSetting.unbound].zip ([pingMsg].map Msg.conveyed)) .connecting =
        .ok handled := ⟨_, rfl⟩
  have sendable : ∀ m ∈ [pingMsg], Sendable (fun _ => pingBytes) unpackPing m := by
    intro m member
    rw [List.mem_singleton.mp member]
    exact pingMsg_sendable
  have called : iostreamCallbacks unpackPing ([RecvSetting.unbound].zip _) .connecting = _ :=
    iostreamCallbacks_handles sendable
  rw [answered, ← delivers] at called
  obtain ⟨result, sending, success, wire⟩ : ∃ result,
      MsgHandler.sendMsg (fun _ => pingBytes) roomyConf plenty 192 0 .reset pingMsg = .ok result ∧
        result.res = .success ∧ wireBytes result = event.chunk := by
    cases done : MsgHandler.sendMsg (fun _ => pingBytes) roomyConf plenty 192 0 .reset pingMsg with
    | error fault =>
        rw [done] at sent
        cases sent
    | ok result =>
        rw [done] at sent
        exact ⟨result, rfl, Prod.mk.inj (Option.some.inj sent)⟩
  have first : StreamLinkStep (fun _ => pingBytes) unpackPing roomyConf (getIostreamConf roomyConf)
      ⟨[], start, .connecting⟩ (.sent pingMsg parentConn result.res) ⟨[] ++ wireBytes result, start,
        .connecting⟩ :=
    .sent (by decide) sending
  have second : StreamLinkStep (fun _ => pingBytes) unpackPing roomyConf (getIostreamConf roomyConf)
      ⟨[] ++ wireBytes result, start, .connecting⟩ (.received [.unbound] handled.2 [])
      ⟨[], start.recv (getIostreamConf roomyConf) event, handled.1⟩ :=
    .received (by rw [List.nil_append, wire, List.append_nil]) (fun _ => rfl) read
      (by rw [delivers]; rfl) called
  obtain ⟨made, run, sends, both, accepted⟩ : ∃ made,
      Run (StreamLinkStep (fun _ => pingBytes) unpackPing roomyConf (getIostreamConf roomyConf))
          ⟨[], start, .connecting⟩ made ⟨[], start.recv (getIostreamConf roomyConf) event,
            handled.1⟩ ∧
        (∀ t ∈ made,
          t.label.SendsTo (fun _ => pingBytes) unpackPing (getIostreamConf roomyConf) plenty) ∧
        made.length = 2 ∧ made.flatMap (fun t => t.label.accepted) = [pingMsg] := by
    refine ⟨_, (Run.refl.tail first).tail second, fun t member => ?_, rfl, ?_⟩
    · rcases List.mem_append.mp member with early | late
      · rw [List.mem_singleton.mp early]
        exact ⟨pingMsg_sendable, fun _ => by decide, fun _ => by decide, fun buffer static => by
          cases static
          decide⟩
      · rw [List.mem_singleton.mp late]
        trivial
    · rw [success]
      rfl
  obtain ⟨traced, queue, run', -, moved, -, -, -, emptied, -⟩ :=
    streamLink_refines (by decide) run sends
  have none : queue = [] := emptied rfl
  rw [none] at run' moved
  rw [accepted, List.append_nil] at moved
  exact ⟨made, _, run, both, rfl, traced, run', moved.symm⟩

end LibAtbus.Node
