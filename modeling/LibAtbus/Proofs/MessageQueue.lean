/-
Module: LibAtbus.Proofs.MessageQueue
Layer: Proofs
Purpose: What a channel between two nodes is for: a queue of messages. What is accepted for sending
  is handed to the handlers of the receiving node, whole, in order and once. With it what a message
  must be to arrive as it was sent.
Trusted boundary: human-reviewed spec
Main exports: Msg.conveyed, handleMsgs, MsgQueue, MsgQueueStep, msgQueue_conserved, Sendable,
  Sendable.receive, LinkEvent.Sends
-/
import LibAtbus.Foundation.Transitions
import LibAtbus.Node.Links
import LibAtbus.Proofs.CodecRoundTrip
import LibAtbus.Proofs.ParentRegistration
import LibAtbus.Proofs.SizeAgreement

namespace LibAtbus.Node

open Packing Transitions

/-! ### The queue of messages -/

/-- What a message has lost when it arrives: the bodies that are not of its command. -/
def Msg.conveyed (m : Msg) : Msg := ⟨m.head, m.body.forCmd m.head.cmd⟩

/-- Messages that are handled one after the other. -/
def handleMsgs : List (RecvSetting × Msg) → NodeState → Except Escape (NodeState × List Received)
  | [], n => .ok (n, [])
  | (setting, m) :: later, n => do
      let got ← (onRecv n setting.conn (some m) (setting.payload [])).mapError .nullPointer
      let (after, received) ← handleMsgs later got.node
      return (after, got :: received)

/-- The messages that were accepted and not handled yet, oldest first, and the node that receives
    them. -/
structure MsgQueue where
  queue : List Msg
  receiver : NodeState

/-- A message is appended or refused, or the oldest messages are handled, at most one for each
    setting, and nothing is reported of the channel; or the handling of the last of them released
    the connection, and that is reported. -/
inductive MsgQueueStep (link : MsgQueue) : LinkEvent → MsgQueue → Prop where
  | accepted {m : Msg} {conn : PeerConn} :
      MsgQueueStep link (.sent m conn .success) { link with queue := link.queue ++ [m] }
  | refused {m : Msg} {conn : PeerConn} {res : ErrorType} (failed : res.failed = true) :
      MsgQueueStep link (.sent m conn res) link
  | received {settings : List RecvSetting} {n : NodeState} {received : List Received}
      (handled :
        handleMsgs (settings.zip (link.queue.map Msg.conveyed)) link.receiver = .ok (n, received)) :
      MsgQueueStep link (.received settings received []) ⟨link.queue.drop settings.length, n⟩
  | released {settings : List RecvSetting} {next : RecvSetting} {n : NodeState}
      {received : List Received} (waiting : settings.length ≤ link.queue.length)
      (handled :
        handleMsgs (settings.zip (link.queue.map Msg.conveyed)) link.receiver = .ok (n, received)) :
      MsgQueueStep link (.released settings next received [.error ErrorType.params.code])
        ⟨link.queue.drop settings.length, n.addEndpointFault next.faulty⟩
  | elsewhere {n : NodeState} : MsgQueueStep link (.elsewhere n) { link with receiver := n }

/-- The message that is accepted. -/
def LinkEvent.accepted : LinkEvent → List Msg
  | .sent m _ res => if res.failed then [] else [m]
  | .received _ _ _ => []
  | .released _ _ _ _ => []
  | .elsewhere _ => []

/-- The messages that are handled in a transition of the queue. -/
def handledMsgs (t : Transition MsgQueue LinkEvent) : List Msg :=
  match t.label with
  | .sent _ _ _ => []
  | .received settings _ _ => t.pre.queue.take settings.length
  | .released settings _ _ _ => t.pre.queue.take settings.length
  | .elsewhere _ => []

/-- Nothing is lost, doubled or reordered between the two. -/
theorem MsgQueueStep.moves {link after : MsgQueue} {event : LinkEvent}
    (taken : MsgQueueStep link event after) :
    link.queue ++ event.accepted = handledMsgs ⟨link, event, after⟩ ++ after.queue := by
  cases taken with
  | accepted => rfl
  | refused failed => simp [LinkEvent.accepted, handledMsgs, failed]
  | received handled => simp [LinkEvent.accepted, handledMsgs]
  | released waiting handled => simp [LinkEvent.accepted, handledMsgs]
  | elsewhere => simp [LinkEvent.accepted, handledMsgs]

/-- Over a run of the queue, what was accepted was handled or is there still, in order. -/
theorem msgQueue_conserved {σ : Type} {n : NodeState} {made : List (Transition σ LinkEvent)}
    {traced : List (Transition MsgQueue LinkEvent)} {link : MsgQueue}
    (run : Run MsgQueueStep ⟨[], n⟩ traced link)
    (labels : traced.map Transition.label = made.map Transition.label) :
    made.flatMap (fun t => t.label.accepted) = traced.flatMap handledMsgs ++ link.queue := by
  have conserved :=
    @Run.conserved _ _ _ _ _ _ (fun _ => True) _ MsgQueue.queue (fun t => t.label.accepted)
    handledMsgs run trivial fun t _ taken => ⟨trivial, taken.moves⟩
  have same : made.flatMap (fun t => t.label.accepted) = traced.flatMap fun t =>
    t.label.accepted := by
    rw [← List.flatMap_map Transition.label LinkEvent.accepted, ← labels, List.flatMap_map]
  rw [same]
  exact conserved.2

/-! ### What may be sent -/

/-- A message that the handlers send: its fields are of their types, its command is declared and
    packed with a body, and msgpack writes it as bytes that it reads back as the object they stand
    for. -/
structure Sendable (pack : Msg → List UInt8) (unpack : Unpack) (m : Msg) : Prop where
  packable : m.Packable
  declared : m.head.cmd.Declared
  complete : m.head.cmd ≠ .nodeSyncReq
  nonempty : pack m ≠ []
  serialised : ∀ object, packMsg m = object.tokens → unpack (pack m) = some (object, [])

/-- What is sent may be sent. -/
def LinkEvent.Sends (pack : Msg → List UInt8) (unpack : Unpack) : LinkEvent → Prop
  | .sent m _ _ => Sendable pack unpack m
  | .received _ _ _ => True
  | .released _ _ _ _ => True
  | .elsewhere _ => True

section

variable {pack : Msg → List UInt8} {unpack : Unpack} {m : Msg} {n : NodeState}

/-- What was sent is what the bytes unpack to. -/
theorem Sendable.unpacked (sendable : Sendable pack unpack m) (setting : RecvSetting) :
    unpackMsg unpack (setting.payload (pack m)) = .ok (some m.conveyed) := by
  obtain ⟨headObj, headPacked, headBack⟩ :=
    MsgHead.carries sendable.packable.type sendable.packable.ret
  obtain ⟨bodyObj, bodyPacked, bodyBack⟩ :=
    packBody_carried sendable.packable sendable.declared sendable.complete
  have read := sendable.serialised _ (packMsg_tokens headPacked bodyPacked)
  have converted := (convertMsg_map headBack bodyBack setting.srcBusId).1
  simp only [unpackMsg, RecvSetting.payload, read, converted]
  rfl

/-- The block of a message is handled as the message. -/
theorem Sendable.receive (sendable : Sendable pack unpack m) (setting : RecvSetting) :
    Node.receive unpack n setting.conn (setting.payload (pack m)) =
      (onRecv n setting.conn (some m.conveyed) (setting.payload [])).mapError .nullPointer := by
  rw [Node.receive, sendable.unpacked setting]
  rfl

end

/-- What a ping unpacks to. -/
def pingObject : PackedObject :=
  .map [(.int 1, .array [.int 14, .int 0, .int 0, .int 1, .int 0x12345678]),
    (.int 2, .array [.int 0])]

/-- The only bytes that arrive are those of the ping. -/
def unpackPing : Unpack := fun bytes => if bytes = pingBytes then some (pingObject, []) else none

theorem pingMsg_sendable : Sendable (fun _ => pingBytes) unpackPing pingMsg where
  packable :=
    ⟨by decide, by decide, fun _ known => (by cases known), fun _ known => (by cases known)⟩
  declared := by decide
  complete := by decide
  nonempty := by decide
  serialised object packed := by
    have read := unpack_tokens_nil object
    rw [← packed] at read
    have known : unpack [] (packMsg pingMsg) = some (pingObject, []) := rfl
    rw [← (Prod.mk.inj (Option.some.inj (known.symm.trans read))).1]
    exact if_pos rfl

/-- What the receive loop meets on a connection that is bound to no endpoint. -/
def RecvSetting.unbound : RecvSetting where
  clock := 0
  conn := { parentConn with binding := none }
  env := .reachable
  faulty := none
  srcBusId := 0

end LibAtbus.Node
