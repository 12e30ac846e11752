/-
Module: LibAtbus.Proofs.HopBound
Layer: Proofs
Purpose: How far a data request gets. `send_msg` enters the node into the router list of a request
  before it sends it, for each attempt anew, and a relay looks at the length of the list before it
  sends anything. So the ttl bounds the transmissions of a request, in whatever way the tables of
  the nodes point at each other.
Trusted boundary: none
Main exports: Msg.hops, Sending, Receiving, requests, requests_bounded, hop_bound
-/
import LibAtbus.Foundation.HopBudget
import LibAtbus.Node.MsgHandler
import LibAtbus.Node.Registry

namespace LibAtbus.Node

open Transitions

variable {node : BusNode} {link : Link} {links : Links} {sequence : BitVec 32} {m : Msg}
  {data : ForwardData} {tid : BusId}

/-- How often a request was marked: the length of its router list. -/
def Msg.hops (m : Msg) : Nat := (m.body.forward.map fun data => data.router.length).getD 0

theorem Msg.hops_stamp {id : BusId} (known : m.body.forward.isSome = true) :
    (m.stamp id).hops = m.hops + 1 := by
  obtain ⟨data, forward⟩ := Option.isSome_iff_exists.mp known
  simp [hops, stamp, forward]

theorem Msg.isSome_stamp {id : BusId} :
    (m.stamp id).body.forward.isSome = m.body.forward.isSome := by
  simp [stamp]

/-! ### One node -/

/-- A message that `send_msg` did not send may be marked all the same. -/
theorem sendMsg_msg (node : BusNode) (link : Link) (tid : BusId) (m : Msg) :
    (sendMsg node link tid m).msg = m ∨ (sendMsg node link tid m).msg = m.stamp node.id := by
  rw [sendMsg]
  split
  · exact .inl rfl
  · split
    · exact .inl rfl
    · split
      · exact .inl rfl
      · exact .inr rfl

/-- Whatever is sent of a request has been marked once more, at each of the two attempts. -/
theorem hops_of_mem_resend {packet : Endpoint × Msg} (known : m.body.forward.isSome = true)
    (sent : packet ∈ (resend node link data.toId (sendMsg node link data.toId m)).sent.toList) :
    m.hops < packet.2.hops := by
  have marked : ∀ {tid : BusId} {m' : Msg}, m'.body.forward.isSome = true →
      packet ∈ (sendMsg node link tid m').sent.toList → packet.2.hops = m'.hops + 1 := by
    intro tid m' known sent
    obtain ⟨-, -, same, -⟩ := sendMsg_sent (Option.mem_toList.mp sent)
    rw [same, Msg.hops_stamp known]
  have once : packet ∈ (sendMsg node link data.toId m).sent.toList → m.hops < packet.2.hops := by
    intro sent
    rw [marked known sent]
    exact Nat.lt_succ_self _
  rw [resend] at sent
  split at sent
  · split at sent
    · exact once sent
    · split at sent
      · exact once sent
      · rename_i father _ _
        -- the second attempt marks what the first one left
        rcases sendMsg_msg node link data.toId m with same | again
        · rw [same] at sent
          rw [marked known sent]
          exact Nat.lt_succ_self _
        · rw [again] at sent
          rw [marked (Msg.isSome_stamp.trans known) sent, Msg.hops_stamp known]
          omega
  · exact once sent

/-- The requests among what was transmitted. -/
theorem Handled.onward_eq (handled : Handled) :
    handled.onward = handled.sent.filter fun packet => packet.2.head.cmd = .dataTransformReq := rfl

/-- Nothing that is sent of another message is a request. -/
theorem filter_sent_eq_nil (other : m.head.cmd ≠ .dataTransformReq) :
    (sendMsg node link tid m).sent.toList.filter
      (fun packet => packet.2.head.cmd = .dataTransformReq) = [] := by
  rw [List.filter_eq_nil_iff]
  intro packet sent
  obtain ⟨-, -, same, -⟩ := sendMsg_sent (Option.mem_toList.mp sent)
  rw [same, decide_eq_true_eq]
  exact other

theorem sendTransferRsp_onward (ret : ErrorType) :
    (sendTransferRsp node link m ret).onward = [] := by
  rw [sendTransferRsp]
  cases m.body.forward with
  | none => rfl
  | some data =>
      exact filter_sent_eq_nil (m := transferRsp m data node.id ret) ProtocolCmd.noConfusion

theorem deliver_onward : (deliver node link m data).onward = [] := by
  rw [deliver]
  split
  · exact sendTransferRsp_onward .success
  · rfl

theorem conclude_onward (asked : Bool) (last : SendResult) :
    (conclude node link asked last).onward =
    last.sent.toList.filter fun packet => packet.2.head.cmd = .dataTransformReq := by
  rw [conclude]
  split
  · rw [Handled.onward_eq, List.filter_append, ← Handled.onward_eq, sendTransferRsp_onward,
      List.append_nil]
  · rfl

theorem forwardedToChild_onward (directFrom : BusId) (sending : SendResult) :
    (forwardedToChild node links sequence directFrom sending).onward =
      sending.sent.toList.filter fun packet => packet.2.head.cmd = .dataTransformReq := by
  rw [forwardedToChild]
  split
  · rfl
  · rw [Handled.onward_eq, List.filter_append, filter_sent_eq_nil ProtocolCmd.noConfusion,
      List.append_nil]

/-- A relay sends a request on at most once: by the first attempt that succeeds. -/
theorem relay_onward : (relay node links sequence m data).onward =
    (resend node links.data data.toId (sendMsg node links.data data.toId m)).sent.toList.filter
      fun packet => packet.2.head.cmd = .dataTransformReq := by
  rw [relay]
  split
  · rename_i first
    rw [Bool.and_eq_true, Bool.not_eq_true'] at first
    rw [forwardedToChild_onward, resend, first.1]
    rfl
  · exact conclude_onward _ _

/-- What the handler of a request sends on is one attempt at most, of a request below the ttl. -/
theorem onward_of_handler (node : BusNode) (links : Links) (sequence : BitVec 32) (m : Msg)
    (conn : Bool) : (onRecvDataTransferReq node links sequence conn m).onward = [] ∨
      ∃ data, m.body.forward = some data ∧ data.router.length < ttlSize node.ttl ∧
        (onRecvDataTransferReq node links sequence conn m).onward =
          (resend node links.data data.toId
            (sendMsg node links.data data.toId m)).sent.toList.filter
            fun packet => packet.2.head.cmd = .dataTransformReq := by
  rw [onRecvDataTransferReq]
  split
  · exact .inl rfl
  · rename_i data found
    obtain ⟨known, -⟩ := Option.filter_eq_some_iff.mp found
    split
    · exact .inl deliver_onward
    · split
      · exact .inl (sendTransferRsp_onward _)
      · rename_i left
        exact .inr ⟨data, known, Nat.not_le.mp left, relay_onward⟩

/-- `send_data` transmits its request at most once, with the router list of one node. -/
theorem sendData_hops {type : Int} {content : List UInt8} {requireRsp : Bool}
    {packet : Endpoint × Msg}
    (sent : packet ∈ (sendData node links sequence tid type content requireRsp).sent) :
    packet.2.hops = 1 := by
  rw [sendData] at sent
  split at sent
  · cases sent
  · split at sent
    · cases sent
    · obtain ⟨-, -, same, -⟩ := sendMsg_sent (Option.mem_toList.mp sent)
      rw [same, Msg.hops_stamp rfl]
      cases requireRsp <;> rfl

theorem sendData_sent_length {type : Int} {content : List UInt8} {requireRsp : Bool} :
    (sendData node links sequence tid type content requireRsp).sent.length ≤ 1 := by
  rw [sendData]
  split
  · exact Nat.zero_le _
  · split
    · exact Nat.zero_le _
    · exact Option.length_toList_le

/-- An `int` that is not negative does not grow as a `size_t`. -/
theorem ttlSize_le {ttl : Int} (positive : 1 ≤ ttl) : (ttlSize ttl : Int) ≤ ttl := by
  rw [ttlSize, BitVec.toNat_ofInt, show ((2 ^ 64 : Nat) : Int) = 18446744073709551616 from rfl]
  omega

/-! ### Many nodes -/

/-- A call of `send_data` at one of the nodes, with its tables and connections of the moment. -/
structure Sending (nodes : Set BusNode) where
  node : nodes
  links : Links
  sequence : BitVec 32
  tid : BusId
  type : Int
  content : List UInt8
  requireRsp : Bool

/-- One of the nodes receives something, with its tables and connections of the moment. -/
structure Receiving (nodes : Set BusNode) where
  node : nodes
  links : Links
  sequence : BitVec 32

/-- The requests the nodes start and send on. -/
def requests (nodes : Set BusNode) : Relaying Msg (Sending nodes) (Receiving nodes) where
  origin how :=
    (sendData how.node how.links how.sequence how.tid how.type how.content how.requireRsp).sent.map
      Prod.snd
  handle how m := (onRecvDataTransferReq how.node how.links how.sequence true m).onward.map Prod.snd

/-- The router list counts the transmissions of a request, and the ttl is its limit. -/
theorem requests_bounded {nodes : Set BusNode} {ttl : Int} (positive : 1 ≤ ttl)
    (same : ∀ node ∈ nodes, node.ttl = ttl) : (requests nodes).Bounded Msg.hops ttl.toNat where
  origin_length how := by
    rw [requests, List.length_map]
    exact sendData_sent_length
  origin_hops how m member := by
    obtain ⟨packet, sent, rfl⟩ := List.mem_map.mp member
    exact (sendData_hops sent).ge
  handle_length how m := by
    rw [requests, List.length_map]
    rcases onward_of_handler how.node how.links how.sequence m true with
      none | ⟨data, -, -, onward⟩
    · rw [none]
      exact Nat.zero_le _
    · rw [onward]
      exact (List.length_filter_le _ _).trans Option.length_toList_le
  handle_hops how m next member := by
    obtain ⟨packet, sent, rfl⟩ := List.mem_map.mp member
    rcases onward_of_handler how.node how.links how.sequence m true with
      none | ⟨data, known, left, onward⟩
    · rw [none] at sent
      exact absurd sent List.not_mem_nil
    · rw [onward] at sent
      refine ⟨hops_of_mem_resend (Option.isSome_of_eq_some known) (List.mem_of_mem_filter sent), ?_⟩
      have limit := ttlSize_le positive
      rw [same _ how.node.property] at left
      have hops : m.hops = data.router.length := by simp [Msg.hops, known]
      omega

/-- In every run of nodes with one ttl, whatever their tables are and whichever attempts to send
    succeed, a request is transmitted at most ttl times, and so received and sent on at most ttl
    times. -/
theorem hop_bound {nodes : Set BusNode} {ttl : Int} (positive : 1 ≤ ttl)
    (same : ∀ node ∈ nodes, node.ttl = ttl)
    {made : List (Transition (Flights Msg) (Act Msg (Sending nodes) (Receiving nodes)))}
    {s : Flights Msg} (run : Run (Flights.Step (requests nodes)) {} made s) (tag : Nat) :
    (s.transmitted tag : Int) ≤ ttl ∧ s.received tag ≤ s.transmitted tag := by
  have limit : 1 ≤ ttl.toNat := by omega
  obtain ⟨bound, received⟩ := (requests_bounded positive same).transmitted_le limit run tag
  exact ⟨by omega, received⟩

/-- The only node has itself as the way to a sibling, so that a request for it goes in a circle:
    with a ttl of 3 it is transmitted three times and then answered. -/
theorem hop_bound_circle :
    ∃ (node : BusNode)
      (made : List (Transition (Flights Msg) (Act Msg (Sending {node}) (Receiving {node}))))
      (s : Flights Msg),
      node.ttl = 3 ∧ Run (Flights.Step (requests {node})) {} made s ∧ made.length = 4 ∧
      s.transmitted 0 = 3 ∧ s.received 0 = 3 ∧ (s.transmitted 0 : Int) ≤ 3 := by
  let sibling : Endpoint :=
    { id := 0x20000#64, childrenMask := 8, globalRouter := false, listen := [] }
  let node : BusNode :=
    { self := { id := 0x10000#64, childrenMask := 8, globalRouter := false, listen := [] }
      father := none
      brother := EndpointCollection.empty.store sibling
      children := .empty
      ttl := 3
      msgSize := 65536 }
  let request :=
    fun router : List BusId => { dataRequest 0x10000#64 0x20001#64 0 [1] false 7#32 with
    body :=
      { forward := some
          { fromId := 0x10000#64, toId := 0x20001#64, router := router, content := [1],
              flags := 0#32 } } }
  let sending : Sending {node} :=
    { node := ⟨node, rfl⟩
      links := openLinks
      sequence := 7#32
      tid := 0x20001#64
      type := 0
      content := [1]
      requireRsp := false }
  let receiving : Receiving {node} := { node := ⟨node, rfl⟩, links := openLinks, sequence := 8#32 }
  have origin : (requests {node}).origin sending = [request [0x10000#64]] := by decide +kernel
  have second : (requests {node}).handle receiving (request [0x10000#64]) =
      [request [0x10000#64, 0x10000#64]] := by decide +kernel
  have third : (requests {node}).handle receiving (request [0x10000#64, 0x10000#64]) =
      [request [0x10000#64, 0x10000#64, 0x10000#64]] := by decide +kernel
  have stopped : (requests {node}).handle receiving (request [0x10000#64, 0x10000#64, 0x10000#64]) =
      [] := by
    decide +kernel
  let after := fun (s : Flights Msg) (m : Msg) =>
    { s.transmit [] 0 ((requests {node}).handle receiving m) with
    received := Function.update s.received 0 (s.received 0 + 1) }
  have receive : ∀ (s : Flights Msg) (m : Msg), s.copies = [(0, m)] →
      Flights.Step (requests {node}) s (.receive 0 m receiving) (after s m) :=
    fun s m flying => .receive receiving (flying ▸ .refl _)
  let fresh : Flights Msg := {}
  have run := (((Run.refl.tail (Flights.Step.start (s := fresh) sending)).tail
    (receive _ (request [0x10000#64]) (by simp [Flights.transmit, fresh, origin]))).tail
    (receive _ (request [0x10000#64, 0x10000#64]) (by simp [after, Flights.transmit, second]))).tail
    (receive _ (request [0x10000#64, 0x10000#64, 0x10000#64])
      (by simp [after, Flights.transmit, third]))
  have ttl : ∀ other ∈ ({node} : Set BusNode), other.ttl = 3 := by
    rintro _ rfl
    rfl
  refine ⟨node, _, _, rfl, run, rfl, ?_, ?_, (hop_bound (by decide) ttl run 0).1⟩
  · simp [after, Flights.transmit, fresh, origin, second, third, stopped]
  · simp [after, Flights.transmit, fresh]

end LibAtbus.Node
