/-
Module: LibAtbus.Proofs.ParentFallback
Layer: Proofs
Purpose: What becomes of a request whose first forwarding attempt fails. When that attempt found a
  connection it has marked the request before it failed, so that the fallback no longer sees where
  the request came from, and marks it again.
Trusted boundary: none
Main exports: FallbackRight, BusNode.ResendsMarked, onward_of_first_failed, fallbackRight_iff,
  fallback_returns_to_parent
-/
import LibAtbus.Proofs.Forwarding
import LibAtbus.Node.Registry

namespace LibAtbus.Node

section Fallback

variable {node : BusNode} {link : Link} {links : Links} {sequence : BitVec 32} {m : Msg}
  {data : ForwardData} {toId : BusId}

/-- The request is for another node, its ttl is not used up, and its first forwarding attempt
    fails. -/
structure FirstFails (node : BusNode) (links : Links) (m : Msg) (data : ForwardData) : Prop where
  command : m.head.cmd = .dataTransformReq
  forward : m.body.forward = some data
  other : data.toId ≠ node.id
  ttl : data.router.length < ttlSize node.ttl
  failed : (sendMsg node links.data data.toId m).res.failed = true

/-- A request that came from the parent is not sent to it again, and a request that is sent on in
    the end has its router list with the id of the node behind it, once. -/
def FallbackRight (node : BusNode) (m : Msg) (data : ForwardData) (handled : Handled) : Prop :=
  (∀ father, node.father = some father → m.head.srcBusId = father.id →
    ∀ packet ∈ handled.onward, packet.1 ≠ father) ∧
  ∀ packet ∈ handled.onward, ∃ sent, packet.2.body.forward = some sent ∧
    sent.router = data.router ++ [node.id]

/-- The endpoint picked for the target is not the parent and has a connection, so that the first
    attempt marks the request, and the target could be a sibling and the parent's connection takes
    the request marked once more. -/
def BusNode.ResendsMarked (node : BusNode) (link : Link) (m : Msg) (toId : BusId) : Prop :=
  ∃ father target, node.father = some father ∧ node.target toId = .ok target ∧
    target.id ≠ father.id ∧
    (link target).isSome = true ∧ node.isBrotherNode toId = true ∧ father.id ≠ node.id ∧
    link.Accepts father ((m.stamp node.id).stamp node.id)

/-! ### The fallback -/

theorem not_sendsFirst_of_failed (other : toId ≠ node.id)
    (failed : (sendMsg node link toId m).res.failed = true) : ¬node.SendsFirst link m toId := by
  intro sends
  rw [sendMsg_of_sendsFirst other sends] at failed
  cases failed

/-- A request whose first attempt failed is sent on by the fallback or not at all. -/
theorem onward_of_first_failed (fails : FirstFails node links m data) :
    (onRecvDataTransferReq node links sequence true m).onward =
      (resend node links.data data.toId (sendMsg node links.data data.toId m)).sent.toList := by
  have carries : m.Carries data := ⟨fails.command, data.router, fails.forward⟩
  have handled : onRecvDataTransferReq node links sequence true m =
      conclude node links.ctrl (data.checkFlag flagRequireRsp)
        (resend node links.data data.toId (sendMsg node links.data data.toId m)) := by
    have relayed : onRecvDataTransferReq node links sequence true m =
        relay node links sequence m data := by
      simp [onRecvDataTransferReq, fails.forward, Option.filter, fails.other,
        Nat.not_le.mpr fails.ttl]
    rw [relayed, relay, if_neg (by simp [fails.failed])]
  rw [handled]
  exact (conclude_does carries.resend_msg fun packet sent => (carries.mem_resend sent).1).onward

/-- What the fallback sends goes to the parent, of a request that could be for a sibling and, as the
    first attempt left it, did not come from the parent. -/
theorem sent_of_resend {packet : Endpoint × Msg} (other : toId ≠ node.id)
    (failed : (sendMsg node link toId m).res.failed = true)
    (sent : (resend node link toId (sendMsg node link toId m)).sent = some packet) :
    node.father = some packet.1 ∧ packet.1.id ≠ node.id ∧
      packet.2 = (node.tried link m toId).stamp node.id ∧
      link.Accepts packet.1 packet.2 ∧ (node.tried link m toId).head.srcBusId ≠ packet.1.id ∧
      node.isBrotherNode toId = true ∧ ∀ target, node.target toId = .ok target →
      target.id ≠ packet.1.id := by
  have first := not_sendsFirst_of_failed other failed
  have unsent := (sendMsg_failed_iff other).mp failed
  cases known : node.father with
  | none =>
      rw [resend, known, ite_self, unsent] at sent
      cases sent
  | some father =>
      rw [resend_of_not_sendsFirst other first known] at sent
      split at sent
      · rename_i turns
        obtain ⟨target, marked⟩ := packet
        obtain ⟨notSelf, picked, isMarked, accepts⟩ := sendMsg_sent sent
        rw [BusNode.target_of_parent known (by rw [isParentNode_of_father known, beq_self_eq_true])]
          at picked
        cases picked
        exact ⟨rfl, notSelf, isMarked, accepts, turns.1, turns.2.1, target_apart_iff.mp turns.2.2⟩
      · rw [unsent] at sent
        cases sent

/-- The router list of a marked request. -/
theorem stamp_forward (forward : m.body.forward = some data) (id : BusId) :
    (m.stamp id).body.forward = some { data with router := data.router ++ [id] } := by
  rw [Msg.stamp, forward]
  rfl

/-- A request that is marked twice has the id of the node twice. -/
theorem resend_of_resendsMarked (other : toId ≠ node.id)
    (failed : (sendMsg node link toId m).res.failed = true)
    (resends : node.ResendsMarked link m toId) : ∃ father,
      (resend node link toId (sendMsg node link toId m)).sent =
        some (father, (m.stamp node.id).stamp node.id) := by
  obtain ⟨father, target, known, picked, apart, connected, brother, notSelf, accepts⟩ := resends
  have tried : node.tried link m toId = m.stamp node.id := by
    rw [BusNode.tried, picked]
    exact if_pos connected
  have second : node.SendsSecond link m toId := by
    refine ⟨father, known, brother, notSelf, ?_, ?_, ?_⟩
    · rintro target' picked'
      cases picked.symm.trans picked'
      exact apart
    · rw [tried]
      exact notSelf.symm
    · rw [tried]
      exact accepts
  obtain ⟨father', -, -, sent, -⟩ :=
    resend_of_sendsSecond other (not_sendsFirst_of_failed other failed) second
  rw [tried] at sent
  exact ⟨father', sent⟩

/-- The fallback is right exactly if it does not resend a request that is marked already. -/
theorem fallbackRight_iff (fails : FirstFails node links m data) :
    FallbackRight node m data (onRecvDataTransferReq node links sequence true m) ↔
      ¬node.ResendsMarked links.data m data.toId := by
  rw [FallbackRight, onward_of_first_failed fails]
  constructor
  · rintro ⟨-, traced⟩ resends
    obtain ⟨father, sent⟩ := resend_of_resendsMarked fails.other fails.failed resends
    obtain ⟨forward, isForward, once⟩ := traced _ (Option.mem_toList.mpr sent)
    rw [stamp_forward (stamp_forward fails.forward node.id)] at isForward
    cases isForward
    simp at once
  · intro notMarked
    have unmarked :
        ∀ packet ∈
        (resend node links.data data.toId (sendMsg node links.data data.toId m)).sent.toList,
        m.head.srcBusId ≠ packet.1.id ∧ packet.2 = m.stamp node.id ∧
        node.father = some packet.1 := by
      intro packet member
      obtain ⟨known, notSelf, marked, accepts, notFrom, brother, apart⟩ :=
        sent_of_resend fails.other fails.failed (Option.mem_toList.mp member)
      have tried : node.tried links.data m data.toId = m := by
        rw [BusNode.tried] at marked ⊢
        cases picked : node.target data.toId with
        | error res => rfl
        | ok target =>
            refine if_neg fun connected => notMarked ?_
            simp only [picked, connected, if_true] at marked
            exact ⟨packet.1, target, known, picked, apart target picked, connected, brother,
              notSelf, marked ▸ accepts⟩
      rw [tried] at marked notFrom
      exact ⟨notFrom, marked, known⟩
    constructor
    · rintro father known from_ packet member rfl
      exact (unmarked packet member).1 from_
    · intro packet member
      rw [(unmarked packet member).2.1]
      exact ⟨_, stamp_forward fails.forward node.id, rfl⟩

end Fallback

/-! ### A node with a parent and a sibling -/

namespace FallbackSample

def father : Endpoint :=
  { id := 0x10000#64, childrenMask := 16, globalRouter := false, listen := [] }

def sibling : Endpoint :=
  { id := 0x10200#64, childrenMask := 8, globalRouter := false, listen := [] }

def node : BusNode where
  self := { id := 0x10100#64, childrenMask := 8, globalRouter := false, listen := [] }
  father := some father
  brother := EndpointCollection.empty.store sibling
  children := .empty
  ttl := 16
  msgSize := 65536

/-- A request for the sibling. -/
def request (sender : BusId) (router : List BusId) : Msg where
  head := { cmd := .dataTransformReq, type := 0, ret := 0, sequence := 7#32, srcBusId := sender }
  body := { forward := some (data router) }
where
  data (router : List BusId) : ForwardData :=
    { fromId := 0x20000#64, toId := sibling.id, router := router, content := [1], flags := 0#32 }

/-- All connections take everything, but the one to the sibling, which is as given. -/
def links (toSibling : Option (Msg → ErrorType)) : Links where
  data := fun endpoint => if endpoint = sibling then toSibling else openLinks.data endpoint
  ctrl := openLinks.ctrl

end FallbackSample

open FallbackSample in
/-- A request from a child goes to the parent, marked once, while the sibling has no connection. -/
theorem fallbackRight_iff_unconnected :
    let m := request 0x10101#64 [0x10101#64]
    FallbackRight node m (request.data [0x10101#64])
      (onRecvDataTransferReq node (links none) 8#32 true m) ∧
      (onRecvDataTransferReq node (links none) 8#32 true m).onward =
        [(father, m.stamp node.id)] := by
  have fails : FirstFails node (links none) (request 0x10101#64 [0x10101#64])
      (request.data [0x10101#64]) :=
    ⟨rfl, rfl, by decide, by decide, by decide +kernel⟩
  refine ⟨(fallbackRight_iff fails).mpr ?_, by decide +kernel⟩
  rintro ⟨_, target, -, picked, -, connected, -⟩
  have only : node.target sibling.id = .ok sibling := rfl
  cases only.symm.trans picked
  cases connected

open FallbackSample in
/-- A request that the parent sent for the sibling, to which it cannot be pushed, is sent to the
    parent again, with the id of the node in its router list twice. -/
theorem fallback_returns_to_parent :
    let m := request father.id [0x20000#64, 0x10000#64]
    let unwritable := links (some fun _ => .writeFailed)
    FirstFails node unwritable m (request.data [0x20000#64, 0x10000#64]) ∧
      (onRecvDataTransferReq node unwritable 8#32 true m).onward =
        [(father, (m.stamp node.id).stamp node.id)] ∧
      ¬FallbackRight node m (request.data [0x20000#64, 0x10000#64])
        (onRecvDataTransferReq node unwritable 8#32 true m) := by
  have again : (onRecvDataTransferReq node (links (some fun _ => .writeFailed)) 8#32 true
      (request father.id [0x20000#64, 0x10000#64])).onward =
        [(father, ((request father.id [0x20000#64, 0x10000#64]).stamp node.id).stamp node.id)] := by
    decide +kernel
  refine ⟨⟨rfl, rfl, by decide, by decide, by decide +kernel⟩, again, ?_⟩
  rintro ⟨notBack, -⟩
  exact notBack father rfl rfl _ (again ▸ List.mem_singleton_self _) rfl

end LibAtbus.Node
