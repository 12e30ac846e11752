/-
Module: LibAtbus.Proofs.RegistrationOrder
Layer: Proofs
Purpose: The two messages of the parent's registration in either order. The request adds the parent
  and comes too early to put the node up; the response finds the parent by its id or, before the
  request, by the domain it advertises, and leaves EN_FT_PARENT_REG_DONE for the adding of the
  parent. Either way the node is up after the second message, and the same.
Trusted boundary: none
Main exports: NodeState.AwaitsRegistration, NodeState.FitsAsParent, NodeState.UpWith,
  regReq_of_parent, regRsp_of_added_parent, regRsp_before_parent, registration_commutes
-/
import LibAtbus.Node.Registration
import LibAtbus.Proofs.DomainArithmetic
import LibAtbus.Proofs.ParentRegistration
import LibAtbus.Proofs.RegistrationAnswers

namespace LibAtbus.Node

namespace NodeState

/-- A node that connects to its parent, which is not registered, for the first time. -/
structure AwaitsRegistration (n : NodeState) : Prop where
  status : n.status = .connectingParent
  father : n.tables.father = none
  notActived : n.actived = false
  notDone : n.parentRegDone = false

/-- The registration data of a parent of the node: a wider domain that has the node and an id that
    is neither in the node's own domain nor registered as a brother. -/
structure FitsAsParent (n : NodeState) (reg : RegData) : Prop where
  small : reg.childrenIdMask.toNat ≤ 30
  wider : n.tables.self.childrenMask < reg.childrenIdMask.toNat
  contains : InDomain reg.busId reg.childrenIdMask.toNat n.tables.id
  outside : ¬InDomain n.tables.id n.tables.self.childrenMask reg.busId
  unregistered : ∀ ep ∈ n.tables.brother.endpoints, ep.id ≠ reg.busId

/-- The node is up with the parent. -/
structure UpWith (n : NodeState) (reg : RegData) : Prop where
  father : ∃ ep, n.tables.father = some ep ∧ ep.id = reg.busId ∧
    ep.childrenMask = reg.childrenIdMask.toNat ∧ ep.pid = reg.pid ∧ ep.hostname = reg.hostname
  status : n.status = .running
  regDone : n.parentRegDone = true
  actived : n.actived = true

/-- The node with a parent added, which is checked soon when it listens nowhere. -/
def addParent (n : NodeState) (ep : Endpoint) : NodeState :=
  let added := { n with tables := { n.tables with father := some ep } }
  if ep.listen.isEmpty then added.addCheckList ep else added

section

variable {n : NodeState} {reg : RegData} {conn : PeerConn} {env : RegEnv} {m : Msg} {ep : Endpoint}

theorem FitsAsParent.selfSmall (parent : n.FitsAsParent reg) : n.tables.self.childrenMask ≤ 30 :=
  Nat.le_trans (Nat.le_of_lt parent.wider) parent.small

/-- The parent is no child of the node. -/
theorem FitsAsParent.notChild (parent : n.FitsAsParent reg) :
    n.tables.isChildNode reg.busId = false := by
  rw [BusNode.isChildNode, ← Bool.not_eq_true, Endpoint.isChildNode_iff parent.selfSmall,
    sameDomain_iff_inDomain parent.selfSmall]
  exact parent.outside

theorem FitsAsParent.notSelf (parent : n.FitsAsParent reg) : n.tables.id ≠ reg.busId := by
  intro same
  have self := Endpoint.isChildNode_self n.tables.self
  have other := parent.notChild
  rw [BusNode.isChildNode, ← same, self] at other
  cases other

/-- The node does not know the parent yet. -/
theorem FitsAsParent.unknown (parent : n.FitsAsParent reg) (first : n.tables.father = none) :
    n.tables.getEndpoint reg.busId = none := by
  have notParent : n.tables.isParentNode reg.busId = false := by rw [BusNode.isParentNode, first]
  rw [BusNode.getEndpoint, notParent, parent.notChild]
  simp only [Bool.false_eq_true, if_false]
  split
  · cases found : n.tables.brother.findChild reg.busId with
    | none => rfl
    | some known =>
        have registered := (EndpointCollection.findChild_some found).1
        have other := parent.unregistered known registered
        simp [Option.filter, other]
  · rfl

/-- The endpoint the handler creates for the parent. -/
def parentEndpoint (reg : RegData) : Endpoint where
  id := reg.busId
  childrenMask := reg.childrenIdMask.toNat
  globalRouter := reg.hasGlobalTree
  listen := []
  pid := reg.pid
  hostname := reg.hostname

/-- The request of the parent over a handshaking connection makes the handler create its
    endpoint. -/
theorem regDecision_of_parent (parent : n.FitsAsParent reg) (first : n.tables.father = none)
    (handshaking : conn.state = .handshaking) :
    n.regDecision conn reg = .create (parentEndpoint reg) := by
  have notConnected : ¬conn.state = .connected := by
    rw [handshaking]
    exact ConnState.noConfusion
  rw [regDecision, if_neg notConnected, parent.unknown first]
  simp only [parent.notChild, Bool.false_and, Bool.false_eq_true, if_false]
  rfl

/-- An endpoint with the id and the mask of the parent is shaped like one. -/
theorem FitsAsParent.shaped (parent : n.FitsAsParent reg) (id : ep.id = reg.busId)
    (mask : ep.childrenMask = reg.childrenIdMask.toNat) : n.tables.isParentShaped ep = true := by
  have small : ep.childrenMask ≤ 30 := mask ▸ parent.small
  have inside : ep.isChildNode n.tables.id = true := by
    rw [Endpoint.isChildNode_iff small, sameDomain_iff_inDomain small, id, mask]
    exact parent.contains
  rw [BusNode.isParentShaped, inside, mask, Bool.and_true, decide_eq_true_iff]
  exact parent.wider

/-- The first parent is always added, and puts up a node that is registered already. -/
theorem addEndpoint_parent (shaped : n.tables.isParentShaped ep = true)
    (first : n.tables.father = none) :
    n.addEndpoint ep =
      (.success,
        let added := { n with tables := { n.tables with father := some ep } }
        if n.awaitsParent && n.parentRegDone then added.onActived else added) := by
  have taken : n.tables.addEndpoint ep = (.success, { n.tables with father := some ep }) := by
    rw [BusNode.addEndpoint, if_pos shaped, first]
  rw [addEndpoint, taken, shaped, first]
  rfl

/-! ### The two messages -/

/-- The parent as the node adds it: it listens on what could be connected to. -/
def listeningParent (env : RegEnv) (reg : RegData) : Endpoint :=
  (parentEndpoint reg).listeningOn
    (reg.channels.map fun channel => (channel.address, env.connect channel.address))

theorem listeningParent_shaped (env : RegEnv) (parent : n.FitsAsParent reg) :
    n.tables.isParentShaped (listeningParent env reg) = true :=
  parent.shaped rfl rfl

/-- The node that has added its parent, and is up if it was registered with it already. -/
def withParentAdded (n : NodeState) (ep : Endpoint) : NodeState :=
  if n.awaitsParent && n.parentRegDone then (n.addParent ep).onActived else n.addParent ep

theorem register_parent (env : RegEnv) (conn : PeerConn) (parent : n.FitsAsParent reg)
    (first : n.tables.father = none) :
    (n.register env.toHandlerEnv conn (parentEndpoint reg) reg.channels).code = .success ∧
      (n.register env.toHandlerEnv conn (parentEndpoint reg) reg.channels).node =
        n.withParentAdded (listeningParent env reg) ∧
      (n.register env.toHandlerEnv conn (parentEndpoint reg) reg.channels).conn = conn := by
  have added := addEndpoint_parent (listeningParent_shaped env parent) first
  rw [listeningParent] at added
  have success : ¬ErrorType.success.failed = true := Bool.false_ne_true
  rw [register, added, if_neg success]
  refine ⟨rfl, ?_, rfl⟩
  rw [withParentAdded, addParent, ← listeningParent]
  dsimp only
  cases n.awaitsParent && n.parentRegDone with
  | true =>
      split
      · rfl
      · rfl
  | false => rfl

/-- What the request of the parent does: it is added, and the connection is bound to it. -/
theorem regReq_of_parent (env : RegEnv) (parent : n.FitsAsParent reg)
    (first : n.tables.father = none) (handshaking : conn.state = .handshaking)
    (requested : m.body.reg = some reg) (allocated : env.allocated = true) :
    (regReq env n conn m).done.node = n.withParentAdded (listeningParent env reg) ∧
      (regReq env n conn m).conn = conn.bindTo (parentEndpoint reg) ∧
      (regReq env n conn m).nodeUps = if n.awaitsParent && n.parentRegDone then n.upCalls
        else 0 := by
  have decided := regDecision_of_parent parent first handshaking
  obtain ⟨code, node, -⟩ := register_parent env conn parent first
  have success : ¬ErrorType.success.failed = true := Bool.false_ne_true
  have answered : n.decideReg env conn reg =
      ({ n.register env.toHandlerEnv conn (parentEndpoint reg) reg.channels with
          conn := conn.bindTo (parentEndpoint reg) },
        n.addEndpointUps (parentEndpoint reg)) := by
    rw [decideReg, answerReg, decided]
    dsimp only
    rw [if_pos allocated, code, if_neg success]
  have ups : n.addEndpointUps (parentEndpoint reg) =
      if n.awaitsParent && n.parentRegDone then n.upCalls else 0 := by
    rw [addEndpointUps, parent.shaped rfl rfl, first]
    rfl
  simp only [regReq, requested, answered, replyReg, ups, code, sendRegRsp, node]
  refine ⟨?_, ?_⟩
  · split
    · rfl
    · rfl
  · simp [success]

/-- The response of a parent that was added before. -/
theorem regRsp_of_added_parent (conn : PeerConn) (status : n.status = .connectingParent)
    (accepted : 0 ≤ m.head.ret) (responded : m.body.reg = some reg)
    (father : n.tables.father = some ep) (same : ep.id = reg.busId) :
    onRecvNodeRegRsp n (some conn) m =
        .ok { res := 0, node := n.onParentRegDone.onActived, events := [.reg m.head.ret] } ∧
      regRspUps n m = n.upCalls := by
  have known : n.tables.isParentNode reg.busId = true := by
    rw [BusNode.isParentNode, father]
    exact decide_eq_true same.symm
  have notRefused : ¬m.head.ret < 0 := Int.not_lt.mpr accepted
  constructor
  · simp only [onRecvNodeRegRsp, if_neg notRefused, if_pos status, responded, if_pos known]
  · simp only [regRspUps, if_neg notRefused, if_pos status, responded, if_pos known]
    rfl

/-- The response of a parent that is not added yet, known by its domain. -/
theorem regRsp_before_parent (conn : PeerConn) (waits : n.AwaitsRegistration)
    (accepted : 0 ≤ m.head.ret) (responded : m.body.reg = some reg) (parent : n.FitsAsParent reg) :
    onRecvNodeRegRsp n (some conn) m =
        .ok { res := 0, node := n.onParentRegDone, events := [.reg m.head.ret] } ∧
      regRspUps n m = 0 := by
  have unknown : ¬n.tables.isParentNode reg.busId = true := by
    rw [BusNode.isParentNode, waits.father]
    exact Bool.false_ne_true
  have inside := parent.contains
  rw [InDomain, ← childrenMinId_eq parent.small, ← childrenMaxId_eq parent.small] at inside
  have notRefused : ¬m.head.ret < 0 := Int.not_lt.mpr accepted
  constructor
  · simp only [onRecvNodeRegRsp, if_neg notRefused, if_pos waits.status, responded, if_neg unknown]
    rw [if_pos ⟨parent.notSelf, inside.1, inside.2⟩]
  · simp only [regRspUps, if_neg notRefused, if_pos waits.status, responded, if_neg unknown]

end

/-- The request and the response of the registration with a parent, over the handshaking connection,
    put the node up with that parent whichever comes first: the node is up after the second of them,
    not after the first, calls `on_node_up` once, and it and the connection are the same either
    way. -/
theorem registration_commutes (env : RegEnv) (n : NodeState) (conn : PeerConn)
    (request response : Msg) (reg reg' : RegData) (waits : n.AwaitsRegistration)
    (handshaking : conn.state = .handshaking) (requested : request.body.reg = some reg)
    (responded : response.body.reg = some reg') (sameId : reg'.busId = reg.busId)
    (sameMask : reg'.childrenIdMask = reg.childrenIdMask) (accepted : 0 ≤ response.head.ret)
    (parent : n.FitsAsParent reg) (allocated : env.allocated = true) :
    ∃ (final : NodeState) (link : PeerConn), final.UpWith reg ∧
      (∃ done,
        onRecvNodeRegRsp (regReq env n conn request).done.node
          (some (regReq env n conn request).conn)
          response = .ok done ∧ done.node = final ∧ (regReq env n conn request).conn = link ∧
        (regReq env n conn request).done.node.status ≠ .running ∧
        (regReq env n conn request).nodeUps + regRspUps (regReq env n conn request).done.node
          response = 1) ∧
      ∃ done, onRecvNodeRegRsp n (some conn) response = .ok done ∧
        (regReq env done.node conn request).done.node = final ∧
        (regReq env done.node conn request).conn = link ∧ done.node.status ≠ .running ∧
        regRspUps n response + (regReq env done.node conn request).nodeUps = 1 := by
  have parent' : n.FitsAsParent reg' := by
    refine ⟨?_, ?_, ?_, ?_, ?_⟩
    · rw [sameMask]
      exact parent.small
    · rw [sameMask]
      exact parent.wider
    · rw [sameMask, sameId]
      exact parent.contains
    · rw [sameId]
      exact parent.outside
    · rw [sameId]
      exact parent.unregistered
  have once : n.upCalls = 1 := by rw [upCalls, waits.notActived]; rfl
  have early : (n.awaitsParent && n.parentRegDone) = false := by rw [waits.notDone, Bool.and_false]
  have late : (n.onParentRegDone.awaitsParent && n.onParentRegDone.parentRegDone) = true := by
    rw [awaitsParent, onParentRegDone]
    simp [waits.status]
  obtain ⟨asked, bound, askedUps⟩ :=
    regReq_of_parent env parent waits.father handshaking requested allocated
  have parentDone : n.onParentRegDone.FitsAsParent reg :=
    ⟨parent.1, parent.2, parent.3, parent.4, parent.5⟩
  obtain ⟨again, bound', againUps⟩ :=
    regReq_of_parent env parentDone waits.father handshaking requested allocated
  obtain ⟨noted, notedUps⟩ := regRsp_before_parent conn waits accepted responded parent'
  rw [withParentAdded, early] at asked
  rw [withParentAdded, late] at again
  rw [early] at askedUps
  rw [late] at againUps
  have added : (n.addParent (listeningParent env reg)).tables.father =
      some (listeningParent env reg) ∧
      (n.addParent (listeningParent env reg)).status = .connectingParent ∧
      (n.addParent (listeningParent env reg)).actived = false := by
    rw [addParent]
    dsimp only
    split
    · exact ⟨rfl, waits.status, waits.notActived⟩
    · exact ⟨rfl, waits.status, waits.notActived⟩
  obtain ⟨father, status, notActived⟩ := added
  have same : (n.onParentRegDone.addParent (listeningParent env reg)).onActived =
      (n.addParent (listeningParent env reg)).onParentRegDone.onActived := by
    rw [addParent, addParent]
    dsimp only
    split
    · rfl
    · rfl
  obtain ⟨finished, finishedUps⟩ :=
    regRsp_of_added_parent (conn.bindTo (parentEndpoint reg)) status accepted
    responded father sameId.symm
  refine ⟨(n.addParent (listeningParent env reg)).onParentRegDone.onActived,
    conn.bindTo (parentEndpoint reg),
    ⟨⟨listeningParent env reg, father, rfl, rfl, rfl, rfl⟩, rfl, rfl, rfl⟩, ?_, ?_⟩
  · rw [asked, bound, askedUps]
    refine ⟨_, finished, rfl, rfl, ?_, ?_⟩
    · simp [status]
    · simp [finishedUps, upCalls, notActived]
  · refine ⟨_, noted, again.trans same, bound', ?_, ?_⟩
    · simp [onParentRegDone, waits.status]
    · rw [notedUps, againUps, Nat.zero_add]
      exact once

/-- A node with its parent. -/
theorem registration_commutes_parent :
    ∃ (final : NodeState) (link : PeerConn), final.UpWith
        { busId := 0x12340001#64, pid := 7#32, hostname := "host", channels := [],
          childrenIdMask := 16#32, hasGlobalTree := true } ∧
      (∃ done,
        onRecvNodeRegRsp
          (regReq .reachable .connecting parentConn (parentMsg .nodeRegReq)).done.node
          (some (regReq .reachable .connecting parentConn (parentMsg .nodeRegReq)).conn)
          (parentMsg .nodeRegRsp) =
            .ok done ∧ done.node = final ∧
        (regReq .reachable .connecting parentConn (parentMsg .nodeRegReq)).conn = link ∧
        (regReq .reachable .connecting parentConn (parentMsg .nodeRegReq)).done.node.status ≠
          .running ∧
        (regReq .reachable .connecting parentConn (parentMsg .nodeRegReq)).nodeUps +
          regRspUps (regReq .reachable .connecting parentConn (parentMsg .nodeRegReq)).done.node
            (parentMsg .nodeRegRsp) = 1) ∧
      ∃ done, onRecvNodeRegRsp .connecting (some parentConn) (parentMsg .nodeRegRsp) = .ok done ∧
        (regReq .reachable done.node parentConn (parentMsg .nodeRegReq)).done.node = final ∧
        (regReq .reachable done.node parentConn (parentMsg .nodeRegReq)).conn = link ∧
        done.node.status ≠ .running ∧
        regRspUps .connecting (parentMsg .nodeRegRsp) +
          (regReq .reachable done.node parentConn (parentMsg .nodeRegReq)).nodeUps = 1 :=
  registration_commutes .reachable .connecting parentConn (parentMsg .nodeRegReq)
    (parentMsg .nodeRegRsp) _ _ ⟨rfl, rfl, rfl, rfl⟩ rfl rfl rfl rfl rfl (by decide)
    ⟨by decide, by decide, by decide, by decide, fun ep member => absurd member List.not_mem_nil⟩
    rfl

end NodeState

end LibAtbus.Node
