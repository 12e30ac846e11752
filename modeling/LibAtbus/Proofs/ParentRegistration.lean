/-
Module: LibAtbus.Proofs.ParentRegistration
Layer: Proofs
Purpose: When a node with a parent is up. The handler of the response to its registration puts it up
  when the parent is there already; else the parent, when it is added, puts up a node that has
  EN_FT_PARENT_REG_DONE set. Nothing but a reset clears that flag, so it may be left over from a
  parent that was lost, and then the node is up before it is registered with the parent it has.
Trusted boundary: none
Main exports: ParentEvent, NodeState.handle, Registering, registeringStep, ComesUpRegistered,
  Registering.Fresh, running_registered_iff, running_with_stale_flag
-/
import LibAtbus.Foundation.Transitions
import LibAtbus.Node.Dispatch
import Mathlib.Tactic.Tauto

namespace LibAtbus.Node

open Transitions

/-- What happens to a node: it is started, a message of a registration arrives, endpoints are
    removed or reset and connections closed, and the parts of `node::proc`. -/
inductive ParentEvent where
  | start (now : Nat) (connected : ErrorType)
  | regReq (env : HandlerEnv) (conn : Option PeerConn) (m : Msg)
  | regRsp (conn : Option PeerConn) (m : Msg)
  | removeEndpoint (id : BusId)
  | disconnect (id : BusId)
  | onDisconnect (address : String)
  | endpointReset (ep : Endpoint)
  | procTime (sec : Nat)
  | procFather (sec : Nat) (ctrl : Bool) (connected : ErrorType) (faulty : Bool)
  | procCheckList (available : Endpoint → Bool)
  | reset

/-- The node after an event. -/
def NodeState.handle (n : NodeState) : ParentEvent → Except NullPointer NodeState
  | .start now connected => .ok (n.start now connected)
  | .regReq env conn m => .ok (onRecvNodeRegReq env n conn m).node
  | .regRsp conn m => (onRecvNodeRegRsp n conn m).map Dispatched.node
  | .removeEndpoint id => .ok (n.removeEndpoint id).2
  | .disconnect id => .ok (n.disconnect id).2
  | .onDisconnect address => .ok (n.onDisconnect address)
  | .endpointReset ep => .ok (n.addCheckList ep)
  | .procTime sec => .ok (n.procTime sec)
  | .procFather sec ctrl connected faulty => .ok (n.procFather sec ctrl connected faulty)
  | .procCheckList available => .ok (n.procCheckList available)
  | .reset => .ok n.reset

/-- The registration data are those of the parent: it is the endpoint the node has as its parent, or
    its domain has the node. -/
def NodeState.isFromParent (n : NodeState) (reg : RegData) : Bool :=
  n.tables.isParentNode reg.busId ||
    decide (n.tables.id ≠ reg.busId ∧
      childrenMinId reg.busId reg.childrenIdMask.toNat ≤ n.tables.id ∧
      n.tables.id ≤ childrenMaxId reg.busId reg.childrenIdMask.toNat)

/-- The event is a response of the parent that accepts the registration. -/
def ParentEvent.accepts (n : NodeState) : ParentEvent → Bool
  | .regRsp conn m => conn.isSome && decide (0 ≤ m.head.ret) && m.body.reg.any n.isFromParent
  | _ => false

/-- A node, and whether the parent has accepted its registration since a parent was last lost or
    removed. -/
structure Registering where
  node : NodeState
  registered : Bool

/-- The node had a parent before and has none after. -/
def NodeState.loses (n after : NodeState) : Bool :=
  n.tables.father.isSome && after.tables.father.isNone

/-- One event. -/
def registeringStep (s : Registering) (event : ParentEvent) (after : Registering) : Prop :=
  s.node.handle event = .ok after.node ∧
    after.registered = (!s.node.loses after.node && (event.accepts s.node || s.registered))

/-- A node with a parent that was initialised. -/
structure Registering.Initial (s : Registering) : Prop where
  address : s.node.fatherAddress ≠ ""
  status : s.node.status = .inited
  father : s.node.tables.father = none
  regDone : s.node.parentRegDone = false
  registered : s.registered = false

/-- A node that comes up has a parent, with which it is registered. -/
def ComesUpRegistered (t : Transition Registering ParentEvent) : Prop :=
  t.pre.node.status ≠ .running → t.post.node.status = .running →
    t.post.node.tables.father.isSome = true ∧ t.post.registered = true

/-- A request of a registration makes the handler add its sender as the parent. -/
def NodeState.TakesParent (n : NodeState) (conn : Option PeerConn) (m : Msg) : Prop :=
  ∃ c reg ep, conn = some c ∧ m.body.reg = some reg ∧ n.regDecision c reg = .create ep ∧
    n.tables.isParentShaped ep = true ∧ n.tables.father = none

/-- No parent is added while the flag EN_FT_PARENT_REG_DONE is left over from before one was
    lost. -/
def Registering.Fresh (s : Registering) : ParentEvent → Prop
  | .regReq _ conn m => s.node.TakesParent conn m → s.node.awaitsParent = true →
      s.node.parentRegDone = true → s.registered = true
  | _ => True

/-! ### What does not put a node up -/

/-- The node is up only if it was. -/
structure NodeState.Calm (n after : NodeState) : Prop where
  address : after.fatherAddress = n.fatherAddress
  status : after.status = .running → n.status = .running

namespace NodeState

variable {n after later : NodeState} {ep : Endpoint} {id : BusId}

theorem Calm.refl (n : NodeState) : n.Calm n := ⟨rfl, id⟩

theorem Calm.trans (first : n.Calm after) (second : after.Calm later) : n.Calm later :=
  ⟨second.address.trans first.address, fun up => first.status (second.status up)⟩

theorem calm_removeEndpoint (n : NodeState) (id : BusId) : n.Calm (n.removeEndpoint id).2 := by
  simp only [removeEndpoint]
  split
  · exact ⟨rfl, fun up => by cases up⟩
  · exact ⟨rfl, fun up => up⟩

theorem calm_disconnect (n : NodeState) (id : BusId) : n.Calm (n.disconnect id).2 := by
  rw [disconnect]
  repeat' split
  all_goals exact ⟨rfl, fun up => up⟩

theorem calm_onDisconnect (n : NodeState) (address : String) : n.Calm (n.onDisconnect address) := by
  rw [onDisconnect]
  split
  · exact ⟨rfl, fun up => by cases up⟩
  · exact Calm.refl n

theorem calm_disconnectConn (n : NodeState) (conn : PeerConn) : n.Calm (n.disconnectConn conn) := by
  rw [disconnectConn]
  split
  · exact Calm.refl n
  · exact calm_onDisconnect n conn.address

theorem calm_start (n : NodeState) (parent : n.fatherAddress ≠ "") (now : Nat)
    (connected : ErrorType) : n.Calm (n.start now connected) := by
  rw [start, if_pos parent]
  split
  · exact ⟨rfl, fun up => up⟩
  · split
    · exact ⟨rfl, fun up => by cases up⟩
    · exact ⟨rfl, fun up => by cases up⟩

theorem calm_reset (n : NodeState) : n.Calm n.reset := by
  rw [reset]
  split
  · rename_i father _
    exact ⟨(calm_removeEndpoint n father.id).address, fun up => by cases up⟩
  · exact ⟨rfl, fun up => by cases up⟩

theorem calm_procFather (n : NodeState) (sec : Nat) (ctrl : Bool) (connected : ErrorType)
    (faulty : Bool) : n.Calm (n.procFather sec ctrl connected faulty) := by
  rw [procFather]
  split
  · split
    · split
      · exact ⟨rfl, fun up => up⟩
      · exact ⟨rfl, fun up => by cases up⟩
    · rename_i father _
      cases faulty with
      | false => exact ⟨rfl, fun up => up⟩
      | true =>
          have removed := calm_removeEndpoint n father.id
          exact ⟨removed.address, removed.status⟩
  · exact Calm.refl n

theorem calm_procCheckList (n : NodeState) (available : Endpoint → Bool) :
    n.Calm (n.procCheckList available) := by
  have folded : ∀ (list : List Endpoint) (n : NodeState),
      n.Calm
        (list.foldl (fun n ep => if available ep then n else (n.removeEndpoint ep.id).2) n) := by
    intro list
    induction list with
    | nil => exact Calm.refl
    | cons ep rest ih =>
        intro n
        rw [List.foldl_cons]
        refine Calm.trans ?_ (ih _)
        split
        · exact Calm.refl n
        · exact calm_removeEndpoint n ep.id
  have checked := folded n.checkList n
  exact ⟨checked.address, checked.status⟩

/-! ### What puts a node up -/

theorem disconnectConn_tables (n : NodeState) (conn : PeerConn) :
    (n.disconnectConn conn).tables = n.tables := by
  rw [disconnectConn]
  split
  · rfl
  · rw [onDisconnect]
    split
    · rfl
    · rfl

/-- The response of a registration puts a node up that has a parent, when the parent accepts it;
    whatever else it does, it neither adds nor removes a parent. -/
theorem onRecvNodeRegRsp_spec {conn : Option PeerConn} {m : Msg} {done : Dispatched}
    (handled : onRecvNodeRegRsp n conn m = .ok done) :
    done.node.fatherAddress = n.fatherAddress ∧ done.node.tables = n.tables ∧
      (done.node.status = .running → n.status = .running ∨
        n.tables.father.isSome = true ∧ (ParentEvent.regRsp conn m).accepts n = true) := by
  cases conn with
  | none =>
      cases handled
      exact ⟨rfl, rfl, .inl⟩
  | some conn =>
      rw [onRecvNodeRegRsp] at handled
      split at handled
      · cases handled
        have calm : n.Calm (n.checkBinding conn) ∧ (n.checkBinding conn).tables = n.tables := by
          rw [checkBinding]
          split
          · exact ⟨⟨rfl, fun up => up⟩, rfl⟩
          · exact ⟨Calm.refl n, rfl⟩
        have closed := calm.1.trans (calm_disconnectConn (n.checkBinding conn) conn)
        have tables := (disconnectConn_tables (n.checkBinding conn) conn).trans calm.2
        dsimp only
        split
        · exact ⟨closed.address, tables, fun up => .inl (closed.status up)⟩
        · exact ⟨closed.address, tables, fun up => .inl (closed.status up)⟩
      · rename_i accepted
        split at handled
        · split at handled
          · cases handled
          · rename_i reg known
            cases handled
            dsimp only
            split
            · rename_i parent
              have held : n.tables.father.isSome = true := by
                rw [BusNode.isParentNode] at parent
                split at parent
                · rename_i father _
                  simp [*]
                · cases parent
              refine ⟨rfl, rfl, fun _ => .inr ⟨held, ?_⟩⟩
              simp [ParentEvent.accepts, known, isFromParent, parent, Int.not_lt.mp accepted]
            · split
              · exact ⟨rfl, rfl, .inl⟩
              · exact ⟨rfl, rfl, .inl⟩
        · cases handled
          exact ⟨rfl, rfl, .inl⟩

/-- What a new endpoint makes of the parent and the state: it takes the place of the parent when it
    is shaped like one and there is none, and then a node that waits for its parent is up if the
    flag is set. -/
inductive AddedEndpoint (n : NodeState) (ep : Endpoint) : ErrorType × NodeState → Prop where
  | other {res : ErrorType} {after : NodeState} (address : after.fatherAddress = n.fatherAddress)
      (father : after.tables.father = n.tables.father) (status : after.status = n.status)
      (noParent : ¬(n.tables.isParentShaped ep = true ∧ n.tables.father = none)) :
      AddedEndpoint n ep (res, after)
  | parent {after : NodeState} (address : after.fatherAddress = n.fatherAddress)
      (father : after.tables.father = some ep)
      (status : after.status = if n.awaitsParent && n.parentRegDone then .running else n.status)
      (shaped : n.tables.isParentShaped ep = true) (first : n.tables.father = none) :
      AddedEndpoint n ep (.success, after)

theorem addEndpoint_added (n : NodeState) (ep : Endpoint) :
    AddedEndpoint n ep (n.addEndpoint ep) := by
  rw [addEndpoint]
  by_cases parent : n.tables.isParentShaped ep = true ∧ n.tables.father = none
  · obtain ⟨shaped, first⟩ := parent
    have taken : n.tables.addEndpoint ep = (.success, { n.tables with father := some ep }) := by
      rw [BusNode.addEndpoint, if_pos shaped, first]
    rw [taken, shaped, first]
    cases comes : n.awaitsParent && n.parentRegDone with
    | true => exact .parent rfl rfl (by simp [onActived, comes]) shaped first
    | false => exact .parent rfl rfl (by simp [comes]) shaped first
  · have kept : (n.tables.addEndpoint ep).2.father = n.tables.father := by
      rw [BusNode.addEndpoint]
      cases shaped : n.tables.isParentShaped ep with
      | true =>
          cases known : n.tables.father with
          | none => exact absurd ⟨shaped, known⟩ parent
          | some father => exact known
      | false =>
          simp only [Bool.false_eq_true, if_false]
          repeat' split
          all_goals rfl
    have notFirst : (n.tables.isParentShaped ep && n.tables.father.isNone) = false := by
      rw [Bool.and_eq_false_iff, ← Bool.not_eq_true, ← Bool.not_eq_true, Option.isNone_iff_eq_none]
      exact not_and_or.mp parent
    rw [notFirst]
    exact .other rfl kept rfl parent

/-- What a request of a registration makes of the parent and the state. -/
structure Requested (n after : NodeState) (takes : Prop) : Prop where
  address : after.fatherAddress = n.fatherAddress
  keeps : ¬takes → after.tables.father = n.tables.father ∧
    (after.status = .running → n.status = .running)
  parent : takes → after.tables.father.isSome = true ∧
    (after.status = .running ↔ n.awaitsParent = true ∧ n.parentRegDone = true ∨ n.status = .running)

theorem Requested.of_calm {takes : Prop} (calm : n.Calm after) (tables : after.tables = n.tables)
    (other : ¬takes) : Requested n after takes :=
  ⟨calm.address, fun _ => ⟨by rw [tables], calm.status⟩, fun is => absurd is other⟩

theorem requested_of_added {listening : Endpoint} {result : ErrorType × NodeState}
    (added : AddedEndpoint n listening result) (checks : Bool) :
    Requested n (if checks then result.2.addCheckList listening else result.2)
      (n.tables.isParentShaped listening = true ∧ n.tables.father = none) := by
  have same : ∀ after : NodeState, Requested n after (n.tables.isParentShaped listening = true ∧
      n.tables.father = none) → Requested n (if checks then after.addCheckList listening else after)
        (n.tables.isParentShaped listening = true ∧ n.tables.father = none) := by
    intro after requested
    cases checks with
    | false => exact requested
    | true => exact ⟨requested.address, requested.keeps, requested.parent⟩
  apply same
  cases added with
  | other address father status noParent =>
      exact ⟨address, fun _ => ⟨father, fun up => status ▸ up⟩, fun is => absurd is noParent⟩
  | parent address father status shaped first =>
      refine ⟨address, fun noParent => absurd ⟨shaped, first⟩ noParent,
        fun _ => ⟨by rw [father]; rfl, ?_⟩⟩
      rw [status]
      cases comes : n.awaitsParent && n.parentRegDone with
      | true => simpa using .inl (Bool.and_eq_true_iff.mp comes)
      | false =>
          have not : ¬(n.awaitsParent = true ∧ n.parentRegDone = true) := by
            rw [← Bool.and_eq_true_iff, comes]
            exact Bool.false_ne_true
          simp only [Bool.false_eq_true, if_false]
          tauto

/-- The request of a new endpoint. -/
theorem register_requested (n : NodeState) (env : HandlerEnv) (conn : PeerConn) (ep : Endpoint)
    (channels : List ChannelData) :
    Requested n (n.register env conn ep channels).node
        (n.tables.isParentShaped ep = true ∧ n.tables.father = none) ∧
      (n.tables.isParentShaped ep = true ∧ n.tables.father = none →
        (n.register env conn ep channels).code = .success) := by
  rw [register]
  generalize listens : ep.listeningOn _ = listening
  have shape : n.tables.isParentShaped ep = n.tables.isParentShaped listening := by
    rw [← listens]
    rfl
  rw [shape]
  have added := addEndpoint_added n listening
  generalize n.addEndpoint listening = result at added
  have requested := requested_of_added added
  split
  · rename_i failed
    refine ⟨requested false, fun parent => ?_⟩
    cases added with
    | other _ _ _ noParent => exact absurd parent noParent
    | parent => exact absurd failed Bool.false_ne_true
  · exact ⟨requested listening.listen.isEmpty, fun _ => rfl⟩

/-- The answer to a request makes of the parent and the state what the adding of its endpoint
    does. -/
theorem answerReg_requested (n : NodeState) (env : HandlerEnv) (conn : PeerConn) (reg : RegData) :
    Requested n (n.answerReg env conn reg).node (∃ ep, n.regDecision conn reg = .create ep ∧
        n.tables.isParentShaped ep = true ∧ n.tables.father = none) ∧
      ((∃ ep, n.regDecision conn reg = .create ep ∧ n.tables.isParentShaped ep = true ∧
        n.tables.father = none) → (n.answerReg env conn reg).code = .success) := by
  rw [answerReg]
  cases decided : n.regDecision conn reg with
  | create ep =>
      have registered := register_requested n env conn ep reg.channels
      simpa using registered
  | notMatch =>
      have other : ¬∃ ep, RegDecision.notMatch = .create ep ∧ n.tables.isParentShaped ep = true ∧
          n.tables.father = none := by simp
      exact ⟨.of_calm (calm_disconnectConn n conn) (disconnectConn_tables n conn) other,
        (absurd · other)⟩
  | connected =>
      have other : ¬∃ ep, RegDecision.connected = .create ep ∧ n.tables.isParentShaped ep = true ∧
          n.tables.father = none := by simp
      exact ⟨.of_calm (.refl n) rfl other, (absurd · other)⟩
  | denied code =>
      have other : ¬∃ ep, RegDecision.denied code = .create ep ∧ n.tables.isParentShaped ep = true ∧
          n.tables.father = none := by simp
      exact ⟨.of_calm (.refl n) rfl other, (absurd · other)⟩
  | existed known =>
      have other : ¬∃ ep, RegDecision.existed known = .create ep ∧
          n.tables.isParentShaped ep = true ∧ n.tables.father = none := by simp
      dsimp only
      repeat' split
      all_goals exact ⟨.of_calm (.refl n) rfl other, (absurd · other)⟩

/-- The response to a request closes the connection at most when the request failed. -/
theorem sendRegRsp_requested {takes : Prop} {env : HandlerEnv} {answer : RegAnswer}
    {sequence : BitVec 32} (requested : Requested n answer.node takes)
    (succeeds : takes → answer.code = .success) :
    Requested n (sendRegRsp env answer sequence).node takes := by
  rw [sendRegRsp]
  split
  · cases failed : answer.code.failed with
    | false => simpa [failed] using requested
    | true =>
        have calm := calm_disconnectConn answer.node answer.conn
        have tables := disconnectConn_tables answer.node answer.conn
        have other : ¬takes := by
          intro takes
          rw [succeeds takes] at failed
          cases failed
        obtain ⟨father, up⟩ := requested.keeps other
        refine ⟨calm.address.trans requested.address,
          fun _ => ⟨?_, fun running => up (calm.status running)⟩, fun takes => absurd takes other⟩
        simp [tables, father]
  · exact requested

/-- The request of a registration. -/
theorem onRecvNodeRegReq_requested (env : HandlerEnv) (n : NodeState) (conn : Option PeerConn)
    (m : Msg) : Requested n (onRecvNodeRegReq env n conn m).node (n.TakesParent conn m) := by
  cases conn with
  | none =>
      have other : ¬n.TakesParent none m := by simp [TakesParent]
      exact .of_calm (.refl n) rfl other
  | some conn =>
      rw [onRecvNodeRegReq]
      cases known : m.body.reg with
      | none =>
          have other : ¬n.TakesParent (some conn) m := by simp [TakesParent, known]
          exact sendRegRsp_requested (.of_calm (.refl n) rfl other) fun takes => absurd takes other
      | some reg =>
          have takes : n.TakesParent (some conn) m ↔ ∃ ep, n.regDecision conn reg = .create ep ∧
              n.tables.isParentShaped ep = true ∧ n.tables.father = none := by
            simp [TakesParent, known]
          have answered := answerReg_requested n env conn reg
          rw [← takes] at answered
          exact sendRegRsp_requested answered.1 answered.2

end NodeState

/-! ### Runs -/

open NodeState

/-- The node has the address of a parent. -/
def Registering.HasAddress (s : Registering) : Prop := s.node.fatherAddress ≠ ""

/-- An event that puts no node up makes every transition registered. -/
theorem comesUpRegistered_of_calm {t : Transition Registering ParentEvent}
    (calm : t.pre.node.Calm t.post.node) : ComesUpRegistered t :=
  fun down up => absurd (calm.status up) down

/-- A node that has a parent has not just lost it. -/
theorem NodeState.loses_of_father {n after : NodeState}
    (father : after.tables.father.isSome = true) : n.loses after = false := by
  rw [loses, ← Option.not_isSome, father]
  simp

/-- The response of a registration is never what puts a node up unregistered. -/
theorem regRsp_step {pre post : Registering} {conn : Option PeerConn} {m : Msg}
    (handled : pre.node.handle (.regRsp conn m) = .ok post.node)
    (registered : post.registered =
      (!pre.node.loses post.node &&
        ((ParentEvent.regRsp conn m).accepts pre.node || pre.registered))) :
    post.node.fatherAddress = pre.node.fatherAddress ∧
      ComesUpRegistered ⟨pre, .regRsp conn m, post⟩ := by
  cases responded : onRecvNodeRegRsp pre.node conn m with
  | error null =>
      rw [NodeState.handle, responded] at handled
      cases handled
  | ok done =>
      rw [NodeState.handle, responded] at handled
      have after : done.node = post.node := Except.ok.inj handled
      obtain ⟨sameAddress, tables, up⟩ := onRecvNodeRegRsp_spec responded
      rw [after] at sameAddress tables up
      refine ⟨sameAddress, fun down running => ?_⟩
      obtain was | ⟨father, accepts⟩ := up running
      · exact absurd was down
      · rw [← tables] at father
        refine ⟨father, ?_⟩
        change post.registered = true
        rw [registered, loses_of_father father, accepts]
        rfl

/-- The request of a registration puts a node up unregistered exactly when it makes the sender the
    parent while the flag of an earlier registration stands. -/
theorem regReq_step {pre post : Registering} {env : HandlerEnv} {conn : Option PeerConn} {m : Msg}
    (handled : pre.node.handle (.regReq env conn m) = .ok post.node)
    (registered : post.registered =
      (!pre.node.loses post.node &&
        ((ParentEvent.regReq env conn m).accepts pre.node || pre.registered))) :
    post.node.fatherAddress = pre.node.fatherAddress ∧
      (ComesUpRegistered ⟨pre, .regReq env conn m, post⟩ ↔ pre.Fresh (.regReq env conn m)) := by
  have after : (onRecvNodeRegReq env pre.node conn m).node = post.node := Except.ok.inj handled
  have requested := onRecvNodeRegReq_requested env pre.node conn m
  rw [after] at requested
  refine ⟨requested.address, ?_⟩
  by_cases takes : pre.node.TakesParent conn m
  · obtain ⟨father, running⟩ := requested.parent takes
    have same : post.registered = pre.registered := by
      rw [registered, loses_of_father father]
      rfl
    constructor
    · intro comesUp _ awaits done
      have down : pre.node.status ≠ .running := by
        intro running
        rw [awaitsParent, running] at awaits
        cases awaits
      rw [← same]
      exact (comesUp down (running.mpr (.inl ⟨awaits, done⟩))).2
    · intro fresh down up
      obtain ⟨awaits, done⟩ | was := running.mp up
      · exact ⟨father, same.trans (fresh takes awaits done)⟩
      · exact absurd was down
  · obtain ⟨_, up⟩ := requested.keeps takes
    exact iff_of_true (fun down running => absurd (up running) down) fun is => absurd is takes

/-- An event keeps the address of the parent, and a node it puts up is registered exactly when the
    flag is not left over. -/
theorem registeringStep_iff {t : Transition Registering ParentEvent} (address : t.pre.HasAddress)
    (taken : registeringStep t.pre t.label t.post) :
    t.post.HasAddress ∧ (ComesUpRegistered t ↔ t.pre.Fresh t.label) := by
  obtain ⟨pre, label, post⟩ := t
  obtain ⟨handled, registered⟩ := taken
  dsimp only at address handled registered ⊢
  have kept : post.node.fatherAddress = pre.node.fatherAddress → post.HasAddress := by
    intro same
    rw [Registering.HasAddress, same]
    exact address
  have quiet : pre.node.Calm post.node → pre.Fresh label = True →
      post.HasAddress ∧ (ComesUpRegistered ⟨pre, label, post⟩ ↔ pre.Fresh label) := by
    intro calm fresh
    rw [fresh]
    exact ⟨kept calm.address, iff_true_intro (comesUpRegistered_of_calm calm)⟩
  cases label with
  | start now connected =>
      have after : pre.node.start now connected = post.node := Except.ok.inj handled
      exact quiet (after ▸ calm_start pre.node address now connected) rfl
  | removeEndpoint id =>
      have after : (pre.node.removeEndpoint id).2 = post.node := Except.ok.inj handled
      exact quiet (after ▸ calm_removeEndpoint pre.node id) rfl
  | disconnect id =>
      have after : (pre.node.disconnect id).2 = post.node := Except.ok.inj handled
      exact quiet (after ▸ calm_disconnect pre.node id) rfl
  | onDisconnect lost =>
      have after : pre.node.onDisconnect lost = post.node := Except.ok.inj handled
      exact quiet (after ▸ calm_onDisconnect pre.node lost) rfl
  | endpointReset ep =>
      have after : pre.node.addCheckList ep = post.node := Except.ok.inj handled
      exact quiet (after ▸ ⟨rfl, fun up => up⟩) rfl
  | procTime sec =>
      have after : pre.node.procTime sec = post.node := Except.ok.inj handled
      exact quiet (after ▸ ⟨rfl, fun up => up⟩) rfl
  | procFather sec ctrl connected faulty =>
      have after : pre.node.procFather sec ctrl connected faulty = post.node :=
        Except.ok.inj handled
      exact quiet (after ▸ calm_procFather pre.node sec ctrl connected faulty) rfl
  | procCheckList available =>
      have after : pre.node.procCheckList available = post.node := Except.ok.inj handled
      exact quiet (after ▸ calm_procCheckList pre.node available) rfl
  | reset =>
      have after : pre.node.reset = post.node := Except.ok.inj handled
      exact quiet (after ▸ calm_reset pre.node) rfl
  | regRsp conn m =>
      obtain ⟨sameAddress, comesUp⟩ := regRsp_step handled registered
      exact ⟨kept sameAddress, iff_true_intro comesUp⟩
  | regReq env conn m =>
      obtain ⟨sameAddress, comesUp⟩ := regReq_step handled registered
      exact ⟨kept sameAddress, comesUp⟩

/-- In every run of a node with a parent, the node is registered with the parent it has whenever it
    comes up, exactly when the flag EN_FT_PARENT_REG_DONE never was left over as a parent was
    added. -/
theorem running_registered_iff {start s : Registering}
    {made : List (Transition Registering ParentEvent)} (initial : start.Initial)
    (run : Run registeringStep start made s) : (∀ t ∈ made, ComesUpRegistered t) ↔
      ∀ t ∈ made, t.pre.Fresh t.label := by
  have preserved : ∀ t : Transition Registering ParentEvent, t.pre.HasAddress →
      registeringStep t.pre t.label t.post → t.pre.Fresh t.label → t.post.HasAddress :=
    fun _ address taken _ => (registeringStep_iff address taken).1
  have holds : ∀ t : Transition Registering ParentEvent, t.pre.HasAddress →
      registeringStep t.pre t.label t.post → (ComesUpRegistered t ↔ t.pre.Fresh t.label) :=
    fun _ address taken => (registeringStep_iff address taken).2
  exact run.forall_iff initial.address preserved holds

/-- A node that has just been initialised, with a parent. -/
def NodeState.joining : NodeState where
  tables :=
    { self := { id := 0x12345678#64, childrenMask := 8, globalRouter := false, listen := [] }
      father := none
      brother := .empty
      children := .empty
      ttl := 16
      msgSize := 65536 }
  status := .inited
  parentRegDone := false
  actived := false
  shutdown := false
  sec := 0
  fatherOprTimePoint := 0
  fatherAddress := "ipv4://127.0.0.1:16387"
  firstIdleTimeout := 30
  retryInterval := 3
  pingInterval := 60
  checkList := []
  onDebug := false

theorem joining_address : NodeState.joining.fatherAddress ≠ "" := by decide

/-- Nothing has been received yet. -/
def Registering.fresh : Registering := ⟨.joining, false⟩

theorem Registering.fresh_initial : fresh.Initial := ⟨joining_address, rfl, rfl, rfl, rfl⟩

/-- The connection of the parent, and its registration. -/
def parentConn : PeerConn where
  state := .handshaking
  binding := none
  regFd := true
  accessShareHost := false
  address := "ipv4://127.0.0.1:16387"

/-- A message of the registration of the parent. -/
def parentMsg (cmd : ProtocolCmd) : Msg where
  head :=
    { cmd := cmd
      type := 0
      ret := 0
      sequence := 1#32
      srcBusId := 0x12340001#64 }
  body :=
    { reg := some
        { busId := 0x12340001#64
          pid := 7#32
          hostname := "host"
          channels := []
          childrenIdMask := 16#32
          hasGlobalTree := true } }

/-- What whatever is sent and connected finds. -/
def HandlerEnv.reachable : HandlerEnv where
  links :=
    { ctrl := fun _ => none
      data := fun _ => none }
  sequence := 1#32
  push _ := .success
  addConnection := true
  connect _ := .success

/-- The node connects to its parent. -/
def NodeState.connecting : NodeState :=
  { NodeState.joining with
    sec := 1
    fatherOprTimePoint := 31
    status := .connectingParent }

theorem joining_start : NodeState.joining.start 1 .success = .connecting := by
  rw [start, if_pos joining_address]
  rfl

/-- The node after a request of the registration of its parent. -/
def NodeState.withParent (n : NodeState) : NodeState :=
  (onRecvNodeRegReq .reachable n (some parentConn) (parentMsg .nodeRegReq)).node

/-- The parent accepts the registration before its endpoint is added, and then the node is up. -/
theorem running_registered_iff_three_events :
    ∃ made s, Run registeringStep .fresh made s ∧ s.node.status = .running ∧
      ∀ t ∈ made, ComesUpRegistered t := by
  let request := ParentEvent.regReq .reachable (some parentConn) (parentMsg .nodeRegReq)
  let response := ParentEvent.regRsp (some parentConn) (parentMsg .nodeRegRsp)
  have started : registeringStep .fresh (.start 1 .success) ⟨.connecting, false⟩ :=
    ⟨congrArg Except.ok joining_start, rfl⟩
  have responded : registeringStep ⟨.connecting, false⟩ response
      ⟨NodeState.connecting.onParentRegDone, true⟩ :=
    ⟨rfl, rfl⟩
  have requested : registeringStep ⟨NodeState.connecting.onParentRegDone, true⟩ request
      ⟨NodeState.connecting.onParentRegDone.withParent, true⟩ := ⟨rfl, rfl⟩
  have run := ((Run.refl.tail started).tail responded).tail requested
  refine ⟨_, _, run, rfl, (running_registered_iff Registering.fresh_initial run).mpr ?_⟩
  intro t member
  simp only [List.nil_append, List.cons_append, List.mem_cons, List.not_mem_nil, or_false] at member
  obtain rfl | rfl | rfl := member
  · exact trivial
  · exact trivial
  · exact fun _ _ _ => rfl

/-- The node was up and lost its parent. -/
def NodeState.lost : NodeState :=
  (NodeState.connecting.withParent.onParentRegDone.onActived.removeEndpoint 0x12340001#64).2

/-- It connects to its parent again. -/
def NodeState.reconnecting : NodeState :=
  { NodeState.lost with
    fatherOprTimePoint := 130
    status := .connectingParent }

theorem lost_procFather : NodeState.lost.procFather 100 false .success false = .reconnecting := by
  rw [procFather, if_pos ⟨joining_address, by decide, by decide⟩]
  rfl

/-- The flag is left over: the parent accepts the registration, is lost and connected to again, and
    as soon as its endpoint is added again the node is up, although the registration was not
    accepted since. -/
theorem running_with_stale_flag :
    Registering.fresh.Initial ∧
      ∃ made s, Run registeringStep .fresh made s ∧ ¬∀ t ∈ made, ComesUpRegistered t := by
  let request := ParentEvent.regReq .reachable (some parentConn) (parentMsg .nodeRegReq)
  let response := ParentEvent.regRsp (some parentConn) (parentMsg .nodeRegRsp)
  have started : registeringStep .fresh (.start 1 .success) ⟨.connecting, false⟩ :=
    ⟨congrArg Except.ok joining_start, rfl⟩
  have requested : registeringStep ⟨.connecting, false⟩ request ⟨NodeState.connecting.withParent,
      false⟩ :=
    ⟨rfl, rfl⟩
  have responded : registeringStep ⟨NodeState.connecting.withParent, false⟩ response
      ⟨NodeState.connecting.withParent.onParentRegDone.onActived, true⟩ := ⟨rfl, rfl⟩
  have removed : registeringStep ⟨NodeState.connecting.withParent.onParentRegDone.onActived, true⟩
      (.removeEndpoint 0x12340001#64) ⟨.lost, false⟩ := ⟨rfl, rfl⟩
  have connected : registeringStep ⟨.lost, false⟩ (.procFather 100 false .success false)
      ⟨.reconnecting, false⟩ :=
    ⟨congrArg Except.ok lost_procFather, rfl⟩
  have again : registeringStep ⟨.reconnecting, false⟩ request ⟨NodeState.reconnecting.withParent,
      false⟩ :=
    ⟨rfl, rfl⟩
  have run :=
    (((((Run.refl.tail started).tail requested).tail responded).tail removed).tail connected).tail
      again
  refine ⟨Registering.fresh_initial, _, _, run, fun all => ?_⟩
  have comesUp :=
    all ⟨⟨.reconnecting, false⟩, request, ⟨NodeState.reconnecting.withParent, false⟩⟩ (by simp)
  exact absurd (comesUp (by decide) rfl).2 Bool.false_ne_true

end LibAtbus.Node
