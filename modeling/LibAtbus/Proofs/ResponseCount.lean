/-
Module: LibAtbus.Proofs.ResponseCount
Layer: Proofs
Purpose: How many responses the nodes that a request visits generate. A relay that sends a request
  which asks for a response on, to where its own domain does not reach, generates one on its own;
  towards its target a request leaves domains only before it reaches the first one that has the
  target. So the responses are the ones asked for unless the first node that receives the request is
  such a relay.
Trusted boundary: none
Main exports: LeavesAnswered, TreeNetwork.life_accounted, requestLife_exact_iff
-/
import LibAtbus.Node.Transfer
import LibAtbus.Proofs.Forwarding
import LibAtbus.Proofs.TreeRouting

namespace LibAtbus.Node

universe u

variable {ι : Type u} {v t : ι} {m : Msg} {data : ForwardData} {link : Link} {links : Nat → Links}
  {sequences : Nat → BitVec 32}

/-- The node sends a request that asks for a response on, out of its own domain. -/
def LeavesAnswered (net : TreeNetwork ι) (link : Link) (v : ι) (m : Msg)
    (data : ForwardData) : Prop :=
  data.checkFlag flagRequireRsp = true ∧ ¬net.Owns v data.toId ∧
    data.router.length < ttlSize (net.node v).ttl ∧ (net.node v).SendsOn link m data.toId

namespace TreeNetwork

variable {net : TreeNetwork ι}

/-- A request that is sent on gets nearer to its target. -/
theorem resend_hop (other : t ≠ v) (sends : (net.node v).SendsOn link m (net.id t)) :
    ∃ e w marked,
      (resend (net.node v) link (net.id t) (sendMsg (net.node v) link (net.id t) m)).sent =
        some (e, marked) ∧ net.Represents e w ∧ net.tree.Hop t v w := by
  have otherId : net.id t ≠ net.id v := fun same => other (Network.id_injective same)
  by_cases first : (net.node v).SendsFirst link m (net.id t)
  · obtain ⟨e, w, picked, -, stands, hop⟩ := target_hop other
    obtain ⟨e', picked', accepts⟩ := first
    have same : e' = e := Except.ok.inj (picked'.symm.trans picked)
    subst same
    refine ⟨e', w, m.stamp (net.id v), ?_, stands, hop⟩
    rw [resend_of_sendsFirst otherId ⟨e', picked, accepts⟩]
    exact sendMsg_of_accepts otherId picked accepts
  · have second := sends.resolve_left first
    obtain ⟨father, known, brother, sent, -⟩ := resend_of_sendsSecond otherId first second
    have outside : ¬net.Owns v (net.id t) := not_owns_of_isBrotherNode brother
    obtain ⟨p, step⟩ := exists_parent outside
    obtain ⟨father', known', stands⟩ := net.father step
    have same : father = father' := Option.some.inj (known.symm.trans known')
    subst same
    exact ⟨father, p, _, sent, stands, .up outside step⟩

/-- The handler of the node a request visits. -/
theorem handler_does (links : Links) (sequence : BitVec 32)
    (command : m.head.cmd = .dataTransformReq) (forward : m.body.forward = some data)
    (target : data.toId = net.id t) :
    Does (net.node v) links.ctrl data
      (if net.id t = net.id v then [(m.head.type, data.content)] else [])
      (if net.id t = net.id v ∨ ttlSize (net.node v).ttl ≤ data.router.length then []
        else (resend (net.node v) links.data (net.id t)
          (sendMsg (net.node v) links.data (net.id t) m)).sent.toList)
      ((net.node v).Answers links.data m data)
      (onRecvDataTransferReq (net.node v) links sequence true m) := by
  have does : Does (net.node v) links.ctrl data _ _ _
      (onRecvDataTransferReq (net.node v) links sequence true m) :=
    onRecvDataTransferReq_does father_apart command forward
  rwa [target] at does

/-- A life ends at a node that does not send the request on. -/
theorem life_of_ended {got : List (Int × List UInt8)} {answered : Prop} [Decidable answered]
    {room hop : Nat} (does : Does (net.node v) (links hop).ctrl data got [] answered
      (onRecvDataTransferReq (net.node v) (links hop) (sequences hop) true m)) :
    net.life links sequences (room + 1) hop v m =
      some { responses := if answered then 1 else 0, delivered := !got.isEmpty } := by
  rw [Network.life, does.onward, does.deliveries, does.responses_length]
  rfl

/-- It goes on at the node the request is sent to. -/
theorem life_of_sent {got : List (Int × List UInt8)} {onward : List (Endpoint × Msg)}
    {answered : Prop} [Decidable answered] {room hop : Nat} {w : ι} {marked : Msg} {later : Life}
    (does : Does (net.node v) (links hop).ctrl data got onward answered
      (onRecvDataTransferReq (net.node v) (links hop) (sequences hop) true m))
    (packets : net.packets onward = [(w, marked)])
    (rest : net.life links sequences room (hop + 1) w marked = some later) :
    net.life links sequences (room + 1) hop v m =
      some { later with responses := (if answered then 1 else 0) + later.responses } := by
  rw [Network.life, does.onward, packets, does.responses_length]
  simp only [rest, Option.map_some]

/-- Below its own domain a request leaves none. -/
theorem not_leavesAnswered_of_owns (inside : net.Owns v data.toId) :
    ¬LeavesAnswered net link v m data :=
  fun leaves => leaves.2.1 inside

/-- From a node on, the life of a request ends and generates the responses asked for, and more if
    and only if the node sends the request on out of its own domain and it asks for a response. -/
def Accounted (net : TreeNetwork ι) (links : Nat → Links) (sequences : Nat → BitVec 32)
    (room hop : Nat) (v : ι) (m : Msg) (data : ForwardData) : Prop :=
  ∃ life extra, net.life links sequences room hop v m = some life ∧
    life.responses = life.expected (data.checkFlag flagRequireRsp) + extra ∧
    (extra = 0 ↔ ¬LeavesAnswered net (links hop).data v m data)

section

variable {room hop : Nat} (command : m.head.cmd = .dataTransformReq)
  (forward : m.body.forward = some data) (target : data.toId = net.id t)

include command forward target

/-- The request is there. -/
theorem accounted_of_arrived (arrived : t = v) :
    Accounted net links sequences (room + 1) hop v m data := by
  classical
  have does := handler_does (v := v) (links hop) (sequences hop) command forward target
  subst arrived
  rw [if_pos rfl, if_pos (.inl rfl)] at does
  have answers : (net.node t).Answers (links hop).data m data ↔
      data.checkFlag flagRequireRsp = true := by
    rw [BusNode.Answers, if_pos target]
  have inside : net.Owns t data.toId := target ▸ Network.Owns.self t
  refine ⟨_, 0, life_of_ended does, ?_, by simp [not_leavesAnswered_of_owns inside]⟩
  simp [Life.expected, answers]

variable (other : t ≠ v)

include other

/-- Another node answers a request that it does not send on. -/
theorem accounted_of_stopped
    (stopped : ttlSize (net.node v).ttl ≤ data.router.length ∨
      ¬(net.node v).SendsOn (links hop).data m (net.id t)) :
    Accounted net links sequences (room + 1) hop v m data := by
  classical
  have does := handler_does (v := v) (links hop) (sequences hop) command forward target
  have otherId : net.id t ≠ net.id v := fun same => other (Network.id_injective same)
  have answers : (net.node v).Answers (links hop).data m data := by
    rw [BusNode.Answers, if_neg (target ▸ otherId), target]
    exact stopped.imp_right .inl
  have stays : ¬LeavesAnswered net (links hop).data v m data := by
    rintro ⟨-, -, room, sends⟩
    rcases stopped with used | refused
    · exact absurd room (Nat.not_lt.mpr used)
    · exact refused (target ▸ sends)
  have nothing : (if net.id t = net.id v ∨ ttlSize (net.node v).ttl ≤ data.router.length then []
      else (resend (net.node v) (links hop).data (net.id t)
        (sendMsg (net.node v) (links hop).data (net.id t) m)).sent.toList) = [] := by
    rcases stopped with used | refused
    · rw [if_pos (.inr used)]
    · rw [(resend_of_not_sendsOn otherId refused father_apart).1, Option.toList_none, ite_self]
  rw [if_neg otherId, nothing] at does
  refine ⟨_, 0, life_of_ended does, ?_, by simp [stays]⟩
  simp [Life.expected, answers]

/-- A request that is sent on adds the response of the relay, if it generates one, to those of the
    rest. -/
theorem accounted_of_sent (left : data.router.length < ttlSize (net.node v).ttl)
    (sends : (net.node v).SendsOn (links hop).data m (net.id t))
    (rest : ∀ w marked router, net.tree.Hop t v w → marked.head.cmd = .dataTransformReq →
      marked.body.forward = some { data with router := router } →
      Accounted net links sequences room (hop + 1) w marked { data with router := router }) :
    Accounted net links sequences (room + 1) hop v m data := by
  classical
  have does := handler_does (v := v) (links hop) (sequences hop) command forward target
  have otherId : net.id t ≠ net.id v := fun same => other (Network.id_injective same)
  rw [if_neg otherId, if_neg (not_or.mpr ⟨otherId, Nat.not_le.mpr left⟩)] at does
  obtain ⟨e, w, marked, sent, stands, nearer⟩ := resend_hop other sends
  have carries : m.Carries data := ⟨command, data.router, forward⟩
  obtain ⟨command', router, forward'⟩ : marked.Carries data :=
    carries.mem_resend (Option.mem_toList.mpr sent)
  obtain ⟨later, extra, life, count, leaves⟩ := rest w marked router nearer command' forward'
  have packets : net.packets (resend (net.node v) (links hop).data (net.id t)
      (sendMsg (net.node v) (links hop).data (net.id t) m)).sent.toList = [(w, marked)] := by
    rw [sent]
    simp [Network.packets, Network.locate_of_represents stands]
  have goes := life_of_sent does packets life
  have answers : (net.node v).Answers (links hop).data m data ↔
      (net.node v).isChildNode data.toId = false ∧ data.checkFlag flagRequireRsp = true := by
    rw [BusNode.Answers, if_neg (target ▸ otherId), target]
    simp [Nat.not_le.mpr left, sends]
  by_cases leaving : LeavesAnswered net (links hop).data v m data
  · -- the relay generates a response of its own
    have outward : (net.node v).isChildNode data.toId = false :=
      Bool.eq_false_iff.mpr fun child => leaving.2.1 (isChildNode_iff_owns.mp child)
    refine ⟨_, extra + 1, goes, ?_, by simp [leaving]⟩
    rw [if_pos (answers.mpr ⟨outward, leaving.1⟩), count]
    exact Nat.add_comm _ _
  · have quiet : ¬(net.node v).Answers (links hop).data m data := by
      intro answer
      obtain ⟨outward, asked⟩ := answers.mp answer
      have outside : ¬net.Owns v data.toId := fun inside => by
        rw [isChildNode_iff_owns.mpr inside] at outward
        cases outward
      exact leaving ⟨asked, outside, left, target ▸ sends⟩
    have none : extra = 0 := by
      refine leaves.mpr fun later => ?_
      by_cases inside : net.Owns v data.toId
      · rw [target] at inside
        exact later.2.1 (target ▸ nearer.mem_of_mem inside)
      · exact leaving ⟨later.1, inside, left, target ▸ sends⟩
    refine ⟨_, 0, goes, ?_, by simp [leaving]⟩
    rw [if_neg quiet, Nat.zero_add, count, none]
    rfl

end

/-- The life of a request for a node of the tree is accounted for from every node on. The induction
    is on the room, which the distance of the node bounds. -/
theorem life_accounted (room hop : Nat) (v : ι) (m : Msg) (data : ForwardData)
    (command : m.head.cmd = .dataTransformReq) (forward : m.body.forward = some data)
    (target : data.toId = net.id t) (enough : net.tree.distance t v < room) :
    Accounted net links sequences room hop v m data := by
  induction room generalizing hop v m data with
  | zero => exact absurd enough (Nat.not_lt_zero _)
  | succ room ih =>
      by_cases arrived : t = v
      · exact accounted_of_arrived command forward target arrived
      · by_cases used : ttlSize (net.node v).ttl ≤ data.router.length
        · exact accounted_of_stopped command forward target arrived (.inl used)
        · by_cases sends : (net.node v).SendsOn (links hop).data m (net.id t)
          · refine accounted_of_sent command forward target arrived (Nat.not_le.mp used) sends ?_
            intro w marked router nearer command' forward'
            have closer := nearer.distance_lt
            exact ih (hop + 1) w marked _ command' forward' target (by omega)
          · exact accounted_of_stopped command forward target arrived (.inr sends)

end TreeNetwork

section

variable {net : TreeNetwork ι} {node : BusNode} {links : Links} {sequence : BitVec 32} {tid : BusId}
  {type : Int} {content : List UInt8} {requireRsp : Bool} {e : Endpoint}

/-- What `send_data` transmits is the request for the node. -/
theorem sendData_sent (sent :
    (sendData node links sequence tid type content requireRsp).sent = [(e, m)]) :
    tid ≠ node.id ∧ node.target tid = .ok e ∧
      m = (dataRequest node.id tid type content requireRsp sequence).stamp node.id := by
  rw [sendData] at sent
  split at sent
  · cases sent
  · split at sent
    · cases sent
    · rename_i other
      have transmitted : (sendMsg node links.data tid
          (dataRequest node.id tid type content requireRsp sequence)).sent.toList = [(e, m)] := sent
      have member := transmitted ▸ List.mem_singleton_self (e, m)
      obtain ⟨-, picked, marked, -⟩ := sendMsg_sent (Option.mem_toList.mp member)
      exact ⟨other, picked, marked⟩

theorem sendData_request (sent :
    (sendData node links sequence tid type content requireRsp).sent = [(e, m)]) :
    ∃ data, m.head.cmd = .dataTransformReq ∧ m.body.forward = some data ∧ data.toId = tid ∧
      data.router.length = 1 ∧ data.checkFlag flagRequireRsp = requireRsp := by
  obtain ⟨-, -, rfl⟩ := sendData_sent sent
  cases requireRsp with
  | false =>
      refine ⟨_, rfl, rfl, rfl, rfl, ?_⟩
      simp [ForwardData.checkFlag]
  | true =>
      refine ⟨_, rfl, rfl, rfl, rfl, ?_⟩
      simp [ForwardData.checkFlag, ForwardData.setFlag, flagRequireRsp]

theorem TreeNetwork.sendData_hop {src dst : ι}
    (sent :
      (sendData (net.node src) links sequence (net.id dst) type content requireRsp).sent = [(e, m)])
    (receiver : net.locate e.id = some v) : net.tree.Hop dst src v := by
  obtain ⟨otherId, picked, -⟩ := sendData_sent sent
  have other : dst ≠ src := fun same => otherId (congrArg net.id same)
  obtain ⟨e', w, picked', -, stands, hop⟩ := target_hop other
  have same : e = e' := Except.ok.inj (picked.symm.trans picked')
  subst same
  rw [Network.locate_of_represents stands] at receiver
  cases receiver
  exact hop

end

/-- Over the whole life of a request, from a node that sends it to another one, the nodes it visits
    generate the responses asked for if and only if the first of them does not send it on out of its
    own domain while it asks for a response. -/
theorem requestLife_exact_iff (net : TreeNetwork ι) (links : Nat → Links)
    (sequences : Nat → BitVec 32) (src dst : ι) (type : Int) (content : List UInt8)
    (requireRsp : Bool) {e : Endpoint} {v : ι} {m : Msg}
    (sent :
      (sendData (net.node src) (links 0) (sequences 0) (net.id dst) type content requireRsp).sent =
      [(e, m)])
    (receiver : net.locate e.id = some v) (room : Nat)
    (enough : net.tree.graph.dist src dst ≤ room) :
    ∃ life, net.life links sequences room 1 v m = some life ∧
      (life.responses = life.expected requireRsp ↔
        ¬(requireRsp = true ∧ ¬net.Owns v (net.id dst) ∧ 1 < ttlSize (net.node v).ttl ∧
          (net.node v).SendsOn (links 1).data m (net.id dst))) := by
  obtain ⟨data, command, forward, target, router, asked⟩ := sendData_request sent
  have nearer := TreeNetwork.sendData_hop sent receiver
  have bound := DomainTree.distance_le_dist net.tree dst src
  have closer := nearer.distance_lt
  have accounted : TreeNetwork.Accounted net links sequences room 1 v m data :=
    TreeNetwork.life_accounted room 1 v m data command forward target (by omega)
  obtain ⟨life, extra, ends, count, leaves⟩ := accounted
  refine ⟨life, ends, ?_⟩
  rw [LeavesAnswered, router, target, asked] at leaves
  rw [count, asked, ← leaves]
  omega

/-- From one child of the root over the root to the other: the target alone answers. -/
theorem requestLife_exact_over_root :
    ∃ life, (TreeNetwork.sample 16).life (fun _ => openLinks) (fun _ => 1) 2 1 0
        ((dataRequest 0x10100#64 0x10200#64 7 [1] true 1).stamp 0x10100#64) = some life ∧
      (life.responses = life.expected true ↔
        ¬(true = true ∧ ¬(TreeNetwork.sample 16).Owns 0 0x10200#64 ∧
          1 < ttlSize ((TreeNetwork.sample 16).node 0).ttl ∧
          ((TreeNetwork.sample 16).node 0).SendsOn openLinks.data
            ((dataRequest 0x10100#64 0x10200#64 7 [1] true 1).stamp 0x10100#64) 0x10200#64)) := by
  have up : (TreeNetwork.sample 16).tree.graph.Adj 1 0 := Or.inl rfl
  have down : (TreeNetwork.sample 16).tree.graph.Adj 0 2 := Or.inr rfl
  have edges : (TreeNetwork.sample 16).tree.graph.dist 1 2 ≤ 2 :=
    SimpleGraph.dist_le (.cons up (.cons down .nil))
  exact requestLife_exact_iff (TreeNetwork.sample 16) (fun _ => openLinks) (fun _ => 1) 1 2 7
    [1] true
    rfl rfl 2 edges

/-- From below one child of the root to the other child: the first relay answers the request it
    sends on, and the target answers it too. -/
theorem relay_answers_request_sent_on :
    (sendData (TreeNetwork.Sample.node 16 3) openLinks 1 0x10200#64 7 [1] true).sent =
        [(TreeNetwork.Sample.endpoint 1,
          (dataRequest 0x10110#64 0x10200#64 7 [1] true 1).stamp 0x10110#64)] ∧
      ∃ life, (TreeNetwork.sample 16).life (fun _ => openLinks) (fun _ => 1) 3 1 1
          ((dataRequest 0x10110#64 0x10200#64 7 [1] true 1).stamp 0x10110#64) = some life ∧
        life.delivered = true ∧ life.responses ≠ life.expected true := by
  refine ⟨by decide +kernel, { responses := 2, delivered := true }, ?_, rfl, ?_⟩
  · decide +kernel
  · decide

end LibAtbus.Node
