/-
Module: LibAtbus.Proofs.Forwarding
Layer: Proofs
Purpose: What the handler of a data request does, told from the node's tables and links alone: when
  the node sends the request on, when it answers it, and which messages it transmits.
Trusted boundary: none
Main exports: BusNode.SendsOn, BusNode.Answers, Handled.responses, Handled.onward, Does,
  onRecvDataTransferReq_does
-/
import LibAtbus.Node.MsgHandler

namespace LibAtbus.Node

variable {node : BusNode} {link : Link} {links : Links} {sequence : BitVec 32} {m m' : Msg}
  {data : ForwardData} {toId tid : BusId} {target : Endpoint}

/-! ### Requests on their way -/

/-- The message is the request with this data; only the nodes it was sent on by may differ. -/
def Msg.Carries (m : Msg) (data : ForwardData) : Prop :=
  m.head.cmd = .dataTransformReq ∧ ∃ router, m.body.forward = some { data with router := router }

theorem Msg.Carries.stamp (carries : m.Carries data) (id : BusId) : (m.stamp id).Carries data := by
  obtain ⟨command, router, forward⟩ := carries
  exact ⟨command, router ++ [id], by simp [Msg.stamp, forward]⟩

theorem Msg.Carries.sendMsg_msg (carries : m.Carries data) :
    (sendMsg node link tid m).msg.Carries data := by
  rw [sendMsg]
  split
  · exact carries
  · split
    · exact carries
    · split
      · exact carries
      · exact carries.stamp _

theorem Msg.Carries.mem_sent {packet : Endpoint × Msg} (carries : m.Carries data)
    (sent : packet ∈ (sendMsg node link tid m).sent.toList) : packet.2.Carries data := by
  obtain ⟨target, marked⟩ := packet
  obtain ⟨-, -, rfl, -⟩ := sendMsg_sent (Option.mem_toList.mp sent)
  exact carries.stamp _

/-- What is sent of a message has its command. -/
theorem cmd_of_mem_sent {packet : Endpoint × Msg}
    (sent : packet ∈ (sendMsg node link tid m).sent.toList) : packet.2.head.cmd = m.head.cmd := by
  obtain ⟨target, marked⟩ := packet
  obtain ⟨-, -, rfl, -⟩ := sendMsg_sent (Option.mem_toList.mp sent)
  rfl

/-- The last attempt is the first one, or one to the parent with what the first one left. -/
theorem resend_cases (first : SendResult) :
    resend node link toId first = first ∨
      ∃ father, node.father = some father ∧
        resend node link toId first = sendMsg node link father.id first.msg := by
  rw [resend]
  split
  · split
    · exact .inl rfl
    · rename_i father known
      split
      · exact .inl rfl
      · exact .inr ⟨father, known, rfl⟩
  · exact .inl rfl

theorem Msg.Carries.resend_msg (carries : m.Carries data) :
    (resend node link toId (sendMsg node link tid m)).msg.Carries data := by
  rcases resend_cases (sendMsg node link tid m) with same | ⟨father, -, again⟩
  · rw [same]
    exact carries.sendMsg_msg
  · rw [again]
    exact carries.sendMsg_msg.sendMsg_msg

theorem Msg.Carries.mem_resend {packet : Endpoint × Msg} (carries : m.Carries data)
    (sent : packet ∈ (resend node link toId (sendMsg node link tid m)).sent.toList) :
    packet.2.Carries data := by
  rcases resend_cases (sendMsg node link tid m) with same | ⟨father, -, again⟩
  · rw [same] at sent
    exact carries.mem_sent sent
  · rw [again] at sent
    exact carries.sendMsg_msg.mem_sent sent

/-! ### Sending on -/

namespace BusNode

/-- The first attempt: the endpoint picked for the target takes the request. -/
def SendsFirst (node : BusNode) (link : Link) (m : Msg) (toId : BusId) : Prop :=
  ∃ target, node.target toId = .ok target ∧ link.Accepts target (m.stamp node.id)

/-- The request after a first attempt that failed. It is marked when there was a connection. -/
def tried (node : BusNode) (link : Link) (m : Msg) (toId : BusId) : Msg :=
  match node.target toId with
  | .error _ => m
  | .ok target => if (link target).isSome then m.stamp node.id else m

/-- The second attempt: a request that could be for a sibling, that is not for the parent's
    connection and did not come from the parent, is taken by the parent. -/
def SendsSecond (node : BusNode) (link : Link) (m : Msg) (toId : BusId) : Prop :=
  ∃ father, node.father = some father ∧ node.isBrotherNode toId = true ∧ father.id ≠ node.id ∧
    (∀ target, node.target toId = .ok target → target.id ≠ father.id) ∧
    (node.tried link m toId).head.srcBusId ≠ father.id ∧
    link.Accepts father ((node.tried link m toId).stamp node.id)

/-- The node sends the request on. -/
def SendsOn (node : BusNode) (link : Link) (m : Msg) (toId : BusId) : Prop :=
  node.SendsFirst link m toId ∨ node.SendsSecond link m toId

/-- The node answers the request: it is the target and is asked to, the ttl is used up, the request
    cannot be sent on, or it is asked to and sends the request on to where its own domain does not
    reach. -/
def Answers (node : BusNode) (link : Link) (m : Msg) (data : ForwardData) : Prop :=
  if data.toId = node.id then data.checkFlag flagRequireRsp = true
  else ttlSize node.ttl ≤ data.router.length ∨ ¬node.SendsOn link m data.toId ∨
    node.isChildNode data.toId = false ∧ data.checkFlag flagRequireRsp = true

end BusNode

/-- A first attempt that succeeds. -/
theorem sendMsg_of_sendsFirst (other : toId ≠ node.id) (sends : node.SendsFirst link m toId) :
    (sendMsg node link toId m).res.failed = false := by
  obtain ⟨target, picked, accepts⟩ := sends
  have sent := sendMsg_of_accepts other picked accepts
  refine Bool.eq_false_iff.mpr fun failed => ?_
  rw [(sendMsg_failed_iff other).mp failed] at sent
  cases sent

/-- A first attempt that fails. -/
theorem sendMsg_of_not_sendsFirst (other : toId ≠ node.id)
    (refused : ¬node.SendsFirst link m toId) : (sendMsg node link toId m).res.failed = true ∧
      (sendMsg node link toId m).msg = node.tried link m toId ∧
      (sendMsg node link toId m).epOut = (node.target toId).toOption := by
  have unsent : (sendMsg node link toId m).sent = none := by
    rw [Option.eq_none_iff_forall_ne_some]
    rintro ⟨target, marked⟩ sent
    obtain ⟨-, picked, rfl, accepts⟩ := sendMsg_sent sent
    exact refused ⟨target, picked, accepts⟩
  refine ⟨(sendMsg_failed_iff other).mpr unsent, ?_⟩
  rw [sendMsg, if_neg other, BusNode.tried]
  cases picked : node.target toId with
  | error res => exact ⟨rfl, rfl⟩
  | ok target =>
      cases connected : link target with
      | none => exact ⟨by simp [connected], by simp [connected, Except.toOption]⟩
      | some push => exact ⟨by simp [connected], by simp [connected, Except.toOption]⟩

theorem isParentNode_of_father {father : Endpoint} (known : node.father = some father) :
    node.isParentNode tid = (tid == father.id) := by
  rw [BusNode.isParentNode, known]
  rfl

/-- After a first attempt that succeeds there is no second one. -/
theorem resend_of_sendsFirst (other : toId ≠ node.id) (sends : node.SendsFirst link m toId) :
    resend node link toId (sendMsg node link toId m) = sendMsg node link toId m := by
  rw [resend, sendMsg_of_sendsFirst other sends]
  rfl

/-- After a first attempt that fails, a request that could be for a sibling is for the parent,
    unless it came from there or was to go there. -/
theorem resend_of_not_sendsFirst {father : Endpoint} (other : toId ≠ node.id)
    (first : ¬node.SendsFirst link m toId) (known : node.father = some father) :
    resend node link toId (sendMsg node link toId m) =
      if (node.tried link m toId).head.srcBusId ≠ father.id ∧ node.isBrotherNode toId = true ∧
          (node.target toId).toOption.all (fun target => target.id != father.id) = true
      then sendMsg node link father.id (node.tried link m toId) else sendMsg node link toId m := by
  obtain ⟨failed, msg, epOut⟩ := sendMsg_of_not_sendsFirst other first
  rw [resend, failed, msg, epOut, known]
  simp only [isParentNode_of_father known]
  by_cases from_ : (node.tried link m toId).head.srcBusId = father.id
  · simp [from_]
  · cases brother : node.isBrotherNode toId with
    | false => simp
    | true =>
        cases (node.target toId).toOption with
        | none => simp [from_]
        | some target =>
            by_cases toFather : target.id = father.id
            · simp [from_, toFather]
            · simp [from_, toFather]

theorem target_apart_iff {father : Endpoint} :
    (node.target toId).toOption.all (fun target => target.id != father.id) = true ↔
      ∀ target, node.target toId = .ok target → target.id ≠ father.id := by
  cases node.target toId with
  | error res => simp [Except.toOption]
  | ok target => simp [Except.toOption]

/-- The second attempt. -/
theorem resend_of_sendsSecond (other : toId ≠ node.id) (first : ¬node.SendsFirst link m toId)
    (second : node.SendsSecond link m toId) :
    ∃ father, node.father = some father ∧ node.isBrotherNode toId = true ∧
      (resend node link toId (sendMsg node link toId m)).sent =
        some (father, (node.tried link m toId).stamp node.id) ∧
      (resend node link toId (sendMsg node link toId m)).res.failed = false := by
  obtain ⟨father, known, brother, notSelf, notFather, notFrom, accepts⟩ := second
  have again := resend_of_not_sendsFirst other first known
  rw [if_pos ⟨notFrom, brother, target_apart_iff.mpr notFather⟩] at again
  have picked : node.target father.id = .ok father :=
    BusNode.target_of_parent known (by rw [isParentNode_of_father known, beq_self_eq_true])
  have sends : node.SendsFirst link (node.tried link m toId) father.id := ⟨father, picked, accepts⟩
  refine ⟨father, known, brother, ?_, ?_⟩
  · rw [again]
    exact sendMsg_of_accepts notSelf picked accepts
  · rw [again]
    exact sendMsg_of_sendsFirst notSelf sends

/-- When neither attempt succeeds nothing is sent. -/
theorem resend_of_not_sendsOn (other : toId ≠ node.id) (refused : ¬node.SendsOn link m toId)
    (apart : ∀ father, node.father = some father → father.id ≠ node.id) :
    (resend node link toId (sendMsg node link toId m)).sent = none ∧
      (resend node link toId (sendMsg node link toId m)).res.failed = true := by
  have first : ¬node.SendsFirst link m toId := fun sends => refused (.inl sends)
  have failed := (sendMsg_of_not_sendsFirst other first).1
  have unsent := (sendMsg_failed_iff other).mp failed
  cases known : node.father with
  | none =>
      have same : resend node link toId (sendMsg node link toId m) = sendMsg node link toId m := by
        rw [resend, known, ite_self]
      rw [same]
      exact ⟨unsent, failed⟩
  | some father =>
      have again := resend_of_not_sendsFirst other first known
      by_cases turns : (node.tried link m toId).head.srcBusId ≠ father.id ∧
        node.isBrotherNode toId = true ∧
          (node.target toId).toOption.all (fun target => target.id != father.id) = true
      · rw [if_pos turns] at again
        have notSelf := apart father known
        have second : ¬node.SendsFirst link (node.tried link m toId) father.id := by
          rintro ⟨target, picked, accepts⟩
          rw [BusNode.target_of_parent known
            (by rw [isParentNode_of_father known, beq_self_eq_true])] at picked
          cases picked
          exact refused
            (.inr ⟨father, known, turns.2.1, notSelf, target_apart_iff.mp turns.2.2, turns.1,
              accepts⟩)
        have failedAgain := (sendMsg_of_not_sendsFirst notSelf second).1
        rw [again]
        exact ⟨(sendMsg_failed_iff notSelf).mp failedAgain, failedAgain⟩
      · rw [if_neg turns] at again
        rw [again]
        exact ⟨unsent, failed⟩

/-! ### What a handler did -/

/-- The message is a response to the request, for the node the request is from. -/
def Msg.Responds (rsp : Msg) (data : ForwardData) : Prop :=
  rsp.head.cmd = .dataTransformRsp ∧ ∃ forward, rsp.body.forward = some forward ∧
    forward.toId = data.fromId

section

variable {packets : List (Endpoint × Msg)} {cmd cmd' : ProtocolCmd}

theorem filter_cmd_eq_self (command : ∀ packet ∈ packets, packet.2.head.cmd = cmd) :
    packets.filter (fun packet => packet.2.head.cmd = cmd) = packets := by
  rw [List.filter_eq_self]
  intro packet member
  exact decide_eq_true (command packet member)

theorem filter_cmd_eq_nil (command : ∀ packet ∈ packets, packet.2.head.cmd = cmd)
    (other : cmd ≠ cmd') : packets.filter (fun packet => packet.2.head.cmd = cmd') = [] := by
  rw [List.filter_eq_nil_iff]
  intro packet member
  simpa [command packet member] using other

end

/-- A response to the node itself makes no callback but that of the error. -/
theorem sendTransferRsp_events {ret : ErrorType} (forward : m.body.forward = some data) :
    (sendTransferRsp node link m ret).events = .transferRsp (transferRsp m data node.id ret) ::
      (sendMsg node link data.fromId (transferRsp m data node.id ret)).toSelf.toList.flatMap
        fun _ => [.error ErrorType.badData.code] := by
  simp [sendTransferRsp, forward, onRecvDataTransferRsp]

/-- What a handler did with a request: it reported no failure, delivered and sent on what is said,
    and, if and only if it answered the request, built one response and sent it towards the node the
    request is from. -/
structure Does (node : BusNode) (ctrl : Link) (data : ForwardData) (got : List (Int × List UInt8))
    (onward : List (Endpoint × Msg)) (answered : Prop) (handled : Handled) : Prop where
  failures : handled.failures = []
  deliveries : handled.deliveries = got
  onward : handled.onward = onward
  answers : answered → ∃ rsp, rsp.Responds data ∧ handled.responses = [rsp] ∧
    handled.answers = (sendMsg node ctrl data.fromId rsp).sent.toList
  quiet : ¬answered → handled.responses = [] ∧ handled.answers = []

theorem Does.congr {got : List (Int × List UInt8)} {onward : List (Endpoint × Msg)}
    {answered answered' : Prop} {handled : Handled}
    (does : Does node link data got onward answered handled) (same : answered' ↔ answered) :
    Does node link data got onward answered' handled where
  failures := does.failures
  deliveries := does.deliveries
  onward := does.onward
  answers answer := does.answers (same.mp answer)
  quiet none := does.quiet fun answer => none (same.mpr answer)

/-- A handler generates one response or none. -/
theorem Does.responses_length {got : List (Int × List UInt8)} {onward : List (Endpoint × Msg)}
    {answered : Prop} [Decidable answered] {handled : Handled}
    (does : Does node link data got onward answered handled) :
    handled.responses.length = if answered then 1 else 0 := by
  by_cases answer : answered
  · obtain ⟨rsp, -, responses, -⟩ := does.answers answer
    rw [responses, if_pos answer]
    rfl
  · rw [(does.quiet answer).1, if_neg answer]
    rfl

theorem sendTransferRsp_does {ret : ErrorType} (carries : m.Carries data) :
    Does node link data [] [] True (sendTransferRsp node link m ret) := by
  obtain ⟨-, router, forward⟩ := carries
  have sent : (sendTransferRsp node link m ret).sent = (sendMsg node link data.fromId
      (transferRsp m { data with router := router } node.id ret)).sent.toList := by
    simp [sendTransferRsp, forward]
  have command : ∀ packet ∈ (sendMsg node link data.fromId
      (transferRsp m { data with router := router } node.id ret)).sent.toList,
      packet.2.head.cmd = .dataTransformRsp := fun packet sent => cmd_of_mem_sent sent
  have responds : (transferRsp m { data with router := router } node.id ret).Responds data :=
    ⟨rfl, _, rfl, rfl⟩
  refine ⟨?_, ?_, ?_, fun _ => ⟨_, responds, ?_, ?_⟩, fun quiet => absurd trivial quiet⟩
  · rw [Handled.failures, sendTransferRsp_events forward]
    cases (sendMsg node link data.fromId _).toSelf with
    | none => rfl
    | some toSelf => rfl
  · rw [Handled.deliveries, sendTransferRsp_events forward]
    cases (sendMsg node link data.fromId _).toSelf with
    | none => rfl
    | some toSelf => rfl
  · rw [Handled.onward, sent]
    exact filter_cmd_eq_nil command (by decide)
  · rw [Handled.responses, sendTransferRsp_events forward]
    cases (sendMsg node link data.fromId _).toSelf with
    | none => rfl
    | some toSelf => rfl
  · rw [Handled.answers, sent]
    exact filter_cmd_eq_self command

theorem deliver_does (carries : m.Carries data) :
    Does node link data [(m.head.type, data.content)] [] (data.checkFlag flagRequireRsp = true)
      (deliver node link m data) := by
  rw [deliver]
  cases asked : data.checkFlag flagRequireRsp with
  | false => exact ⟨rfl, rfl, rfl, fun answered => (nomatch answered), fun _ => ⟨rfl, rfl⟩⟩
  | true =>
      have answer : Does node link data [] [] True (sendTransferRsp node link m .success) :=
        sendTransferRsp_does carries
      refine ⟨answer.failures, ?_, answer.onward, fun _ => answer.answers trivial,
        fun quiet => absurd rfl quiet⟩
      exact congrArg (List.cons _) answer.deliveries

/-- Telling a child to connect to another one answers nothing. -/
theorem forwardedToChild_does {directFrom : BusId} {sending : SendResult}
    (command : ∀ packet ∈ sending.sent.toList, packet.2.head.cmd = .dataTransformReq) :
    Does node links.ctrl data [] sending.sent.toList False
      (forwardedToChild node links sequence directFrom sending) := by
  have all := filter_cmd_eq_self command
  have noAnswer :
      sending.sent.toList.filter (fun packet => packet.2.head.cmd = .dataTransformRsp) = [] :=
    filter_cmd_eq_nil command (by decide)
  rw [forwardedToChild]
  split
  · exact ⟨rfl, rfl, all, False.elim, fun _ => ⟨rfl, noAnswer⟩⟩
  · rename_i address found
    have syn :
        ∀ packet ∈
        (sendMsg node links.ctrl directFrom (connSyn node.id address sequence)).sent.toList,
        packet.2.head.cmd = .nodeConnSyn := fun packet sent => cmd_of_mem_sent sent
    refine ⟨rfl, rfl, ?_, False.elim, fun _ => ⟨rfl, ?_⟩⟩
    · rw [Handled.onward, List.filter_append, all, filter_cmd_eq_nil syn (by decide),
        List.append_nil]
    · rw [Handled.answers, List.filter_append, noAnswer, filter_cmd_eq_nil syn (by decide)]
      rfl

theorem conclude_does {asked : Bool} {last : SendResult} (carries : last.msg.Carries data)
    (command : ∀ packet ∈ last.sent.toList, packet.2.head.cmd = .dataTransformReq) :
    Does node link data [] last.sent.toList (last.res.failed = true ∨ asked = true)
      (conclude node link asked last) := by
  have all := filter_cmd_eq_self command
  have noAnswer :
      last.sent.toList.filter (fun packet => packet.2.head.cmd = .dataTransformRsp) = [] :=
    filter_cmd_eq_nil command (by decide)
  rw [conclude]
  by_cases answered : last.res.failed = true ∨ asked = true
  · have answer : Does node link data [] [] True (sendTransferRsp node link last.msg last.res) :=
      sendTransferRsp_does carries
    obtain ⟨rsp, responds, responses, answers⟩ := answer.answers trivial
    have onward := answer.onward
    have failures := answer.failures
    have deliveries := answer.deliveries
    rw [if_pos (by simpa using answered)]
    refine ⟨?_, ?_, ?_, fun _ => ⟨rsp, responds, ?_, ?_⟩, fun quiet => absurd answered quiet⟩
    · rw [Handled.failures] at failures ⊢
      rw [List.filterMap_append, failures]
      split
      · rfl
      · rfl
    · rw [Handled.deliveries] at deliveries ⊢
      rw [List.filterMap_append, deliveries]
      split
      · rfl
      · rfl
    · rw [Handled.onward] at onward ⊢
      rw [List.filter_append, all, onward, List.append_nil]
    · rw [Handled.responses] at responses ⊢
      rw [List.filterMap_append, responses]
      split
      · rfl
      · rfl
    · rw [Handled.answers] at answers ⊢
      rw [List.filter_append, noAnswer, answers, List.nil_append]
  · rw [if_neg (by simpa using answered)]
    exact ⟨rfl, rfl, all, fun answer => absurd answer answered, fun _ => ⟨rfl, noAnswer⟩⟩

/-- A domain has no siblings in it. -/
theorem isChildNode_of_isBrotherNode (brother : node.isBrotherNode tid = true) :
    node.isChildNode tid = false := by
  have outside : ∀ fatherMask, node.self.isBrotherNode tid fatherMask = true →
      node.self.isChildNode tid = false := by
    intro fatherMask sibling
    rw [Endpoint.isBrotherNode, Bool.and_eq_true, bne_iff_ne] at sibling
    rw [Endpoint.isChildNode, beq_eq_false_iff_ne]
    exact sibling.1
  rw [BusNode.isBrotherNode] at brother
  split at brother
  · exact outside _ brother
  · exact outside _ brother

/-- A relay answers what it cannot send on, and what asks for it and leaves its domain. -/
theorem relay_does (apart : ∀ father, node.father = some father → father.id ≠ node.id)
    (other : data.toId ≠ node.id) (carries : m.Carries data) :
    Does node links.ctrl data []
      (resend node links.data data.toId (sendMsg node links.data data.toId m)).sent.toList
      (¬node.SendsOn links.data m data.toId ∨
        node.isChildNode data.toId = false ∧ data.checkFlag flagRequireRsp = true)
      (relay node links sequence m data) := by
  have command : ∀ packet ∈ (sendMsg node links.data data.toId m).sent.toList,
      packet.2.head.cmd = .dataTransformReq :=
    fun packet sent => (cmd_of_mem_sent sent).trans carries.1
  have concluded : Does node links.ctrl data [] _ _
      (conclude node links.ctrl (data.checkFlag flagRequireRsp)
      (resend node links.data data.toId (sendMsg node links.data data.toId m))) :=
    conclude_does carries.resend_msg fun packet sent => (carries.mem_resend sent).1
  rw [relay]
  by_cases first : node.SendsFirst links.data m data.toId
  · have sent := sendMsg_of_sendsFirst other first
    have same := resend_of_sendsFirst other first
    have sends : node.SendsOn links.data m data.toId := .inl first
    cases child : node.isChildNode data.toId with
    | true =>
        rw [if_pos (by simp [sent]), same]
        exact (forwardedToChild_does command).congr (by simp [sends])
    | false =>
        rw [if_neg (by simp)]
        exact concluded.congr (by simp [sends, same, sent])
  · have failed := (sendMsg_of_not_sendsFirst other first).1
    rw [if_neg (by simp [failed])]
    by_cases second : node.SendsSecond links.data m data.toId
    · obtain ⟨father, known, brother, -, resent⟩ := resend_of_sendsSecond other first second
      have sends : node.SendsOn links.data m data.toId := .inr second
      exact concluded.congr (by simp [sends, resent, isChildNode_of_isBrotherNode brother])
    · have refused : ¬node.SendsOn links.data m data.toId := not_or.mpr ⟨first, second⟩
      exact concluded.congr (by simp [refused, (resend_of_not_sendsOn other refused apart).2])

/-- The handler of a request sends it on unless it is there or its ttl is used up. -/
theorem onRecvDataTransferReq_does (apart :
    ∀ father, node.father = some father → father.id ≠ node.id)
    (command : m.head.cmd = .dataTransformReq) (forward : m.body.forward = some data) :
    Does node links.ctrl data (if data.toId = node.id then [(m.head.type, data.content)] else [])
      (if data.toId = node.id ∨ ttlSize node.ttl ≤ data.router.length then []
        else (resend node links.data data.toId (sendMsg node links.data data.toId m)).sent.toList)
      (node.Answers links.data m data) (onRecvDataTransferReq node links sequence true m) := by
  have carries : m.Carries data := ⟨command, data.router, forward⟩
  have handled : onRecvDataTransferReq node links sequence true m =
      if data.toId = node.id then deliver node links.ctrl m data
      else if ttlSize node.ttl ≤ data.router.length
        then sendTransferRsp node links.ctrl m .atnodeTtl
      else relay node links sequence m data := by
    rw [onRecvDataTransferReq, forward]
    rfl
  rw [handled, BusNode.Answers]
  by_cases arrived : data.toId = node.id
  · rw [if_pos arrived, if_pos arrived, if_pos arrived, if_pos (.inl arrived)]
    exact deliver_does carries
  · rw [if_neg arrived, if_neg arrived, if_neg arrived]
    by_cases used : ttlSize node.ttl ≤ data.router.length
    · rw [if_pos used, if_pos (.inr used)]
      exact (sendTransferRsp_does carries).congr (by simp [used])
    · rw [if_neg used, if_neg (not_or.mpr ⟨arrived, used⟩)]
      exact (relay_does apart arrived carries).congr (by simp [used])

end LibAtbus.Node
