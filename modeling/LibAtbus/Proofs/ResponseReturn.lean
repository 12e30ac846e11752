/-
Module: LibAtbus.Proofs.ResponseReturn
Layer: Proofs
Purpose: Where the responses to data requests end up. The handler of a response reports it at the
  node that gets it, whatever node it is for, so it is reported at the node the request is from
  exactly when that node is the next hop of the response. In every run in which nodes answer only
  requests of nodes they are connected to, every response is on its way to that node, or was
  reported there and nowhere else.
Trusted boundary: none
Main exports: Network.AtTarget, Returned, AnswersDirectly, responses_returned,
  response_reported_at_relay
-/
import LibAtbus.Foundation.Transitions
import LibAtbus.Node.Transfer
import LibAtbus.Proofs.Forwarding
import LibAtbus.Proofs.TreeRouting
import Mathlib.Algebra.Order.Group.Multiset
import Mathlib.Tactic.Abel

namespace LibAtbus.Node

open Transitions

universe u

variable {ι : Type u} {s s' : System ι} {v : ι} {rest : List (ι × Msg)} {handled : Handled}
  {m : Msg}

/-! ### The ledger of a step -/

theorem Network.filter_packets {net : Network ι} (sent : List (Endpoint × Msg))
    (cmd : ProtocolCmd) : (net.packets sent).filter (fun packet => packet.2.head.cmd = cmd) =
      net.packets (sent.filter fun packet => packet.2.head.cmd = cmd) := by
  rw [packets, packets, List.filter_filterMap, List.filterMap_filter]
  congr 1
  funext packet
  cases net.locate packet.1.id with
  | none => simp
  | some w => by_cases same : packet.2.head.cmd = cmd <;> simp [same, Option.filter]

variable (net : Network ι)

theorem System.after_responding : (s.after net v rest handled).responding =
    rest.filter (fun packet => packet.2.head.cmd = .dataTransformRsp) ++
      net.packets handled.answers := by
  rw [responding, after, List.filter_append, Network.filter_packets, Handled.answers]

theorem System.after_generated : (s.after net v rest handled).generated net =
    s.generated net ++ handled.responses.map fun rsp => rsp.stamp (net.id v) := by
  rw [generated, after, List.filterMap_append, Handled.responses, List.filterMap_map,
    List.map_filterMap, generated]
  congr 2
  funext event
  cases event <;> rfl

theorem System.after_reported : (s.after net v rest handled).reported =
    s.reported ++ handled.failures.map fun m => (v, m) := by
  rw [reported, after, List.filterMap_append, Handled.failures, List.filterMap_map,
    List.map_filterMap, reported]
  congr 2
  funext event
  cases event <;> rfl

/-- The message is at the node it is for. -/
def Network.AtTarget (packet : ι × Msg) : Prop :=
  ∃ data, packet.2.body.forward = some data ∧ data.toId = net.id packet.1

/-- Every response is on its way to the node it is for, or was reported there, and none was lost or
    made twice. -/
structure Returned (s : System ι) : Prop where
  coming : ∀ packet ∈ s.responding, net.AtTarget packet
  reported : ∀ packet ∈ s.reported, net.AtTarget packet
  conserved : (s.generated net).Perm ((s.responding ++ s.reported).map Prod.snd)

variable {net}

/-- A step that reports the responses it takes, and sends the ones it generates to where they are
    for. -/
theorem Returned.after (returned : Returned net s)
    (taken : s.responding.Perm ((handled.failures.map fun m => (v, m)) ++
      rest.filter fun packet => packet.2.head.cmd = .dataTransformRsp))
    (balanced : (handled.responses.map fun rsp => rsp.stamp (net.id v)) =
      (net.packets handled.answers).map Prod.snd)
    (direct : ∀ packet ∈ net.packets handled.answers, net.AtTarget packet) :
    Returned net (s.after net v rest handled) := by
  refine ⟨?_, ?_, ?_⟩
  · rw [System.after_responding]
    intro packet member
    rcases List.mem_append.mp member with old | new
    · exact returned.coming packet (taken.mem_iff.mpr (List.mem_append_right _ old))
    · exact direct packet new
  · rw [System.after_reported]
    intro packet member
    rcases List.mem_append.mp member with old | new
    · exact returned.reported packet old
    · exact returned.coming packet (taken.mem_iff.mpr (List.mem_append_left _ new))
  · rw [System.after_generated, System.after_responding, System.after_reported, balanced]
    have old := returned.conserved.trans ((taken.append_right s.reported).map Prod.snd)
    refine (old.append_right _).trans ?_
    rw [← List.map_append]
    refine List.Perm.map _ ?_
    rw [← Multiset.coe_eq_coe]
    simp only [← Multiset.coe_add]
    abel

/-! ### Steps -/

section

variable {cmd : ProtocolCmd}

/-- Taking a message that is no response leaves the responses in flight. -/
theorem System.responding_of_other (arrives : s.inFlight.Perm ((v, m) :: rest))
    (command : m.head.cmd = cmd) (other : cmd ≠ .dataTransformRsp) :
    s.responding.Perm (rest.filter fun packet => packet.2.head.cmd = .dataTransformRsp) := by
  have left := arrives.filter fun packet => packet.2.head.cmd = .dataTransformRsp
  rwa [List.filter_cons_of_neg (by simpa [command] using other)] at left

/-- Taking a response leaves the others in flight. -/
theorem System.responding_of_response (arrives : s.inFlight.Perm ((v, m) :: rest))
    (command : m.head.cmd = .dataTransformRsp) :
    s.responding.Perm
      ((v, m) :: rest.filter fun packet => packet.2.head.cmd = .dataTransformRsp) := by
  have left := arrives.filter fun packet => packet.2.head.cmd = .dataTransformRsp
  rwa [List.filter_cons_of_pos (by simpa using command)] at left

end

/-- Sending data has nothing to do with responses. -/
theorem sendData_spec (node : BusNode) (links : Links) (sequence : BitVec 32) (tid : BusId)
    (type : Int) (content : List UInt8) (requireRsp : Bool) :
    (sendData node links sequence tid type content requireRsp).responses = [] ∧
      (sendData node links sequence tid type content requireRsp).failures = [] ∧
      (sendData node links sequence tid type content requireRsp).answers = [] := by
  rw [sendData]
  split
  · exact ⟨rfl, rfl, rfl⟩
  · split
    · exact ⟨rfl, rfl, rfl⟩
    · have command : ∀ packet ∈ (sendMsg node links.data tid
          (dataRequest node.id tid type content requireRsp sequence)).sent.toList,
          packet.2.head.cmd = .dataTransformReq := fun packet sent => cmd_of_mem_sent sent
      exact ⟨rfl, rfl, filter_cmd_eq_nil command (by decide)⟩

/-- The condition on a step: a node that answers a request knows the node the request is from
    itself, as its parent, a sibling or a child, and the control connection to it takes the
    response. -/
def AnswersDirectly (net : TreeNetwork ι) (t : Transition (System ι) (Transfer ι)) : Prop :=
  match t.label with
  | .request v links sequence m =>
      ∀ data, m.body.forward = some data → (net.node v).Answers links.data m data →
        ∃ e, (net.node v).getEndpoint data.fromId = some e ∧
          ∀ rsp ∈ (onRecvDataTransferReq (net.node v) links sequence true m).responses,
            links.ctrl.Accepts e (rsp.stamp (net.id v))
  | .send .. => True
  | .response .. => True

/-- The response of a node that knows the originator goes straight there. -/
theorem packets_of_direct {net : TreeNetwork ι} {ctrl : Link} {rsp : Msg} {data : ForwardData}
    (responds : rsp.Responds data)
    (direct : ∃ e, (net.node v).getEndpoint data.fromId = some e ∧
      ctrl.Accepts e (rsp.stamp (net.id v))) :
    ∃ w, net.packets (sendMsg (net.node v) ctrl data.fromId rsp).sent.toList =
        [(w, rsp.stamp (net.id v))] ∧ net.AtTarget (w, rsp.stamp (net.id v)) := by
  obtain ⟨e, found, accepts⟩ := direct
  obtain ⟨command, forward, body, back⟩ := responds
  obtain ⟨picked, same⟩ := BusNode.target_of_getEndpoint found
  obtain ⟨w, stands, other⟩ := TreeNetwork.exists_represented (BusNode.mem_of_getEndpoint found)
  have otherId : data.fromId ≠ net.id v := by
    rw [← same, stands.1]
    exact fun sameId => other (Network.id_injective sameId)
  refine ⟨w, ?_, ?_⟩
  · rw [sendMsg_of_accepts otherId picked accepts]
    simp [Network.packets, Network.locate_of_represents stands]
  · refine ⟨_, by simp [Msg.stamp, body]; rfl, ?_⟩
    exact back.trans (same.symm.trans stands.1)

theorem returned_step (net : TreeNetwork ι) (t : Transition (System ι) (Transfer ι))
    (returned : Returned net.toNetwork t.pre)
    (taken : System.Step net.toNetwork t.pre t.label t.post) (direct : AnswersDirectly net t) :
    Returned net.toNetwork t.post := by
  obtain ⟨s, label, s'⟩ := t
  dsimp only at returned taken ⊢
  cases taken with
  | send v links sequence tid type content requireRsp =>
      obtain ⟨responses, failures, answers⟩ :=
        sendData_spec (net.node v) links sequence tid type content requireRsp
      refine returned.after ?_ ?_ ?_
      · rw [failures]
        exact .refl _
      · rw [responses, answers]
        rfl
      · rw [answers]
        exact fun packet member => absurd member List.not_mem_nil
  | @request v m rest links sequence arrives command =>
      have taken := System.responding_of_other arrives command (by decide)
      cases forward : m.body.forward with
      | none =>
          have nothing : onRecvDataTransferReq (net.node v) links sequence true m =
              { res := .badData, events := [.error ErrorType.badData.code] } := by
            rw [onRecvDataTransferReq, forward]
            rfl
          rw [nothing]
          exact returned.after taken rfl fun packet member => absurd member List.not_mem_nil
      | some data =>
          have does : Does (net.node v) links.ctrl data _ _ _
              (onRecvDataTransferReq (net.node v) links sequence true m) :=
            onRecvDataTransferReq_does TreeNetwork.father_apart command forward
          by_cases answers : (net.node v).Answers links.data m data
          · obtain ⟨rsp, responds, responses, sent⟩ := does.answers answers
            obtain ⟨e, known, accepts⟩ := direct data forward answers
            obtain ⟨w, packets, target⟩ :=
              packets_of_direct responds ⟨e, known, accepts rsp (by simp [responses])⟩
            refine returned.after ?_ ?_ ?_
            · rw [does.failures]
              exact taken
            · rw [responses, sent, packets]
              rfl
            · rw [sent, packets]
              intro packet member
              rw [List.mem_singleton.mp member]
              exact target
          · obtain ⟨responses, sent⟩ := does.quiet answers
            refine returned.after ?_ ?_ ?_
            · rw [does.failures]
              exact taken
            · rw [responses, sent]
              rfl
            · rw [sent]
              exact fun packet member => absurd member List.not_mem_nil
  | @response v m rest arrives command =>
      have taken := System.responding_of_response arrives command
      obtain ⟨data, forward, -⟩ := returned.coming (v, m) (taken.mem_iff.mpr List.mem_cons_self)
      have handled : onRecvDataTransferRsp true m =
          { res := .success, events := [.error m.head.ret, .sendDataFailed m] } := by
        rw [onRecvDataTransferRsp, forward]
        rfl
      rw [handled]
      exact returned.after taken rfl fun packet member => absurd member List.not_mem_nil

/-- In every run in which nodes answer only requests of nodes they are connected to, every response
    that was generated is on its way to the node it is for, or was reported there, once, and nowhere
    else. -/
theorem responses_returned (net : TreeNetwork ι) {made : List (Transition (System ι) (Transfer ι))}
    {s : System ι} (run : Run (System.Step net.toNetwork) {} made s)
    (direct : ∀ t ∈ made, AnswersDirectly net t) : Returned net.toNetwork s := by
  have initial : Returned net.toNetwork {} :=
    ⟨fun packet member => absurd member List.not_mem_nil,
      fun packet member => absurd member List.not_mem_nil, .refl _⟩
  exact run.invariant initial (returned_step net) direct

/-! ### Runs in the small tree -/

/-- A request that asks for a response, from a node to its parent, and that response. -/
def requestToParent : Msg := (dataRequest 0x10110#64 0x10100#64 7 [1] true 1).stamp 0x10110#64

def responseOfParent : Msg :=
  (transferRsp requestToParent
    { fromId := 0x10110#64, toId := 0x10100#64, router := [0x10110#64], content := [1], flags := 1 }
    0x10100#64 .success).stamp 0x10100#64

/-- The parent answers its child, where the response is reported. -/
theorem responses_returned_to_child :
    ∃ made s, Run (System.Step (TreeNetwork.sample 16).toNetwork) {} made s ∧
      s.reported = [(3, responseOfParent)] ∧ Returned (TreeNetwork.sample 16).toNetwork s := by
  have run : Run (System.Step (TreeNetwork.sample 16).toNetwork) {} _ _ := .tail (.tail (.tail .refl
    (.send 3 openLinks 1 0x10100#64 7 [1] true))
    (.request (v := 1) (m := requestToParent) openLinks 2 (.of_eq rfl) rfl))
    (.response (v := 3) (m := responseOfParent) (.of_eq rfl) rfl)
  refine ⟨_, _, run, by decide +kernel, responses_returned _ run ?_⟩
  intro t member
  simp only [List.nil_append, List.mem_append, List.mem_singleton] at member
  rcases member with (rfl | rfl) | rfl
  · trivial
  · intro data forward answers
    cases forward
    exact ⟨TreeNetwork.Sample.endpoint 3, by decide, fun rsp _ => ⟨_, rfl, rfl⟩⟩
  · trivial

/-- A request that asks for a response, from a node to its sibling, and that response. -/
def requestToSibling : Msg := (dataRequest 0x10100#64 0x10200#64 7 [1] true 1).stamp 0x10100#64

def responseOfSibling : Msg :=
  (transferRsp (requestToSibling.stamp 0x10000#64)
    { fromId := 0x10100#64, toId := 0x10200#64, router := [0x10100#64, 0x10000#64], content := [1],
      flags := 1 }
    0x10200#64 .success).stamp 0x10200#64

/-- The response of a sibling is reported at the parent, which it crosses on its way. -/
theorem response_reported_at_relay :
    ∃ made s, Run (System.Step (TreeNetwork.sample 16).toNetwork) {} made s ∧ s.inFlight = [] ∧
      s.reported = [(0, responseOfSibling)] ∧
      ¬(TreeNetwork.sample 16).AtTarget (0, responseOfSibling) := by
  refine ⟨_, _, .tail (.tail (.tail (.tail .refl
    (.send 1 openLinks 1 0x10200#64 7 [1] true))
    (.request (v := 0) (m := requestToSibling) openLinks 2 (.of_eq rfl) rfl))
    (.request (v := 2) (m := requestToSibling.stamp 0x10000#64) openLinks 3 (.of_eq rfl) rfl))
    (.response (v := 0) (m := responseOfSibling) (.of_eq rfl) rfl), ?_, ?_, ?_⟩
  · decide +kernel
  · decide +kernel
  · rintro ⟨data, forward, target⟩
    cases forward
    exact absurd target (by decide)

end LibAtbus.Node
