/-
Module: LibAtbus.Proofs.ConnectionBinding
Layer: Proofs
Purpose: A connection is bound to an endpoint exactly when the endpoint has it, once. A reset goes
  from a connection to its endpoint and from there to the other connections of the endpoint, where
  the flag of the endpoint cuts it: what each of the three calls leaves is said once, from the
  inside out.
Trusted boundary: none
Main exports: EndpointConns.all, Bindings.Bound, Bindings.Quiet, Bindings.resetEndpoint_eq,
  Bindings.removeConnection_spec, Bindings.resetConnection_spec, Bindings.call_spec, bindings_bound
-/
import LibAtbus.Foundation.Transitions
import LibAtbus.Node.Binding
import Mathlib.Data.List.Nodup

namespace LibAtbus.Node

open Transitions

universe u v

/-- All connections of an endpoint. -/
def EndpointConns.all {κ : Type v} (endpoint : EndpointConns κ) : List κ :=
  endpoint.ctrl.toList ++ endpoint.data

/-- The state `disconnect` leaves. -/
def ConnState.down : ConnState → ConnState
  | .disconnecting => .disconnecting
  | _ => .disconnected

namespace Bindings

variable {ε : Type u} {κ : Type v} {w w' : Bindings ε κ} {c d : κ} {e f : ε} {depth : Nat}

section

variable [DecidableEq κ]

@[simp] theorem setConn_conns_self (change : Connection ε → Connection ε) :
    (w.setConn c change).conns c = change (w.conns c) := Function.update_self ..

theorem setConn_conns_of_ne (change : Connection ε → Connection ε) (other : d ≠ c) :
    (w.setConn c change).conns d = w.conns d := Function.update_of_ne other ..

@[simp] theorem setConn_endpoints (change : Connection ε → Connection ε) :
    (w.setConn c change).endpoints = w.endpoints := rfl

@[simp] theorem setConn_setConn (first second : Connection ε → Connection ε) :
    (w.setConn c first).setConn c second = w.setConn c fun conn => second (first conn) := by
  simp [setConn]

/-- What `disconnect` changes. -/
theorem disconnect_eq : (w.disconnect c).2 = w.setConn c fun conn => { conn with
    state := conn.state.down } := by
  have same : ∀ conn : Connection ε, conn.state.down = conn.state → { conn with
      state := conn.state.down } = conn := by
    intro conn unchanged
    rw [unchanged]
  rw [disconnect]
  split
  · rename_i state
    rw [setConn, same _ (by rw [state]; rfl), Function.update_eq_self]
  · split
    · rename_i state
      rw [setConn, same _ (by rw [state]; rfl), Function.update_eq_self]
    · simp only [setConn]
      cases state : (w.conns c).state <;> simp_all [ConnState.down]

end

section

variable [DecidableEq ε]

@[simp] theorem setEndpoint_endpoints_self (change : EndpointConns κ → EndpointConns κ) :
    (w.setEndpoint e change).endpoints e = change (w.endpoints e) := Function.update_self ..

theorem setEndpoint_endpoints_of_ne (change : EndpointConns κ → EndpointConns κ) (other : f ≠ e) :
    (w.setEndpoint e change).endpoints f = w.endpoints f := Function.update_of_ne other ..

@[simp] theorem setEndpoint_conns (change : EndpointConns κ → EndpointConns κ) :
    (w.setEndpoint e change).conns = w.conns := rfl

end

variable [DecidableEq ε] [DecidableEq κ]

/-- A connection after its reset. -/
def released (conn : Connection ε) : Connection ε :=
  { state := conn.state.down
    binding := none
    resetting := false }

/-- Inside the reset of its endpoint a connection only loses its binding. -/
theorem resetConnection_of_resetting (idle : (w.conns c).resetting = false)
    (bound : (w.conns c).binding = some e) (resetting : (w.endpoints e).resetting = true) :
    w.resetConnection (depth + 2) c = .ok (w.setConn c released) := by
  simp [resetConnection, removeConnection, disconnect_eq, idle, bound, resetting]
  rfl

/-- Many connections after their reset. -/
def release (w : Bindings ε κ) (conns : List κ) : Bindings ε κ :=
  { w with conns := fun c => if c ∈ conns then released (w.conns c) else w.conns c }

/-- The loop of `endpoint::reset` over its data connections. -/
theorem foldlM_resetConnection {conns : List κ} (apart : conns.Nodup)
    (bound : ∀ c ∈ conns, (w.conns c).binding = some e ∧ (w.conns c).resetting = false)
    (resetting : (w.endpoints e).resetting = true) :
    conns.foldlM (fun w c => resetConnection (depth + 2) w c) w = .ok (w.release conns) := by
  induction conns generalizing w with
  | nil => simp [release, pure, Except.pure]
  | cons c later ih =>
      obtain ⟨notLater, apart⟩ := List.nodup_cons.mp apart
      obtain ⟨own, idle⟩ := bound c List.mem_cons_self
      have rest : ∀ d ∈ later, ((w.setConn c released).conns d).binding = some e ∧
          ((w.setConn c released).conns d).resetting = false := by
        intro d member
        have other : d ≠ c := fun same => notLater (same ▸ member)
        rw [setConn_conns_of_ne _ other]
        exact bound d (List.mem_cons_of_mem _ member)
      rw [List.foldlM_cons, resetConnection_of_resetting idle own resetting]
      change later.foldlM (fun w c => resetConnection (depth + 2) w c) (w.setConn c released) = _
      rw [ih apart rest resetting]
      simp only [release, setConn, Except.ok.injEq, Bindings.mk.injEq, and_true]
      funext d
      by_cases same : d = c
      · subst same
        simp [notLater]
      · simp [same]

/-! ### The invariant -/

/-- A connection is bound to the endpoint that has it, which has it once. -/
structure Bound (w : Bindings ε κ) : Prop where
  binding : ∀ c e, (w.conns c).binding = some e ↔ c ∈ (w.endpoints e).all
  once : ∀ e, (w.endpoints e).all.Nodup

/-- No reset is going on. -/
structure Quiet (w : Bindings ε κ) : Prop where
  conns : ∀ c, (w.conns c).resetting = false
  endpoints : ∀ e, (w.endpoints e).resetting = false

/-- What holds between calls. -/
structure Settled (w : Bindings ε κ) : Prop where
  bound : w.Bound
  quiet : w.Quiet

/-- No reset began that is still going on. -/
structure Calms (w w' : Bindings ε κ) : Prop where
  conns : ∀ c, (w.conns c).resetting = false → (w'.conns c).resetting = false
  endpoints : ∀ e, (w.endpoints e).resetting = false → (w'.endpoints e).resetting = false

/-- What `endpoint::reset` leaves. -/
def unbound (w : Bindings ε κ) (e : ε) : Bindings ε κ where
  conns c :=
    if (w.endpoints e).ctrl = some c then { w.conns c with binding := none }
    else if c ∈ (w.endpoints e).data then released (w.conns c)
    else w.conns c
  endpoints := Function.update w.endpoints e {}

namespace Bound

omit [DecidableEq ε] [DecidableEq κ] in
theorem mem_data (bound : w.Bound) (member : c ∈ (w.endpoints e).data) :
    (w.conns c).binding = some e ∧ (w.endpoints e).ctrl ≠ some c := by
  refine ⟨(bound.binding c e).mpr (List.mem_append_right _ member), fun ctrl => ?_⟩
  have once := bound.once e
  rw [EndpointConns.all, ctrl] at once
  exact (List.nodup_cons.mp once).1 member

omit [DecidableEq ε] [DecidableEq κ] in
theorem data_nodup (bound : w.Bound) : (w.endpoints e).data.Nodup :=
  (List.nodup_append.mp (bound.once e)).2.1

/-- The reset of an endpoint takes its connections from it and from no other. -/
theorem unbound (bound : w.Bound) (e : ε) : (w.unbound e).Bound where
  binding c f := by
    have mine := bound.binding c e
    simp only [EndpointConns.all, List.mem_append, Option.mem_toList] at mine
    simp only [Bindings.unbound]
    by_cases same : f = e
    · subst same
      rw [Function.update_self]
      split
      · simp [EndpointConns.all]
      · split
        · simp [EndpointConns.all, released]
        · rename_i notCtrl notData
          rw [mine]
          simp [EndpointConns.all, notCtrl, notData]
    · rw [Function.update_of_ne same, ← bound.binding c f]
      split
      · rename_i ctrl
        rw [mine.mpr (.inl ctrl)]
        simp [Ne.symm same]
      · split
        · rename_i data
          rw [mine.mpr (.inr data)]
          simp [released, Ne.symm same]
        · rfl
  once f := by
    simp only [Bindings.unbound]
    by_cases same : f = e
    · rw [same, Function.update_self]
      exact List.nodup_nil
    · rw [Function.update_of_ne same]
      exact bound.once f

end Bound

/-- What `endpoint::reset` has done when it comes to the data connections. -/
def uncontrolled (w : Bindings ε κ) (e : ε) : Bindings ε κ where
  conns c := if (w.endpoints e).ctrl = some c then { w.conns c with binding := none } else w.conns c
  endpoints := Function.update w.endpoints e { w.endpoints e with ctrl := none, resetting := true }

theorem resetEndpoint_succ (idle : (w.endpoints e).resetting = false) :
    w.resetEndpoint (depth + 1) e =
      ((w.endpoints e).data.foldlM (fun w c => resetConnection depth w c) (w.uncontrolled e)).map
        fun after => after.setEndpoint e fun endpoint => { endpoint with
          data := [], resetting := false } := by
  have start : (w.setEndpoint e fun endpoint => { endpoint with resetting := true }).releaseCtrl e =
      w.uncontrolled e := by
    rw [releaseCtrl, setEndpoint_endpoints_self]
    split
    · rename_i known
      dsimp only at known
      simp [uncontrolled, setEndpoint, known]
    · rename_i c known
      dsimp only at known
      simp only [uncontrolled, setEndpoint, setConn, known, Option.some.injEq, Function.update_idem,
        Function.update_self, Bindings.mk.injEq, and_true]
      funext d
      by_cases same : d = c
      · subst same
        simp
      · simp [same, Ne.symm same]
  rw [resetEndpoint, if_neg (by rw [idle]; exact Bool.false_ne_true)]
  simp only [start]
  simp [uncontrolled]

/-- `endpoint::reset`, while the endpoint and its data connections are not being reset. -/
theorem resetEndpoint_eq (bound : w.Bound) (idle : (w.endpoints e).resetting = false)
    (idleData : ∀ c ∈ (w.endpoints e).data, (w.conns c).resetting = false) :
    w.resetEndpoint (depth + 3) e = .ok (w.unbound e) := by
  have conns : ∀ c ∈ (w.endpoints e).data, ((w.uncontrolled e).conns c).binding = some e ∧
      ((w.uncontrolled e).conns c).resetting = false := by
    intro c member
    obtain ⟨own, notCtrl⟩ := bound.mem_data member
    simp only [uncontrolled, if_neg notCtrl]
    exact ⟨own, idleData c member⟩
  have resetting : ((w.uncontrolled e).endpoints e).resetting = true := by simp [uncontrolled]
  rw [resetEndpoint_succ idle, foldlM_resetConnection bound.data_nodup conns resetting]
  simp only [Except.map, unbound, release, setEndpoint, uncontrolled, Except.ok.injEq,
    Bindings.mk.injEq, Function.update_idem, Function.update_self, and_true]
  funext c
  by_cases ctrl : (w.endpoints e).ctrl = some c
  · have notData : c ∉ (w.endpoints e).data := fun member => (bound.mem_data member).2 ctrl
    simp [ctrl, notData]
  · simp [ctrl]

theorem calms_unbound (w : Bindings ε κ) (e : ε) : w.Calms (w.unbound e) where
  conns c idle := by
    simp only [unbound]
    split
    · exact idle
    · split
      · rfl
      · exact idle
  endpoints f idle := by
    simp only [unbound]
    by_cases same : f = e
    · rw [same, Function.update_self]
    · rw [Function.update_of_ne same]
      exact idle

theorem calms_eraseData (w : Bindings ε κ) (e : ε) (c : κ) : w.Calms (w.eraseData e c) where
  conns d idle := by
    simp only [eraseData, setEndpoint_conns]
    by_cases same : d = c
    · rw [same] at idle ⊢
      rw [setConn_conns_self]
      exact idle
    · rw [setConn_conns_of_ne _ same]
      exact idle
  endpoints f idle := by
    simp only [eraseData]
    by_cases same : f = e
    · rw [same] at idle ⊢
      rw [setEndpoint_endpoints_self]
      exact idle
    · rw [setEndpoint_endpoints_of_ne _ same]
      exact idle

theorem Bound.eraseData (bound : w.Bound) (member : c ∈ (w.endpoints e).data) :
    (w.eraseData e c).Bound where
  binding d f := by
    obtain ⟨own, notCtrl⟩ := bound.mem_data member
    simp only [Bindings.eraseData, setEndpoint_conns]
    by_cases sameEndpoint : f = e
    · subst sameEndpoint
      rw [setEndpoint_endpoints_self]
      have mine := bound.binding d f
      simp only [EndpointConns.all, List.mem_append, Option.mem_toList] at mine ⊢
      rw [setConn_endpoints, bound.data_nodup.mem_erase_iff]
      by_cases same : d = c
      · subst same
        simp [notCtrl]
      · rw [setConn_conns_of_ne _ same, mine]
        simp [same]
    · rw [setEndpoint_endpoints_of_ne _ sameEndpoint, setConn_endpoints]
      by_cases same : d = c
      · subst same
        rw [setConn_conns_self, ← bound.binding d f, own]
        simp [Ne.symm sameEndpoint]
      · rw [setConn_conns_of_ne _ same]
        exact bound.binding d f
  once f := by
    simp only [Bindings.eraseData]
    by_cases sameEndpoint : f = e
    · subst sameEndpoint
      rw [setEndpoint_endpoints_self]
      exact (bound.once f).sublist ((List.erase_sublist).append_left _)
    · rw [setEndpoint_endpoints_of_ne _ sameEndpoint]
      exact bound.once f

omit [DecidableEq ε] in
/-- Only its binding makes a connection one of an endpoint. -/
theorem Bound.setConn (bound : w.Bound) {change : Connection ε → Connection ε}
    (same : (change (w.conns c)).binding = (w.conns c).binding) : (w.setConn c change).Bound where
  binding d f := by
    rw [setConn_endpoints, ← bound.binding d f]
    by_cases own : d = c
    · rw [own, setConn_conns_self, same]
    · rw [setConn_conns_of_ne _ own]
  once := bound.once

/-- `endpoint::remove_connection` of a connection that is bound to the endpoint, outside the reset
    of the endpoint and of its other data connections. -/
theorem removeConnection_spec (depth : Nat) (bound : w.Bound) (own : (w.conns c).binding = some e)
    (idle : (w.endpoints e).resetting = false)
    (idleData : ∀ d ∈ (w.endpoints e).data, d ≠ c → (w.conns d).resetting = false) :
    ∃ w', w.removeConnection (depth + 4) e (some c) = .ok (true, w') ∧ w'.Bound ∧ w.Calms w' ∧
      (w'.conns c).binding = none := by
  have member := (bound.binding c e).mp own
  simp only [EndpointConns.all, List.mem_append, Option.mem_toList] at member
  rw [removeConnection, if_neg (not_not.mpr own), if_neg (by rw [idle]; exact Bool.false_ne_true)]
  by_cases ctrl : (w.endpoints e).ctrl = some c
  · have data : ∀ d ∈ (w.endpoints e).data, (w.conns d).resetting = false := by
      intro d inData
      refine idleData d inData fun same => (bound.mem_data inData).2 ?_
      rw [same]
      exact ctrl
    rw [if_pos ctrl, resetEndpoint_eq bound idle data]
    exact ⟨_, rfl, bound.unbound e, calms_unbound w e, by simp [unbound, ctrl]⟩
  · have inData := member.resolve_left ctrl
    rw [if_neg ctrl, if_pos inData]
    have unboundConn : ((w.eraseData e c).conns c).binding = none := by simp [eraseData]
    split
    · rename_i none
      have idle' := (calms_eraseData w e c).endpoints e idle
      have data : ∀ d ∈ ((w.eraseData e c).endpoints e).data,
          ((w.eraseData e c).conns d).resetting = false := by
        rw [List.isEmpty_iff.mp none]
        exact fun _ member => absurd member List.not_mem_nil
      have calms := calms_unbound (w.eraseData e c) e
      rw [resetEndpoint_eq (bound.eraseData inData) idle' data]
      refine ⟨_, rfl, (bound.eraseData inData).unbound e, ⟨fun d still => ?_, fun f still => ?_⟩,
        ?_⟩
      · exact calms.conns d ((calms_eraseData w e c).conns d still)
      · exact calms.endpoints f ((calms_eraseData w e c).endpoints f still)
      · simp only [unbound]
        split
        · rfl
        · split
          · rfl
          · exact unboundConn
    · exact ⟨_, rfl, bound.eraseData inData, calms_eraseData w e c, unboundConn⟩

/-- `connection::reset` does all it is meant to: no assertion fails, and the depth suffices. -/
theorem resetConnection_spec (bound : w.Bound) (quiet : w.Quiet) :
    ∃ w', w.resetConnection (depth + 5) c = .ok w' ∧ w'.Settled := by
  let closing := w.setConn c fun conn => { conn with state := conn.state.down, resetting := true }
  have bound' : closing.Bound := bound.setConn rfl
  have others : ∀ d, d ≠ c → (closing.conns d).resetting = false := by
    intro d other
    rw [setConn_conns_of_ne _ other]
    exact quiet.conns d
  -- once the flag of the connection is cleared all is quiet again
  have done : ∀ w' : Bindings ε κ, w'.Bound → closing.Calms w' →
      (w'.setConn c fun conn => { conn with resetting := false }).Settled := by
    intro w' holds calms
    refine ⟨holds.setConn rfl, fun d => ?_, fun f => calms.endpoints f (quiet.endpoints f)⟩
    by_cases same : d = c
    · rw [same, setConn_conns_self]
    · rw [setConn_conns_of_ne _ same]
      exact calms.conns d (others d same)
  have start : ((w.setConn c fun conn => { conn with resetting := true }).disconnect c).2 =
      closing := by
    rw [disconnect_eq, setConn_setConn]
  rw [resetConnection, if_neg (by rw [quiet.conns c]; exact Bool.false_ne_true)]
  simp only [start]
  split
  · exact ⟨_, rfl, done closing bound' ⟨fun _ => id, fun _ => id⟩⟩
  · rename_i e own
    obtain ⟨w', removed, holds, calms, gone⟩ := removeConnection_spec depth bound' own
      (quiet.endpoints e) fun d _ other => others d other
    rw [removed]
    simp only [gone]
    exact ⟨_, rfl, done w' holds calms⟩

/-- A connection that is not bound gets an endpoint, which gets it as well. -/
theorem Bound.bind (bound : w.Bound) (free : (w.conns c).binding = none)
    {grow : EndpointConns κ → EndpointConns κ}
    (grown : (grow (w.endpoints e)).all.Perm (c :: (w.endpoints e).all))
    {change : Connection ε → Connection ε} (takes : (change (w.conns c)).binding = some e) :
    ((w.setEndpoint e grow).setConn c change).Bound := by
  have nowhere : ∀ f, c ∉ (w.endpoints f).all := by
    intro f member
    rw [(bound.binding c f).mpr member] at free
    cases free
  refine ⟨fun d f => ?_, fun f => ?_⟩
  · rw [setConn_endpoints]
    by_cases same : d = c
    · subst same
      rw [setConn_conns_self, setEndpoint_conns, takes, Option.some.injEq]
      by_cases sameEndpoint : f = e
      · subst sameEndpoint
        rw [setEndpoint_endpoints_self, grown.mem_iff]
        simp
      · rw [setEndpoint_endpoints_of_ne _ sameEndpoint]
        exact iff_of_false (Ne.symm sameEndpoint) (nowhere f)
    · rw [setConn_conns_of_ne _ same, setEndpoint_conns, bound.binding d f]
      by_cases sameEndpoint : f = e
      · subst sameEndpoint
        rw [setEndpoint_endpoints_self, grown.mem_iff]
        simp [same]
      · rw [setEndpoint_endpoints_of_ne _ sameEndpoint]
  · rw [setConn_endpoints]
    by_cases sameEndpoint : f = e
    · subst sameEndpoint
      rw [setEndpoint_endpoints_self, grown.nodup_iff]
      exact List.nodup_cons.mpr ⟨nowhere f, bound.once f⟩
    · rw [setEndpoint_endpoints_of_ne _ sameEndpoint]
      exact bound.once f

omit [DecidableEq ε] in
theorem Quiet.setConn (quiet : w.Quiet) {change : Connection ε → Connection ε}
    (same : (change (w.conns c)).resetting = (w.conns c).resetting) :
    (w.setConn c change).Quiet where
  conns d := by
    by_cases own : d = c
    · rw [own, setConn_conns_self, same]
      exact quiet.conns c
    · rw [setConn_conns_of_ne _ own]
      exact quiet.conns d
  endpoints := quiet.endpoints

omit [DecidableEq κ] in
theorem Quiet.setEndpoint (quiet : w.Quiet) {change : EndpointConns κ → EndpointConns κ}
    (same : (change (w.endpoints e)).resetting = (w.endpoints e).resetting) :
    (w.setEndpoint e change).Quiet where
  conns := quiet.conns
  endpoints f := by
    by_cases own : f = e
    · rw [own, setEndpoint_endpoints_self, same]
      exact quiet.endpoints e
    · rw [setEndpoint_endpoints_of_ne _ own]
      exact quiet.endpoints f

/-- `endpoint::add_connection` binds only a connection that is not bound. -/
theorem addConnection_spec (bound : w.Bound) (quiet : w.Quiet) (e : ε) (conn : Option κ)
    (forceData : Bool) : (w.addConnection e conn forceData).2.Settled := by
  cases conn with
  | none => exact ⟨bound, quiet⟩
  | some c =>
      simp only [addConnection, quiet.endpoints e, Bool.false_eq_true, if_false]
      split
      · exact ⟨bound, quiet⟩
      · split
        · exact ⟨bound, quiet⟩
        · rename_i free
          rw [Option.not_isSome_iff_eq_none] at free
          split
          · have grown :
                ({ w.endpoints e with data := (w.endpoints e).data ++ [c] } :
                     EndpointConns κ).all.Perm
                (c :: (w.endpoints e).all) := by
              rw [EndpointConns.all, ← List.append_assoc]
              exact List.perm_append_singleton c _
            have quiet' : (w.setEndpoint e fun endpoint =>
                { endpoint with data := endpoint.data ++ [c] }).Quiet := quiet.setEndpoint rfl
            dsimp only
            exact ⟨bound.bind free grown rfl, quiet'.setConn rfl⟩
          · rename_i first
            have noCtrl : (w.endpoints e).ctrl = none := by simp_all
            have grown : ({ w.endpoints e with ctrl := some c } : EndpointConns κ).all.Perm
                (c :: (w.endpoints e).all) := by
              rw [EndpointConns.all, EndpointConns.all, noCtrl]
              rfl
            have quiet' :
                (w.setEndpoint e fun endpoint => { endpoint with ctrl := some c }).Quiet :=
              quiet.setEndpoint rfl
            dsimp only
            exact ⟨bound.bind free grown rfl, quiet'.setConn rfl⟩

/-- The calls the assertion of `remove_connection` allows. -/
def Allows (w : Bindings ε κ) : BindingCall ε κ → Prop
  | .removeConnection e (some c) => (w.conns c).binding = some e
  | _ => True

omit [DecidableEq ε] [DecidableEq κ] in
theorem Initial.settled (start : w.Initial) : w.Settled where
  bound :=
    { binding := fun c e => by
        rw [(start.conns c).1, start.endpoints e]
        simp [EndpointConns.all]
      once := fun e => by
        rw [start.endpoints e]
        exact List.nodup_nil }
  quiet := ⟨fun c => (start.conns c).2, fun e => by rw [start.endpoints e]⟩

/-- Every call the assertion of `remove_connection` allows ends without a fault and keeps the
    invariant. -/
theorem call_spec (settled : w.Settled) {call : BindingCall ε κ} (allowed : w.Allows call) :
    ∃ w', w.call call = .ok w' ∧ w'.Settled := by
  have reset : ∀ {w : Bindings ε κ} {c : κ}, w.Bound → w.Quiet →
      ∃ w', w.resetConnection (0 + 5) c = .ok w' ∧ w'.Settled := resetConnection_spec
  obtain ⟨bound, quiet⟩ := settled
  cases call with
  | addConnection e conn forceData =>
      exact ⟨_, rfl, addConnection_spec bound quiet e conn forceData⟩
  | removeConnection e conn =>
      cases conn with
      | none => exact ⟨w, rfl, ⟨bound, quiet⟩⟩
      | some c =>
          have removes : ∃ w', w.removeConnection (1 + 4) e (some c) = .ok (true, w') ∧ w'.Bound ∧
              w.Calms w' ∧ (w'.conns c).binding = none :=
            removeConnection_spec _ bound allowed (quiet.endpoints e) fun d _ _ => quiet.conns d
          obtain ⟨w', removed, holds, calms, -⟩ := removes
          have quiet' : w'.Quiet :=
            ⟨fun d => calms.conns d (quiet.conns d), fun f => calms.endpoints f (quiet.endpoints f)⟩
          refine ⟨w', ?_, ⟨holds, quiet'⟩⟩
          change (w.removeConnection (1 + 4) e (some c)).map Prod.snd = .ok w'
          rw [removed]
          rfl
  | resetEndpoint e =>
      have calms := calms_unbound w e
      have reset : w.resetEndpoint (2 + 3) e = .ok (w.unbound e) :=
        resetEndpoint_eq bound (quiet.endpoints e) fun c _ => quiet.conns c
      have quiet' : (w.unbound e).Quiet :=
        ⟨fun d => calms.conns d (quiet.conns d), fun f => calms.endpoints f (quiet.endpoints f)⟩
      exact ⟨_, reset, ⟨bound.unbound e, quiet'⟩⟩
  | resetConnection c => exact reset bound quiet
  | disconnect c =>
      refine ⟨_, rfl, ?_⟩
      rw [disconnect_eq]
      exact ⟨bound.setConn rfl, quiet.setConn rfl⟩
  | onConnected c failed regFailed =>
      rw [Bindings.call]
      split
      · exact reset bound quiet
      · split
        · exact reset (bound.setConn rfl) (quiet.setConn rfl)
        · exact ⟨_, rfl, ⟨bound.setConn rfl, quiet.setConn rfl⟩⟩
  | onDisconnected c => exact reset bound quiet

/-- A direct removal from an endpoint the connection is not bound to fails its assertion. -/
theorem allows_of_call_ok {call : BindingCall ε κ} (taken : w.call call = .ok w') :
    w.Allows call := by
  cases call with
  | removeConnection e conn =>
      cases conn with
      | none => trivial
      | some c =>
          by_contra other
          have unbound : (w.conns c).binding ≠ some e := other
          rw [Bindings.call, nesting, removeConnection, if_pos unbound] at taken
          cases taken
  | _ => trivial

end Bindings

/-- After any calls, with those they make to each other, a connection is bound to an endpoint
    exactly when it is the control connection or among the data connections of the endpoint, where
    it is once; and no assertion fails in any further call, if a direct removal is made on the
    endpoint the connection is bound to. -/
theorem bindings_bound {ε : Type u} {κ : Type v} [DecidableEq ε] [DecidableEq κ]
    {start w : Bindings ε κ} (initial : start.Initial)
    {made : List (Transition (Bindings ε κ) (BindingCall ε κ))}
    (run : Run bindingStep start made w) :
    (∀ c e, (w.conns c).binding = some e ↔ (w.endpoints e).ctrl = some c ∨
      c ∈ (w.endpoints e).data) ∧
    (∀ e, ((w.endpoints e).ctrl.toList ++ (w.endpoints e).data).Nodup) ∧
    ∀ call : BindingCall ε κ,
      (∀ e c, call = .removeConnection e (some c) → (w.conns c).binding = some e) →
        ∃ after, w.call call = .ok after := by
  have preserved : ∀ t : Transition (Bindings ε κ) (BindingCall ε κ), t.pre.Settled →
      bindingStep t.pre t.label t.post → True → t.post.Settled := by
    intro t inv taken _
    obtain ⟨after, ended, kept⟩ := Bindings.call_spec inv (Bindings.allows_of_call_ok taken)
    have same := taken.symm.trans ended
    rw [Except.ok.inj same]
    exact kept
  obtain ⟨bound, quiet⟩ := run.invariant initial.settled preserved fun _ _ => trivial
  refine ⟨fun c e => ?_, bound.once, fun call allowed => ?_⟩
  · rw [bound.binding c e, EndpointConns.all, List.mem_append, Option.mem_toList]
  · have allows : w.Allows call := by
      cases call with
      | removeConnection e conn =>
          cases conn with
          | none => trivial
          | some c => exact allowed e c rfl
      | _ => trivial
    obtain ⟨after, ended, -⟩ := Bindings.call_spec ⟨bound, quiet⟩ allows
    exact ⟨after, ended⟩

/-- Nothing is bound yet. -/
def Bindings.fresh : Bindings Nat Nat := ⟨fun _ => {}, fun _ => {}⟩

theorem Bindings.fresh_initial : fresh.Initial := ⟨fun _ => ⟨rfl, rfl⟩, fun _ => rfl⟩

/-- An endpoint gets a control and a data connection; the stream of the control connection ends, and
    both are unbound. -/
theorem bindings_bound_three_calls :
    ∃ made w, Run bindingStep Bindings.fresh made w ∧ made.length = 3 ∧
      (w.conns 0).binding = none ∧ (w.conns 1).binding = none ∧ (w.conns 1).state = .disconnected ∧
      ∀ e, ((w.endpoints e).ctrl.toList ++ (w.endpoints e).data).Nodup := by
  let second : Bindings Nat Nat := (Bindings.fresh.addConnection 7 (some 0) false).2
  let third : Bindings Nat Nat := (second.addConnection 7 (some 1) true).2
  have ctrl : bindingStep Bindings.fresh (.addConnection 7 (some 0) false) second := rfl
  have data : bindingStep second (.addConnection 7 (some 1) true) third := rfl
  have closed : bindingStep third (.onDisconnected 0)
      ((third.call (.onDisconnected 0)).toOption.getD third) := rfl
  have run := ((Run.refl.tail ctrl).tail data).tail closed
  exact ⟨_, _, run, rfl, rfl, rfl, rfl, (bindings_bound Bindings.fresh_initial run).2.1⟩

/-- An endpoint is told to remove a connection that is bound to none: its assertion fails. -/
theorem removeConnection_fails_unbound :
    ∃ w : Bindings Nat Nat, w.Initial ∧ w.call (.removeConnection 7 (some 0)) = .error .notBound :=
  ⟨.fresh, Bindings.fresh_initial, rfl⟩

end LibAtbus.Node
