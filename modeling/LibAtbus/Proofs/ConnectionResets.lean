/-
Module: LibAtbus.Proofs.ConnectionResets
Layer: Proofs
Purpose: What resets do to connections. The resets of connections and endpoints call each other;
  whatever they reach, they take connections down and never up, and the one that was reset is closed
  and bound to nothing. So does the check of the list of endpoints.
Trusted boundary: none
Main exports: Bindings.Downs, Bindings.downs_resets, Bindings.resetConnection_closes,
  NodeObjects.downs_procCheckList
-/
import LibAtbus.Proofs.DeferredCheck

namespace LibAtbus.Node

universe u v

variable {ε : Type u} {κ : Type v} {view : ε → Endpoint} [DecidableEq ε] [DecidableEq κ]

/-! ### Resets take connections down -/

namespace Bindings

variable {w w' after : Bindings ε κ} {c : κ} {e : ε}

/-- No connection came up, none was bound, and none became the control connection of an endpoint. -/
structure Downs (w w' : Bindings ε κ) : Prop where
  state : ∀ d, (w'.conns d).state = .connected → (w.conns d).state = .connected
  binding : ∀ d, (w.conns d).binding = none → (w'.conns d).binding = none
  ctrl : ∀ f d, (w'.endpoints f).ctrl = some d → (w.endpoints f).ctrl = some d

omit [DecidableEq ε] [DecidableEq κ] in
theorem Downs.refl : w.Downs w := ⟨fun _ up => up, fun _ free => free, fun _ _ known => known⟩

omit [DecidableEq ε] [DecidableEq κ] in
theorem Downs.trans (first : w.Downs w') (second : w'.Downs after) : w.Downs after where
  state d up := first.state d (second.state d up)
  binding d free := second.binding d (first.binding d free)
  ctrl f d known := first.ctrl f d (second.ctrl f d known)

omit [DecidableEq ε] in
theorem downs_setConn {change : Connection ε → Connection ε}
    (down : (change (w.conns c)).state = .connected → (w.conns c).state = .connected)
    (free : (w.conns c).binding = none → (change (w.conns c)).binding = none) :
    w.Downs (w.setConn c change) where
  state d up := by
    by_cases same : d = c
    · rw [same, setConn_conns_self] at up
      rw [same]
      exact down up
    · rwa [setConn_conns_of_ne _ same] at up
  binding d unbound := by
    by_cases same : d = c
    · rw [same] at unbound
      rw [same, setConn_conns_self]
      exact free unbound
    · rwa [setConn_conns_of_ne _ same]
  ctrl f d known := known

omit [DecidableEq κ] in
theorem downs_setEndpoint {change : EndpointConns κ → EndpointConns κ}
    (kept : ∀ d, (change (w.endpoints e)).ctrl = some d → (w.endpoints e).ctrl = some d) :
    w.Downs (w.setEndpoint e change) where
  state d up := up
  binding d free := free
  ctrl f d known := by
    by_cases same : f = e
    · rw [same, setEndpoint_endpoints_self] at known
      rw [same]
      exact kept d known
    · rwa [setEndpoint_endpoints_of_ne _ same] at known

omit [DecidableEq ε] in
theorem downs_marked {resetting : Bool} :
    w.Downs (w.setConn c fun conn => { conn with resetting := resetting }) :=
  downs_setConn id id

omit [DecidableEq ε] in
theorem downs_unbound : w.Downs (w.setConn c fun conn => { conn with binding := none }) :=
  downs_setConn id fun _ => rfl

theorem downs_eraseData : w.Downs (w.eraseData e c) :=
  downs_unbound.trans (downs_setEndpoint fun _ known => known)

omit [DecidableEq ε] in
theorem downs_disconnect : w.Downs (w.disconnect c).2 := by
  rw [disconnect_eq]
  refine downs_setConn (fun up => ?_) id
  cases state : (w.conns c).state with
  | connected => rfl
  | _ => simp [state, ConnState.down] at up

omit [DecidableEq ε] in
/-- What `disconnect` leaves is not connected. -/
theorem disconnect_not_connected : ((w.disconnect c).2.conns c).state ≠ .connected := by
  rw [disconnect_eq, setConn_conns_self]
  cases (w.conns c).state with
  | _ => simp [ConnState.down]

theorem downs_releaseCtrl : w.Downs (w.releaseCtrl e) := by
  rw [releaseCtrl]
  split
  · exact .refl
  · refine downs_unbound.trans (downs_setEndpoint fun _ known => ?_)
    cases known

theorem downs_foldlM {depth : Nat}
    (resets : ∀ (w : Bindings ε κ) c w', resetConnection depth w c = .ok w' → w.Downs w')
    {conns : List κ} (done : conns.foldlM (fun w c => resetConnection depth w c) w = .ok w') :
    w.Downs w' := by
  induction conns generalizing w with
  | nil =>
      cases done
      exact .refl
  | cons c rest ih =>
      rw [List.foldlM_cons] at done
      cases first : resetConnection depth w c with
      | error fault =>
          rw [first] at done
          cases done
      | ok middle =>
          rw [first] at done
          exact (resets w c middle first).trans (ih done)

/-- The resets of connections and endpoints, which call each other, bring no connection up. -/
theorem downs_resets (depth : Nat) :
    (∀ (w : Bindings ε κ) c w', w.resetConnection depth c = .ok w' → w.Downs w') ∧
    (∀ (w : Bindings ε κ) e conn done, w.removeConnection depth e conn = .ok done →
      w.Downs done.2) ∧
    ∀ (w : Bindings ε κ) e w', w.resetEndpoint depth e = .ok w' → w.Downs w' := by
  induction depth with
  | zero =>
      refine ⟨fun w c w' done => ?_, fun w e conn done removed => ?_, fun w e w' done => ?_⟩
      · rw [resetConnection] at done
        cases done
      · rw [removeConnection] at removed
        cases removed
      · rw [resetEndpoint] at done
        cases done
  | succ depth ih =>
      obtain ⟨resets, removes, resetsEndpoint⟩ := ih
      refine ⟨fun w c w' done => ?_, fun w e conn done removed => ?_, fun w e w' done => ?_⟩
      · have started :
            w.Downs ((w.setConn c fun conn => { conn with resetting := true }).disconnect c).2 :=
          downs_marked.trans downs_disconnect
        rw [resetConnection] at done
        dsimp only at done
        split at done
        · cases done
          exact .refl
        · split at done
          · cases done
            exact started.trans downs_marked
          · split at done
            · cases done
            · rename_i removed removal
              split at done
              · cases done
              · cases done
                exact (started.trans (removes _ _ _ _ removal)).trans downs_marked
      · cases conn with
        | none =>
            rw [removeConnection] at removed
            cases removed
            exact .refl
        | some c =>
            rw [removeConnection] at removed
            repeat' split at removed
            · cases removed
            · cases removed
              exact downs_unbound
            · cases reset : resetEndpoint depth w e with
              | error fault =>
                  rw [reset] at removed
                  cases removed
              | ok after =>
                  rw [reset] at removed
                  cases removed
                  exact resetsEndpoint w e after reset
            · cases reset : resetEndpoint depth (w.eraseData e c) e with
              | error fault =>
                  rw [reset] at removed
                  cases removed
              | ok after =>
                  rw [reset] at removed
                  cases removed
                  exact downs_eraseData.trans (resetsEndpoint _ e after reset)
            · cases removed
              exact downs_eraseData
            · cases removed
              exact .refl
      · rw [resetEndpoint] at done
        split at done
        · cases done
          exact .refl
        · dsimp only at done
          generalize begun :
            (w.setEndpoint e fun endpoint => { endpoint with resetting := true }).releaseCtrl e =
            started at done
          have marked :
              w.Downs (w.setEndpoint e fun endpoint => { endpoint with resetting := true }) :=
            downs_setEndpoint fun _ known => known
          have released : w.Downs started := by
            rw [← begun]
            exact marked.trans downs_releaseCtrl
          cases folded : (started.endpoints e).data.foldlM (fun w c => resetConnection depth w c)
            started with
          | error fault =>
              rw [folded] at done
              cases done
          | ok after =>
              rw [folded] at done
              cases done
              have closed := downs_foldlM resets folded
              exact (released.trans closed).trans (downs_setEndpoint fun _ known => known)

/-- A connection that was reset is neither connected nor bound, and no other came up. -/
theorem resetConnection_closes {depth : Nat} (idle : (w.conns c).resetting = false)
    (done : w.resetConnection depth c = .ok w') :
    (w'.conns c).state ≠ .connected ∧ (w'.conns c).binding = none ∧ w.Downs w' := by
  rw [← and_assoc]
  refine ⟨?_, (downs_resets depth).1 w c w' done⟩
  cases depth with
  | zero =>
      rw [resetConnection] at done
      cases done
  | succ depth =>
      have closed :
          (((w.setConn c fun conn => { conn with resetting := true }).disconnect c).2.conns
            c).state ≠
          .connected := disconnect_not_connected
      rw [resetConnection, if_neg (by rw [idle]; exact Bool.false_ne_true)] at done
      dsimp only at done
      split at done
      · rename_i unbound
        cases done
        rw [setConn_conns_self]
        exact ⟨closed, unbound⟩
      · split at done
        · cases done
        · rename_i removed removal
          have downs := (downs_resets depth).2.1 _ _ _ _ removal
          split at done
          · cases done
          · rename_i unbound
            cases done
            rw [setConn_conns_self]
            exact ⟨fun up => closed (downs.state c up), Option.not_isSome_iff_eq_none.mp unbound⟩

end Bindings

namespace NodeObjects

variable {n : NodeObjects view κ}

theorem downs_checkAll (settled : n.conns.Settled) (list : List ε) :
    ∃ done, n.checkAll list = .ok done ∧ n.conns.Downs done.2.conns := by
  induction list generalizing n with
  | nil => exact ⟨_, rfl, .refl⟩
  | cons e rest ih =>
      obtain ⟨one, checked, kept⟩ := checkOne_settled settled e
      obtain ⟨others, finished, downs⟩ := ih kept
      refine ⟨_, checkAll_cons checked finished, ?_⟩
      have first : n.conns.Downs one.2.conns := by
        rw [checkOne_eq settled] at checked
        cases checked
        split
        · exact .refl
        · rw [conns_removeEndpoint]
          exact (Bindings.downs_resets nesting).2.2 _ e _ (bindings_reset settled e)
      exact first.trans downs

theorem downs_procCheckList {done : List (Removal ε) × NodeObjects view κ}
    (settled : n.conns.Settled) (checked : n.procCheckList = .ok done) :
    n.conns.Downs done.2.conns := by
  have start : ({ n with checkList := [] } : NodeObjects view κ).conns.Settled := settled
  obtain ⟨last, all, downs⟩ := downs_checkAll start n.checkList
  rw [procCheckList, all] at checked
  cases checked
  exact downs

/-- The destructor of an endpoint brings no connection up. -/
theorem downs_destroy {after : NodeObjects view κ} {e : ε}
    (destroyed : n.handle (.destroy e) = .ok after) : n.conns.Downs after.conns := by
  rw [handle] at destroyed
  cases reset : n.conns.resetEndpoint nesting e with
  | error fault =>
      rw [reset] at destroyed
      cases destroyed
  | ok conns =>
      rw [reset] at destroyed
      cases destroyed
      exact (Bindings.downs_resets nesting).2.2 _ e _ reset

end NodeObjects

end LibAtbus.Node
