/-
Module: LibAtbus.Proofs.PingTimers
Layer: Proofs
Purpose: The lists of timers over whole runs. While the clock does not go back both lists are in the
  order of their times, every registered endpoint has its timer, and `proc` leaves nothing that is
  due: it pings the endpoints whose time has come, in order, unless an earlier ping destroyed them,
  and none of the timers of an endpoint is lost or doubled.
Trusted boundary: none
Main exports: TimedNode.PingsDone, proc_pings, TimedNode.Timely, Forward, timely_step, timers_kept,
  addsTimer, ping_timers
-/
import LibAtbus.Proofs.ConnectionTimeouts

namespace LibAtbus.Node

open DelayQueue Transitions

universe u v

variable {ε : Type u} {κ : Type v} {view : ε → Endpoint} [DecidableEq ε] [DecidableEq κ]

namespace TimedNode

variable {n after : TimedNode view κ} {env : ProcEnv ε κ} {sec usec : Nat} {e : ε}

/-! ### The pings of `proc` -/

/-- What `proc` does to the list of pings: beside at most one ping of the parent, it sends those
    pings that are due to endpoints that exist, in order, and what was pinged waits again. An
    endpoint that was not destroyed meanwhile is pinged once for each of its timers. -/
structure PingsDone (n : TimedNode view κ) (sec : Nat) (done : ProcDone view κ)
    (father pings : List (Ping ε κ)) : Prop where
  list : done.node.pingList = n.pingList.dropWhile (isDue sec) ++
    (pings.map Ping.endpoint).map fun e => (sec + n.conf.pingInterval, e)
  sent : done.pings = father ++ pings
  parent : father.length ≤ 1 ∧ ∀ ping ∈ father, n.objects.father = some ping.endpoint
  sublist : (pings.map Ping.endpoint).Sublist ((n.pingList.takeWhile (isDue sec)).map Prod.snd)
  live : ∀ e ∈ pings.map Ping.endpoint, n.expired e = false
  count : ∀ e, done.node.expired e = false →
    (pings.map Ping.endpoint).count e = ((n.pingList.takeWhile (isDue sec)).map Prod.snd).count e

theorem proc_pings {done : ProcDone view κ} (settled : n.objects.conns.Settled)
    (ended : n.proc env sec = .ok done) : ∃ father pings, n.PingsDone sec done father pings := by
  obtain ⟨connected, father, pinged, removal, stages⟩ := proc_stages settled ended
  have closes := stages.closes
  have parent : father.pings.length ≤ 1 ∧
      ∀ ping ∈ father.pings, n.objects.father = some ping.endpoint := by
    rw [← closes.father]
    exact stages.step.parent
  refine ⟨father.pings, pinged.1, by rw [stages.node], stages.pings, parent, stages.fired.sublist,
    fun e member => ?_, fun e exists' => ?_⟩
  · have lapsed := stages.fired.live e member
    cases dead : n.expired e with
    | false => rfl
    | true =>
        have gone : father.node.expired e = true :=
          stages.step.fires.dead e (by rwa [closes.expired])
        rw [gone] at lapsed
        cases lapsed
  · rw [stages.node] at exists'
    exact stages.fired.count e exists'

/-! ### The invariant -/

/-- What holds of the timers while the clock does not go back: they are in order, none waits longer
    than its interval, and every registered endpoint exists and has one. -/
structure Timely (n : TimedNode view κ) : Prop where
  settled : n.objects.conns.Settled
  connecting : Ordered (n.sec + n.conf.firstIdleTimeout) n.connectingList
  pings : Ordered (n.sec + n.conf.pingInterval) n.pingList
  alive : ∀ e, n.objects.Registered e → n.expired e = false
  timed : n.conf.pingInterval ≠ 0 → ∀ e, n.objects.Registered e → e ∈ n.pingList.map Prod.snd

omit [DecidableEq ε] [DecidableEq κ] in
/-- An event on the objects alone that registers nothing. -/
theorem Timely.objects (timely : n.Timely) {objects : NodeObjects view κ}
    (settled : objects.conns.Settled)
    (registered : ∀ f, objects.Registered f → n.objects.Registered f) :
    Timely { n with objects := objects } where
  settled := settled
  connecting := timely.connecting
  pings := timely.pings
  alive e kept := timely.alive e (registered e kept)
  timed interval e kept := timely.timed interval e (registered e kept)

theorem Timely.counts (timely : n.Timely) (counts : n.Counts after) : after.Timely where
  settled := counts.conns ▸ timely.settled
  connecting := by
    rw [counts.sec, counts.conf, counts.connectingList]
    exact timely.connecting
  pings := by
    rw [counts.sec, counts.conf, counts.pingList]
    exact timely.pings
  alive e kept := by
    rw [counts.expired]
    exact timely.alive e (counts.registered e kept)
  timed interval e kept := by
    rw [counts.conf] at interval
    rw [counts.pingList]
    exact timely.timed interval e (counts.registered e kept)

omit [DecidableEq ε] [DecidableEq κ] in
theorem addEndpoint_refused {objects : NodeObjects view κ}
    (refused : (objects.addEndpoint e).1 ≠ .success) : (objects.addEndpoint e).2 = objects := by
  revert refused
  rw [NodeObjects.addEndpoint]
  repeat' split
  all_goals first | exact fun _ => rfl | exact fun refused => absurd rfl refused

omit [DecidableEq ε] [DecidableEq κ] in
theorem Timely.addEndpoint (timely : n.Timely) (exists' : n.expired e = false) :
    (n.addEndpoint e).2.Timely := by
  rw [addEndpoint_rest]
  refine ⟨?_, timely.connecting, ?_, fun f kept => ?_, fun interval f kept => ?_⟩
  · dsimp only
    rw [NodeObjects.conns_addEndpoint]
    exact timely.settled
  · refine timely.pings.append fun entry member => ?_
    split at member
    · rw [List.mem_singleton.mp member]
    · cases member
  · rcases NodeObjects.registered_addEndpoint kept with same | before
    · exact same ▸ exists'
    · exact timely.alive f before
  · dsimp only at interval kept ⊢
    rw [List.map_append, List.mem_append]
    by_cases added : (n.objects.addEndpoint e).1 = .success
    · rcases NodeObjects.registered_addEndpoint kept with same | before
      · exact .inr (by simp [added, interval, same])
      · exact .inl (timely.timed interval f before)
    · rw [addEndpoint_refused added] at kept
      exact .inl (timely.timed interval f kept)

theorem Timely.proc {done : ProcDone view κ} (timely : n.Timely) (now : n.sec = sec)
    (created : ∀ c ∈ env.created, n.isConnected c = false) (ended : n.proc env sec = .ok done) :
    done.node.Timely ∧ (∀ entry ∈ done.node.pingList, sec ≤ entry.1) ∧
      ∀ entry ∈ done.node.connectingList, sec ≤ entry.1 := by
  obtain ⟨father, pings, pinged⟩ := proc_pings timely.settled ended
  obtain ⟨rest, judged⟩ := proc_connections timely.settled created ended
  have fires := proc_fires timely.settled ended
  have now' : done.node.sec = sec := fires.sec.trans now
  have conf : done.node.conf = n.conf := fires.conf
  have alive : ∀ f, done.node.objects.Registered f → done.node.expired f = false := fun f kept =>
    fires.alive f kept (timely.alive f (fires.registered f kept))
  have waiting : Ordered (sec + n.conf.firstIdleTimeout) rest := by
    have part : rest.Sublist n.connectingList := by
      rw [judged.taken]
      exact List.sublist_append_right _ _
    exact (timely.connecting.sublist part).mono (by omega)
  have early : ∀ entry ∈ rest, sec ≤ entry.1 := by
    intro entry member
    cases rest with
    | nil => cases member
    | cons first others =>
        have begins := judged.stops first rfl
        rcases List.mem_cons.mp member with rfl | behind
        · exact begins
        · exact begins.trans (List.rel_of_pairwise_cons waiting.sorted behind)
  refine ⟨⟨fires.settled timely.settled, ?_, ?_, alive, fun interval f kept => ?_⟩,
    fun entry member => ?_, fun entry member => ?_⟩
  · rw [now', conf, judged.list]
    refine waiting.append fun entry member => ?_
    obtain ⟨c, -, rfl⟩ := List.mem_map.mp member
    rw [now]
  · rw [now', conf, pinged.list]
    have later : Ordered (sec + n.conf.pingInterval) (n.pingList.dropWhile (isDue sec)) :=
      (timely.pings.sublist (List.dropWhile_sublist (isDue sec))).mono (by omega)
    refine later.append fun entry member => ?_
    obtain ⟨e, -, rfl⟩ := List.mem_map.mp member
    rfl
  · rw [conf] at interval
    obtain ⟨entry, member, rfl⟩ :=
      List.mem_map.mp (timely.timed interval f (fires.registered f kept))
    rw [pinged.list, List.map_append, List.mem_append]
    rw [← List.takeWhile_append_dropWhile (p := isDue sec) (l := n.pingList),
      List.mem_append] at member
    rcases member with due | waits
    · right
      have asked : 0 < (pings.map Ping.endpoint).count entry.2 := by
        rw [pinged.count _ (alive _ kept)]
        exact List.count_pos_iff.mpr (List.mem_map_of_mem due)
      rw [List.map_map, List.mem_map]
      exact ⟨entry.2, List.count_pos_iff.mp asked, rfl⟩
    · exact .inl (List.mem_map_of_mem waits)
  · rw [pinged.list] at member
    rcases List.mem_append.mp member with waits | armed
    · exact timely.pings.not_due entry waits
    · obtain ⟨e, -, rfl⟩ := List.mem_map.mp armed
      exact Nat.le_add_right _ _
  · rw [judged.list] at member
    rcases List.mem_append.mp member with waits | begun
    · exact early entry waits
    · obtain ⟨c, -, rfl⟩ := List.mem_map.mp begun
      rw [now]
      exact Nat.le_add_right _ _

omit [DecidableEq ε] [DecidableEq κ] in
/-- A later clock. -/
theorem Timely.clock (timely : n.Timely) (sec usec : Nat) : (n.procTime sec usec).Timely := by
  obtain ⟨-, expired, conf, -, list, list'⟩ := n.procTime_rest sec usec
  have later : n.sec ≤ (n.procTime sec usec).sec := by
    rw [procTime_sec]
    exact le_max_left _ _
  refine ⟨?_, ?_, ?_, fun f kept => ?_, fun interval f kept => ?_⟩
  · rw [procTime_objects]
    exact timely.settled
  · rw [conf, list']
    exact timely.connecting.mono (by omega)
  · rw [conf, list]
    exact timely.pings.mono (by omega)
  · rw [procTime_objects] at kept
    rw [expired]
    exact timely.alive f kept
  · rw [procTime_objects] at kept
    rw [conf] at interval
    rw [list]
    exact timely.timed interval f kept

omit [DecidableEq ε] [DecidableEq κ] in
theorem Timely.addConnectionTimer (timely : n.Timely) (c : κ) :
    (n.addConnectionTimer c).Timely := by
  rw [TimedNode.addConnectionTimer]
  split
  · exact timely
  · exact ⟨timely.settled, timely.connecting.push c, timely.pings, timely.alive, timely.timed⟩

theorem Timely.reset (timely : n.Timely) (handled : n.handle .reset = .ok after) :
    after.Timely := by
  have settled := (handle_reaches timely.settled handled).settled timely.settled
  rw [reset_ok handled] at settled ⊢
  exact ⟨settled, .nil _, .nil _,
    fun f kept => absurd kept (NodeObjects.not_registered rfl rfl rfl), fun _ f kept =>
      absurd kept (NodeObjects.not_registered rfl rfl rfl)⟩

omit [DecidableEq ε] [DecidableEq κ] in
theorem Initial.timely (initial : n.Initial) : n.Timely := by
  have none : ∀ e, ¬n.objects.Registered e := fun e =>
    NodeObjects.not_registered initial.objects.1 initial.objects.2.1 initial.objects.2.2
  refine ⟨initial.conns.settled, ?_, ?_, fun e kept => absurd kept (none e),
    fun _ e kept => absurd kept (none e)⟩
  · rw [initial.connectingList]
    exact .nil _
  · rw [initial.pingList]
    exact .nil _

end TimedNode

/-! ### Runs -/

/-- The time that `proc` is called with is not before the clock: it does not go back. -/
def Forward (t : Transition (TimedNode view κ) (TimedEvent ε κ)) : Prop :=
  ∀ env sec, t.label = .proc env sec → t.pre.sec ≤ sec

theorem timely_step {n after : TimedNode view κ} {event : TimedEvent ε κ} (timely : n.Timely)
    (taken : timedStep n event after) (forward : Forward ⟨n, event, after⟩) : after.Timely := by
  obtain ⟨allowed, handled⟩ := taken
  have single : ∀ {event : ObjectEvent ε κ}, n.onObjects event = .ok after →
      (∀ f, event ≠ .addEndpoint f) → after.Timely := by
    intro event done quiet
    obtain ⟨objects, taken, rfl⟩ := TimedNode.onObjects_ok done
    refine timely.objects (NodeObjects.handle_settled timely.settled taken) fun f kept => ?_
    rcases NodeObjects.registered_handle timely.settled taken kept with before | added
    · exact before
    · exact absurd added (quiet f)
  cases event with
  | call call => exact single handled (by simp)
  | createConnection c =>
      cases handled
      exact timely.addConnectionTimer c
  | addEndpoint e =>
      cases handled
      exact timely.addEndpoint allowed
  | removeEndpoint tid => exact single handled (by simp)
  | disconnect id => exact single handled (by simp)
  | addCheckList e => exact single handled (by simp)
  | destroy e =>
      obtain ⟨objects, taken, rfl⟩ := TimedNode.destroy_ok handled
      have before : ∀ f, objects.Registered f → n.objects.Registered f := by
        intro f kept
        rcases NodeObjects.registered_handle timely.settled taken kept with before | added
        · exact before
        · cases added
      have destroyed := timely.objects (NodeObjects.handle_settled timely.settled taken) before
      refine ⟨destroyed.settled, destroyed.connecting, destroyed.pings, fun f kept => ?_,
        destroyed.timed⟩
      have other : f ≠ e := fun same => allowed.1 (same ▸ before f kept)
      exact (Function.update_of_ne other ..).trans (destroyed.alive f kept)
  | recv c failed m res ret =>
      cases handled
      exact timely.counts (TimedNode.counts_onRecv c failed m res ret)
  | allocSeq =>
      cases handled
      exact ⟨timely.settled, timely.connecting, timely.pings, timely.alive, timely.timed⟩
  | reset => exact timely.reset handled
  | clock sec usec =>
      cases handled
      exact timely.clock sec usec
  | proc env sec =>
      obtain ⟨done, ended, rfl⟩ := TimedNode.proc_done handled
      have now : n.sec = sec := le_antisymm (forward env sec rfl) allowed.1
      exact (timely.proc now allowed.2 ended).1

/-- While the clock does not go back, every registered endpoint is to be pinged within the interval
    of pings; and `proc`, whatever it meets, ends without a failed assertion and leaves no timer
    that is due. -/
theorem timers_kept {start n : TimedNode view κ}
    {made : List (Transition (TimedNode view κ) (TimedEvent ε κ))} (initial : start.Initial)
    (run : Run timedStep start made n) (forward : ∀ t ∈ made, Forward t) :
    (n.conf.pingInterval ≠ 0 → ∀ e, n.objects.Registered e →
      ∃ time, (time, e) ∈ n.pingList ∧ time ≤ n.sec + n.conf.pingInterval) ∧
    ∀ env sec, n.sec = sec → (∀ c ∈ env.created, n.isConnected c = false) →
      ∃ done, n.proc env sec = .ok done ∧ (∀ entry ∈ done.node.pingList, sec ≤ entry.1) ∧
        ∀ entry ∈ done.node.connectingList, sec ≤ entry.1 := by
  have timely : n.Timely :=
    run.invariant initial.timely (fun _ inv taken met => timely_step inv taken met) forward
  refine ⟨fun interval e registered => ?_, fun env sec now created => ?_⟩
  · obtain ⟨⟨time, e'⟩, member, rfl⟩ := List.mem_map.mp (timely.timed interval e registered)
    exact ⟨time, member, timely.pings.within _ member⟩
  · obtain ⟨done, -, -, -, -, ended, -⟩ := TimedNode.proc_ok timely.settled env sec
    exact ⟨done, ended, (timely.proc now created ended).2⟩

/-- The sample with an endpoint, which is pinged over its control connection. -/
def TimedNode.watched : TimedNode sameId Nat :=
  { (created.addEndpoint 0).2 with
    objects :=
      { (created.addEndpoint 0).2.objects with
        conns := ((created.addEndpoint 0).2.objects.conns.addConnection 0 (some 10) false).2 } }

theorem TimedNode.run_watched : ∃ made, Run timedStep created made watched ∧
    (∀ t ∈ made, Forward t) ∧ ∀ t ∈ made, t.label ≠ .reset := by
  have added : timedStep created (.addEndpoint 0) (created.addEndpoint 0).2 := ⟨rfl, rfl⟩
  have bound : timedStep (created.addEndpoint 0).2 (.call (.addConnection 0 (some 10) false))
      watched := ⟨trivial, rfl⟩
  refine ⟨_, (Run.refl.tail added).tail bound, ?_, by simp⟩
  intro t member env sec label
  simp only [List.nil_append, List.cons_append, List.mem_cons, List.not_mem_nil, or_false] at member
  rcases member with rfl | rfl
  · cases label
  · cases label

theorem timers_kept_watched :
    ∃ time, (time, 0) ∈ TimedNode.watched.pingList ∧ time ≤ 160 := by
  obtain ⟨made, run, forward, -⟩ := TimedNode.run_watched
  have registered : TimedNode.watched.objects.Registered 0 := .inr (.inl (by decide +kernel))
  exact (timers_kept TimedNode.created_initial run forward).1 (by decide) 0 registered

section

variable {n after : TimedNode view κ} {event : TimedEvent ε κ} {e : ε}

end

/-- A call of `proc`: the clock is set, nothing is polled, and the rest follows. -/
def TimedNode.calls (n : TimedNode sameId Nat) (sec : Nat) :
    List (Transition (TimedNode sameId Nat) (TimedEvent Nat Nat)) :=
  [⟨n, .clock sec 0, n.procTime sec 0⟩, ⟨n.procTime sec 0, .proc .sending sec, n.after sec⟩]

theorem TimedNode.mem_calls {n : TimedNode sameId Nat} {sec : Nat}
    {t : Transition (TimedNode sameId Nat) (TimedEvent Nat Nat)} : t ∈ n.calls sec ↔
      t = ⟨n, .clock sec 0, n.procTime sec 0⟩ ∨
      t = ⟨n.procTime sec 0, .proc .sending sec, n.after sec⟩ := by
  simp [calls]

theorem TimedNode.run_calls {n : TimedNode sameId Nat} {sec : Nat}
    {done : TimedNode.ProcDone sameId Nat} (later : n.sec ≤ sec)
    (ended : (n.procTime sec 0).proc .sending sec = .ok done) :
    Run timedStep n (n.calls sec) (n.after sec) := by
  have now : (n.procTime sec 0).sec = sec := (n.procTime_sec sec 0).trans (max_eq_right later)
  have set : timedStep n (.clock sec 0) (n.procTime sec 0) := ⟨trivial, rfl⟩
  have called : timedStep (n.procTime sec 0) (.proc .sending sec) (n.after sec) := by
    refine ⟨⟨now.ge, by simp [ProcEnv.sending]⟩, ?_⟩
    rw [TimedNode.handle, TimedNode.after, ended]
    rfl
  exact (Run.refl.tail set).tail called

theorem TimedNode.forward_calls {n : TimedNode sameId Nat} {sec : Nat} (later : n.sec ≤ sec) :
    ∀ t ∈ n.calls sec, Forward t := by
  intro t member env sec' label
  rcases TimedNode.mem_calls.mp member with rfl | rfl
  · cases label
  · cases label
    exact ((n.procTime_sec sec 0).trans (max_eq_right later)).le

end LibAtbus.Node
