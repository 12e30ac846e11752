/-
Module: LibAtbus.Proofs.SilentEndpoint
Layer: Proofs
Purpose: The detection of an endpoint that went silent. Every ping of it either finds the ping
  before unanswered, or fails, or leaves one that is to be answered; so its suspicion, the faults
  and the ping it owes an answer to, rises with every ping and is taken back only by a message of
  its own. When more pings than the tolerated faults and two more fell due, it is registered no
  longer.
Trusted boundary: none
Main exports: TimedNode.suspicion, TimedNode.Suspects, suspects_pingEndpoint, suspects_proc, Silent,
  lateTimes, suspects_event, suspects_late, Watched, silent_endpoint_removed
-/
import LibAtbus.Proofs.PingTimers

namespace LibAtbus.Node

open DelayQueue Transitions

universe u v

variable {ε : Type u} {κ : Type v} {view : ε → Endpoint} [DecidableEq ε] [DecidableEq κ]

namespace TimedNode

variable {n m after : TimedNode view κ} {sendPing : κ → BitVec 32 → ErrorType} {env : ProcEnv ε κ}
  {e f : ε} {gained more : Nat}

/-! ### Suspicion -/

/-- The faults that were counted for an endpoint, as far as they are tolerated, and the ping it owes
    an answer to. -/
def suspicion (n : TimedNode view κ) (e : ε) : Nat :=
  min (n.stat e).faultCount.toNat n.conf.faultTolerant + if (n.stat e).unfinishedPing = 0#32 then 0
    else 1

/-- One more fault can be counted. -/
def Countable (n : TimedNode view κ) (e : ε) : Prop := (n.stat e).faultCount.toNat + 1 < 2 ^ 64

omit [DecidableEq ε] [DecidableEq κ] in
theorem suspicion_le : n.suspicion e ≤ n.conf.faultTolerant + 1 := by
  rw [suspicion]
  split
  · omega
  · omega

/-- When an endpoint is still registered afterwards, it was registered before and is suspected more,
    by what is given. -/
structure Suspects (e : ε) (gained : Nat) (n after : TimedNode view κ) : Prop where
  conf : after.conf = n.conf
  registered : after.objects.Registered e → n.objects.Registered e
  countable : after.objects.Registered e → n.Countable e → after.Countable e
  grows : after.objects.Registered e → n.Countable e → n.suspicion e + gained ≤ after.suspicion e

namespace Suspects

omit [DecidableEq ε] [DecidableEq κ] in
theorem trans (first : Suspects e gained n m) (second : Suspects e more m after) :
    Suspects e (gained + more) n after where
  conf := second.conf.trans first.conf
  registered kept := first.registered (second.registered kept)
  countable kept small := second.countable kept (first.countable (second.registered kept) small)
  grows kept small := by
    have one := first.grows (second.registered kept) small
    have two := second.grows kept (first.countable (second.registered kept) small)
    omega

omit [DecidableEq ε] [DecidableEq κ] in
theorem less (suspects : Suspects e gained n after) (le : more ≤ gained) :
    Suspects e more n after where
  conf := suspects.conf
  registered := suspects.registered
  countable := suspects.countable
  grows kept small := (Nat.add_le_add_left le _).trans (suspects.grows kept small)

omit [DecidableEq ε] [DecidableEq κ] in
/-- The endpoint is not concerned. -/
theorem same (conf : after.conf = n.conf) (stat : after.stat e = n.stat e)
    (registered : after.objects.Registered e → n.objects.Registered e) : Suspects e 0 n after where
  conf := conf
  registered := registered
  countable _ small := by rwa [Countable, stat]
  grows _ _ := by rw [suspicion, suspicion, stat, conf, Nat.add_zero]

omit [DecidableEq ε] [DecidableEq κ] in
theorem gone (conf : after.conf = n.conf) (registered : ¬after.objects.Registered e) :
    Suspects e gained n after where
  conf := conf
  registered kept := absurd kept registered
  countable kept := absurd kept registered
  grows kept := absurd kept registered

end Suspects

/-! ### Faults and pings -/

omit [DecidableEq κ] in
@[simp] theorem setStat_stat_self {change : EndpointStat → EndpointStat} :
    (n.setStat e change).stat e = change (n.stat e) := Function.update_self ..

omit [DecidableEq κ] in
theorem setStat_stat_of_ne {change : EndpointStat → EndpointStat} (other : f ≠ e) :
    (n.setStat e change).stat f = n.stat f := Function.update_of_ne other ..

omit [DecidableEq κ] in
theorem stat_addEndpointFault :
    (n.addEndpointFault e).2.stat =
      (n.setStat e fun stat => { stat with faultCount := (n.stat e).faultCount + 1#64 }).stat := by
  unfold addEndpointFault
  dsimp only
  split
  · rfl
  · rfl

omit [DecidableEq κ] in
theorem unfinishedPing_addEndpointFault :
    ((n.addEndpointFault e).2.stat f).unfinishedPing = (n.stat f).unfinishedPing := by
  rw [stat_addEndpointFault]
  by_cases own : f = e
  · rw [own, setStat_stat_self]
  · rw [setStat_stat_of_ne own]

omit [DecidableEq κ] in
theorem msgSeq_addEndpointFault : (n.addEndpointFault e).2.msgSeq = n.msgSeq := by
  unfold addEndpointFault
  dsimp only
  split
  · rfl
  · rfl

/-- A fault takes the endpoint out of the tables or counts. -/
theorem suspects_addEndpointFault (keyed : n.objects.Keyed)
    (bound : n.conf.faultTolerant + 1 < 2 ^ 64) : Suspects e 1 n (n.addEndpointFault e).2 := by
  have unfinished : ((n.addEndpointFault e).2.stat e).unfinishedPing = (n.stat e).unfinishedPing :=
    unfinishedPing_addEndpointFault
  have counts := counts_addEndpointFault (n := n) e
  by_cases many : n.conf.faultTolerant < ((n.stat e).faultCount + 1#64).toNat
  · refine .gone counts.conf ?_
    unfold addEndpointFault
    rw [if_pos many]
    exact NodeObjects.Keyed.not_registered keyed
  · have faults : ((n.addEndpointFault e).2.stat e).faultCount = (n.stat e).faultCount + 1#64 := by
      rw [stat_addEndpointFault, setStat_stat_self]
    refine ⟨counts.conf, counts.registered e, fun _ _ => ?_, fun _ small => ?_⟩
    · rw [Countable, faults]
      omega
    · have next : ((n.stat e).faultCount + 1#64).toNat = (n.stat e).faultCount.toNat + 1 := by
        rw [BitVec.toNat_add]
        exact Nat.mod_eq_of_lt small
      rw [suspicion, suspicion, unfinished, faults, counts.conf, next]
      omega

theorem suspects_addEndpointFault_of_ne (other : e ≠ f) :
    Suspects e 0 n (n.addEndpointFault f).2 := by
  have stat : (n.addEndpointFault f).2.stat e = n.stat e := by
    rw [stat_addEndpointFault, setStat_stat_of_ne other]
  exact .same (counts_addEndpointFault f).conf stat ((counts_addEndpointFault f).registered e)

/-- The rest of a ping that is sent with another sequence than 0. -/
theorem suspects_pingConnection (keyed : n.objects.Keyed)
    (bound : n.conf.faultTolerant + 1 < 2 ^ 64) (nonzero : n.msgSeq + 1#32 ≠ 0#32) :
    Suspects e (if (n.stat e).unfinishedPing = 0#32 ∧ (n.ctrlConnection e).isSome then 1 else 0) n
      (n.pingConnection sendPing e).2.2 := by
  rw [pingConnection]
  cases n.ctrlConnection e with
  | none => exact (Suspects.same rfl rfl id).less (by simp)
  | some c =>
      dsimp only
      by_cases failed : (sendPing c (n.msgSeq + 1#32)).failed = true
      · have allocated : Suspects e 0 n { n with msgSeq := n.msgSeq + 1#32 } := .same rfl rfl id
        have fault : Suspects e 1 { n with msgSeq := n.msgSeq + 1#32 } _ :=
          suspects_addEndpointFault keyed bound
        rw [if_pos failed]
        refine (allocated.trans fault).less ?_
        split
        · exact le_rfl
        · exact Nat.zero_le _
      · rw [if_neg failed]
        refine ⟨rfl, id, fun _ small => ?_, fun _ _ => ?_⟩
        · rw [Countable, setStat_stat_self]
          exact small
        · rw [suspicion, suspicion, setStat_stat_self]
          dsimp only [setStat]
          rw [if_neg nonzero]
          by_cases answered : (n.stat e).unfinishedPing = 0#32
          · simp [answered]
          · simp [answered]

/-- A ping raises the suspicion of an endpoint with a control connection. -/
theorem suspects_pingEndpoint (keyed : n.objects.Keyed) (bound : n.conf.faultTolerant + 1 < 2 ^ 64)
    (nonzero : n.msgSeq + 1#32 ≠ 0#32) :
    Suspects e (if (n.ctrlConnection e).isSome then 1 else 0) n
      (n.pingEndpoint sendPing e).2.2 := by
  rw [pingEndpoint, checkPing]
  by_cases asked : (n.stat e).unfinishedPing ≠ 0#32
  · have counts := counts_addEndpointFault (n := n) e
    have fault := suspects_addEndpointFault (e := e) keyed bound
    have most : (if (n.ctrlConnection e).isSome then 1 else 0) ≤ 1 := by
      split
      · exact le_rfl
      · exact Nat.zero_le _
    rw [if_pos asked]
    by_cases removed : (n.addEndpointFault e).1 = true
    · rw [if_pos removed]
      exact fault.less most
    · have nonzero' : (n.addEndpointFault e).2.msgSeq + 1#32 ≠ 0#32 := by
        rwa [msgSeq_addEndpointFault]
      have sent : Suspects e _ (n.addEndpointFault e).2
          ((n.addEndpointFault e).2.pingConnection sendPing e).2.2 :=
        suspects_pingConnection (counts.keyed keyed) (counts.conf ▸ bound) nonzero'
      rw [if_neg removed]
      exact (fault.trans sent).less (most.trans (Nat.le_add_right _ _))
  · rw [if_neg asked, if_neg Bool.false_ne_true]
    have sent : Suspects e _ n (n.pingConnection sendPing e).2.2 :=
      suspects_pingConnection keyed bound nonzero
    refine sent.less ?_
    rw [not_not] at asked
    simp [asked]

omit [DecidableEq κ] in
theorem stat_pingConnection_of_ne (other : e ≠ f) :
    (n.pingConnection sendPing f).2.2.stat e = n.stat e := by
  rw [pingConnection]
  split
  · rfl
  · dsimp only
    split
    · rw [stat_addEndpointFault, setStat_stat_of_ne other]
    · dsimp only
      rw [setStat_stat_of_ne other]

/-- The ping of another endpoint does not concern this one, unless it takes it out of the tables. -/
theorem suspects_pingEndpoint_of_ne (other : e ≠ f) :
    Suspects e 0 n (n.pingEndpoint sendPing f).2.2 := by
  have checked : (n.checkPing f).2.stat e = n.stat e := by
    rw [checkPing]
    split
    · rw [stat_addEndpointFault, setStat_stat_of_ne other]
    · rfl
  have counts := counts_pingEndpoint (n := n) sendPing f
  refine .same counts.conf ?_ (counts.registered e)
  rw [pingEndpoint]
  split
  · exact checked
  · exact (stat_pingConnection_of_ne other).trans checked

omit [DecidableEq κ] in
/-- A ping takes one sequence at most. -/
theorem msgSeq_pingEndpoint (small : n.msgSeq.toNat + 1 < 2 ^ 32) :
    (n.pingEndpoint sendPing e).2.2.msgSeq.toNat ≤ n.msgSeq.toNat + 1 := by
  have next : (n.msgSeq + 1#32).toNat = n.msgSeq.toNat + 1 := by
    rw [BitVec.toNat_add]
    exact Nat.mod_eq_of_lt small
  have checked : (n.checkPing e).2.msgSeq = n.msgSeq := by
    rw [checkPing]
    split
    · exact msgSeq_addEndpointFault
    · rfl
  rw [pingEndpoint]
  split
  · rw [checked]
    exact Nat.le_add_right _ _
  · rw [pingConnection]
    split
    · rw [checked]
      exact Nat.le_add_right _ _
    · dsimp only
      split
      · rw [msgSeq_addEndpointFault]
        dsimp only
        rw [checked, next]
      · dsimp only [setStat]
        rw [checked, next]

omit [DecidableEq ε] [DecidableEq κ] in
theorem nonzero_of_small (small : n.msgSeq.toNat + 1 < 2 ^ 32) : n.msgSeq + 1#32 ≠ 0#32 := by
  intro wrapped
  have zero := congrArg BitVec.toNat wrapped
  rw [BitVec.toNat_add, BitVec.toNat_ofNat, BitVec.toNat_ofNat, Nat.mod_eq_of_lt small] at zero
  simp at zero

/-! ### The pings of `proc` -/

omit [DecidableEq ε] [DecidableEq κ] in
theorem ctrlConnection_mono (downs : n.objects.conns.Downs after.objects.conns)
    (controlled : (after.ctrlConnection e).isSome) : (n.ctrlConnection e).isSome := by
  obtain ⟨c, known⟩ := Option.isSome_iff_exists.mp controlled
  rw [ctrlConnection, Option.filter_eq_some_iff] at known
  obtain ⟨ctrl, up⟩ := known
  rw [isConnected, decide_eq_true_eq] at up
  have before : n.ctrlConnection e = some c := by
    rw [ctrlConnection, Option.filter_eq_some_iff, isConnected, decide_eq_true_eq]
    exact ⟨downs.ctrl e c ctrl, downs.state c up⟩
  rw [before]
  rfl

/-- What a ping destroys does not concern the endpoint. -/
theorem Fires.suspects (fires : m.Fires after) (stat : after.stat = m.stat) :
    Suspects e 0 m after :=
  .same fires.conf (congrFun stat e) (fires.registered e)

/-- Each ping of the endpoint in the list raises its suspicion, when it is registered afterwards and
    has its control connection still: then it was not destroyed before. -/
theorem suspects_fireEach {items : List ε} {before pings : List (Ping ε κ)} {armed : List ε}
    (settled : n.objects.conns.Settled) (keyed : n.objects.Keyed)
    (bound : n.conf.faultTolerant + 1 < 2 ^ 64) (alive : n.expired e = false)
    (small : n.msgSeq.toNat + items.length < 2 ^ 32) (registered : after.objects.Registered e)
    (controlled : (after.ctrlConnection e).isSome)
    (ended : fireEach (firePing env) (.ok (before, n)) items = (.ok (pings, after), armed)) :
    Suspects e (items.count e) n after := by
  induction items generalizing n before armed with
  | nil =>
      cases ended
      exact .same rfl rfl id
  | cons f rest ih =>
      rw [List.length_cons] at small
      rw [fireEach] at ended
      cases gone : n.expired f with
      | true =>
          have lapsed : firePing env (.ok (before, n)) f = none := by
            rw [firePing, if_pos gone]
          have other : f ≠ e := by
            rintro rfl
            rw [alive] at gone
            cases gone
          rw [lapsed] at ended
          rw [List.count_cons_of_ne other]
          exact ih settled keyed bound alive (by omega) ended
      | false =>
          obtain ⟨middle, sent, released, stat, seq⟩ := procPing_ok settled env f
          have counts := counts_pingEndpoint (n := n) env.sendPing f
          have fires := counts.fires.trans released
          have fired : firePing env (.ok (before, n)) f =
              some (.ok (before ++ [⟨f, (n.pingEndpoint env.sendPing f).2.1⟩], middle)) := by
            rw [firePing, if_neg (by rw [gone]; exact Bool.false_ne_true), sent]
            rfl
          rw [fired] at ended
          dsimp only at ended
          obtain ⟨others, last, pinged, ended'⟩ := fireEach_ok env (fires.settled settled) rest
            (before ++ [⟨f, (n.pingEndpoint env.sendPing f).2.1⟩])
          rw [ended'] at ended
          cases ended
          have known : middle.objects.Registered e := pinged.fires.registered e registered
          have seq' : middle.msgSeq.toNat ≤ n.msgSeq.toNat + 1 := by
            rw [seq]
            exact msgSeq_pingEndpoint (by omega)
          have later : Suspects e (rest.count e) middle after :=
            ih (fires.settled settled) (fires.keyed keyed) (fires.conf ▸ bound)
              (fires.alive e known alive)
              (by omega) ended'
          have controlled' : (n.ctrlConnection e).isSome :=
            ctrlConnection_mono (fires.downs.trans pinged.fires.downs) controlled
          by_cases own : f = e
          · subst own
            have raised : Suspects f _ n (n.pingEndpoint env.sendPing f).2.2 :=
              suspects_pingEndpoint keyed bound (nonzero_of_small (by omega))
            rw [if_pos controlled'] at raised
            refine ((raised.trans (released.suspects stat)).trans later).less ?_
            rw [List.count_cons_self]
            omega
          · have unconcerned : Suspects e 0 n (n.pingEndpoint env.sendPing f).2.2 :=
              suspects_pingEndpoint_of_ne (Ne.symm own)
            refine ((unconcerned.trans (released.suspects stat)).trans later).less ?_
            rw [List.count_cons_of_ne own]
            omega

theorem Closes.suspects (closes : n.Closes after) : Suspects e 0 n after :=
  .same closes.conf (congrFun closes.stat e) closes.registered.mp

theorem FatherStep.suspects {done : FatherDone view κ} (step : n.FatherStep env done)
    (keyed : n.objects.Keyed) (bound : n.conf.faultTolerant + 1 < 2 ^ 64)
    (nonzero : n.msgSeq + 1#32 ≠ 0#32) : Suspects e 0 n done.node := by
  cases step with
  | idle => exact .same rfl rfl id
  | connects made =>
      rw [addConnectionTimer_rest]
      exact .same rfl rfl id
  | @pings father after known released stat seq =>
      have pinged : Suspects e 0 n (n.pingEndpoint env.sendPing father).2.2 := by
        by_cases own : e = father
        · subst own
          exact (suspects_pingEndpoint keyed bound nonzero).less (Nat.zero_le _)
        · exact suspects_pingEndpoint_of_ne own
      exact pinged.trans (released.suspects stat)

/-- The part about the parent takes one sequence at most. -/
theorem FatherStep.msgSeq_le {done : FatherDone view κ} (step : n.FatherStep env done)
    (small : n.msgSeq.toNat + 1 < 2 ^ 32) : done.node.msgSeq.toNat ≤ n.msgSeq.toNat + 1 := by
  cases step with
  | idle => exact Nat.le_add_right _ _
  | connects made =>
      rw [addConnectionTimer_rest]
      exact Nat.le_add_right _ _
  | pings known released stat seq =>
      dsimp only
      rw [seq]
      exact msgSeq_pingEndpoint small

/-- `proc` raises the suspicion of an endpoint that stays registered with a control connection by
    its timers that are due. -/
theorem suspects_proc {done : ProcDone view κ} {sec : Nat} (timely : n.Timely)
    (keyed : n.objects.Keyed) (bound : n.conf.faultTolerant + 1 < 2 ^ 64)
    (small : n.msgSeq.toNat + n.pingList.length + 1 < 2 ^ 32)
    (controlled : done.node.objects.Registered e → (done.node.ctrlConnection e).isSome)
    (ended : n.proc env sec = .ok done) :
    Suspects e (((n.pingList.takeWhile (isDue sec)).map Prod.snd).count e) n done.node := by
  obtain ⟨connected, father, pinged, removal, stages⟩ := proc_stages timely.settled ended
  have closes := stages.closes
  have settled₁ := closes.settled timely.settled
  have keyed₁ : connected.objects.Keyed := closes.keyed keyed
  have bound₁ : connected.conf.faultTolerant + 1 < 2 ^ 64 := by rwa [closes.conf]
  have small₁ : connected.msgSeq.toNat + 1 < 2 ^ 32 := by
    rw [closes.msgSeq]
    omega
  have step := stages.step.fires
  have asked : Suspects e 0 connected father.node :=
    stages.step.suspects keyed₁ bound₁ (nonzero_of_small small₁)
  have few : ((n.pingList.takeWhile (isDue sec)).map Prod.snd).length ≤ n.pingList.length := by
    rw [List.length_map]
    exact (List.takeWhile_prefix _).length_le
  have last : Suspects e 0 pinged.2 done.node := by
    rw [stages.node]
    exact .same rfl rfl fun kept => NodeObjects.registered_procCheckList stages.checked kept
  have idle : Suspects e 0 n father.node := closes.suspects.trans asked
  have fires := stages.fired.fires
  by_cases registered : done.node.objects.Registered e
  · have pinged' : pinged.2.objects.Registered e := last.registered registered
    have known : father.node.objects.Registered e := fires.registered e pinged'
    have alive : father.node.expired e = false := by
      refine step.alive e known ?_
      rw [closes.expired]
      exact timely.alive e (idle.registered known)
    have settled₂ : father.node.objects.conns.Settled := step.settled settled₁
    have downs : pinged.2.objects.conns.Downs done.node.objects.conns := by
      rw [stages.node]
      exact NodeObjects.downs_procCheckList (fires.settled settled₂) stages.checked
    have bound₂ : father.node.conf.faultTolerant + 1 < 2 ^ 64 := by
      rw [step.conf]
      exact bound₁
    have small₂ :
        father.node.msgSeq.toNat + ((n.pingList.takeWhile (isDue sec)).map Prod.snd).length <
        2 ^ 32 := by
      have one := stages.step.msgSeq_le small₁
      rw [closes.msgSeq] at one
      omega
    have pings : Suspects e _ father.node pinged.2 :=
      suspects_fireEach settled₂ (step.keyed keyed₁) bound₂ alive small₂ pinged'
        (ctrlConnection_mono downs (controlled registered)) stages.handled
    refine ((idle.trans pings).trans last).less ?_
    omega
  · exact .gone (last.conf.trans (fires.conf.trans idle.conf)) registered

/-! ### The other events -/

theorem suspects_bindingFault (c : κ) (keyed : n.objects.Keyed)
    (bound : n.conf.faultTolerant + 1 < 2 ^ 64) : Suspects e 0 n (n.bindingFault c) := by
  unfold bindingFault
  split
  · exact .same rfl rfl id
  · rename_i f _
    by_cases own : e = f
    · subst own
      exact (suspects_addEndpointFault keyed bound).less (Nat.zero_le _)
    · exact suspects_addEndpointFault_of_ne own

/-- A message of another endpoint. -/
theorem stat_onRecv_of_ne {c : κ} (failed : Bool) (m : Option Msg) (res ret : Int)
    (other : (n.objects.conns.conns c).binding ≠ some e) :
    (n.onRecv c failed m res ret).stat e = n.stat e := by
  have fault : ∀ n' : TimedNode view κ, n'.objects.conns = n.objects.conns → n'.stat e = n.stat e →
      (n'.bindingFault c).stat e = n.stat e := by
    intro n' conns stat
    unfold bindingFault
    rw [conns]
    split
    · exact stat
    · rename_i f bound
      have ne : e ≠ f := fun same => other (same ▸ bound)
      rw [stat_addEndpointFault, setStat_stat_of_ne ne, stat]
  unfold onRecv
  split
  · exact fault n rfl rfl
  · cases m with
    | none => exact fault n rfl rfl
    | some m =>
        have conns := (counts_dispatchStat (n := n) c m res ret).conns
        have stat : (n.dispatchStat c m res ret).2.2.stat e = n.stat e := by
          rw [dispatchStat]
          split
          · unfold onRecvNodePong
            repeat' split
            · rfl
            · rfl
            · rename_i f found
              have bound := (Option.filter_eq_some_iff.mp found).1
              have ne : e ≠ f := fun same => other (same ▸ bound)
              dsimp only
              rw [setStat_stat_of_ne ne]
          · rfl
        dsimp only
        split
        · exact fault _ conns stat
        · split
          · exact fault _ conns stat
          · unfold clearFault
            rw [conns]
            split
            · exact stat
            · rename_i f bound
              have ne : e ≠ f := fun same => other (same ▸ bound)
              rw [setStat_stat_of_ne ne, stat]

/-! ### Timers -/

/-- While it is registered, the endpoint has a timer until then. -/
def Awaits (n : TimedNode view κ) (e : ε) (time : Nat) : Prop :=
  n.objects.Registered e → ∃ entry ∈ n.pingList, entry.2 = e ∧ entry.1 ≤ time

omit [DecidableEq ε] [DecidableEq κ] in
theorem Awaits.kept {time : Nat} (awaits : n.Awaits e time)
    (registered : after.objects.Registered e → n.objects.Registered e)
    (list : ∀ entry ∈ n.pingList, entry ∈ after.pingList) : after.Awaits e time := by
  intro kept
  obtain ⟨entry, member, own, early⟩ := awaits (registered kept)
  exact ⟨entry, list entry member, own, early⟩

/-- `proc` pings it again within the interval. -/
theorem Awaits.proc {done : ProcDone view κ} {sec time : Nat} (awaits : n.Awaits e time)
    (timely : n.Timely) (early : time ≤ sec + n.conf.pingInterval)
    (ended : n.proc env sec = .ok done) : done.node.Awaits e (sec + n.conf.pingInterval) := by
  intro kept
  obtain ⟨father, pings, pinged⟩ := proc_pings timely.settled ended
  have fires := proc_fires timely.settled ended
  have known : n.objects.Registered e := fires.registered e kept
  obtain ⟨entry, member, rfl, waits⟩ := awaits known
  rw [pinged.list]
  rw [← List.takeWhile_append_dropWhile (p := isDue sec) (l := n.pingList),
    List.mem_append] at member
  rcases member with due | later
  · have asked : 0 < (pings.map Ping.endpoint).count entry.2 := by
      rw [pinged.count _ (fires.alive _ kept (timely.alive _ known))]
      exact List.count_pos_iff.mpr (List.mem_map_of_mem due)
    have armed :=
      List.mem_map_of_mem (f := fun e => (sec + n.conf.pingInterval, e))
        (List.count_pos_iff.mp asked)
    exact ⟨_, List.mem_append_right _ armed, rfl, le_rfl⟩
  · exact ⟨entry, List.mem_append_left _ later, rfl, waits.trans early⟩

end TimedNode

/-! ### Runs -/

/-- An endpoint is silent in a step: errors may be received over its connections, but no message; it
    is not added again; and `proc` does not run out of sequences, nor does it leave the endpoint in
    the tables without a control connection. -/
structure Silent (e : ε) (t : Transition (TimedNode view κ) (TimedEvent ε κ)) : Prop where
  added : t.label ≠ .addEndpoint e
  received : ∀ c failed m res ret, t.label = .recv c failed m res ret →
    (t.pre.objects.conns.conns c).binding = some e → failed = true ∨ m = none
  sequences : ∀ env sec, t.label = .proc env sec →
    t.pre.msgSeq.toNat + t.pre.pingList.length + 1 < 2 ^ 32
  controlled : ∀ env sec, t.label = .proc env sec → t.post.objects.Registered e →
    (t.post.ctrlConnection e).isSome

/-- What is added leaves the tables a map by id. -/
def AddsApart (t : Transition (TimedNode view κ) (TimedEvent ε κ)) : Prop :=
  ∀ e, t.label = .addEndpoint e → t.pre.objects.AddsApart (.addEndpoint e)

/-- The times `proc` was called with. -/
def procTimes (made : List (Transition (TimedNode view κ) (TimedEvent ε κ))) : List Nat :=
  made.filterMap fun t =>
    match t.label with
    | .proc _ sec => some sec
    | _ => none

/-- How many times are later than the one before by more than an interval. -/
def lateTimes (interval : Nat) : Nat → List Nat → Nat
  | _, [] => 0
  | last, time :: rest => (if last + interval < time then 1 else 0) + lateTimes interval time rest

theorem lateTimes_append (interval last time : Nat) (times : List Nat) :
    lateTimes interval last (times ++ [time]) =
      lateTimes interval last times + if times.getLastD last + interval < time then 1 else 0 := by
  induction times generalizing last with
  | nil => simp [lateTimes]
  | cons first rest ih =>
      rw [List.cons_append, lateTimes, ih, lateTimes, List.getLastD_cons, Nat.add_assoc]

section

variable {n after : TimedNode view κ} {event : TimedEvent ε κ} {e : ε}

theorem keyed_step (keyed : n.objects.Keyed) (sound : n.Sound) (taken : timedStep n event after)
    (apart : AddsApart ⟨n, event, after⟩) : after.objects.Keyed := by
  have single : ∀ {event : ObjectEvent ε κ}, n.onObjects event = .ok after →
      n.objects.AddsApart event → after.objects.Keyed := by
    intro event done quiet
    obtain ⟨objects, did, rfl⟩ := TimedNode.onObjects_ok done
    exact keyed.handle sound did quiet
  obtain ⟨-, handled⟩ := taken
  cases event with
  | call call => exact single handled trivial
  | createConnection c =>
      cases handled
      rwa [TimedNode.addConnectionTimer_objects]
  | addEndpoint f =>
      cases handled
      have added : n.objects.handle (.addEndpoint f) = .ok (n.objects.addEndpoint f).2 := rfl
      rw [TimedNode.addEndpoint_rest]
      exact keyed.handle sound added (apart f rfl)
  | removeEndpoint tid => exact single handled trivial
  | disconnect id => exact single handled trivial
  | addCheckList f => exact single handled trivial
  | destroy f =>
      obtain ⟨objects, did, rfl⟩ := TimedNode.destroy_ok handled
      exact keyed.handle sound did trivial
  | recv c failed m res ret =>
      cases handled
      exact (TimedNode.counts_onRecv c failed m res ret).keyed keyed
  | allocSeq =>
      cases handled
      exact keyed
  | reset =>
      rw [TimedNode.reset_ok handled]
      exact .empty keyed.mask rfl rfl rfl
  | clock sec usec =>
      cases handled
      rwa [TimedNode.procTime_objects]
  | proc env sec =>
      obtain ⟨done, ended, rfl⟩ := TimedNode.proc_done handled
      exact (TimedNode.proc_fires sound ended).keyed keyed

/-- The clock does not go back in any event. -/
theorem sec_mono (sound : n.Sound) (taken : timedStep n event after) : n.sec ≤ after.sec := by
  have single : ∀ {event : ObjectEvent ε κ}, n.onObjects event = .ok after → n.sec ≤ after.sec := by
    intro event done
    obtain ⟨objects, -, rfl⟩ := TimedNode.onObjects_ok done
    exact le_rfl
  obtain ⟨-, handled⟩ := taken
  cases event with
  | call call => exact single handled
  | createConnection c =>
      cases handled
      rw [TimedNode.addConnectionTimer_rest]
  | addEndpoint f =>
      cases handled
      rw [TimedNode.addEndpoint_rest]
  | removeEndpoint tid => exact single handled
  | disconnect id => exact single handled
  | addCheckList f => exact single handled
  | destroy f =>
      obtain ⟨objects, -, rfl⟩ := TimedNode.destroy_ok handled
      exact le_rfl
  | recv c failed m res ret =>
      cases handled
      exact (TimedNode.counts_onRecv c failed m res ret).sec.ge
  | allocSeq =>
      cases handled
      exact le_rfl
  | reset => rw [TimedNode.reset_ok handled]
  | clock sec usec =>
      cases handled
      rw [TimedNode.procTime_sec]
      exact le_max_left _ _
  | proc env sec =>
      obtain ⟨done, ended, rfl⟩ := TimedNode.proc_done handled
      exact (TimedNode.proc_fires sound ended).sec.ge

/-- The timers are kept, and the tables act as a map by id. -/
structure TimedNode.Orderly (n : TimedNode view κ) : Prop where
  timely : n.Timely
  keyed : n.objects.Keyed

theorem orderly_step (orderly : n.Orderly) (taken : timedStep n event after)
    (forward : Forward ⟨n, event, after⟩) (apart : AddsApart ⟨n, event, after⟩) :
    after.Orderly where
  timely := timely_step orderly.timely taken forward
  keyed := keyed_step orderly.keyed orderly.timely.settled taken apart

/-- While the endpoint is silent, an event that is no call of `proc` leaves its suspicion and its
    timers, or counts a fault. -/
theorem suspects_event {time : Nat} (orderly : n.Orderly)
    (bound : n.conf.faultTolerant + 1 < 2 ^ 64) (taken : timedStep n event after)
    (silent : Silent e ⟨n, event, after⟩) (other : ∀ env sec, event ≠ .proc env sec)
    (awaits : n.Awaits e time) : TimedNode.Suspects e 0 n after ∧ after.Awaits e time := by
  have same : after.conf = n.conf → after.stat e = n.stat e →
      (after.objects.Registered e → n.objects.Registered e) →
      (∀ entry ∈ n.pingList, entry ∈ after.pingList) →
      TimedNode.Suspects e 0 n after ∧ after.Awaits e time :=
    fun conf stat registered list => ⟨.same conf stat registered, awaits.kept registered list⟩
  have single : ∀ {event : ObjectEvent ε κ}, n.onObjects event = .ok after →
      event ≠ .addEndpoint e → TimedNode.Suspects e 0 n after ∧ after.Awaits e time := by
    intro event done quiet
    obtain ⟨objects, did, rfl⟩ := TimedNode.onObjects_ok done
    refine same rfl rfl (fun kept => ?_) fun _ member => member
    exact (NodeObjects.registered_handle orderly.timely.settled did kept).resolve_right quiet
  obtain ⟨allowed, handled⟩ := taken
  cases event with
  | call call => exact single handled (by simp)
  | createConnection c =>
      rw [TimedNode.handle, TimedNode.addConnectionTimer_rest] at handled
      cases handled
      exact same rfl rfl id fun _ member => member
  | addEndpoint f =>
      have apart : e ≠ f := fun same => silent.added (congrArg TimedEvent.addEndpoint same.symm)
      cases handled
      rw [TimedNode.addEndpoint_rest] at same ⊢
      refine same rfl rfl (fun kept => ?_) fun _ member => List.mem_append_left _ member
      exact (NodeObjects.registered_addEndpoint kept).resolve_left apart
  | removeEndpoint tid => exact single handled (by simp)
  | disconnect id => exact single handled (by simp)
  | addCheckList f => exact single handled (by simp)
  | destroy f =>
      obtain ⟨objects, did, rfl⟩ := TimedNode.destroy_ok handled
      refine same rfl rfl (fun kept => ?_) fun _ member => member
      exact (NodeObjects.registered_handle orderly.timely.settled did kept).resolve_right (by simp)
  | recv c failed m res ret =>
      cases handled
      have counts := TimedNode.counts_onRecv (n := n) c failed m res ret
      have list : ∀ entry ∈ n.pingList, entry ∈ (n.onRecv c failed m res ret).pingList := by
        rw [counts.pingList]
        exact fun _ member => member
      by_cases own : (n.objects.conns.conns c).binding = some e
      · have fault : n.onRecv c failed m res ret = n.bindingFault c := by
          unfold TimedNode.onRecv
          rcases silent.received c failed m res ret rfl own with error | none
          · rw [if_pos error]
          · rw [none]
            split
            · rfl
            · rfl
        refine ⟨?_, awaits.kept (counts.registered e) list⟩
        rw [fault]
        exact TimedNode.suspects_bindingFault c orderly.keyed bound
      · exact same counts.conf (TimedNode.stat_onRecv_of_ne failed m res ret own)
          (counts.registered e) list
  | allocSeq =>
      cases handled
      exact same rfl rfl id fun _ member => member
  | reset =>
      have cleared := TimedNode.reset_ok handled
      have none : ¬after.objects.Registered e := by
        rw [cleared]
        exact NodeObjects.not_registered rfl rfl rfl
      exact ⟨.gone (by rw [cleared]) none, fun kept => absurd kept none⟩
  | clock sec usec =>
      cases handled
      obtain ⟨stat, -, conf, -, list, -⟩ := n.procTime_rest sec usec
      refine same conf (congrFun stat e) (fun kept => ?_) fun _ member => ?_
      · rwa [TimedNode.procTime_objects] at kept
      · rwa [list]
  | proc env sec => exact absurd rfl (other env sec)

/-- A call of `proc` that comes later than the timer of a silent endpoint raises its suspicion. -/
theorem suspects_late {env : ProcEnv ε κ} {sec time : Nat} (orderly : n.Orderly)
    (bound : n.conf.faultTolerant + 1 < 2 ^ 64) (taken : timedStep n (.proc env sec) after)
    (silent : Silent e ⟨n, .proc env sec, after⟩) (awaits : n.Awaits e time) :
    TimedNode.Suspects e (if time < sec then 1 else 0) n after := by
  obtain ⟨done, ended, rfl⟩ := TimedNode.proc_done taken.2
  have raised : TimedNode.Suspects e _ n done.node :=
    TimedNode.suspects_proc orderly.timely orderly.keyed bound (silent.sequences env sec rfl)
      (silent.controlled env sec rfl) ended
  by_cases registered : done.node.objects.Registered e
  · refine raised.less ?_
    split
    · rename_i late
      obtain ⟨entry, member, rfl, waits⟩ := awaits (raised.registered registered)
      have due : isDue sec entry = true := by
        rw [isDue, decide_eq_true_eq]
        exact waits.trans_lt late
      rw [orderly.timely.pings.takeWhile_eq_filter]
      exact List.count_pos_iff.mpr (List.mem_map_of_mem (List.mem_filter.mpr ⟨member, due⟩))
    · exact Nat.zero_le _
  · exact .gone raised.conf registered

end

/-- What holds while an endpoint is silent: its suspicion has grown with every call of `proc` that
    was late, and its timer is at most an interval after the last one. -/
structure Watched (e : ε) (begun : TimedNode view κ) (times : List Nat)
    (n : TimedNode view κ) : Prop where
  orderly : n.Orderly
  suspects : TimedNode.Suspects e (lateTimes begun.conf.pingInterval begun.sec times) begun n
  awaits : n.Awaits e (times.getLastD begun.sec + begun.conf.pingInterval)
  last : times.getLastD begun.sec ≤ n.sec

theorem Watched.step {begun n after : TimedNode view κ} {times : List Nat} {event : TimedEvent ε κ}
    {e : ε} (watched : Watched e begun times n) (bound : begun.conf.faultTolerant + 1 < 2 ^ 64)
    (taken : timedStep n event after) (forward : Forward ⟨n, event, after⟩)
    (apart : AddsApart ⟨n, event, after⟩) (silent : Silent e ⟨n, event, after⟩) :
    Watched e begun (times ++ procTimes [⟨n, event, after⟩]) after := by
  have conf := watched.suspects.conf
  have bound' : n.conf.faultTolerant + 1 < 2 ^ 64 := by rwa [conf]
  have orderly := orderly_step watched.orderly taken forward apart
  by_cases called : ∃ env sec, event = .proc env sec
  · obtain ⟨env, sec, rfl⟩ := called
    have now : n.sec = sec := le_antisymm (forward env sec rfl) taken.1.1
    have raised := suspects_late watched.orderly bound' taken silent watched.awaits
    obtain ⟨done, ended, rfl⟩ := TimedNode.proc_done taken.2
    have fires := TimedNode.proc_fires watched.orderly.timely.settled ended
    have early : times.getLastD begun.sec + begun.conf.pingInterval ≤
        sec + n.conf.pingInterval := by
      rw [conf, ← now]
      exact Nat.add_le_add_right watched.last _
    have again := watched.awaits.proc watched.orderly.timely early ended
    have added : procTimes [⟨n, .proc env sec, done.node⟩] = [sec] := rfl
    rw [conf] at again
    refine ⟨orderly, ?_, ?_, ?_⟩
    · rw [added, lateTimes_append]
      exact watched.suspects.trans raised
    · rw [added, List.getLastD_concat]
      exact again
    · rw [added, List.getLastD_concat]
      exact (fires.sec.trans now).ge
  · have other : ∀ env sec, event ≠ .proc env sec := fun env sec same => called ⟨env, sec, same⟩
    obtain ⟨unchanged, awaits⟩ :=
      suspects_event watched.orderly bound' taken silent other watched.awaits
    have none : procTimes [⟨n, event, after⟩] = [] := by
      cases event with
      | proc env sec => exact absurd rfl (other env sec)
      | _ => rfl
    rw [none, List.append_nil]
    exact ⟨orderly, watched.suspects.trans unchanged, awaits,
      watched.last.trans (sec_mono watched.orderly.timely.settled taken)⟩

/-- A silent endpoint is removed: when from some moment on no message of an endpoint arrives, then
    after more calls of `proc`, each later than the interval of pings after the one before, than the
    tolerated faults and one more, it is registered no longer. -/
theorem silent_endpoint_removed {start begun n : TimedNode view κ} {e : ε}
    {before made : List (Transition (TimedNode view κ) (TimedEvent ε κ))} (initial : start.Initial)
    (mask : start.objects.self.childrenMask ≤ 30) (reached : Run timedStep start before begun)
    (run : Run timedStep begun made n) (forward : ∀ t ∈ before ++ made, Forward t)
    (apart : ∀ t ∈ before ++ made, AddsApart t) (interval : begun.conf.pingInterval ≠ 0)
    (bound : begun.conf.faultTolerant + 1 < 2 ^ 64) (countable : begun.Countable e)
    (silent : ∀ t ∈ made, Silent e t)
    (late :
      begun.conf.faultTolerant + 2 ≤ lateTimes begun.conf.pingInterval begun.sec (procTimes made)) :
    ¬n.objects.Registered e := by
  have begins : start.Orderly :=
    ⟨initial.timely, .empty mask initial.objects.1 initial.objects.2.1 initial.objects.2.2⟩
  have orderly : begun.Orderly := by
    have keeps : ∀ t : Transition (TimedNode view κ) (TimedEvent ε κ), t.pre.Orderly →
        timedStep t.pre t.label t.post → Forward t ∧ AddsApart t → t.post.Orderly :=
      fun _ inv taken met => orderly_step inv taken met.1 met.2
    refine reached.invariant begins keeps fun t member => ?_
    exact ⟨forward t (List.mem_append_left _ member), apart t (List.mem_append_left _ member)⟩
  have first : Watched e begun [] begun := by
    refine ⟨orderly, .same rfl rfl id, fun registered => ?_, le_rfl⟩
    obtain ⟨entry, member, own⟩ := List.mem_map.mp (orderly.timely.timed interval e registered)
    exact ⟨entry, member, own, orderly.timely.pings.within entry member⟩
  have watched : Watched e begun (procTimes made) n := by
    replace forward : ∀ t ∈ made, Forward t :=
      fun t member => forward t (List.mem_append_right _ member)
    replace apart : ∀ t ∈ made, AddsApart t :=
      fun t member => apart t (List.mem_append_right _ member)
    clear late reached
    induction run with
    | refl => exact first
    | @tail made s s' event run last ih =>
        have earlier :=
          ih (fun t member => silent t (by simp [member]))
            (fun t member => forward t (by simp [member]))
          fun t member => apart t (by simp [member])
        rw [procTimes, List.filterMap_append]
        exact earlier.step bound last (forward ⟨s, event, s'⟩ (by simp))
          (apart ⟨s, event, s'⟩ (by simp))
          (silent ⟨s, event, s'⟩ (by simp))
  intro registered
  have most := watched.suspects.grows registered countable
  have limit := TimedNode.suspicion_le (n := n) (e := e)
  rw [watched.suspects.conf] at limit
  omega

theorem TimedNode.apart_calls {n : TimedNode sameId Nat} {sec : Nat} :
    ∀ t ∈ n.calls sec, AddsApart t := by
  intro t member e label
  rcases TimedNode.mem_calls.mp member with rfl | rfl
  · cases label
  · cases label

theorem TimedNode.run_watched_apart :
    ∃ made, Run timedStep created made watched ∧ (∀ t ∈ made, Forward t) ∧
      ∀ t ∈ made, AddsApart t := by
  have added : timedStep created (.addEndpoint 0) (created.addEndpoint 0).2 := ⟨rfl, rfl⟩
  have bound : timedStep (created.addEndpoint 0).2 (.call (.addConnection 0 (some 10) false))
      watched := ⟨trivial, rfl⟩
  have apart : created.objects.AddsApart (.addEndpoint 0) := by
    refine ⟨by decide, ?_⟩
    rw [BusNode.TakesApart, if_neg (by decide)]
    intro father known
    cases known
  refine ⟨_, (Run.refl.tail added).tail bound, fun t member env sec label => ?_,
    fun t member e label => ?_⟩
  all_goals
    simp only [List.nil_append, List.cons_append, List.mem_cons, List.not_mem_nil,
      or_false] at member
    rcases member with rfl | rfl
    · cases label
      try exact apart
    · cases label

theorem TimedNode.silent_calls {n : TimedNode sameId Nat} {sec : Nat}
    (sequences : n.msgSeq.toNat + n.pingList.length + 1 < 2 ^ 32)
    (controlled : (n.after sec).objects.Registered 0 → ((n.after sec).ctrlConnection 0).isSome) :
    ∀ t ∈ n.calls sec, Silent 0 t := by
  obtain ⟨-, -, -, seq, list, -⟩ := n.procTime_rest sec 0
  intro t member
  rcases TimedNode.mem_calls.mp member with rfl | rfl
  · exact ⟨by simp, by simp, by simp, by simp⟩
  · refine ⟨by simp, by simp, fun _ _ _ => ?_, fun _ _ _ => controlled⟩
    dsimp only
    rwa [seq, list]

/-- Without tolerated faults the second ping in vain is the last one. -/
theorem silent_endpoint_removed_watched :
    ∃ made, Run timedStep TimedNode.created made ((TimedNode.watched.after 200).after 300) ∧
      ¬((TimedNode.watched.after 200).after 300).objects.Registered 0 := by
  obtain ⟨made, run, forward, apart⟩ := TimedNode.run_watched_apart
  have first := @TimedNode.run_calls TimedNode.watched 200 _ (by decide) rfl
  have second := @TimedNode.run_calls (TimedNode.watched.after 200) 300 _ (by decide +kernel) rfl
  have pinged := first.append second
  have later : ∀ t ∈ TimedNode.watched.calls 200 ++ (TimedNode.watched.after 200).calls 300,
      Forward t ∧ AddsApart t ∧ Silent 0 t := by
    intro t member
    rcases List.mem_append.mp member with one | two
    · refine ⟨TimedNode.forward_calls (by decide) t one, TimedNode.apart_calls t one,
        TimedNode.silent_calls (by decide) (fun _ => by decide +kernel) t one⟩
    · refine ⟨TimedNode.forward_calls (by decide +kernel) t two, TimedNode.apart_calls t two,
        TimedNode.silent_calls (by decide +kernel) (fun kept => ?_) t two⟩
      rcases kept with father | brother | child
      · cases father
      · have none : ((TimedNode.watched.after 200).after 300).objects.brother.objects = [] := by
          decide +kernel
        rw [none] at brother
        cases brother
      · cases child
  refine ⟨_, run.append pinged,
    silent_endpoint_removed TimedNode.created_initial (by decide) run pinged ?_ ?_
    (by decide) (by decide) (by rw [TimedNode.Countable]; decide)
    (fun t member => (later t member).2.2)
    (by decide)⟩
  · intro t member
    exact (List.mem_append.mp member).elim (forward t) fun called => (later t called).1
  · intro t member
    exact (List.mem_append.mp member).elim (apart t) fun called => (later t called).2.1

end LibAtbus.Node
