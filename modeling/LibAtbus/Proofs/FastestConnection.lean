/-
Module: LibAtbus.Proofs.FastestConnection
Layer: Proofs
Purpose: Which data connection an endpoint chooses. The three tests of the search come to one: the
  flag ACCESS_SHARE_HOST is not set, or the host names are the same. Neither the search nor the sort
  looks at the channel of a connection, and connections whose flags are the same are tried in the
  order in which they were bound.
Trusted boundary: none
Main exports: Usable, Serves, Fastest, ChoosesFastest, Admitted, TriedBefore, WellPlaced,
  getDataConnection_cases, data_connection_fastest_iff, stream_before_memory
-/
import LibAtbus.Foundation.StableOrder
import LibAtbus.Node.DataConnection
import LibAtbus.Proofs.ConnectionBinding
import LibAtbus.Proofs.SetupFailure

namespace LibAtbus.Node

open Channel StableOrder

universe u v

/-- The channels in the order of their speed. -/
def Transport.rank : Transport → Nat
  | .mem => 0
  | .shm => 1
  | .ios => 2

/-- The order of the flags: ACCESS_SHARE_ADDR counts for more than ACCESS_SHARE_HOST. -/
def LinkTraits.flagRank (conn : LinkTraits) : Nat :=
  2 * (!conn.accessShareAddr).toNat + (!conn.accessShareHost).toNat

theorem flags_lt_iff : ∀ leftAddr leftHost rightAddr rightHost : Bool,
    (if leftAddr ≠ rightAddr then leftAddr else if leftHost ≠ rightHost then leftHost else false) =
      true ↔
      2 * (!leftAddr).toNat + (!leftHost).toNat < 2 * (!rightAddr).toNat + (!rightHost).toNat := by
  decide

theorem sortConnectionCmpFn_iff {left right : LinkTraits} :
    sortConnectionCmpFn left right = true ↔ left.flagRank < right.flagRank :=
  flags_lt_iff _ _ _ _

theorem sortConnectionCmpFn_eq_false_iff {left right : LinkTraits} :
    sortConnectionCmpFn right left = false ↔ left.flagRank ≤ right.flagRank := by
  rw [← Bool.not_eq_true, sortConnectionCmpFn_iff, Nat.not_lt]

namespace DataLinks

variable {ε : Type u} {κ : Type v}

section

variable (w : DataLinks ε κ)

/-! ### What is to be chosen -/

/-- Memory is only shared within a process, and shared memory only within a machine. -/
def Usable (own ep : ε) (c : κ) : Prop :=
  match (w.conns c).transport with
  | .mem => (w.endpoints ep).hostname = (w.endpoints own).hostname ∧
      (w.endpoints ep).pid = (w.endpoints own).pid
  | .shm => (w.endpoints ep).hostname = (w.endpoints own).hostname
  | .ios => True

/-- A data connection that is there and can be used. -/
structure Serves (own ep : ε) (c : κ) : Prop where
  member : c ∈ (w.bindings.endpoints ep).data
  connected : (w.bindings.conns c).state = .connected
  usable : w.Usable own ep c

/-- One of the fastest of these. -/
structure Fastest (own ep : ε) (c : κ) : Prop where
  serves : w.Serves own ep c
  least : ∀ d, w.Serves own ep d → (w.conns c).transport.rank ≤ (w.conns d).transport.rank

/-- A fastest data connection is chosen, and the control connection when there is none that can be
    used. -/
structure ChoosesFastest [DecidableEq ε] (own ep : ε) : Prop where
  fastest : (∃ c, w.Serves own ep c) →
    ∃ c, (w.getDataConnection own (some ep)).1 = some c ∧ w.Fastest own ep c
  control : (w.getDataConnection own (some ep)).1 = w.getCtrlConnection own (some ep) ↔ ¬∃ c,
    w.Serves own ep c

/-! ### What is chosen -/

/-- The flags let the search take the data connection. -/
structure Admitted (own ep : ε) (c : κ) : Prop where
  member : c ∈ (w.bindings.endpoints ep).data
  connected : (w.bindings.conns c).state = .connected
  host : (w.conns c).accessShareHost = true → (w.endpoints ep).hostname = (w.endpoints own).hostname

/-- The first data connection is tried before the other one: it has been sorted there already, or it
    will be for its flags, or because it was bound first and its flags are the same. -/
def TriedBefore (ep : ε) (c d : κ) : Prop :=
  if (w.endpoints ep).sorted then Before (w.bindings.endpoints ep).data c d
  else
    sortConnectionCmpFn (w.conns d) (w.conns c) = false ∧
      (sortConnectionCmpFn (w.conns c) (w.conns d) = true ∨
        Before (w.bindings.endpoints ep).data c d)

/-- What the flags let through, though it cannot be used or is not among the fastest, is tried after
    something that is; and they let something through when there is a connection that can be
    used. -/
structure WellPlaced (own ep : ε) : Prop where
  placed : ∀ d, w.Admitted own ep d → ¬w.Fastest own ep d →
    ∃ c, w.Admitted own ep c ∧ w.Fastest own ep c ∧ w.TriedBefore ep c d
  admitted : (∃ c, w.Serves own ep c) → ∃ c, w.Admitted own ep c

/-- Whether the search takes a connection. -/
def takes (own ep : ε) [DecidableEq ε] (c : κ) : Bool :=
  decide ((w.bindings.conns c).state = .connected) &&
    (decide ((w.endpoints ep).hostname = (w.endpoints own).hostname) ||
      !(w.conns c).accessShareHost)

end

variable [DecidableEq ε] {w : DataLinks ε κ} {own ep : ε} {c d : κ}

theorem admitted_iff : w.Admitted own ep c ↔ c ∈ (w.bindings.endpoints ep).data ∧
    w.takes own ep c = true := by
  rw [takes, Bool.and_eq_true, Bool.or_eq_true, decide_eq_true_iff, decide_eq_true_iff,
    Bool.not_eq_true', ← Bool.not_eq_true, or_comm, ← imp_iff_not_or]
  constructor
  · rintro ⟨member, connected, host⟩
    exact ⟨member, connected, host⟩
  · rintro ⟨member, connected, host⟩
    exact ⟨member, connected, host⟩

/-! ### The order -/

/-- The data connections in the order in which they are tried. -/
def order (w : DataLinks ε κ) (ep : ε) : List κ :=
  ((w.sortConnections ep).bindings.endpoints ep).data

/-- The first connection may stay before the second one when they are sorted. -/
abbrev NotAfter (w : DataLinks ε κ) (c d : κ) : Prop :=
  sortConnectionCmpFn (w.conns d) (w.conns c) = false

omit [DecidableEq ε] in
theorem notAfter_iff : w.NotAfter c d ↔ (w.conns c).flagRank ≤ (w.conns d).flagRank :=
  sortConnectionCmpFn_eq_false_iff

instance : Std.Total w.NotAfter :=
  ⟨fun _ _ => (Nat.le_total _ _).imp notAfter_iff.mpr notAfter_iff.mpr⟩

instance : IsTrans κ w.NotAfter :=
  ⟨fun _ _ _ first second =>
    notAfter_iff.mpr (Nat.le_trans (notAfter_iff.mp first) (notAfter_iff.mp second))⟩

theorem order_eq : w.order ep =
    if (w.endpoints ep).sorted then (w.bindings.endpoints ep).data
    else (w.bindings.endpoints ep).data.insertionSort w.NotAfter := by
  rw [order, sortConnections]
  split
  · rfl
  · rw [Bindings.setEndpoint_endpoints_self]

theorem order_perm : (w.order ep).Perm (w.bindings.endpoints ep).data := by
  rw [order_eq]
  split
  · exact List.Perm.refl _
  · exact List.perm_insertionSort _ _

theorem before_order_iff (once : (w.bindings.endpoints ep).data.Nodup)
    (memberC : c ∈ (w.bindings.endpoints ep).data) (memberD : d ∈ (w.bindings.endpoints ep).data) :
    Before (w.order ep) c d ↔ w.TriedBefore ep c d := by
  rw [order_eq, TriedBefore]
  split
  · exact Iff.rfl
  · rw [before_insertionSort_iff once memberC memberD, Bool.not_eq_false]

/-! ### The search -/

omit [DecidableEq ε] in
/-- The three tests are one. -/
theorem firstDataConnection_eq {sharePid shareHost : Bool}
    (sameProcess : sharePid = true → shareHost = true) (tried : List κ) :
    w.firstDataConnection sharePid shareHost tried = tried.find? fun c =>
      decide ((w.bindings.conns c).state = .connected) &&
        (shareHost || !(w.conns c).accessShareHost) := by
  induction tried with
  | nil => rfl
  | cons c rest ih =>
      rw [firstDataConnection, List.find?_cons, ih]
      by_cases connected : (w.bindings.conns c).state = .connected
      · rw [if_neg (not_not.mpr connected), decide_eq_true connected, Bool.true_and]
        cases host : (w.conns c).accessShareHost with
        | false => simp
        | true =>
            cases shareHost with
            | true => simp
            | false =>
                have apart : sharePid = false := by
                  rw [← Bool.not_eq_true]
                  intro same
                  cases sameProcess same
                simp [apart]
      · rw [if_pos connected, decide_eq_false connected, Bool.false_and]

/-- The search is for the first data connection that the flags let through. -/
theorem getDataConnection_eq (distinct : own ≠ ep) : (w.getDataConnection own (some ep)).1 =
    match (w.order ep).find? (w.takes own ep) with
    | some c => some c
    | none => w.getCtrlConnection own (some ep) := by
  have states : (w.sortConnections ep).bindings.conns = w.bindings.conns := by
    rw [sortConnections]
    split <;> rfl
  have traits : (w.sortConnections ep).conns = w.conns := by
    rw [sortConnections]
    split <;> rfl
  have control : (w.sortConnections ep).getCtrlConnection own (some ep) = w.getCtrlConnection own
      (some ep) := by
    rw [getCtrlConnection, getCtrlConnection, if_neg distinct, if_neg distinct, states]
    congr 1
    rw [sortConnections]
    split
    · rfl
    · rw [Bindings.setEndpoint_endpoints_self]
  have sameProcess : ∀ {host pid : Bool}, (host && pid) = true → host = true := by
    intro host pid both
    exact (Bool.and_eq_true _ _ ▸ both).1
  rw [getDataConnection, if_neg distinct]
  dsimp only
  rw [firstDataConnection_eq sameProcess, states, traits, control]
  change Prod.fst (match (w.order ep).find? (w.takes own ep) with
    | some c => (some c, _)
    | none => (_, _)) = _
  split <;> rfl

/-- What is chosen: a data connection that the flags let through, before which no other one is
    tried, or the control connection when there is none. -/
theorem getDataConnection_cases (bound : w.bindings.Bound) (distinct : own ≠ ep) :
    (∃ c, (w.getDataConnection own (some ep)).1 = some c ∧ w.Admitted own ep c ∧
      ∀ d, w.Admitted own ep d → d ≠ c → w.TriedBefore ep c d ∧ ¬w.TriedBefore ep d c) ∨
    (w.getDataConnection own (some ep)).1 = w.getCtrlConnection own (some ep) ∧
    ∀ c, ¬w.Admitted own ep c := by
  have once : (w.bindings.endpoints ep).data.Nodup := bound.data_nodup
  rw [getDataConnection_eq distinct]
  cases found : (w.order ep).find? (w.takes own ep) with
  | none =>
      refine .inr ⟨rfl, fun c admitted => ?_⟩
      obtain ⟨member, taken⟩ := admitted_iff.mp admitted
      exact List.find?_eq_none.mp found c (order_perm.mem_iff.mpr member) taken
  | some c =>
      have member : c ∈ (w.bindings.endpoints ep).data :=
        order_perm.mem_iff.mp (List.mem_of_find?_eq_some found)
      refine .inl ⟨c, rfl, admitted_iff.mpr ⟨member, List.find?_some found⟩,
        fun d admitted different => ?_⟩
      obtain ⟨memberD, taken⟩ := admitted_iff.mp admitted
      have before := before_of_find? found (order_perm.mem_iff.mpr memberD) taken different
      rw [← before_order_iff once member memberD, ← before_order_iff once memberD member]
      exact ⟨before, before.asymm (order_perm.nodup_iff.mpr once)⟩

/-- A data connection is not the control connection. -/
theorem ne_ctrl (bound : w.bindings.Bound) (member : c ∈ (w.bindings.endpoints ep).data) :
    w.getCtrlConnection own (some ep) ≠ some c := by
  intro same
  rw [getCtrlConnection] at same
  split at same
  · cases same
  · exact (bound.mem_data member).2 (Option.eq_some_of_filter_eq_some same)

/-- The fastest connection is chosen exactly if the flags and the order of binding put one first. -/
theorem data_connection_fastest_iff (bound : w.bindings.Bound) (distinct : own ≠ ep) :
    w.ChoosesFastest own ep ↔ w.WellPlaced own ep := by
  rcases getDataConnection_cases bound distinct with ⟨c, chosen, admitted, first⟩ | ⟨control, none⟩
  · have notControl : (w.getDataConnection own (some ep)).1 ≠ w.getCtrlConnection own
        (some ep) := by
      rw [chosen]
      exact (ne_ctrl bound admitted.member).symm
    constructor
    · intro right
      have serves : ∃ c, w.Serves own ep c := by
        by_contra none
        exact notControl (right.control.mpr none)
      obtain ⟨c', chosen', fastest⟩ := right.fastest serves
      obtain rfl : c = c' := Option.some.inj (chosen.symm.trans chosen')
      refine ⟨fun d admittedD slower => ⟨c, admitted, fastest, (first d admittedD ?_).1⟩,
        fun _ => ⟨c, admitted⟩⟩
      rintro rfl
      exact slower fastest
    · intro placed
      have fastest : w.Fastest own ep c := by
        by_contra slower
        obtain ⟨d, admittedD, fastest, before⟩ := placed.placed c admitted slower
        refine (first d admittedD ?_).2 before
        rintro rfl
        exact slower fastest
      refine ⟨fun _ => ⟨c, chosen, fastest⟩, iff_of_false notControl ?_⟩
      exact not_not.mpr ⟨c, fastest.serves⟩
  · constructor
    · intro right
      refine ⟨fun d admitted => absurd admitted (none d), fun serves => ?_⟩
      exact absurd serves (right.control.mp control)
    · intro placed
      have noServes : ¬∃ c, w.Serves own ep c := by
        intro serves
        obtain ⟨c, admitted⟩ := placed.admitted serves
        exact none c admitted
      exact ⟨fun serves => absurd serves noServes, iff_of_true control noServes⟩

end DataLinks

/-! ### Connections of `node::connect` -/

namespace DataLinks

section

variable {ε : Type u} {κ : Type v} [DecidableEq ε] [DecidableEq κ] {w : DataLinks ε κ} {e : ε}
  {c : κ} {text : List Char} {env : SetupEnv}

theorem connect_settled (settled : w.bindings.Settled) :
    (w.connect e c text env).2.bindings.Settled := by
  rw [DataLinks.connect]
  split
  · exact settled
  · split
    · exact settled
    · have bound : (w.bindings.setConn c fun old =>
          { old with
            state := ((ConnectionNode.fresh.connectConn 0 text env).node.conns 0).state }).Bound :=
        settled.bound.setConn rfl
      exact Bindings.addConnection_spec bound (settled.quiet.setConn rfl) e (some c) _

end

end DataLinks

namespace ChoiceSample

/-- Two endpoints of one process. -/
def start : DataLinks Nat Nat :=
  { bindings := .fresh, conns := fun _ => {},
      endpoints := fun _ => { hostname := "host".toList, pid := 1000 } }

def controlled : DataLinks Nat Nat := (start.connect 1 0 "ipv4://127.0.0.1:16387".toList default).2

def memory : DataLinks Nat Nat := (controlled.connect 1 1 "mem://4660".toList default).2

def stream : DataLinks Nat Nat := (controlled.connect 1 1 "ipv4://127.0.0.1:16388".toList default).2

/-- The stream channel has called back for the connection. -/
def calledBack (w : DataLinks Nat Nat) (c : Nat) : DataLinks Nat Nat :=
  { w with bindings := w.bindings.setConn c fun conn => { conn with state := .connected } }

/-- The stream comes after the memory channel. -/
def memoryFirst : DataLinks Nat Nat :=
  calledBack (memory.connect 1 2 "ipv4://127.0.0.1:16388".toList default).2 2

/-- The memory channel comes after the stream. -/
def both : DataLinks Nat Nat := ((calledBack stream 1).connect 1 2 "mem://4660".toList default).2

theorem controlled_settled : controlled.bindings.Settled :=
  DataLinks.connect_settled Bindings.fresh_initial.settled

theorem calledBack_settled {w : DataLinks Nat Nat} {c : Nat} (settled : w.bindings.Settled) :
    (calledBack w c).bindings.Settled := by
  have connected : (w.bindings.setConn c fun conn => { conn with state := .connected }).Settled :=
    ⟨settled.bound.setConn rfl, settled.quiet.setConn rfl⟩
  exact connected

theorem memoryFirst_settled : memoryFirst.bindings.Settled :=
  calledBack_settled (DataLinks.connect_settled (DataLinks.connect_settled controlled_settled))

theorem both_settled : both.bindings.Settled :=
  DataLinks.connect_settled (calledBack_settled (DataLinks.connect_settled controlled_settled))

end ChoiceSample

open ChoiceSample in
/-- The memory channel has been bound first, and is chosen before the stream, which is there as
    well. -/
theorem data_connection_fastest_iff_memory :
    memoryFirst.Serves 0 1 2 ∧ memoryFirst.ChoosesFastest 0 1 := by
  have data : (memoryFirst.bindings.endpoints 1).data = [1, 2] := rfl
  have memory : memoryFirst.Serves 0 1 1 := ⟨by decide, rfl, rfl, rfl⟩
  have stream : memoryFirst.Serves 0 1 2 := ⟨by decide, rfl, trivial⟩
  have fastest : memoryFirst.Fastest 0 1 1 := ⟨memory, fun d _ => Nat.zero_le _⟩
  have admitted : memoryFirst.Admitted 0 1 1 :=
    ⟨memory.member, rfl, fun flagged => by cases flagged⟩
  refine ⟨stream,
    (DataLinks.data_connection_fastest_iff memoryFirst_settled.bound (by decide)).mpr ?_⟩
  refine ⟨fun d admittedD slower => ⟨1, admitted, fastest, ?_⟩, fun _ => ⟨1, admitted⟩⟩
  have member := admittedD.member
  rw [data] at member
  simp only [List.mem_cons, List.not_mem_nil, or_false] at member
  rcases member with rfl | rfl
  · exact absurd fastest slower
  · exact ⟨rfl, .inr (List.Sublist.refl [1, 2])⟩

open ChoiceSample in
/-- The stream channel has been bound first, and is chosen. -/
theorem stream_before_memory : ¬∀ (w : DataLinks Nat Nat) (own ep : Nat), w.bindings.Bound →
    own ≠ ep → w.ChoosesFastest own ep := by
  intro claim
  have right := claim both 0 1 both_settled.bound (by decide)
  have chosen : (both.getDataConnection 0 (some 1)).1 = some 1 := rfl
  have serves : both.Serves 0 1 2 := ⟨by decide, rfl, rfl, rfl⟩
  obtain ⟨c, chosen', fastest⟩ := right.fastest ⟨2, serves⟩
  obtain rfl : 1 = c := Option.some.inj (chosen.symm.trans chosen')
  have least := fastest.least 2 serves
  revert least
  decide

end LibAtbus.Node
