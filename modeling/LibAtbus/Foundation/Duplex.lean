/-
Module: LibAtbus.Foundation.Duplex
Layer: Foundation
Purpose: Two parties and a channel in each direction that reorders nothing, and loses only what its
  sender may lose. A party acts by itself, or on the oldest message that arrived, and sends messages
  to the other. What relates one party, what is on its way to it and the other party holds in every
  state, when it is kept by what either does. The messages of a kind that are taken are bounded,
  when each of them weighs more than what it leads to.
Trusted boundary: none
Main exports: Peer, Duplex, Duplex.become, Protocol, DuplexStep, Duplex.weight, DuplexStep.keeps,
  DuplexStep.party, Run.acting, Run.taking, Run.losing, Run.duplex_invariant, Run.takes_le
-/
import LibAtbus.Foundation.Transitions
import Mathlib

namespace LibAtbus.Transitions

universe u v w

/-- One of two parties. -/
inductive Peer where
  | left
  | right
deriving DecidableEq, Repr

/-- The other party. -/
def Peer.other : Peer → Peer
  | .left => .right
  | .right => .left

@[simp] theorem Peer.other_other (s : Peer) : s.other.other = s := by
  cases s with
  | left => rfl
  | right => rfl

theorem Peer.other_ne (s : Peer) : s.other ≠ s := by
  cases s with
  | left => exact fun same => nomatch same
  | right => exact fun same => nomatch same

theorem Peer.eq_other {s t : Peer} (differ : t ≠ s) : t = s.other := by
  cases s with
  | left =>
      cases t with
      | left => exact absurd rfl differ
      | right => rfl
  | right =>
      cases t with
      | left => rfl
      | right => exact absurd rfl differ

/-- Two parties, and the messages on their way to each of them, oldest first. -/
structure Duplex (σ : Type u) (μ : Type v) where
  party : Peer → σ
  inbox : Peer → List μ

variable {σ : Type u} {μ : Type v} {ε : Type w}

/-- A party changed, with what is left of its messages and what it sent. -/
def Duplex.become (d : Duplex σ μ) (s : Peer) (after : σ) (rest sent : List μ) : Duplex σ μ where
  party := Function.update d.party s after
  inbox t := if t = s then rest else d.inbox t ++ sent

section

variable {d : Duplex σ μ} {s : Peer} {after : σ} {rest sent : List μ}

@[simp] theorem Duplex.become_party : (d.become s after rest sent).party s = after :=
  Function.update_self ..

@[simp] theorem Duplex.become_party_other :
    (d.become s after rest sent).party s.other = d.party s.other :=
  Function.update_of_ne s.other_ne ..

@[simp] theorem Duplex.become_inbox : (d.become s after rest sent).inbox s = rest := if_pos rfl

@[simp] theorem Duplex.become_inbox_other :
    (d.become s after rest sent).inbox s.other = d.inbox s.other ++ sent := if_neg s.other_ne

end

/-- What a party may do on an event, by itself or with the oldest message that arrived, and which of
    its messages it may lose on their way. -/
structure Protocol (σ : Type u) (μ : Type v) (ε : Type w) where
  behaves : Peer → ε → σ → Option μ → σ → List μ → Prop
  loses : σ → μ → Prop

/-- What happens to a party: it acts by itself, it takes the oldest message that arrived, or that
    message is lost. -/
inductive Occurrence (μ : Type v) (ε : Type w) where
  | acted (event : ε)
  | took (event : ε) (m : μ)
  | lost (m : μ)

/-- One event at a party, or the loss of a message to it. -/
inductive DuplexStep (p : Protocol σ μ ε) (d : Duplex σ μ) :
    Peer × Occurrence μ ε → Duplex σ μ → Prop where
  | act {s : Peer} {event : ε} {after : σ} {sent : List μ}
      (acted : p.behaves s event (d.party s) none after sent) :
      DuplexStep p d (s, .acted event) (d.become s after (d.inbox s) sent)
  | take {s : Peer} {event : ε} {m : μ} {after : σ} {rest sent : List μ}
      (arrived : d.inbox s = m :: rest)
      (acted : p.behaves s event (d.party s) (some m) after sent) :
      DuplexStep p d (s, .took event m) (d.become s after rest sent)
  | lose {s : Peer} {m : μ} {rest : List μ} (arrived : d.inbox s = m :: rest)
      (lost : p.loses (d.party s.other) m) :
      DuplexStep p d (s, .lost m) (d.become s (d.party s) rest [])

/-- A transition in which a message of a kind is taken. -/
def takes (counted : μ → Bool) (t : Transition (Duplex σ μ) (Peer × Occurrence μ ε)) : Bool :=
  match t.label.2 with
  | .acted _ => false
  | .took _ m => counted m
  | .lost _ => false

/-- What the parties and the messages on their way weigh. -/
def Duplex.weight (d : Duplex σ μ) (party : σ → Nat) (message : μ → Nat) : Nat :=
  party (d.party .left) + ((d.inbox .left).map message).sum +
    (party (d.party .right) + ((d.inbox .right).map message).sum)

section

variable {p : Protocol σ μ ε} {start d after : Duplex σ μ}
  {made : List (Transition (Duplex σ μ) (Peer × Occurrence μ ε))}
  {link : Peer → σ → List μ → σ → Prop}

/-- What holds of each party, what is on its way to it and the other party is kept by a step, when
    it is kept for both by what a party does, and by a loss. -/
theorem DuplexStep.keeps (holds : ∀ s, link s (d.party s) (d.inbox s) (d.party s.other))
    {label : Peer × Occurrence μ ε} (taken : DuplexStep p d label after)
    (acts : ∀ s event mine m mine' rest back sent theirs, p.behaves s event mine m mine' sent →
      link s mine (m.toList ++ rest) theirs → link s.other theirs back mine →
        link s mine' rest theirs ∧ link s.other theirs (back ++ sent) mine')
    (lost : ∀ s mine m rest theirs, p.loses theirs m → link s mine (m :: rest) theirs →
      link s mine rest theirs) :
    ∀ s, link s (after.party s) (after.inbox s) (after.party s.other) := by
  have both : ∀ {s : Peer} {mine : σ} {rest sent : List μ}, link s mine rest (d.party s.other) →
      link s.other (d.party s.other) (d.inbox s.other ++ sent) mine →
        ∀ t, link t ((d.become s mine rest sent).party t) ((d.become s mine rest sent).inbox t)
          ((d.become s mine rest sent).party t.other) := by
    intro s mine rest sent own other t
    by_cases same : t = s
    · rw [same, Duplex.become_party, Duplex.become_inbox, Duplex.become_party_other]
      exact own
    · rw [Peer.eq_other same, Peer.other_other, Duplex.become_party, Duplex.become_inbox_other,
        Duplex.become_party_other]
      exact other
  have theirs : ∀ s : Peer, link s.other (d.party s.other) (d.inbox s.other) (d.party s) := by
    intro s
    have other := holds s.other
    rwa [Peer.other_other] at other
  cases taken with
  | @act s event mine sent acted =>
      obtain ⟨own, other⟩ := acts s event _ none _ (d.inbox s) _ _ _ acted (holds s) (theirs s)
      exact both own other
  | @take s event m mine rest sent arrived acted =>
      have mine' := holds s
      rw [arrived] at mine'
      obtain ⟨own, other⟩ := acts s event _ (some m) _ rest _ _ _ acted mine' (theirs s)
      exact both own other
  | @lose s m rest arrived gone =>
      have mine' := holds s
      rw [arrived] at mine'
      refine both (lost s _ m rest _ gone mine') ?_
      rw [List.append_nil]
      exact theirs s

/-- A step leaves a party as it is, or is what that party does. -/
theorem DuplexStep.party {label : Peer × Occurrence μ ε} (taken : DuplexStep p d label after)
    (s : Peer) :
    after.party s = d.party s ∨
      (∃ event sent, label = (s, .acted event) ∧
        p.behaves s event (d.party s) none (after.party s) sent) ∨
      ∃ event m sent, label = (s, .took event m) ∧
        p.behaves s event (d.party s) (some m) (after.party s) sent := by
  have stays : ∀ {t : Peer} {mine : σ} {rest sent : List μ}, s ≠ t →
      (d.become t mine rest sent).party s = d.party s :=
    fun differ => Function.update_of_ne differ ..
  cases taken with
  | @act t event mine sent acted =>
      by_cases own : s = t
      · subst own
        refine .inr (.inl ⟨event, sent, rfl, ?_⟩)
        rwa [Duplex.become_party]
      · exact .inl (stays own)
  | @take t event m mine rest sent arrived acted =>
      by_cases own : s = t
      · subst own
        refine .inr (.inr ⟨event, m, sent, rfl, ?_⟩)
        rwa [Duplex.become_party]
      · exact .inl (stays own)
  | @lose t m rest arrived gone =>
      by_cases own : s = t
      · subst own
        exact .inl Duplex.become_party
      · exact .inl (stays own)

/-- A run goes on with what a party does by itself. -/
theorem Run.acting (run : Run (DuplexStep p) start made d) (s : Peer) (event : ε) {mine : σ}
    {sent : List μ} (acted : p.behaves s event (d.party s) none mine sent) :
    Run (DuplexStep p) start (made ++ [⟨d, (s, .acted event), d.become s mine (d.inbox s) sent⟩])
      (d.become s mine (d.inbox s) sent) :=
  run.tail (.act acted)

/-- A run goes on with what a party does on the oldest message that arrived. -/
theorem Run.taking (run : Run (DuplexStep p) start made d) (s : Peer) (event : ε) {m : μ} {mine : σ}
    {rest sent : List μ} (arrived : d.inbox s = m :: rest)
    (acted : p.behaves s event (d.party s) (some m) mine sent) :
    Run (DuplexStep p) start (made ++ [⟨d, (s, .took event m), d.become s mine rest sent⟩])
      (d.become s mine rest sent) :=
  run.tail (.take arrived acted)

/-- A run goes on with the loss of messages that may be lost. -/
theorem Run.losing (run : Run (DuplexStep p) start made d) (s : Peer) {gone rest : List μ}
    (arrived : d.inbox s = gone ++ rest) (lost : ∀ m ∈ gone, p.loses (d.party s.other) m) :
    ∃ more after, Run (DuplexStep p) start more after ∧ after.party = d.party ∧
      after.inbox s = rest ∧ after.inbox s.other = d.inbox s.other := by
  induction gone generalizing made d with
  | nil => exact ⟨made, d, run, rfl, arrived, rfl⟩
  | cons m gone ih =>
      have step : Run (DuplexStep p) start _ (d.become s (d.party s) (gone ++ rest) []) :=
        run.tail (.lose arrived (lost m List.mem_cons_self))
      have party : (d.become s (d.party s) (gone ++ rest) []).party = d.party :=
        Function.update_eq_self ..
      obtain ⟨more, after, run', party', mine, theirs⟩ :=
        ih step Duplex.become_inbox fun m member => by
        rw [party]
        exact lost m (List.mem_cons_of_mem _ member)
      exact ⟨more, after, run', party'.trans party, mine,
        theirs.trans (Duplex.become_inbox_other.trans (List.append_nil _))⟩

/-- The invariant rule for two parties. -/
theorem Run.duplex_invariant (run : Run (DuplexStep p) start made d)
    (begins : ∀ s, link s (start.party s) (start.inbox s) (start.party s.other))
    (acts : ∀ s event mine m mine' rest back sent theirs, p.behaves s event mine m mine' sent →
      link s mine (m.toList ++ rest) theirs → link s.other theirs back mine →
        link s mine' rest theirs ∧ link s.other theirs (back ++ sent) mine')
    (lost : ∀ s mine m rest theirs, p.loses theirs m → link s mine (m :: rest) theirs →
      link s mine rest theirs) : ∀ s, link s (d.party s) (d.inbox s) (d.party s.other) := by
  induction run with
  | refl => exact begins
  | tail _ last ih => exact DuplexStep.keeps ih last acts lost

/-- What a party gives up and what it takes cover what it becomes and what it sends, in the weight
    of all. -/
theorem Duplex.weight_become {party : σ → Nat} {message : μ → Nat} {s : Peer} {mine : σ}
    {taken rest sent : List μ} {cost : Nat} (arrived : d.inbox s = taken ++ rest)
    (pays :
      party mine + (sent.map message).sum + cost ≤ party (d.party s) + (taken.map message).sum) :
    (d.become s mine rest sent).weight party message + cost ≤ d.weight party message := by
  have own := congrArg (fun inbox => (inbox.map message).sum) arrived
  simp only [List.map_append, List.sum_append] at own
  cases s with
  | left =>
      have sends : (d.become .left mine rest sent).inbox .right = d.inbox .right ++ sent :=
        become_inbox_other
      have stays : (d.become .left mine rest sent).party .right = d.party .right :=
        become_party_other
      rw [weight, weight, become_party, become_inbox, sends, stays, List.map_append,
        List.sum_append]
      omega
  | right =>
      have sends : (d.become .right mine rest sent).inbox .left = d.inbox .left ++ sent :=
        become_inbox_other
      have stays : (d.become .right mine rest sent).party .left = d.party .left :=
        become_party_other
      rw [weight, weight, become_party, become_inbox, sends, stays, List.map_append,
        List.sum_append]
      omega

/-- A step pays for the message it takes, if that is counted. -/
theorem DuplexStep.pays {party : σ → Nat} {message : μ → Nat} {counted : μ → Bool}
    {label : Peer × Occurrence μ ε} (taken : DuplexStep p d label after)
    (acts : ∀ s event mine m mine' sent, p.behaves s event mine m mine' sent →
      party mine' + (sent.map message).sum + (m.filter counted).toList.length ≤
        party mine + (m.toList.map message).sum) :
    after.weight party message + (if takes counted ⟨d, label, after⟩ then 1 else 0) ≤
      d.weight party message := by
  cases taken with
  | @act s event mine sent acted =>
      exact Duplex.weight_become (List.nil_append _).symm (acts s event _ none _ _ acted)
  | @take s event m mine rest sent arrived acted =>
      have paid := acts s event _ (some m) _ _ acted
      refine Duplex.weight_become (arrived.trans (List.singleton_append ..).symm) ?_
      cases kind : counted m with
      | true =>
          rw [Option.filter_some, if_pos kind] at paid
          simpa [takes, kind] using paid
      | false =>
          rw [Option.filter_some, if_neg (by simp [kind])] at paid
          simpa [takes, kind] using paid
  | @lose s m rest arrived gone =>
      exact Duplex.weight_become (arrived.trans (List.singleton_append ..).symm) (by simp [takes])

/-- When a message that is counted weighs more than what it leads to, no more of them are taken in a
    run than the start weighs. -/
theorem Run.takes_le {party : σ → Nat} {message : μ → Nat} {counted : μ → Bool}
    (run : Run (DuplexStep p) start made d)
    (acts : ∀ s event mine m mine' sent, p.behaves s event mine m mine' sent →
      party mine' + (sent.map message).sum + (m.filter counted).toList.length ≤
        party mine + (m.toList.map message).sum) :
    made.countP (takes counted) + d.weight party message ≤ start.weight party message := by
  induction run with
  | refl => exact Nat.le_of_eq (Nat.zero_add _)
  | tail _ last ih =>
      have paid := last.pays acts
      rw [List.countP_append, List.countP_singleton]
      omega

end

end LibAtbus.Transitions
