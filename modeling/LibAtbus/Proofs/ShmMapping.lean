/-
Module: LibAtbus.Proofs.ShmMapping
Layer: Proofs
Purpose: How long a shared memory mapping lives. The table has one record for a key and no count of
  its users, so the close of one use, or the failing attach of a newcomer, unmaps the buffer under
  all others. The mapping outlives its users exactly in the runs where nobody closes, and no opening
  call fails on, a key that another use is live on.
Trusted boundary: none
Main exports: ShmUsers.Mapped, Spares, Opens, ShmUsers.Backed, shm_uses_mapped_iff
-/
import LibAtbus.Channel.ShmChannel
import LibAtbus.Foundation.Transitions

namespace LibAtbus.Channel

open ByteMemory Transitions

/-! ### What is asked for, and when it holds -/

namespace ShmUsers

/-- The buffer behind every use that has not been closed is mapped. -/
def Mapped (users : ShmUsers) : Prop :=
  ∀ number use, users.uses number = some use → use.buffer ∈ users.state.mapped

/-- A use of the key has not been closed. -/
def LiveOn (users : ShmUsers) (shmKey : Int) : Prop :=
  ∃ number use, users.uses number = some use ∧ use.shmKey = shmKey

end ShmUsers

/-- Beginning with the channel in the buffer that the table has for the key fails. -/
def FailsOnRecord (state : ShmState) (shmKey : Int) (begins : Nat → ErrorType) : Prop :=
  ∃ record, state.shmMappedRecords shmKey = some record ∧ (begins record.size).failed = true

/-- The condition on a call, in the state before it: an opening call that fails on the buffer of the
    key finds no live use of the key, and a close finds none but the use it belongs to. -/
def Spares (users : ShmUsers) : ShmCall → Prop
  | .attach _ system shmKey _ =>
      FailsOnRecord users.state shmKey (fun realSize => memAttach system.segment realSize) →
        ¬users.LiveOn shmKey
  | .init _ _ shmKey _ conf =>
      FailsOnRecord users.state shmKey (fun realSize => memInitCode realSize conf) →
        ¬users.LiveOn shmKey
  | .close shmKey own => ∀ number use, users.uses number = some use → use.shmKey = shmKey →
      own = some number

/-! ### The table -/

/-- The records of the table have buffers of their own, all of them mapped. -/
structure ShmState.Consistent (state : ShmState) : Prop where
  buffers : ∀ shmKey record, state.shmMappedRecords shmKey = some record →
    ∃ address ∈ state.mapped, record.buffer = some address
  apart : ∀ shmKey other record record', state.shmMappedRecords shmKey = some record →
    state.shmMappedRecords other = some record' → record.buffer = record'.buffer → shmKey = other

/-- The table is consistent, and every use has the buffer that the table has for its key. -/
structure ShmUsers.Backed (users : ShmUsers) : Prop where
  table : users.state.Consistent
  uses : ∀ number use, users.uses number = some use →
    ∃ record, users.state.shmMappedRecords use.shmKey = some record ∧
      record.buffer = some use.buffer

section

variable {state after : ShmState} {users users' : ShmUsers} {shmKey other : Int}
  {record : ShmMappedRecord} {address number len : Nat} {system : ShmSystem} {channel : Option Nat}
  {begins : Nat → ErrorType} {create : Bool} {ret : ErrorType}

/-- The table without a key. -/
def ShmState.without (state : ShmState) (shmKey : Int) (address : Nat) : ShmState :=
  { shmMappedRecords := Function.update state.shmMappedRecords shmKey none
    mapped := state.mapped.erase address }

/-- The table with a new record. -/
def ShmState.withRecord (state : ShmState) (shmKey : Int) (shmId address size : Nat) : ShmState :=
  { shmMappedRecords := Function.update state.shmMappedRecords shmKey
      (some ⟨shmId, some address, size⟩)
    mapped := insert address state.mapped }

/-- A close of a key in the table unmaps its buffer. -/
theorem shmCloseBuffer_found (found : state.shmMappedRecords shmKey = some record)
    (buffer : record.buffer = some address) (mapped : address ∈ state.mapped) :
    shmCloseBuffer state shmKey = (.success, state.without shmKey address) := by
  simp only [shmCloseBuffer, found, buffer, mapped, if_true, ShmState.without]

theorem shmCloseBuffer_missing (missing : state.shmMappedRecords shmKey = none) :
    shmCloseBuffer state shmKey = (.shmNotFound, state) := by
  simp only [shmCloseBuffer, missing]

/-- Closing what was just mapped leads back. -/
theorem ShmState.withRecord_without (missing : state.shmMappedRecords shmKey = none)
    (fresh : address ∉ state.mapped) {shmId size : Nat} :
    (state.withRecord shmKey shmId address size).without shmKey address = state := by
  have records :
      Function.update
      (Function.update state.shmMappedRecords shmKey (some ⟨shmId, some address, size⟩))
      shmKey none = state.shmMappedRecords := by
    rw [Function.update_idem, ← missing, Function.update_eq_self]
  have addresses : (insert address state.mapped).erase address = state.mapped :=
    Finset.erase_insert fresh
  rw [without, withRecord, records, addresses]

/-- What is left in the table without a key. -/
theorem ShmState.without_some
    (isKept : (state.without shmKey address).shmMappedRecords other = some record) :
    other ≠ shmKey ∧ state.shmMappedRecords other = some record := by
  have isKept : Function.update state.shmMappedRecords shmKey none other = some record := isKept
  by_cases same : other = shmKey
  · rw [same, Function.update_self] at isKept
    cases isKept
  · rw [Function.update_of_ne same] at isKept
    exact ⟨same, isKept⟩

/-- What is in the table with a new record. -/
theorem ShmState.withRecord_some {shmId size : Nat}
    (isKept : (state.withRecord shmKey shmId address size).shmMappedRecords other = some record) :
    (other = shmKey ∧ record.buffer = some address) ∨
      state.shmMappedRecords other = some record := by
  have isKept :
      Function.update state.shmMappedRecords shmKey (some ⟨shmId, some address, size⟩) other =
        some record := isKept
  by_cases same : other = shmKey
  · rw [same, Function.update_self] at isKept
    cases isKept
    exact .inl ⟨same, rfl⟩
  · rw [Function.update_of_ne same] at isKept
    exact .inr isKept

theorem ShmState.Consistent.without (table : state.Consistent)
    (found : state.shmMappedRecords shmKey = some record) (buffer : record.buffer = some address) :
    (state.without shmKey address).Consistent where
  buffers key kept isKept := by
    obtain ⟨differs, old⟩ := without_some isKept
    obtain ⟨place, mapped, has⟩ := table.buffers key kept old
    refine ⟨place, Finset.mem_erase.mpr ⟨?_, mapped⟩, has⟩
    rintro rfl
    exact differs (table.apart key shmKey kept record old found (has.trans buffer.symm))
  apart key key' kept kept' isKept isKept' equal :=
    table.apart key key' kept kept' (without_some isKept).2 (without_some isKept').2 equal

theorem ShmState.Consistent.withRecord (table : state.Consistent) (fresh : address ∉ state.mapped)
    {shmId size : Nat} : (state.withRecord shmKey shmId address size).Consistent where
  buffers key kept isKept := by
    rcases withRecord_some isKept with ⟨-, has⟩ | old
    · exact ⟨address, Finset.mem_insert_self _ _, has⟩
    · obtain ⟨place, mapped, has⟩ := table.buffers key kept old
      exact ⟨place, Finset.mem_insert_of_mem mapped, has⟩
  apart key key' kept kept' isKept isKept' equal := by
    -- a buffer the table had before is mapped, and the new one was not
    have old_ne : ∀ {key kept}, state.shmMappedRecords key = some kept →
        kept.buffer ≠ some address := by
      intro key kept old has
      obtain ⟨place, mapped, hasPlace⟩ := table.buffers key kept old
      rw [has] at hasPlace
      cases hasPlace
      exact fresh mapped
    rcases withRecord_some isKept with ⟨rfl, has⟩ | old
    · rcases withRecord_some isKept' with ⟨rfl, -⟩ | old'
      · rfl
      · exact absurd (equal.symm.trans has) (old_ne old')
    · rcases withRecord_some isKept' with ⟨-, has'⟩ | old'
      · exact absurd (equal.trans has') (old_ne old)
      · exact table.apart key key' kept kept' old old' equal

/-! ### Opening -/

/-- What an opening call does: it fails and leaves everything as it was; it hands out the buffer
    that the table has; it fails on that buffer and closes it; or it maps a new one. -/
inductive Opens (state : ShmState) (shmKey : Int) (begins : Nat → ErrorType) :
    Option Nat → ShmState → Prop where
  | fails (missing : state.shmMappedRecords shmKey = none) : Opens state shmKey begins none state
  | shares {record : ShmMappedRecord} {address : Nat}
      (found : state.shmMappedRecords shmKey = some record)
      (buffer : record.buffer = some address) (mapped : address ∈ state.mapped)
      (starts : (begins record.size).failed = false) :
      Opens state shmKey begins (some address) state
  | closes {record : ShmMappedRecord} {address : Nat}
      (found : state.shmMappedRecords shmKey = some record)
      (buffer : record.buffer = some address) (mapped : address ∈ state.mapped)
      (fails : (begins record.size).failed = true) :
      Opens state shmKey begins none (state.without shmKey address)
  | maps {shmId address size : Nat} (missing : state.shmMappedRecords shmKey = none)
      (fresh : address ∉ state.mapped) :
      Opens state shmKey begins (some address) (state.withRecord shmKey shmId address size)

/-- The buffer of a key that is not in the table. -/
theorem shmGetBuffer_missing (missing : state.shmMappedRecords shmKey = none) :
    shmGetBuffer system state shmKey len create = (.error .shmGetFailed, state) ∨
      ∃ shmId size, shmGetBuffer system state shmKey len create = (.ok (system.shmat, size),
        { shmMappedRecords := Function.update state.shmMappedRecords shmKey
            (some ⟨shmId, system.shmat, size⟩)
          mapped :=
            system.shmat.elim state.mapped fun address => insert address state.mapped }) := by
  simp only [shmGetBuffer, missing]
  split
  · exact .inl rfl
  · rename_i shmId _
    split
    · exact .inl rfl
    · rename_i size _
      exact .inr ⟨shmId, size, rfl⟩

/-- Closing a record whose `shmat` failed takes it off the table. -/
theorem shmCloseBuffer_noBuffer (missing : state.shmMappedRecords shmKey = none)
    {shmId size : Nat} :
    shmCloseBuffer ⟨Function.update state.shmMappedRecords shmKey (some ⟨shmId, none, size⟩),
      state.mapped⟩ shmKey =
      (.shmGetFailed, state) := by
  have records :
      Function.update (Function.update state.shmMappedRecords shmKey (some ⟨shmId, none, size⟩))
      shmKey
      none = state.shmMappedRecords := by
    rw [Function.update_idem, ← missing, Function.update_eq_self]
  simp only [shmCloseBuffer, Function.update_self, records]

/-- Closing a record that was just made for a new mapping leads back. -/
theorem shmCloseBuffer_fresh (missing : state.shmMappedRecords shmKey = none)
    (fresh : address ∉ state.mapped) {shmId size : Nat} :
    shmCloseBuffer ⟨Function.update state.shmMappedRecords shmKey
      (some ⟨shmId, some address, size⟩), insert address state.mapped⟩ shmKey =
        (.success, state) := by
  have close : shmCloseBuffer (state.withRecord shmKey shmId address size) shmKey =
      (.success, (state.withRecord shmKey shmId address size).without shmKey address) :=
    shmCloseBuffer_found (Function.update_self _ _ _) rfl (Finset.mem_insert_self _ _)
  rw [ShmState.withRecord_without missing fresh] at close
  exact close

/-- Every opening call on a consistent table is one of these. -/
theorem shmOpen_opens (table : state.Consistent) (fresh : system.Fresh state)
    (small : ∀ realSize, realSize < channelMinSize → (begins realSize).failed = true)
    (called : shmOpen system state shmKey len create begins = some ((ret, channel), after)) :
    Opens state shmKey begins channel after := by
  cases found : state.shmMappedRecords shmKey with
  | some record =>
      obtain ⟨address, mapped, buffer⟩ := table.buffers shmKey record found
      have close := shmCloseBuffer_found found buffer mapped
      simp only [shmOpen, shmGetBuffer, found, buffer, close, reduceCtorEq, false_and,
        if_false] at called
      cases starts : (begins record.size).failed with
      | true =>
          rw [starts, if_pos rfl] at called
          cases called
          exact .closes found buffer mapped starts
      | false =>
          rw [starts, if_neg Bool.false_ne_true] at called
          cases called
          exact .shares found buffer mapped starts
  | none =>
      rcases @shmGetBuffer_missing state shmKey len system create found with got | ⟨shmId, size,
        got⟩
      · simp only [shmOpen, got] at called
        cases called
        exact .fails found
      · simp only [shmOpen, got] at called
        cases answer : system.shmat with
        | none =>
            simp only [answer, Option.elim_none, true_and] at called
            by_cases large : channelMinSize ≤ size
            · rw [if_pos large] at called
              cases called
            · rw [if_neg large, if_pos (small size (Nat.lt_of_not_le large)),
                shmCloseBuffer_noBuffer found] at called
              cases called
              exact .fails found
        | some address =>
            have unmapped := fresh address answer
            simp only [answer, Option.elim_some, reduceCtorEq, false_and, if_false] at called
            cases starts : (begins size).failed with
            | true =>
                rw [starts, if_pos rfl, shmCloseBuffer_fresh found unmapped] at called
                cases called
                exact .fails found
            | false =>
                rw [starts, if_neg Bool.false_ne_true] at called
                cases called
                exact .maps found unmapped

/-! ### The users -/

theorem ShmUsers.Backed.mapped (backed : users.Backed) : users.Mapped := by
  intro number use isUse
  obtain ⟨record, found, buffer⟩ := backed.uses number use isUse
  obtain ⟨address, mapped, has⟩ := backed.table.buffers use.shmKey record found
  rw [buffer] at has
  cases has
  exact mapped

/-- Nobody uses a key that is not in the table. -/
theorem ShmUsers.Backed.not_liveOn (backed : users.Backed)
    (missing : users.state.shmMappedRecords shmKey = none) : ¬users.LiveOn shmKey := by
  rintro ⟨number, use, isUse, rfl⟩
  obtain ⟨record, found, -⟩ := backed.uses number use isUse
  rw [missing] at found
  cases found

/-- When a key is closed the uses of the other keys keep their buffers, and its own lose theirs. -/
theorem ShmUsers.Backed.without_iff (backed : users.Backed)
    (found : users.state.shmMappedRecords shmKey = some record)
    (buffer : record.buffer = some address) {use : ShmUse} (isUse : users.uses number = some use) :
    use.buffer ∈ (users.state.without shmKey address).mapped ↔ use.shmKey ≠ shmKey := by
  obtain ⟨own, isOwn, has⟩ := backed.uses number use isUse
  have mapped := backed.mapped number use isUse
  constructor
  · rintro kept rfl
    rw [found] at isOwn
    cases isOwn
    rw [buffer] at has
    cases has
    exact absurd rfl (Finset.mem_erase.mp kept).1
  · intro differs
    refine Finset.mem_erase.mpr ⟨fun same => ?_, mapped⟩
    rw [same] at has
    exact differs
      (backed.table.apart use.shmKey shmKey own record isOwn found (has.trans buffer.symm))

/-- A key can be closed when no use of it is kept. -/
theorem ShmUsers.Backed.without (backed : users.Backed)
    (found : users.state.shmMappedRecords shmKey = some record)
    (buffer : record.buffer = some address) {uses : Nat → Option ShmUse}
    (kept : ∀ number use, uses number = some use → users.uses number = some use ∧
      use.shmKey ≠ shmKey) :
    ShmUsers.Backed ⟨users.state.without shmKey address, uses⟩ where
  table := backed.table.without found buffer
  uses number use isUse := by
    obtain ⟨before, differs⟩ := kept number use isUse
    obtain ⟨own, isOwn, has⟩ := backed.uses number use before
    exact ⟨own, (Function.update_of_ne differs _ _).trans isOwn, has⟩

/-- A new use of a key whose record has its buffer. The uses there were keep theirs. -/
theorem ShmUsers.Backed.withUse (table : after.Consistent)
    (found : after.shmMappedRecords shmKey = some record) (buffer : record.buffer = some address)
    (others : ∀ number use, users.uses number = some use →
      ∃ record, after.shmMappedRecords use.shmKey = some record ∧ record.buffer = some use.buffer) :
    (users.opened number shmKey (some address) after).Backed where
  table := table
  uses other use isUse := by
    have isUse : Function.update users.uses number (some ⟨shmKey, address⟩) other = some use :=
      isUse
    by_cases own : other = number
    · rw [own, Function.update_self] at isUse
      cases isUse
      exact ⟨record, found, buffer⟩
    · rw [Function.update_of_ne own] at isUse
      exact others other use isUse

/-! ### One call -/

theorem not_failsOnRecord (missing : state.shmMappedRecords shmKey = none) :
    ¬FailsOnRecord state shmKey begins := by
  rintro ⟨record, found, -⟩
  rw [missing] at found
  cases found

/-- An opening call keeps all buffers mapped exactly when it does not fail on the buffer of a key in
    use, and then the table goes on backing all uses. -/
theorem ShmUsers.Backed.opened (backed : users.Backed)
    (opens : Opens users.state shmKey begins channel after) :
    ((users.opened number shmKey channel after).Mapped ↔
      (FailsOnRecord users.state shmKey begins → ¬users.LiveOn shmKey)) ∧
    ((FailsOnRecord users.state shmKey begins → ¬users.LiveOn shmKey) →
      (users.opened number shmKey channel after).Backed) := by
  have stays : (users.opened number shmKey channel after).Backed →
      ¬FailsOnRecord users.state shmKey begins →
      ((users.opened number shmKey channel after).Mapped ↔
        (FailsOnRecord users.state shmKey begins → ¬users.LiveOn shmKey)) ∧
      ((FailsOnRecord users.state shmKey begins → ¬users.LiveOn shmKey) →
        (users.opened number shmKey channel after).Backed) :=
    fun kept starts => ⟨⟨fun _ fails => absurd fails starts, fun _ => kept.mapped⟩, fun _ => kept⟩
  cases opens with
  | fails missing => exact stays backed (not_failsOnRecord missing)
  | @shares record address found buffer mapped starts =>
      apply stays (.withUse backed.table found buffer backed.uses)
      rintro ⟨same, isSame, fails⟩
      rw [found] at isSame
      cases isSame
      rw [starts] at fails
      cases fails
  | @closes record address found buffer mapped fails =>
      have onRecord : FailsOnRecord users.state shmKey begins := ⟨record, found, fails⟩
      constructor
      · constructor
        · rintro kept - ⟨other, use, isUse, rfl⟩
          exact (backed.without_iff found buffer isUse).mp (kept other use isUse) rfl
        · intro spares other use isUse
          exact (backed.without_iff found buffer isUse).mpr fun same =>
            spares onRecord ⟨other, use, isUse, same⟩
      · intro spares
        apply backed.without found buffer
        exact fun other use isUse => ⟨isUse, fun same => spares onRecord ⟨other, use, isUse, same⟩⟩
  | @maps shmId address size missing fresh =>
      apply stays _ (not_failsOnRecord missing)
      apply ShmUsers.Backed.withUse (backed.table.withRecord fresh) (Function.update_self _ _ _) rfl
      intro other use isUse
      obtain ⟨record, found, buffer⟩ := backed.uses other use isUse
      have differs : use.shmKey ≠ shmKey :=
        fun same => backed.not_liveOn missing ⟨other, use, isUse, same⟩
      exact ⟨record, (Function.update_of_ne differs _ _).trans found, buffer⟩

/-- The uses left by a close. -/
theorem closedUses_iff {own : Option Nat} {use : ShmUse} :
    (own.elim users.uses fun closed => Function.update users.uses closed none) number = some use ↔
      users.uses number = some use ∧ own ≠ some number := by
  cases own with
  | none => simp
  | some closed =>
      by_cases same : number = closed
      · rw [Option.elim_some, same, Function.update_self]
        simp
      · rw [Option.elim_some, Function.update_of_ne same]
        simp [Ne.symm same]

/-- A close keeps the buffers of all other uses mapped exactly when none of them is live on its key,
    and then the table goes on backing them. -/
theorem ShmUsers.Backed.closed (backed : users.Backed) (shmKey : Int) (own : Option Nat) :
    (ShmUsers.Mapped ⟨(shmClose users.state shmKey).2, own.elim users.uses fun closed =>
        Function.update users.uses closed none⟩ ↔ Spares users (.close shmKey own)) ∧
    (Spares users (.close shmKey own) →
      ShmUsers.Backed ⟨(shmClose users.state shmKey).2, own.elim users.uses fun closed =>
        Function.update users.uses closed none⟩) := by
  cases found : users.state.shmMappedRecords shmKey with
  | none =>
      have after : (shmClose users.state shmKey).2 = users.state :=
        congrArg Prod.snd (shmCloseBuffer_missing found)
      rw [after]
      have kept :
          ShmUsers.Backed ⟨users.state,
            own.elim users.uses fun closed => Function.update users.uses closed none⟩ :=
        ⟨backed.table, fun other use isUse => backed.uses other use (closedUses_iff.mp isUse).1⟩
      have spares : Spares users (.close shmKey own) := fun other use isUse same =>
        absurd ⟨other, use, isUse, same⟩ (backed.not_liveOn found)
      exact ⟨⟨fun _ => spares, fun _ => kept.mapped⟩, fun _ => kept⟩
  | some record =>
      obtain ⟨address, mapped, buffer⟩ := backed.table.buffers shmKey record found
      have after : (shmClose users.state shmKey).2 = users.state.without shmKey address :=
        congrArg Prod.snd (shmCloseBuffer_found found buffer mapped)
      rw [after]
      constructor
      · constructor
        · intro kept other use isUse same
          by_contra stays
          have isKept := closedUses_iff.mpr ⟨isUse, stays⟩
          exact (backed.without_iff found buffer isUse).mp (kept other use isKept) same
        · intro spares other use isKept
          obtain ⟨isUse, stays⟩ := closedUses_iff.mp isKept
          exact (backed.without_iff found buffer isUse).mpr fun same =>
            stays (spares other use isUse same)
      · intro spares
        apply backed.without found buffer
        intro other use isKept
        obtain ⟨isUse, stays⟩ := closedUses_iff.mp isKept
        exact ⟨isUse, fun same => stays (spares other use isUse same)⟩

/-- Both ways to begin with a channel refuse a buffer that is too small. -/
theorem memAttach_small {header : Memory} {realSize : Nat} (small : realSize < channelMinSize) :
    (memAttach header realSize).failed = true := by
  rw [memAttach, if_pos small]
  rfl

theorem memInitCode_small {conf : Option Nat} {realSize : Nat} (small : realSize < channelMinSize) :
    (memInitCode realSize conf).failed = true := by
  rw [memInitCode, memInit, if_pos small]
  rfl

/-- One call keeps the buffers mapped exactly when it meets the condition, and then the table goes
    on backing the uses. -/
theorem ShmUsers.Backed.step {call : ShmCall} (backed : users.Backed)
    (step : ShmStep users call users') :
    (users'.Mapped ↔ Spares users call) ∧ (Spares users call → users'.Backed) := by
  cases step with
  | attach unused fresh called =>
      exact backed.opened (shmOpen_opens backed.table fresh (fun _ => memAttach_small) called)
  | init unused fresh called =>
      exact backed.opened (shmOpen_opens backed.table fresh (fun _ => memInitCode_small) called)
  | close belongs => exact backed.closed _ _

theorem ShmUsers.init_backed : ShmUsers.init.Backed where
  table :=
    ⟨fun _ _ found => (Option.some_ne_none _ found.symm).elim,
      fun _ _ _ _ found => (Option.some_ne_none _ found.symm).elim⟩
  uses _ _ isUse := (Option.some_ne_none _ isUse.symm).elim

/-- In every run of calls of the users of a process the buffers behind all channels in use stay
    mapped exactly when no call closes, or fails on, the buffer of a key that another use is live
    on. -/
theorem shm_uses_mapped_iff {made : List (Transition ShmUsers ShmCall)} {final : ShmUsers}
    (run : Run ShmStep ShmUsers.init made final) :
    (∀ t ∈ made, t.post.Mapped) ↔ ∀ t ∈ made, Spares t.pre t.label :=
  run.forall_iff ShmUsers.init_backed (fun _ backed taken spares => (backed.step taken).2 spares)
    (fun _ backed taken => (backed.step taken).1)

/-! ### Two users of one key -/

/-- A system with one segment of two pages, in which a channel has been initialised. -/
def oneSegment (shmat : Option Nat) : ShmSystem :=
  { pageSize := 4096
    shmget := fun _ _ _ _ => some 1
    shmctl := fun _ => some 8192
    shmat := shmat
    segment := fun i => (memChannelName ++ toLE 8 nodeDataSize).getD i 0 }

/-- The process after a first user has initialised a channel. -/
def firstUser : ShmUsers :=
  ⟨⟨Function.update (fun _ => none) 7 (some ⟨1, some 65536, 8192⟩), {65536}⟩,
    Function.update (fun _ => none) 0 (some ⟨7, 65536⟩)⟩

theorem firstUser_step :
    ShmStep ShmUsers.init (.init 0 (oneSegment (some 65536)) 7 8192 none) firstUser := by
  have fresh : (oneSegment (some 65536)).Fresh ShmUsers.init.state :=
    fun address _ => Finset.notMem_empty address
  have called : shmInit (oneSegment (some 65536)) ShmUsers.init.state 7 8192 none =
      some ((.success, some 65536), firstUser.state) := rfl
  exact ShmStep.init rfl fresh called

/-- A second user initialises a channel with the same key: it gets the buffer of the first. -/
theorem secondUser_step : ShmStep firstUser (.init 1 (oneSegment none) 7 8192 none)
    (firstUser.opened 1 7 (some 65536) firstUser.state) := by
  have fresh : (oneSegment none).Fresh firstUser.state := fun _ isNone => by cases isNone
  have called : shmInit (oneSegment none) firstUser.state 7 8192 none =
      some ((.success, some 65536), firstUser.state) := rfl
  exact ShmStep.init rfl fresh called

/-- Both users have the buffer, and neither has closed it. -/
theorem shm_uses_mapped_iff_two : ∃ made final, Run ShmStep ShmUsers.init made final ∧
    made.map Transition.label =
      [.init 0 (oneSegment (some 65536)) 7 8192 none, .init 1 (oneSegment none) 7 8192 none] ∧
    final.uses 0 = some ⟨7, 65536⟩ ∧ final.uses 1 = some ⟨7, 65536⟩ ∧
    ∀ t ∈ made, t.post.Mapped := by
  have run := (Run.refl.tail firstUser_step).tail secondUser_step
  refine ⟨_, _, run, rfl, rfl, rfl, (shm_uses_mapped_iff run).mpr fun t member => ?_⟩
  simp only [List.nil_append, List.cons_append, List.mem_cons, List.not_mem_nil, or_false] at member
  rcases member with rfl | rfl
  · rintro ⟨record, found, -⟩
    cases found
  · rintro ⟨record, found, failed⟩
    cases found
    exact absurd failed (by decide)

/-- A second user fails to attach to the channel that the first one has initialised, or it
    initialises the channel once more and closes it; either way the first one still uses a buffer
    that is no longer mapped. -/
theorem shm_mapping_lost :
    (∃ made final, Run ShmStep ShmUsers.init made final ∧ ¬final.Mapped ∧
      made.map Transition.label =
        [.init 0 (oneSegment (some 65536)) 7 8192 none, .attach 1 (oneSegment none) 7 8192]) ∧
    (∃ made final, Run ShmStep ShmUsers.init made final ∧ ¬final.Mapped ∧
      made.map Transition.label =
        [.init 0 (oneSegment (some 65536)) 7 8192 none, .init 1 (oneSegment none) 7 8192 none,
          .close 7 (some 1)]) := by
  have lost : ∀ uses : Nat → Option ShmUse, uses 0 = some ⟨7, 65536⟩ →
      ¬ShmUsers.Mapped ⟨firstUser.state.without 7 65536, uses⟩ :=
    fun uses isUse kept => Finset.notMem_erase _ _ (kept 0 _ isUse)
  have found : firstUser.state.shmMappedRecords 7 = some ⟨1, some 65536, 8192⟩ := rfl
  have close : shmCloseBuffer firstUser.state 7 = (.success, firstUser.state.without 7 65536) :=
    shmCloseBuffer_found found rfl (Finset.mem_singleton_self _)
  constructor
  · have fresh : (oneSegment none).Fresh firstUser.state := fun _ isNone => by cases isNone
    have invalid : memAttach (oneSegment none).segment 8192 = .channelBufferInvalid := by decide
    have called : shmAttach (oneSegment none) firstUser.state 7 8192 =
        some ((.channelBufferInvalid, none), firstUser.state.without 7 65536) := by
      have opened : shmAttach (oneSegment none) firstUser.state 7 8192 =
          if (memAttach (oneSegment none).segment 8192).failed then
            some ((memAttach (oneSegment none).segment 8192, none),
              (shmCloseBuffer firstUser.state 7).2)
          else some ((memAttach (oneSegment none).segment 8192, some 65536), firstUser.state) := rfl
      rw [opened, invalid, close]
      rfl
    exact ⟨_, _, .tail (.tail .refl firstUser_step) (.attach rfl fresh called), lost _ rfl, rfl⟩
  · have belongs : ∀ number ∈ some 1, ∃ use,
        (firstUser.opened 1 7 (some 65536) firstUser.state).uses number = some use ∧
        use.shmKey = 7 := by
      rintro number ⟨⟩
      exact ⟨⟨7, 65536⟩, rfl, rfl⟩
    refine ⟨_, _, .tail (.tail (.tail .refl firstUser_step) secondUser_step) (.close belongs), ?_,
      rfl⟩
    have after : (shmClose (firstUser.opened 1 7 (some 65536) firstUser.state).state 7).2 =
        firstUser.state.without 7 65536 := congrArg Prod.snd close
    rw [after]
    exact lost _ rfl

end

end LibAtbus.Channel
