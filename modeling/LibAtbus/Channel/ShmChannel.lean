/-
Module: LibAtbus.Channel.ShmChannel
Layer: Channel
Purpose: The opening and closing of shared memory channels of `src/channel_shm.cpp` outside Windows.
  The process keeps one record for each key it has mapped; a call that finds a record hands out its
  buffer again, and nothing counts how many calls have done so. Beside the functions stand the users
  of a process, each from the call that gave it a channel to its own close.
Trusted boundary: human-reviewed spec; the system maps a segment where none is mapped
Main exports: ShmMappedRecord, ShmState, ShmSystem, shmCloseBuffer, shmGetBuffer, shmAttach,
  shmInit, shmClose, ShmUsers, ShmCall, ShmStep
-/
import LibAtbus.Channel.MemChannel
import Mathlib.Data.Finset.Basic

namespace LibAtbus.Channel

open ByteMemory

/-- `shm_mapped_record_type`. No buffer stands for the address `(void*)-1` of a `shmat` that
    failed. -/
structure ShmMappedRecord where
  shmId : Nat
  buffer : Option Nat
  size : Nat
deriving DecidableEq, Repr

/-- `shm_mapped_records`, and the addresses at which the process has segments mapped. -/
structure ShmState where
  shmMappedRecords : Int → Option ShmMappedRecord
  mapped : Finset Nat

/-- What the system answers during a call: the page size, `shmget` for a key, a length, `IPC_CREAT`
    and `SHM_HUGETLB`, the `shm_segsz` that `shmctl` reports for an identifier, `shmat`, and the
    bytes of the segment. -/
structure ShmSystem where
  pageSize : Nat
  shmget : Int → Nat → Bool → Bool → Option Nat
  shmctl : Nat → Option Nat
  shmat : Option Nat
  segment : Memory

/-- `ATBUS_MACRO_HUGETLB_SIZE`. -/
def hugetlbSize : Nat := 4194304

/-- A length rounded up to a multiple of a power of two. -/
def alignLen (unit len : Nat) : Nat := Word64.wrap (len + unit - 1) / unit * unit

/-- `shm_close_buffer`. -/
def shmCloseBuffer (state : ShmState) (shmKey : Int) : ErrorType × ShmState :=
  match state.shmMappedRecords shmKey with
  | none => (.shmNotFound, state)
  | some record =>
      let state :=
        { state with shmMappedRecords := Function.update state.shmMappedRecords shmKey none }
      match record.buffer with
      | none => (.shmGetFailed, state)
      | some address =>
          if address ∈ state.mapped
            then (.success, { state with mapped := state.mapped.erase address })
          else (.shmGetFailed, state)

/-- `shm_get_buffer`, with the buffer and its real size. -/
def shmGetBuffer (system : ShmSystem) (state : ShmState) (shmKey : Int) (len : Nat)
    (create : Bool) : Except ErrorType (Option Nat × Nat) × ShmState :=
  match state.shmMappedRecords shmKey with
  | some record => (.ok (record.buffer, record.size), state)
  | none =>
      let paged := alignLen system.pageSize len
      let huge : Bool := paged > 4 * hugetlbSize
      match system.shmget shmKey (if huge then alignLen hugetlbSize paged else paged)
          create huge with
      | none => (.error .shmGetFailed, state)
      | some shmId =>
          match system.shmctl shmId with
          | none => (.error .shmGetFailed, state)
          | some size =>
              (.ok (system.shmat, size),
                { shmMappedRecords := Function.update state.shmMappedRecords shmKey
                    (some ⟨shmId, system.shmat, size⟩)
                  mapped := system.shmat.elim state.mapped fun address =>
                    insert address state.mapped })

/-- The body that `shm_attach` and `shm_init` share: get the buffer, begin with the channel in it,
    and close it again when that fails. The result is the code and the channel; a call that reads
    the address of a failed `shmat` has none. -/
def shmOpen (system : ShmSystem) (state : ShmState) (shmKey : Int) (len : Nat) (create : Bool)
    (begins : Nat → ErrorType) : Option ((ErrorType × Option Nat) × ShmState) :=
  match shmGetBuffer system state shmKey len create with
  | (.error ret, state) => some ((ret, none), state)
  | (.ok (buffer, realSize), state) =>
      if buffer = none ∧ channelMinSize ≤ realSize then none
      else
        let ret := begins realSize
        if ret.failed then some ((ret, none), (shmCloseBuffer state shmKey).2)
        else some ((ret, buffer), state)

/-- The code of `mem_init`. -/
def memInitCode (len : Nat) (conf : Option Nat) : ErrorType :=
  match memInit len conf with
  | .ok _ => .success
  | .error res => res

/-- `shm_attach`. -/
def shmAttach (system : ShmSystem) (state : ShmState) (shmKey : Int) (len : Nat) :
    Option ((ErrorType × Option Nat) × ShmState) :=
  shmOpen system state shmKey len false fun realSize => memAttach system.segment realSize

/-- `shm_init`. -/
def shmInit (system : ShmSystem) (state : ShmState) (shmKey : Int) (len : Nat) (conf : Option Nat) :
    Option ((ErrorType × Option Nat) × ShmState) :=
  shmOpen system state shmKey len true fun realSize => memInitCode realSize conf

/-- `shm_close`. -/
def shmClose (state : ShmState) (shmKey : Int) : ErrorType × ShmState := shmCloseBuffer state shmKey

/-! ### The users of a process -/

/-- A use of a channel: the key it was opened with and the buffer behind it. -/
structure ShmUse where
  shmKey : Int
  buffer : Nat
deriving DecidableEq, Repr

/-- The state of the process and the uses that have not been closed, by number. -/
structure ShmUsers where
  state : ShmState
  uses : Nat → Option ShmUse

/-- A process that has opened nothing. -/
def ShmUsers.init : ShmUsers := ⟨⟨fun _ => none, ∅⟩, fun _ => none⟩

/-- The use that an opening call begins, if it returned a channel. -/
def ShmUsers.opened (users : ShmUsers) (number : Nat) (shmKey : Int) (channel : Option Nat)
    (after : ShmState) : ShmUsers :=
  { state := after
    uses := channel.elim users.uses fun buffer =>
      Function.update users.uses number (some ⟨shmKey, buffer⟩) }

/-- The calls. An opening call comes with the number its use will have; a close comes with the use
    it belongs to, if it belongs to one. -/
inductive ShmCall where
  | attach (number : Nat) (system : ShmSystem) (shmKey : Int) (len : Nat)
  | init (number : Nat) (system : ShmSystem) (shmKey : Int) (len : Nat) (conf : Option Nat)
  | close (shmKey : Int) (own : Option Nat)

/-- The system maps a segment where none is mapped. -/
def ShmSystem.Fresh (system : ShmSystem) (state : ShmState) : Prop :=
  ∀ address ∈ system.shmat, address ∉ state.mapped

/-- One call of one of the users. -/
inductive ShmStep : ShmUsers → ShmCall → ShmUsers → Prop where
  | attach {users : ShmUsers} {number len : Nat} {system : ShmSystem} {shmKey : Int}
      {ret : ErrorType}
      {channel : Option Nat} {after : ShmState} (unused : users.uses number = none)
        (fresh : system.Fresh users.state)
      (called : shmAttach system users.state shmKey len = some ((ret, channel), after)) :
      ShmStep users (.attach number system shmKey len) (users.opened number shmKey channel after)
  | init {users : ShmUsers} {number len : Nat} {system : ShmSystem} {shmKey : Int}
      {conf : Option Nat} {ret : ErrorType} {channel : Option Nat} {after : ShmState}
        (unused : users.uses number = none)
      (fresh : system.Fresh users.state)
      (called : shmInit system users.state shmKey len conf = some ((ret, channel), after)) :
      ShmStep users (.init number system shmKey len conf) (users.opened number shmKey channel after)
  | close {users : ShmUsers} {shmKey : Int} {own : Option Nat}
      (belongs : ∀ number ∈ own, ∃ use, users.uses number = some use ∧ use.shmKey = shmKey) :
      ShmStep users (.close shmKey own)
        { state := (shmClose users.state shmKey).2
          uses := own.elim users.uses fun number => Function.update users.uses number none }

end LibAtbus.Channel
