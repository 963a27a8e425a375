import PaymentLedger.BankB.Services
import Mathlib.Data.List.Nodup

set_option autoImplicit false

namespace BankB

open Transactional InboundTransfersService

def IncomingTransferRow.entries (row : IncomingTransferRow) (payee : Uuid) : List LedgerEntryRow :=
  [⟨row.transferId, suspense, -row.amount⟩, ⟨row.transferId, payee, row.amount⟩]

inductive IncomingTransferRow.Booked (row : IncomingTransferRow) : List LedgerEntryRow → Prop where
  | credited (payee : Uuid) (status : row.status = .credited)
      (spelled : encodeUuid row.payeeAccountId = some payee) :
      row.Booked (row.entries payee)
  | rejected (status : row.status = .rejected) : row.Booked []

def Consumer.Reads (body : Option Payload) (event : TransferInitiatedEvent) : Prop :=
  ∃ payload, body = some payload ∧ toEvent payload = .done (.ok event)

def InboundTransfersService.TransferInitiatedEvent.Names (event : TransferInitiatedEvent)
    (transferId : Uuid) : Prop :=
  ∃ text, event.transferId = .str text ∧ encodeUuid text = some transferId

namespace Database

variable (db : Database)

def enter (row : IncomingTransferRow) (entries : List LedgerEntryRow) : Database :=
  { db with incomingTransfers := db.incomingTransfers ++ [row],
            ledgerEntries := db.ledgerEntries ++ entries }

def openAccount (row : AccountRow) : Database := { db with accounts := db.accounts ++ [row] }

end Database

structure IncomingTransferRow.Enters (row : IncomingTransferRow) (event : TransferInitiatedEvent)
    (locks : List (Lock Resource)) (db : Database) : Prop where
  checked : row.Checked
  new : db.incomingTransfer row.transferId = none
  lock : exclusive (.incomingTransfer row.transferId) ∈ locks
  names : event.Names row.transferId
  payee : event.payeeAccountId = .str row.payeeAccountId
  amount : bigintParam event.amountCents = .ok (some row.amount)

inductive Commit : Call → List (Lock Resource) → Database → Database → Prop where
  | opened {locks db} (row : AccountRow) (new : db.account row.id = none) :
      Commit (.createAccount row.id row.ownerName) locks db (db.openAccount row)
  | settled {locks db} (body : Option Consumer.Payload) (event : TransferInitiatedEvent)
      (row : IncomingTransferRow)
      (entries : List LedgerEntryRow) (reads : Consumer.Reads body event)
      (enters : row.Enters event locks db) (booked : row.Booked entries) :
      Commit (.deliver body) locks db (db.enter row entries)

structure WellFormed (db : Database) : Prop where
  ids : (db.incomingTransfers.map IncomingTransferRow.transferId).Nodup
  checked : ∀ row ∈ db.incomingTransfers, row.Checked
  booked : ∀ row ∈ db.incomingTransfers, row.Booked (db.entriesOf row.transferId)
  unbooked : ∀ id, db.incomingTransfer id = none → db.entriesOf id = []

section Fields

variable {db : Database} {row : IncomingTransferRow} {entries : List LedgerEntryRow} {id : Uuid}

theorem transferId_of_found (found : db.incomingTransfer id = some row) : row.transferId = id := by
  have same := List.find?_some found
  simpa using same

theorem mem_of_found (found : db.incomingTransfer id = some row) : row ∈ db.incomingTransfers :=
  List.mem_of_find?_eq_some found

theorem not_mem_of_new (new : db.incomingTransfer id = none) :
    id ∉ db.incomingTransfers.map IncomingTransferRow.transferId := by
  intro member
  obtain ⟨row, present, same⟩ := List.mem_map.mp member
  have absent := List.find?_eq_none.mp new row present
  simp [same] at absent

theorem enter_found (new : db.incomingTransfer row.transferId = none) (id : Uuid) :
    (db.enter row entries).incomingTransfer id =
      if id = row.transferId then some row else db.incomingTransfer id := by
  unfold Database.incomingTransfer at new ⊢
  simp only [Database.enter, List.find?_append]
  by_cases same : id = row.transferId
  · subst same
    simp [new]
  · have other : row.transferId ≠ id := fun equal => same equal.symm
    simp [same, other]

theorem Booked.transferId (booked : row.Booked entries) :
    ∀ entry ∈ entries, entry.transferId = row.transferId := by
  intro entry member
  cases booked with
  | credited payee status spelled =>
    simp only [IncomingTransferRow.entries, List.mem_cons, List.not_mem_nil, or_false] at member
    rcases member with rfl | rfl <;> rfl
  | rejected status => cases member

theorem enter_entriesOf (booked : row.Booked entries) (id : Uuid) :
    (db.enter row entries).entriesOf id = db.entriesOf id ++
      if id = row.transferId then entries else [] := by
  simp only [Database.enter, Database.entriesOf, List.filter_append]
  congr 1
  split <;> rename_i same
  · subst same
    rw [List.filter_eq_self]
    intro entry member
    simpa using Booked.transferId booked entry member
  · rw [List.filter_eq_nil_iff]
    intro entry member
    rw [Booked.transferId booked entry member]
    simpa using fun equal => same equal.symm

end Fields

theorem wellFormed_migrated : WellFormed migrated where
  ids := List.nodup_nil
  checked := by
    intro row member
    cases member
  booked := by
    intro row member
    cases member
  unbooked := fun _ _ => rfl

theorem Commit.wellFormed {call : Call} {locks : List (Lock Resource)} {db db' : Database}
    (wellFormed : WellFormed db) (commit : Commit call locks db db') : WellFormed db' := by
  cases commit with
  | opened row new => exact { wellFormed with }
  | settled body event row entries reads enters booked =>
    have unbooked := wellFormed.unbooked row.transferId enters.new
    constructor
    · have fresh := not_mem_of_new enters.new
      simpa [Database.enter, List.nodup_append] using ⟨wellFormed.ids, fun other member same =>
        fresh (List.mem_map.mpr ⟨other, member, same⟩)⟩
    · intro other member
      rcases List.mem_append.mp member with old | new
      · exact wellFormed.checked other old
      · rw [List.mem_singleton.mp new]
        exact enters.checked
    · intro other member
      rw [enter_entriesOf booked]
      rcases List.mem_append.mp member with old | new
      · have different : other.transferId ≠ row.transferId := by
          intro same
          exact not_mem_of_new enters.new (same ▸ List.mem_map_of_mem old)
        simpa [different] using wellFormed.booked other old
      · rw [List.mem_singleton.mp new, if_pos rfl, unbooked]
        exact booked
    · intro id none_
      rw [enter_found enters.new] at none_
      split at none_
      · cases none_
      · rename_i different
        rw [enter_entriesOf booked, if_neg different, List.append_nil]
        exact wellFormed.unbooked id none_

structure Frame (locks : List (Lock Resource)) (db db' : Database) : Prop where
  transfers : ∀ id row, db.incomingTransfer id = some row → db'.incomingTransfer id = some row
  ids : ∀ id, db.incomingTransfer id = none →
    db'.incomingTransfer id = none ∨ exclusive (.incomingTransfer id) ∈ locks

theorem Commit.frame {call : Call} {locks : List (Lock Resource)} {db db' : Database}
    (commit : Commit call locks db db') : Frame locks db db' := by
  cases commit with
  | opened row new => exact ⟨fun _ _ found => found, fun _ none_ => .inl none_⟩
  | settled body event row entries reads enters booked =>
    constructor
    · intro id other found
      rw [enter_found enters.new, if_neg]
      · exact found
      · rintro rfl
        rw [enters.new] at found
        cases found
    · intro id none_
      rw [enter_found enters.new]
      split
      · rename_i same
        exact .inr (same ▸ enters.lock)
      · exact .inl none_

end BankB
