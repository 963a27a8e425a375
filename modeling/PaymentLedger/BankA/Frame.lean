import PaymentLedger.BankA.Invariant
import PaymentLedger.Shared.RelyGuarantee

set_option autoImplicit false

-- `Frame locks db db'` lists what every commit under `locks` preserves. A fact that a
-- session holds a lock for, or that no commit ever undoes, is stable.

namespace BankA

open Transactional

namespace Database

variable (db : Database)

def companion (transferId : Uuid) : Option (String × String) :=
  (db.interbankTransfers.find? fun row => row.transferId = transferId).map fun row =>
    (row.payeeBankId, row.payeeAccountRef)

end Database

structure Frame (locks : List (Lock Resource)) (db db' : Database) : Prop where
  accounts : ∀ id, db.hasAccount id → db'.hasAccount id
  transfers : ∀ row ∈ db.transfers, row ∈ db'.transfers
  keys : ∀ key, db'.hasKey key → db.hasKey key ∨ exclusive (.idempotencyKey key) ∈ locks
  ids : ∀ id, db'.hasTransfer id → db.hasTransfer id ∨ exclusive (.transfer id) ∈ locks
  balance : ∀ id, Customer id → db.balanceOf id ≤ db'.balanceOf id ∨ exclusive (.account id) ∈ locks
  companions : ∀ row ∈ db.transfers, db'.companion row.id = db.companion row.id
  settled : ∀ id status, db.status id = some status → status ≠ .debited →
    db'.status id = some status
  debited : ∀ id, db.status id = some .debited → db'.status id = some .debited ∨
    (exclusive (.interbankTransfer id) ∈ locks ∧
      ∃ status, db'.status id = some status ∧ status ≠ .debited)
  newEvents : ∀ id ∈ db'.outboxEvents.map Outbox.Row.id,
    id ∈ db.outboxEvents.map Outbox.Row.id ∨ exclusive (.outboxEvent id) ∈ locks
  messages : ∀ row ∈ db.outboxEvents, ∃ later ∈ db'.outboxEvents, later.message = row.message

theorem Frame.refl (locks : List (Lock Resource)) (db : Database) : Frame locks db db where
  accounts := fun _ old => old
  transfers := fun _ old => old
  keys := fun _ old => .inl old
  ids := fun _ old => .inl old
  balance := fun _ _ => .inl (le_refl _)
  companions := fun _ _ => rfl
  settled := fun _ _ old _ => old
  debited := fun _ old => .inl old
  newEvents := fun _ old => .inl old
  messages := fun row old => ⟨row, old, rfl⟩

theorem Frame.book {db : Database} {row : TransferRow} {locks : List (Lock Resource)}
    (bookable : row.Bookable locks db)
    (payer : Customer row.payerAccountId → exclusive (.account row.payerAccountId) ∈ locks) :
    Frame locks db (db.book row) :=
  { Frame.refl locks db with
    transfers := fun _ old => List.mem_append_left _ old
    keys := by
      intro key found
      rcases (hasKey_book db row key).mp found with old | rfl
      · exact .inl old
      · exact .inr bookable.keyLock
    ids := by
      intro id found
      rcases (hasTransfer_book db row id).mp found with old | rfl
      · exact .inl old
      · exact .inr bookable.idLock
    balance := by
      intro id customer
      rw [balanceOf_book]
      by_cases same : row.payerAccountId = id
      · subst same
        exact .inr (payer customer)
      · have positive : 0 < row.movement.amount := bookable.checked.2.2.1
        have gain := DoubleEntry.balance_movement_nonneg row.movement id positive same
        exact .inl (by omega)
    companions := fun _ _ => rfl
    settled := fun _ _ old _ => old
    debited := fun _ old => .inl old
    newEvents := fun _ old => .inl old
    messages := fun row old => ⟨row, old, rfl⟩ }

theorem companion_settle (db : Database) (transferId other : Uuid)
    (status : InterbankTransferStatus) (now : Int) :
    (db.settle transferId status now).companion other = db.companion other := by
  unfold Database.settle
  split
  · simp only [Database.companion, setStatus, List.find?_map, Option.map_map]
    have same (row : InterbankTransferRow) :
        (if row.transferId = transferId then { row with status, updatedAt := now } else row).transferId =
          row.transferId := by
      split <;> rfl
    simp only [Function.comp_def, same]
    congr 1
    funext row
    split <;> rfl
  · rfl

theorem Frame.settle {db : Database} {locks : List (Lock Resource)} {transferId : Uuid}
    {status : InterbankTransferStatus} {now : Int} (final : status ≠ .debited)
    (lock : db.status transferId = some .debited →
      exclusive (.interbankTransfer transferId) ∈ locks) :
    Frame locks db (db.settle transferId status now) where
  accounts := by simp
  transfers := by simp
  keys := fun key found => .inl ((settle_hasKey _ _ _ _ key).mp found)
  ids := fun id found => .inl ((settle_hasTransfer _ _ _ _ id).mp found)
  balance := by
    intro id _
    rw [settle_balanceOf]
    exact .inl (le_refl _)
  companions := fun row _ => companion_settle db transferId row.id status now
  settled := by
    intro id before old notDebited
    rw [status_settle, if_neg]
    · exact old
    · rintro ⟨rfl, debited⟩
      exact notDebited (Option.some.inj (old.symm.trans debited))
  debited := by
    intro id old
    rw [status_settle]
    split
    · rename_i both
      rw [both.1]
      exact .inr ⟨lock both.2, status, rfl, final⟩
    · exact .inl old
  newEvents := by
    intro id found
    rw [settle_outboxEvents] at found
    exact .inl found
  messages := by
    intro row old
    rw [settle_outboxEvents]
    exact ⟨row, old, rfl⟩

theorem Frame.trans {locks : List (Lock Resource)} {first second third : Database}
    (left : Frame locks first second) (right : Frame locks second third) :
    Frame locks first third where
  accounts := fun id old => right.accounts id (left.accounts id old)
  transfers := fun row old => right.transfers row (left.transfers row old)
  keys := fun key found => (right.keys key found).elim (left.keys key) .inr
  ids := fun id found => (right.ids id found).elim (left.ids id) .inr
  balance := by
    intro id customer
    rcases left.balance id customer with first | locked
    · rcases right.balance id customer with second | locked
      · exact .inl (le_trans first second)
      · exact .inr locked
    · exact .inr locked
  companions := fun row old =>
    (right.companions row (left.transfers row old)).trans (left.companions row old)
  settled := fun id status old final =>
    right.settled id status (left.settled id status old final) final
  debited := by
    intro id old
    rcases left.debited id old with same | ⟨locked, status, now, final⟩
    · exact right.debited id same
    · exact .inr ⟨locked, status, right.settled id status now final, final⟩
  newEvents := fun id found => (right.newEvents id found).elim (left.newEvents id) .inr
  messages := by
    intro row old
    obtain ⟨middle, present, same⟩ := left.messages row old
    obtain ⟨last, found, again⟩ := right.messages middle present
    exact ⟨last, found, again.trans same⟩

theorem Frame.compensate {db : Database} {reversal : TransferRow} {locks : List (Lock Resource)}
    {transferId : Uuid} {now : Int}
    (bookable : ¬ db.hasKey reversal.idempotencyKey → reversal.Bookable locks db)
    (payer : reversal.payerAccountId = SUSPENSE_ACCOUNT_ID)
    (lock : db.status transferId = some .debited →
      exclusive (.interbankTransfer transferId) ∈ locks) :
    Frame locks db (db.compensate reversal transferId now) := by
  unfold Database.compensate Database.refund
  split
  · exact Frame.settle (by decide) lock
  · rename_i new
    have booked := Frame.book (bookable new) fun customer => absurd payer customer.1
    exact booked.trans (Frame.settle (by decide) lock)

theorem find?_append_of_ne {rows : List InterbankTransferRow} {row : InterbankTransferRow}
    {id : Uuid} (other : row.transferId ≠ id) :
    ((rows ++ [row]).find? fun row => row.transferId = id) = rows.find? fun row =>
    row.transferId = id := by
  simp [List.find?_append, other]

theorem Frame.debit {db : Database} (wellFormed : WellFormed db) {row : TransferRow}
    {locks : List (Lock Resource)} (bookable : row.Bookable locks db)
    (affordable : row.Affordable locks db) {interbank : InterbankTransferRow}
    (sameId : interbank.transferId = row.id) {event : Outbox.Row}
    (eventLock : exclusive (.outboxEvent event.id) ∈ locks) :
    Frame locks db (db.debit row interbank event) :=
  let booked := Frame.book bookable fun _ => affordable.payerLock
  -- A transfer of this id is new, so no existing row is the new one's.
  have apart {id : Uuid} {status : InterbankTransferStatus} (known : db.status id = some status) :
      interbank.transferId ≠ id := by
    rintro rfl
    obtain ⟨present, member, same, -⟩ := mem_of_status known
    obtain ⟨transfer, found, id, -⟩ := wellFormed.interbank present member
    apply bookable.newId
    rw [← sameId, ← same, ← id]
    exact List.mem_map_of_mem found
  { booked with
    companions := by
      intro other member
      have different : interbank.transferId ≠ other.id := by
        rw [sameId]
        intro same
        apply bookable.newId
        rw [same]
        exact List.mem_map_of_mem member
      simp only [Database.companion, Database.debit, find?_append_of_ne different]
    settled := by
      intro id status known _
      simpa only [Database.status, Database.debit, find?_append_of_ne (apart known)] using known
    debited := by
      intro id known
      refine .inl ?_
      simpa only [Database.status, Database.debit, find?_append_of_ne (apart known)] using known
    newEvents := by
      intro id found
      simp only [Database.debit, List.map_append, List.mem_append, List.map_cons, List.map_nil,
        List.mem_singleton] at found
      rcases found with old | rfl
      · exact .inl old
      · exact .inr eventLock
    messages := fun row old => ⟨row, List.mem_append_left _ old, rfl⟩ }

theorem Frame.publish {db : Database} {locks : List (Lock Resource)} {rows : List Outbox.Row}
    (same : Outbox.SameEvents db.outboxEvents rows) :
    Frame locks db { db with outboxEvents := rows } :=
  { Frame.refl locks db with
    newEvents := by
      intro id found
      rw [same.map_eq Outbox.Row.id fun _ => rfl] at found
      exact .inl found
    messages := by
      intro row old
      obtain ⟨later, present, equal⟩ := same.symm.mem old
      have message := congrArg Outbox.Row.message equal
      exact ⟨later, present, message⟩ }

theorem Frame.open_ {db : Database} {locks : List (Lock Resource)} (row : AccountRow) :
    Frame locks db { db with accounts := db.accounts ++ [row] } :=
  { Frame.refl locks db with
    accounts := by
      intro id old
      simp only [Database.hasAccount, List.map_append, List.mem_append] at old ⊢
      exact .inl old }

theorem Commit.frame {bankId : String} {call : Call} {locks : List (Lock Resource)}
    {db db' : Database} (wellFormed : WellFormed db) (commit : Commit bankId call locks db db') :
    Frame locks db db' := by
  cases commit with
  | opened id ownerName new => exact Frame.open_ _
  | seeded row account amountCents bookable payer key =>
    exact Frame.book bookable fun customer => absurd payer customer.2
  | transferred row id key body bookable affordable requested payee =>
    exact Frame.book bookable fun _ => affordable.payerLock
  | debited row draws key body bookable affordable requested payee newEvent interbankLock
      eventLock =>
    exact Frame.debit wellFormed bookable affordable requested.id.symm eventLock
  | confirmed _ handling settlementId transferId handles targets confirms statusLock =>
    exact Frame.settle (by decide) statusLock
  | compensated _ handling settlementId transferId original handles targets refuses present same
      known bookable statusLock =>
    exact Frame.compensate bookable rfl statusLock
  | published rows same => exact Frame.publish same

end BankA
