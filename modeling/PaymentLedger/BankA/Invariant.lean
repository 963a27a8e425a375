import PaymentLedger.BankA.Commits

set_option autoImplicit false

namespace BankA

open Transactional

section Fields

variable (db : Database) (row : TransferRow)

@[simp] theorem book_accounts : (db.book row).accounts = db.accounts := rfl

@[simp] theorem book_transfers : (db.book row).transfers = db.transfers ++ [row] := rfl

@[simp] theorem book_ledgerEntries :
    (db.book row).ledgerEntries = db.ledgerEntries ++ row.entries := rfl

@[simp] theorem book_interbankTransfers :
    (db.book row).interbankTransfers = db.interbankTransfers := rfl

@[simp] theorem book_outboxEvents : (db.book row).outboxEvents = db.outboxEvents := rfl

@[simp] theorem book_status (transferId : Uuid) : (db.book row).status transferId =
      db.status transferId :=
  rfl

theorem hasKey_book (key : String) :
    (db.book row).hasKey key ↔ db.hasKey key ∨ key = row.idempotencyKey := by
  simp [Database.hasKey, Database.book, eq_comm]

theorem hasTransfer_book (transferId : Uuid) :
    (db.book row).hasTransfer transferId ↔ db.hasTransfer transferId ∨ transferId = row.id := by
  simp [Database.hasTransfer, Database.book, eq_comm]

theorem balanceOf_book (accountId : Uuid) :
    (db.book row).balanceOf accountId =
      db.balanceOf accountId + DoubleEntry.balance row.movement.postings accountId := by
  have added : (db.book row).postings = db.postings ++ row.movement.postings := by
    simp [Database.postings, Database.book, TransferRow.entries, TransferRow.movement,
      DoubleEntry.Movement.postings]
  rw [Database.balanceOf, added, DoubleEntry.balance_append]
  rfl

variable (transferId : Uuid) (status : InterbankTransferStatus) (now : Int)

@[simp] theorem settle_accounts : (db.settle transferId status now).accounts = db.accounts := by
  unfold Database.settle
  split <;> rfl

@[simp] theorem settle_transfers : (db.settle transferId status now).transfers = db.transfers := by
  unfold Database.settle
  split <;> rfl

@[simp] theorem settle_ledgerEntries :
    (db.settle transferId status now).ledgerEntries = db.ledgerEntries := by
  unfold Database.settle
  split <;> rfl

@[simp] theorem settle_outboxEvents :
    (db.settle transferId status now).outboxEvents = db.outboxEvents := by
  unfold Database.settle
  split <;> rfl

@[simp] theorem settle_hasKey (key : String) :
    (db.settle transferId status now).hasKey key ↔ db.hasKey key := by
  simp [Database.hasKey]

@[simp] theorem settle_hasTransfer (id : Uuid) :
    (db.settle transferId status now).hasTransfer id ↔ db.hasTransfer id := by
  simp [Database.hasTransfer]

@[simp] theorem settle_hasAccount (id : Uuid) :
    (db.settle transferId status now).hasAccount id ↔ db.hasAccount id := by
  simp [Database.hasAccount]

@[simp] theorem settle_balanceOf (accountId : Uuid) :
    (db.settle transferId status now).balanceOf accountId = db.balanceOf accountId := by
  simp [Database.balanceOf, Database.postings]

end Fields

@[simp] theorem refund_interbankTransfers (db : Database) (reversal : TransferRow) :
    (db.refund reversal).interbankTransfers = db.interbankTransfers := by
  unfold Database.refund
  split <;> rfl

@[simp] theorem refund_status (db : Database) (reversal : TransferRow) (transferId : Uuid) :
    (db.refund reversal).status transferId = db.status transferId := by
  simp [Database.status]

theorem setStatus_ids (rows : List InterbankTransferRow) (transferId : Uuid)
    (status : InterbankTransferStatus) (now : Int) :
    (setStatus rows transferId status now).map InterbankTransferRow.transferId =
      rows.map InterbankTransferRow.transferId := by
  simp only [setStatus, List.map_map]
  apply List.map_congr_left
  intro row _
  simp only [Function.comp]
  split <;> rfl

theorem settle_ids (db : Database) (transferId : Uuid) (status : InterbankTransferStatus)
    (now : Int) :
    (db.settle transferId status now).interbankTransfers.map InterbankTransferRow.transferId =
      db.interbankTransfers.map InterbankTransferRow.transferId := by
  unfold Database.settle
  split
  · exact setStatus_ids _ _ _ _
  · rfl

theorem mem_settle {db : Database} {transferId : Uuid} {status : InterbankTransferStatus}
    {now : Int} {row : InterbankTransferRow}
    (member : row ∈ (db.settle transferId status now).interbankTransfers) :
    ∃ before ∈ db.interbankTransfers, before.transferId = row.transferId ∧
      before.payeeBankId = row.payeeBankId ∧ before.payeeAccountRef = row.payeeAccountRef := by
  unfold Database.settle at member
  split at member
  · obtain ⟨before, present, same⟩ := List.mem_map.mp member
    refine ⟨before, present, ?_⟩
    split at same <;> subst same <;> simp
  · exact ⟨row, member, rfl, rfl, rfl⟩

theorem status_settle (db : Database) (transferId other : Uuid) (status : InterbankTransferStatus)
    (now : Int) :
    (db.settle transferId status now).status other =
      if other = transferId ∧ db.status transferId = some .debited then some status
      else db.status other := by
  unfold Database.settle
  split
  · rename_i debited
    have found : (setStatus db.interbankTransfers transferId status now).find?
        (fun row => row.transferId = other) =
        (db.interbankTransfers.find? fun row => row.transferId = other).map fun row =>
          if row.transferId = transferId then { row with status, updatedAt := now } else row := by
      rw [setStatus, List.find?_map]
      congr 2
      funext row
      simp only [Function.comp]
      split <;> rfl
    by_cases same : other = transferId
    · subst same
      rw [if_pos ⟨rfl, debited⟩]
      unfold Database.status at debited ⊢
      rw [found]
      cases first : db.interbankTransfers.find? fun row => row.transferId = other with
      | none => simp [first] at debited
      | some row =>
        have id := List.find?_some first
        simp only [decide_eq_true_eq] at id
        simp [id]
    · rw [if_neg fun both => same both.1]
      unfold Database.status
      rw [found]
      cases first : db.interbankTransfers.find? fun row => row.transferId = other with
      | none => rfl
      | some row =>
        have id := List.find?_some first
        simp only [decide_eq_true_eq] at id
        simp [id, same]
  · rename_i other_
    rw [if_neg fun both => other_ both.2]

theorem WellFormed.status_of_mem {db : Database} (wellFormed : WellFormed db)
    {row : InterbankTransferRow} (member : row ∈ db.interbankTransfers) :
    db.status row.transferId = some row.status := by
  have unique : ∀ other ∈ db.interbankTransfers, other.transferId = row.transferId → other = row :=
    fun other present same => List.inj_on_of_nodup_map wellFormed.interbankIds present member same
  cases first : db.interbankTransfers.find? fun other => other.transferId = row.transferId with
  | none =>
    have absent := List.find?_eq_none.mp first row member
    simp at absent
  | some other =>
    have id := List.find?_some first
    simp only [decide_eq_true_eq] at id
    obtain rfl := unique other (List.mem_of_find?_eq_some first) id
    simp [Database.status, first]

theorem mem_of_status {db : Database} {transferId : Uuid} {status : InterbankTransferStatus}
    (found : db.status transferId = some status) :
    ∃ row ∈ db.interbankTransfers, row.transferId = transferId ∧ row.status = status := by
  unfold Database.status at found
  obtain ⟨row, first, same⟩ := Option.map_eq_some_iff.mp found
  have id := List.find?_some first
  simp only [decide_eq_true_eq] at id
  exact ⟨row, List.mem_of_find?_eq_some first, id, same⟩

theorem transfer_ext {db : Database} (wellFormed : WellFormed db) {row other : TransferRow}
    (member : row ∈ db.transfers) (present : other ∈ db.transfers) (same : row.id = other.id) :
    row = other :=
  List.inj_on_of_nodup_map wellFormed.ids member present same

theorem transfer_of_key {db : Database} (wellFormed : WellFormed db) {row other : TransferRow}
    (member : row ∈ db.transfers) (present : other ∈ db.transfers)
    (same : row.idempotencyKey = other.idempotencyKey) : row = other :=
  List.inj_on_of_nodup_map wellFormed.keys member present same

theorem customer_of_isUUID {text : String} {id : Uuid} (valid : isUUID text = true)
    (parsed : Uuid.parse text = some id) : Customer id := by
  unfold isUUID at valid
  cases pattern : Uuid.ofPattern text with
  | none => simp [pattern] at valid
  | some other =>
    have same : some other = some id := (Uuid.parse_of_pattern pattern).symm.trans parsed
    obtain rfl := Option.some.inj same
    rw [pattern] at valid
    constructor
    · rintro rfl
      revert valid
      decide
    · rintro rfl
      revert valid
      decide

theorem WellFormed.book {db : Database} {row : TransferRow} {locks : List (Lock Resource)}
    (wellFormed : WellFormed db) (bookable : row.Bookable locks db)
    (funds : Customer row.payerAccountId → row.amount ≤ db.balanceOf row.payerAccountId) :
    WellFormed (db.book row) where
  accounts := wellFormed.accounts
  suspense := wellFormed.suspense
  treasury := wellFormed.treasury
  ids := by
    have new := bookable.newId
    simp only [Database.hasTransfer] at new
    simpa [List.nodup_append, wellFormed.ids] using fun a member same => new (by
      rw [← same]
      exact List.mem_map_of_mem member)
  keys := by
    have new := bookable.newKey
    simp only [Database.hasKey] at new
    simpa [List.nodup_append, wellFormed.keys] using fun a member same => new (by
      rw [← same]
      exact List.mem_map_of_mem member)
  checked := by
    intro other member
    rcases List.mem_append.mp member with old | new
    · exact wellFormed.checked other old
    · obtain rfl := List.mem_singleton.mp new
      exact bookable.checked
  safe := by
    intro other member
    rcases List.mem_append.mp member with old | new
    · exact wellFormed.safe other old
    · obtain rfl := List.mem_singleton.mp new
      exact bookable.safe
  parties := by
    intro other member
    rcases List.mem_append.mp member with old | new
    · exact wellFormed.parties other old
    · obtain rfl := List.mem_singleton.mp new
      exact bookable.parties
  ledger := by simp [wellFormed.ledger]
  interbankIds := wellFormed.interbankIds
  interbank := by
    intro other member
    obtain ⟨transfer, present, facts⟩ := wellFormed.interbank other member
    exact ⟨transfer, List.mem_append_left _ present, facts⟩
  events := wellFormed.events
  solvent := by
    intro accountId customer
    have before := wellFormed.solvent accountId customer
    have positive : 0 < row.movement.amount := bookable.checked.2.2.1
    rw [balanceOf_book]
    by_cases payer : row.payerAccountId = accountId
    · subst payer
      have enough := funds customer
      have distinct := bookable.checked.2.2.2
      have loss : DoubleEntry.balance row.movement.postings row.payerAccountId = -row.amount := by
        simp [DoubleEntry.balance_movement, TransferRow.movement, Ne.symm distinct]
      rw [loss]
      omega
    · have gain := DoubleEntry.balance_movement_nonneg row.movement accountId positive payer
      omega

theorem WellFormed.settle {db : Database} (wellFormed : WellFormed db) (transferId : Uuid)
    (status : InterbankTransferStatus) (now : Int) :
    WellFormed (db.settle transferId status now) where
  accounts := by simpa using wellFormed.accounts
  suspense := by simpa using wellFormed.suspense
  treasury := by simpa using wellFormed.treasury
  ids := by simpa using wellFormed.ids
  keys := by simpa using wellFormed.keys
  checked := by simpa using wellFormed.checked
  safe := by simpa using wellFormed.safe
  parties := by simpa using wellFormed.parties
  ledger := by simpa using wellFormed.ledger
  interbankIds := by
    rw [settle_ids]
    exact wellFormed.interbankIds
  interbank := by
    intro row member
    obtain ⟨before, present, id, -⟩ := mem_settle member
    rw [← id, settle_transfers]
    exact wellFormed.interbank before present
  events := by simpa using wellFormed.events
  solvent := by simpa using wellFormed.solvent

theorem WellFormed.compensate {db : Database} {reversal : TransferRow}
    {locks : List (Lock Resource)} (wellFormed : WellFormed db)
    (bookable : ¬ db.hasKey reversal.idempotencyKey → reversal.Bookable locks db)
    (payer : reversal.payerAccountId = SUSPENSE_ACCOUNT_ID) (transferId : Uuid) (now : Int) :
    WellFormed (db.compensate reversal transferId now) := by
  unfold Database.compensate Database.refund
  split
  · exact wellFormed.settle _ _ _
  · rename_i new
    have booked := wellFormed.book (bookable new) fun customer => absurd payer customer.1
    exact booked.settle _ _ _

theorem WellFormed.publish {db : Database} (wellFormed : WellFormed db) {rows : List Outbox.Row}
    (same : Outbox.SameEvents db.outboxEvents rows) :
    WellFormed { db with outboxEvents := rows } :=
  { wellFormed with
    events := by
      rw [same.map_eq Outbox.Row.id fun _ => rfl]
      exact wellFormed.events }

theorem WellFormed.open_ {db : Database} (wellFormed : WellFormed db) (row : AccountRow)
    (new : ¬ db.hasAccount row.id) : WellFormed { db with accounts := db.accounts ++ [row] } :=
  { wellFormed with
    accounts := by
      simp only [Database.hasAccount] at new
      simpa [List.nodup_append, wellFormed.accounts] using fun a member same => new (by
        rw [← same]
        exact List.mem_map_of_mem member)
    suspense := by
      have old := wellFormed.suspense
      simp only [Database.hasAccount, List.map_append, List.mem_append] at old ⊢
      exact .inl old
    treasury := by
      have old := wellFormed.treasury
      simp only [Database.hasAccount, List.map_append, List.mem_append] at old ⊢
      exact .inl old
    parties := by
      intro transfer member
      have old := wellFormed.parties transfer member
      simp only [Database.hasAccount, List.map_append, List.mem_append] at old ⊢
      exact ⟨.inl old.1, .inl old.2⟩
    solvent := wellFormed.solvent }

theorem WellFormed.debit {db : Database} {row : TransferRow} {locks : List (Lock Resource)}
    (wellFormed : WellFormed db) (bookable : row.Bookable locks db)
    (affordable : row.Affordable locks db) (payee : row.payeeAccountId = SUSPENSE_ACCOUNT_ID)
    (interbank : InterbankTransferRow) (sameId : interbank.transferId = row.id) (event : Outbox.Row)
    (newEvent : event.id ∉ db.outboxEvents.map Outbox.Row.id) :
    WellFormed (db.debit row interbank event) :=
  let booked := wellFormed.book bookable fun _ => affordable.funds
  { booked with
    interbankIds := by
      -- A row with this id would need a transfer with this id.
      have new : ∀ other ∈ db.interbankTransfers, other.transferId ≠ row.id := by
        intro other member same
        obtain ⟨transfer, present, id, -⟩ := wellFormed.interbank other member
        apply bookable.newId
        rw [← same, ← id]
        exact List.mem_map_of_mem present
      simpa [Database.debit, List.nodup_append, wellFormed.interbankIds, sameId] using new
    interbank := by
      intro other member
      rcases List.mem_append.mp member with old | new
      · exact booked.interbank other old
      · obtain rfl := List.mem_singleton.mp new
        exact ⟨row, by simp [Database.debit], sameId.symm, affordable.payer, payee⟩
    events := by
      simpa [Database.debit, List.nodup_append, wellFormed.events]
        using fun a member same => newEvent (by
        rw [← same]
        exact List.mem_map_of_mem member)
    solvent := booked.solvent }

theorem wellFormed_migrated : WellFormed migrated where
  accounts := by decide
  suspense := by decide
  treasury := by decide
  ids := by decide
  keys := by decide
  checked := by simp [migrated]
  safe := by simp [migrated]
  parties := by simp [migrated]
  ledger := rfl
  interbankIds := by decide
  interbank := by simp [migrated]
  events := by decide
  solvent := by
    intro accountId _
    exact le_refl 0

theorem Commit.wellFormed {bankId : String} {call : Call} {locks : List (Lock Resource)}
    {db db' : Database} (wellFormed : WellFormed db) (commit : Commit bankId call locks db db') :
    WellFormed db' := by
  cases commit with
  | opened id ownerName new => exact wellFormed.open_ _ new
  | seeded row account amountCents bookable payer key =>
    exact wellFormed.book bookable fun customer => absurd payer customer.2
  | transferred row id key body bookable affordable requested payee =>
    exact wellFormed.book bookable fun _ => affordable.funds
  | debited row draws key body bookable affordable requested payee newEvent interbankLock
      eventLock =>
    exact wellFormed.debit bookable affordable payee _ requested.id.symm _ newEvent
  | confirmed _ handling settlementId transferId handles targets confirms statusLock =>
    exact wellFormed.settle _ _ _
  | compensated _ handling settlementId transferId original handles targets refuses present same
      known bookable statusLock =>
    exact wellFormed.compensate bookable rfl _ _
  | published rows same => exact wellFormed.publish same

end BankA
