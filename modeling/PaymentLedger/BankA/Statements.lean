import PaymentLedger.BankA.Contract

set_option autoImplicit false

-- One lemma for each statement: what its success says about the database it ran on, and
-- the effect it has.

namespace BankA

open Transactional Postgres

theorem exec_eq_ok {sql : Sql} {db : Database} {busy : List (Lock Resource)}
    {effect : Reply sql.Answer} :
    engine.exec sql db busy = .ok effect ↔ execute sql db busy = .ok effect := by
  change (execute sql db busy).mapError Failure.database = .ok effect ↔ _
  cases execute sql db busy <;> simp [Except.mapError]

theorem raises_database {bankId : String} {sql : Sql} {db : Database} {error : Failure}
    (raises : Contract.Raises (service bankId) sql db error) :
    ∃ cause, error = .database cause := by
  rcases raises with rfl | ⟨busy, failed⟩
  · exact ⟨.disconnected, rfl⟩
  · change (execute sql db busy).mapError Failure.database = .error error at failed
    cases ran : execute sql db busy with
    | error cause =>
      rw [ran] at failed
      exact ⟨cause, (Except.error.inj failed).symm⟩
    | ok effect =>
      rw [ran] at failed
      simp [Except.mapError] at failed

theorem insertAccount_ok {id : Uuid} {ownerName : String} {db : Database}
    {effect : Reply AccountRow} (ran : insertAccount id ownerName db = .ok effect) :
    ¬ db.hasAccount id ∧ effect.writes = [.account ⟨id, ownerName⟩] := by
  simp only [insertAccount, bind_eq_ok, text_eq_ok, require_eq_ok] at ran
  obtain ⟨_, ⟨-, rfl⟩, _, -, _, new, same⟩ := ran
  obtain rfl := Except.ok.inj same
  exact ⟨new, rfl⟩

theorem selectAccount_ok {id : String} {db : Database} {effect : Reply (Option AccountRow)}
    (ran : selectAccount id db = .ok effect) : effect.writes = [] := by
  simp only [selectAccount, bind_eq_ok] at ran
  obtain ⟨_, -, same⟩ := ran
  obtain rfl := Except.ok.inj same
  rfl

theorem lockAccount_ok {id : String} {db : Database} {effect : Reply Bool}
    (ran : lockAccount id db = .ok effect) :
    effect.writes = [] ∧ (effect.answer = true →
      ∃ account, Uuid.parse id = some account ∧ exclusive (.account account) ∈ effect.locks) := by
  simp only [lockAccount, bind_eq_ok, uuid_eq_ok] at ran
  obtain ⟨account, parsed, same⟩ := ran
  split at same <;> obtain rfl := Except.ok.inj same
  · exact ⟨rfl, fun _ => ⟨account, parsed, by simp⟩⟩
  · exact ⟨rfl, by simp⟩

structure NewTransfer.Denotes (new : NewTransfer) (row : TransferRow) : Prop where
  id : Uuid.parse new.id = some row.id
  key : new.idempotencyKey = row.idempotencyKey
  payer : Uuid.parse new.payerAccountId = some row.payerAccountId
  payee : Uuid.parse new.payeeAccountId = some row.payeeAccountId
  amount : row.amount = new.amount.cents

theorem NewTransfer.row_ok {new : NewTransfer} {row : TransferRow} (read : new.row = .ok row) :
    new.Denotes row ∧ row.Checked := by
  simp only [NewTransfer.row, bind_eq_ok, uuid_eq_ok, text_eq_ok, require_eq_ok] at read
  obtain ⟨id, parsedId, key, ⟨-, sameKey⟩, payer, parsedPayer, payee, parsedPayee, _, checked,
      same⟩ := read
  obtain rfl := Except.ok.inj same
  exact ⟨⟨parsedId, sameKey, parsedPayer, parsedPayee, rfl⟩, checked⟩

theorem NewTransfer.Denotes.safe {new : NewTransfer} {row : TransferRow}
    (denotes : new.Denotes row) :
    row.amount.natAbs ≤ Double.maxSafeInteger := by
  rw [denotes.amount]
  exact new.amount.cents_le

theorem TransferRow.bookable {row : TransferRow} {db : Database} (checked : row.Checked)
    (safe : row.amount.natAbs ≤ Double.maxSafeInteger) (newId : ¬ db.hasTransfer row.id)
    (newKey : ¬ db.hasKey row.idempotencyKey)
    (parties : db.hasAccount row.payerAccountId ∧ db.hasAccount row.payeeAccountId) :
    row.Bookable row.locks db where
  checked := checked
  safe := safe
  newId := newId
  newKey := newKey
  parties := parties
  keyLock := by simp [TransferRow.locks]
  idLock := by simp [TransferRow.locks]

theorem insertTransfer_ok {new : NewTransfer} {db : Database} {effect : Reply (Option TransferRow)}
    (ran : insertTransfer new db = .ok effect) :
    (effect.answer = none ∧ effect.writes = [] ∧ db.hasKey new.idempotencyKey) ∨
    (∃ row, effect.answer = some row ∧ new.Denotes row ∧ row.Bookable row.locks db ∧
      effect.writes = [.transfer row] ∧ effect.locks = row.locks) := by
  simp only [insertTransfer, bind_eq_ok] at ran
  obtain ⟨row, read, ran⟩ := ran
  obtain ⟨denotes, checked⟩ := NewTransfer.row_ok read
  split at ran
  · rename_i taken
    obtain rfl := Except.ok.inj ran
    rw [denotes.key]
    exact .inl ⟨rfl, rfl, taken⟩
  · rename_i newKey
    simp only [bind_eq_ok, require_eq_ok] at ran
    obtain ⟨_, newId, _, parties, same⟩ := ran
    obtain rfl := Except.ok.inj same
    have bookable := TransferRow.bookable checked denotes.safe newId newKey parties
    exact .inr ⟨row, rfl, denotes, bookable, rfl, rfl⟩

theorem insertSeedTransfer_ok {new : NewTransfer} {db : Database} {effect : Reply Unit}
    (ran : insertSeedTransfer new db = .ok effect) :
    ∃ row, new.Denotes row ∧ row.Bookable row.locks db ∧ effect.writes = [.transfer row] ∧
      effect.locks = row.locks := by
  simp only [insertSeedTransfer, bind_eq_ok, require_eq_ok] at ran
  obtain ⟨row, read, _, ⟨newKey, newId⟩, _, parties, same⟩ := ran
  obtain ⟨denotes, checked⟩ := NewTransfer.row_ok read
  obtain rfl := Except.ok.inj same
  have bookable := TransferRow.bookable checked denotes.safe newId newKey parties
  exact ⟨row, denotes, bookable, rfl, rfl⟩

theorem selectTransferByKey_ok {key : String} {db : Database} {effect : Reply (Option TransferRow)}
    (ran : selectTransferByKey key db = .ok effect) :
    effect.writes = [] ∧ (effect.answer = none → ¬ db.hasKey key) ∧
      ∀ row, effect.answer = some row → row ∈ db.transfers ∧ row.idempotencyKey = key := by
  simp only [selectTransferByKey, bind_eq_ok, text_eq_ok] at ran
  obtain ⟨_, ⟨-, rfl⟩, same⟩ := ran
  obtain rfl := Except.ok.inj same
  refine ⟨rfl, ?_, ?_⟩
  · intro none_ taken
    obtain ⟨row, member, same⟩ := List.mem_map.mp taken
    have absent := List.find?_eq_none.mp none_ row member
    simp [same] at absent
  · intro row found
    have same := List.find?_some found
    simp only [decide_eq_true_eq] at same
    exact ⟨List.mem_of_find?_eq_some found, same⟩

theorem selectTransferById_ok {id : String} {db : Database} {effect : Reply (Option TransferRow)}
    (ran : selectTransferById id db = .ok effect) :
    effect.writes = [] ∧ ∀ row, effect.answer = some row →
      row ∈ db.transfers ∧ Uuid.parse id = some row.id := by
  simp only [selectTransferById, bind_eq_ok, uuid_eq_ok] at ran
  obtain ⟨_, parsed, same⟩ := ran
  obtain rfl := Except.ok.inj same
  refine ⟨rfl, ?_⟩
  intro row found
  have same := List.find?_some found
  simp only [decide_eq_true_eq] at same
  exact ⟨List.mem_of_find?_eq_some found, by rw [same]; exact parsed⟩

theorem sumEntries_ok {accountId : String} {db : Database} {effect : Reply Int}
    (ran : sumEntries accountId db = .ok effect) :
    effect.writes = [] ∧ effect.locks = [] ∧
      ∃ account, Uuid.parse accountId = some account ∧ effect.answer = db.balanceOf account := by
  simp only [sumEntries, bind_eq_ok, uuid_eq_ok] at ran
  obtain ⟨account, parsed, same⟩ := ran
  obtain rfl := Except.ok.inj same
  exact ⟨rfl, rfl, account, parsed, rfl⟩

structure LedgerEntry.Denotes (entry : LedgerEntry) (row : LedgerEntryRow) : Prop where
  transferId : Uuid.parse entry.transferId = some row.transferId
  accountId : Uuid.parse entry.accountId = some row.accountId
  amount : row.amount = entry.amount.cents

theorem LedgerEntry.row_ok {entry : LedgerEntry} {row : LedgerEntryRow}
    (read : entry.row = .ok row) :
    entry.Denotes row := by
  simp only [LedgerEntry.row, bind_eq_ok, uuid_eq_ok, require_eq_ok] at read
  obtain ⟨_, parsedTransfer, _, parsedAccount, _, -, same⟩ := read
  obtain rfl := Except.ok.inj same
  exact ⟨parsedTransfer, parsedAccount, rfl⟩

theorem LedgerEntry.Denotes.unique {entry : LedgerEntry} {row other : LedgerEntryRow}
    (left : entry.Denotes row) (right : entry.Denotes other) : row = other := by
  have transferId := Option.some.inj (left.transferId.symm.trans right.transferId)
  have accountId := Option.some.inj (left.accountId.symm.trans right.accountId)
  have amount := left.amount.trans right.amount.symm
  cases row
  cases other
  simp_all

theorem insertEntry_ok {entry : LedgerEntry} {db : Database} {effect : Reply Unit}
    (ran : insertEntry entry db = .ok effect) :
    ∃ row, entry.Denotes row ∧ effect.writes = [.ledgerEntry row] := by
  simp only [insertEntry, bind_eq_ok, require_eq_ok] at ran
  obtain ⟨row, read, _, -, same⟩ := ran
  obtain rfl := Except.ok.inj same
  exact ⟨row, LedgerEntry.row_ok read, rfl⟩

theorem insertSeedEntries_ok {debit credit : LedgerEntry} {db : Database} {effect : Reply Unit}
    (ran : insertSeedEntries debit credit db = .ok effect) :
    ∃ first second, debit.Denotes first ∧ credit.Denotes second ∧
      effect.writes = [.ledgerEntry first, .ledgerEntry second] := by
  simp only [insertSeedEntries, bind_eq_ok, require_eq_ok] at ran
  obtain ⟨first, readFirst, second, readSecond, _, -, same⟩ := ran
  obtain rfl := Except.ok.inj same
  exact ⟨first, second, LedgerEntry.row_ok readFirst, LedgerEntry.row_ok readSecond, rfl⟩

theorem insertInterbankTransfer_ok {transferId payeeBankId payeeAccountRef : String} {now : Int}
    {db : Database} {effect : Reply InterbankTransferRow}
    (ran : insertInterbankTransfer transferId payeeBankId payeeAccountRef now db = .ok effect) :
    ∃ id, Uuid.parse transferId = some id ∧
      effect.answer = ⟨id, payeeBankId, payeeAccountRef, .debited, now⟩ ∧
      effect.writes = [.interbankTransfer ⟨id, payeeBankId, payeeAccountRef, .debited, now⟩] ∧
      effect.locks = [exclusive (.interbankTransfer id)] := by
  simp only [insertInterbankTransfer, bind_eq_ok, uuid_eq_ok, text_eq_ok, require_eq_ok] at ran
  obtain ⟨id, parsed, _, ⟨-, rfl⟩, _, ⟨-, rfl⟩, _, -, _, -, _, -, same⟩ := ran
  obtain rfl := Except.ok.inj same
  exact ⟨id, parsed, rfl, rfl, rfl⟩

theorem insertInterbankTransfer_checked {transferId payeeBankId payeeAccountRef : String}
    {now : Int} {db : Database} {effect : Reply InterbankTransferRow}
    (ran : insertInterbankTransfer transferId payeeBankId payeeAccountRef now db = .ok effect) :
    1 ≤ payeeAccountRef.length ∧ payeeAccountRef.length ≤ 255 := by
  simp only [insertInterbankTransfer, bind_eq_ok, uuid_eq_ok, text_eq_ok, require_eq_ok] at ran
  obtain ⟨_, -, _, ⟨-, rfl⟩, _, ⟨-, rfl⟩, _, checked, -⟩ := ran
  exact checked

theorem selectInterbankTransfer_ok {transferId : Option String} {db : Database}
    {effect : Reply (Option InterbankTransferRow)}
    (ran : selectInterbankTransfer transferId db = .ok effect) :
    effect.writes = [] ∧ ∀ row, effect.answer = some row → ∃ text, transferId = some text ∧
      Uuid.parse text = some row.transferId ∧
      (db.interbankTransfers.find? fun other => other.transferId = row.transferId) = some row := by
  cases transferId with
  | none =>
    obtain rfl := Except.ok.inj ran
    exact ⟨rfl, by simp⟩
  | some text =>
    simp only [selectInterbankTransfer, bind_eq_ok, uuid_eq_ok] at ran
    obtain ⟨id, parsed, same⟩ := ran
    obtain rfl := Except.ok.inj same
    refine ⟨rfl, ?_⟩
    intro row found
    have same := List.find?_some found
    simp only [decide_eq_true_eq] at same
    refine ⟨text, rfl, by rw [same]; exact parsed, ?_⟩
    rw [same]
    exact found

theorem any_debited {db : Database}
    (nodup : (db.interbankTransfers.map InterbankTransferRow.transferId).Nodup) (id : Uuid) :
    (db.interbankTransfers.any fun row => row.transferId = id && row.status = .debited) = true ↔
      db.status id = some .debited := by
  constructor
  · intro found
    obtain ⟨row, member, both⟩ := List.any_eq_true.mp found
    simp only [Bool.and_eq_true, decide_eq_true_eq] at both
    cases first : db.interbankTransfers.find? fun other => other.transferId = id with
    | none =>
      have absent := List.find?_eq_none.mp first row member
      simp [both.1] at absent
    | some other =>
      have same := List.find?_some first
      simp only [decide_eq_true_eq] at same
      obtain rfl := List.inj_on_of_nodup_map nodup (List.mem_of_find?_eq_some first) member
        (same.trans both.1.symm)
      simp [Database.status, first, both.2]
  · intro debited
    obtain ⟨row, member, same, status⟩ := mem_of_status debited
    exact List.any_eq_true.mpr ⟨row, member, by simp [same, status]⟩

theorem updateStatus_ok {transferId : String} {status : InterbankTransferStatus} {now : Int}
    {db : Database} {effect : Reply Unit}
    (nodup : (db.interbankTransfers.map InterbankTransferRow.transferId).Nodup)
    (ran : updateStatus transferId status now db = .ok effect) :
    ∃ id, Uuid.parse transferId = some id ∧
      ((db.status id = some .debited ∧ effect.writes = [.status id status now] ∧
          effect.locks = [exclusive (.interbankTransfer id)]) ∨
        (db.status id ≠ some .debited ∧ effect.writes = [] ∧ effect.locks = [])) := by
  simp only [updateStatus, bind_eq_ok, uuid_eq_ok] at ran
  obtain ⟨id, parsed, ran⟩ := ran
  refine ⟨id, parsed, ?_⟩
  split at ran <;> rename_i found <;> obtain rfl := Except.ok.inj ran
  · exact .inl ⟨(any_debited nodup id).mp found, rfl, rfl⟩
  · exact .inr ⟨fun debited => found ((any_debited nodup id).mpr debited), rfl, rfl⟩

theorem insertEvent_ok {id : Nat} {aggregateId eventType routingKey : String}
    {payload : Json.Object} {db : Database} {effect : Reply Unit}
    (ran : insertEvent id aggregateId eventType routingKey payload db = .ok effect) :
    ∃ aggregate, Uuid.parse aggregateId = some aggregate ∧
      id ∉ db.outboxEvents.map Outbox.Row.id ∧
      effect.writes = [.outboxEvent
        { id, aggregateId := aggregate, eventType, routingKey, payload }] ∧
      effect.locks = [exclusive (.outboxEvent id)] := by
  simp only [insertEvent, bind_eq_ok] at ran
  obtain ⟨row, added, same⟩ := ran
  obtain ⟨aggregate, parsed, new, rfl⟩ := Outbox.newRow_ok added
  obtain rfl := Except.ok.inj same
  exact ⟨aggregate, parsed, new, rfl, rfl⟩

theorem markPublished_ok {id : Nat} {db : Database} {effect : Reply Unit}
    (ran : markPublished id db = .ok effect) : effect.writes = [] ∨
    effect.writes = [.published id] := by
  obtain rfl := Except.ok.inj ran
  exact Outbox.markPublished_writes _

end BankA
