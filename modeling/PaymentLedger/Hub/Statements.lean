import PaymentLedger.Hub.Contract

set_option autoImplicit false

namespace Hub

open Transactional Postgres

theorem exec_eq_ok {sql : Sql} {db : Database} {busy : List (Lock Resource)}
    {effect : Reply sql.Answer} :
    engine.exec sql db busy = .ok effect ↔ execute sql db busy = .ok effect := by
  change (execute sql db busy).mapError Failure.database = .ok effect ↔ _
  cases execute sql db busy <;> simp [Except.mapError]

@[simp] theorem notNull_eq_ok {α : Type} {value : Option α} {found : α} :
    notNull value = .ok found ↔ value = some found := by
  cases value <;> simp [notNull]

theorem optionalText_ok {value stored : Option String} (read : optionalText value = .ok stored) :
    stored = value := by
  cases value with
  | none => exact (Except.ok.inj read).symm
  | some value =>
    simp only [optionalText] at read
    cases found : text value with
    | error error =>
      rw [found] at read
      cases read
    | ok same =>
      rw [found] at read
      obtain rfl := Except.ok.inj read
      rw [(text_eq_ok.mp found).2]

theorem insertBank_ok {id name baseUrl : String} {db : Database} {effect : Reply (Option BankRow)}
    (ran : insertBank id name baseUrl db = .ok effect) :
    effect.writes = [] ∨ (¬ db.hasBank id ∧ effect.writes = [.bank ⟨id, name, baseUrl⟩]) := by
  simp only [insertBank, bind_eq_ok, text_eq_ok, require_eq_ok] at ran
  obtain ⟨_, ⟨-, rfl⟩, _, ⟨-, rfl⟩, _, ⟨-, rfl⟩, _, -, ran⟩ := ran
  split at ran <;> obtain rfl := Except.ok.inj ran
  · exact .inl rfl
  · exact .inr ⟨‹_›, rfl⟩

theorem selectBank_ok {id : Option String} {db : Database} {effect : Reply (Option BankRow)}
    (ran : selectBank id db = .ok effect) :
    effect.writes = [] ∧ ∀ row, effect.answer = some row → ∃ text, id = some text ∧
      db.hasBank text := by
  cases id with
  | none =>
    obtain rfl := Except.ok.inj ran
    exact ⟨rfl, by simp⟩
  | some id =>
    simp only [selectBank, bind_eq_ok, text_eq_ok] at ran
    obtain ⟨_, ⟨-, rfl⟩, same⟩ := ran
    obtain rfl := Except.ok.inj same
    refine ⟨rfl, ?_⟩
    intro row found
    have same := List.find?_some found
    simp only [decide_eq_true_eq] at same
    exact ⟨id, rfl, List.mem_map.mpr ⟨row, List.mem_of_find?_eq_some found, same⟩⟩

structure NewSettlement.Denotes (new : NewSettlement) (row : SettlementRow) : Prop where
  id : ∃ text, new.id = some text ∧ Uuid.parse text = some row.id
  payer : new.payerBankId = some row.payerBankId
  payee : new.payeeBankId = some row.payeeBankId
  ref : new.payeeAccountRef = some row.payeeAccountRef
  amount : bigint new.amountCents = .ok row.amount
  status : row.status = new.status

theorem NewSettlement.row_ok {new : NewSettlement} {row : SettlementRow}
    (read : new.row = .ok row) :
    new.Denotes row ∧ row.Checked := by
  simp only [NewSettlement.row, bind_eq_ok, notNull_eq_ok, uuid_eq_ok, text_eq_ok,
    require_eq_ok] at read
  obtain ⟨text, present, id, parsed, _, samePayer, _, ⟨-, rfl⟩, _, samePayee, _, ⟨-, rfl⟩, _,
      sameRef, _,
    ⟨-, rfl⟩, amount, total, _, checked, same⟩ := read
  obtain rfl := Except.ok.inj same
  exact ⟨⟨⟨text, present, parsed⟩, samePayer, samePayee, sameRef, total, rfl⟩, checked⟩

theorem insertSettlement_ok {new : NewSettlement} {db : Database}
    {effect : Reply (Option SettlementRow)} (ran : insertSettlement new db = .ok effect) :
    (effect.answer = none ∧ effect.writes = []) ∨
    (∃ row, effect.answer = some row ∧ new.Denotes row ∧ row.Checked ∧ db.settlement row.id = none ∧
      db.hasBank row.payerBankId ∧ effect.writes = [.settlement row] ∧
      effect.locks = row.locks) := by
  simp only [insertSettlement, bind_eq_ok] at ran
  obtain ⟨row, read, ran⟩ := ran
  obtain ⟨denotes, checked⟩ := NewSettlement.row_ok read
  split at ran
  · obtain rfl := Except.ok.inj ran
    exact .inl ⟨rfl, rfl⟩
  · rename_i new_
    simp only [bind_eq_ok, require_eq_ok] at ran
    obtain ⟨_, payer, same⟩ := ran
    obtain rfl := Except.ok.inj same
    exact .inr ⟨row, rfl, denotes, checked, by simpa using new_, payer, rfl, rfl⟩

theorem selectSettlement_ok {id : Option String} {db : Database}
    {effect : Reply (Option SettlementRow)} (ran : selectSettlement id db = .ok effect) :
    effect.writes = [] ∧ ∀ row, effect.answer = some row → ∃ text, id = some text ∧
      Uuid.parse text = some row.id ∧ db.settlement row.id = some row := by
  cases id with
  | none =>
    obtain rfl := Except.ok.inj ran
    exact ⟨rfl, by simp⟩
  | some text =>
    simp only [selectSettlement, bind_eq_ok, uuid_eq_ok] at ran
    obtain ⟨id, parsed, same⟩ := ran
    obtain rfl := Except.ok.inj same
    refine ⟨rfl, ?_⟩
    intro row found
    have same := id_of_settlement found
    rw [same]
    exact ⟨text, rfl, parsed, found⟩

theorem any_pending {db : Database} (nodup : (db.settlements.map SettlementRow.id).Nodup)
    (id : Uuid) :
    (db.settlements.any fun row => row.id = id && row.status = .pending) = true ↔
      (db.settlement id).map SettlementRow.status = some .pending := by
  constructor
  · intro found
    obtain ⟨row, member, both⟩ := List.any_eq_true.mp found
    simp only [Bool.and_eq_true, decide_eq_true_eq] at both
    cases first : db.settlement id with
    | none =>
      rw [← both.1] at first
      exact absurd (List.mem_map_of_mem member) (not_mem_of_settlement first)
    | some other =>
      have same := id_of_settlement first
      obtain rfl := List.inj_on_of_nodup_map nodup (mem_of_settlement first) member (same.trans
        both.1.symm)
      simp [both.2]
  · intro pending
    obtain ⟨row, found, status⟩ := Option.map_eq_some_iff.mp pending
    exact List.any_eq_true.mpr
      ⟨row, mem_of_settlement found, by simp [id_of_settlement found, status]⟩

theorem updateStatus_ok {id : String} {status : SettlementStatus} {rejectReason : Option String}
    {db : Database} {effect : Reply Unit} (nodup : (db.settlements.map SettlementRow.id).Nodup)
    (ran : updateStatus id status rejectReason db = .ok effect) :
    ∃ target, Uuid.parse id = some target ∧
      (((db.settlement target).map SettlementRow.status = some .pending ∧
          effect.writes = [.status target status rejectReason] ∧
          effect.locks = [exclusive (.settlement target)]) ∨
        ((db.settlement target).map SettlementRow.status ≠ some .pending ∧ effect.writes = [] ∧
          effect.locks = [])) := by
  simp only [updateStatus, bind_eq_ok, uuid_eq_ok] at ran
  obtain ⟨target, parsed, stored, read, ran⟩ := ran
  obtain rfl := optionalText_ok read
  refine ⟨target, parsed, ?_⟩
  split at ran <;> rename_i found
  · simp only [bind_eq_ok, require_eq_ok] at ran
    obtain ⟨_, -, same⟩ := ran
    obtain rfl := Except.ok.inj same
    exact .inl ⟨(any_pending nodup target).mp found, rfl, rfl⟩
  · obtain rfl := Except.ok.inj ran
    exact .inr ⟨fun pending => found ((any_pending nodup target).mpr pending), rfl, rfl⟩

theorem sumEntries_ok {bankId : String} {db : Database} {effect : Reply Int}
    (ran : sumEntries bankId db = .ok effect) :
    effect.writes = [] ∧ effect.locks = [] ∧ effect.answer = db.reserveBalanceOf bankId := by
  simp only [sumEntries, bind_eq_ok, text_eq_ok] at ran
  obtain ⟨_, ⟨-, rfl⟩, same⟩ := ran
  obtain rfl := Except.ok.inj same
  exact ⟨rfl, rfl, rfl⟩

structure ReserveEntry.Denotes (entry : ReserveEntry) (row : LedgerEntryRow) : Prop where
  settlementId : ∃ text, entry.settlementId = some text ∧ Uuid.parse text = some row.settlementId
  bankId : entry.bankId = some row.bankId
  amount : row.amount = entry.amount.cents

theorem ReserveEntry.Denotes.unique {entry : ReserveEntry} {row other : LedgerEntryRow}
    (left : entry.Denotes row) (right : entry.Denotes other) : row = other := by
  obtain ⟨text, present, parsed⟩ := left.settlementId
  obtain ⟨again, present', parsed'⟩ := right.settlementId
  obtain rfl := Option.some.inj (present.symm.trans present')
  have settlementId := Option.some.inj (parsed.symm.trans parsed')
  have bankId := Option.some.inj (left.bankId.symm.trans right.bankId)
  have amount := left.amount.trans right.amount.symm
  cases row
  cases other
  simp_all

theorem insertEntry_ok {entry : ReserveEntry} {db : Database} {effect : Reply Unit}
    (ran : insertEntry entry db = .ok effect) :
    ∃ row, entry.Denotes row ∧ db.hasBank row.bankId ∧ effect.writes = [.ledgerEntry row] := by
  simp only [insertEntry, ReserveEntry.row, bind_eq_ok, notNull_eq_ok, uuid_eq_ok, text_eq_ok,
    require_eq_ok] at ran
  obtain ⟨row, ⟨text, present, id, parsed, _, sameBank, _, ⟨-, rfl⟩, _, -, shape⟩, _, known,
      same⟩ := ran
  obtain rfl := Except.ok.inj shape
  obtain rfl := Except.ok.inj same
  exact ⟨_, ⟨⟨text, present, parsed⟩, sameBank, rfl⟩, known, rfl⟩

theorem insertEvent_ok {id : Nat} {aggregateId : Option String} {eventType routingKey : String}
    {payload : Json.Object} {db : Database} {effect : Reply Unit}
    (ran : insertEvent id aggregateId eventType routingKey payload db = .ok effect) :
    ∃ text aggregate, aggregateId = some text ∧ Uuid.parse text = some aggregate ∧
      id ∉ db.outboxEvents.map Outbox.Row.id ∧
      effect.writes = [.outboxEvent
        { id, aggregateId := aggregate, eventType, routingKey, payload }] ∧
      effect.locks = [exclusive (.outboxEvent id)] := by
  simp only [insertEvent, bind_eq_ok, notNull_eq_ok] at ran
  obtain ⟨text, present, row, added, same⟩ := ran
  obtain ⟨aggregate, parsed, new, rfl⟩ := Outbox.newRow_ok added
  obtain rfl := Except.ok.inj same
  exact ⟨text, aggregate, present, parsed, new, rfl, rfl⟩

theorem markPublished_ok {id : Nat} {db : Database} {effect : Reply Unit}
    (ran : markPublished id db = .ok effect) : effect.writes = [] ∨
    effect.writes = [.published id] := by
  obtain rfl := Except.ok.inj ran
  exact Outbox.markPublished_writes _

end Hub
