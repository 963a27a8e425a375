import PaymentLedger.Hub.Services

set_option autoImplicit false

namespace Hub

open Transactional SettlementsService

namespace SettlementRow

/-- What never changes about a settlement. -/
def core (row : SettlementRow) : SettlementRow :=
  { row with status := .pending, rejectReason := none }

def entries (row : SettlementRow) : List LedgerEntryRow :=
  [⟨row.id, row.payerBankId, -row.amount⟩, ⟨row.id, row.payeeBankId, row.amount⟩]

def reversalEntries (row : SettlementRow) : List LedgerEntryRow :=
  [⟨row.id, row.payerBankId, row.amount⟩, ⟨row.id, row.payeeBankId, -row.amount⟩]

@[simp] theorem core_id (row : SettlementRow) : row.core.id = row.id := rfl

@[simp] theorem core_entries (row : SettlementRow) : row.core.entries = row.entries := rfl

@[simp] theorem core_reversalEntries (row : SettlementRow) :
    row.core.reversalEntries = row.reversalEntries := rfl

@[simp] theorem core_core (row : SettlementRow) : row.core.core = row.core := rfl

end SettlementRow

def rejectedRow (eventId : Nat) (row : SettlementRow) : Outbox.Row where
  id := eventId
  aggregateId := row.id
  eventType := "settlement.outcome"
  routingKey := settlementOutcomeRoutingKey (some row.payerBankId)
  payload := rejectedPayload row.id.text

def notifyRow (eventId : Nat) (settlementId : String) (row : SettlementRow) : Outbox.Row where
  id := eventId
  aggregateId := row.id
  eventType := "settlement.notify"
  routingKey := settlementNotifyRoutingKey (some row.payeeBankId)
  payload :=
    [("settlementId", .str settlementId), ("payerBankId", .str row.payerBankId),
     ("payeeAccountRef", .str row.payeeAccountRef), ("amountCents", .num row.amount)]

def outcomeRow (eventId : Nat) (event : SettlementReplyEvent)
    (row : SettlementRow) : Outbox.Row where
  id := eventId
  aggregateId := row.id
  eventType := "settlement.outcome"
  routingKey := settlementOutcomeRoutingKey (some row.payerBankId)
  payload := outcomePayload row.id.text event

def SettlementsService.SettlementReplyEvent.confirms (event : SettlementReplyEvent) : Prop :=
  event.outcome = some (.str "CONFIRMED")

/-- The guard of the UPDATEs: only a PENDING settlement moves. -/
def SettlementStatus.settle (status next : SettlementStatus) : SettlementStatus :=
  if status = .pending then next else status

namespace Database

variable (db : Database)

def settle (id : Uuid) (status : SettlementStatus) (rejectReason : Option String) : Database :=
  if (db.settlement id).map SettlementRow.status = some .pending then
    { db with settlements := setStatus db.settlements id status rejectReason }
  else db

def append (entries : List LedgerEntryRow) : Database :=
  { db with ledgerEntries := db.ledgerEntries ++ entries }

def announce (event : Outbox.Row) : Database :=
  { db with outboxEvents := db.outboxEvents ++ [event] }

def enter (row : SettlementRow) : Database := { db with settlements := db.settlements ++ [row] }

/-- The settlement that a handler has read is there, whatever became of its status. -/
def Known (row : SettlementRow) : Prop :=
  ∃ later, db.settlement row.id = some later ∧ later.core = row.core ∧
    (row.status ≠ .pending → later = row) ∧ (row.status = .pending → later.status ≠ .rejected)

end Database

structure SettlementRow.Requested (row : SettlementRow) (event : SettlementRequestedEvent) :
    Prop where
  payer : event.payerBankId = some row.payerBankId
  payee : event.payeeBankId = some row.payeeBankId
  ref : event.payeeAccountRef = some row.payeeAccountRef
  amount : ∀ value, event.amountCents = some (.num value) → row.amount = value

structure SettlementRow.Enters (row : SettlementRow) (event : SettlementRequestedEvent)
    (locks : List (Lock Resource)) (db : Database) : Prop where
  checked : row.Checked
  new : db.settlement row.id = none
  payer : db.hasBank row.payerBankId
  lock : exclusive (.settlement row.id) ∈ locks
  target : ∃ settlementId, event.settlementId = some settlementId ∧
    Uuid.parse settlementId = some row.id
  requested : row.Requested event

def Targets (settlementId : Option String) (id : Uuid) : Prop :=
  ∃ text, settlementId = some text ∧ Uuid.parse text = some id

def SettlementsService.SettlementReplyEvent.Printable (event : SettlementReplyEvent) : Prop :=
  Json.allPrintable [event.reason] = true

instance (event : SettlementReplyEvent) : Decidable event.Printable := by
  unfold SettlementReplyEvent.Printable
  infer_instance

inductive Commit : Call → List (Lock Resource) → Database → Database → Prop where
  | registered {locks db} (row : BankRow) (new : ¬ db.hasBank row.id) :
      Commit (.registerBank row.id row.name row.baseUrl) locks db
      { db with banks := db.banks ++ [row] }
  | rejected {locks db} (row : SettlementRow) (eventId : Nat) (event : SettlementRequestedEvent)
      (enters : row.Enters event locks db) (status : row.status = .rejected)
      (newEvent : eventId ∉ db.outboxEvents.map Outbox.Row.id)
      (eventLock : exclusive (.outboxEvent eventId) ∈ locks) :
      Commit (.requested eventId event) locks db ((db.enter row).announce (rejectedRow eventId row))
  | opened {locks db} (row : SettlementRow) (eventId : Nat) (event : SettlementRequestedEvent)
      (settlementId : String) (enters : row.Enters event locks db) (status : row.status = .pending)
      (payee : db.hasBank row.payeeBankId) (spelled : event.settlementId = some settlementId)
      (newEvent : eventId ∉ db.outboxEvents.map Outbox.Row.id)
      (eventLock : exclusive (.outboxEvent eventId) ∈ locks) :
      Commit (.requested eventId event) locks db
        (((db.enter row).append row.entries).announce (notifyRow eventId settlementId row))
  | confirmed {locks db} (row : SettlementRow) (eventId : Nat) (event : SettlementReplyEvent)
      (targets : Targets event.settlementId row.id) (confirms : event.confirms)
      (pending : row.status = .pending) (known : db.Known row)
      (statusLock : (db.settlement row.id).map SettlementRow.status = some .pending →
        exclusive (.settlement row.id) ∈ locks)
      (newEvent : eventId ∉ db.outboxEvents.map Outbox.Row.id)
      (eventLock : exclusive (.outboxEvent eventId) ∈ locks) :
      Commit (.reply eventId event) locks db
        ((db.settle row.id .confirmed none).announce (outcomeRow eventId event row))
  | reversed {locks db} (row : SettlementRow) (eventId : Nat) (event : SettlementReplyEvent)
      (targets : Targets event.settlementId row.id) (refuses : ¬ event.confirms)
      (pending : row.status = .pending) (known : db.Known row)
      (statusLock : (db.settlement row.id).map SettlementRow.status = some .pending →
        exclusive (.settlement row.id) ∈ locks)
      (newEvent : eventId ∉ db.outboxEvents.map Outbox.Row.id)
      (eventLock : exclusive (.outboxEvent eventId) ∈ locks) (printable : event.Printable) :
      Commit (.reply eventId event) locks db
        (((db.append row.reversalEntries).settle row.id .reversed
          (some (reasonText event))).announce
          (outcomeRow eventId event row))
  | published {locks db} (rows : List Outbox.Row) (same : Outbox.SameEvents db.outboxEvents rows) :
      Commit .relayTick locks db { db with outboxEvents := rows }

end Hub
