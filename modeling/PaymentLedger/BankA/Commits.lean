import PaymentLedger.BankA.Services

set_option autoImplicit false

-- The committed database changes in seven ways. `WellFormed` is what they all keep; every
-- account but the two that the bank itself owns is a customer account.

namespace BankA

open Transactional

def TransferRow.entries (row : TransferRow) : List LedgerEntryRow :=
  [⟨row.id, row.payerAccountId, -row.amount⟩, ⟨row.id, row.payeeAccountId, row.amount⟩]

def TransferRow.movement (row : TransferRow) : DoubleEntry.Movement Uuid :=
  ⟨row.payerAccountId, row.payeeAccountId, row.amount⟩

def Customer (accountId : Uuid) : Prop :=
  accountId ≠ SUSPENSE_ACCOUNT_ID ∧ accountId ≠ DEV_TREASURY_ACCOUNT_ID

namespace Database

variable (db : Database)

def book (row : TransferRow) : Database :=
  { db with transfers := db.transfers ++ [row], ledgerEntries := db.ledgerEntries ++ row.entries }

def status (transferId : Uuid) : Option InterbankTransferStatus :=
  (db.interbankTransfers.find? fun row => row.transferId = transferId).map
    InterbankTransferRow.status

def settle (transferId : Uuid) (status : InterbankTransferStatus) (now : Int) : Database :=
  if db.status transferId = some .debited then
    { db with interbankTransfers := setStatus db.interbankTransfers transferId status now }
  else db

/-- `INSERT ... ON CONFLICT DO NOTHING` of a reversal, and its entries if it went in. -/
def refund (reversal : TransferRow) : Database :=
  if db.hasKey reversal.idempotencyKey then db else db.book reversal

def compensate (reversal : TransferRow) (transferId : Uuid) (now : Int) : Database :=
  (db.refund reversal).settle transferId .compensated now

end Database

structure WellFormed (db : Database) : Prop where
  accounts : (db.accounts.map AccountRow.id).Nodup
  suspense : db.hasAccount SUSPENSE_ACCOUNT_ID
  treasury : db.hasAccount DEV_TREASURY_ACCOUNT_ID
  ids : (db.transfers.map TransferRow.id).Nodup
  keys : (db.transfers.map TransferRow.idempotencyKey).Nodup
  checked : ∀ row ∈ db.transfers, row.Checked
  safe : ∀ row ∈ db.transfers, row.amount.natAbs ≤ Double.maxSafeInteger
  parties : ∀ row ∈ db.transfers, db.hasAccount row.payerAccountId ∧
    db.hasAccount row.payeeAccountId
  ledger : db.ledgerEntries = db.transfers.flatMap TransferRow.entries
  interbankIds : (db.interbankTransfers.map InterbankTransferRow.transferId).Nodup
  interbank : ∀ row ∈ db.interbankTransfers, ∃ transfer ∈ db.transfers,
    transfer.id = row.transferId ∧
    Customer transfer.payerAccountId ∧ transfer.payeeAccountId = SUSPENSE_ACCOUNT_ID
  events : (db.outboxEvents.map Outbox.Row.id).Nodup
  solvent : ∀ accountId, Customer accountId → 0 ≤ db.balanceOf accountId

/-- What the constraints and locks of an `INSERT INTO transfers` guarantee. -/
structure TransferRow.Bookable (row : TransferRow) (locks : List (Lock Resource)) (db : Database) :
    Prop where
  checked : row.Checked
  safe : row.amount.natAbs ≤ Double.maxSafeInteger
  newId : ¬ db.hasTransfer row.id
  newKey : ¬ db.hasKey row.idempotencyKey
  parties : db.hasAccount row.payerAccountId ∧ db.hasAccount row.payeeAccountId
  keyLock : exclusive (.idempotencyKey row.idempotencyKey) ∈ locks
  idLock : exclusive (.transfer row.id) ∈ locks

/-- A customer pays: the payer's row is locked and the money is there. -/
structure TransferRow.Affordable (row : TransferRow) (locks : List (Lock Resource))
    (db : Database) :
    Prop where
  payer : Customer row.payerAccountId
  funds : row.amount ≤ db.balanceOf row.payerAccountId
  payerLock : exclusive (.account row.payerAccountId) ∈ locks

/-- The call of `InterbankReplyService.handle` that a call makes. -/
structure Handling where
  reversalId : Uuid
  now : Int
  event : InterbankReplyService.SettlementOutcomeEvent

/-- The event that `reconcileOne` makes of an answer of the Hub about a settlement. -/
def ReconciliationService.settledEvent (transferId : String) (hubView : Json.Object) :
    InterbankReplyService.SettlementOutcomeEvent where
  settlementId := some transferId
  outcome := Json.get hubView "status"
  reason := Json.orUndefined (Json.get hubView "rejectReason")

def ReconciliationService.unknownEvent (transferId : String) :
    InterbankReplyService.SettlementOutcomeEvent where
  settlementId := some transferId
  outcome := some (.str "REJECTED")
  reason := some (.str "RECONCILIATION_NO_RECORD_AT_HUB")

/-- The event that `reconcileOne` passes on; `none` when it leaves the transfer alone. -/
def ReconciliationService.eventOf (transferId : String) (response : Option HubResponse) :
    Option InterbankReplyService.SettlementOutcomeEvent :=
  match response with
  | none => none
  | some response =>
    if response.status = 404 then some (unknownEvent transferId)
    else if ok response then
      response.body.bind fun hubView =>
        if Json.get hubView "status" = some (.str "PENDING") then none
        else if Json.allPrintable [Json.get hubView "status"] then some (settledEvent transferId hubView)
        else none
    else none

def Call.handling : Call → Option Handling
  | .outcome reversalId now event => some ⟨reversalId, now, event⟩
  | .reconcile reversalId now transferId response =>
    (ReconciliationService.eventOf transferId response).map fun event => ⟨reversalId, now, event⟩
  | _ => none

def Handling.Targets (handling : Handling) (settlementId : String) (transferId : Uuid) : Prop :=
  handling.event.settlementId = some settlementId ∧ Uuid.parse settlementId = some transferId

def Handling.confirms (handling : Handling) : Prop :=
  handling.event.outcome = some (.str "CONFIRMED")

/-- The log line of a refusal can be written. -/
def InterbankReplyService.SettlementOutcomeEvent.Printable
    (event : SettlementOutcomeEvent) : Prop :=
  Json.allPrintable [event.outcome, event.reason] = true

instance (event : InterbankReplyService.SettlementOutcomeEvent) : Decidable event.Printable := by
  unfold InterbankReplyService.SettlementOutcomeEvent.Printable
  infer_instance

def reversalOf (reversalId : Uuid) (settlementId : String) (original : TransferRow) :
    TransferRow where
  id := reversalId
  idempotencyKey := InterbankReplyService.compensationKey settlementId
  payerAccountId := SUSPENSE_ACCOUNT_ID
  payeeAccountId := original.payerAccountId
  amount := original.amount

def interbankRow (draws : InterbankTransfersService.Draws) (body : CreateInterbankTransferDto) :
    InterbankTransferRow where
  transferId := draws.id
  payeeBankId := body.payeeBankId
  payeeAccountRef := body.payeeAccountRef
  status := .debited
  updatedAt := draws.now

def requestedRow (bankId : String) (draws : InterbankTransfersService.Draws)
    (body : CreateInterbankTransferDto) (amount : Int) : Outbox.Row where
  id := draws.eventId
  aggregateId := draws.id
  eventType := "settlement.requested"
  routingKey := InterbankTransfersService.SETTLEMENT_REQUESTED_ROUTING_KEY
  payload :=
    [("settlementId", .str draws.id.text), ("payerBankId", .str bankId),
     ("payeeBankId", .str body.payeeBankId), ("payeeAccountRef", .str body.payeeAccountRef),
     ("amountCents", .num amount)]

def Database.debit (db : Database) (row : TransferRow) (interbank : InterbankTransferRow)
    (event : Outbox.Row) : Database :=
  { db.book row with
    interbankTransfers := db.interbankTransfers ++ [interbank]
    outboxEvents := db.outboxEvents ++ [event] }

structure TransferRow.Requested (row : TransferRow) (id : Uuid) (idempotencyKey : Option String)
    (payerAccountId : String) (amountCents : Double) : Prop where
  id : row.id = id
  key : idempotencyKey = some row.idempotencyKey
  payer : isUUID payerAccountId = true ∧ Uuid.parse payerAccountId = some row.payerAccountId
  amount : amountCents = .finite row.amount

inductive Commit (bankId : String) : Call → List (Lock Resource) → Database → Database → Prop where
  | opened {locks db} (id : Uuid) (ownerName : String) (new : ¬ db.hasAccount id) :
      Commit bankId (.createAccount id ownerName) locks db
        { db with accounts := db.accounts ++ [⟨id, ownerName⟩] }
  | seeded {locks db} (row : TransferRow) (account : String) (amountCents : Double)
      (bookable : row.Bookable locks db) (payer : row.payerAccountId = DEV_TREASURY_ACCOUNT_ID)
      (key : row.idempotencyKey = AccountsService.seedKey row.id.text)
      (payee : Uuid.parse account = some row.payeeAccountId)
      (amount : amountCents = .finite row.amount) :
      Commit bankId (.devSeed row.id account amountCents) locks db (db.book row)
  | transferred {locks db} (row : TransferRow) (id : Uuid) (idempotencyKey : Option String)
      (body : CreateTransferDto) (bookable : row.Bookable locks db)
      (affordable : row.Affordable locks db)
      (requested : row.Requested id idempotencyKey body.payerAccountId body.amountCents)
      (payee : isUUID body.payeeAccountId = true ∧
        Uuid.parse body.payeeAccountId = some row.payeeAccountId) :
      Commit bankId (.transfer id idempotencyKey body) locks db (db.book row)
  | debited {locks db} (row : TransferRow) (draws : InterbankTransfersService.Draws)
      (idempotencyKey : Option String) (body : CreateInterbankTransferDto)
      (bookable : row.Bookable locks db) (affordable : row.Affordable locks db)
      (requested : row.Requested draws.id idempotencyKey body.payerAccountId body.amountCents)
      (payee : row.payeeAccountId = SUSPENSE_ACCOUNT_ID)
      (newEvent : draws.eventId ∉ db.outboxEvents.map Outbox.Row.id)
      (interbankLock : exclusive (.interbankTransfer draws.id) ∈ locks)
      (eventLock : exclusive (.outboxEvent draws.eventId) ∈ locks) :
      Commit bankId (.interbankTransfer draws idempotencyKey body) locks db
        (db.debit row (interbankRow draws body) (requestedRow bankId draws body row.amount))
  | confirmed {locks db} (call : Call) (handling : Handling) (settlementId : String)
      (transferId : Uuid)
      (handles : call.handling = some handling) (targets : handling.Targets settlementId transferId)
      (confirms : handling.confirms)
      (statusLock : db.status transferId = some .debited →
        exclusive (.interbankTransfer transferId) ∈ locks) :
      Commit bankId call locks db (db.settle transferId .confirmed handling.now)
  | compensated {locks db} (call : Call) (handling : Handling) (settlementId : String)
      (transferId : Uuid) (original : TransferRow) (handles : call.handling = some handling)
      (targets : handling.Targets settlementId transferId) (refuses : ¬ handling.confirms)
      (present : original ∈ db.transfers) (same : original.id = transferId)
      (known : ∃ status, db.status transferId = some status)
      (bookable : ¬ db.hasKey
        (reversalOf handling.reversalId settlementId original).idempotencyKey →
        (reversalOf handling.reversalId settlementId original).Bookable locks db)
      (statusLock : db.status transferId = some .debited →
        exclusive (.interbankTransfer transferId) ∈ locks)
      (printable : handling.event.Printable) :
      Commit bankId call locks db
        (db.compensate (reversalOf handling.reversalId settlementId original) transferId
          handling.now)
  | published {locks db} (rows : List Outbox.Row) (same : Outbox.SameEvents db.outboxEvents rows) :
      Commit bankId .relayTick locks db { db with outboxEvents := rows }

end BankA
