import PaymentLedger.BankA.Domain
import PaymentLedger.Shared.Outbox

set_option autoImplicit false

-- Ids and timestamps that the source draws (`randomUUID`, `gen_random_uuid`, identity
-- columns, `now()`) are parameters of the statements.

namespace BankA

open Transactional Postgres

structure AccountRow where
  id : Uuid
  ownerName : String
deriving DecidableEq

structure TransferRow where
  id : Uuid
  idempotencyKey : String
  payerAccountId : Uuid
  payeeAccountId : Uuid
  amount : Int
deriving DecidableEq

structure LedgerEntryRow where
  transferId : Uuid
  accountId : Uuid
  amount : Int
deriving DecidableEq

inductive InterbankTransferStatus where
  | debited
  | confirmed
  | compensated
deriving DecidableEq

structure InterbankTransferRow where
  transferId : Uuid
  payeeBankId : String
  payeeAccountRef : String
  status : InterbankTransferStatus
  updatedAt : Int
deriving DecidableEq

structure Database where
  accounts : List AccountRow
  transfers : List TransferRow := []
  ledgerEntries : List LedgerEntryRow := []
  interbankTransfers : List InterbankTransferRow := []
  outboxEvents : List Outbox.Row := []
deriving DecidableEq

/-- The tables as the migrations leave them. -/
def migrated : Database where
  accounts :=
    [⟨SUSPENSE_ACCOUNT_ID, "suspense (interbank transfers in transit)"⟩,
     ⟨DEV_TREASURY_ACCOUNT_ID, "dev treasury (demo seeding only, not part of the public API)"⟩]

inductive Write where
  | account (row : AccountRow)
  | transfer (row : TransferRow)
  | ledgerEntry (row : LedgerEntryRow)
  | interbankTransfer (row : InterbankTransferRow)
  | status (transferId : Uuid) (status : InterbankTransferStatus) (updatedAt : Int)
  | outboxEvent (row : Outbox.Row)
  | published (id : Nat)

def setStatus (rows : List InterbankTransferRow) (transferId : Uuid)
    (status : InterbankTransferStatus) (updatedAt : Int) : List InterbankTransferRow :=
  rows.map fun row => if row.transferId = transferId then { row with status, updatedAt } else row

def Database.apply (db : Database) : Write → Database
  | .account row => { db with accounts := db.accounts ++ [row] }
  | .transfer row => { db with transfers := db.transfers ++ [row] }
  | .ledgerEntry row => { db with ledgerEntries := db.ledgerEntries ++ [row] }
  | .interbankTransfer row => { db with interbankTransfers := db.interbankTransfers ++ [row] }
  | .status transferId status updatedAt =>
    { db with interbankTransfers := setStatus db.interbankTransfers transferId status updatedAt }
  | .outboxEvent row => { db with outboxEvents := db.outboxEvents ++ [row] }
  | .published id => { db with outboxEvents := Outbox.mark db.outboxEvents id }

inductive Resource where
  | account (id : Uuid)
  | idempotencyKey (key : String)
  | transfer (id : Uuid)
  | interbankTransfer (transferId : Uuid)
  | outboxEvent (id : Nat)
deriving DecidableEq

abbrev exclusive (resource : Resource) : Lock Resource := ⟨resource, .exclusive⟩

-- The FOR KEY SHARE lock that a foreign key takes on the row it references.
abbrev keyShare (accountId : Uuid) : Lock Resource := ⟨.account accountId, .shared⟩

namespace Database

variable (db : Database)

def postings : List (DoubleEntry.Posting Uuid) :=
  db.ledgerEntries.map fun entry => ⟨entry.accountId, entry.amount⟩

def balanceOf (accountId : Uuid) : Int := DoubleEntry.balance db.postings accountId

def hasAccount (accountId : Uuid) : Prop := accountId ∈ db.accounts.map AccountRow.id

def hasTransfer (transferId : Uuid) : Prop := transferId ∈ db.transfers.map TransferRow.id

def hasKey (key : String) : Prop := key ∈ db.transfers.map TransferRow.idempotencyKey

instance (accountId : Uuid) : Decidable (db.hasAccount accountId) := by
  unfold hasAccount
  infer_instance

instance (transferId : Uuid) : Decidable (db.hasTransfer transferId) := by
  unfold hasTransfer
  infer_instance

instance (key : String) : Decidable (db.hasKey key) := by
  unfold hasKey
  infer_instance

end Database

def TransferRow.Checked (row : TransferRow) : Prop :=
  1 ≤ row.idempotencyKey.length ∧ row.idempotencyKey.length ≤ 255 ∧ 0 < row.amount ∧
    row.payerAccountId ≠ row.payeeAccountId

instance (row : TransferRow) : Decidable row.Checked := by
  unfold TransferRow.Checked
  infer_instance

abbrev Reply (Answer : Type) := Effect Write Resource Answer

def insertAccount (id : Uuid) (ownerName : String)
    (db : Database) : Except PgError (Reply AccountRow) := do
  let ownerName ← text ownerName
  require (1 ≤ ownerName.length ∧ ownerName.length ≤ 120) .checkViolation
  require (¬ db.hasAccount id) .uniqueViolation
  return { answer := ⟨id, ownerName⟩, writes := [.account ⟨id, ownerName⟩],
           locks := [exclusive (.account id)] }

def selectAccount (id : String) (db : Database) : Except PgError (Reply (Option AccountRow)) := do
  let id ← uuid id
  return { answer := db.accounts.find? fun row => row.id = id }

def lockAccount (id : String) (db : Database) : Except PgError (Reply Bool) := do
  let id ← uuid id
  if db.hasAccount id then return { answer := true, locks := [exclusive (.account id)] }
  else return { answer := false }

structure NewTransfer where
  id : String
  idempotencyKey : String
  payerAccountId : String
  payeeAccountId : String
  amount : Money

def NewTransfer.row (new : NewTransfer) : Except PgError TransferRow := do
  let id ← uuid new.id
  let idempotencyKey ← text new.idempotencyKey
  let payerAccountId ← uuid new.payerAccountId
  let payeeAccountId ← uuid new.payeeAccountId
  let row : TransferRow :=
    { id, idempotencyKey, payerAccountId, payeeAccountId, amount := new.amount.cents }
  require row.Checked .checkViolation
  return row

def TransferRow.locks (row : TransferRow) : List (Lock Resource) :=
  [exclusive (.idempotencyKey row.idempotencyKey), exclusive (.transfer row.id),
   keyShare row.payerAccountId, keyShare row.payeeAccountId]

/-- `ON CONFLICT (idempotency_key) DO NOTHING`: only this constraint is skipped over. -/
def insertTransfer (new : NewTransfer) (db : Database) :
    Except PgError (Reply (Option TransferRow)) := do
  let row ← new.row
  if db.hasKey row.idempotencyKey then return { answer := none }
  else
    require (¬ db.hasTransfer row.id) .uniqueViolation
    require (db.hasAccount row.payerAccountId ∧ db.hasAccount row.payeeAccountId)
      .foreignKeyViolation
    return { answer := some row, writes := [.transfer row], locks := row.locks }

def insertSeedTransfer (new : NewTransfer) (db : Database) : Except PgError (Reply Unit) := do
  let row ← new.row
  require (¬ db.hasKey row.idempotencyKey ∧ ¬ db.hasTransfer row.id) .uniqueViolation
  require (db.hasAccount row.payerAccountId ∧ db.hasAccount row.payeeAccountId) .foreignKeyViolation
  return { answer := (), writes := [.transfer row], locks := row.locks }

def selectTransferByKey (key : String) (db : Database) :
    Except PgError (Reply (Option TransferRow)) := do
  let key ← text key
  return { answer := db.transfers.find? fun row => row.idempotencyKey = key }

def selectTransferById (id : String) (db : Database) :
    Except PgError (Reply (Option TransferRow)) := do
  let id ← uuid id
  return { answer := db.transfers.find? fun row => row.id = id }

/-- The total of the entries; the driver hands it over as decimal text. -/
def sumEntries (accountId : String) (db : Database) : Except PgError (Reply Int) := do
  let accountId ← uuid accountId
  return { answer := db.balanceOf accountId }

def LedgerEntry.row (entry : LedgerEntry) : Except PgError LedgerEntryRow := do
  let transferId ← uuid entry.transferId
  let accountId ← uuid entry.accountId
  require (entry.amount.cents ≠ 0) .checkViolation
  return { transferId, accountId, amount := entry.amount.cents }

def insertEntry (entry : LedgerEntry) (db : Database) : Except PgError (Reply Unit) := do
  let row ← entry.row
  require (db.hasTransfer row.transferId ∧ db.hasAccount row.accountId) .foreignKeyViolation
  return { answer := (), writes := [.ledgerEntry row], locks := [keyShare row.accountId] }

/-- Both rows of the one `INSERT` that `devSeed` writes. -/
def insertSeedEntries (debit credit : LedgerEntry)
    (db : Database) : Except PgError (Reply Unit) := do
  let debit ← debit.row
  let credit ← credit.row
  require (db.hasTransfer debit.transferId ∧ db.hasAccount debit.accountId ∧
    db.hasTransfer credit.transferId ∧ db.hasAccount credit.accountId) .foreignKeyViolation
  return { answer := (), writes := [.ledgerEntry debit, .ledgerEntry credit],
           locks := [keyShare debit.accountId, keyShare credit.accountId] }

def insertInterbankTransfer (transferId payeeBankId payeeAccountRef : String) (now : Int)
    (db : Database) : Except PgError (Reply InterbankTransferRow) := do
  let transferId ← uuid transferId
  let payeeBankId ← text payeeBankId
  let payeeAccountRef ← text payeeAccountRef
  let row : InterbankTransferRow :=
    { transferId, payeeBankId, payeeAccountRef, status := .debited, updatedAt := now }
  require (1 ≤ payeeAccountRef.length ∧ payeeAccountRef.length ≤ 255) .checkViolation
  require (transferId ∉ db.interbankTransfers.map InterbankTransferRow.transferId) .uniqueViolation
  require (db.hasTransfer transferId) .foreignKeyViolation
  return { answer := row, writes := [.interbankTransfer row],
           locks := [exclusive (.interbankTransfer transferId)] }

/-- The parameter may be NULL, which equals no id. -/
def selectInterbankTransfer (transferId : Option String) (db : Database) :
    Except PgError (Reply (Option InterbankTransferRow)) := do
  match transferId with
  | none => return { answer := none }
  | some transferId =>
    let transferId ← uuid transferId
    return { answer := db.interbankTransfers.find? fun row => row.transferId = transferId }

/-- `WHERE transfer_id = $1 AND status = 'DEBITED'`; locks the row only if it matches. -/
def updateStatus (transferId : String) (status : InterbankTransferStatus) (now : Int)
    (db : Database) : Except PgError (Reply Unit) := do
  let transferId ← uuid transferId
  if db.interbankTransfers.any fun row => row.transferId = transferId && row.status = .debited then
    return { answer := (), writes := [.status transferId status now],
             locks := [exclusive (.interbankTransfer transferId)] }
  else return { answer := () }

def selectStaleDebited (olderThan : Int) (db : Database) :
    Except PgError (Reply (List InterbankTransferRow)) :=
  return { answer := (db.interbankTransfers.filter fun row =>
             row.status = .debited && decide (row.updatedAt < olderThan)).insertionSort
               fun first second => first.updatedAt ≤ second.updatedAt }

def insertEvent (id : Nat) (aggregateId eventType routingKey : String) (payload : Json.Object)
    (db : Database) : Except PgError (Reply Unit) := do
  let row ← Outbox.newRow id aggregateId eventType routingKey payload db.outboxEvents
  return { answer := (), writes := [.outboxEvent row], locks := [exclusive (.outboxEvent id)] }

def Resource.event : Resource → Option Nat
  | .outboxEvent id => some id
  | _ => none

def lockedEvents (busy : List (Lock Resource)) : List Nat :=
  busy.filterMap fun lock => lock.resource.event

def claimUnpublished (limit : Nat) (busy : List (Lock Resource)) (db : Database) :
    Except PgError (Reply (List Outbox.Row)) :=
  return Outbox.claimUnpublished (fun id => exclusive (.outboxEvent id)) limit (lockedEvents busy)
    db.outboxEvents

def markPublished (id : Nat) (db : Database) : Except PgError (Reply Unit) :=
  return Outbox.markPublished (fun id => exclusive (.outboxEvent id)) .published id db.outboxEvents

inductive Sql where
  | insertAccount (id : Uuid) (ownerName : String)
  | selectAccount (id : String)
  | lockAccount (id : String)
  | insertTransfer (new : NewTransfer)
  | insertSeedTransfer (new : NewTransfer)
  | selectTransferByKey (key : String)
  | selectTransferById (id : String)
  | sumEntries (accountId : String)
  | insertEntry (entry : LedgerEntry)
  | insertSeedEntries (debit credit : LedgerEntry)
  | insertInterbankTransfer (transferId payeeBankId payeeAccountRef : String) (now : Int)
  | selectInterbankTransfer (transferId : Option String)
  | updateStatus (transferId : String) (status : InterbankTransferStatus) (now : Int)
  | selectStaleDebited (olderThan : Int)
  | insertEvent (id : Nat) (aggregateId eventType routingKey : String) (payload : Json.Object)
  | claimUnpublished (limit : Nat)
  | markPublished (id : Nat)

@[reducible] def Sql.Answer : Sql → Type
  | .insertAccount _ _ => AccountRow
  | .selectAccount _ => Option AccountRow
  | .lockAccount _ => Bool
  | .insertTransfer _ | .selectTransferByKey _ | .selectTransferById _ => Option TransferRow
  | .sumEntries _ => Int
  | .insertInterbankTransfer _ _ _ _ => InterbankTransferRow
  | .selectInterbankTransfer _ => Option InterbankTransferRow
  | .selectStaleDebited _ => List InterbankTransferRow
  | .claimUnpublished _ => List Outbox.Row
  | .insertSeedTransfer _ | .insertEntry _ | .insertSeedEntries _ _ | .updateStatus _ _ _
  | .insertEvent _ _ _ _ _ | .markPublished _ => Unit

def execute (sql : Sql) (db : Database) (busy : List (Lock Resource)) :
    Except PgError (Reply sql.Answer) :=
  match sql with
  | .insertAccount id ownerName => insertAccount id ownerName db
  | .selectAccount id => selectAccount id db
  | .lockAccount id => lockAccount id db
  | .insertTransfer new => insertTransfer new db
  | .insertSeedTransfer new => insertSeedTransfer new db
  | .selectTransferByKey key => selectTransferByKey key db
  | .selectTransferById id => selectTransferById id db
  | .sumEntries accountId => sumEntries accountId db
  | .insertEntry entry => insertEntry entry db
  | .insertSeedEntries debit credit => insertSeedEntries debit credit db
  | .insertInterbankTransfer transferId payeeBankId payeeAccountRef now =>
    insertInterbankTransfer transferId payeeBankId payeeAccountRef now db
  | .selectInterbankTransfer transferId => selectInterbankTransfer transferId db
  | .updateStatus transferId status now => updateStatus transferId status now db
  | .selectStaleDebited olderThan => selectStaleDebited olderThan db
  | .insertEvent id aggregateId eventType routingKey payload =>
    insertEvent id aggregateId eventType routingKey payload db
  | .claimUnpublished limit => claimUnpublished limit busy db
  | .markPublished id => markPublished id db

inductive Failure where
  | domain (error : DomainError)
  | badRequest
  | vanished (idempotencyKey : String)
  | noInterbankTransfer (settlementId : Option String)
  | noLocalTransfer (originalTransferId : String)
  | unroutable
  | fetchFailed
  | typeError
  | database (error : PgError)
deriving DecidableEq

def engine : Engine where
  Database := Database
  Write := Write
  Resource := Resource
  Sql := Sql
  Answer := Sql.Answer
  Error := Failure
  Event := Outbox.Message
  apply := Database.apply
  exec sql db busy := (execute sql db busy).mapError Failure.database
  disconnected := .database .disconnected
  aborted := .database .aborted
  crashed := .database .crashed

end BankA
