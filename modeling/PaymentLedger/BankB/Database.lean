import PaymentLedger.BankB.Domain
import PaymentLedger.Shared.DoubleEntry
import PaymentLedger.Shared.Program

set_option autoImplicit false

namespace BankB

open Transactional Postgres

structure AccountRow where
  id : Uuid
  ownerName : String
deriving DecidableEq

inductive TransferStatus where
  | credited
  | rejected
deriving DecidableEq

structure IncomingTransferRow where
  transferId : Uuid
  payeeAccountId : String
  amount : Int
  status : TransferStatus
  rejectReason : Option String
deriving DecidableEq

structure LedgerEntryRow where
  transferId : Uuid
  accountId : Uuid
  amount : Int
deriving DecidableEq

structure Database where
  accounts : List AccountRow
  incomingTransfers : List IncomingTransferRow := []
  ledgerEntries : List LedgerEntryRow := []
deriving DecidableEq

/-- The tables as the migrations leave them. -/
def migrated : Database where
  accounts := [⟨suspense, "suspense (interbank transfers in transit)"⟩]

inductive Write where
  | account (row : AccountRow)
  | incomingTransfer (row : IncomingTransferRow)
  | ledgerEntry (row : LedgerEntryRow)

def Database.apply (db : Database) : Write → Database
  | .account row => { db with accounts := db.accounts ++ [row] }
  | .incomingTransfer row => { db with incomingTransfers := db.incomingTransfers ++ [row] }
  | .ledgerEntry row => { db with ledgerEntries := db.ledgerEntries ++ [row] }

inductive Resource where
  | account (id : Uuid)
  | incomingTransfer (transferId : Uuid)
deriving DecidableEq

abbrev exclusive (resource : Resource) : Lock Resource := ⟨resource, .exclusive⟩

abbrev keyShare (accountId : Uuid) : Lock Resource := ⟨.account accountId, .shared⟩

namespace Database

variable (db : Database)

def account (id : Uuid) : Option AccountRow := db.accounts.find? fun row => row.id = id

def incomingTransfer (transferId : Uuid) : Option IncomingTransferRow :=
  db.incomingTransfers.find? fun row => row.transferId = transferId

def entriesOf (transferId : Uuid) : List LedgerEntryRow :=
  db.ledgerEntries.filter fun entry => entry.transferId = transferId

def postings : List (DoubleEntry.Posting Uuid) :=
  db.ledgerEntries.map fun entry => ⟨entry.accountId, entry.amount⟩

def balanceOf (accountId : Uuid) : Int := DoubleEntry.balance db.postings accountId

end Database

def IncomingTransferRow.Checked (row : IncomingTransferRow) : Prop :=
  0 < row.amount ∧ (row.status = .rejected ↔ row.rejectReason.isSome)

instance (row : IncomingTransferRow) : Decidable row.Checked := by
  unfold IncomingTransferRow.Checked
  infer_instance

abbrev Reply (Answer : Type) := Effect Write Resource Answer

def notNull {α : Type} (value : Option α) : Except PgError α :=
  match value with
  | some value => .ok value
  | none => .error .notNullViolation

/-- A parameter for a UUID column, as the driver encodes it; `none` is NULL. -/
def uuidParam : Value → Except PgError (Option Uuid)
  | .none => .ok none
  | .str value =>
    match encodeUuid value with
    | some id => .ok (some id)
    | none => .error .invalidText
  | .bool _ | .int _ | .float _ | .other => .error .invalidText

def textParam : Value → Except PgError (Option String)
  | .none => .ok none
  | .str (.plain value) => (text value).map some
  | .str (.stray _) | .bool _ | .int _ | .float _ | .other => .error .invalidText

def int8 (value : Int) : Except PgError Int :=
  if -2 ^ 63 ≤ value ∧ value < 2 ^ 63 then .ok value else .error .outOfRange

/-- A parameter for a BIGINT column: the driver calls `int()` on what is not an integer. -/
def bigintParam : Value → Except PgError (Option Int)
  | .none => .ok none
  | .bool value => .ok (some value.toNat)
  | .int value | .float (some value) => (int8 value).map some
  | .float none => .error .outOfRange
  | .str _ | .other => .error .invalidText

/-- `RETURNING id, owner_name` -/
def insertAccount (id : Uuid) (ownerName : String)
    (db : Database) : Except PgError (Reply AccountRow) := do
  let ownerName ← text ownerName
  require (1 ≤ ownerName.length ∧ ownerName.length ≤ 120) .checkViolation
  require (db.account id = none) .uniqueViolation
  return { answer := ⟨id, ownerName⟩, writes := [.account ⟨id, ownerName⟩],
           locks := [exclusive (.account id)] }

def selectAccount (id : Value) (db : Database) : Except PgError (Reply (Option AccountRow)) := do
  let id ← uuidParam id
  return { answer := id.bind db.account }

def selectTransfer (transferId : Value) (db : Database) :
    Except PgError (Reply (Option IncomingTransferRow)) := do
  let transferId ← uuidParam transferId
  return { answer := transferId.bind db.incomingTransfer }

structure NewTransfer where
  transferId : Value
  payeeAccountId : Value
  amountCents : Value
  status : TransferStatus
  rejectReason : Option String

def NewTransfer.row (new : NewTransfer) : Except PgError IncomingTransferRow := do
  let transferId ← uuidParam new.transferId
  let payeeAccountId ← textParam new.payeeAccountId
  let amount ← bigintParam new.amountCents
  let transferId ← notNull transferId
  let payeeAccountId ← notNull payeeAccountId
  let amount ← notNull amount
  let row : IncomingTransferRow :=
    { transferId, payeeAccountId, amount, status := new.status, rejectReason := new.rejectReason }
  require row.Checked .checkViolation
  return row

/-- `ON CONFLICT (transfer_id) DO NOTHING` -/
def insertTransfer (new : NewTransfer) (db : Database) :
    Except PgError (Reply (Option IncomingTransferRow)) := do
  let row ← new.row
  if (db.incomingTransfer row.transferId).isSome then return { answer := none }
  else return { answer := some row, writes := [.incomingTransfer row],
                locks := [exclusive (.incomingTransfer row.transferId)] }

structure LedgerEntry where
  transferId : Value
  accountId : Value
  amount : Money

def LedgerEntry.row (entry : LedgerEntry) : Except PgError LedgerEntryRow := do
  let transferId ← uuidParam entry.transferId
  let accountId ← uuidParam entry.accountId
  let amount ← int8 entry.amount.cents
  let transferId ← notNull transferId
  let accountId ← notNull accountId
  require (amount ≠ 0) .checkViolation
  return { transferId, accountId, amount }

def insertEntry (entry : LedgerEntry) (db : Database) : Except PgError (Reply Unit) := do
  let row ← entry.row
  require ((db.account row.accountId).isSome) .foreignKeyViolation
  return { answer := (), writes := [.ledgerEntry row], locks := [keyShare row.accountId] }

inductive Sql where
  | insertAccount (id : Uuid) (ownerName : String)
  | selectAccount (id : Value)
  | selectTransfer (transferId : Value)
  | insertTransfer (new : NewTransfer)
  | insertEntry (entry : LedgerEntry)

@[reducible] def Sql.Answer : Sql → Type
  | .insertAccount _ _ => AccountRow
  | .selectAccount _ => Option AccountRow
  | .selectTransfer _ | .insertTransfer _ => Option IncomingTransferRow
  | .insertEntry _ => Unit

def execute (sql : Sql) (db : Database) : Except PgError (Reply sql.Answer) :=
  match sql with
  | .insertAccount id ownerName => insertAccount id ownerName db
  | .selectAccount id => selectAccount id db
  | .selectTransfer transferId => selectTransfer transferId db
  | .insertTransfer new => insertTransfer new db
  | .insertEntry entry => insertEntry entry db

inductive Failure where
  | domain (error : DomainError)
  | badRequest
  | keyError (field : String)
  | typeError
  | vanished (transferId : Value)
  | database (error : PgError)
deriving DecidableEq

structure ReplyEvent where
  eventType : String
  transferId : String
  reason : Option String
deriving DecidableEq

/-- What Bank B tells the broker: a reply, or what has become of a delivery. -/
inductive Event where
  | reply (reply : ReplyEvent)
  | acked
  | rejected (error : Failure)
deriving DecidableEq

def engine : Engine where
  Database := Database
  Write := Write
  Resource := Resource
  Sql := Sql
  Answer := Sql.Answer
  Error := Failure
  Event := Event
  apply := Database.apply
  exec sql db _ := (execute sql db).mapError Failure.database
  disconnected := .database .disconnected
  aborted := .database .aborted
  crashed := .database .crashed

end BankB
