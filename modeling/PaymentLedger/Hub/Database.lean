import PaymentLedger.Hub.Domain
import PaymentLedger.Shared.Outbox

set_option autoImplicit false

namespace Hub

open Transactional Postgres

structure BankRow where
  id : String
  name : String
  baseUrl : String
deriving DecidableEq

inductive SettlementStatus where
  | pending
  | confirmed
  | reversed
  | rejected
deriving DecidableEq

structure SettlementRow where
  id : Uuid
  payerBankId : String
  payeeBankId : String
  payeeAccountRef : String
  amount : Int
  status : SettlementStatus
  rejectReason : Option String
deriving DecidableEq

structure LedgerEntryRow where
  settlementId : Uuid
  bankId : String
  amount : Int
deriving DecidableEq

structure Database where
  banks : List BankRow := []
  settlements : List SettlementRow := []
  ledgerEntries : List LedgerEntryRow := []
  outboxEvents : List Outbox.Row := []
deriving DecidableEq

/-- The tables as the migrations leave them. -/
def migrated : Database := {}

inductive Write where
  | bank (row : BankRow)
  | settlement (row : SettlementRow)
  | status (id : Uuid) (status : SettlementStatus) (rejectReason : Option String)
  | ledgerEntry (row : LedgerEntryRow)
  | outboxEvent (row : Outbox.Row)
  | published (id : Nat)

/-- A `none` reason is an UPDATE that does not set the column. -/
def SettlementRow.turn (row : SettlementRow) (status : SettlementStatus)
    (rejectReason : Option String) :
    SettlementRow :=
  { row with status, rejectReason := rejectReason.or row.rejectReason }

def setStatus (rows : List SettlementRow) (id : Uuid) (status : SettlementStatus)
    (rejectReason : Option String) : List SettlementRow :=
  rows.map fun row => if row.id = id then row.turn status rejectReason else row

def Database.apply (db : Database) : Write → Database
  | .bank row => { db with banks := db.banks ++ [row] }
  | .settlement row => { db with settlements := db.settlements ++ [row] }
  | .status id status rejectReason =>
    { db with settlements := setStatus db.settlements id status rejectReason }
  | .ledgerEntry row => { db with ledgerEntries := db.ledgerEntries ++ [row] }
  | .outboxEvent row => { db with outboxEvents := db.outboxEvents ++ [row] }
  | .published id => { db with outboxEvents := Outbox.mark db.outboxEvents id }

inductive Resource where
  | bank (id : String)
  | settlement (id : Uuid)
  | outboxEvent (id : Nat)
deriving DecidableEq

abbrev exclusive (resource : Resource) : Lock Resource := ⟨resource, .exclusive⟩

abbrev keyShare (bankId : String) : Lock Resource := ⟨.bank bankId, .shared⟩

namespace Database

variable (db : Database)

def hasBank (bankId : String) : Prop := bankId ∈ db.banks.map BankRow.id

def settlement (id : Uuid) : Option SettlementRow := db.settlements.find? fun row => row.id = id

def postings : List (DoubleEntry.Posting String) :=
  db.ledgerEntries.map fun entry => ⟨entry.bankId, entry.amount⟩

def reserveBalanceOf (bankId : String) : Int := DoubleEntry.balance db.postings bankId

instance (bankId : String) : Decidable (db.hasBank bankId) := by
  unfold hasBank
  infer_instance

end Database

/-- `CHECK ((status IN ('REJECTED', 'REVERSED')) = (reject_reason IS NOT NULL))` -/
def StatusReason (status : SettlementStatus) (rejectReason : Option String) : Prop :=
  (status = .rejected ∨ status = .reversed) ↔ rejectReason.isSome

instance (status : SettlementStatus) (rejectReason : Option String) :
    Decidable (StatusReason status rejectReason) := by
  unfold StatusReason
  infer_instance

def SettlementRow.Checked (row : SettlementRow) : Prop :=
  (1 ≤ row.payeeBankId.length ∧ row.payeeBankId.length ≤ 64) ∧
    (1 ≤ row.payeeAccountRef.length ∧ row.payeeAccountRef.length ≤ 255) ∧ 0 < row.amount ∧
    row.payerBankId ≠ row.payeeBankId ∧
    StatusReason row.status row.rejectReason

instance (row : SettlementRow) : Decidable row.Checked := by
  unfold SettlementRow.Checked
  infer_instance

abbrev Reply (Answer : Type) := Effect Write Resource Answer

def notNull {α : Type} (value : Option α) : Except PgError α :=
  match value with
  | some value => .ok value
  | none => .error .notNullViolation

def optionalText : Option String → Except PgError (Option String)
  | none => .ok none
  | some value => (text value).map some

/-- `ON CONFLICT (id) DO NOTHING`; `none` when the id is taken. -/
def insertBank (id name baseUrl : String) (db : Database) :
    Except PgError (Reply (Option BankRow)) := do
  let id ← text id
  let name ← text name
  let baseUrl ← text baseUrl
  require ((1 ≤ id.length ∧ id.length ≤ 64) ∧ (1 ≤ name.length ∧ name.length ≤ 120) ∧
    1 ≤ baseUrl.length ∧ baseUrl.length ≤ 255) .checkViolation
  if db.hasBank id then return { answer := none }
  else return { answer := some ⟨id, name, baseUrl⟩, writes := [.bank ⟨id, name, baseUrl⟩],
                locks := [exclusive (.bank id)] }

/-- The parameter may be NULL, which equals no id. -/
def selectBank (id : Option String) (db : Database) : Except PgError (Reply (Option BankRow)) := do
  match id with
  | none => return { answer := none }
  | some id =>
    let id ← text id
    return { answer := db.banks.find? fun row => row.id = id }

structure NewSettlement where
  id : Option String
  payerBankId : Option String
  payeeBankId : Option String
  payeeAccountRef : Option String
  amountCents : Option Json
  status : SettlementStatus
  rejectReason : Option String

/-- A parameter for a BIGINT column; numbers arrive as JavaScript prints them. -/
def bigint : Option Json → Except PgError Int
  | none | some .null => .error .notNullViolation
  | some (.num value) =>
    if -2 ^ 63 ≤ value ∧ value < 2 ^ 63 then .ok value
    else if value.natAbs < 10 ^ 21 then .error .outOfRange
    else .error .invalidText
  | some (.str value) => parseBigint value.utf8
  | some (.bool _) | some (.fraction _) | some (.array _) | some (.object _) => .error .invalidText

def NewSettlement.row (new : NewSettlement) : Except PgError SettlementRow := do
  let id ← uuid (← notNull new.id)
  let payerBankId ← text (← notNull new.payerBankId)
  let payeeBankId ← text (← notNull new.payeeBankId)
  let payeeAccountRef ← text (← notNull new.payeeAccountRef)
  let amount ← bigint new.amountCents
  let row : SettlementRow :=
    { id, payerBankId, payeeBankId, payeeAccountRef, amount, status := new.status,
      rejectReason := new.rejectReason }
  require row.Checked .checkViolation
  return row

def SettlementRow.locks (row : SettlementRow) : List (Lock Resource) :=
  [exclusive (.settlement row.id), keyShare row.payerBankId]

/-- `ON CONFLICT (id) DO NOTHING`; only the payer bank is a foreign key. -/
def insertSettlement (new : NewSettlement) (db : Database) :
    Except PgError (Reply (Option SettlementRow)) := do
  let row ← new.row
  if (db.settlement row.id).isSome then return { answer := none }
  else
    require (db.hasBank row.payerBankId) .foreignKeyViolation
    return { answer := some row, writes := [.settlement row], locks := row.locks }

def selectSettlement (id : Option String) (db : Database) :
    Except PgError (Reply (Option SettlementRow)) := do
  match id with
  | none => return { answer := none }
  | some id =>
    let id ← uuid id
    return { answer := db.settlement id }

/-- `WHERE id = $1 AND status = 'PENDING'` -/
def updateStatus (id : String) (status : SettlementStatus) (rejectReason : Option String)
    (db : Database) : Except PgError (Reply Unit) := do
  let id ← uuid id
  let rejectReason ← optionalText rejectReason
  if db.settlements.any fun row => row.id = id && row.status = .pending then
    require (∀ row ∈ db.settlements, row.id = id → row.status = .pending →
      StatusReason status (rejectReason.or row.rejectReason)) .checkViolation
    return { answer := (), writes := [.status id status rejectReason],
             locks := [exclusive (.settlement id)] }
  else return { answer := () }

/-- The total of the entries; the driver hands it over as decimal text. -/
def sumEntries (bankId : String) (db : Database) : Except PgError (Reply Int) := do
  let bankId ← text bankId
  return { answer := db.reserveBalanceOf bankId }

def ReserveEntry.row (entry : ReserveEntry) : Except PgError LedgerEntryRow := do
  let settlementId ← uuid (← notNull entry.settlementId)
  let bankId ← text (← notNull entry.bankId)
  require (entry.amount.cents ≠ 0) .checkViolation
  return { settlementId, bankId, amount := entry.amount.cents }

def insertEntry (entry : ReserveEntry) (db : Database) : Except PgError (Reply Unit) := do
  let row ← entry.row
  require (db.hasBank row.bankId) .foreignKeyViolation
  return { answer := (), writes := [.ledgerEntry row], locks := [keyShare row.bankId] }

def insertEvent (id : Nat) (aggregateId : Option String) (eventType routingKey : String)
    (payload : Json.Object) (db : Database) : Except PgError (Reply Unit) := do
  let aggregateId ← notNull aggregateId
  let row ← Outbox.newRow id aggregateId eventType routingKey payload db.outboxEvents
  return { answer := (), writes := [.outboxEvent row], locks := [exclusive (.outboxEvent id)] }

def Resource.event : Resource → Option Nat
  | .outboxEvent id => some id
  | _ => none

def lockedEvents (busy : List (Lock Resource)) : List Nat :=
  busy.filterMap fun lock => lock.resource.event

def claimUnpublished (limit : Nat) (busy : List (Lock Resource)) (db : Database) :
    Except PgError (Reply (List Outbox.Row)) :=
  return Outbox.claimUnpublished (fun id => exclusive (.outboxEvent id)) limit (lockedEvents busy)
    db.outboxEvents

def markPublished (id : Nat) (db : Database) : Except PgError (Reply Unit) :=
  return Outbox.markPublished (fun id => exclusive (.outboxEvent id)) .published id db.outboxEvents

inductive Sql where
  | insertBank (id name baseUrl : String)
  | selectBank (id : Option String)
  | insertSettlement (new : NewSettlement)
  | selectSettlement (id : Option String)
  | updateStatus (id : String) (status : SettlementStatus) (rejectReason : Option String)
  | sumEntries (bankId : String)
  | insertEntry (entry : ReserveEntry)
  | insertEvent (id : Nat) (aggregateId : Option String) (eventType routingKey : String)
      (payload : Json.Object)
  | claimUnpublished (limit : Nat)
  | markPublished (id : Nat)

@[reducible] def Sql.Answer : Sql → Type
  | .insertBank _ _ _ | .selectBank _ => Option BankRow
  | .insertSettlement _ | .selectSettlement _ => Option SettlementRow
  | .sumEntries _ => Int
  | .claimUnpublished _ => List Outbox.Row
  | .updateStatus _ _ _ | .insertEntry _ | .insertEvent _ _ _ _ _ | .markPublished _ => Unit

def execute (sql : Sql) (db : Database) (busy : List (Lock Resource)) :
    Except PgError (Reply sql.Answer) :=
  match sql with
  | .insertBank id name baseUrl => insertBank id name baseUrl db
  | .selectBank id => selectBank id db
  | .insertSettlement new => insertSettlement new db
  | .selectSettlement id => selectSettlement id db
  | .updateStatus id status rejectReason => updateStatus id status rejectReason db
  | .sumEntries bankId => sumEntries bankId db
  | .insertEntry entry => insertEntry entry db
  | .insertEvent id aggregateId eventType routingKey payload =>
    insertEvent id aggregateId eventType routingKey payload db
  | .claimUnpublished limit => claimUnpublished limit busy db
  | .markPublished id => markPublished id db

inductive Failure where
  | domain (error : DomainError)
  | badRequest
  | noSettlement (settlementId : Option String)
  | unroutable
  | typeError
  | database (error : PgError)
deriving DecidableEq

def engine : Engine where
  Database := Database
  Write := Write
  Resource := Resource
  Sql := Sql
  Answer := Sql.Answer
  Error := Failure
  Event := Outbox.Message
  apply := Database.apply
  exec sql db busy := (execute sql db busy).mapError Failure.database
  disconnected := .database .disconnected
  aborted := .database .aborted
  crashed := .database .crashed

end Hub
