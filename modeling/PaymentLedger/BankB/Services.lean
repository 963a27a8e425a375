import PaymentLedger.BankB.Database
import PaymentLedger.Shared.System

set_option autoImplicit false

-- One operation stands for each `await` on the database or the broker. `pool.acquire()` and
-- the BEGIN that follows it are one operation, `begin`.

namespace BankB

open Transactional

abbrev Program (α : Type) := Prog engine α

def sql (executor : Executor) (statement : Sql) : Program statement.Answer :=
  Prog.query (E := engine) executor statement

def fromDomain {α : Type} (result : Except DomainError α) : Program α :=
  Prog.ofExcept (E := engine) (result.mapError Failure.domain)

def perform (operation : Op engine) : Program operation.Reply := Prog.perform operation

def fail {α : Type} (failure : Failure) : Program α := throw (m := Prog engine) failure

/-- `async with pool.acquire() as connection, connection.transaction()`: the exit commits,
or rolls back and raises again. -/
def withTransaction {α : Type} (body : Program α) : Program α := do
  perform .begin
  let value ← MonadExcept.tryCatch body fun error => do
    perform .rollback
    fail error
  perform .commit
  return value

structure IncomingTransferRecord where
  transferId : String
  payeeAccountId : String
  amountCents : Int
  status : TransferStatus
  rejectReason : Option String
deriving DecidableEq

def toRecord (row : IncomingTransferRow) : IncomingTransferRecord where
  transferId := row.transferId.text
  payeeAccountId := row.payeeAccountId
  amountCents := row.amount
  status := row.status
  rejectReason := row.rejectReason

namespace AccountRepository

def create (id : Uuid) (ownerName : String) : Program AccountRow :=
  sql .pool (.insertAccount id ownerName)

def findById (accountId : Value) : Program (Option AccountRow) :=
  sql .pool (.selectAccount accountId)

end AccountRepository

namespace IncomingTransferRepository

def findById (transferId : Value) : Program (Option IncomingTransferRecord) := do
  let row ← sql .pool (.selectTransfer transferId)
  return row.map toRecord

/-- `none` when the transfer id already exists. -/
def tryInsert (new : NewTransfer) : Program (Option IncomingTransferRecord) := do
  let row ← sql .client (.insertTransfer new)
  return row.map toRecord

end IncomingTransferRepository

namespace LedgerRepository

def append (entries : List LedgerEntry) : Program Unit :=
  Prog.forEach entries fun entry => sql .client (.insertEntry entry)

end LedgerRepository

namespace InboundTransfersService

def ACCOUNT_NOT_FOUND : String := "ACCOUNT_NOT_FOUND"

structure TransferInitiatedEvent where
  transferId : Value
  payeeAccountId : Value
  amountCents : Value
deriving DecidableEq

def replyFor (record : IncomingTransferRecord) : ReplyEvent :=
  if record.status = .credited then
    { eventType := "transfer.accepted", transferId := record.transferId, reason := none }
  else { eventType := "transfer.rejected", transferId := record.transferId,
         reason := record.rejectReason }

-- Only a text has the methods that `uuid.UUID` calls.
def isValidUuid : Value → Except Failure Bool
  | .str value => .ok (isUuidText value)
  | .none | .bool _ | .int _ | .float _ | .other => .error .typeError

def entries (event : TransferInitiatedEvent) (amount : Money) : List LedgerEntry :=
  [⟨event.transferId, .str SUSPENSE_ACCOUNT_ID, amount.negated⟩,
    ⟨event.transferId, event.payeeAccountId, amount⟩]

def findAccount (event : TransferInitiatedEvent) : Program (Option AccountRow) := do
  let valid ← Prog.ofExcept (E := engine) (isValidUuid event.payeeAccountId)
  if valid then AccountRepository.findById event.payeeAccountId else return none

/-- The body of the transaction. -/
def settle (event : TransferInitiatedEvent) : Program (Option IncomingTransferRecord) := do
  -- The lookup takes a connection of its own from the pool.
  let account ← findAccount event
  match account with
  | none =>
    IncomingTransferRepository.tryInsert
      { transferId := event.transferId, payeeAccountId := event.payeeAccountId,
        amountCents := event.amountCents,
        status := .rejected, rejectReason := some ACCOUNT_NOT_FOUND }
  | some _ =>
    let record ← IncomingTransferRepository.tryInsert
      { transferId := event.transferId, payeeAccountId := event.payeeAccountId,
        amountCents := event.amountCents,
        status := .credited, rejectReason := none }
    if record.isSome then
      let amount ← fromDomain (Money.fromCents event.amountCents)
      LedgerRepository.append (entries event amount)
    return record

def handle (event : TransferInitiatedEvent) : Program ReplyEvent := do
  let existing ← IncomingTransferRepository.findById event.transferId
  match existing with
  | some existing => return replyFor existing
  | none =>
    let record ← withTransaction (settle event)
    match record with
    | some record => return replyFor record
    | none =>
      let winner ← IncomingTransferRepository.findById event.transferId
      match winner with
      | none => fail (.vanished event.transferId)
      | some winner => return replyFor winner

end InboundTransfersService

namespace Consumer

open InboundTransfersService

abbrev Payload := List (String × Value)

def get (payload : Payload) (field : String) : Program Value :=
  match payload.find? fun entry => entry.1 = field with
  | some (_, value) => return value
  | none => fail (.keyError field)

def toEvent (payload : Payload) : Program TransferInitiatedEvent := do
  let transferId ← get payload "transferId"
  let payeeAccountId ← get payload "payeeAccountId"
  let amountCents ← get payload "amountCents"
  return { transferId, payeeAccountId, amountCents }

/-- `async with message.process(requeue=False)`: the exit acks the message, or rejects it
and raises again. -/
def process (body : Program Unit) : Program Unit := do
  MonadExcept.tryCatch body fun error => do
    perform (.emit (.rejected error))
    fail error
  perform (.emit .acked)

/-- `none` is a body that `json.loads` refuses, or no object. What is raised is logged. -/
def onMessage (body : Option Payload) : Program Unit :=
  process do
    match body with
    | none => fail .typeError
    | some payload =>
      let event ← toEvent payload
      let reply ← handle event
      perform (.emit (.reply reply))

end Consumer

namespace AccountsRouter

def createAccount (id : Uuid) (ownerName : String) : Program AccountRow :=
  if 1 ≤ ownerName.length ∧ ownerName.length ≤ 120 then AccountRepository.create id ownerName else fail .badRequest

end AccountsRouter

inductive Call where
  | createAccount (id : Uuid) (ownerName : String)
  | deliver (body : Option Consumer.Payload)
deriving DecidableEq

inductive Response where
  | account (account : AccountRow)
  | processed
deriving DecidableEq

def program : Call → Program Response
  | .createAccount id ownerName => return .account (← AccountsRouter.createAccount id ownerName)
  | .deliver body => do
    Consumer.onMessage body
    return .processed

def service : Service where
  toEngine := engine
  Call := Call
  Response := Response
  program := program

end BankB
