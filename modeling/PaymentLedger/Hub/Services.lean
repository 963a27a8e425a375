import PaymentLedger.Hub.Database
import PaymentLedger.Shared.System

set_option autoImplicit false

-- Every function is written as the source has it, one operation for each `await` on the
-- database. The identity of a new outbox row is a parameter.

namespace Hub

open Transactional

abbrev Program (α : Type) := Prog engine α

def sql (executor : Executor) (statement : Sql) : Program statement.Answer :=
  Prog.query (E := engine) executor statement

def fromDomain {α : Type} (result : Except DomainError α) : Program α :=
  Prog.ofExcept (E := engine) (result.mapError Failure.domain)

def perform (operation : Op engine) : Program operation.Reply := Prog.perform operation

def fail {α : Type} (failure : Failure) : Program α := throw (m := Prog engine) failure

/-- `this.logger.warn` of a template literal with these values. -/
def warn (values : List (Option Json)) : Program Unit :=
  if Json.allPrintable values then return () else fail .typeError

/-- `catch (error) { await client.query('ROLLBACK'); throw error; }` -/
def rollbackOnError {α : Type} (body : Program α) : Program α :=
  MonadExcept.tryCatch body fun error => do
    perform .rollback
    fail error

structure SettlementRecord where
  id : String
  payerBankId : String
  payeeBankId : String
  payeeAccountRef : String
  amountCents : Double
  status : SettlementStatus
  rejectReason : Option String
deriving DecidableEq

def SettlementRow.toRecord (row : SettlementRow) : SettlementRecord where
  id := row.id.text
  payerBankId := row.payerBankId
  payeeBankId := row.payeeBankId
  payeeAccountRef := row.payeeAccountRef
  amountCents := .ofInt row.amount
  status := row.status
  rejectReason := row.rejectReason

namespace BankRepository

def create (id name baseUrl : String) : Program (Option BankRow) :=
  sql .pool (.insertBank id name baseUrl)

def findById (id : Option String) : Program (Option BankRow) := sql .pool (.selectBank id)

end BankRepository

namespace SettlementRepository

def insert (new : NewSettlement) : Program (Option SettlementRecord) := do
  let row ← sql .client (.insertSettlement new)
  return row.map SettlementRow.toRecord

def findById (id : Option String) : Program (Option SettlementRecord) := do
  let row ← sql .pool (.selectSettlement id)
  return row.map SettlementRow.toRecord

def markConfirmed (id : String) (executor : Executor) : Program Unit :=
  sql executor (.updateStatus id .confirmed none)

def markReversed (id rejectReason : String) (executor : Executor) : Program Unit :=
  sql executor (.updateStatus id .reversed (some rejectReason))

end SettlementRepository

namespace LedgerRepository

def reserveBalanceOf (bankId : String) (executor : Executor) : Program Money := do
  let balance ← sql executor (.sumEntries bankId)
  fromDomain (Money.fromCents (some (.ofInt balance)))

def append (entries : List ReserveEntry) : Program Unit :=
  Prog.forEach entries fun entry => sql .client (.insertEntry entry)

end LedgerRepository

/-- A template literal prints a missing value as `undefined`. -/
def interpolate (value : Option String) : String := value.getD "undefined"

def settlementNotifyRoutingKey (bankId : Option String) : String :=
  "settlement.notify." ++ interpolate bankId

def settlementOutcomeRoutingKey (bankId : Option String) : String :=
  "settlement.outcome." ++ interpolate bankId

namespace SettlementsService

structure SettlementRequestedEvent where
  settlementId : Option String
  payerBankId : Option String
  payeeBankId : Option String
  payeeAccountRef : Option String
  amountCents : Option Json

structure SettlementReplyEvent where
  settlementId : Option String
  outcome : Option Json
  reason : Option Json

def UNKNOWN_PAYEE_BANK : String := "UNKNOWN_PAYEE_BANK"

def getSettlement (id : String) : Program SettlementRecord := do
  let settlement ← SettlementRepository.findById (some id)
  match settlement with
  | none => fail (.domain (.settlementNotFound id))
  | some settlement => return settlement

-- `JSON.stringify` leaves out a field that is `undefined`.
def field (name : String) (value : Option Json) : Json.Object :=
  match value with
  | some value => [(name, value)]
  | none => []

def fieldText (name : String) (value : Option String) : Json.Object :=
  field name (value.map Json.str)

def rejectedPayload (settlementId : String) : Json.Object :=
  [("settlementId", .str settlementId), ("outcome", .str "REJECTED"),
    ("reason", .str UNKNOWN_PAYEE_BANK)]

def notifyPayload (settlement : Settlement) : Json.Object :=
  fieldText "settlementId" settlement.id ++ fieldText "payerBankId" settlement.payerBankId ++
    fieldText "payeeAccountRef" settlement.payeeAccountRef ++
    [("amountCents", .num settlement.amount.cents)]

def outcomePayload (settlementId : String) (event : SettlementReplyEvent) : Json.Object :=
  [("settlementId", .str settlementId)] ++ field "outcome" event.outcome ++
    field "reason" event.reason

def amountOf (amountCents : Option Json) : Option Double := (Json.number amountCents).map .finite

def handleRequested (eventId : Nat) (event : SettlementRequestedEvent) : Program Unit := do
  let payeeBank ← BankRepository.findById event.payeeBankId
  rollbackOnError do
    perform .begin
    match payeeBank with
    | none =>
      let record ← SettlementRepository.insert
        { id := event.settlementId, payerBankId := event.payerBankId,
          payeeBankId := event.payeeBankId,
          payeeAccountRef := event.payeeAccountRef, amountCents := event.amountCents,
          status := .rejected,
          rejectReason := some UNKNOWN_PAYEE_BANK }
      match record with
      | some record =>
        sql .client (.insertEvent eventId (some record.id) "settlement.outcome"
          (settlementOutcomeRoutingKey event.payerBankId) (rejectedPayload record.id))
      | none => pure ()
      perform .commit
    | some _ =>
      let amount ← fromDomain (Money.fromCents (amountOf event.amountCents))
      let settlement ← fromDomain (Settlement.create event.settlementId event.payerBankId event.payeeBankId
        event.payeeAccountRef amount)
      let record ← SettlementRepository.insert
        { id := settlement.id, payerBankId := settlement.payerBankId,
          payeeBankId := settlement.payeeBankId,
          payeeAccountRef := settlement.payeeAccountRef,
          amountCents := some (.num settlement.amount.cents),
          status := .pending, rejectReason := none }
      match record with
      | some _ =>
        LedgerRepository.append settlement.entries
        sql .client (.insertEvent eventId settlement.id "settlement.notify"
          (settlementNotifyRoutingKey settlement.payeeBankId) (notifyPayload settlement))
      | none => pure ()
      perform .commit

/-- `event.reason ?? 'REJECTED_BY_PAYEE_BANK'`, as the driver sends it. -/
def reasonText (event : SettlementReplyEvent) : String :=
  (Json.param event.reason).getD "REJECTED_BY_PAYEE_BANK"

def handleReply (eventId : Nat) (event : SettlementReplyEvent) : Program Unit := do
  let settlement ← SettlementRepository.findById event.settlementId
  match settlement with
  | none => fail (.noSettlement event.settlementId)
  | some settlement =>
    if settlement.status ≠ .pending then return ()
    else
      rollbackOnError do
        perform .begin
        if event.outcome = some (.str "CONFIRMED") then
          SettlementRepository.markConfirmed settlement.id .client
        else
          warn [event.reason]
          let amount ← fromDomain (Money.fromCents (some settlement.amountCents))
          let domain ← fromDomain (Settlement.create (some settlement.id) (some settlement.payerBankId)
            (some settlement.payeeBankId) (some settlement.payeeAccountRef) amount)
          LedgerRepository.append domain.reversalEntries
          SettlementRepository.markReversed settlement.id (reasonText event) .client
        sql .client (.insertEvent eventId (some settlement.id) "settlement.outcome"
          (settlementOutcomeRoutingKey (some settlement.payerBankId))
          (outcomePayload settlement.id event))
        perform .commit

end SettlementsService

namespace BanksService

def registerBank (id name baseUrl : String) : Program BankRow := do
  let bank ← BankRepository.create id name baseUrl
  match bank with
  | none => fail (.domain (.duplicateBank id))
  | some bank => return bank

end BanksService

namespace OutboxRelayService

def publish (message : Outbox.Message) : Program Unit :=
  Outbox.publish (E := engine) message .unroutable message

def tick : Program Nat :=
  Outbox.tick (E := engine) (fun limit => sql .client (.claimUnpublished limit)) publish
    fun id => sql .client (.markPublished id)

end OutboxRelayService

namespace BanksController

/-- `baseUrl` is checked to be a URL before; the constraint of the table bounds its length. -/
def create (id name baseUrl : String) : Program BankRow :=
  if Validator.isLength id 1 64 && Validator.isLength name 1 120 then
    BanksService.registerBank id name baseUrl
  else fail .badRequest

end BanksController

inductive Call where
  | registerBank (id name baseUrl : String)
  | requested (eventId : Nat) (event : SettlementsService.SettlementRequestedEvent)
  | reply (eventId : Nat) (event : SettlementsService.SettlementReplyEvent)
  | getSettlement (id : String)
  | relayTick

inductive Response where
  | bank (bank : BankRow)
  | handled
  | settlement (record : SettlementRecord)
  | relayed (published : Nat)
deriving DecidableEq

def program : Call → Program Response
  | .registerBank id name baseUrl => return .bank (← BanksController.create id name baseUrl)
  | .requested eventId event => do
    SettlementsService.handleRequested eventId event
    return .handled
  | .reply eventId event => do
    SettlementsService.handleReply eventId event
    return .handled
  | .getSettlement id => return .settlement (← SettlementsService.getSettlement id)
  | .relayTick => return .relayed (← OutboxRelayService.tick)

def service : Service where
  toEngine := engine
  Call := Call
  Response := Response
  program := program

end Hub
