import PaymentLedger.BankA.Database
import PaymentLedger.Shared.System

set_option autoImplicit false

-- Every function is written as the source has it, one operation for each `await` on the
-- database. What the source draws at random is a parameter.

namespace BankA

open Transactional

abbrev Program (α : Type) := Prog engine α

def sql (executor : Executor) (statement : Sql) : Program statement.Answer :=
  Prog.query (E := engine) executor statement

def fromDomain {α : Type} (result : Except DomainError α) : Program α :=
  Prog.ofExcept (E := engine) (result.mapError Failure.domain)

def perform (operation : Op engine) : Program operation.Reply := Prog.perform operation

def fail {α : Type} (failure : Failure) : Program α := throw (m := Prog engine) failure

/-- `this.logger.warn` of a template literal with these values. -/
def warn (values : List (Option Json)) : Program Unit :=
  if Json.allPrintable values then return () else fail .typeError

/-- `catch (error) { await client.query('ROLLBACK'); throw error; }` -/
def rollbackOnError {α : Type} (body : Program α) : Program α :=
  MonadExcept.tryCatch body fun error => do
    perform .rollback
    fail error

structure TransferRecord where
  id : String
  payerAccountId : String
  payeeAccountId : String
  amount : Money
deriving DecidableEq

structure InterbankTransferRecord where
  transferId : String
  payeeBankId : String
  payeeAccountRef : String
  status : InterbankTransferStatus
deriving DecidableEq

def TransferRow.toRecord (row : TransferRow) : Except DomainError TransferRecord := do
  let amount ← Money.fromCents (.ofInt row.amount)
  return { id := row.id.text, payerAccountId := row.payerAccountId.text,
           payeeAccountId := row.payeeAccountId.text, amount }

def InterbankTransferRow.toRecord (row : InterbankTransferRow) : InterbankTransferRecord where
  transferId := row.transferId.text
  payeeBankId := row.payeeBankId
  payeeAccountRef := row.payeeAccountRef
  status := row.status

def optionalRecord (row : Option TransferRow) : Program (Option TransferRecord) :=
  match row with
  | none => return none
  | some row => do
    let record ← fromDomain row.toRecord
    return some record

namespace AccountRepository

def create (id : Uuid) (ownerName : String) : Program AccountRow :=
  sql .pool (.insertAccount id ownerName)

def findById (id : String) : Program (Option AccountRow) := sql .pool (.selectAccount id)

def lockById (id : String) : Program Bool := sql .client (.lockAccount id)

end AccountRepository

namespace LedgerRepository

def balanceOf (accountId : String) (executor : Executor) : Program Money := do
  let balance ← sql executor (.sumEntries accountId)
  fromDomain (Money.fromCents (.ofInt balance))

def append (entries : List LedgerEntry) : Program Unit :=
  Prog.forEach entries fun entry => sql .client (.insertEntry entry)

end LedgerRepository

namespace TransferRepository

def insert (transfer : Transfer) (idempotencyKey : String) : Program (Option TransferRecord) := do
  let row ← sql .client (.insertTransfer
    { id := transfer.id, idempotencyKey, payerAccountId := transfer.payerAccountId,
      payeeAccountId := transfer.payeeAccountId, amount := transfer.amount })
  optionalRecord row

def findByIdempotencyKey (idempotencyKey : String) : Program (Option TransferRecord) := do
  let row ← sql .pool (.selectTransferByKey idempotencyKey)
  optionalRecord row

def findById (id : String) : Program (Option TransferRecord) := do
  let row ← sql .pool (.selectTransferById id)
  optionalRecord row

end TransferRepository

namespace InterbankTransferRepository

def insert (transferId payeeBankId payeeAccountRef : String) (now : Int) :
    Program InterbankTransferRecord := do
  let row ← sql .client (.insertInterbankTransfer transferId payeeBankId payeeAccountRef now)
  return row.toRecord

def findById (transferId : Option String) : Program (Option InterbankTransferRecord) := do
  let row ← sql .pool (.selectInterbankTransfer transferId)
  return row.map InterbankTransferRow.toRecord

def markConfirmed (transferId : String) (now : Int) (executor : Executor) : Program Unit :=
  sql executor (.updateStatus transferId .confirmed now)

def markCompensated (transferId : String) (now : Int) (executor : Executor) : Program Unit :=
  sql executor (.updateStatus transferId .compensated now)

end InterbankTransferRepository

namespace TransfersService

structure TransferParams where
  payerAccountId : String
  payeeAccountId : String
  amount : Money

def matches_ (existing : TransferRecord) (attempted : Transfer) : Bool :=
  decide (existing.payerAccountId = attempted.payerAccountId) &&
    decide (existing.payeeAccountId = attempted.payeeAccountId) &&
    existing.amount.equals attempted.amount

def replay (existing : TransferRecord) (attempted : Transfer) : Program TransferRecord :=
  if matches_ existing attempted then return existing
  else fail (.domain .idempotencyConflict)

def lockAccounts (transfer : Transfer) : Program Unit :=
  let ids :=
    if transfer.payeeAccountId < transfer.payerAccountId then
      [transfer.payeeAccountId, transfer.payerAccountId]
    else [transfer.payerAccountId, transfer.payeeAccountId]
  Prog.forEach ids fun id => do
    let found ← AccountRepository.lockById id
    if found then return () else fail (.domain (.accountNotFound id))

def execute (id : Uuid) (idempotencyKey : String) (params : TransferParams) :
    Program TransferRecord := do
  let transfer ← fromDomain
    (Transfer.create id.text params.payerAccountId params.payeeAccountId params.amount)
  let existing ← TransferRepository.findByIdempotencyKey idempotencyKey
  match existing with
  | some existing => replay existing transfer
  | none =>
    let record ← rollbackOnError do
      perform .begin
      lockAccounts transfer
      let record ← TransferRepository.insert transfer idempotencyKey
      match record with
      | some record =>
        let balance ← LedgerRepository.balanceOf transfer.payerAccountId .client
        fromDomain (transfer.assertPayerCanAfford balance)
        LedgerRepository.append transfer.entries
        perform .commit
        return some record
      | none =>
        perform .rollback
        return none
    match record with
    | some record => return record
    | none =>
      let winner ← TransferRepository.findByIdempotencyKey idempotencyKey
      match winner with
      | none => fail (.vanished idempotencyKey)
      | some winner => replay winner transfer

end TransfersService

namespace InterbankTransfersService

structure InterbankTransferParams where
  payerAccountId : String
  payeeBankId : String
  payeeAccountRef : String
  amount : Money

structure InterbankTransferResult where
  transfer : TransferRecord
  interbank : InterbankTransferRecord
deriving DecidableEq

def replay (existing : TransferRecord) (attempted : Transfer)
    (payeeBankId payeeAccountRef : String) :
    Program InterbankTransferResult :=
  if TransfersService.matches_ existing attempted then do
    let interbank ← InterbankTransferRepository.findById (some existing.id)
    match interbank with
    | none => fail (.domain .idempotencyConflict)
    | some interbank =>
      if interbank.payeeBankId ≠ payeeBankId ∨ interbank.payeeAccountRef ≠ payeeAccountRef then
        fail (.domain .idempotencyConflict)
      else return { transfer := existing, interbank }
  else fail (.domain .idempotencyConflict)

def SETTLEMENT_REQUESTED_ROUTING_KEY : String := "settlement.requested"

/-- What `execute` draws: `randomUUID()`, the identity of the event row, `now()`. -/
structure Draws where
  id : Uuid
  eventId : Nat
  now : Int

def requestedPayload (bankId transferId : String) (params : InterbankTransferParams) :
    Json.Object :=
  [("settlementId", .str transferId), ("payerBankId", .str bankId),
   ("payeeBankId", .str params.payeeBankId), ("payeeAccountRef", .str params.payeeAccountRef),
   ("amountCents", .num params.amount.cents)]

def execute (bankId : String) (draws : Draws) (idempotencyKey : String)
    (params : InterbankTransferParams) : Program InterbankTransferResult := do
  let transfer ← fromDomain
    (Transfer.create draws.id.text params.payerAccountId SUSPENSE_ACCOUNT_ID.text params.amount)
  let existing ← TransferRepository.findByIdempotencyKey idempotencyKey
  match existing with
  | some existing => replay existing transfer params.payeeBankId params.payeeAccountRef
  | none =>
    let result ← rollbackOnError do
      perform .begin
      let found ← AccountRepository.lockById transfer.payerAccountId
      if found then
        let record ← TransferRepository.insert transfer idempotencyKey
        match record with
        | some record =>
          let balance ← LedgerRepository.balanceOf transfer.payerAccountId .client
          fromDomain (transfer.assertPayerCanAfford balance)
          LedgerRepository.append transfer.entries
          let interbank ← InterbankTransferRepository.insert transfer.id params.payeeBankId
            params.payeeAccountRef draws.now
          sql .client (.insertEvent draws.eventId transfer.id "settlement.requested"
            SETTLEMENT_REQUESTED_ROUTING_KEY (requestedPayload bankId transfer.id params))
          perform .commit
          return some { transfer := record, interbank }
        | none =>
          perform .rollback
          return none
      else fail (.domain (.accountNotFound transfer.payerAccountId))
    match result with
    | some result => return result
    | none =>
      let winner ← TransferRepository.findByIdempotencyKey idempotencyKey
      match winner with
      | none => fail (.vanished idempotencyKey)
      | some winner => replay winner transfer params.payeeBankId params.payeeAccountRef

end InterbankTransfersService

namespace InterbankReplyService

structure SettlementOutcomeEvent where
  settlementId : Option String
  outcome : Option Json
  reason : Option Json := none

def compensationKey (originalTransferId : String) : String := "compensation-" ++ originalTransferId

def compensate (reversalId : Uuid) (now : Int) (originalTransferId : String) : Program Unit := do
  let original ← TransferRepository.findById originalTransferId
  match original with
  | none => fail (.noLocalTransfer originalTransferId)
  | some original =>
    let reversal ← fromDomain (Transfer.create reversalId.text SUSPENSE_ACCOUNT_ID.text
      original.payerAccountId original.amount)
    rollbackOnError do
      perform .begin
      let record ← TransferRepository.insert reversal (compensationKey originalTransferId)
      match record with
      | some _ => LedgerRepository.append reversal.entries
      | none => pure ()
      InterbankTransferRepository.markCompensated originalTransferId now .client
      perform .commit

def handle (reversalId : Uuid) (now : Int) (event : SettlementOutcomeEvent) : Program Unit := do
  let interbank ← InterbankTransferRepository.findById event.settlementId
  match interbank, event.settlementId with
  | some interbank, some settlementId =>
    if interbank.status ≠ .debited then return ()
    else if event.outcome = some (.str "CONFIRMED") then
      InterbankTransferRepository.markConfirmed settlementId now .pool
    -- Any other outcome is taken for a refusal.
    else do
      warn [event.outcome, event.reason]
      compensate reversalId now settlementId
  | _, settlementId => fail (.noInterbankTransfer settlementId)

end InterbankReplyService

namespace ReconciliationService

/-- `body` is `none` when it is not JSON. -/
structure HubResponse where
  status : Nat
  body : Option Json.Object

def ok (response : HubResponse) : Bool := decide (200 ≤ response.status ∧ response.status < 300)

/-- `response` is `none` when `fetch` rejects. -/
def reconcileOne (reversalId : Uuid) (now : Int) (transferId : String)
    (response : Option HubResponse) :
    Program Bool :=
  match response with
  | none => fail .fetchFailed
  | some response =>
    if response.status = 404 then do
      InterbankReplyService.handle reversalId now
        { settlementId := some transferId, outcome := some (.str "REJECTED"),
          reason := some (.str "RECONCILIATION_NO_RECORD_AT_HUB") }
      return true
    else if ok response then
      match response.body with
      | none => fail .fetchFailed
      | some hubView =>
        let status := Json.get hubView "status"
        if status = some (.str "PENDING") then return false
        else do
          warn [status]
          InterbankReplyService.handle reversalId now
            { settlementId := some transferId, outcome := status,
              reason := Json.orUndefined (Json.get hubView "rejectReason") }
          return true
    else return false

end ReconciliationService

namespace AccountsService

def getAccount (id : String) : Program AccountRow := do
  let account ← AccountRepository.findById id
  match account with
  | none => fail (.domain (.accountNotFound id))
  | some account => return account

def getBalance (accountId : String) : Program Money := do
  let _ ← getAccount accountId
  LedgerRepository.balanceOf accountId .pool

def seedKey (transferId : String) : String := "dev-seed-" ++ transferId

def devSeed (transferId : Uuid) (accountId : String) (amount : Money) : Program Money := do
  let _ ← getAccount accountId
  rollbackOnError do
    perform .begin
    sql .client (.insertSeedTransfer
      { id := transferId.text, idempotencyKey := seedKey transferId.text,
        payerAccountId := DEV_TREASURY_ACCOUNT_ID.text, payeeAccountId := accountId, amount })
    sql .client (.insertSeedEntries
      ⟨transferId.text, DEV_TREASURY_ACCOUNT_ID.text, amount.negated⟩
      ⟨transferId.text, accountId, amount⟩)
    perform .commit
  getBalance accountId

end AccountsService

namespace OutboxRelayService

def publish (message : Outbox.Message) : Program Unit :=
  Outbox.publish (E := engine) message .unroutable message

def tick : Program Nat :=
  Outbox.tick (E := engine) (fun limit => sql .client (.claimUnpublished limit)) publish
    fun id => sql .client (.markPublished id)

end OutboxRelayService

def utf16Length (value : String) : Nat :=
  (value.toList.map fun c => if c.toNat < 0x10000 then 1 else 2).sum

/-- `@IsUUID()`: the pattern, with a version and a variant, or all zeros or all ones. -/
def isUUID (value : String) : Bool :=
  match Uuid.ofPattern value with
  | none => false
  | some id =>
    let zeros : Quad := ⟨0, 0, 0, 0⟩
    let ones : Quad := ⟨15, 15, 15, 15⟩
    (decide (1 ≤ id.q3.a ∧ id.q3.a ≤ 8 ∧ 8 ≤ id.q4.a ∧ id.q4.a ≤ 11)) ||
      decide (id = ⟨zeros, zeros, zeros, zeros, zeros, zeros, zeros, zeros⟩) ||
      decide (id = ⟨ones, ones, ones, ones, ones, ones, ones, ones⟩)

def isPositiveInt : Double → Bool
  | .finite value => decide (0 < value)
  | .infinite _ => false

def validate (valid : Bool) : Program Unit := if valid then return () else fail .badRequest

def requireKey (idempotencyKey : Option String) : Program String :=
  match idempotencyKey with
  | some key => if key = "" ∨ utf16Length key > 255 then fail .badRequest else return key
  | none => fail .badRequest

structure CreateTransferDto where
  payerAccountId : String
  payeeAccountId : String
  amountCents : Double

structure CreateInterbankTransferDto where
  payerAccountId : String
  payeeBankId : String
  payeeAccountRef : String
  amountCents : Double

-- Bodies with fields of another type are refused by the same validation.
def CreateTransferDto.valid (body : CreateTransferDto) : Bool :=
  isUUID body.payerAccountId && isUUID body.payeeAccountId && isPositiveInt body.amountCents

def CreateInterbankTransferDto.valid (body : CreateInterbankTransferDto) : Bool :=
  isUUID body.payerAccountId &&
    (decide (body.payeeBankId ≠ "") && Validator.isLength body.payeeBankId 0 64) &&
    (decide (body.payeeAccountRef ≠ "") && Validator.isLength body.payeeAccountRef 0 255) &&
    isPositiveInt body.amountCents

namespace TransfersController

def create (id : Uuid) (idempotencyKey : Option String) (body : CreateTransferDto) :
    Program TransferRecord := do
  validate body.valid
  let key ← requireKey idempotencyKey
  let amount ← fromDomain (Money.fromCents body.amountCents)
  TransfersService.execute id key ⟨body.payerAccountId, body.payeeAccountId, amount⟩

end TransfersController

namespace InterbankTransfersController

def create (bankId : String) (draws : InterbankTransfersService.Draws)
    (idempotencyKey : Option String) (body : CreateInterbankTransferDto) :
    Program InterbankTransfersService.InterbankTransferResult := do
  validate body.valid
  let key ← requireKey idempotencyKey
  let amount ← fromDomain (Money.fromCents body.amountCents)
  InterbankTransfersService.execute bankId draws key
    ⟨body.payerAccountId, body.payeeBankId, body.payeeAccountRef, amount⟩

end InterbankTransfersController

namespace AccountsController

def create (id : Uuid) (ownerName : String) : Program AccountRow := do
  validate (Validator.isLength ownerName 1 120)
  AccountRepository.create id ownerName

/-- `ParseUUIDPipe` takes any version, unlike `@IsUUID()`. -/
def devSeed (transferId : Uuid) (id : String) (amountCents : Double) : Program Money := do
  validate ((Uuid.ofPattern id).isSome && isPositiveInt amountCents)
  let amount ← fromDomain (Money.fromCents amountCents)
  AccountsService.devSeed transferId id amount

end AccountsController

inductive Call where
  | createAccount (id : Uuid) (ownerName : String)
  | devSeed (transferId : Uuid) (id : String) (amountCents : Double)
  | transfer (id : Uuid) (idempotencyKey : Option String) (body : CreateTransferDto)
  | interbankTransfer (draws : InterbankTransfersService.Draws) (idempotencyKey : Option String)
      (body : CreateInterbankTransferDto)
  | outcome (reversalId : Uuid) (now : Int) (event : InterbankReplyService.SettlementOutcomeEvent)
  | reconcile (reversalId : Uuid) (now : Int) (transferId : String)
      (response : Option ReconciliationService.HubResponse)
  | relayTick

inductive Response where
  | account (account : AccountRow)
  | balance (balance : Money)
  | transfer (record : TransferRecord)
  | interbankTransfer (result : InterbankTransfersService.InterbankTransferResult)
  | handled
  | reconciled (changed : Bool)
  | relayed (published : Nat)
deriving DecidableEq

def program (bankId : String) : Call → Program Response
  | .createAccount id ownerName => return .account (← AccountsController.create id ownerName)
  | .devSeed transferId id amountCents =>
    return .balance (← AccountsController.devSeed transferId id amountCents)
  | .transfer id idempotencyKey body =>
    return .transfer (← TransfersController.create id idempotencyKey body)
  | .interbankTransfer draws idempotencyKey body =>
    return .interbankTransfer
      (← InterbankTransfersController.create bankId draws idempotencyKey body)
  | .outcome reversalId now event => do
    InterbankReplyService.handle reversalId now event
    return .handled
  | .reconcile reversalId now transferId response =>
    return .reconciled (← ReconciliationService.reconcileOne reversalId now transferId response)
  | .relayTick => return .relayed (← OutboxRelayService.tick)

/-- Bank A under the configuration `BANK_ID = bankId`. -/
def service (bankId : String) : Service where
  toEngine := engine
  Call := Call
  Response := Response
  program := program bankId

end BankA
