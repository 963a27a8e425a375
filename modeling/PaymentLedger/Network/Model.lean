import PaymentLedger.BankA.Requests
import PaymentLedger.BankA.Sweep
import PaymentLedger.Hub.Settlements

set_option autoImplicit false

-- The broker delivers any message that was handed to it, at any time and any number of
-- times. Bank A's sweep asks the Hub over HTTP. Payee banks answer notifications.

namespace Hub

open SettlementsService

/-- `JSON.parse(...) as SettlementRequestedEvent` -/
def SettlementsService.SettlementRequestedEvent.ofPayload (payload : Json.Object) :
    SettlementRequestedEvent where
  settlementId := Json.param (Json.get payload "settlementId")
  payerBankId := Json.param (Json.get payload "payerBankId")
  payeeBankId := Json.param (Json.get payload "payeeBankId")
  payeeAccountRef := Json.param (Json.get payload "payeeAccountRef")
  amountCents := Json.get payload "amountCents"

def SettlementRecord.json (record : SettlementRecord) : Json.Object :=
  [("id", .str record.id), ("payerBankId", .str record.payerBankId),
    ("payeeBankId", .str record.payeeBankId),
   ("payeeAccountRef", .str record.payeeAccountRef),
   ("amountCents", match record.amountCents with | .finite value => .num value | .infinite _ => .null),
   ("status", .str record.status.text),
   ("rejectReason", match record.rejectReason with | some reason => .str reason | none => .null)]

/-- The table of `DomainExceptionFilter`; everything else is a 500. -/
def Failure.httpStatus : Failure → Nat
  | .domain (.bankNotFound _) | .domain (.settlementNotFound _) => 404
  | .domain (.duplicateBank _) => 409
  | .domain (.invalidAmount _) | .domain .sameBankSettlement | .badRequest => 400
  | .noSettlement _ | .unroutable | .typeError | .database _ => 500

end Hub

namespace BankA

open InterbankReplyService ReconciliationService

def InterbankReplyService.SettlementOutcomeEvent.ofPayload (payload : Json.Object) :
    SettlementOutcomeEvent where
  settlementId := Json.param (Json.get payload "settlementId")
  outcome := Json.get payload "outcome"
  reason := Json.get payload "reason"

/-- What `fetch` resolves to for `GET /settlements/:id`. -/
def ReconciliationService.HubResponse.of (result : Except Hub.Failure Hub.Response) : HubResponse :=
  match result with
  | .ok (.settlement record) => { status := 200, body := some record.json }
  | .ok _ => { status := 500, body := none }
  | .error failure => { status := failure.httpStatus, body := none }

/-- A call of the HTTP interface or of a timer; the others begin with a message or an answer. -/
def Call.own : Call → Bool
  | .outcome _ _ _ | .reconcile _ _ _ _ => false
  | .createAccount _ _ | .devSeed _ _ _ | .transfer _ _ _ | .interbankTransfer _ _ _ | .relayTick =>
    true

/-- The time that the statements of the call record. -/
def Call.now : Call → Option Int
  | .interbankTransfer draws _ _ => some draws.now
  | .outcome _ now _ | .reconcile _ now _ _ => some now
  | .createAccount _ _ | .devSeed _ _ _ | .transfer _ _ _ | .relayTick => none

end BankA

def Hub.Call.own : Hub.Call → Bool
  | .requested _ _ | .reply _ _ => false
  | .registerBank _ _ _ | .getSettlement _ | .relayTick => true

namespace Network

open Transactional

/-- What a payee bank answers to a notification. -/
inductive Verdict where
  | confirmed
  | reversed
deriving DecidableEq

def Verdict.text : Verdict → String
  | .confirmed => "CONFIRMED"
  | .reversed => "REVERSED"

/-- `BANK_ID`, the verdicts of the payee banks, and what other banks may ask of the Hub. -/
structure Setting where
  bankId : String
  verdict : Uuid → Verdict
  others : Hub.SettlementsService.SettlementRequestedEvent → Prop := fun _ => False

structure State (bankId : String) where
  bankA : System (BankA.service bankId) := { db := BankA.migrated }
  hub : System Hub.service := { db := Hub.migrated }
  clock : Int := 0
  /-- The transfers that a sweep has found. -/
  stale : List Uuid := []
  /-- The Hub's calls that a sweep waits for. -/
  asked : List Nat := []

inductive Action (bankId : String) where
  | bankA (action : Transactional.Action (BankA.service bankId))
  | hub (action : Transactional.Action Hub.service)
  | requested (message : Outbox.Message) (eventId : Nat)
  | other (event : Hub.SettlementsService.SettlementRequestedEvent) (eventId : Nat)
  | notified (message : Outbox.Message) (eventId : Nat) (reason : Option Json)
  | outcome (message : Outbox.Message) (reversalId : Uuid) (now : Int)
  | wait (elapsed : Nat)
  | sweep (transferId : Uuid)
  | fetch (transferId : Uuid)
  | fetched (index : Nat) (rejected : Bool) (reversalId : Uuid) (now : Int)

variable {bankId : String}

namespace State

variable (s : State bankId)

def runBankA (action : Transactional.Action (BankA.service bankId)) : Option (State bankId) :=
  (s.bankA.step action).map fun bankA => { s with bankA }

def runHub (action : Transactional.Action Hub.service) : Option (State bankId) :=
  (s.hub.step action).map fun hub => { s with hub }

-- What the broker has been handed.
def fromBankA : List Outbox.Message := s.bankA.sent

def fromHub : List Outbox.Message := s.hub.sent

/-- `findStaleDebited(new Date(Date.now() - STALE_AFTER_MS))` -/
def isStale (transferId : Uuid) : Bool :=
  (BankA.Database.interbankTransfers s.bankA.db).any fun row =>
    decide (row.transferId = transferId) &&
    decide (row.status = .debited) &&
      decide (row.updatedAt < s.clock - BankA.ReconciliationService.STALE_AFTER_MS)

end State

/-- A call of their own that either service may begin; no time stamp lies in the past. -/
def ownAction (clock : Int) : Transactional.Action (BankA.service bankId) → Bool
  | .start call => BankA.Call.own call && (BankA.Call.now call).all fun now => decide (clock ≤ now)
  | .run _ _ | .crash _ => true

def ownHubAction : Transactional.Action Hub.service → Bool
  | .start call => Hub.Call.own call
  | .run _ _ | .crash _ => true

/-- Each payee bank has bound its queue to the key that ends in its id. -/
def isNotify (message : Outbox.Message) : Bool :=
  "settlement.notify.".toList.isPrefixOf message.routingKey.toList

def replyEvent (verdict : Uuid → Verdict) (payload : Json.Object) (reason : Option Json) :
    Option Hub.SettlementsService.SettlementReplyEvent :=
  match Json.get payload "settlementId" with
  | some (.str (.plain text)) => (Uuid.parse text).map fun id =>
    { settlementId := some text, outcome := some (.str (verdict id).text), reason }
  | _ => none

def step (verdict : Uuid → Verdict) (s : State bankId) : Action bankId → Option (State bankId)
  | .bankA action => if ownAction s.clock action then s.runBankA action else none
  | .hub action => if ownHubAction action then s.runHub action else none
  | .requested message eventId =>
    if message ∈ s.fromBankA ∧ message.routingKey = BankA.InterbankTransfersService.SETTLEMENT_REQUESTED_ROUTING_KEY then
      s.runHub (.start (Hub.Call.requested eventId (.ofPayload message.payload)))
    else none
  | .other event eventId => s.runHub (.start (Hub.Call.requested eventId event))
  | .notified message eventId reason =>
    if message ∈ s.fromHub ∧ isNotify message then
      (replyEvent verdict message.payload reason).bind fun event =>
        s.runHub (.start (Hub.Call.reply eventId event))
    else none
  | .outcome message reversalId now =>
    if message ∈ s.fromHub ∧ message.routingKey = Hub.settlementOutcomeRoutingKey (some bankId) ∧ s.clock ≤ now then
      s.runBankA (.start (BankA.Call.outcome reversalId now (.ofPayload message.payload)))
    else none
  | .wait elapsed => some { s with clock := s.clock + elapsed }
  | .sweep transferId =>
    if s.isStale transferId then some { s with stale := s.stale ++ [transferId] } else none
  | .fetch transferId =>
    if transferId ∈ s.stale then
      (s.runHub (.start (Hub.Call.getSettlement transferId.text))).map fun later =>
        { later with asked := s.asked ++ [s.hub.threads.length] }
    else none
  | .fetched index rejected reversalId now =>
    if index ∈ s.asked ∧ s.clock ≤ now then
      match s.hub.threads[index]? with
      | some thread =>
        match (thread.call : Hub.Call), thread.result with
        | .getSettlement text, some result =>
          s.runBankA (.start
            (BankA.Call.reconcile reversalId now text
              (if rejected then none else some (.of result))))
        | _, _ => none
      | none => none
    else none

def Setting.Permits (setting : Setting) : Action setting.bankId → Prop
  | .other event _ => setting.others event
  | _ => True

inductive Reachable (setting : Setting) : State setting.bankId → Prop where
  | init : Reachable setting {}
  | step {s s' : State setting.bankId} (action : Action setting.bankId) :
      Reachable setting s → setting.Permits action →
      Network.step setting.verdict s action = some s' →
      Reachable setting s'

def run (verdict : Uuid → Verdict) (s : State bankId) : List (Action bankId) → Option (State bankId)
  | [] => some s
  | action :: rest => (step verdict s action).bind fun next => run verdict next rest

def Action.fromOthers : Action bankId → Bool
  | .other _ _ => true
  | _ => false

theorem Reachable.of_run {setting : Setting} {s s' : State setting.bankId}
    {actions : List (Action setting.bankId)} (start : Reachable setting s)
    (alone : actions.any Action.fromOthers = false)
    (ran : run setting.verdict s actions = some s') : Reachable setting s' := by
  induction actions generalizing s with
  | nil =>
    obtain rfl := Option.some.inj ran
    exact start
  | cons action rest ih =>
    obtain ⟨middle, first, later⟩ := Option.bind_eq_some_iff.mp ran
    rw [List.any_cons, Bool.or_eq_false_iff] at alone
    have permits : setting.Permits action := by
      cases action with
      | other event eventId => cases alone.1
      | _ => trivial
    exact ih (.step action start permits first) alone.2 later

end Network
