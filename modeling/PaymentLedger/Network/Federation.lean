import PaymentLedger.Hub.Routing
import PaymentLedger.Network.Model

set_option autoImplicit false

-- Every bank runs Bank A's program under its own id. The broker forgets no message and may
-- deliver each at any time, any number of times, to every queue whose binding accepts its key.

namespace Federation

open Transactional Hub.SettlementsService

/-- The replies are those that payee banks have published. -/
structure State where
  banks : (bankId : String) → System (BankA.service bankId) := fun _ => { db := BankA.migrated }
  hub : System Hub.service := { db := Hub.migrated }
  replies : List SettlementReplyEvent := []

inductive Action where
  | bank (bankId : String) (action : Transactional.Action (BankA.service bankId))
  | hub (action : Transactional.Action Hub.service)
  | requested (bankId : String) (message : Outbox.Message) (eventId : Nat)
  | notified (payeeBankId : String) (message : Outbox.Message) (event : SettlementReplyEvent)
  | replied (index eventId : Nat)
  | outcome (bankId : String) (message : Outbox.Message) (reversalId : Uuid) (now : Int)
  | sweep (bankId : String) (transferId reversalId : Uuid) (now : Int)
      (response : Option BankA.ReconciliationService.HubResponse)

def State.runBank (s : State) (bankId : String)
    (action : Transactional.Action (BankA.service bankId)) : Option State :=
  ((s.banks bankId).step action).map fun bank =>
    { s with banks := Function.update s.banks bankId bank }

def State.runHub (s : State) (action : Transactional.Action Hub.service) : Option State :=
  (s.hub.step action).map fun hub => { s with hub }

/-- A call of the bank's own, or one in progress. -/
def ownAction {bankId : String} : Transactional.Action (BankA.service bankId) → Bool
  | .start call => BankA.Call.own call
  | .run _ _ | .crash _ => true

def answers (payload : Json.Object) (event : SettlementReplyEvent) : Bool :=
  decide (event.settlementId.bind Uuid.parse =
    (Json.param (Json.get payload "settlementId")).bind Uuid.parse)

/-- The message is in the queue that the bank has bound to this key of its own. -/
def delivers (message : Outbox.Message) (sent : List Outbox.Message) (binding : String) : Bool :=
  decide (message ∈ sent) && Topic.matches_ binding message.routingKey

def step (s : State) : Action → Option State
  | .bank bankId action => if ownAction action then s.runBank bankId action else none
  | .hub action => if Network.ownHubAction action then s.runHub action else none
  | .requested bankId message eventId =>
    if delivers message (s.banks bankId).sent BankA.InterbankTransfersService.SETTLEMENT_REQUESTED_ROUTING_KEY then
      s.runHub (.start (Hub.Call.requested eventId (.ofPayload message.payload)))
    else none
  | .notified payeeBankId message event =>
    if delivers message s.hub.sent (Hub.settlementNotifyRoutingKey (some payeeBankId)) && answers message.payload event then
      some { s with replies := s.replies ++ [event] }
    else none
  | .replied index eventId =>
    s.replies[index]?.bind fun event => s.runHub (.start (Hub.Call.reply eventId event))
  | .outcome bankId message reversalId now =>
    if delivers message s.hub.sent (Hub.settlementOutcomeRoutingKey (some bankId)) then
      s.runBank bankId (.start (BankA.Call.outcome reversalId now (.ofPayload message.payload)))
    else none
  | .sweep bankId transferId reversalId now response =>
    -- The sweep reads the row first; whatever it is then told, it may pass on.
    if (BankA.Database.interbankTransfers (s.banks bankId).db).any fun row => decide (row.transferId = transferId) then
      s.runBank bankId (.start (BankA.Call.reconcile reversalId now transferId.text response))
    else none

inductive Reachable : State → Prop where
  | init : Reachable {}
  | step {s s' : State} (action : Action) : Reachable s → Federation.step s action = some s' →
      Reachable s'

def run (s : State) : List Action → Option State
  | [] => some s
  | action :: rest => (step s action).bind fun next => run next rest

theorem Reachable.of_run {s s' : State} {actions : List Action} (start : Reachable s)
    (ran : run s actions = some s') :
    Reachable s' := by
  induction actions generalizing s with
  | nil =>
    obtain rfl := Option.some.inj ran
    exact start
  | cons action rest ih =>
    obtain ⟨middle, first, later⟩ := Option.bind_eq_some_iff.mp ran
    exact ih (.step action start first) later

theorem delivers_iff {message : Outbox.Message} {sent : List Outbox.Message} {binding : String} :
    delivers message sent binding = true ↔ message ∈ sent ∧
    Topic.matches_ binding message.routingKey = true := by
  simp [delivers]

section Steps

variable {s s' : State} {bankId : String}

inductive Arrives (s : State) (bankId : String) : BankA.Call → Prop where
  | own {call : BankA.Call} (own : call.own = true) : Arrives s bankId call
  | outcome {message : Outbox.Message} {reversalId : Uuid} {now : Int} (sent : message ∈ s.hub.sent)
      (bound : Topic.matches_ (Hub.settlementOutcomeRoutingKey (some bankId)) message.routingKey =
        true) :
      Arrives s bankId (.outcome reversalId now (.ofPayload message.payload))
  | sweep {row : BankA.InterbankTransferRow} {reversalId : Uuid} {now : Int}
      {response : Option BankA.ReconciliationService.HubResponse}
      (present : row ∈ BankA.Database.interbankTransfers (s.banks bankId).db) :
      Arrives s bankId (.reconcile reversalId now row.transferId.text response)

inductive Submitted (s : State) : Hub.Call → Prop where
  | own {call : Hub.Call} (own : call.own = true) : Submitted s call
  | requested {bankId : String} {message : Outbox.Message} {eventId : Nat}
      (sent : message ∈ (s.banks bankId).sent) :
      Submitted s (.requested eventId (.ofPayload message.payload))
  | reply {event : SettlementReplyEvent} {eventId : Nat} (published : event ∈ s.replies) :
      Submitted s (.reply eventId event)

def Replies (s : State) (event : SettlementReplyEvent) : Prop :=
  ∃ payeeBankId message, message ∈ s.hub.sent ∧
    Topic.matches_ (Hub.settlementNotifyRoutingKey (some payeeBankId)) message.routingKey = true ∧
    answers message.payload event = true

/-- What one step is for its parts: a step of one bank, a step of the Hub, or a new reply. -/
inductive Moves (s s' : State) : Prop where
  | bank (bankId : String) (action : Transactional.Action (BankA.service bankId))
      (step : (s.banks bankId).step action = some (s'.banks bankId))
      (others : ∀ other, other ≠ bankId → s'.banks other = s.banks other) (hub : s'.hub = s.hub)
      (replies : s'.replies = s.replies)
      (arrives : ∀ call, action = .start call → Arrives s bankId call)
  | hub (action : Transactional.Action Hub.service) (step : s.hub.step action = some s'.hub)
      (banks : s'.banks = s.banks) (replies : s'.replies = s.replies)
      (submitted : ∀ call, action = .start call → Submitted s call)
  | reply (event : SettlementReplyEvent) (banks : s'.banks = s.banks) (hub : s'.hub = s.hub)
      (replies : s'.replies = s.replies ++ [event]) (answers : Replies s event)

theorem runBank_moves {action : Transactional.Action (BankA.service bankId)}
    (ran : s.runBank bankId action = some s')
    (arrives : ∀ call, action = .start call → Arrives s bankId call) : Moves s s' := by
  obtain ⟨bank, step, rfl⟩ := Option.map_eq_some_iff.mp ran
  refine .bank bankId action ?_ ?_ rfl rfl arrives
  · rw [step]
    exact congrArg some (Function.update_self bankId bank s.banks).symm
  · intro other different
    exact Function.update_of_ne different ..

theorem runHub_moves {action : Transactional.Action Hub.service} (ran : s.runHub action = some s')
    (submitted : ∀ call, action = .start call → Submitted s call) : Moves s s' := by
  obtain ⟨hub, step, rfl⟩ := Option.map_eq_some_iff.mp ran
  exact .hub action step rfl rfl submitted

theorem step_moves {action : Action} (stepped : step s action = some s') : Moves s s' := by
  have starts {S : Service} {P : S.Call → Prop} {call : S.Call} (holds : P call) :
      ∀ other, Transactional.Action.start call = .start other → P other := by
    intro other same
    obtain rfl := Transactional.Action.start.inj same
    exact holds
  cases action with
  | bank bankId action =>
    simp only [step, Option.ite_none_right_eq_some] at stepped
    obtain ⟨own, ran⟩ := stepped
    refine runBank_moves ran ?_
    rintro call rfl
    exact .own own
  | hub action =>
    simp only [step, Option.ite_none_right_eq_some] at stepped
    obtain ⟨own, ran⟩ := stepped
    refine runHub_moves ran ?_
    rintro call rfl
    exact .own own
  | requested bankId message eventId =>
    simp only [step, Option.ite_none_right_eq_some] at stepped
    obtain ⟨delivered, ran⟩ := stepped
    obtain ⟨sent, -⟩ := delivers_iff.mp delivered
    exact runHub_moves ran (starts (.requested sent))
  | notified payeeBankId message event =>
    simp only [step, Option.ite_none_right_eq_some, Bool.and_eq_true] at stepped
    obtain ⟨⟨delivered, named⟩, same⟩ := stepped
    obtain ⟨sent, bound⟩ := delivers_iff.mp delivered
    obtain rfl := Option.some.inj same
    exact .reply event rfl rfl rfl ⟨payeeBankId, message, sent, bound, named⟩
  | replied index eventId =>
    obtain ⟨event, present, ran⟩ := Option.bind_eq_some_iff.mp stepped
    exact runHub_moves ran (starts (.reply (List.mem_of_getElem? present)))
  | outcome bankId message reversalId now =>
    simp only [step, Option.ite_none_right_eq_some] at stepped
    obtain ⟨delivered, ran⟩ := stepped
    obtain ⟨sent, bound⟩ := delivers_iff.mp delivered
    exact runBank_moves ran (starts (.outcome sent bound))
  | sweep bankId transferId reversalId now response =>
    simp only [step, Option.ite_none_right_eq_some, List.any_eq_true, decide_eq_true_eq] at stepped
    obtain ⟨⟨row, present, rfl⟩, ran⟩ := stepped
    exact runBank_moves ran (starts (.sweep present))

end Steps

end Federation
