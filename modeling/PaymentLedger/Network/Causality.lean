import PaymentLedger.BankA.Lookups
import PaymentLedger.Hub.Lookups
import PaymentLedger.Network.Agreement
import PaymentLedger.Network.Federation

set_option autoImplicit false

-- A request leaves a bank with the transfer it asks for; a settlement follows a request; a
-- notification and an outcome follow the settlement; a reply follows a notification. None of
-- these rows is ever deleted, so a message that arrives late or again still finds its row.

namespace Federation

open Transactional Hub.SettlementsService

variable {s s' : State} {bankId : String}

section Components

theorem permits_bank {s s' : System (BankA.service bankId)}
    (action : Transactional.Action (BankA.service bankId)) :
    (BankA.anyRun bankId).Permits s action s' := by
  cases action with
  | start call | crash index => trivial
  | run index fault => exact fun _ _ _ => trivial

theorem permits_hub {s s' : System Hub.service} (action : Transactional.Action Hub.service) :
    Hub.anyRun.Permits s action s' := by
  cases action with
  | start call | crash index => trivial
  | run index fault => exact fun _ _ _ => trivial

theorem Reachable.bank (reachable : Reachable s) (bankId : String) :
    Transactional.Reachable (BankA.anyRun bankId) (s.banks bankId) := by
  induction reachable with
  | init => exact .init
  | @step s s' action before stepped ih =>
    cases step_moves stepped with
    | bank chosen action step others hub replies arrives =>
      by_cases same : bankId = chosen
      · subst same
        exact .step action ih (permits_bank action) step
      · rw [others bankId same]
        exact ih
    | hub action step banks replies submitted => exact banks ▸ ih
    | reply event banks hub replies answers => exact banks ▸ ih

theorem Reachable.hub (reachable : Reachable s) : Transactional.Reachable Hub.anyRun s.hub := by
  induction reachable with
  | init => exact .init
  | @step s s' action before stepped ih =>
    cases step_moves stepped with
    | bank chosen action step others hub replies arrives => exact hub ▸ ih
    | hub action step banks replies submitted => exact .step action ih (permits_hub action) step
    | reply event banks hub replies answers => exact hub ▸ ih

structure Grows (s s' : State) : Prop where
  banks : ∀ bankId, (s.banks bankId).sent ⊆ (s'.banks bankId).sent
  hub : s.hub.sent ⊆ s'.hub.sent
  replies : s.replies ⊆ s'.replies
  transfers : ∀ bankId text, BankA.Database.Names (s.banks bankId).db text →
    BankA.Database.Names (s'.banks bankId).db text
  settlements : ∀ text, Hub.Database.Names s.hub.db text → Hub.Database.Names s'.hub.db text

theorem Reachable.grows (reachable : Reachable s) (moves : Moves s s') : Grows s s' := by
  cases moves with
  | bank chosen action step others hub replies arrives =>
    refine ⟨?_, hub ▸ List.Subset.refl _, replies ▸ List.Subset.refl _, ?_,
      hub ▸ fun _ named => named⟩
    · intro bankId
      by_cases same : bankId = chosen
      · subst same
        exact System.step_sent step
      · rw [others bankId same]
        exact List.Subset.refl _
    · intro bankId text named
      by_cases same : bankId = chosen
      · subst same
        exact BankA.Reachable.names_step (reachable.bank bankId) step named
      · rw [others bankId same]
        exact named
  | hub action step banks replies submitted =>
    refine ⟨fun bankId => ?_, System.step_sent step, replies ▸ List.Subset.refl _,
      fun bankId text named => ?_, ?_⟩
    · rw [banks]
      exact List.Subset.refl _
    · rw [banks]
      exact named
    · intro text named
      exact Hub.Reachable.names_step reachable.hub step named
  | reply event banks hub replies answers =>
    refine ⟨fun bankId => ?_, hub ▸ List.Subset.refl _, ?_, fun bankId text named => ?_,
      hub ▸ fun _ named => named⟩
    · rw [banks]
      exact List.Subset.refl _
    · rw [replies]
      exact List.subset_append_left _ _
    · rw [banks]
      exact named

end Components

section Origins

theorem Reachable.requested (reachable : Reachable s) {eventId : Nat}
    {event : SettlementRequestedEvent}
    (started : s.hub.Started (Hub.Call.requested eventId event)) :
    ∃ bankId message, message ∈ (s.banks bankId).sent ∧ event = .ofPayload message.payload := by
  induction reachable with
  | init =>
    obtain ⟨index, thread, present, -⟩ := started
    simp at present
  | @step s s' action before stepped ih =>
    have moves := step_moves stepped
    have grows := before.grows moves
    have kept (old : s.hub.Started (Hub.Call.requested eventId event)) :
        ∃ bankId message, message ∈ (s'.banks bankId).sent ∧
        event = .ofPayload message.payload := by
      obtain ⟨bankId, message, sent, same⟩ := ih old
      exact ⟨bankId, message, grows.banks bankId sent, same⟩
    cases moves with
    | bank chosen action step others hub replies arrives => exact kept (hub ▸ started)
    | reply event banks hub replies answers => exact kept (hub ▸ started)
    | hub action step banks replies submitted =>
      rcases started.of_step step with old | new
      · exact kept old
      · cases submitted _ new with
        | own own => cases own
        | @requested bankId message eventId sent =>
          exact ⟨bankId, message, grows.banks bankId sent, rfl⟩

theorem Reachable.replied (reachable : Reachable s) {event : SettlementReplyEvent}
    (published : event ∈ s.replies) :
    Replies s event := by
  induction reachable with
  | init => cases published
  | @step s s' action before stepped ih =>
    have moves := step_moves stepped
    have grows := before.grows moves
    have kept (replies : Replies s event) : Replies s' event := by
      obtain ⟨payeeBankId, message, sent, facts⟩ := replies
      exact ⟨payeeBankId, message, grows.hub sent, facts⟩
    cases moves with
    | bank chosen action step others hub replies arrives => exact kept (ih (replies ▸ published))
    | hub action step banks replies submitted => exact kept (ih (replies ▸ published))
    | reply other banks hub replies answers =>
      rw [replies] at published
      rcases List.mem_append.mp published with old | new
      · exact kept (ih old)
      · obtain rfl := List.mem_singleton.mp new
        exact kept answers

theorem Reachable.paid_for (reachable : Reachable s) {row : Hub.SettlementRow}
    (member : row ∈ Hub.Database.settlements s.hub.db) :
    BankA.Database.Names (s.banks row.payerBankId).db row.id.text := by
  obtain ⟨eventId, event, started, ⟨text, spelled, parsed⟩, asked⟩ :=
    Hub.Reachable.asked rfl reachable.hub row member
  obtain ⟨bankId, message, sent, rfl⟩ := reachable.requested started
  obtain ⟨id, settlementId, payerBankId, named⟩ :=
    BankA.Reachable.requests (reachable.bank bankId) sent
  have payer := asked.payer
  simp only [SettlementRequestedEvent.ofPayload, settlementId, payerBankId, Json.param,
    Text.utf8_plain, Option.some.injEq]
    at spelled payer
  subst spelled
  rw [Uuid.parse_text] at parsed
  rw [← Option.some.inj parsed, ← payer]
  exact named

theorem Reachable.outcome_named (reachable : Reachable s) (literal : Hub.Literal bankId)
    {message : Outbox.Message} (sent : message ∈ s.hub.sent)
    (bound : Topic.matches_ (Hub.settlementOutcomeRoutingKey (some bankId)) message.routingKey =
      true) :
    ∃ id : Uuid, Json.get message.payload "settlementId" = some (.str id.text) ∧
      BankA.Database.Names (s.banks bankId).db id.text := by
  obtain ⟨row, member, text, carried, -, ⟨routed, rfl⟩ | routed⟩ :=
    Hub.Reachable.sends reachable.hub sent
  · rw [routed, Hub.outcome_matches_outcome] at bound
    have payer := literal.matches_ bound
    exact ⟨row.id, carried, payer ▸ reachable.paid_for member⟩
  · rw [routed, Hub.outcome_matches_notify] at bound
    cases bound

theorem Reachable.reply_named (reachable : Reachable s) {event : SettlementReplyEvent}
    (published : event ∈ s.replies) :
    ∃ text, event.settlementId = some text ∧ Hub.Database.Names s.hub.db text := by
  obtain ⟨payeeBankId, message, sent, -, same⟩ := reachable.replied published
  obtain ⟨row, member, text, carried, parsed, -⟩ := Hub.Reachable.sends reachable.hub sent
  have wellFormed : Hub.WellFormed s.hub.db := (reachable.hub.sound (Hub.verified rfl)).inv
  have same := of_decide_eq_true same
  rw [carried] at same
  have same : event.settlementId.bind Uuid.parse = some row.id := same.trans parsed
  obtain ⟨spelled, told, reads⟩ := Option.bind_eq_some_iff.mp same
  exact ⟨spelled, told, row.id, reads,
    Option.isSome_of_eq_some (wellFormed.settlement_of_mem member)⟩

end Origins

section Handlers

theorem Reachable.informs_bank (reachable : Reachable s) (literal : Hub.Literal bankId) :
    (BankA.lookups bankId).Informs (s.banks bankId) := by
  induction reachable with
  | init => exact .init
  | @step s s' action before stepped ih =>
    have moves := step_moves stepped
    have grows := before.grows moves
    cases moves with
    | hub action step banks replies submitted => exact banks ▸ ih
    | reply event banks hub replies answers => exact banks ▸ ih
    | bank chosen action step others hub replies arrives =>
      by_cases same : bankId = chosen
      · subst same
        refine ih.step step ?_ ?_
        · intro call starts handler
          cases arrives call starts with
          | own own =>
            cases call with
            | outcome | reconcile => cases own
            | createAccount | devSeed | transfer | interbankTransfer | relayTick => cases handler
          | @outcome message reversalId now sent bound =>
            obtain ⟨id, carried, named⟩ := before.outcome_named literal sent bound
            refine ⟨id.text, ?_, named⟩
            simp [BankA.lookup, BankA.Call.told,
              BankA.InterbankReplyService.SettlementOutcomeEvent.ofPayload, carried, Json.param]
          | @sweep row reversalId now response present =>
            obtain ⟨transfer, there, id, -⟩ :=
              (BankA.Reachable.wellFormed rfl (before.bank bankId)).interbank row present
            exact ⟨row.transferId.text, rfl, row, present, Uuid.parse_text _,
              id ▸ List.mem_map_of_mem there⟩
        · intro call knows handler
          obtain ⟨text, told, named⟩ := knows handler
          exact ⟨text, told, grows.transfers bankId text named⟩
      · rw [others bankId same]
        exact ih

theorem Reachable.informs_hub (reachable : Reachable s) : Hub.lookups.Informs s.hub := by
  induction reachable with
  | init => exact .init
  | @step s s' action before stepped ih =>
    have moves := step_moves stepped
    have grows := before.grows moves
    cases moves with
    | bank chosen action step others hub replies arrives => exact hub ▸ ih
    | reply event banks hub replies answers => exact hub ▸ ih
    | hub action step banks replies submitted =>
      refine ih.step step ?_ ?_
      · intro call starts handler
        cases submitted call starts with
        | own own =>
          cases call with
          | requested | reply => cases own
          | registerBank | getSettlement | relayTick => cases handler
        | requested sent => cases handler
        | reply published => exact before.reply_named published
      · intro call knows handler
        obtain ⟨text, told, named⟩ := knows handler
        exact ⟨text, told, grows.settlements text named⟩

end Handlers

/-- What is in flight names a row, and no handler fails for want of one. -/
theorem messages_find_their_rows (reachable : Reachable s) :
    (∀ bankId, Hub.Literal bankId →
      (∀ message ∈ s.hub.sent,
        Topic.matches_ (Hub.settlementOutcomeRoutingKey (some bankId)) message.routingKey = true →
        ∃ row ∈ BankA.Database.interbankTransfers (s.banks bankId).db,
          Json.get message.payload "settlementId" = some (.str row.transferId.text)) ∧
      ∀ thread ∈ (s.banks bankId).threads, BankA.Call.handles thread.call = true →
      ∀ failure : BankA.Failure,
        thread.result = some (.error failure) →
          (∀ id, failure ≠ .noInterbankTransfer id) ∧ ∀ id, failure ≠ .noLocalTransfer id) ∧
    (∀ event ∈ s.replies, ∃ row ∈ Hub.Database.settlements s.hub.db, ∃ text,
      event.settlementId = some text ∧ Uuid.parse text = some row.id) ∧
    (∀ thread ∈ s.hub.threads, Hub.Call.replies thread.call = true → ∀ id : Option String,
      thread.result ≠ some (.error (Hub.Failure.noSettlement id))) ∧
    ∀ bankId, ∀ row ∈ BankA.Database.interbankTransfers (s.banks bankId).db,
      ∃ transfer ∈ BankA.Database.transfers (s.banks bankId).db, transfer.id = row.transferId := by
  refine ⟨fun bankId literal => ⟨?_, ?_⟩, ?_, ?_, ?_⟩
  · intro message sent bound
    obtain ⟨id, carried, row, member, parsed, -⟩ := reachable.outcome_named literal sent bound
    rw [Uuid.parse_text] at parsed
    exact ⟨row, member, Option.some.inj parsed ▸ carried⟩
  · intro thread running handler failure ended
    obtain ⟨index, present⟩ := List.mem_iff_getElem?.mp running
    have informs := reachable.informs_bank literal
    obtain ⟨text, told, -⟩ := (informs index thread present).1 handler
    have clean : failure.notFound = false := informs.ends present ended text told failure rfl
    refine ⟨?_, ?_⟩ <;>
    · rintro id rfl
      cases clean
  · intro event published
    obtain ⟨text, told, id, parsed, found⟩ := reachable.reply_named published
    obtain ⟨row, there⟩ := Option.isSome_iff_exists.mp found
    exact ⟨row, Hub.mem_of_settlement there, text, told, (Hub.id_of_settlement there).symm ▸ parsed⟩
  · intro thread running handler id ended
    obtain ⟨index, present⟩ := List.mem_iff_getElem?.mp running
    have informs := reachable.informs_hub
    obtain ⟨text, told, -⟩ := (informs index thread present).1 handler
    have clean : (Hub.Failure.noSettlement id).notFound = false :=
      informs.ends present ended text told _ rfl
    cases clean
  · intro bankId row member
    obtain ⟨transfer, there, same, -⟩ :=
      (BankA.Reachable.wellFormed rfl (reachable.bank bankId)).interbank row member
    exact ⟨transfer, there, same⟩

section Runs

def atBank (actions : List (Transactional.Action (BankA.service "bank-a"))) : List Action :=
  actions.map (.bank "bank-a")

def atHub (actions : List (Transactional.Action Hub.service)) : List Action := actions.map .hub

def fromHub (s : State) : List Outbox.Message := s.hub.sent

def confirmation : SettlementReplyEvent where
  settlementId := some (BankA.sampleId 3).text
  outcome := some (.str "CONFIRMED")
  reason := none

def confirming : List Action :=
  atHub ([.start (Hub.Call.registerBank "bank-a" "Bank A" "http://a")] ++ runs 0 1 ++
    [.start (Hub.Call.registerBank "bank-b" "Bank B" "http://b")] ++ runs 1 1) ++
  atBank (BankA.opening "bank-a" ++ [.start (BankA.debit (BankA.sampleId 3) 400)] ++ runs 3 10 ++
    [.start BankA.Call.relayTick] ++ runs 4 5) ++
  [.requested "bank-a" Network.requestMessage 0] ++
    atHub (runs 2 7 ++ [.start Hub.Call.relayTick] ++ runs 3 5) ++
  [.notified "bank-b" Network.notifyMessage confirmation, .replied 0 1] ++
  atHub (runs 4 5 ++ [.start Hub.Call.relayTick] ++ runs 5 5) ++
  [.outcome "bank-a" (Network.outcomeMessage "CONFIRMED") (BankA.sampleId 5) 0,
   .outcome "bank-a" (Network.outcomeMessage "CONFIRMED") (BankA.sampleId 5) 0] ++
   atBank (runs 5 2 ++ runs 6 1)

theorem messages_find_their_rows_confirming : ∃ s, Reachable s ∧ s.replies.length = 1 ∧
    (s.banks "bank-a").db.status (BankA.sampleId 3) = some .confirmed ∧
    (∃ row ∈ BankA.Database.interbankTransfers (s.banks "bank-a").db,
      Json.get (Network.outcomeMessage "CONFIRMED").payload "settlementId" =
      some (.str row.transferId.text)) ∧
    ∀ event ∈ s.replies, ∃ row ∈ Hub.Database.settlements s.hub.db, ∃ text,
      event.settlementId = some text ∧ Uuid.parse text = some row.id := by
  have evaluated : (run {} confirming).map (fun s => (s.replies.length,
      BankA.Database.status (s.banks "bank-a").db (BankA.sampleId 3),
      decide (Network.outcomeMessage "CONFIRMED" ∈ fromHub s))) =
      some (1, some .confirmed, true) := by
    decide +kernel
  obtain ⟨s, ran, observed⟩ := Option.map_eq_some_iff.mp evaluated
  obtain ⟨replied, observed⟩ := Prod.mk.inj observed
  obtain ⟨confirmed, listed⟩ := Prod.mk.inj observed
  have sent : Network.outcomeMessage "CONFIRMED" ∈ fromHub s := of_decide_eq_true listed
  have literal : Hub.Literal "bank-a" := by
    unfold Hub.Literal
    decide +kernel
  have found := messages_find_their_rows (.of_run .init ran)
  exact ⟨s, .of_run .init ran, replied, confirmed,
    (found.1 "bank-a" literal).1 _ sent (by decide +kernel), found.2.1⟩

end Runs

end Federation
