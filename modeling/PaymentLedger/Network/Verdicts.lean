import PaymentLedger.BankA.Compensation
import PaymentLedger.Network.Origins

set_option autoImplicit false

-- With one verdict for each settlement, an outcome that the Hub has sent or reported is the
-- status of the settlement from then on.

namespace Network

open Transactional

def Verdict.status : Verdict → Hub.SettlementStatus
  | .confirmed => .confirmed
  | .reversed => .reversed

section Lives

variable {verdict : Verdict} {row : Hub.SettlementRow} {status : Hub.SettlementStatus}
variable {entries : List Hub.LedgerEntryRow} {events : List Outbox.Row}

abbrev Ruled (verdict : Verdict) (event : Hub.SettlementsService.SettlementReplyEvent)
    (_ : Hub.SettlementStatus) : Prop :=
  event.outcome = some (.str verdict.text)

def Announces (verdict : Verdict) (row : Hub.SettlementRow) (status : Hub.SettlementStatus)
    (event : Outbox.Row) : Prop :=
  (∃ eventId, event = Hub.rejectedRow eventId row ∧ status = .rejected) ∨
  (∃ eventId text, event = Hub.notifyRow eventId text row) ∨
  ∃ eventId reply, event = Hub.outcomeRow eventId reply row ∧
    reply.outcome = some (.str verdict.text) ∧
    status = verdict.status

theorem settle_decided (decided : status = .pending ∨ status = .rejected ∨ status = verdict.status)
    (live : status ≠ .rejected) : status.settle verdict.status = verdict.status := by
  rcases decided with rfl | rejected | rfl
  · rfl
  · exact absurd rejected live
  · cases verdict <;> rfl

theorem Life.decided (life : Hub.Life (Ruled verdict) row status entries events) :
    (status = .pending ∨ status = .rejected ∨ status = verdict.status) ∧
      ∀ event ∈ events, Announces verdict row status event := by
  have more {status : Hub.SettlementStatus} {events : List Outbox.Row} {eventId : Nat}
      {reply : Hub.SettlementsService.SettlementReplyEvent} (live : status ≠ .rejected)
      (ruled : reply.outcome = some (.str verdict.text))
      (ih : (status = .pending ∨ status = .rejected ∨ status = verdict.status) ∧
        ∀ event ∈ events, Announces verdict row status event) :
      (status.settle verdict.status = .pending ∨ status.settle verdict.status = .rejected ∨
        status.settle verdict.status = verdict.status) ∧
      ∀ event ∈ events ++ [Hub.outcomeRow eventId reply row],
        Announces verdict row (status.settle verdict.status) event := by
    have settled := settle_decided ih.1 live
    refine ⟨.inr (.inr settled), ?_⟩
    intro event member
    rcases List.mem_append.mp member with old | new
    · rcases ih.2 event old with ⟨_, -, rejected⟩ | notify | ⟨id, other, same, ruled, -⟩
      · exact absurd rejected live
      · exact .inr (.inl notify)
      · exact .inr (.inr ⟨id, other, same, ruled, settled⟩)
    · obtain rfl := List.mem_singleton.mp new
      exact .inr (.inr ⟨eventId, reply, rfl, ruled, settled⟩)
  induction life with
  | rejected eventId =>
    refine ⟨.inr (.inl rfl), ?_⟩
    intro event member
    obtain rfl := List.mem_singleton.mp member
    exact .inl ⟨eventId, rfl, rfl⟩
  | opened eventId settlementId spelled =>
    refine ⟨.inl rfl, ?_⟩
    intro event member
    obtain rfl := List.mem_singleton.mp member
    exact .inr (.inl ⟨eventId, settlementId, rfl⟩)
  | confirmed eventId event before live confirms ruled ih =>
    cases verdict with
    | confirmed => exact more live ruled ih
    | reversed =>
      rw [Hub.SettlementsService.SettlementReplyEvent.confirms, ruled] at confirms
      simp [Verdict.text] at confirms
  | reversed eventId event before live refuses ruled ih =>
    cases verdict with
    | confirmed => exact absurd ruled refuses
    | reversed => exact more live ruled ih

end Lives

section Hub

variable {verdict : Uuid → Verdict} {h : System Hub.service}

theorem hub_lives (reachable : Transactional.Reachable (hubRun verdict) h) :
    Hub.Lives (fun id => Ruled (verdict id)) h.db := by
  refine Hub.Reachable.lives rfl reachable ?_
  intro eventId event db _ starts _ row _ targets
  obtain ⟨id, ⟨text, spelled, parsed⟩, outcome⟩ := starts eventId event rfl
  obtain ⟨text', spelled', parsed'⟩ := targets
  obtain rfl := Option.some.inj (spelled.symm.trans spelled')
  obtain rfl := Option.some.inj (parsed.symm.trans parsed')
  exact outcome

theorem hub_decided (reachable : Transactional.Reachable (hubRun verdict) h)
    {row : Hub.SettlementRow} (member : row ∈ Hub.Database.settlements h.db) :
    (row.status = .pending ∨ row.status = .rejected ∨ row.status = (verdict row.id).status) ∧
      ∀ event ∈ Hub.Database.eventsOf h.db row.id,
      Announces (verdict row.id) row.core row.status event := by
  have life : Hub.Life (Ruled (verdict row.id)) row.core row.status
      (Hub.Database.entriesOf h.db row.id)
      (Hub.Database.eventsOf h.db row.id) := hub_lives reachable row member
  exact Life.decided life

theorem outcome_of_outcomePayload {text : String}
    {reply : Hub.SettlementsService.SettlementReplyEvent} {outcome : Json}
    (carried : reply.outcome = some outcome) :
    Json.get (Hub.SettlementsService.outcomePayload text reply) "outcome" = some outcome := by
  simp [Json.get, Hub.SettlementsService.outcomePayload, Hub.SettlementsService.field, carried]

theorem notify_ne_outcome (payee payer : String) :
    Hub.settlementNotifyRoutingKey (some payee) ≠ Hub.settlementOutcomeRoutingKey (some payer) := by
  have notify (rest : String) : ("settlement.notify." ++ rest).toList.take 12 =
      "settlement.n".toList := by
    rw [String.toList_append, List.take_append_of_le_length (by decide)]
    decide
  have outcome (rest : String) : ("settlement.outcome." ++ rest).toList.take 12 =
      "settlement.o".toList := by
    rw [String.toList_append, List.take_append_of_le_length (by decide)]
    decide
  intro same
  have prefixes := congrArg (fun key => key.toList.take 12) same
  have texts : "settlement.n".toList = "settlement.o".toList :=
    (notify payee).symm.trans (prefixes.trans (outcome payer))
  revert texts
  decide

/-- An outcome that the Hub has sent names a settlement and says what became of it. -/
theorem hub_tells (reachable : Transactional.Reachable (hubRun verdict) h)
    {message : Outbox.Message} (sent : message ∈ h.sent) {payer : String}
    (routed : message.routingKey = Hub.settlementOutcomeRoutingKey (some payer)) :
    ∃ row ∈ Hub.Database.settlements h.db,
    Json.get message.payload "settlementId" = some (.str row.id.text) ∧
      ((Json.get message.payload "outcome" = some (.str "REJECTED") ∧ row.status = .rejected) ∨
        (Json.get message.payload "outcome" = some (.str (verdict row.id).text) ∧
          row.status = (verdict row.id).status)) := by
  have sound := reachable.sound (Hub.verified rfl)
  have wellFormed : Hub.WellFormed h.db := sound.inv
  obtain ⟨event, present, rfl⟩ := sound.sent message sent
  obtain ⟨row, found⟩ := Option.isSome_iff_exists.mp (wellFormed.announced event present)
  have id := Hub.id_of_settlement found
  have member := Hub.mem_of_settlement found
  have listed : { event with published := false } ∈ Hub.Database.eventsOf h.db row.id :=
    List.mem_map_of_mem (List.mem_filter.mpr ⟨present, by simp [id]⟩)
  refine ⟨row, member, ?_⟩
  have payload : event.message.payload =
      ({ event with published := false } : Outbox.Row).payload := rfl
  have key : event.message.routingKey =
      ({ event with published := false } : Outbox.Row).routingKey := rfl
  rw [payload]
  rw [key] at routed
  rcases (hub_decided reachable member).2 _ listed with ⟨eventId, same, rejected⟩ |
    ⟨eventId, text, same⟩ | ⟨eventId, reply, same, ruled, status⟩
  · rw [same]
    exact ⟨rfl, .inl ⟨rfl, rejected⟩⟩
  · rw [same] at routed
    exact absurd routed (notify_ne_outcome _ _)
  · rw [same]
    exact ⟨rfl, .inr ⟨outcome_of_outcomePayload ruled, status⟩⟩

end Hub

section Calls

variable {setting : Setting} {s : State setting.bankId} {call : BankA.Call} {t : Uuid}

theorem ofPayload_settlementId {payload : Json.Object} {text : String}
    (carried : Json.get payload "settlementId" = some (.str text)) :
    (BankA.InterbankReplyService.SettlementOutcomeEvent.ofPayload payload).settlementId =
      some text := by
  simp [BankA.InterbankReplyService.SettlementOutcomeEvent.ofPayload, carried, Json.param]

theorem handling_of_own (own : call.own = true) : call.handling = none := by
  cases call with
  | outcome | reconcile => cases own
  | _ => rfl

theorem eventOf_json {record : Hub.SettlementRecord} {text : String}
    {event : BankA.InterbankReplyService.SettlementOutcomeEvent}
    (passed : BankA.ReconciliationService.eventOf text
      (some { status := 200, body := some record.json }) = some event) :
    record.status ≠ .pending ∧
    event = BankA.ReconciliationService.settledEvent text record.json := by
  have status : Json.get record.json "status" = some (.str record.status.text) := rfl
  have good : BankA.ReconciliationService.ok { status := 200, body := some record.json } =
      true := rfl
  simp only [BankA.ReconciliationService.eventOf, good, status, Option.bind_some, if_true] at passed
  rw [if_neg (by decide)] at passed
  split at passed
  · cases passed
  · rename_i settled
    refine ⟨?_, (Option.some.inj passed).symm⟩
    intro pending
    rw [pending] at settled
    exact settled rfl

/-- Whoever tells Bank A about a transfer tells what the Hub says of it, unless the Hub knows
nothing. -/
theorem Origin.tells (reachable : Reachable setting s) (origin : Origin s call)
    {handling : BankA.Handling} {text : String} (handles : call.handling = some handling)
    (targets : handling.Targets text t) :
    (∃ row, Hub.Database.settlement s.hub.db t = some row ∧ row.status ≠ .pending ∧
      handling.event.outcome = some (.str row.status.text)) ∨
    ∃ reversalId now response, call = .reconcile reversalId now text (some response) ∧
      response.status = 404 := by
  have hub := reachable.components.2
  have wellFormed : Hub.WellFormed s.hub.db := (hub.sound (Hub.verified rfl)).inv
  cases origin with
  | own own =>
    rw [handling_of_own own] at handles
    cases handles
  | @outcome message reversalId now sent routed =>
    obtain rfl := Option.some.inj handles
    obtain ⟨row, member, spelled, told⟩ := hub_tells hub sent routed
    have same : some row.id.text = some text :=
      (ofPayload_settlementId spelled).symm.trans targets.1
    obtain rfl := Option.some.inj same
    have id : t = row.id := Option.some.inj (targets.2.symm.trans (Uuid.parse_text row.id))
    refine .inl ⟨row, id ▸ wellFormed.settlement_of_mem member, ?_⟩
    rcases told with ⟨outcome, status⟩ | ⟨outcome, status⟩
    · rw [status]
      exact ⟨by simp, outcome⟩
    · have texts : (setting.verdict row.id).text = (setting.verdict row.id).status.text := by
        cases setting.verdict row.id <;> rfl
      rw [status, ← texts]
      refine ⟨?_, outcome⟩
      cases setting.verdict row.id <;> simp [Verdict.status]
  | silent nothing =>
    rw [BankA.Call.handling, nothing] at handles
    cases handles
  | @missing spelled response reversalId now unknown =>
    obtain ⟨event, passed, rfl⟩ := Option.map_eq_some_iff.mp handles
    rw [BankA.ReconciliationService.eventOf, if_pos unknown] at passed
    obtain rfl := Option.some.inj passed
    have same : some spelled = some text := targets.1
    obtain rfl := Option.some.inj same
    exact .inr ⟨reversalId, now, response, rfl, unknown⟩
  | @reported spelled row reversalId now parsed known =>
    obtain ⟨event, passed, rfl⟩ := Option.map_eq_some_iff.mp handles
    obtain ⟨settled, rfl⟩ := eventOf_json passed
    have same : some spelled = some text := targets.1
    obtain rfl := Option.some.inj same
    have id : t = row.id := Option.some.inj (targets.2.symm.trans parsed)
    obtain ⟨later, found, -, final, -⟩ := known
    obtain rfl := final settled
    exact .inl ⟨later, id ▸ found, settled, rfl⟩

end Calls

end Network
