import PaymentLedger.Hub.Lookups
import PaymentLedger.Hub.Outcomes
import PaymentLedger.Hub.Relay
import PaymentLedger.Shared.Receipts

set_option autoImplicit false

-- A PENDING settlement has a notification in the outbox, and the first reply that can be stored
-- ends it.

namespace Hub

open Transactional Postgres SettlementsService

section Reply

variable {db : Database} {eventId : Nat} {event : SettlementReplyEvent} {row : SettlementRow}

theorem updateStatus_confirmed (opened : row.Open db)
    (nodup : (db.settlements.map SettlementRow.id).Nodup) :
    execute (.updateStatus row.id.text .confirmed none) db [] =
      .ok { answer := (), writes := [.status row.id .confirmed none],
            locks := [exclusive (.settlement row.id)] } := by
  have guarded := (any_pending nodup row.id).mpr
    (by rw [opened.found, Option.map_some, opened.pending])
  have allowed : ∀ other ∈ db.settlements, other.id = row.id → other.status = .pending →
      StatusReason .confirmed ((none : Option String).or other.rejectReason) := by
    intro other member same _
    obtain rfl := List.inj_on_of_nodup_map nodup member (mem_of_settlement opened.found) same
    have reason : StatusReason other.status other.rejectReason := opened.checked.2.2.2.2
    rw [opened.pending] at reason
    simpa [StatusReason] using reason
  simp only [execute, updateStatus, bind_eq_ok, uuid_eq_ok]
  refine ⟨row.id, Uuid.parse_text _, none, rfl, ?_⟩
  simp only [if_pos guarded, bind_eq_ok, require_eq_ok]
  exact ⟨(), allowed, rfl⟩

theorem evaluate_handleReply_confirmed (opened : row.Open db)
    (nodup : (db.settlements.map SettlementRow.id).Nodup)
    (targets : Targets event.settlementId row.id) (confirms : event.confirms)
    (stored : event.Storable) (fresh : eventId ∉ db.outboxEvents.map Outbox.Row.id) :
    (handleReply eventId event).evaluate none db =
      some ⟨.ok (), none,
        (db.settle row.id .confirmed none).announce (outcomeRow eventId event row)⟩ := by
  obtain ⟨settlementId, outcome, reason⟩ := event
  obtain ⟨text, rfl, parsed⟩ := targets
  have selected := selectSettlement_read db parsed
  rw [opened.found] at selected
  have marked : execute (.updateStatus row.id.text .confirmed none) (Txn.view (E := engine) {} db)
      [] = .ok _ :=
    updateStatus_confirmed opened nodup
  let confirming : Txn engine :=
    { writes := [.status row.id .confirmed none], locks := [exclusive (.settlement row.id)] }
  have viewed : confirming.view db = db.settle row.id .confirmed none :=
    settle_pending (by rw [opened.found, Option.map_some, opened.pending])
  have type : storable "settlement.outcome" = true := by decide
  have payload : Outbox.storable (outcomePayload row.id.text ⟨some text, outcome, reason⟩) =
      true := by
    rw [outcomePayload_storable (storable_uuid row.id)]
    exact stored.2
  have unused : eventId ∉ (Database.outboxEvents (confirming.view db)).map Outbox.Row.id := by
    rw [viewed, settle_outboxEvents]
    exact fresh
  have announced : execute (.insertEvent eventId (some row.id.text) "settlement.outcome"
      (settlementOutcomeRoutingKey (some row.payerBankId))
      (outcomePayload row.id.text ⟨some text, outcome, reason⟩))
      (confirming.view db) [] = .ok _ :=
    insertEvent_new row.id unused type (storable_outcomeRoutingKey opened.stored.payer) payload
  have underway : ¬ row.toRecord.status ≠ .pending := fun other => other opened.pending
  have confirmed : outcome = some (.str "CONFIRMED") := confirms
  simp only [handleReply, SettlementRepository.findById, Prog.bind_eq, Prog.bind_assoc]
  refine (evaluate_read selected rfl).trans ?_
  simp only [Prog.pure_eq, Prog.done_bind, Option.map_some, if_neg underway, if_pos confirmed]
  rw [← viewed]
  refine Prog.evaluate_tryCatch_ok ?_
  rw [evaluate_begin]
  refine (evaluate_client rfl marked).trans ?_
  exact (Prog.evaluate_client_commit rfl (exec_eq_ok.mpr announced)).trans rfl

instance : Decidable event.confirms :=
  inferInstanceAs (Decidable (event.outcome = some (.str "CONFIRMED")))

def SettlementsService.SettlementReplyEvent.decides (event : SettlementReplyEvent) :
    SettlementStatus :=
  if event.confirms then .confirmed else .reversed

theorem evaluate_reply (opened : row.Open db) (nodup : (db.settlements.map SettlementRow.id).Nodup)
    (targets : Targets event.settlementId row.id) (printable : event.Printable)
    (stored : event.Storable) (fresh : eventId ∉ db.outboxEvents.map Outbox.Row.id) :
    ∃ later : Database, (service.program (Call.reply eventId event)).evaluate none db =
        some ⟨.ok Response.handled, none, later⟩ ∧
      ∃ settled, later.settlement row.id = some settled ∧ settled.status = event.decides := by
  have ends (status : SettlementStatus) (reason : Option String) (db' : Database)
      (same : db'.settlement row.id = db.settlement row.id) :
      ∃ settled, (db'.settle row.id status reason).settlement row.id = some settled ∧
      settled.status = status := by
    rw [settlement_settle, same, opened.found, Option.map_some, if_pos ⟨rfl, opened.pending⟩]
    exact ⟨_, rfl, rfl⟩
  by_cases confirms : event.confirms
  · have handled := evaluate_handleReply_confirmed opened nodup targets confirms stored fresh
    refine ⟨_, (Prog.evaluate_bind_ok handled).trans rfl, ?_⟩
    rw [announce_settlement, SettlementReplyEvent.decides, if_pos confirms]
    exact ends .confirmed none db rfl
  · have handled := evaluate_handleReply_refused opened nodup targets confirms printable
      stored fresh
    refine ⟨_, (Prog.evaluate_bind_ok handled).trans rfl, ?_⟩
    rw [announce_settlement, SettlementReplyEvent.decides, if_neg confirms]
    exact ends .reversed _ _ (append_settlement _ _ _)

end Reply

theorem evaluate_getSettlement {db : Database} {row : SettlementRow}
    (found : db.settlement row.id = some row) :
    (service.program (Call.getSettlement row.id.text)).evaluate none db =
      some ⟨.ok (Response.settlement row.toRecord), none, db⟩ := by
  have selected := selectSettlement_read db (Uuid.parse_text row.id)
  rw [found] at selected
  have read : (getSettlement row.id.text).evaluate none db = some ⟨.ok row.toRecord, none, db⟩ := by
    simp only [getSettlement, SettlementRepository.findById, Prog.bind_eq, Prog.bind_assoc]
    exact (evaluate_read selected rfl).trans rfl
  exact (Prog.evaluate_bind_ok read).trans rfl

section Notification

variable {admits : SettlementReplyEvent → SettlementStatus → Prop} {row : SettlementRow}
    {status : SettlementStatus}
variable {entries : List LedgerEntryRow} {events : List Outbox.Row}

theorem SettlementStatus.settle_live {before next : SettlementStatus} (live : before ≠ .rejected)
    (other : next ≠ .rejected) : before.settle next ≠ .rejected := by
  unfold SettlementStatus.settle
  split <;> assumption

theorem Life.notifies (life : Life admits row status entries events) (live : status ≠ .rejected) :
    ∃ eventId text, Uuid.parse text = some row.id ∧ notifyRow eventId text row ∈ events := by
  induction life with
  | rejected => exact absurd rfl live
  | opened eventId settlementId spelled =>
    exact ⟨eventId, settlementId, spelled, List.mem_singleton_self _⟩
  | confirmed eventId event before alive confirms admitted ih
  | reversed eventId event before alive refuses admitted ih =>
    obtain ⟨first, text, spelled, member⟩ := ih alive
    exact ⟨first, text, spelled, List.mem_append_left _ member⟩

variable {s : System service}

theorem Reachable.notified (reachable : Reachable anyRun s) {row : SettlementRow}
    (member : row ∈ Database.settlements s.db) (live : row.status ≠ .rejected) :
    ∃ event ∈ Database.outboxEvents s.db,
    event.message.routingKey = settlementNotifyRoutingKey (some row.payeeBankId) ∧
      ∃ text : String, Json.get event.message.payload "settlementId" = some (.str text) ∧
        Uuid.parse text = some row.id := by
  have lives : Lives (fun _ _ _ => True) s.db :=
    Reachable.lives rfl reachable fun _ _ _ _ _ _ _ _ _ => trivial
  have life : Life (fun _ _ => True) row.core row.status (Database.entriesOf s.db row.id)
      (Database.eventsOf s.db row.id) :=
    lives row member
  obtain ⟨eventId, text, spelled, listed⟩ := life.notifies live
  obtain ⟨event, there, same⟩ := List.mem_map.mp listed
  have message : ({ event with published := false } : Outbox.Row).message =
      (notifyRow eventId text row.core).message :=
    congrArg Outbox.Row.message same
  have message : event.message = (notifyRow eventId text row.core).message := message
  refine ⟨event, (List.mem_filter.mp there).1, ?_, text, ?_, spelled⟩
  · rw [message]
    rfl
  · rw [message]
    rfl

def Routable (bankId : String) : Prop := bankId.utf8ByteSize ≤ 236

instance (bankId : String) : Decidable (Routable bankId) := inferInstanceAs (Decidable (_ ≤ _))

theorem publishable_of_routable {bankId : String} (routable : Routable bankId)
    {message : Outbox.Message}
    (key : message.routingKey = settlementNotifyRoutingKey (some bankId) ∨
      message.routingKey = settlementOutcomeRoutingKey (some bankId)) : Outbox.publishable message =
      true := by
  have prefixes : "settlement.notify.".utf8ByteSize = 18 ∧
      "settlement.outcome.".utf8ByteSize = 19 := by decide
  have fits : bankId.utf8ByteSize ≤ 236 := routable
  rw [Outbox.publishable, decide_eq_true_eq]
  rcases key with key | key <;> rw [key]
  · change ("settlement.notify." ++ bankId).utf8ByteSize ≤ 255
    rw [String.utf8ByteSize_append]
    omega
  · change ("settlement.outcome." ++ bankId).utf8ByteSize ≤ 255
    rw [String.utf8ByteSize_append]
    omega

theorem Life.addressed (life : Life admits row status entries events) : ∀ event ∈ events,
    event.message.routingKey = settlementOutcomeRoutingKey (some row.payerBankId) ∨
      event.message.routingKey = settlementNotifyRoutingKey (some row.payeeBankId) ∧
      status ≠ .rejected := by
  have more {before next : SettlementStatus} {events : List Outbox.Row} {eventId : Nat}
      {event : SettlementReplyEvent} (live : before ≠ .rejected) (other : next ≠ .rejected)
      (ih : ∀ event ∈ events,
        event.message.routingKey = settlementOutcomeRoutingKey (some row.payerBankId) ∨
        event.message.routingKey = settlementNotifyRoutingKey (some row.payeeBankId) ∧
        before ≠ .rejected) :
      ∀ other ∈ events ++ [outcomeRow eventId event row],
        other.message.routingKey = settlementOutcomeRoutingKey (some row.payerBankId) ∨
          other.message.routingKey = settlementNotifyRoutingKey (some row.payeeBankId) ∧
          before.settle next ≠ .rejected := by
    intro event member
    rcases List.mem_append.mp member with old | new
    · exact (ih event old).imp_right fun notifies =>
        ⟨notifies.1, SettlementStatus.settle_live live other⟩
    · rw [List.mem_singleton.mp new]
      exact .inl rfl
  induction life with
  | rejected eventId =>
    intro event member
    rw [List.mem_singleton.mp member]
    exact .inl rfl
  | opened eventId settlementId spelled =>
    intro event member
    rw [List.mem_singleton.mp member]
    exact .inr ⟨rfl, by decide⟩
  | confirmed eventId event before live confirms admitted ih => exact more live (by decide) ih
  | reversed eventId event before live refuses admitted ih => exact more live (by decide) ih

/-- The Hub can publish all it has to say if every registered bank's keys can be published. -/
theorem Reachable.publishable (reachable : Reachable anyRun s)
    (routable : ∀ bank ∈ Database.banks s.db, Routable bank.id) {event : Outbox.Row}
    (member : event ∈ Database.outboxEvents s.db) : Outbox.publishable event.message = true := by
  have wellFormed : WellFormed s.db := (reachable.sound (verified rfl)).inv
  obtain ⟨row, found⟩ := Option.isSome_iff_exists.mp (wellFormed.announced event member)
  have id := id_of_settlement found
  have there := mem_of_settlement found
  obtain ⟨payer, payee⟩ := wellFormed.parties row there
  have lives : Lives (fun _ _ _ => True) s.db :=
    Reachable.lives rfl reachable fun _ _ _ _ _ _ _ _ _ => trivial
  have life : Life (fun _ _ => True) row.core row.status (Database.entriesOf s.db row.id)
      (Database.eventsOf s.db row.id) :=
    lives row there
  have listed : { event with published := false } ∈ Database.eventsOf s.db row.id :=
    List.mem_map_of_mem (List.mem_filter.mpr ⟨member, by simp [id]⟩)
  have known {bankId : String} (registered : Database.hasBank s.db bankId) : Routable bankId := by
    obtain ⟨bank, here, rfl⟩ := List.mem_map.mp registered
    exact routable bank here
  rcases life.addressed _ listed with outcome | ⟨notify, live⟩
  · exact publishable_of_routable (known payer) (.inr outcome)
  · exact publishable_of_routable (known (payee live)) (.inl notify)

end Notification

end Hub
