import PaymentLedger.Hub.Operations
import PaymentLedger.Hub.Requests
import PaymentLedger.Hub.Verified

set_option autoImplicit false

-- What `handleReply` returns and leaves, undisturbed, for every reply that does not confirm.

namespace Hub

open Transactional Postgres SettlementsService

section Statements

variable {db : Database} {text : String} {id : Uuid}

theorem selectSettlement_read (db : Database) (parsed : Uuid.parse text = some id) :
    execute (.selectSettlement (some text)) db [] = .ok { answer := db.settlement id } := by
  simp only [execute, selectSettlement, bind_eq_ok, uuid_eq_ok]
  exact ⟨id, parsed, rfl⟩

theorem selectSettlement_unread (unread : Uuid.parse text = none) :
    execute (.selectSettlement (some text)) db [] = .error .invalidText := by
  simp only [execute, selectSettlement, uuid, unread]
  rfl

theorem updateStatus_reversed (db : Database) {row : SettlementRow} {reason : String}
    (nodup : (db.settlements.map SettlementRow.id).Nodup) (found : db.settlement row.id = some row)
    (pending : row.status = .pending) (stored : storable reason = true) :
    execute (.updateStatus row.id.text .reversed (some reason)) db [] =
      .ok { answer := (), writes := [.status row.id .reversed (some reason)],
            locks := [exclusive (.settlement row.id)] } := by
  have read : optionalText (some reason) = .ok (some reason) := by
    rw [optionalText, text_eq_ok.mpr ⟨stored, rfl⟩]
    rfl
  have guarded := (any_pending nodup row.id).mpr (by rw [found, Option.map_some, pending])
  simp only [execute, updateStatus, bind_eq_ok, uuid_eq_ok]
  refine ⟨row.id, Uuid.parse_text _, some reason, read, ?_⟩
  simp only [if_pos guarded, bind_eq_ok, require_eq_ok]
  exact ⟨(), fun _ _ _ _ => by simp [StatusReason], rfl⟩

theorem updateStatus_unstorable {reason : String} {status : SettlementStatus}
    (unstorable : storable reason = false) :
    execute (.updateStatus id.text status (some reason)) db [] = .error .invalidText := by
  have read : optionalText (some reason) = .error .invalidText := by
    simp only [optionalText, Postgres.text, unstorable]
    rfl
  have parsed : uuid id.text = .ok id := uuid_eq_ok.mpr (Uuid.parse_text id)
  simp only [execute, updateStatus, parsed, read]
  rfl

theorem insertEvent_unstorable {eventId : Nat} {eventType routingKey : String}
    {payload : Json.Object} (type : storable eventType = true) (key : storable routingKey = true)
    (fields : Outbox.storable payload = false) :
    execute (.insertEvent eventId (some id.text) eventType routingKey payload) db [] =
      .error .invalidText := by
  have parsed : uuid id.text = .ok id := uuid_eq_ok.mpr (Uuid.parse_text id)
  have types : Postgres.text eventType = .ok eventType := text_eq_ok.mpr ⟨type, rfl⟩
  have keys : Postgres.text routingKey = .ok routingKey := text_eq_ok.mpr ⟨key, rfl⟩
  have refused : Outbox.newRow eventId id.text eventType routingKey payload db.outboxEvents =
      .error .invalidText := by
    simp only [Outbox.newRow, parsed, types, keys, require, fields]
    rfl
  change (Outbox.newRow eventId id.text eventType routingKey payload db.outboxEvents >>= _) = _
  rw [refused]
  rfl

end Statements

section Rules

variable {α : Type} {db : Database} {now : Txn engine} {statement : Sql}
    {f : statement.Answer → Program α}
variable {error : PgError}

theorem evaluate_read_error (raised : execute statement db [] = .error error) :
    ((sql .pool statement).bind f).evaluate none db = some ⟨.error (.database error), none, db⟩ :=
  Prog.evaluate_lookup_error (exec_of_error raised)

end Rules

section Handler

variable {db : Database} {eventId : Nat} {event : SettlementReplyEvent}

/-- No settlement of this id is known, or the event has no id that the database reads. -/
def SettlementsService.SettlementReplyEvent.Unknown (event : SettlementReplyEvent)
    (db : Database) : Prop :=
  ∀ id, Targets event.settlementId id → db.settlement id = none

theorem evaluate_handleReply_unknown (unknown : event.Unknown db) :
    ∃ error, (handleReply eventId event).evaluate none db = some ⟨.error error, none, db⟩ := by
  obtain ⟨settlementId, outcome, reason⟩ := event
  simp only [handleReply, SettlementRepository.findById, Prog.bind_eq, Prog.bind_assoc]
  cases settlementId with
  | none =>
    have nothing : execute (.selectSettlement none) db [] = .ok { answer := none } := rfl
    exact ⟨_, (evaluate_read nothing rfl).trans rfl⟩
  | some text =>
    cases parsed : Uuid.parse text with
    | none => exact ⟨_, evaluate_read_error (selectSettlement_unread parsed)⟩
    | some id =>
      have selected := selectSettlement_read db parsed
      rw [unknown id ⟨text, rfl, parsed⟩] at selected
      exact ⟨_, (evaluate_read selected rfl).trans rfl⟩

variable {row : SettlementRow}

theorem evaluate_handleReply_settled (targets : Targets event.settlementId row.id)
    (found : db.settlement row.id = some row) (settled : row.status ≠ .pending) :
    (handleReply eventId event).evaluate none db = some ⟨.ok (), none, db⟩ := by
  obtain ⟨settlementId, outcome, reason⟩ := event
  obtain ⟨text, rfl, parsed⟩ := targets
  have selected := selectSettlement_read db parsed
  rw [found] at selected
  simp only [handleReply, SettlementRepository.findById, Prog.bind_eq, Prog.bind_assoc]
  refine (evaluate_read selected rfl).trans ?_
  have final : row.toRecord.status ≠ .pending := settled
  simp only [Prog.pure_eq, Prog.done_bind, Option.map_some, if_pos final]
  rfl

/-! ### A refusal of a pending settlement -/

namespace SettlementRow

def money (row : SettlementRow) (safe : row.amount.natAbs ≤ Double.maxSafeInteger) : Money :=
  ⟨row.amount, safe⟩

theorem fromCents_money (safe : row.amount.natAbs ≤ Double.maxSafeInteger) :
    Money.fromCents (some (.ofInt row.amount)) = .ok (row.money safe) := by
  have found : SafeInteger.ofDouble (.ofInt row.amount) = some (row.money safe) :=
    SafeInteger.ofDouble_ofInt_eq_some.mpr rfl
  simp [Money.fromCents, found]

structure Open (row : SettlementRow) (db : Database) : Prop where
  found : db.settlement row.id = some row
  pending : row.status = .pending
  stored : row.Stored
  checked : row.Checked
  payer : db.hasBank row.payerBankId
  payee : db.hasBank row.payeeBankId

theorem open_of_found {s : System service} {scope : Scope service}
    (fresh : scope.initial = migrated) (reachable : Reachable scope s) {row : SettlementRow}
    (found : Database.settlement s.db row.id = some row) (pending : row.status = .pending) :
    row.Open s.db := by
  have wellFormed : WellFormed s.db := (reachable.sound (verified fresh)).inv
  have member := mem_of_settlement found
  obtain ⟨payer, payee⟩ := wellFormed.parties row member
  exact ⟨found, pending, Reachable.stored fresh reachable row member,
    wellFormed.checked row member, payer,
    payee (by simp [pending])⟩

variable (opened : row.Open db)

def settlement : Settlement where
  id := some row.id.text
  payerBankId := some row.payerBankId
  payeeBankId := some row.payeeBankId
  payeeAccountRef := some row.payeeAccountRef
  amount := row.money (opened.stored.safe opened.pending)
  positive := opened.checked.2.2.1
  distinct := fun same => opened.checked.2.2.2.1 (Option.some.inj same)

theorem create_settlement :
    Settlement.create (some row.id.text) (some row.payerBankId) (some row.payeeBankId)
    (some row.payeeAccountRef) (row.money (opened.stored.safe opened.pending)) =
      .ok (settlement opened) := by
  have positive := (Money.isPositive_iff (row.money (opened.stored.safe opened.pending))).mpr
    opened.checked.2.2.1
  have distinct : some row.payerBankId ≠ some row.payeeBankId := (settlement opened).distinct
  rw [Settlement.create, dif_pos positive, dif_neg distinct]
  rfl

/-- The transaction of a reversal: after one entry, after both, after the status. -/
def crediting (row : SettlementRow) : Txn engine where
  writes := [.ledgerEntry ⟨row.id, row.payerBankId, row.amount⟩]
  locks := [keyShare row.payerBankId]

def reversing (row : SettlementRow) : Txn engine where
  writes := row.reversalEntries.map Write.ledgerEntry
  locks := [keyShare row.payerBankId, keyShare row.payeeBankId]

def reversed (row : SettlementRow) (reason : String) : Txn engine where
  writes := row.reversalEntries.map Write.ledgerEntry ++ [.status row.id .reversed (some reason)]
  locks := [keyShare row.payerBankId, keyShare row.payeeBankId, exclusive (.settlement row.id)]

theorem reversing_view : row.reversing.view db = db.append row.reversalEntries := append_writes _ db

theorem reversed_view (opened : row.Open db) (reason : String) :
    (row.reversed reason).view db =
      (db.append row.reversalEntries).settle row.id .reversed (some reason) := by
  have pending : ((db.append row.reversalEntries).settlement row.id).map SettlementRow.status =
      some .pending := by
    rw [append_settlement, opened.found, Option.map_some, opened.pending]
  rw [← settle_pending pending, ← append_writes]
  exact List.foldl_append

theorem evaluate_append : (LedgerRepository.append (settlement opened).reversalEntries).evaluate
    (some {}) db =
    some ⟨.ok (), some row.reversing, db⟩ := by
  have positive := opened.checked.2.2.1
  have moves : row.amount ≠ 0 ∧ -row.amount ≠ 0 := by omega
  have credited : execute
      (.insertEntry ⟨some row.id.text, some row.payerBankId,
        row.money (opened.stored.safe opened.pending)⟩)
      (Txn.view (E := engine) {} db) [] = .ok _ :=
      insertEntry_new row.id opened.stored.payer moves.1 opened.payer
  have debited : execute (.insertEntry ⟨some row.id.text, some row.payeeBankId,
      (row.money (opened.stored.safe opened.pending)).negated⟩) (row.crediting.view db) [] =
      .ok _ :=
    insertEntry_new row.id opened.stored.payee moves.2 opened.payee
  refine (evaluate_client rfl credited).trans ?_
  exact (evaluate_client rfl debited).trans rfl

end SettlementRow

/-- What a reply brings can be stored: neither NUL nor a lone surrogate in its outcome or
reason, and no NUL in the text of the reason. -/
def SettlementsService.SettlementReplyEvent.Storable (event : SettlementReplyEvent) : Prop :=
  storable (reasonText event) = true ∧
    Outbox.storable (field "outcome" event.outcome ++ field "reason" event.reason) = true

instance : Decidable event.Storable := by
  unfold SettlementReplyEvent.Storable
  infer_instance

theorem outcomePayload_storable {text : String} (stored : storable text = true) :
    Outbox.storable (outcomePayload text event) =
      Outbox.storable (field "outcome" event.outcome ++ field "reason" event.reason) := by
  have name : storable "settlementId" = true := by decide
  simp [outcomePayload, Outbox.storable, name, stored]

theorem evaluate_refusal (opened : row.Open db)
    (nodup : (db.settlements.map SettlementRow.id).Nodup)
    (stored : storable (reasonText event) = true) (rest : Unit → Program Unit) :
    (((LedgerRepository.append (SettlementRow.settlement opened).reversalEntries).bind fun _ =>
      (SettlementRepository.markReversed row.id.text (reasonText event) .client).bind
      rest)).evaluate (some {}) db =
      (rest ()).evaluate (some (row.reversed (reasonText event))) db := by
  have viewed : row.reversing.view db = db.append row.reversalEntries :=
    SettlementRow.reversing_view
  have marked : execute (.updateStatus row.id.text .reversed (some (reasonText event)))
      (row.reversing.view db) [] =
      .ok { answer := (), writes := [.status row.id .reversed (some (reasonText event))],
            locks := [exclusive (.settlement row.id)] } := by
    rw [viewed]
    exact updateStatus_reversed (db.append row.reversalEntries) nodup opened.found
      opened.pending stored
  refine (Prog.evaluate_bind_ok (SettlementRow.evaluate_append opened)).trans ?_
  exact (evaluate_client rfl marked).trans rfl

theorem evaluate_refusal_error (opened : row.Open db)
    (unstorable : storable (reasonText event) = false) (rest : Unit → Program Unit) :
    ∃ error after, (((LedgerRepository.append
      (SettlementRow.settlement opened).reversalEntries).bind fun _ =>
      (SettlementRepository.markReversed row.id.text (reasonText event) .client).bind
      rest)).evaluate (some {}) db =
      some ⟨.error error, after, db⟩ := by
  have refused : execute (.updateStatus row.id.text .reversed (some (reasonText event)))
      (row.reversing.view db) [] =
      .error .invalidText := updateStatus_unstorable unstorable
  exact ⟨_, _, (Prog.evaluate_bind_ok (SettlementRow.evaluate_append opened)).trans
    (evaluate_client_error rfl refused)⟩

theorem handleReply_refused (opened : row.Open db) (targets : Targets event.settlementId row.id)
    (refuses : ¬ event.confirms) (printable : event.Printable) :
    (handleReply eventId event).evaluate none db =
      (rollbackOnError ((perform .begin).bind fun _ =>
        (LedgerRepository.append (SettlementRow.settlement opened).reversalEntries).bind fun _ =>
          (SettlementRepository.markReversed row.id.text (reasonText event) .client).bind fun _ =>
            (sql .client (.insertEvent eventId (some row.id.text) "settlement.outcome"
              (settlementOutcomeRoutingKey (some row.payerBankId))
              (outcomePayload row.id.text event))).bind fun _ =>
                perform .commit)).evaluate none db := by
  obtain ⟨settlementId, outcome, reason⟩ := event
  obtain ⟨text, rfl, parsed⟩ := targets
  have selected := selectSettlement_read db parsed
  rw [opened.found] at selected
  simp only [handleReply, SettlementRepository.findById, Prog.bind_eq, Prog.bind_assoc]
  refine (evaluate_read selected rfl).trans ?_
  have underway : ¬ row.toRecord.status ≠ .pending := fun other => other opened.pending
  have other : ¬ outcome = some (.str "CONFIRMED") := refuses
  have money : fromDomain (Money.fromCents (some row.toRecord.amountCents)) =
      .done (.ok (row.money (opened.stored.safe opened.pending))) := by
    rw [SettlementRow.toRecord, SettlementRow.fromCents_money]
    rfl
  have domain : fromDomain (Settlement.create (some row.toRecord.id) (some row.toRecord.payerBankId)
      (some row.toRecord.payeeBankId) (some row.toRecord.payeeAccountRef)
      (row.money (opened.stored.safe opened.pending))) =
      .done (.ok (SettlementRow.settlement opened)) := by
    rw [SettlementRow.toRecord, SettlementRow.create_settlement]
    rfl
  have printed : Json.allPrintable [reason] = true := printable
  simp only [Prog.pure_eq, Prog.done_bind, Option.map_some, if_neg underway, if_neg other, warn,
    if_pos printed, money, domain]
  rfl

/-- Nothing is moved back if the log line cannot be written. -/
theorem evaluate_handleReply_unprintable (opened : row.Open db)
    (targets : Targets event.settlementId row.id) (refuses : ¬ event.confirms)
    (unprintable : ¬ event.Printable) :
    (handleReply eventId event).evaluate none db = some ⟨.error .typeError, none, db⟩ := by
  obtain ⟨settlementId, outcome, reason⟩ := event
  obtain ⟨text, rfl, parsed⟩ := targets
  have selected := selectSettlement_read db parsed
  rw [opened.found] at selected
  simp only [handleReply, SettlementRepository.findById, Prog.bind_eq, Prog.bind_assoc]
  refine (evaluate_read selected rfl).trans ?_
  have underway : ¬ row.toRecord.status ≠ .pending := fun other => other opened.pending
  have other : ¬ outcome = some (.str "CONFIRMED") := refuses
  have unprinted : ¬ Json.allPrintable [reason] = true := unprintable
  simp only [Prog.pure_eq, Prog.done_bind, Option.map_some, if_neg underway, if_neg other, warn,
    if_neg unprinted]
  rfl

theorem evaluate_handleReply_refused (opened : row.Open db)
    (nodup : (db.settlements.map SettlementRow.id).Nodup)
    (targets : Targets event.settlementId row.id) (refuses : ¬ event.confirms)
    (printable : event.Printable) (stored : event.Storable)
    (fresh : eventId ∉ db.outboxEvents.map Outbox.Row.id) :
    (handleReply eventId event).evaluate none db =
      some ⟨.ok (), none,
        ((db.append row.reversalEntries).settle row.id .reversed (some (reasonText event))).announce
        (outcomeRow eventId event row)⟩ := by
  have type : storable "settlement.outcome" = true := by decide
  have payload : Outbox.storable (outcomePayload row.id.text event) = true := by
    rw [outcomePayload_storable (storable_uuid row.id)]
    exact stored.2
  have viewed := SettlementRow.reversed_view opened (reasonText event)
  have unused : eventId ∉ (Database.outboxEvents ((row.reversed (reasonText event)).view db)).map
      Outbox.Row.id := by
    rw [viewed, settle_outboxEvents]
    exact fresh
  have announced : execute (.insertEvent eventId (some row.id.text) "settlement.outcome"
      (settlementOutcomeRoutingKey (some row.payerBankId)) (outcomePayload row.id.text event))
      ((row.reversed (reasonText event)).view db) [] = .ok _ :=
    insertEvent_new row.id unused type (storable_outcomeRoutingKey opened.stored.payer) payload
  rw [handleReply_refused opened targets refuses printable, ← viewed]
  refine Prog.evaluate_tryCatch_ok ?_
  refine (evaluate_refusal opened nodup stored.1 _).trans ?_
  exact (Prog.evaluate_client_commit rfl (exec_eq_ok.mpr announced)).trans rfl

theorem evaluate_handleReply_unstorable (opened : row.Open db)
    (nodup : (db.settlements.map SettlementRow.id).Nodup)
    (targets : Targets event.settlementId row.id) (refuses : ¬ event.confirms)
    (printable : event.Printable) (unstorable : ¬ event.Storable) :
    ∃ error, (handleReply eventId event).evaluate none db = some ⟨.error error, none, db⟩ := by
  rw [handleReply_refused opened targets refuses printable]
  cases reason : storable (reasonText event) with
  | false =>
    obtain ⟨error, after, raised⟩ := evaluate_refusal_error opened reason _
    exact ⟨error, evaluate_rollbackOnError_error raised⟩
  | true =>
    have type : storable "settlement.outcome" = true := by decide
    have payload : Outbox.storable (outcomePayload row.id.text event) = false := by
      rw [outcomePayload_storable (storable_uuid row.id)]
      by_contra stored
      exact unstorable ⟨reason, by simpa using stored⟩
    have refused : execute (.insertEvent eventId (some row.id.text) "settlement.outcome"
        (settlementOutcomeRoutingKey (some row.payerBankId)) (outcomePayload row.id.text event))
        ((row.reversed (reasonText event)).view db) [] = .error .invalidText :=
      insertEvent_unstorable type (storable_outcomeRoutingKey opened.stored.payer) payload
    exact ⟨_, evaluate_rollbackOnError_error
      ((evaluate_refusal opened nodup reason _).trans (evaluate_client_error rfl refused))⟩

/-! ### Which outcomes are safe -/

def SettlementsService.SettlementReplyEvent.Recognised (event : SettlementReplyEvent) : Prop :=
  event.outcome = some (.str "CONFIRMED") ∨ event.outcome = some (.str "REVERSED")

/-- On every other outcome the handler throws and leaves every table as it was. -/
def SettlementsService.SettlementReplyEvent.Cautious (event : SettlementReplyEvent) (eventId : Nat)
    (db : Database) : Prop :=
  event.Recognised ∨
    ∃ error, (handleReply eventId event).evaluate none db = some ⟨.error error, none, db⟩

/-- The handler throws anyway: the settlement is not known, or it is pending and the reply
cannot be printed or stored. -/
def SettlementsService.SettlementReplyEvent.Harmless (event : SettlementReplyEvent)
    (db : Database) : Prop :=
  ∀ row, Targets event.settlementId row.id → db.settlement row.id = some row →
    row.status = .pending ∧ ¬ (event.Printable ∧ event.Storable)

theorem cautious_iff {s : System service} {scope : Scope service} (fresh : scope.initial = migrated)
    (reachable : Reachable scope s)
    (new : eventId ∉ (Database.outboxEvents s.db).map Outbox.Row.id) :
    event.Cautious eventId s.db ↔ event.Recognised ∨ event.Harmless s.db := by
  have wellFormed : WellFormed s.db := (reachable.sound (verified fresh)).inv
  refine or_congr_right' fun unrecognised => ?_
  have refuses : ¬ event.confirms := fun confirms => unrecognised (.inl confirms)
  constructor
  · rintro ⟨error, raised⟩ row targets found
    by_cases pending : row.status = .pending
    · refine ⟨pending, fun ⟨printable, stored⟩ => ?_⟩
      have opened := SettlementRow.open_of_found fresh reachable found pending
      have returned := evaluate_handleReply_refused opened wellFormed.ids targets refuses printable
        stored new
      cases returned.symm.trans raised
    · cases (evaluate_handleReply_settled targets found pending).symm.trans raised
  · intro harmless
    by_cases unknown : event.Unknown s.db
    · exact evaluate_handleReply_unknown unknown
    · obtain ⟨id, targets, known⟩ : ∃ id, Targets event.settlementId id ∧
          Database.settlement s.db id ≠ none := by
        simpa [SettlementReplyEvent.Unknown] using unknown
      obtain ⟨row, found⟩ := Option.ne_none_iff_exists'.mp known
      obtain rfl := id_of_settlement found
      obtain ⟨pending, defective⟩ := harmless row targets found
      have opened := SettlementRow.open_of_found fresh reachable found pending
      by_cases printable : event.Printable
      · have unstorable : ¬ event.Storable := fun stored => defective ⟨printable, stored⟩
        exact evaluate_handleReply_unstorable opened wellFormed.ids targets refuses printable
          unstorable
      · exact ⟨_, evaluate_handleReply_unprintable opened targets refuses printable⟩

end Handler

end Hub
