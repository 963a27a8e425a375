import PaymentLedger.Hub.Atomicity
import PaymentLedger.Hub.Outcomes
import PaymentLedger.Hub.Settlements
import PaymentLedger.Shared.Serial

set_option autoImplicit false

-- A reply then finds what the replies before it have left, so it settles nothing twice.

namespace Hub

open Transactional SettlementsService

theorem alone_reply_settled {db : Database} (wellFormed : WellFormed db) {eventId : Nat}
    {event : SettlementReplyEvent} {row : SettlementRow} (member : row ∈ db.settlements)
    (targets : Targets event.settlementId row.id) (final : row.status ≠ .pending)
    {s : System service} (alone : Alone db (Call.reply eventId event) s) : s.db = db := by
  have shape : service.program (Call.reply eventId event) = _ :=
    (Prog.bind_assoc (SettlementRepository.findById event.settlementId) _ _).trans
      (Prog.bind_assoc (sql .pool (.selectSettlement event.settlementId)) _ _)
  refine alone.untouched shape (reads_sound (.selectSettlement event.settlementId) rfl) ?_
  intro effect ran
  obtain ⟨-, found⟩ := selectSettlement_ok (exec_eq_ok.mp ran)
  cases answer : effect.answer with
  | none => trivial
  | some other =>
    obtain ⟨text, named, parsed, present⟩ := found other answer
    obtain ⟨text', named', parsed'⟩ := targets
    obtain rfl := Option.some.inj (named.symm.trans named')
    obtain same := Option.some.inj (parsed.symm.trans parsed')
    rw [same, wellFormed.settlement_of_mem member] at present
    obtain rfl := Option.some.inj present
    have settled : row.toRecord.status ≠ .pending := final
    simp only [Option.map_some, Prog.pure_eq, Prog.done_bind, if_pos settled]
    trivial

theorem Commit.spoken {locks : List (Lock Resource)} {db db' : Database} {eventId : Nat}
    {event : SettlementReplyEvent} (commit : Commit (.reply eventId event) locks db db') :
    event.confirms ∨ event.Printable := by
  cases commit with
  | confirmed row _ _ targets confirms => exact .inl confirms
  | reversed row _ _ targets refuses pending known statusLock newEvent eventLock printable =>
    exact .inr printable

structure Timely (scope : Scope service) (event : SettlementReplyEvent)
    (status : SettlementStatus) : Prop where
  pending : status = .pending
  spoken : event.confirms ∨ event.Printable
  started : ∃ eventId, scope.starts (Call.reply eventId event)

theorem Serial.lives {scope : Scope service} (fresh : scope.initial = migrated)
    {db : service.Database} (serial : Serial scope db) : WellFormed db ∧
    Lives (fun _ event status => Timely scope event status) db := by
  induction serial with
  | init =>
    rw [fresh]
    exact ⟨wellFormed_migrated, by rintro row ⟨⟩⟩
  | @call db call s _ starts alone ih =>
    obtain ⟨wellFormed, lives⟩ := ih
    by_cases same : s.db = db
    · rw [same]
      exact ⟨wellFormed, lives⟩
    have holds : (contract anyRun).Verified := verified rfl
    have changed := alone.change holds single_program wellFormed trivial fun _ _ => trivial
    obtain ⟨locks, commit⟩ := changed.resolve_left same
    refine ⟨Commit.wellFormed wellFormed commit, Commit.lives wellFormed commit ?_ lives⟩
    rintro eventId event rfl row member targets
    refine ⟨?_, commit.spoken, eventId, starts⟩
    by_contra final
    exact same (alone_reply_settled wellFormed member targets final alone)

theorem alone_getSettlement {db : Database} (wellFormed : WellFormed db) {row : SettlementRow}
    (member : row ∈ db.settlements) :
    service.alone (Call.getSettlement row.id.text) db =
      some (.ok (Response.settlement row.toRecord), db) := by
  have selected := selectSettlement_read db (Uuid.parse_text row.id)
  rw [wellFormed.settlement_of_mem member] at selected
  have found : (getSettlement row.id.text).evaluate none db =
      some ⟨.ok row.toRecord, none, db⟩ := by
    simp only [getSettlement, SettlementRepository.findById, Prog.bind_eq, Prog.bind_assoc]
    exact (evaluate_read selected rfl).trans rfl
  have answered : (service.program (Call.getSettlement row.id.text)).evaluate none db =
      some ⟨.ok _, none, db⟩ :=
    (Prog.evaluate_bind_ok found).trans rfl
  exact congrArg (Option.map fun finish => (finish.result, finish.db)) answered

def announcesOutcome (event : Outbox.Row) : Bool := decide (event.eventType = "settlement.outcome")

def SettlementsService.SettlementReplyEvent.OutcomePrintable
    (event : SettlementReplyEvent) : Prop :=
  Json.allPrintable [event.outcome] = true

structure SettlementRow.Announced (row : SettlementRow) (status : SettlementStatus)
    (event : Outbox.Row) : Prop where
  settlementId : Json.get event.payload "settlementId" = some (.str row.id.text)
  outcome : Json.get event.payload "outcome" = some (.str "CONFIRMED") ↔ status = .confirmed
  printable : status = .confirmed ∨
    Json.allPrintable [Json.get event.payload "outcome", Json.get event.payload "reason"] = true

theorem outcomeRow_announces {eventId : Nat} {event : SettlementReplyEvent} {row : SettlementRow}
    {status : SettlementStatus} (settled : event.confirms ↔ status = .confirmed)
    (spoken : event.confirms ∨ event.Printable) (outcome : event.OutcomePrintable) :
    row.Announced status (outcomeRow eventId event row) := by
  have copied : Json.get (outcomeRow eventId event row).payload "outcome" = event.outcome ∧
      Json.get (outcomeRow eventId event row).payload "reason" = event.reason := by
    cases carried : event.outcome <;> cases reason : event.reason <;>
      simp [outcomeRow, outcomePayload, field, Json.get, carried, reason]
  refine ⟨rfl, ?_, ?_⟩
  · rw [copied.1]
    exact settled
  · rw [copied.1, copied.2]
    refine spoken.imp settled.mp fun reason => ?_
    simp only [SettlementReplyEvent.OutcomePrintable, SettlementReplyEvent.Printable,
      Json.allPrintable, List.all_cons, List.all_nil, Bool.and_true] at outcome reason ⊢
    rw [outcome, reason]
    rfl

theorem Life.announced {scope : Scope service}
    (spoken : ∀ eventId event, scope.starts (Call.reply eventId event) → event.OutcomePrintable)
    {row : SettlementRow} {status : SettlementStatus} {entries : List LedgerEntryRow}
    {events : List Outbox.Row}
    (life : Life (fun event status => Timely scope event status) row status entries events) :
    (status = .pending → events.filter announcesOutcome = []) ∧
      (status ≠ .pending → ∃ event, events.filter announcesOutcome = [event] ∧
        row.Announced status event) := by
  induction life with
  | rejected eventId =>
    have announced : row.Announced .rejected (rejectedRow eventId row) :=
      ⟨rfl, by simp [rejectedRow, rejectedPayload, Json.get], .inr rfl⟩
    exact ⟨fun pending => absurd pending (by decide), fun _ => ⟨_, rfl, announced⟩⟩
  | opened eventId settlementId spelled => exact ⟨fun _ => rfl, fun final => absurd rfl final⟩
  | confirmed eventId event before live confirms timely ih =>
    obtain ⟨rfl, told, number, starts⟩ := timely
    have announced : row.Announced .confirmed (outcomeRow eventId event row) :=
      outcomeRow_announces (iff_of_true confirms rfl) told (spoken number event starts)
    refine ⟨fun pending => absurd pending (by decide), fun _ => ⟨_, ?_, announced⟩⟩
    rw [List.filter_append, ih.1 rfl]
    rfl
  | reversed eventId event before live refuses timely ih =>
    obtain ⟨rfl, told, number, starts⟩ := timely
    have announced : row.Announced .reversed (outcomeRow eventId event row) :=
      outcomeRow_announces (iff_of_false refuses (by decide)) told (spoken number event starts)
    refine ⟨fun pending => absurd pending (by decide), fun _ => ⟨_, ?_, announced⟩⟩
    rw [List.filter_append, ih.1 rfl]
    rfl

section Whole

/-- Everything that a request or a reply writes, if it writes. A rejected settlement moves no
money. -/
inductive Whole : Call → Database → Database → Prop where
  | rejected {db} (row : SettlementRow) (eventId : Nat) (event : SettlementRequestedEvent)
      (target : Targets event.settlementId row.id) (requested : row.Requested event)
      (status : row.status = .rejected) :
      Whole (.requested eventId event) db
        { db with settlements := db.settlements ++ [row],
                  outboxEvents := db.outboxEvents ++ [rejectedRow eventId row] }
  | opened {db} (row : SettlementRow) (eventId : Nat) (event : SettlementRequestedEvent)
      (settlementId : String) (spelled : event.settlementId = some settlementId)
      (target : Uuid.parse settlementId = some row.id)
      (requested : row.Requested event) (status : row.status = .pending) :
      Whole (.requested eventId event) db
        { db with settlements := db.settlements ++ [row],
                  ledgerEntries := db.ledgerEntries ++ row.entries
                  outboxEvents := db.outboxEvents ++ [notifyRow eventId settlementId row] }
  | confirmed {db} (row : SettlementRow) (eventId : Nat) (event : SettlementReplyEvent)
      (target : Targets event.settlementId row.id) (confirms : event.confirms)
      (present : db.settlement row.id = some row) (pending : row.status = .pending) :
      Whole (.reply eventId event) db
        { db with settlements := setStatus db.settlements row.id .confirmed none
                  outboxEvents := db.outboxEvents ++ [outcomeRow eventId event row] }
  | reversed {db} (row : SettlementRow) (eventId : Nat) (event : SettlementReplyEvent)
      (target : Targets event.settlementId row.id) (refuses : ¬ event.confirms)
      (present : db.settlement row.id = some row) (pending : row.status = .pending) :
      Whole (.reply eventId event) db
        { db with settlements := setStatus db.settlements row.id .reversed (some (reasonText event))
                  ledgerEntries := db.ledgerEntries ++ row.reversalEntries
                  outboxEvents := db.outboxEvents ++ [outcomeRow eventId event row] }

variable {db : Database} {eventId : Nat} {s : System service}

theorem written_of_core {row later : SettlementRow} (core : later.core = row.core) (eventId : Nat)
    (event : SettlementReplyEvent) :
    outcomeRow eventId event row = outcomeRow eventId event later ∧
    row.reversalEntries = later.reversalEntries := by
  have same : outcomeRow eventId event row.core = outcomeRow eventId event later.core ∧
      row.core.reversalEntries = later.core.reversalEntries := by
    rw [core]
    exact ⟨rfl, rfl⟩
  exact same

/-- Alone, a reply that changes anything finds its settlement PENDING. -/
theorem alone_reply_pending (wellFormed : WellFormed db) {event : SettlementReplyEvent}
    {row : SettlementRow} (targets : Targets event.settlementId row.id) (known : db.Known row)
    (alone : Alone db (Call.reply eventId event) s)
    (changed : s.db ≠ db) : ∃ later, db.settlement row.id = some later ∧ later.core = row.core ∧
      later.status = .pending := by
  obtain ⟨later, found, core, -⟩ := known
  refine ⟨later, found, core, ?_⟩
  by_contra final
  have id : later.id = row.id := id_of_settlement found
  exact changed (alone_reply_settled wellFormed (mem_of_settlement found) (id ▸ targets)
    final alone)

theorem requested_whole (wellFormed : WellFormed db) {event : SettlementRequestedEvent}
    (alone : Alone db (Call.requested eventId event) s) : s.db = db ∨
    Whole (.requested eventId event) db s.db := by
  have holds : (contract anyRun).Verified := verified rfl
  refine (alone.change holds single_program wellFormed trivial fun _ _ => trivial).imp_right ?_
  rintro ⟨locks, commit⟩
  generalize s.db = later at commit
  cases commit with
  | rejected row eventId event enters status newEvent eventLock =>
    exact .rejected row eventId event enters.target enters.requested status
  | opened row eventId event settlementId enters status payee spelled newEvent eventLock =>
    obtain ⟨text, same, parsed⟩ := enters.target
    obtain rfl := Option.some.inj (same.symm.trans spelled)
    exact .opened row eventId event text spelled parsed enters.requested status

theorem reply_whole (wellFormed : WellFormed db) {event : SettlementReplyEvent}
    (alone : Alone db (Call.reply eventId event) s) : s.db = db ∨
    Whole (.reply eventId event) db s.db := by
  have holds : (contract anyRun).Verified := verified rfl
  by_cases same : s.db = db
  · exact .inl same
  obtain ⟨locks, commit⟩ :=
    (alone.change holds single_program wellFormed trivial fun _ _ => trivial).resolve_left same
  refine .inr ?_
  have pending {row : SettlementRow} (targets : Targets event.settlementId row.id)
      (known : db.Known row) :=
    alone_reply_pending wellFormed targets known alone same
  generalize s.db = after at commit
  cases commit with
  | confirmed row eventId event targets confirms read known statusLock newEvent eventLock =>
    obtain ⟨later, found, core, status⟩ := pending targets known
    have id : later.id = row.id := id_of_settlement found
    have settles : db.settle row.id .confirmed none =
        { db with settlements := setStatus db.settlements row.id .confirmed none } := by
      rw [Database.settle, if_pos (by rw [found, Option.map_some, status])]
    rw [settles, (written_of_core core eventId event).1, ← id]
    exact .confirmed later eventId event (id ▸ targets) confirms (id ▸ found) status
  | reversed row eventId event targets refuses read known statusLock newEvent eventLock =>
    obtain ⟨later, found, core, status⟩ := pending targets known
    have id : later.id = row.id := id_of_settlement found
    have settles : (db.append row.reversalEntries).settle row.id .reversed
        (some (reasonText event)) =
        { db with settlements := setStatus db.settlements row.id .reversed (some (reasonText event))
                  ledgerEntries := db.ledgerEntries ++ row.reversalEntries } := by
      have there : ((db.append row.reversalEntries).settlement row.id).map SettlementRow.status =
          some .pending := by
        change (db.settlement row.id).map SettlementRow.status = some .pending
        rw [found, Option.map_some, status]
      rw [Database.settle, if_pos there]
      rfl
    rw [settles, (written_of_core core eventId event).1,
      (written_of_core core eventId event).2, ← id]
    exact .reversed later eventId event (id ▸ targets) refuses (id ▸ found) status

end Whole

end Hub
