import PaymentLedger.Hub.Verified

set_option autoImplicit false

-- A settlement is entered once, and then replies settle it. What the ledger and the
-- outbox hold about it is a function of this history, so it is read off by induction on it.

namespace Hub

open Transactional SettlementsService

namespace Database

variable (db : Database) (id : Uuid)

def entriesOf : List LedgerEntryRow := db.ledgerEntries.filter fun entry => entry.settlementId = id

-- Whether the relay has published a row yet does not matter here.
def eventsOf : List Outbox.Row :=
  (db.outboxEvents.filter fun event => event.aggregateId = id).map fun event =>
    { event with published := false }

end Database

/-- `admits event status`: a reply may commit while the settlement has this status. -/
inductive Life (admits : SettlementReplyEvent → SettlementStatus → Prop) (row : SettlementRow) :
    SettlementStatus → List LedgerEntryRow → List Outbox.Row → Prop where
  | rejected (eventId : Nat) : Life admits row .rejected [] [rejectedRow eventId row]
  | opened (eventId : Nat) (settlementId : String)
      (spelled : Uuid.parse settlementId = some row.id) :
      Life admits row .pending row.entries [notifyRow eventId settlementId row]
  | confirmed {status entries events} (eventId : Nat) (event : SettlementReplyEvent)
      (before : Life admits row status entries events) (live : status ≠ .rejected)
      (confirms : event.confirms) (admitted : admits event status) :
      Life admits row (status.settle .confirmed) entries (events ++ [outcomeRow eventId event row])
  | reversed {status entries events} (eventId : Nat) (event : SettlementReplyEvent)
      (before : Life admits row status entries events) (live : status ≠ .rejected)
      (refuses : ¬ event.confirms) (admitted : admits event status) :
      Life admits row (status.settle .reversed) (entries ++ row.reversalEntries)
        (events ++ [outcomeRow eventId event row])

def Lives (admits : Uuid → SettlementReplyEvent → SettlementStatus → Prop) (db : Database) : Prop :=
  ∀ row ∈ db.settlements,
    Life (admits row.id) row.core row.status (db.entriesOf row.id) (db.eventsOf row.id)

section Views

variable (db : Database) (id : Uuid)

theorem entriesOf_append (entries : List LedgerEntryRow) : (db.append entries).entriesOf id =
    db.entriesOf id ++ entries.filter fun entry => entry.settlementId = id := by
  simp [Database.entriesOf, Database.append]

@[simp] theorem entriesOf_announce (event : Outbox.Row) :
    (db.announce event).entriesOf id = db.entriesOf id := rfl

@[simp] theorem entriesOf_enter (row : SettlementRow) :
    (db.enter row).entriesOf id = db.entriesOf id := rfl

@[simp] theorem entriesOf_settle (target : Uuid) (status : SettlementStatus)
    (rejectReason : Option String) :
    (db.settle target status rejectReason).entriesOf id = db.entriesOf id := by
  simp [Database.entriesOf]

@[simp] theorem eventsOf_append (entries : List LedgerEntryRow) :
    (db.append entries).eventsOf id = db.eventsOf id := rfl

@[simp] theorem eventsOf_enter (row : SettlementRow) :
    (db.enter row).eventsOf id = db.eventsOf id := rfl

@[simp] theorem eventsOf_settle (target : Uuid) (status : SettlementStatus)
    (rejectReason : Option String) :
    (db.settle target status rejectReason).eventsOf id = db.eventsOf id := by
  simp [Database.eventsOf]

theorem eventsOf_announce (event : Outbox.Row) (fresh : event.published = false) :
    (db.announce event).eventsOf id = db.eventsOf id ++
      if event.aggregateId = id then [event] else [] := by
  have same : { event with published := false } = event := by rw [← fresh]
  simp only [Database.eventsOf, Database.announce, List.filter_append, List.map_append]
  by_cases target : event.aggregateId = id
  · rw [if_pos target, List.filter_cons_of_pos (by simpa using target), List.filter_nil,
      List.map_cons, same, List.map_nil]
  · rw [if_neg target, List.filter_cons_of_neg (by simpa using target), List.filter_nil,
      List.map_nil]

theorem eventsOf_publish {rows : List Outbox.Row} (same : Outbox.SameEvents db.outboxEvents rows) :
    Database.eventsOf { db with outboxEvents := rows } id = db.eventsOf id := by
  have through (rows : List Outbox.Row) :
      ((rows.filter fun event => event.aggregateId = id).map fun event =>
        { event with published := false }) =
        (rows.map fun event => { event with published := false }).filter fun event =>
        event.aggregateId = id := by
    rw [List.filter_map]
    rfl
  simp only [Database.eventsOf, through]
  rw [same]

theorem filter_entries {row : SettlementRow} {entries : List LedgerEntryRow}
    (own : ∀ entry ∈ entries, entry.settlementId = row.id) :
    (entries.filter fun entry => entry.settlementId = id) =
      if id = row.id then entries else [] := by
  by_cases same : id = row.id
  · rw [if_pos same, List.filter_eq_self]
    intro entry member
    simp [own entry member, same]
  · rw [if_neg same, List.filter_eq_nil_iff]
    intro entry member
    simp [own entry member, Ne.symm same]

theorem WellFormed.entriesOf_new {db : Database} (wellFormed : WellFormed db) {id : Uuid}
    (new : db.settlement id = none) : db.entriesOf id = [] := by
  rw [Database.entriesOf, List.filter_eq_nil_iff]
  intro entry member same
  have present := (wellFormed.entries entry member).1
  simp_all

theorem WellFormed.eventsOf_new {db : Database} (wellFormed : WellFormed db) {id : Uuid}
    (new : db.settlement id = none) : db.eventsOf id = [] := by
  rw [Database.eventsOf, List.map_eq_nil_iff, List.filter_eq_nil_iff]
  intro event member same
  have present := wellFormed.announced event member
  simp_all

theorem WellFormed.before_settle {db : Database} (wellFormed : WellFormed db) {id : Uuid}
    {status : SettlementStatus} {rejectReason : Option String} {row : SettlementRow}
    (member : row ∈ (db.settle id status rejectReason).settlements) :
    ∃ before ∈ db.settlements, row.core = before.core ∧ row.id = before.id ∧
      row.status = if before.id = id then before.status.settle status else before.status := by
  unfold Database.settle at member
  split at member
  · rename_i pending
    obtain ⟨before, present, rfl⟩ := List.mem_map.mp member
    by_cases target : before.id = id
    · rw [← target, wellFormed.settlement_of_mem present] at pending
      have was : before.status = .pending := Option.some.inj pending
      exact ⟨before, present,
        by simp [target], by simp [target], by simp [target, was, SettlementStatus.settle]⟩
    · exact ⟨before, present, by simp [target], by simp [target], by simp [target]⟩
  · rename_i settled
    refine ⟨row, member, rfl, rfl, ?_⟩
    by_cases target : row.id = id
    · rw [← target, wellFormed.settlement_of_mem member] at settled
      have final : row.status ≠ .pending := fun pending => settled (by simp [pending])
      simp [target, SettlementStatus.settle, final]
    · simp [target]

end Views

section Step

variable {admits : Uuid → SettlementReplyEvent → SettlementStatus → Prop} {db : Database}

theorem Lives.settle (wellFormed : WellFormed db) (lives : Lives admits db) {row : SettlementRow}
    (known : db.Known row) {status : SettlementStatus} {rejectReason : Option String}
    {eventId : Nat} {event : SettlementReplyEvent} {entries : List LedgerEntryRow}
    (own : ∀ entry ∈ entries, entry.settlementId = row.id)
    (next : ∀ before ∈ db.settlements, before.core = row.core → before.id = row.id →
      Life (admits before.id) before.core (before.status.settle status)
      (db.entriesOf before.id ++ entries)
        (db.eventsOf before.id ++ [outcomeRow eventId event row])) :
    Lives admits (((db.append entries).settle row.id status rejectReason).announce
      (outcomeRow eventId event row)) := by
  have booked : ∀ later ∈ ((db.append entries).settle row.id status rejectReason).settlements,
      ∃ before ∈ db.settlements, later.core = before.core ∧ later.id = before.id ∧
        later.status = if before.id = row.id then before.status.settle status else before.status := by
    intro later member
    have same : ((db.append entries).settle row.id status rejectReason).settlements =
        (db.settle row.id status rejectReason).settlements := by
      unfold Database.settle
      rw [append_settlement]
      split <;> rfl
    rw [same] at member
    exact wellFormed.before_settle member
  intro later member
  obtain ⟨before, present, core, id, turned⟩ := booked later member
  rw [eventsOf_announce _ _ _ rfl, entriesOf_announce, entriesOf_settle, eventsOf_settle,
    eventsOf_append, entriesOf_append, filter_entries _ own, core, id, turned]
  by_cases target : before.id = row.id
  · obtain ⟨found, there, sameCore, -⟩ := known
    have same : found = before := by
      rw [← target, wellFormed.settlement_of_mem present] at there
      exact (Option.some.inj there).symm
    subst same
    simpa [target, outcomeRow] using next found present sameCore target
  · simpa [target, Ne.symm target, outcomeRow] using lives before present

theorem Commit.lives {call : Call} {locks : List (Lock Resource)} {db' : Database}
    (wellFormed : WellFormed db) (commit : Commit call locks db db')
    (allowed : ∀ eventId event, call = .reply eventId event → ∀ row ∈ db.settlements,
      Targets event.settlementId row.id → admits row.id event row.status)
    (lives : Lives admits db) : Lives admits db' := by
  -- A new row starts a life of its own; nothing in the tables is about it yet.
  have entered {row : SettlementRow} {event : SettlementRequestedEvent} {more : List LedgerEntryRow}
      {announced : Outbox.Row} (enters : row.Enters event locks db)
      (fresh : announced.published = false)
      (about : announced.aggregateId = row.id) (own : ∀ entry ∈ more, entry.settlementId = row.id)
      (first : Life (admits row.id) row.core row.status more [announced]) :
      Lives admits (((db.enter row).append more).announce announced) := by
    intro other member
    rw [eventsOf_announce _ _ _ fresh, entriesOf_announce, eventsOf_append, eventsOf_enter,
      entriesOf_append, entriesOf_enter, filter_entries _ own, about]
    rcases List.mem_append.mp member with old | new
    · have different : other.id ≠ row.id := by
        intro same
        exact not_mem_of_settlement enters.new (same ▸ List.mem_map_of_mem old)
      simpa [different, Ne.symm different] using lives other old
    · obtain rfl := List.mem_singleton.mp new
      simpa [wellFormed.entriesOf_new enters.new, wellFormed.eventsOf_new enters.new] using first
  cases commit with
  | registered row new => exact lives
  | published rows same =>
    intro row member
    rw [eventsOf_publish db row.id same]
    exact lives row member
  | rejected row eventId event enters status newEvent eventLock =>
    have first : Life (admits row.id) row.core row.status [] [rejectedRow eventId row] := by
      rw [status]
      exact .rejected eventId
    simpa [Database.append] using entered enters rfl rfl (by simp) first
  | opened row eventId event settlementId enters status payee spelled newEvent eventLock =>
    obtain ⟨text, same, parsed⟩ := enters.target
    obtain rfl := Option.some.inj (spelled.symm.trans same)
    have first : Life (admits row.id) row.core row.status row.entries
        [notifyRow eventId settlementId row] := by
      rw [status]
      exact .opened eventId settlementId parsed
    exact entered enters rfl rfl (by simp [SettlementRow.entries]) first
  | confirmed row eventId event targets confirms pending known statusLock newEvent eventLock =>
    obtain ⟨-, -, -, live⟩ := wellFormed.live_of_known known pending
    have none_ : db.append [] = db := by simp [Database.append]
    rw [← none_]
    refine lives.settle wellFormed known (by simp) ?_
    intro before present core id
    have same : outcomeRow eventId event row = outcomeRow eventId event before.core := by
      rw [core]
      rfl
    rw [List.append_nil, same]
    exact .confirmed eventId event (lives before present) (live before present id) confirms
      (allowed eventId event rfl before present (id ▸ targets))
  | reversed row eventId event targets refuses pending known statusLock newEvent eventLock =>
    obtain ⟨-, -, -, live⟩ := wellFormed.live_of_known known pending
    refine lives.settle wellFormed known (by simp [SettlementRow.reversalEntries]) ?_
    intro before present core id
    have same : outcomeRow eventId event row = outcomeRow eventId event before.core := by
      rw [core]
      rfl
    have entries : row.reversalEntries = before.core.reversalEntries := by
      rw [core]
      rfl
    rw [entries, same]
    exact .reversed eventId event (lives before present) (live before present id) refuses
      (allowed eventId event rfl before present (id ▸ targets))

theorem Reachable.lives {scope : Scope service} {s : System service}
    (fresh : scope.initial = migrated) (reachable : Reachable scope s)
    (allowed : ∀ eventId event db, WellFormed db → scope.starts (.reply eventId event) →
      scope.admits (.reply eventId event) db → ∀ row ∈ db.settlements,
        Targets event.settlementId row.id → admits row.id event row.status) :
        Lives admits s.db := by
  refine reachable.invariant (verified fresh) (Lives admits) ?_ ?_
  · rw [fresh]
    simp [Lives, migrated]
  · rintro call locks db db' wellFormed ⟨starts, admitted, commit⟩ lives
    refine Commit.lives wellFormed commit ?_ lives
    rintro eventId event rfl
    exact allowed eventId event db wellFormed starts admitted

end Step

section Requests

theorem SettlementRow.Requested.of_core {row before : SettlementRow}
    {event : SettlementRequestedEvent} (requested : before.Requested event)
    (core : row.core = before.core) : row.Requested event := by
  simp only [SettlementRow.core, SettlementRow.mk.injEq] at core
  obtain ⟨-, payer, payee, ref, amount, -⟩ := core
  constructor
  · rw [payer]
    exact requested.payer
  · rw [payee]
    exact requested.payee
  · rw [ref]
    exact requested.ref
  · rw [amount]
    exact requested.amount

theorem Commit.entered {call : Call} {locks : List (Lock Resource)} {db db' : Database}
    (wellFormed : WellFormed db) (commit : Commit call locks db db') {row : SettlementRow}
    (member : row ∈ db'.settlements) :
    (∃ before ∈ db.settlements, row.core = before.core) ∨
      ∃ eventId event, call = .requested eventId event ∧ Targets event.settlementId row.id ∧
      row.Requested event := by
  cases commit with
  | registered added new => exact .inl ⟨row, member, rfl⟩
  | published rows same => exact .inl ⟨row, member, rfl⟩
  | rejected added eventId event enters status newEvent eventLock =>
    rcases List.mem_append.mp member with old | new
    · exact .inl ⟨row, old, rfl⟩
    · obtain rfl := List.mem_singleton.mp new
      exact .inr ⟨eventId, event, rfl, enters.target, enters.requested⟩
  | opened added eventId event settlementId enters status payee spelled newEvent eventLock =>
    rcases List.mem_append.mp member with old | new
    · exact .inl ⟨row, old, rfl⟩
    · obtain rfl := List.mem_singleton.mp new
      exact .inr ⟨eventId, event, rfl, enters.target, enters.requested⟩
  | confirmed settled eventId event targets confirms pending known statusLock newEvent eventLock =>
    obtain ⟨before, present, core, -⟩ := wellFormed.before_settle member
    exact .inl ⟨before, present, core⟩
  | reversed settled eventId event targets refuses pending known statusLock newEvent eventLock =>
    have same : ((db.append settled.reversalEntries).settle settled.id .reversed
        (some (reasonText event))).settlements =
        (db.settle settled.id .reversed (some (reasonText event))).settlements := by
      unfold Database.settle
      rw [append_settlement]
      split <;> rfl
    have member : row ∈ ((db.append settled.reversalEntries).settle settled.id .reversed
        (some (reasonText event))).settlements := member
    rw [same] at member
    obtain ⟨before, present, core, -⟩ := wellFormed.before_settle member
    exact .inl ⟨before, present, core⟩

def Asked (started : Call → Prop) (db : Database) : Prop :=
  ∀ row ∈ db.settlements, ∃ eventId event, started (.requested eventId event) ∧
    Targets event.settlementId row.id ∧ row.Requested event

theorem Reachable.asked {scope : Scope service} {s : System service}
    (fresh : scope.initial = migrated) (reachable : Reachable scope s) : Asked s.Started s.db := by
  refine reachable.attributed (verified fresh) Asked ?_ ?_ ?_
  · rw [fresh]
    intro started row member
    cases member
  · intro started further db includes asked row member
    obtain ⟨eventId, event, run, facts⟩ := asked row member
    exact ⟨eventId, event, includes _ run, facts⟩
  · intro started call locks db db' wellFormed now changes asked row member
    rcases Commit.entered wellFormed changes.2.2 member with ⟨before, present, core⟩ |
      ⟨eventId, event, rfl, targets, requested⟩
    · obtain ⟨eventId, event, run, targets, requested⟩ := asked before present
      have id : row.core.id = before.core.id := congrArg SettlementRow.id core
      rw [SettlementRow.core_id, SettlementRow.core_id] at id
      exact ⟨eventId, event, run, id ▸ targets, requested.of_core core⟩
    · exact ⟨eventId, event, now, targets, requested⟩

end Requests

end Hub
