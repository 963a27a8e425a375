import PaymentLedger.Hub.Lifecycle

set_option autoImplicit false

-- What the ledger and the outbox hold about a settlement, for every order in which the
-- deliveries of requests and replies take their steps.

namespace Hub

open Transactional SettlementsService

def anyRun : Scope service where
  initial := migrated

section Reserves

def LedgerEntryRow.posting (entry : LedgerEntryRow) : DoubleEntry.Posting String :=
  ⟨entry.bankId, entry.amount⟩

def Database.reserveMoved (db : Database) (id : Uuid) (bankId : String) : Int :=
  DoubleEntry.balance ((db.entriesOf id).map LedgerEntryRow.posting) bankId

def SettlementRow.ReservesAgree (row : SettlementRow) (db : Database) : Prop :=
  match row.status with
  | .pending | .confirmed => db.reserveMoved row.id row.payerBankId = -row.amount ∧
      db.reserveMoved row.id row.payeeBankId = row.amount
  | .reversed => db.reserveMoved row.id row.payerBankId = 0 ∧ db.reserveMoved row.id row.payeeBankId = 0
  | .rejected => db.entriesOf row.id = []

instance (row : SettlementRow) (db : Database) : Decidable (row.ReservesAgree db) := by
  unfold SettlementRow.ReservesAgree
  split <;> infer_instance

def ReservesAgree (db : Database) : Prop := ∀ row ∈ db.settlements, row.ReservesAgree db

instance ReservesAgree.decidable (db : Database) : Decidable (ReservesAgree db) := by
  unfold ReservesAgree
  infer_instance

def timelyRun : Scope service where
  initial := migrated
  admits call db := ∀ eventId event, call = .reply eventId event → ¬ event.confirms →
    ∀ row ∈ db.settlements, Targets event.settlementId row.id → row.status = .pending

def SettlementRow.booked (row : SettlementRow) : SettlementStatus → List LedgerEntryRow
  | .rejected => []
  | .pending | .confirmed => row.entries
  | .reversed => row.entries ++ row.reversalEntries

theorem Life.booked {row : SettlementRow} {status : SettlementStatus}
    {entries : List LedgerEntryRow} {events : List Outbox.Row}
    (life : Life (fun event status => ¬ event.confirms → status = .pending) row status
      entries events) :
    entries = row.booked status := by
  induction life with
  | rejected eventId => rfl
  | opened eventId settlementId spelled => rfl
  | @confirmed status entries events eventId event before live confirms admitted ih =>
    rw [ih]
    cases status <;> simp_all [SettlementStatus.settle, SettlementRow.booked]
  | reversed eventId event before live refuses admitted ih =>
    -- The reversal is appended to what a PENDING settlement has, and to nothing else.
    have pending := admitted refuses
    rw [ih, pending]
    rfl

theorem reserves_of_booked {row : SettlementRow} {db : Database}
    (distinct : row.payerBankId ≠ row.payeeBankId)
    (booked : db.entriesOf row.id = row.booked row.status) : row.ReservesAgree db := by
  unfold SettlementRow.ReservesAgree Database.reserveMoved
  rw [booked]
  cases row.status <;>
    simp [SettlementRow.booked, SettlementRow.entries, SettlementRow.reversalEntries,
    LedgerEntryRow.posting, DoubleEntry.balance_cons, distinct, Ne.symm distinct]

theorem reserves_agree {s : System service} (reachable : Reachable timelyRun s) :
    ReservesAgree s.db := by
  have wellFormed : WellFormed s.db := (reachable.sound (verified rfl)).inv
  have lives : Lives (fun _ event status => ¬ event.confirms → status = .pending) s.db := by
    refine Reachable.lives rfl reachable ?_
    intro eventId event db _ _ timely row member targets refuses
    exact timely eventId event rfl refuses row member targets
  intro row member
  have distinct := (wellFormed.checked row member).2.2.2.1
  have booked : s.db.entriesOf row.id = row.core.booked row.status := Life.booked (lives row member)
  exact reserves_of_booked distinct booked

def sampleId : Uuid :=
  let ones : Quad := ⟨1, 1, 1, 1⟩
  ⟨ones, ones, ones, ⟨4, 1, 1, 1⟩, ⟨8, 1, 1, 1⟩, ones, ones, ones⟩

def request (eventId : Nat) : Call :=
  .requested eventId
    { settlementId := some sampleId.text, payerBankId := some "bank-a", payeeBankId := some "bank-b"
      payeeAccountRef := some "iban", amountCents := some (.num 400) }

def reply (eventId : Nat) (outcome : String) : Call :=
  .reply eventId { settlementId := some sampleId.text, outcome := some (.str outcome),
                   reason := none }

def opening : List (Action service) :=
  [.start (Call.registerBank "bank-a" "Bank A" "http://a")] ++ runs 0 1 ++
  [.start (Call.registerBank "bank-b" "Bank B" "http://b")] ++ runs 1 1 ++
    [.start (request 0)] ++ runs 2 7

/-- Both replies read the settlement before either acts; then the first one acts. -/
def crossing (first second : String) (steps : Nat) : List (Action service) :=
  opening ++ [.start (reply 1 first), .start (reply 2 second)] ++ runs 3 1 ++ runs 4 1 ++
    runs 3 steps

/-- The second reversal is booked although its UPDATE finds no PENDING row. -/
theorem reserves_agree_fails : ∃ s, Reachable anyRun s ∧ ¬ ReservesAgree s.db := by
  have evaluated : (System.run { db := anyRun.initial }
      (crossing "REVERSED" "REVERSED" 6 ++ runs 4 6)).map
      (fun s => (ReservesAgree.decidable s.db).decide) = some false := by
    decide +kernel
  obtain ⟨s, reachable, observed, -⟩ :=
    Reachable.of_evaluation evaluated (fun _ _ => trivial) fun _ _ _ => trivial
  exact ⟨s, reachable, @of_decide_eq_false _ (ReservesAgree.decidable s.db) observed⟩

def allPending (db : Database) : Bool := db.settlements.all fun row => row.status = .pending

theorem pending_of_allPending {db : Database} (checked : allPending db = true) :
    ∀ row ∈ db.settlements, row.status = .pending := by
  intro row member
  exact of_decide_eq_true (List.all_eq_true.mp checked row member)

theorem reversal_evaluated :
    (System.runWithin (fun _ db _ => allPending db) { db := anyRun.initial }
    (crossing "REVERSED" "REVERSED" 6)).map (fun s =>
      (Database.settlements s.db).map SettlementRow.status) = some [.reversed] := by
  decide +kernel

theorem reserves_agree_reversed : ∃ s, Reachable timelyRun s ∧
    s.db.settlements.map SettlementRow.status = [.reversed] ∧ ReservesAgree s.db := by
  obtain ⟨s, reachable, observed, -⟩ :=
    @Reachable.of_evaluation _ timelyRun _ _ _ _ _ reversal_evaluated
    (fun _ _ => trivial) fun _ _ ⟨_, checked, _⟩ _ _ _ _ row member _ =>
      pending_of_allPending checked row member
  exact ⟨s, reachable, observed, reserves_agree reachable⟩

end Reserves

section Outcomes

def SettlementStatus.text : SettlementStatus → String
  | .pending => "PENDING"
  | .confirmed => "CONFIRMED"
  | .reversed => "REVERSED"
  | .rejected => "REJECTED"

def Database.outcomesOf (db : Database) (id : Uuid) : List (Option Json) :=
  ((db.eventsOf id).filter fun event => event.eventType = "settlement.outcome").map fun event =>
    event.payload.lookup "outcome"

def announcedOutcomes (status : SettlementStatus) : List (Option Json) :=
  if status = .pending then [] else [some (.str status.text)]

def OutcomesTrue (db : Database) : Prop :=
  ∀ row ∈ db.settlements, db.outcomesOf row.id = announcedOutcomes row.status

instance OutcomesTrue.decidable (db : Database) : Decidable (OutcomesTrue db) := by
  unfold OutcomesTrue
  infer_instance

def verdictRun : Scope service where
  initial := migrated
  starts call := ∀ eventId event, call = .reply eventId event →
    event.outcome = some (.str "CONFIRMED") ∨ event.outcome = some (.str "REVERSED")

def promptRun : Scope service where
  initial := migrated
  starts := verdictRun.starts
  admits call db := ∀ eventId event, call = .reply eventId event →
    ∀ row ∈ db.settlements, Targets event.settlementId row.id → row.status = .pending

theorem outcome_of_payload (settlementId : String) (event : SettlementReplyEvent) {outcome : Json}
    (carries : event.outcome = some outcome) :
    (outcomePayload settlementId event).lookup "outcome" = some outcome := by
  simp [outcomePayload, carries, field, List.lookup_cons]

theorem Life.outcomes {row : SettlementRow} {status : SettlementStatus}
    {entries : List LedgerEntryRow} {events : List Outbox.Row}
    (life : Life (fun event status => status = .pending ∧
      (event.outcome = some (.str "CONFIRMED") ∨ event.outcome = some (.str "REVERSED"))) row status
      entries events) :
    ((events.filter fun event => event.eventType = "settlement.outcome").map fun event =>
      event.payload.lookup "outcome") = announcedOutcomes status := by
  induction life with
  | rejected eventId => rfl
  | opened eventId settlementId spelled => rfl
  | @confirmed status entries events eventId event before live confirms admitted ih =>
    obtain ⟨pending, -⟩ := admitted
    have carried := outcome_of_payload row.id.text event confirms
    rw [List.filter_append, List.map_append, ih, pending]
    simp [announcedOutcomes, outcomeRow, carried, SettlementStatus.settle, SettlementStatus.text]
  | @reversed status entries events eventId event before live refuses admitted ih =>
    obtain ⟨pending, verdict⟩ := admitted
    have carried := outcome_of_payload row.id.text event (verdict.resolve_left refuses)
    rw [List.filter_append, List.map_append, ih, pending]
    simp [announcedOutcomes, outcomeRow, carried, SettlementStatus.settle, SettlementStatus.text]

theorem outcomes_true {s : System service} (reachable : Reachable promptRun s) :
    OutcomesTrue s.db := by
  have lives : Lives (fun _ event status => status = .pending ∧
      (event.outcome = some (.str "CONFIRMED") ∨ event.outcome = some (.str "REVERSED"))) s.db := by
    refine Reachable.lives rfl reachable ?_
    intro eventId event db _ starts prompt row member targets
    exact ⟨prompt eventId event rfl row member targets, starts eventId event rfl⟩
  intro row member
  exact Life.outcomes (lives row member)

def crossingCalls (first second : String) : List Call :=
  [.registerBank "bank-a" "Bank A" "http://a", .registerBank "bank-b" "Bank B" "http://b",
    request 0,
   reply 1 first, reply 2 second]

theorem crossing_starts {first second : String} (verdict : first = "CONFIRMED" ∨ first = "REVERSED")
    (verdict' : second = "CONFIRMED" ∨ second = "REVERSED") (call : Call)
    (listed : call ∈ crossingCalls first second) : verdictRun.starts call := by
  simp only [crossingCalls, List.mem_cons, List.not_mem_nil, or_false] at listed
  intro eventId event same
  rcases listed with rfl | rfl | rfl | rfl | rfl
  case inr.inr.inr.inl =>
    obtain ⟨-, rfl⟩ := Call.reply.inj same
    simpa using verdict
  case inr.inr.inr.inr =>
    obtain ⟨-, rfl⟩ := Call.reply.inj same
    simpa using verdict'
  all_goals cases same

/-- CONFIRMED wins the row, and REVERSED is announced as well. -/
theorem outcomes_true_fails : ∃ s, Reachable verdictRun s ∧ ¬ OutcomesTrue s.db := by
  have evaluated : (System.run { db := verdictRun.initial }
      (crossing "CONFIRMED" "REVERSED" 4 ++ runs 4 6)).map
      (fun s => (OutcomesTrue.decidable s.db).decide) = some false := by
    decide +kernel
  obtain ⟨s, reachable, observed, -⟩ := Reachable.of_evaluation evaluated
    (fun call member => crossing_starts (.inl rfl) (.inr rfl) call member) fun _ _ _ => trivial
  exact ⟨s, reachable, @of_decide_eq_false _ (OutcomesTrue.decidable s.db) observed⟩

theorem outcomes_true_reversed : ∃ s, Reachable promptRun s ∧
    s.db.settlements.map SettlementRow.status = [.reversed] ∧ OutcomesTrue s.db := by
  obtain ⟨s, reachable, observed, -⟩ :=
    @Reachable.of_evaluation _ promptRun _ _ _ _ _ reversal_evaluated
    (fun call member => crossing_starts (.inr rfl) (.inr rfl) call member)
    fun _ _ ⟨_, checked, _⟩ _ _ _ row member _ => pending_of_allPending checked row member
  exact ⟨s, reachable, observed, outcomes_true reachable⟩

end Outcomes

section Requests

def Database.notificationsOf (db : Database) (id : Uuid) : List Outbox.Row :=
  (db.eventsOf id).filter fun event => event.eventType = "settlement.notify"

/-- What one settlement leaves in the ledger and the outbox, whatever the deliveries of its
request. -/
structure SettlementRow.TakenOnce (row : SettlementRow) (db : Database) : Prop where
  unique : db.settlements.countP (fun other => other.id = row.id) = 1
  movement : row.status ≠ .rejected → ∀ entry ∈ row.entries, db.ledgerEntries.count entry = 1
  notified : row.status ≠ .rejected → ∃ event, db.notificationsOf row.id = [event] ∧
    event.routingKey = settlementNotifyRoutingKey (some row.payeeBankId)
  rejected : row.status = .rejected → db.entriesOf row.id = [] ∧ db.notificationsOf row.id = [] ∧
    db.outcomesOf row.id = [some (.str "REJECTED")]
  balanced : ((db.entriesOf row.id).map LedgerEntryRow.amount).sum = 0

/-- A delivery that changes something enters the settlement, with all that goes with it. -/
def Takes (eventId : Nat) (event : SettlementRequestedEvent) (db db' : Database) : Prop :=
  ∃ row, Targets event.settlementId row.id ∧ db.settlement row.id = none ∧
    ((row.status = .rejected ∧ db' = (db.enter row).announce (rejectedRow eventId row)) ∨
      ∃ settlementId, row.status = .pending ∧
        db' = ((db.enter row).append row.entries).announce (notifyRow eventId settlementId row))

/-- No settlement goes away, changes its parties or amount, or becomes REJECTED or stops being
it. -/
def Keeps (db db' : Database) : Prop :=
  ∀ id row, db.settlement id = some row → ∃ later, db'.settlement id = some later ∧
    later.core = row.core ∧ (later.status = .rejected ↔ row.status = .rejected)

theorem Frame.keeps {locks : List (Lock Resource)} {db db' : Database}
    (frame : Frame locks db db') :
    Keeps db db' := by
  intro id row found
  obtain ⟨later, there, rfl | ⟨core, pending, -, settled⟩⟩ := frame.settlements id row found
  · exact ⟨later, there, rfl, Iff.rfl⟩
  · refine ⟨later, there, core, ?_⟩
    rw [pending]
    rcases settled with status | status <;> simp [status]

theorem Commit.takes {eventId : Nat} {event : SettlementRequestedEvent}
    {locks : List (Lock Resource)} {db db' : Database}
    (commit : Commit (.requested eventId event) locks db db') :
    Takes eventId event db db' := by
  cases commit with
  | rejected row _ _ enters status _ _ => exact ⟨row, enters.target, enters.new, .inl ⟨status, rfl⟩⟩
  | opened row _ _ settlementId enters status _ _ _ _ =>
    exact ⟨row, enters.target, enters.new, .inr ⟨settlementId, status, rfl⟩⟩

theorem Life.movement {admits : SettlementReplyEvent → SettlementStatus → Prop}
    {row : SettlementRow} {status : SettlementStatus} {entries : List LedgerEntryRow}
    {events : List Outbox.Row} (life : Life admits row status entries events)
    (distinct : row.payerBankId ≠ row.payeeBankId) (positive : 0 < row.amount)
    (live : status ≠ .rejected) : ∀ entry ∈ row.entries, entries.count entry = 1 := by
  have signs : -row.amount ≠ row.amount := by omega
  -- A reversal has the same banks with the signs turned, so it is no second movement.
  have other : ∀ entry ∈ row.entries, row.reversalEntries.count entry = 0 := by
    intro entry member
    rw [List.count_eq_zero]
    simp only [SettlementRow.entries, List.mem_cons, List.not_mem_nil, or_false] at member
    rcases member with rfl | rfl <;>
      simp [SettlementRow.reversalEntries, distinct, Ne.symm distinct, signs, Ne.symm signs]
  induction life with
  | rejected eventId => exact absurd rfl live
  | opened eventId settlementId spelled =>
    intro entry member
    simp only [SettlementRow.entries, List.mem_cons, List.not_mem_nil, or_false] at member
    rcases member with rfl | rfl <;>
      simp [SettlementRow.entries, distinct, Ne.symm distinct]
  | confirmed eventId event before live' confirms admitted ih => exact ih live'
  | reversed eventId event before live' refuses admitted ih =>
    intro entry member
    rw [List.count_append, ih live' entry member, other entry member]

theorem Life.notified {admits : SettlementReplyEvent → SettlementStatus → Prop}
    {row : SettlementRow} {status : SettlementStatus} {entries : List LedgerEntryRow}
    {events : List Outbox.Row} (life : Life admits row status entries events)
    (live : status ≠ .rejected) :
    ∃ event, events.filter (fun event => event.eventType = "settlement.notify") = [event] ∧
      event.routingKey = settlementNotifyRoutingKey (some row.payeeBankId) := by
  induction life with
  | rejected eventId => exact absurd rfl live
  | opened eventId settlementId spelled => exact ⟨_, rfl, rfl⟩
  | confirmed eventId event before live' confirms admitted ih
  | reversed eventId event before live' refuses admitted ih =>
    obtain ⟨notify, only, routing⟩ := ih live'
    refine ⟨notify, ?_, routing⟩
    rw [List.filter_append, only]
    rfl

theorem Life.rejected_only {admits : SettlementReplyEvent → SettlementStatus → Prop}
    {row : SettlementRow} {status : SettlementStatus} {entries : List LedgerEntryRow}
    {events : List Outbox.Row} (life : Life admits row status entries events)
    (rejected : status = .rejected) :
    entries = [] ∧ ∃ eventId, events = [rejectedRow eventId row] := by
  cases life with
  | rejected eventId => exact ⟨rfl, eventId, rfl⟩
  | opened eventId settlementId spelled => cases rejected
  | @confirmed status _ _ _ _ _ live _ _ | @reversed status _ _ _ _ _ live _ _ =>
    cases status <;> simp_all [SettlementStatus.settle]

theorem Life.balanced {admits : SettlementReplyEvent → SettlementStatus → Prop}
    {row : SettlementRow} {status : SettlementStatus} {entries : List LedgerEntryRow}
    {events : List Outbox.Row} (life : Life admits row status entries events) :
    (entries.map LedgerEntryRow.amount).sum = 0 := by
  induction life with
  | rejected eventId => rfl
  | opened eventId settlementId spelled => simp [SettlementRow.entries]
  | confirmed eventId event before live confirms admitted ih => exact ih
  | reversed eventId event before live refuses admitted ih =>
    simp [ih, SettlementRow.reversalEntries]

def Database.total (db : Database) : Int := (db.ledgerEntries.map LedgerEntryRow.amount).sum

theorem Commit.total {call : Call} {locks : List (Lock Resource)} {db db' : Database}
    (commit : Commit call locks db db') : db'.total = db.total := by
  cases commit with
  | registered row new => rfl
  | published rows same => rfl
  | rejected row eventId event enters status newEvent eventLock => rfl
  | opened row eventId event settlementId enters status payee spelled newEvent eventLock =>
    simp [Database.total, Database.announce, Database.append, Database.enter, SettlementRow.entries]
  | confirmed row eventId event targets confirms pending known statusLock newEvent eventLock =>
    simp [Database.total, Database.announce]
  | reversed row eventId event targets refuses pending known statusLock newEvent eventLock =>
    simp [Database.total, Database.announce, Database.append, SettlementRow.reversalEntries]

theorem WellFormed.reserves {db : Database} (wellFormed : WellFormed db) :
    ((db.banks.map BankRow.id).map db.reserveBalanceOf).sum = db.total := by
  have known : ∀ posting ∈ db.postings, posting.account ∈ db.banks.map BankRow.id := by
    intro posting member
    obtain ⟨entry, present, rfl⟩ := List.mem_map.mp member
    exact (wellFormed.entries entry present).2
  have posted : DoubleEntry.total db.postings = db.total := by
    rw [DoubleEntry.total, Database.postings, List.map_map]
    rfl
  rw [← posted]
  exact DoubleEntry.sum_balances wellFormed.banks db.postings known

theorem count_entriesOf (db : Database) {id : Uuid} {entry : LedgerEntryRow}
    (own : entry.settlementId = id) :
    db.ledgerEntries.count entry = (db.entriesOf id).count entry := by
  rw [Database.entriesOf, List.count_filter]
  simpa using own

theorem Life.takenOnce {admits : SettlementReplyEvent → SettlementStatus → Prop} {db : Database}
    {row : SettlementRow} (wellFormed : WellFormed db) (member : row ∈ db.settlements)
    (life : Life admits row.core row.status (db.entriesOf row.id) (db.eventsOf row.id)) :
    row.TakenOnce db where
  unique := by
    have once := List.count_eq_one_of_mem wellFormed.ids (List.mem_map_of_mem member)
    rw [List.count, List.countP_map] at once
    rw [← once]
    exact List.countP_congr fun other _ => by simp
  movement := by
    obtain ⟨-, -, positive, distinct, -⟩ := wellFormed.checked row member
    intro live entry own
    have same : entry.settlementId = row.id := by
      simp only [SettlementRow.entries, List.mem_cons, List.not_mem_nil, or_false] at own
      rcases own with rfl | rfl <;> rfl
    rw [count_entriesOf db same]
    exact life.movement distinct positive live entry own
  notified := life.notified
  rejected := by
    intro rejected
    obtain ⟨entries, eventId, events⟩ := life.rejected_only rejected
    rw [Database.notificationsOf, Database.outcomesOf, entries, events]
    exact ⟨rfl, rfl, rfl⟩
  balanced := life.balanced

/-- A request takes effect once, and the first delivery to insert decides how. -/
theorem requested_once {s : System service} (reachable : Reachable anyRun s) :
    (∀ row ∈ s.db.settlements, row.TakenOnce s.db) ∧
    ((s.db.banks.map BankRow.id).map s.db.reserveBalanceOf).sum = 0 ∧
    (∀ action s', s.step action = some s' → Keeps s.db s'.db) ∧
    ∀ index fault s' thread eventId event, s.step (.run index fault) = some s' →
      s.threads[index]? = some thread → thread.call = Call.requested eventId event →
      s'.db = s.db ∨ Takes eventId event s.db s'.db := by
  have sound := reachable.sound (verified rfl)
  have wellFormed : WellFormed s.db := sound.inv
  have lives : Lives (fun _ _ _ => True) s.db :=
    Reachable.lives rfl reachable fun _ _ _ _ _ _ _ _ _ => trivial
  have balanced : Database.total s.db = 0 := by
    refine reachable.invariant (verified rfl) (fun db => Database.total db = 0) rfl ?_
    intro call locks db db' _ changes total
    rw [changes.2.2.total, total]
  refine ⟨fun row member => Life.takenOnce wellFormed member (lives row member), ?_, ?_, ?_⟩
  · rw [← balanced]
    exact wellFormed.reserves
  · intro action s' step
    have permits : anyRun.Permits s action s' := by cases action <;> simp [Scope.Permits, anyRun]
    rcases (sound.step (verified rfl) permits step).2 with same | ⟨index, thread, locks, -, changes⟩
    · rw [same]
      exact (Frame.refl [] s.db).keeps
    · exact (Commit.frame changes.2.2).keeps
  · intro index fault s' thread eventId event step present requested
    by_cases same : s'.db = s.db
    · exact .inl same
    · have permits : anyRun.Permits s (.run index fault) s' := fun _ _ _ => trivial
      obtain ⟨⟨locks, -, -, commit⟩, -⟩ := sound.changed (verified rfl) present permits step same
      rw [requested] at commit
      exact .inr (Commit.takes commit)

/-- The first delivery looks the payee bank up before it registers, the second one after. -/
def registering : List (Action service) :=
  [.start (Call.registerBank "bank-a" "Bank A" "http://a")] ++ runs 0 1 ++
  [.start (request 0), .start (request 1)] ++ runs 1 1 ++
  [.start (Call.registerBank "bank-b" "Bank B" "http://b")] ++ runs 3 1 ++ runs 2 7 ++ runs 1 3

theorem requested_once_registering : ∃ s, Reachable anyRun s ∧
    s.db.settlements.map SettlementRow.status = [.pending] ∧
    ∀ row ∈ s.db.settlements, row.TakenOnce s.db := by
  have evaluated : (System.run { db := anyRun.initial } registering).map (fun s =>
      (Database.settlements s.db).map SettlementRow.status) = some [.pending] := by
    decide +kernel
  obtain ⟨s, reachable, observed, -⟩ :=
    Reachable.of_evaluation evaluated (fun _ _ => trivial) fun _ _ _ => trivial
  exact ⟨s, reachable, observed, (requested_once reachable).1⟩

end Requests

end Hub
