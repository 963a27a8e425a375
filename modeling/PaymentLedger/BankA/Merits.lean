import PaymentLedger.BankA.Sweep
import PaymentLedger.BankA.Whole

set_option autoImplicit false

-- On its own merits: whatever the Hub answers about the others, and wherever it stands in the list.

namespace BankA

open Transactional InterbankReplyService

def Database.entriesOf (db : Database) (transferId : Uuid) : List LedgerEntryRow :=
  db.ledgerEntries.filter fun entry =>
    entry.transferId ∈ (db.books transferId).transfers.map TransferRow.id

def Untouched (transferId : Uuid) (db later : Database) : Prop :=
  later.status transferId = some .debited ∧
    (later.books transferId).transfers = (db.books transferId).transfers ∧
    later.entriesOf transferId = db.entriesOf transferId

def RefundedOnce (transferId : Uuid) (db later : Database) : Prop :=
  ∃ original ∈ db.transfers, original.id = transferId ∧ ∃ reversal, ¬ db.hasTransfer reversal.id ∧
    later.transfers.filter (fun row => row.idempotencyKey = compensationKey transferId.text) =
    [reversal] ∧
    Reverses reversal original later

section Owed

variable {db later : Database} {transferId : Uuid}

theorem entriesOf_eq (wellFormed : WellFormed db) :
    db.entriesOf transferId = (db.books transferId).transfers.flatMap TransferRow.entries := by
  have own {row : TransferRow} (present : row ∈ db.transfers) :
      row.id ∈ (db.books transferId).transfers.map TransferRow.id ↔ Concerns transferId row := by
    constructor
    · intro listed
      obtain ⟨other, member, same⟩ := List.mem_map.mp listed
      obtain ⟨known, concerns⟩ := List.mem_filter.mp member
      obtain rfl := transfer_ext wellFormed known present same
      exact of_decide_eq_true concerns
    · intro concerns
      exact List.mem_map_of_mem (List.mem_filter.mpr ⟨present, decide_eq_true concerns⟩)
  have split_ (rows : List TransferRow) (present : ∀ row ∈ rows, row ∈ db.transfers) :
      (rows.flatMap TransferRow.entries).filter
        (fun entry => entry.transferId ∈ (db.books transferId).transfers.map TransferRow.id) =
      (rows.filter fun row => Concerns transferId row).flatMap TransferRow.entries := by
    induction rows with
    | nil => rfl
    | cons row rest ih =>
      have here := own (present row List.mem_cons_self)
      rw [List.flatMap_cons, List.filter_append,
        ih fun other member => present other (List.mem_cons_of_mem row member)]
      by_cases concerns : Concerns transferId row
      · have listed := decide_eq_true (here.mpr concerns)
        simp only [TransferRow.entries, List.filter_cons, List.filter_nil, listed, concerns,
          decide_true, if_true, List.flatMap_cons]
      · have absent := decide_eq_false (mt here.mp concerns)
        simp only [TransferRow.entries, List.filter_cons, List.filter_nil, absent, concerns,
          decide_false, Bool.false_eq_true, if_false, List.nil_append]
  rw [Database.entriesOf, wellFormed.ledger]
  exact split_ db.transfers fun _ member => member

theorem untouched_of_books (wellFormed : WellFormed db) (after : WellFormed later)
    (debited : db.status transferId = some .debited)
    (same : later.books transferId = db.books transferId) : Untouched transferId db later := by
  refine ⟨(congrArg Books.status same).trans debited, congrArg Books.transfers same, ?_⟩
  rw [entriesOf_eq wellFormed, entriesOf_eq after, same]

theorem filter_key_books (db : Database) (transferId : Uuid) :
    db.transfers.filter (fun row => row.idempotencyKey = compensationKey transferId.text) =
      (db.books transferId).transfers.filter fun row => row.idempotencyKey =
      compensationKey transferId.text := by
  rw [Database.books, List.filter_filter]
  congr 1
  funext row
  by_cases own : row.idempotencyKey = compensationKey transferId.text <;> simp [Concerns, own]

theorem refundedOnce_iff {original : TransferRow} {reversalId : Uuid} (after : WellFormed later)
    (present : original ∈ db.transfers) (id : original.id = transferId)
    (fresh : ¬ db.hasTransfer reversalId) (refunded : (later.books transferId).transfers =
      ((db.books transferId).refund (reversalOf reversalId transferId.text original)).transfers) :
    RefundedOnce transferId db later ↔ ¬ db.hasKey (compensationKey transferId.text) := by
  have key : (reversalOf reversalId transferId.text original).idempotencyKey =
      compensationKey transferId.text := rfl
  constructor
  · -- With the key taken the rows are the old ones, and none of them is new.
    rintro ⟨own, -, -, reversal, new, only, reverses⟩ taken
    rw [Books.refund, if_pos (show _ from (hasKey_books key).mp taken)] at refunded
    rw [filter_key_books, refunded, ← filter_key_books] at only
    have old : reversal ∈ db.transfers :=
      List.mem_of_mem_filter (only ▸ List.mem_singleton_self reversal)
    exact new (List.mem_map_of_mem old)
  · intro free
    rw [Books.refund, if_neg (mt (hasKey_books key).mpr free)] at refunded
    have none_ : (db.books transferId).transfers.filter
        (fun row => row.idempotencyKey = compensationKey transferId.text) = [] := by
      rw [← filter_key_books, List.filter_eq_nil_iff]
      intro row member same
      exact free (List.mem_map.mpr ⟨row, member, of_decide_eq_true same⟩)
    have booked : reversalOf reversalId transferId.text original ∈ later.transfers := by
      have listed : reversalOf reversalId transferId.text
          original ∈ (later.books transferId).transfers := by simp [refunded]
      exact List.mem_of_mem_filter listed
    refine ⟨original, present, id, reversalOf reversalId transferId.text original, fresh, ?_,
      booked, ?_, rfl, rfl, rfl, ?_⟩
    · rw [filter_key_books, refunded, List.filter_append, none_]
      simp [key]
    · rw [id]
      rfl
    · rw [after.ledger, filter_entries after.ids booked]
      rfl

end Owed

namespace ReconciliationService

/-- 404, REVERSED and REJECTED. -/
def HubAnswer.refuses : HubAnswer → Bool
  | .noRecord | .settlement .reversed | .settlement .rejected => true
  | .noResponse | .errorStatus | .unreadable | .settlement .pending | .settlement .confirmed =>
    false

namespace Turn

variable (turn : Turn)

/-- What the transfer is owed by a sweep, whatever becomes of the others. -/
def Met (transferId : Uuid) (db later : Database) : Prop :=
  if turn.answer = .settlement .confirmed ∧ turn.fate = .returns then later.status transferId = some .confirmed
  else if turn.answer.refuses = true ∧ turn.fate = .returns then
    later.status transferId = some .compensated ∧ RefundedOnce transferId db later
  else Untouched transferId db later

/-- The turn is reached and can do all of its work; or it does nothing, where the handler would
throw after its work is done. -/
structure Unhindered (blocked : Bool) (transferId : Uuid) (db : Database) : Prop where
  reached : turn.answer.outcome.isSome → turn.fate = .returns → blocked = false
  free : turn.answer.refuses = true → turn.fate = .returns →
    ¬ db.hasKey (compensationKey transferId.text)
  undone : turn.answer.outcome.isSome → turn.fate = .lost → blocked = true

variable {turn} {transferId : Uuid} {db later : Database} {blocked : Bool}

theorem change_confirmed {books : Books} (answer : turn.answer = .settlement .confirmed)
    (works : turn.fate ≠ .fails) :
    turn.change transferId books = books.settle .confirmed := by
  simp [change, answer, HubAnswer.outcome, HubSettlementStatus.text, works]

theorem change_refused (refuses : turn.answer.refuses = true) (works : turn.fate ≠ .fails)
    {original : TransferRow} (wellFormed : WellFormed db) (present : original ∈ db.transfers)
    (id : original.id = transferId) :
    turn.change transferId (db.books transferId) =
      ((db.books transferId).refund (reversalOf turn.reversalId transferId.text original)).settle
      .compensated := by
  obtain ⟨outcome, passed, other⟩ : ∃ outcome, turn.answer.outcome = some outcome ∧
      outcome ≠ "CONFIRMED" := by
    revert refuses
    cases turn.answer with
    | settlement status =>
      cases status <;> simp [HubAnswer.refuses, HubAnswer.outcome, HubSettlementStatus.text]
    | noRecord => simp [HubAnswer.outcome]
    | noResponse | errorStatus | unreadable => simp [HubAnswer.refuses]
  have found : ((db.books transferId).transfers.find? fun row => row.id = transferId) =
      some original := by
    subst id
    rw [find_books, find_transfer wellFormed present]
  simp only [change, passed, if_neg works, if_neg other, found]

theorem change_idle {books : Books} (idle : turn.answer.outcome = none ∨ turn.fate = .fails) :
    turn.change transferId books = books := by
  unfold change
  rcases idle with none_ | fails
  · rw [none_]
  · split
    · rfl
    · rw [if_pos fails]

theorem outcome_isSome : turn.answer.outcome.isSome = true ↔ turn.answer = .settlement .confirmed ∨
    turn.answer.refuses = true := by
  cases turn.answer with
  | settlement status => cases status <;> simp [HubAnswer.refuses, HubAnswer.outcome]
  | noResponse | noRecord | errorStatus | unreadable => simp [HubAnswer.refuses, HubAnswer.outcome]

theorem met_iff_idle (wellFormed : WellFormed db) (after : WellFormed later)
    (debited : db.status transferId = some .debited)
    (idle : turn.answer.outcome = none ∨ turn.fate = .fails)
    (same : later.books transferId = db.books transferId) :
    turn.Met transferId db later ↔ turn.Unhindered blocked transferId db := by
  have untouched := untouched_of_books wellFormed after debited same
  have silent (settles : turn.answer.outcome.isSome = true) : turn.fate = .fails := by
    refine idle.resolve_left fun none_ => ?_
    simp [none_] at settles
  have neither (settles : turn.answer.outcome.isSome = true) {fate : Fate}
      (working : fate ≠ .fails) : turn.fate ≠ fate := by
    rw [silent settles]
    exact working.symm
  have met : turn.Met transferId db later := by
    rw [Met, if_neg, if_neg]
    · exact untouched
    · exact fun both => neither (outcome_isSome.mpr (.inr both.1)) (by decide) both.2
    · exact fun both => neither (outcome_isSome.mpr (.inl both.1)) (by decide) both.2
  refine iff_of_true met ⟨?_, ?_, ?_⟩
  · exact fun settles returns => absurd returns (neither settles (by decide))
  · exact fun refuses returns =>
      absurd returns (neither (outcome_isSome.mpr (.inr refuses)) (by decide))
  · exact fun settles lost => absurd lost (neither settles (by decide))

theorem not_untouched {status : InterbankTransferStatus}
    (current : later.status transferId = some status) (final : status ≠ .debited) :
    ¬ Untouched transferId db later := by
  rintro ⟨debited, -⟩
  exact final (Option.some.inj (current.symm.trans debited))

theorem met_iff (wellFormed : WellFormed db) (after : WellFormed later)
    (debited : db.status transferId = some .debited) (fresh : ¬ db.hasTransfer turn.reversalId)
    (left_ : later.books transferId =
      if blocked then db.books transferId else turn.change transferId (db.books transferId)) :
    turn.Met transferId db later ↔ turn.Unhindered blocked transferId db := by
  by_cases idle : turn.answer.outcome = none ∨ turn.fate = .fails
  · rw [change_idle idle, ite_self] at left_
    exact met_iff_idle wellFormed after debited idle left_
  obtain ⟨some_, works⟩ := not_or.mp idle
  have settles : turn.answer.outcome.isSome = true := Option.isSome_iff_ne_none.mpr some_
  obtain ⟨interbank, member, spelled, -⟩ := mem_of_status debited
  obtain ⟨original, present, same, -⟩ := wellFormed.reversible member
  have id : original.id = transferId := same.trans spelled
  have underway : (db.books transferId).status = some .debited := debited
  -- The status that the turn leaves, when it is reached.
  have moved (reached : blocked = false) : ∃ status, later.status transferId = some status ∧
      status ≠ .debited ∧
      (turn.answer = .settlement .confirmed → status = .confirmed) ∧
      (turn.answer.refuses = true → status = .compensated ∧
        (RefundedOnce transferId db later ↔ ¬ db.hasKey (compensationKey transferId.text))) := by
    rw [reached, if_neg Bool.false_ne_true] at left_
    rcases outcome_isSome.mp settles with confirmed | refuses
    · rw [change_confirmed confirmed works, Books.settle, if_pos underway] at left_
      exact ⟨.confirmed, congrArg Books.status left_,
        by decide, fun _ => rfl, fun refuses => by simp [confirmed, HubAnswer.refuses] at refuses⟩
    · have kept : ((db.books transferId).refund
          (reversalOf turn.reversalId transferId.text original)).status = some .debited := by
        rw [Books.refund]
        split <;> exact underway
      rw [change_refused refuses works wellFormed present id, Books.settle, if_pos kept] at left_
      refine ⟨.compensated, congrArg Books.status left_, by decide, ?_, fun _ => ⟨rfl, ?_⟩⟩
      · intro confirmed
        simp [confirmed, HubAnswer.refuses] at refuses
      · have rows : (later.books transferId).transfers = _ := congrArg Books.transfers left_
        exact refundedOnce_iff after present id fresh rows
  have stayed (passed : blocked = true) : Untouched transferId db later := by
    rw [passed, if_pos rfl] at left_
    exact untouched_of_books wellFormed after debited left_
  have reached {status : InterbankTransferStatus} (current : later.status transferId = some status)
      (final : status ≠ .debited) : blocked = false := by
    by_contra passed
    exact not_untouched current final (stayed (by simpa using passed))
  cases fate : turn.fate with
  | fails => exact absurd fate works
  | lost =>
    rw [Met, if_neg (by simp [fate]), if_neg (by simp [fate])]
    constructor
    · intro untouched
      have passed : blocked = true := by
        by_contra on
        obtain ⟨status, current, final, -⟩ := moved (by simpa using on)
        exact not_untouched current final untouched
      exact ⟨by simp [fate], by simp [fate], fun _ _ => passed⟩
    · intro unhindered
      exact stayed (unhindered.undone settles fate)
  | returns =>
    rcases outcome_isSome.mp settles with confirmed | refuses
    · rw [Met, if_pos ⟨confirmed, fate⟩]
      constructor
      · intro current
        exact ⟨fun _ _ => reached current (by decide),
          by simp [confirmed, HubAnswer.refuses], by simp [fate]⟩
      · intro unhindered
        obtain ⟨status, current, -, confirms, -⟩ := moved (unhindered.reached settles fate)
        rw [current, confirms confirmed]
    · have other : ¬ (turn.answer = .settlement .confirmed ∧ turn.fate = .returns) := by
        rintro ⟨confirmed, -⟩
        simp [confirmed, HubAnswer.refuses] at refuses
      rw [Met, if_neg other, if_pos ⟨refuses, fate⟩]
      constructor
      · rintro ⟨current, once⟩
        have open_ := reached current (by decide)
        obtain ⟨status, -, -, -, compensates⟩ := moved open_
        exact ⟨fun _ _ => open_, fun _ _ => (compensates refuses).2.mp once, by simp [fate]⟩
      · intro unhindered
        obtain ⟨status, current, -, -, compensates⟩ := moved (unhindered.reached settles fate)
        obtain ⟨same, once⟩ := compensates refuses
        exact ⟨same ▸ current, once.mpr (unhindered.free refuses fate)⟩

end Turn

variable {turns : String → Turn} {rows : List InterbankTransferRow} {db : Database}

/-! ## Three fates are all there are -/

structure Turn.Takes (turn : Turn) (reversalId : Uuid) (now : Int) (answer : HubAnswer)
    (response : Option HubResponse) :
    Prop where
  reversalId : turn.reversalId = reversalId
  now : turn.now = now
  answer : turn.answer = answer
  response : turn.response = response

section Fates

variable {bankId : String} {transferId reversalId : Uuid} {now : Int} {answer : HubAnswer}
    {response : Option HubResponse}
variable {s : System (service bankId)} {thread : Thread (service bankId)}
    {result : Except Failure Response}
variable {outcome : String} {reason : Option Json}

theorem handled_of_changed (fate : Fate) (given : answer.Given response)
    (event : ∀ text, eventOf text response = some ⟨some text, some (.str outcome), reason⟩)
    (wellFormed : WellFormed db)
    (alone : Alone db (Call.reconcile reversalId now transferId.text response) s)
    (changed : s.db ≠ db) :
    ∃ turn : Turn, turn.Takes reversalId now answer response ∧ turn.fate = fate ∧
      s.db = turn.handled transferId outcome db := by
  have holds : (contract (anyRun bankId)).Verified := verified rfl
  obtain ⟨locks, commit⟩ :=
    (alone.change holds (single_program bankId) wellFormed trivial fun _ _ => trivial).resolve_left
      changed
  have handles : (Call.reconcile reversalId now transferId.text response).handling =
      some ⟨reversalId, now, ⟨some transferId.text, some (.str outcome), reason⟩⟩ := by
    simp [Call.handling, event]
  generalize s.db = later at commit
  cases commit with
  | confirmed _ handling text id handles' targets confirms statusLock =>
    obtain rfl := Option.some.inj (handles.symm.trans handles')
    obtain rfl := Option.some.inj targets.1
    obtain rfl := Option.some.inj ((Uuid.parse_text transferId).symm.trans targets.2)
    have written (text : String) (told : SettlementOutcomeEvent)
        (same : eventOf text response = some told) :
        told.outcome = some (.str "CONFIRMED") ∨ told.Printable := by
      obtain rfl := Option.some.inj ((event text).symm.trans same)
      exact .inl confirms
    refine ⟨⟨reversalId, now, answer, response, given, fate, fun _ => written⟩,
      ⟨rfl, rfl, rfl, rfl⟩, rfl, ?_⟩
    rw [Turn.handled, if_pos (Text.plain.inj (Json.str.inj (Option.some.inj confirms)))]
  | compensated _ handling text id original handles' targets refuses present same known bookable
      statusLock printable =>
    obtain rfl := Option.some.inj (handles.symm.trans handles')
    obtain rfl := Option.some.inj targets.1
    obtain rfl := Option.some.inj ((Uuid.parse_text transferId).symm.trans targets.2)
    have written (text : String) (told : SettlementOutcomeEvent)
        (same : eventOf text response = some told) :
        told.outcome = some (.str "CONFIRMED") ∨ told.Printable := by
      obtain rfl := Option.some.inj ((event text).symm.trans same)
      exact .inr printable
    have other : outcome ≠ "CONFIRMED" := fun confirmed =>
      refuses (congrArg (fun text : String => some (Json.str text)) confirmed)
    subst same
    refine ⟨⟨reversalId, now, answer, response, given, fate, fun _ => written⟩,
      ⟨rfl, rfl, rfl, rfl⟩, rfl, ?_⟩
    rw [Turn.handled, if_neg other, find_transfer wellFormed present]

variable (bankId) in
/-- Whatever statement of the handler fails and whichever reply is lost, the call ends like a turn
with one of the fates. -/
def Fated (db : Database) : Prop :=
  ∀ (transferId reversalId : Uuid) (now : Int) (answer : HubAnswer) (response : Option HubResponse)
    (s : System (service bankId)) (thread : Thread (service bankId))
    (result : Except Failure Response),
    answer.Given response → db.status transferId = some .debited →
    Alone db (Call.reconcile reversalId now transferId.text response) s → s.threads = [thread] →
    thread.result = some result → result ≠ .error (.database .crashed) →
    ∃ turn : Turn, turn.Takes reversalId now answer response ∧ s.db = turn.act transferId db ∧
    result.isOk = !turn.stops

theorem fated_silent (given : answer.Given response) (passed : answer.outcome = none)
    (alone : Alone db (Call.reconcile reversalId now transferId.text response) s)
    (only : s.threads = [thread]) (ended : thread.result = some result)
    (alive : result ≠ .error (.database .crashed)) :
    ∃ turn : Turn, turn.Takes reversalId now answer response ∧ s.db = turn.act transferId db ∧
      result.isOk = !turn.stops := by
  obtain ⟨-, none_⟩ :=
    (Turn.eventOf_given given).resolve_right fun ⟨_, _, some_, _⟩ => by simp [passed] at some_
  have silent : (service bankId).program (Call.reconcile reversalId now transferId.text response) =
      .done (if answer.throws then .error .fetchFailed else .ok (.reconciled false)) := by
    simp only [service, program, reconcileOne_eq, Turn.reconcileWith_event given, none_]
    cases answer.throws <;> rfl
  obtain ⟨same, last, single, over_⟩ := alone.ended silent
  obtain rfl := List.singleton_inj.mp (only.symm.trans single)
  have final := over_.resolve_right fun crashed =>
    alive (Option.some.inj (ended.symm.trans crashed))
  rw [ended] at final
  refine ⟨⟨reversalId, now, answer, response, given, .returns, fun _ text event told => ?_⟩,
    ⟨rfl, rfl, rfl, rfl⟩, ?_, ?_⟩
  · simp [none_] at told
  · rw [same, Turn.act, passed]
  · rw [Option.some.inj final, Turn.stops, passed]
    cases answer.throws <;> rfl

theorem fated (wellFormed : WellFormed db) : Fated bankId db := by
  intro transferId reversalId now answer response s thread result given debited alone only ended alive
  rcases Turn.eventOf_given given with ⟨passed, -⟩ | ⟨outcome, reason, passed, event⟩
  · exact fated_silent given passed alone only ended alive
  have quiet : answer.throws = false := by
    cases answer <;> simp_all [HubAnswer.outcome, HubAnswer.throws]
  have settles (fate : Fate) (working : fate ≠ .fails) (changed : s.db ≠ db) : ∃ turn : Turn,
      turn.Takes reversalId now answer response ∧ s.db = turn.act transferId db ∧
      turn.stops = decide (fate ≠ .returns) := by
    obtain ⟨turn, takes, same, handled⟩ :=
      handled_of_changed fate given event wellFormed alone changed
    refine ⟨turn, takes, ?_, ?_⟩
    · rw [Turn.act, takes.answer, passed]
      exact handled.trans (if_neg (same ▸ working)).symm
    · simp [Turn.stops, takes.answer, quiet, passed, same]
  cases result with
  | ok value =>
    have changed : s.db ≠ db := by
      intro same
      have holds : (contract (anyRun bankId)).Verified := verified rfl
      have sound := alone.sound holds wellFormed trivial fun _ _ => trivial
      obtain ⟨last, single, calls⟩ := alone.thread
      obtain rfl := List.singleton_inj.mp (only.symm.trans single)
      have success : Success thread.call value thread.history s.db :=
        Sound.post sound (only ▸ List.mem_singleton_self thread) ended
      obtain ⟨text, id, status, targets, current, final⟩ := success.settled
        ⟨reversalId, now, ⟨some transferId.text, some (.str outcome), reason⟩⟩
        (by simp [calls, Call.handling, event])
      obtain rfl := Option.some.inj targets.1
      obtain rfl := Option.some.inj ((Uuid.parse_text transferId).symm.trans targets.2)
      rw [same, debited] at current
      exact final (Option.some.inj current).symm
    obtain ⟨turn, takes, left_, stops⟩ := settles .returns (by decide) changed
    exact ⟨turn, takes, left_, by rw [stops]; rfl⟩
  | error error =>
    by_cases same : s.db = db
    · refine ⟨⟨reversalId, now, answer, response, given, .fails, fun works => absurd rfl works⟩,
        ⟨rfl, rfl, rfl, rfl⟩, ?_, ?_⟩
      · rw [same, Turn.act, passed]
        rfl
      · simp [Turn.stops, quiet, passed, Except.isOk, Except.toBool]
    · obtain ⟨turn, takes, left_, stops⟩ := settles .lost (by decide) same
      exact ⟨turn, takes, left_, by rw [stops]; rfl⟩

end Fates

/-- Every transfer gets what it is owed just if no turn is hindered; and a call ends like a turn. -/
theorem sweep_settles (bankId : String) (wellFormed : WellFormed db) (now : Int)
    (drawn : Drawn turns (db.stale (now - STALE_AFTER_MS)) db) :
    Fated bankId db ∧ ∃ result later,
    (sweep now turns).evaluate none db = some ⟨result, none, later⟩ ∧
      ((∀ row ∈ db.stale (now - STALE_AFTER_MS), (turnOf turns row).Met row.transferId db later) ↔
        ∀ before row after, db.stale (now - STALE_AFTER_MS) = before ++ row :: after →
          (turnOf turns row).Unhindered (before.any (stopsAt turns)) row.transferId db) := by
  have ready := ready_stale wellFormed drawn
  obtain ⟨result, later, evaluated, same⟩ := evaluate_sweep wellFormed drawn
  refine ⟨fated wellFormed, result, later, evaluated, ?_⟩
  generalize db.stale (now - STALE_AFTER_MS) = stale at ready same
  have each (before after : List InterbankTransferRow) (row : InterbankTransferRow)
      (split_ : stale = before ++ row :: after) :
      (turnOf turns row).Met row.transferId db later ↔
        (turnOf turns row).Unhindered (before.any (stopsAt turns)) row.transferId db := by
    subst split_
    have member : row ∈ before ++ row :: after := List.mem_append_right _ List.mem_cons_self
    refine Turn.met_iff wellFormed (same ▸ ready.run) (ready.debited row member)
      (ready.drawn.fresh row member) ?_
    rw [same]
    exact Pass.part_run ready.separate db
  constructor
  · intro met before row after split_
    exact (each before after row split_).mp
      (met row (split_ ▸ List.mem_append_right _ List.mem_cons_self))
  · intro unhindered row member
    obtain ⟨before, after, split_⟩ := List.append_of_mem member
    exact (each before after row split_).mpr (unhindered before row after split_)

section Samples

def overdue : List (Action (service "bank-a")) :=
  opening "bank-a" ++ [.start (debit (sampleId 3) 200)] ++ runs 3 10 ++
  [.start (Call.interbankTransfer ⟨sampleId 6, 8, 1⟩ (some "second")
    ⟨(sampleId 0).text, "bank-b", "iban", .finite 200⟩)] ++ runs 4 10

def observeOverdue (db : Database) : List Uuid × Bool :=
  ((db.stale (400000 - STALE_AFTER_MS)).map InterbankTransferRow.transferId,
    decide (¬ db.hasTransfer (sampleId 8) ∧ ¬ db.hasTransfer (sampleId 9) ∧
      ¬ db.hasKey (compensationKey (sampleId 6).text)))

theorem overdue_reached : ∃ (db : Database) (s : System (service "bank-a")),
    Reachable (anyRun "bank-a") s ∧ s.db = db ∧
    observeOverdue db = ([sampleId 3, sampleId 6], true) := by
  have evaluated : (System.run { db := (anyRun "bank-a").initial } overdue).map
      (fun s => observeOverdue s.db) =
      some ([sampleId 3, sampleId 6], true) := by
    decide +kernel
  obtain ⟨s, reachable, observed, -⟩ :=
    Reachable.of_evaluation evaluated (fun _ _ => trivial) fun _ _ _ => trivial
  exact ⟨s.db, s, reachable, rfl, observed⟩

def inOrder (first second : Turn) (transferId : String) : Turn :=
  if transferId = (sampleId 3).text then first else second

def unanswered : Turn :=
  ⟨sampleId 8, 2, .noResponse, none, .noResponse, .returns, fun _ _ _ told => by cases told⟩

def pendingTurn : Turn :=
  ⟨sampleId 8, 2, .settlement .pending, _,
    .settlement .pending 200 [("status", .str "PENDING")] rfl rfl, .returns,
    fun _ _ _ told => by cases told⟩

def missing : Turn := ⟨sampleId 9, 3, .noRecord, _, .noRecord none, .returns, fun _ _ _ told => by
  cases told
  exact .inr rfl⟩

def credited : Turn :=
  ⟨sampleId 9, 3, .settlement .confirmed, _,
    .settlement .confirmed 200 [("status", .str "CONFIRMED")] rfl rfl, .returns,
    fun _ _ _ told => by
      cases told
      exact .inl rfl⟩

section Order

variable {db : Database} {first second : Turn}

theorem stale_overdue (observed : observeOverdue db = ([sampleId 3, sampleId 6], true)) :
    ∃ older newer, db.stale (400000 - STALE_AFTER_MS) = [older, newer] ∧
      older.transferId = sampleId 3 ∧
      newer.transferId = sampleId 6 := by
  have ids : (db.stale (400000 - STALE_AFTER_MS)).map InterbankTransferRow.transferId =
      [sampleId 3, sampleId 6] :=
    congrArg Prod.fst observed
  obtain ⟨older, rest, same, first, others⟩ := List.map_eq_cons_iff.mp ids
  obtain ⟨newer, none_, rfl, second, last⟩ := List.map_eq_cons_iff.mp others
  rw [List.map_eq_nil_iff] at last
  exact ⟨older, newer, last ▸ same, first, second⟩

theorem turnOf_older {row : InterbankTransferRow} (older : row.transferId = sampleId 3) :
    turnOf (inOrder first second) row = first := by
  rw [turnOf, older]
  rfl

theorem turnOf_newer {row : InterbankTransferRow} (newer : row.transferId = sampleId 6) :
    turnOf (inOrder first second) row = second := by
  have apart : (sampleId 6).text ≠ (sampleId 3).text :=
    fun same => absurd (Uuid.text_injective same) (by decide)
  rw [turnOf, newer, inOrder, if_neg apart]

theorem drawn_overdue (observed : observeOverdue db = ([sampleId 3, sampleId 6], true))
    (draws : first.reversalId = sampleId 8 ∧ second.reversalId = sampleId 9) :
    Drawn (inOrder first second) (db.stale (400000 - STALE_AFTER_MS)) db := by
  have free := congrArg Prod.snd observed
  simp only [observeOverdue, decide_eq_true_eq] at free
  obtain ⟨older, newer, same, isOlder, isNewer⟩ := stale_overdue observed
  rw [same]
  constructor
  · simp only [List.map_cons, List.map_nil, turnOf_older isOlder, turnOf_newer isNewer,
      draws.1, draws.2]
    decide
  · intro row member
    rcases List.mem_cons.mp member with rfl | last
    · rw [turnOf_older isOlder, draws.1]
      exact free.1
    · obtain rfl := List.mem_singleton.mp last
      rw [turnOf_newer isNewer, draws.2]
      exact free.2.1

end Order

/-- PENDING for the older transfer, 404 for the newer one. -/
theorem sweep_settles_missing : ∃ (db : Database) (s : System (service "bank-a")),
    Reachable (anyRun "bank-a") s ∧ s.db = db ∧
    ∃ result later, (sweep 400000 (inOrder pendingTurn missing)).evaluate none db =
      some ⟨result, none, later⟩ ∧
      Untouched (sampleId 3) db later ∧ later.status (sampleId 6) = some .compensated ∧
      RefundedOnce (sampleId 6) db later := by
  obtain ⟨db, s, reachable, rfl, observed⟩ := overdue_reached
  have wellFormed : WellFormed s.db := Reachable.wellFormed rfl reachable
  have drawn : Drawn (inOrder pendingTurn missing) _ _ := drawn_overdue observed ⟨rfl, rfl⟩
  obtain ⟨-, result, later, evaluated, settles⟩ := sweep_settles "bank-a" wellFormed 400000 drawn
  have free := congrArg Prod.snd observed
  simp only [observeOverdue, decide_eq_true_eq] at free
  obtain ⟨older, newer, same, isOlder, isNewer⟩ := stale_overdue observed
  rw [same] at settles
  have met := settles.mpr ?_
  · have waits := met older (by simp)
    have refunded := met newer (by simp)
    rw [turnOf_older isOlder, isOlder] at waits
    rw [turnOf_newer isNewer, isNewer] at refunded
    exact ⟨s.db, s, reachable, rfl, result, later, evaluated, waits, refunded⟩
  · intro before row after split_
    cases before with
    | nil =>
      obtain ⟨rfl, -⟩ := List.cons.inj split_
      rw [turnOf_older isOlder]
      exact ⟨nofun, nofun, nofun⟩
    | cons head rest =>
      obtain ⟨rfl, tail⟩ := List.cons.inj split_
      obtain rfl : rest = [] := by
        cases rest with
        | nil => rfl
        | cons _ _ => simp at tail
      obtain ⟨rfl, -⟩ := List.cons.inj tail
      rw [turnOf_newer isNewer, isNewer]
      refine ⟨fun _ _ => ?_, fun _ _ => free.2.2, nofun⟩
      simp [stopsAt, turnOf_older isOlder, Turn.stops, pendingTurn, HubAnswer.throws,
        HubAnswer.outcome]

theorem blocked_overdue {db : Database} (wellFormed : WellFormed db)
    (observed : observeOverdue db = ([sampleId 3, sampleId 6], true)) :
    ∃ result, (sweep 400000 (inOrder unanswered credited)).evaluate none db =
      some ⟨result, none, db⟩ ∧
      db.status (sampleId 6) = some .debited ∧
      ¬ ∀ row ∈ db.stale (400000 - STALE_AFTER_MS),
      (turnOf (inOrder unanswered credited) row).Met row.transferId db db := by
  have drawn : Drawn (inOrder unanswered credited) _ _ := drawn_overdue observed ⟨rfl, rfl⟩
  obtain ⟨result, later, evaluated, left_⟩ := evaluate_sweep wellFormed drawn
  have ready := ready_stale wellFormed drawn
  obtain ⟨older, newer, same, isOlder, isNewer⟩ := stale_overdue observed
  have ends : stopsAt (inOrder unanswered credited) older = true := by
    rw [stopsAt, turnOf_older isOlder]
    rfl
  have unchanged : actAt (inOrder unanswered credited) older db = db := by
    rw [actAt, turnOf_older isOlder]
    rfl
  have stays : later = db := by
    rw [left_, same, Pass.run_last ends, unchanged]
  have debited := ready.debited newer (by simp [same])
  refine ⟨result, stays ▸ evaluated, isNewer ▸ debited, ?_⟩
  intro met
  have confirmed := met newer (by simp [same])
  rw [turnOf_newer isNewer, Turn.Met, if_pos ⟨rfl, rfl⟩, debited] at confirmed
  cases confirmed

/-- The request for the older transfer throws, and the newer one, which the Hub has CONFIRMED, is
never asked about. Nothing has changed, so every later sweep ends the same way. -/
theorem sweep_settles_fails : ∃ (db : Database) (s : System (service "bank-a")),
    Reachable (anyRun "bank-a") s ∧ s.db = db ∧
    (db.stale (400000 - STALE_AFTER_MS)).map InterbankTransferRow.transferId =
      [sampleId 3, sampleId 6] ∧
    ∃ result, (sweep 400000 (inOrder unanswered credited)).evaluate none db =
      some ⟨result, none, db⟩ ∧
      db.status (sampleId 6) = some .debited ∧
      ¬ ∀ row ∈ db.stale (400000 - STALE_AFTER_MS),
      (turnOf (inOrder unanswered credited) row).Met row.transferId db db := by
  obtain ⟨db, s, reachable, rfl, observed⟩ := overdue_reached
  have wellFormed : WellFormed s.db := Reachable.wellFormed rfl reachable
  exact ⟨s.db, s, reachable, rfl, congrArg Prod.fst observed, blocked_overdue wellFormed observed⟩

end Samples

end ReconciliationService

end BankA
