import PaymentLedger.Hub.Invariant
import PaymentLedger.Hub.Statements
import PaymentLedger.Shared.Evaluation

set_option autoImplicit false

-- Whether the Hub takes a request that keeps the limits of its tables.

namespace Hub

open Transactional Postgres SettlementsService

/-- The fields of a request. All but the id of the payee bank keep the limits of their columns. -/
structure Request where
  id : Uuid
  payerBankId : String
  payeeBankId : String
  payeeAccountRef : String
  amount : Money
  stored : storable payerBankId = true ∧ storable payeeBankId = true ∧
    storable payeeAccountRef = true
  named : 1 ≤ payeeBankId.length
  refLength : 1 ≤ payeeAccountRef.length ∧ payeeAccountRef.length ≤ 255
  positive : 0 < amount.cents

namespace Request

variable (request : Request)

def Fits : Prop := request.payeeBankId.length ≤ 64

instance : Decidable request.Fits := inferInstanceAs (Decidable (_ ≤ _))

def event : SettlementRequestedEvent where
  settlementId := some request.id.text
  payerBankId := some request.payerBankId
  payeeBankId := some request.payeeBankId
  payeeAccountRef := some request.payeeAccountRef
  amountCents := some (.num request.amount.cents)

def row (status : SettlementStatus) (rejectReason : Option String) : SettlementRow where
  id := request.id
  payerBankId := request.payerBankId
  payeeBankId := request.payeeBankId
  payeeAccountRef := request.payeeAccountRef
  amount := request.amount.cents
  status := status
  rejectReason := rejectReason

def new (status : SettlementStatus) (rejectReason : Option String) : NewSettlement where
  id := some request.id.text
  payerBankId := some request.payerBankId
  payeeBankId := some request.payeeBankId
  payeeAccountRef := some request.payeeAccountRef
  amountCents := some (.num request.amount.cents)
  status := status
  rejectReason := rejectReason

variable {request} {status : SettlementStatus} {rejectReason : Option String} {db : Database}

theorem bigint_amount : bigint (some (.num request.amount.cents)) = .ok request.amount.cents := by
  have safe := request.amount.safe
  have small : -2 ^ 63 ≤ request.amount.cents ∧ request.amount.cents < 2 ^ 63 := by
    simp only [Double.maxSafeInteger] at safe
    simp only [Money.cents]
    omega
  simp only [bigint, small, and_self, if_true]

theorem fromCents_amount :
    Money.fromCents (amountOf (some (.num request.amount.cents))) = .ok request.amount := by
  have safe := request.amount.safe
  simp [Money.fromCents, amountOf, Json.number, SafeInteger.ofDouble, Money.cents, safe]

theorem new_row (fits : request.Fits) (distinct : request.payerBankId ≠ request.payeeBankId)
    (reason : StatusReason status rejectReason) :
    (request.new status rejectReason).row = .ok (request.row status rejectReason) := by
  obtain ⟨payer, payee, ref⟩ := request.stored
  have checked : (request.row status rejectReason).Checked :=
    ⟨⟨request.named, fits⟩, request.refLength, request.positive, distinct, reason⟩
  simp only [NewSettlement.row, bind_eq_ok, notNull_eq_ok, uuid_eq_ok, text_eq_ok, require_eq_ok]
  exact ⟨_, rfl, _, Uuid.parse_text _, _, rfl, _, ⟨payer, rfl⟩, _, rfl, _, ⟨payee, rfl⟩, _, rfl, _,
    ⟨ref, rfl⟩, _, bigint_amount, (), checked, rfl⟩

theorem insert_new (fits : request.Fits) (distinct : request.payerBankId ≠ request.payeeBankId)
    (reason : StatusReason status rejectReason) (fresh : db.settlement request.id = none)
    (payer : db.hasBank request.payerBankId) :
    execute (.insertSettlement (request.new status rejectReason)) db [] =
      .ok { answer := some (request.row status rejectReason),
            writes := [.settlement (request.row status rejectReason)],
            locks := (request.row status rejectReason).locks } := by
  have fresh : ¬ (db.settlement (request.row status rejectReason).id).isSome := by simp [row, fresh]
  simp only [execute, insertSettlement, bind_eq_ok]
  refine ⟨_, new_row fits distinct reason, ?_⟩
  simp only [if_neg fresh, bind_eq_ok, require_eq_ok]
  exact ⟨(), payer, rfl⟩

theorem insert_old (fits : request.Fits) (distinct : request.payerBankId ≠ request.payeeBankId)
    (reason : StatusReason status rejectReason) {old : SettlementRow}
    (present : db.settlement request.id = some old) :
    execute (.insertSettlement (request.new status rejectReason)) db [] =
      .ok { answer := none } := by
  have taken : (db.settlement (request.row status rejectReason).id).isSome := by simp [row, present]
  simp only [execute, insertSettlement, bind_eq_ok]
  refine ⟨_, new_row fits distinct reason, ?_⟩
  rw [if_pos taken]
  rfl

/-- The CHECK comes before ON CONFLICT, so that it fails for an id that is there as well. -/
theorem insert_unfit (unfit : ¬ request.Fits) :
    execute (.insertSettlement (request.new status rejectReason)) db [] =
      .error .checkViolation := by
  obtain ⟨payer, payee, ref⟩ := request.stored
  have unchecked : ¬ (request.row status rejectReason).Checked := fun checked => unfit checked.1.2
  have id : notNull (some request.id.text) >>= uuid = .ok request.id :=
    uuid_eq_ok.mpr (Uuid.parse_text _)
  have stored {value : String} (storable : storable value = true) : notNull (some value) >>= text =
      .ok value :=
    text_eq_ok.mpr ⟨storable, rfl⟩
  have refused : (request.new status rejectReason).row = .error .checkViolation := by
    have same : (request.new status rejectReason).row =
        require (request.row status rejectReason).Checked .checkViolation >>=
        fun _ => pure (request.row status rejectReason) := by
      simp only [NewSettlement.row, new, ← bind_assoc, id, stored payer, stored payee, stored ref,
        bigint_amount]
      rfl
    rw [same, require, if_neg unchecked]
    rfl
  change (request.new status rejectReason).row >>= _ = _
  rw [refused]
  rfl

end Request

variable {db : Database}

theorem selectBank_found (db : Database) {id : String} (stored : storable id = true) :
    execute (.selectBank (some id)) db [] =
      .ok { answer := db.banks.find? fun row => row.id = id } := by
  simp only [execute, selectBank, bind_eq_ok, text_eq_ok]
  exact ⟨id, ⟨stored, rfl⟩, rfl⟩

theorem insertEntry_new (id : Uuid) {bankId : String} {amount : Money}
    (stored : storable bankId = true) (moves : amount.cents ≠ 0) (known : db.hasBank bankId) :
    execute (.insertEntry ⟨some id.text, some bankId, amount⟩) db [] =
      .ok { answer := (), writes := [.ledgerEntry ⟨id, bankId, amount.cents⟩],
            locks := [keyShare bankId] } := by
  simp only [execute, insertEntry, ReserveEntry.row, bind_eq_ok, notNull_eq_ok, uuid_eq_ok,
    text_eq_ok, require_eq_ok]
  exact ⟨_, ⟨_, rfl, _, Uuid.parse_text _, _, rfl, _, ⟨stored, rfl⟩, (), moves, rfl⟩, (),
    known, rfl⟩

theorem insertEvent_new (id : Uuid) {eventId : Nat} {eventType routingKey : String}
    {payload : Json.Object} (fresh : eventId ∉ db.outboxEvents.map Outbox.Row.id)
    (type : storable eventType = true) (key : storable routingKey = true)
    (fields : Outbox.storable payload = true) :
    execute (.insertEvent eventId (some id.text) eventType routingKey payload) db [] =
      .ok { answer := (),
            writes := [.outboxEvent ⟨eventId, id, eventType, routingKey, payload, false⟩],
            locks := [exclusive (.outboxEvent eventId)] } := by
  simp only [execute, insertEvent, Outbox.newRow, bind_eq_ok, notNull_eq_ok, uuid_eq_ok, text_eq_ok,
    require_eq_ok]
  exact ⟨_, rfl, _, ⟨_, Uuid.parse_text _, _, ⟨type, rfl⟩, _, ⟨key, rfl⟩, (), fields, (), fresh,
    rfl⟩, rfl⟩

theorem hasBank_of_find {id : String} : (db.banks.find? fun row => row.id = id).isSome ↔
    db.hasBank id := by
  simp [Database.hasBank, List.find?_isSome]

section Evaluation

theorem fromDomain_ok {α : Type} (value : α) : fromDomain (.ok value) = .done (.ok value) := rfl

variable {α : Type} {now : Txn engine} {statement : Sql} {effect : Reply statement.Answer}
variable {f : statement.Answer → Program α}

theorem evaluate_client (alive : now.aborted = false)
    (ran : execute statement (now.view db) [] = .ok effect) :
    ((sql .client statement).bind f).evaluate (some now) db =
      (f effect.answer).evaluate (some (now.add effect)) db :=
  Prog.evaluate_client alive (exec_eq_ok.mpr ran)

theorem evaluate_read (ran : execute statement db [] = .ok effect) (reads : effect.writes = []) :
    ((sql .pool statement).bind f).evaluate none db = (f effect.answer).evaluate none db := by
  have evaluated := Prog.evaluate_pool (f := f) (exec_eq_ok.mpr ran)
  rw [reads] at evaluated
  exact evaluated

theorem evaluate_begin {f : Unit → Program α} {txn : Option (Txn engine)} :
    ((perform .begin).bind f).evaluate txn db = (f ()).evaluate (some {}) db := rfl

variable {error : PgError}

theorem exec_of_error (raised : execute statement db [] = .error error) :
    engine.exec statement db [] = .error (.database error) := by
  change (execute statement db []).mapError Failure.database = _
  rw [raised]
  rfl

theorem evaluate_client_error (alive : now.aborted = false)
    (raised : execute statement (now.view db) [] = .error error) :
    ((sql .client statement).bind f).evaluate (some now) db =
      some ⟨.error (.database error), some now.abort, db⟩ :=
  Prog.evaluate_client_error alive (exec_of_error raised)

theorem evaluate_rollbackOnError_error {body : Program α} {txn after : Option (Txn engine)}
    {later : Database} {failure : Failure}
    (raised : body.evaluate txn db = some ⟨.error failure, after, later⟩) :
    (rollbackOnError body).evaluate txn db = some ⟨.error failure, none, later⟩ :=
  (Prog.evaluate_tryCatch_error raised).trans rfl

end Evaluation

theorem storable_outcomeRoutingKey {bankId : String} (stored : storable bankId = true) :
    storable (settlementOutcomeRoutingKey (some bankId)) = true := by
  have fixed : storable "settlement.outcome." = true := by decide
  change storable ("settlement.outcome." ++ bankId) = true
  rw [storable_append, stored, Bool.and_true]
  exact fixed

theorem storable_notifyRoutingKey {bankId : String} (stored : storable bankId = true) :
    storable (settlementNotifyRoutingKey (some bankId)) = true := by
  have fixed : storable "settlement.notify." = true := by decide
  change storable ("settlement.notify." ++ bankId) = true
  rw [storable_append, stored, Bool.and_true]
  exact fixed

theorem storable_rejectedPayload (id : Uuid) :
    Outbox.storable (rejectedPayload id.text) = true := by
  have names : storable "settlementId" = true ∧ storable "outcome" = true ∧
      storable "reason" = true := by
    decide
  have values : storable "REJECTED" = true ∧ storable UNKNOWN_PAYEE_BANK = true := by decide
  simp [Outbox.storable, rejectedPayload, names, values]

theorem storable_notifyRow {id : Uuid} {row : SettlementRow} {eventId : Nat}
    (payer : storable row.payerBankId = true) (ref : storable row.payeeAccountRef = true) :
    Outbox.storable (notifyRow eventId id.text row).payload = true := by
  have names : storable "settlementId" = true ∧ storable "payerBankId" = true ∧
      storable "payeeAccountRef" = true ∧
      storable "amountCents" = true := by
    decide
  simp [Outbox.storable, notifyRow, names, payer, ref]

namespace Request

variable {request : Request} {eventId : Nat}

/-- The database after the request: a redelivery finds the row of the first. -/
def settled (request : Request) (eventId : Nat) (db : Database) : Database :=
  if (db.settlement request.id).isSome then db
  else if db.hasBank request.payeeBankId then
    let row := request.row .pending none
    ((db.enter row).append row.entries).announce (notifyRow eventId request.id.text row)
  else
    let row := request.row .rejected (some UNKNOWN_PAYEE_BANK)
    (db.enter row).announce (rejectedRow eventId row)

theorem evaluate_rejected (fits : request.Fits) (payer : db.hasBank request.payerBankId)
    (unknown : ¬ db.hasBank request.payeeBankId)
    (fresh : eventId ∉ db.outboxEvents.map Outbox.Row.id) :
    (handleRequested eventId request.event).evaluate none db =
      some ⟨.ok (), none, request.settled eventId db⟩ := by
  have distinct : request.payerBankId ≠ request.payeeBankId := fun same => unknown (same ▸ payer)
  have reason : StatusReason .rejected (some UNKNOWN_PAYEE_BANK) := by simp [StatusReason]
  have absent : (db.banks.find? fun row => row.id = request.payeeBankId) = none := by
    rw [← Option.not_isSome_iff_eq_none, hasBank_of_find]
    exact unknown
  have selected := selectBank_found db request.stored.2.1
  rw [absent] at selected
  simp only [handleRequested, BankRepository.findById, event, Prog.bind_eq]
  rw [evaluate_read selected rfl]
  refine Prog.evaluate_tryCatch_ok ?_
  simp only [Prog.bind_eq, SettlementRepository.insert, Prog.bind_assoc, Prog.pure_eq,
    Prog.done_bind]
  rw [evaluate_begin]
  cases present : db.settlement request.id with
  | some old =>
    have inserted := insert_old fits distinct reason present
    rw [new] at inserted
    rw [evaluate_client rfl inserted]
    -- A redelivery: nothing to write.
    have unchanged : request.settled eventId db = db := by rw [settled, if_pos (by simp [present])]
    rw [unchanged]
    rfl
  | none =>
    have inserted := insert_new fits distinct reason present payer
    rw [new] at inserted
    rw [evaluate_client rfl inserted]
    let row := request.row .rejected (some UNKNOWN_PAYEE_BANK)
    have type : storable "settlement.outcome" = true := by decide
    have unused : eventId ∉ (db.enter row).outboxEvents.map Outbox.Row.id := fresh
    have announced := insertEvent_new request.id unused type
      (storable_outcomeRoutingKey request.stored.1)
      (storable_rejectedPayload request.id)
    refine (evaluate_client rfl announced).trans ?_
    rw [settled, if_neg (by simp [present]), if_neg unknown]
    rfl

def settlement (request : Request) (distinct : request.payerBankId ≠ request.payeeBankId) :
    Settlement where
  id := some request.id.text
  payerBankId := some request.payerBankId
  payeeBankId := some request.payeeBankId
  payeeAccountRef := some request.payeeAccountRef
  amount := request.amount
  positive := request.positive
  distinct := fun same => distinct (Option.some.inj same)

theorem create_settlement (distinct : request.payerBankId ≠ request.payeeBankId) :
    Settlement.create (some request.id.text) (some request.payerBankId) (some request.payeeBankId)
      (some request.payeeAccountRef) request.amount = .ok (request.settlement distinct) := by
  have positive := (Money.isPositive_iff request.amount).mpr request.positive
  have different : ¬ some request.payerBankId = some request.payeeBankId :=
    fun same => distinct (Option.some.inj same)
  rw [Settlement.create, dif_pos positive, dif_neg different]
  rfl

theorem create_same (same : request.payerBankId = request.payeeBankId) :
    Settlement.create (some request.id.text) (some request.payerBankId) (some request.payeeBankId)
      (some request.payeeAccountRef) request.amount = .error .sameBankSettlement := by
  have positive := (Money.isPositive_iff request.amount).mpr request.positive
  rw [Settlement.create, dif_pos positive, dif_pos (congrArg some same)]

/-- Both parties are known, but a bank does not settle with itself. -/
theorem evaluate_same (payer : db.hasBank request.payerBankId)
    (same : request.payerBankId = request.payeeBankId) :
    (handleRequested eventId request.event).evaluate none db =
      some ⟨.error (.domain .sameBankSettlement), none, db⟩ := by
  obtain ⟨bank, found⟩ := Option.isSome_iff_exists.mp (hasBank_of_find.mpr (same ▸ payer))
  have selected := selectBank_found db request.stored.2.1
  rw [found] at selected
  simp only [handleRequested, BankRepository.findById, event, Prog.bind_eq]
  rw [evaluate_read selected rfl]
  simp only [fromCents_amount, fromDomain_ok, Prog.done_bind, create_same same]
  rfl

theorem evaluate_opened (fits : request.Fits) (payer : db.hasBank request.payerBankId)
    (payee : db.hasBank request.payeeBankId) (distinct : request.payerBankId ≠ request.payeeBankId)
    (fresh : eventId ∉ db.outboxEvents.map Outbox.Row.id) :
    (handleRequested eventId request.event).evaluate none db =
      some ⟨.ok (), none, request.settled eventId db⟩ := by
  have reason : StatusReason .pending none := by simp [StatusReason]
  obtain ⟨bank, found⟩ := Option.isSome_iff_exists.mp (hasBank_of_find.mpr payee)
  have selected := selectBank_found db request.stored.2.1
  rw [found] at selected
  simp only [handleRequested, BankRepository.findById, event, Prog.bind_eq]
  rw [evaluate_read selected rfl]
  refine Prog.evaluate_tryCatch_ok ?_
  simp only [fromCents_amount, create_settlement distinct, Prog.bind_eq,
    SettlementRepository.insert, Prog.bind_assoc, Prog.pure_eq, Prog.done_bind, fromDomain_ok]
  rw [evaluate_begin]
  cases present : db.settlement request.id with
  | some old =>
    have inserted := insert_old fits distinct reason present
    refine (evaluate_client rfl inserted).trans ?_
    have unchanged : request.settled eventId db = db := by rw [settled, if_pos (by simp [present])]
    rw [unchanged]
    rfl
  | none =>
    have inserted := insert_new fits distinct reason present payer
    refine (evaluate_client rfl inserted).trans ?_
    simp only [LedgerRepository.append, Settlement.entries, Prog.forEach, Prog.bind_assoc,
      Prog.done_bind, Option.map_some]
    let row := request.row .pending none
    have moves : request.amount.cents ≠ 0 := Int.ne_of_gt request.positive
    have back : request.amount.negated.cents ≠ 0 := by simpa using moves
    have payerKnown : (db.enter row).hasBank request.payerBankId := payer
    have debited := insertEntry_new request.id request.stored.1 back payerKnown
    refine (evaluate_client rfl debited).trans ?_
    let debit : LedgerEntryRow := ⟨request.id, request.payerBankId, -request.amount.cents⟩
    have payeeKnown : ((db.enter row).append [debit]).hasBank request.payeeBankId := payee
    have credited := insertEntry_new request.id request.stored.2.1 moves payeeKnown
    refine (evaluate_client rfl credited).trans ?_
    let credit : LedgerEntryRow := ⟨request.id, request.payeeBankId, request.amount.cents⟩
    have unused : eventId ∉ (((db.enter row).append [debit]).append [credit]).outboxEvents.map
        Outbox.Row.id := fresh
    have type : storable "settlement.notify" = true := by decide
    have payload : Outbox.storable (notifyRow eventId request.id.text row).payload = true :=
      storable_notifyRow request.stored.1 request.stored.2.2
    have announced := insertEvent_new request.id unused type
      (storable_notifyRoutingKey request.stored.2.1) payload
    refine (evaluate_client rfl announced).trans ?_
    have both : ((db.enter row).append [debit]).append [credit] =
        (db.enter row).append row.entries := by
      simp only [Database.append, List.append_assoc]
      rfl
    rw [settled, if_neg (by simp [present]), if_pos payee]
    simp only
    rw [← both]
    rfl

theorem evaluate_unfit (unfit : ¬ request.Fits)
    (distinct : request.payerBankId ≠ request.payeeBankId) :
    (handleRequested eventId request.event).evaluate none db =
      some ⟨.error (.database .checkViolation), none, db⟩ := by
  have refused {status : SettlementStatus} {rejectReason : Option String} {now : Txn engine}
      {α : Type} {f : Option SettlementRecord → Program α} (alive : now.aborted = false) :
      ((SettlementRepository.insert (request.new status rejectReason)).bind f).evaluate
      (some now) db =
        some ⟨.error (.database .checkViolation), some now.abort, db⟩ := by
    simp only [SettlementRepository.insert, Prog.bind_eq, Prog.bind_assoc]
    exact evaluate_client_error alive (insert_unfit unfit)
  have selected := selectBank_found db request.stored.2.1
  simp only [handleRequested, BankRepository.findById, event, Prog.bind_eq]
  rw [evaluate_read selected rfl]
  cases db.banks.find? fun row => row.id = request.payeeBankId with
  | none => exact evaluate_rollbackOnError_error (evaluate_begin.trans (refused rfl))
  | some bank =>
    simp only [fromCents_amount, create_settlement distinct, fromDomain_ok, Prog.done_bind]
    exact evaluate_rollbackOnError_error (evaluate_begin.trans (refused rfl))

theorem evaluate_handleRequested (payer : db.hasBank request.payerBankId)
    (fresh : eventId ∉ db.outboxEvents.map Outbox.Row.id) :
    (handleRequested eventId request.event).evaluate none db =
      if request.payerBankId = request.payeeBankId then some ⟨.error (.domain .sameBankSettlement), none, db⟩
      else if request.Fits then some ⟨.ok (), none, request.settled eventId db⟩
      else some ⟨.error (.database .checkViolation), none, db⟩ := by
  split
  · rename_i same
    exact evaluate_same payer same
  · rename_i distinct
    split
    · rename_i fits
      by_cases payee : db.hasBank request.payeeBankId
      · exact evaluate_opened fits payer payee distinct fresh
      · exact evaluate_rejected fits payer payee fresh
    · rename_i unfit
      exact evaluate_unfit unfit distinct

theorem settled_settlement (request : Request) (eventId : Nat) (db : Database) :
    ∃ row, (request.settled eventId db).settlement request.id = some row ∧
      (db.settlement request.id = some row ∨
        db.settlement request.id = none ∧ (row.status = .pending ∨ row.status = .rejected)) := by
  cases present : db.settlement request.id with
  | some old =>
    refine ⟨old, ?_, .inl rfl⟩
    rw [settled, if_pos (by simp [present])]
    exact present
  | none =>
    have entered (row : SettlementRow) (same : row.id = request.id) :
        (db.enter row).settlement request.id = some row := by
      rw [settlement_enter db row (same ▸ present), if_pos same.symm]
    rw [settled, if_neg (by simp [present])]
    split
    · exact ⟨request.row .pending none, entered _ rfl, .inr ⟨rfl, .inl rfl⟩⟩
    · exact ⟨request.row .rejected (some UNKNOWN_PAYEE_BANK), entered _ rfl, .inr ⟨rfl, .inr rfl⟩⟩

end Request

end Hub
