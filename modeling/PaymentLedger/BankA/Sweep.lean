import PaymentLedger.BankA.Outcomes
import PaymentLedger.BankA.Saga
import PaymentLedger.Shared.Pass

set_option autoImplicit false

-- `sweep` asks the Hub about one stale transfer after the other, and the first exception ends it.

namespace BankA

open Transactional InterbankReplyService

namespace ReconciliationService

def STALE_AFTER_MS : Int := 5 * 60 * 1000

inductive HubSettlementStatus where
  | pending
  | confirmed
  | reversed
  | rejected
deriving DecidableEq

def HubSettlementStatus.text : HubSettlementStatus → String
  | .pending => "PENDING"
  | .confirmed => "CONFIRMED"
  | .reversed => "REVERSED"
  | .rejected => "REJECTED"

inductive HubAnswer where
  | noResponse
  | noRecord
  | errorStatus
  | unreadable
  | settlement (status : HubSettlementStatus)
deriving DecidableEq

inductive HubAnswer.Given : HubAnswer → Option HubResponse → Prop where
  | noResponse : Given .noResponse none
  | noRecord (body : Option Json.Object) : Given .noRecord (some ⟨404, body⟩)
  | errorStatus (response : HubResponse) (other : response.status ≠ 404)
      (failed : ok response = false) :
      Given .errorStatus (some response)
  | unreadable (code : Nat) (success : ok ⟨code, none⟩ = true) :
      Given .unreadable (some ⟨code, none⟩)
  | settlement (status : HubSettlementStatus) (code : Nat) (hubView : Json.Object)
      (success : ok ⟨code, some hubView⟩ = true)
      (view : Json.get hubView "status" = some (.str status.text)) :
      Given (.settlement status) (some ⟨code, some hubView⟩)

def HubAnswer.outcome : HubAnswer → Option String
  | .noRecord => some "REJECTED"
  | .settlement .pending => none
  | .settlement status => some status.text
  | .noResponse | .errorStatus | .unreadable => none

def HubAnswer.throws : HubAnswer → Bool
  | .noResponse | .unreadable => true
  | .noRecord | .errorStatus | .settlement _ => false

/-- A handler throws with its work undone, or after its last statement has taken effect. -/
inductive Fate where
  | returns
  | fails
  | lost
deriving DecidableEq

def Fate.befall (fate : Fate) (handle : Program Unit) : Program Unit :=
  match fate with
  | .returns => handle
  | .fails => fail (.database .disconnected)
  | .lost => do
    handle
    fail (.database .disconnected)

/-- `reconcileOne` with the reply service that it is constructed with. -/
def reconcileWith (handle : SettlementOutcomeEvent → Program Unit) (transferId : String)
    (response : Option HubResponse) : Program Bool :=
  match response with
  | none => fail .fetchFailed
  | some response =>
    if response.status = 404 then do
      handle
        { settlementId := some transferId, outcome := some (.str "REJECTED"),
          reason := some (.str "RECONCILIATION_NO_RECORD_AT_HUB") }
      return true
    else if ok response then
      match response.body with
      | none => fail .fetchFailed
      | some hubView =>
        let status := Json.get hubView "status"
        if status = some (.str "PENDING") then return false
        else do
          warn [status]
          handle
            { settlementId := some transferId, outcome := status,
              reason := Json.orUndefined (Json.get hubView "rejectReason") }
          return true
    else return false

theorem reconcileOne_eq (reversalId : Uuid) (now : Int) :
    reconcileOne reversalId now = reconcileWith (InterbankReplyService.handle reversalId now) := rfl

/-- What the outside world contributes when one transfer's turn comes. -/
structure Turn where
  reversalId : Uuid
  now : Int
  answer : HubAnswer
  response : Option HubResponse
  given : answer.Given response
  fate : Fate
  /-- A handler that cannot print what it is given fails. -/
  printable : fate ≠ .fails → ∀ text event, eventOf text response = some event →
    event.outcome = some (.str "CONFIRMED") ∨ event.Printable

namespace Turn

variable (turn : Turn)

def handle (event : SettlementOutcomeEvent) : Program Unit :=
  turn.fate.befall (InterbankReplyService.handle turn.reversalId turn.now event)

def reconcileOne (transferId : String) : Program Bool :=
  reconcileWith turn.handle transferId turn.response

def stops : Bool :=
  turn.answer.throws || (turn.answer.outcome.isSome && decide (turn.fate ≠ .returns))

end Turn

structure SweepResult where
  checked : Nat
  reconciled : Nat
deriving DecidableEq

def findStaleDebited (olderThan : Int) : Program (List InterbankTransferRecord) := do
  let rows ← sql .pool (.selectStaleDebited olderThan)
  return rows.map InterbankTransferRow.toRecord

def reconcileEach (turns : String → Turn) (reconciled : Nat) : List InterbankTransferRecord →
    Program Nat
  | [] => return reconciled
  | transfer :: rest => do
    let changed ← (turns transfer.transferId).reconcileOne transfer.transferId
    reconcileEach turns (if changed then reconciled + 1 else reconciled) rest

def sweep (now : Int) (turns : String → Turn) : Program SweepResult := do
  let stale ← findStaleDebited (now - STALE_AFTER_MS)
  let reconciled ← reconcileEach turns 0 stale
  return { checked := stale.length, reconciled }

end ReconciliationService

/-! ## What one turn changes -/

/-- The rows of one interbank transfer: its status, its debit and its reversal. -/
structure Books where
  status : Option InterbankTransferStatus
  transfers : List TransferRow

def Concerns (transferId : Uuid) (row : TransferRow) : Prop :=
  row.id = transferId ∨ row.idempotencyKey = compensationKey transferId.text

instance (transferId : Uuid) (row : TransferRow) : Decidable (Concerns transferId row) := by
  unfold Concerns
  infer_instance

def Database.books (db : Database) (transferId : Uuid) : Books where
  status := db.status transferId
  transfers := db.transfers.filter fun row => Concerns transferId row

namespace Books

variable (books : Books)

def settle (status : InterbankTransferStatus) : Books :=
  if books.status = some .debited then { books with status := some status } else books

def refund (reversal : TransferRow) : Books :=
  if reversal.idempotencyKey ∈ books.transfers.map TransferRow.idempotencyKey then books
  else { books with transfers := books.transfers ++ [reversal] }

end Books

section Books

variable {db : Database} {transferId other : Uuid} {status : InterbankTransferStatus} {now : Int}
    {reversal : TransferRow}

theorem books_settle : (db.settle transferId status now).books transferId =
    (db.books transferId).settle status := by
  by_cases debited : db.status transferId = some .debited <;>
    simp [Database.books, Books.settle, status_settle, debited]

theorem books_settle_other (elsewhere : transferId ≠ other) :
    (db.settle transferId status now).books other = db.books other := by
  simp only [Database.books, settle_transfers, status_settle, elsewhere.symm, false_and, if_false]

theorem hasKey_books {key : String} (own : key = compensationKey transferId.text) :
    db.hasKey key ↔ key ∈ (db.books transferId).transfers.map TransferRow.idempotencyKey := by
  simp only [Database.hasKey, Database.books, List.mem_map, List.mem_filter, decide_eq_true_eq]
  constructor
  · rintro ⟨row, member, same⟩
    exact ⟨row, ⟨member, .inr (same.trans own)⟩, same⟩
  · rintro ⟨row, ⟨member, -⟩, same⟩
    exact ⟨row, member, same⟩

theorem books_refund (own : reversal.idempotencyKey = compensationKey transferId.text) :
    (db.refund reversal).books transferId = (db.books transferId).refund reversal := by
  have concerns : Concerns transferId reversal := .inr own
  unfold Database.refund Books.refund
  by_cases taken : db.hasKey reversal.idempotencyKey
  · rw [if_pos taken, if_pos ((hasKey_books own).mp taken)]
  · rw [if_neg taken, if_neg (mt (hasKey_books own).mpr taken)]
    simp [Database.books, List.filter_append, concerns]

theorem books_refund_other (id : reversal.id ≠ other)
    (key : reversal.idempotencyKey ≠ compensationKey other.text) :
    (db.refund reversal).books other = db.books other := by
  have apart : ¬ Concerns other reversal := not_or.mpr ⟨id, key⟩
  unfold Database.refund
  split
  · rfl
  · simp [Database.books, List.filter_append, apart]

theorem find_books : ((db.books transferId).transfers.find? fun row => row.id = transferId) =
    db.transfers.find? fun row => row.id = transferId := by
  simp only [Database.books, List.find?_filter]
  congr 1
  funext row
  by_cases same : row.id = transferId <;> simp [Concerns, same]

end Books

namespace ReconciliationService.Turn

variable (turn : Turn) (transferId : Uuid)

/-- What a handler that returns does to the tables. -/
def handled (outcome : String) (db : Database) : Database :=
  if outcome = "CONFIRMED" then db.settle transferId .confirmed turn.now
  else
    match db.transfers.find? fun row => row.id = transferId with
    | none => db
    | some original =>
      db.compensate (reversalOf turn.reversalId transferId.text original) transferId turn.now

def act (db : Database) : Database :=
  match turn.answer.outcome with
  | none => db
  | some outcome => if turn.fate = .fails then db else turn.handled transferId outcome db

def change (books : Books) : Books :=
  match turn.answer.outcome with
  | none => books
  | some outcome =>
    if turn.fate = .fails then books
    else if outcome = "CONFIRMED" then books.settle .confirmed
    else
      match books.transfers.find? fun row => row.id = transferId with
      | none => books
      | some original =>
        (books.refund (reversalOf turn.reversalId transferId.text original)).settle .compensated

variable {turn transferId} {other : Uuid} {db : Database}

variable (turn transferId db) in
theorem act_cases : turn.act transferId db = db ∨
    turn.act transferId db = db.settle transferId .confirmed turn.now ∨
    ∃ original ∈ db.transfers, original.id = transferId ∧ turn.act transferId db =
      db.compensate (reversalOf turn.reversalId transferId.text original) transferId turn.now := by
  unfold act
  split
  · exact .inl rfl
  · split
    · exact .inl rfl
    · unfold handled
      split
      · exact .inr (.inl rfl)
      · split
        · exact .inl rfl
        · rename_i original found
          have same := List.find?_some found
          exact .inr (.inr ⟨original, List.mem_of_find?_eq_some found, of_decide_eq_true same, rfl⟩)

theorem books_act : (turn.act transferId db).books transferId = turn.change transferId
    (db.books transferId) := by
  unfold act change
  split
  · rfl
  · split
    · rfl
    · unfold handled
      split
      · exact books_settle
      · rw [find_books]
        split
        · rfl
        · rw [Database.compensate, books_settle, books_refund rfl]

theorem books_act_other (elsewhere : transferId ≠ other) (fresh : turn.reversalId ≠ other) :
    (turn.act transferId db).books other = db.books other := by
  rcases act_cases turn transferId db with same | confirmed | ⟨original, -, -, compensated⟩
  · rw [same]
  · rw [confirmed, books_settle_other elsewhere]
  · have key : compensationKey transferId.text ≠ compensationKey other.text := fun same =>
      elsewhere (Uuid.text_injective (compensationKey_injective same))
    rw [compensated, Database.compensate, books_settle_other elsewhere,
      books_refund_other fresh key]

theorem hasTransfer_act {id : Uuid} (drawn : turn.reversalId ≠ id) :
    (turn.act transferId db).hasTransfer id ↔ db.hasTransfer id := by
  rcases act_cases turn transferId db with same | confirmed | ⟨original, -, -, compensated⟩
  · rw [same]
  · rw [confirmed, settle_hasTransfer]
  · rw [compensated, Database.compensate, settle_hasTransfer, Database.refund]
    split
    · rfl
    · rw [hasTransfer_book]
      exact or_iff_left fun same => drawn same.symm

theorem wellFormed_act (wellFormed : WellFormed db) (debited : db.status transferId = some .debited)
    (drawn : ¬ db.hasTransfer turn.reversalId) : WellFormed (turn.act transferId db) := by
  rcases act_cases turn transferId db with same | confirmed | ⟨original, present, id, compensated⟩
  · rw [same]
    exact wellFormed
  · rw [confirmed]
    exact wellFormed.settle _ _ _
  · obtain ⟨interbank, member, spelled, -⟩ := mem_of_status debited
    obtain ⟨own, known, same, reversible⟩ := wellFormed.reversible member
    obtain rfl := transfer_ext wellFormed present known (id.trans (same.trans spelled).symm)
    have bookable (newKey :
        ¬ db.hasKey (reversalOf turn.reversalId transferId.text original).idempotencyKey) :
        (reversalOf turn.reversalId transferId.text original).Bookable
          (reversalOf turn.reversalId transferId.text original).locks db := {
      checked := reversible.checked turn.reversalId (Uuid.parse_text transferId)
      safe := reversible.safe
      newId := drawn
      newKey
      parties := ⟨wellFormed.suspense, (wellFormed.parties original present).1⟩
      keyLock := by simp [TransferRow.locks]
      idLock := by simp [TransferRow.locks] }
    rw [compensated]
    exact wellFormed.compensate bookable rfl _ _

/-! ## A turn, and the turns after it -/

theorem evaluate_handled {outcome : String} {reason : Option Json} (wellFormed : WellFormed db)
    (debited : db.status transferId = some .debited) (drawn : ¬ db.hasTransfer turn.reversalId)
    (printable : some (Json.str outcome) = some (Json.str "CONFIRMED") ∨
      SettlementOutcomeEvent.Printable ⟨some transferId.text, some (.str outcome), reason⟩) :
    (InterbankReplyService.handle turn.reversalId turn.now
      ⟨some transferId.text, some (.str outcome), reason⟩).evaluate
      none db = some ⟨.ok (), none, turn.handled transferId outcome db⟩ := by
  let handling : Handling := ⟨turn.reversalId, turn.now, ⟨some transferId.text, some (.str outcome), reason⟩⟩
  have targets : handling.Targets transferId.text transferId := ⟨rfl, Uuid.parse_text transferId⟩
  unfold handled
  by_cases confirms : outcome = "CONFIRMED"
  · rw [if_pos confirms]
    have confirmed : handling.confirms :=
      congrArg (fun outcome : String => some (Json.str outcome)) confirms
    exact evaluate_handle_confirmed wellFormed targets debited confirmed
  · rw [if_neg confirms]
    obtain ⟨interbank, member, spelled, -⟩ := mem_of_status debited
    obtain ⟨original, present, same, reversible⟩ := wellFormed.reversible member
    obtain rfl := same.trans spelled
    rw [find_transfer wellFormed present]
    have refuses : ¬ handling.confirms := fun confirmed =>
      confirms (Text.plain.inj (Json.str.inj (Option.some.inj confirmed)))
    exact evaluate_handle_refused wellFormed targets present reversible debited refuses
      (printable.resolve_left refuses)
      (.inr drawn)

theorem reconcileWith_event {handle : SettlementOutcomeEvent → Program Unit} {answer : HubAnswer}
    {text : String} {response : Option HubResponse} (given : answer.Given response) :
    reconcileWith handle text response =
      match eventOf text response with
      | none => if answer.throws then fail .fetchFailed else pure false
      | some event => (handle event).bind fun _ => pure true := by
  cases given with
  | noResponse => rfl
  | noRecord body => rfl
  | errorStatus response other failed =>
    simp [reconcileWith, eventOf, HubAnswer.throws, other, failed]
  | unreadable code success =>
    have other : code ≠ 404 := by
      rintro rfl
      simp [ok] at success
    simp [reconcileWith, eventOf, HubAnswer.throws, other, success]
  | settlement status code hubView success view =>
    have other : code ≠ 404 := by
      rintro rfl
      simp [ok] at success
    cases status <;>
      simp [reconcileWith, eventOf, settledEvent, HubAnswer.throws, HubSettlementStatus.text,
      Json.allPrintable, Json.printable, warn, other, success, view]

theorem eventOf_given {answer : HubAnswer} {response : Option HubResponse}
    (given : answer.Given response) :
    (answer.outcome = none ∧ ∀ text, eventOf text response = none) ∨
      ∃ outcome reason, answer.outcome = some outcome ∧
        ∀ text, eventOf text response = some ⟨some text, some (.str outcome), reason⟩ := by
  cases given with
  | noResponse => exact .inl ⟨rfl, fun _ => rfl⟩
  | noRecord body => exact .inr ⟨_, _, rfl, fun _ => rfl⟩
  | errorStatus response other failed => exact .inl ⟨rfl, fun _ => by simp [eventOf, other, failed]⟩
  | unreadable code success =>
    have other : code ≠ 404 := by
      rintro rfl
      simp [ok] at success
    exact .inl ⟨rfl, fun _ => by simp [eventOf, other, success]⟩
  | settlement status code hubView success view =>
    have other : code ≠ 404 := by
      rintro rfl
      simp [ok] at success
    cases status with
    | pending => exact .inl ⟨rfl, fun _ => by simp [eventOf, HubSettlementStatus.text, other, success, view]⟩
    | confirmed | reversed | rejected =>
      refine .inr ⟨_, Json.orUndefined (Json.get hubView "rejectReason"), rfl, fun _ => ?_⟩
      simp [eventOf, settledEvent, HubSettlementStatus.text, Json.allPrintable, Json.printable,
        other, success, view]

theorem evaluate_reconcileOne (wellFormed : WellFormed db)
    (debited : db.status transferId = some .debited) (drawn : ¬ db.hasTransfer turn.reversalId) :
    ∃ result, (turn.reconcileOne transferId.text).evaluate none db =
      some ⟨result, none, turn.act transferId db⟩ ∧
      result.isOk = !turn.stops := by
  rw [reconcileOne, reconcileWith_event turn.given, act, stops]
  rcases eventOf_given turn.given with ⟨passed, none_⟩ | ⟨outcome, reason, passed, event⟩
  · rw [passed, none_]
    cases throws : turn.answer.throws with
    | true => exact ⟨_, rfl, rfl⟩
    | false => exact ⟨_, rfl, rfl⟩
  · have printed (works : turn.fate ≠ .fails) : some (Json.str outcome) =
        some (Json.str "CONFIRMED") ∨
        SettlementOutcomeEvent.Printable ⟨some transferId.text, some (.str outcome), reason⟩ :=
      turn.printable works transferId.text _ (event _)
    have returned (works : turn.fate ≠ .fails) :=
      evaluate_handled wellFormed debited drawn (printed works)
    have quiet : turn.answer.throws = false := by
      cases answer : turn.answer <;> simp_all [HubAnswer.outcome, HubAnswer.throws]
    rw [passed, event]
    simp only [handle, quiet]
    cases fate : turn.fate with
    | returns => exact ⟨_, Prog.evaluate_bind_ok (returned (by simp [fate])), rfl⟩
    | fails => exact ⟨_, rfl, rfl⟩
    | lost => exact ⟨_, Prog.evaluate_bind_error (Prog.evaluate_bind_ok (returned (by simp [fate]))), rfl⟩

end ReconciliationService.Turn

/-! ## The whole pass -/

def Database.stale (db : Database) (olderThan : Int) : List InterbankTransferRow :=
  (db.interbankTransfers.filter fun row => row.status = .debited &&
    decide (row.updatedAt < olderThan)).insertionSort
    fun first second => first.updatedAt ≤ second.updatedAt

namespace ReconciliationService

variable (turns : String → Turn)

def turnOf (row : InterbankTransferRow) : Turn := turns row.transferId.text

def stopsAt (row : InterbankTransferRow) : Bool := (turnOf turns row).stops

def actAt (row : InterbankTransferRow) (db : Database) : Database :=
  (turnOf turns row).act row.transferId db

/-- Each turn has drawn an id of its own that no transfer has. -/
structure Drawn (rows : List InterbankTransferRow) (db : Database) : Prop where
  distinct : (rows.map fun row => (turnOf turns row).reversalId).Nodup
  fresh : ∀ row ∈ rows, ¬ db.hasTransfer (turnOf turns row).reversalId

structure Ready (rows : List InterbankTransferRow) (db : Database) : Prop where
  wellFormed : WellFormed db
  distinct : (rows.map InterbankTransferRow.transferId).Nodup
  debited : ∀ row ∈ rows, db.status row.transferId = some .debited
  drawn : Drawn turns rows db

variable {turns} {rows rest : List InterbankTransferRow} {row other : InterbankTransferRow}
    {db : Database}

theorem ready_stale {olderThan : Int} (wellFormed : WellFormed db)
    (drawn : Drawn turns (db.stale olderThan) db) :
    Ready turns (db.stale olderThan) db where
  wellFormed
  distinct := by
    have sorted := List.perm_insertionSort
      (fun first second : InterbankTransferRow => first.updatedAt ≤ second.updatedAt)
      (db.interbankTransfers.filter fun row => row.status = .debited &&
        decide (row.updatedAt < olderThan))
    refine (sorted.map InterbankTransferRow.transferId).nodup_iff.mpr ?_
    exact wellFormed.interbankIds.sublist (List.filter_sublist.map _)
  debited row member := by
    have found := (List.mem_insertionSort _).mp member
    obtain ⟨present, chosen⟩ := List.mem_filter.mp found
    simp only [Bool.and_eq_true, decide_eq_true_eq] at chosen
    rw [wellFormed.status_of_mem present, chosen.1]
  drawn

theorem hasTransfer_of_debited {transferId : Uuid} (wellFormed : WellFormed db)
    (debited : db.status transferId = some .debited) :
    db.hasTransfer transferId := by
  obtain ⟨interbank, member, spelled, -⟩ := mem_of_status debited
  obtain ⟨original, present, same, -⟩ := wellFormed.reversible member
  exact List.mem_map.mpr ⟨original, present, same.trans spelled⟩

namespace Ready

theorem drawn_elsewhere (ready : Ready turns rows db) (member : row ∈ rows)
    (listed : other ∈ rows) :
    (turnOf turns row).reversalId ≠ other.transferId := by
  intro same
  have taken := hasTransfer_of_debited ready.wellFormed (ready.debited other listed)
  exact ready.drawn.fresh row member (same ▸ taken)

theorem separate (ready : Ready turns rows db) :
    Pass.Separate (actAt turns) (fun row db => db.books row.transferId)
      (fun row books => (turnOf turns row).change row.transferId books) rows where
  distinct := ready.distinct.of_map _
  own row _ db := Turn.books_act
  other row member other listed apart db := by
    refine Turn.books_act_other ?_ (ready.drawn_elsewhere member listed)
    exact fun same => apart (List.inj_on_of_nodup_map ready.distinct member listed same)

theorem next (ready : Ready turns (row :: rest) db) : Ready turns rest (actAt turns row db) := by
  have first : row ∈ row :: rest := List.mem_cons_self
  have later {other : InterbankTransferRow} (listed : other ∈ rest) : other ∈ row :: rest :=
    List.mem_cons_of_mem row listed
  have draws := ready.drawn.distinct
  have ids := ready.distinct
  rw [List.map_cons, List.nodup_cons] at draws ids
  exact {
    wellFormed := Turn.wellFormed_act ready.wellFormed (ready.debited row first)
      (ready.drawn.fresh row first)
    distinct := ids.2
    debited := by
      intro other listed
      have apart : row ≠ other := by
        rintro rfl
        exact ids.1 (List.mem_map_of_mem listed)
      have kept := ready.separate.other row first other (later listed) apart db
      exact (congrArg Books.status kept).trans (ready.debited other (later listed))
    drawn.distinct := draws.2
    drawn.fresh := by
      intro other listed
      have apart : (turnOf turns row).reversalId ≠ (turnOf turns other).reversalId := by
        intro same
        exact draws.1 (List.mem_map.mpr ⟨other, listed, same.symm⟩)
      exact mt (Turn.hasTransfer_act apart).mp (ready.drawn.fresh other (later listed)) }

theorem run (ready : Ready turns rows db) :
    WellFormed (Pass.run (stopsAt turns) (actAt turns) rows db) := by
  induction rows generalizing db with
  | nil => exact ready.wellFormed
  | cons row rest ih =>
    rw [Pass.run]
    split
    · exact Turn.wellFormed_act ready.wellFormed (ready.debited row List.mem_cons_self)
        (ready.drawn.fresh row List.mem_cons_self)
    · exact ih ready.next

theorem evaluate (ready : Ready turns rows db) (reconciled : Nat) :
    ∃ result later, (reconcileEach turns reconciled
      (rows.map InterbankTransferRow.toRecord)).evaluate none db =
      some ⟨result, none, later⟩ ∧ later = Pass.run (stopsAt turns) (actAt turns) rows db := by
  induction rows generalizing db reconciled with
  | nil => exact ⟨_, _, rfl, rfl⟩
  | cons row rest ih =>
    obtain ⟨result, evaluated, returned⟩ := Turn.evaluate_reconcileOne ready.wellFormed
      (ready.debited row List.mem_cons_self) (ready.drawn.fresh row List.mem_cons_self)
    rw [List.map_cons, reconcileEach]
    cases result with
    | ok changed =>
      have goes : stopsAt turns row = false := (Bool.not_eq_true' _).mp returned.symm
      obtain ⟨result, later, evaluated', same⟩ :=
        ih ready.next (if changed then reconciled + 1 else reconciled)
      exact ⟨result, later, (Prog.evaluate_bind_ok evaluated).trans evaluated',
        same.trans (Pass.run_on goes).symm⟩
    | error error =>
      have ends : stopsAt turns row = true := (Bool.not_eq_false' _).mp returned.symm
      have passed : Pass.run (stopsAt turns) (actAt turns) (row :: rest) db = actAt turns row db :=
        Pass.run_last ends
      exact ⟨_, _, Prog.evaluate_bind_error evaluated, passed.symm⟩

end Ready

theorem evaluate_sweep {now : Int} (wellFormed : WellFormed db)
    (drawn : Drawn turns (db.stale (now - STALE_AFTER_MS)) db) :
    ∃ result later, (sweep now turns).evaluate none db = some ⟨result, none, later⟩ ∧
      later = Pass.run (stopsAt turns) (actAt turns) (db.stale (now - STALE_AFTER_MS)) db := by
  have found : execute (.selectStaleDebited (now - STALE_AFTER_MS)) db [] =
      .ok { answer := db.stale (now - STALE_AFTER_MS) } := rfl
  have listed : (findStaleDebited (now - STALE_AFTER_MS)).evaluate none db =
      some ⟨.ok ((db.stale (now - STALE_AFTER_MS)).map InterbankTransferRow.toRecord), none, db⟩ :=
    (evaluate_read found).trans rfl
  obtain ⟨result, later, evaluated, same⟩ := (ready_stale wellFormed drawn).evaluate 0
  cases result with
  | ok reconciled =>
    exact ⟨_, later, (Prog.evaluate_bind_ok listed).trans
      ((Prog.evaluate_bind_ok evaluated).trans rfl), same⟩
  | error error => exact ⟨_, later, (Prog.evaluate_bind_ok listed).trans (Prog.evaluate_bind_error evaluated), same⟩

end ReconciliationService

end BankA
