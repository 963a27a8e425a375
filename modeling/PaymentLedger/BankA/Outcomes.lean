import PaymentLedger.BankA.Replies
import PaymentLedger.Shared.Evaluation
import PaymentLedger.Shared.Spelling

set_option autoImplicit false

-- What `InterbankReplyService.handle` returns and leaves, undisturbed, for every event.

namespace BankA

open Transactional Postgres InterbankReplyService

section Statements

variable {db : Database} {text : String} {id : Uuid}

theorem selectInterbankTransfer_read (db : Database) (parsed : Uuid.parse text = some id) :
    execute (.selectInterbankTransfer (some text)) db [] =
      .ok { answer := db.interbankTransfers.find? fun row => row.transferId = id } := by
  simp only [execute, selectInterbankTransfer, bind_eq_ok, uuid_eq_ok]
  exact ⟨id, parsed, rfl⟩

theorem selectInterbankTransfer_unread (unread : Uuid.parse text = none) :
    execute (.selectInterbankTransfer (some text)) db [] = .error .invalidText := by
  simp only [execute, selectInterbankTransfer, uuid, unread]
  rfl

theorem selectTransferById_read (db : Database) (parsed : Uuid.parse text = some id) :
    execute (.selectTransferById text) db [] =
      .ok { answer := db.transfers.find? fun row => row.id = id } := by
  simp only [execute, selectTransferById, bind_eq_ok, uuid_eq_ok]
  exact ⟨id, parsed, rfl⟩

theorem insertTransfer_new {new : NewTransfer} {row : TransferRow} (read : new.row = .ok row)
    (newKey : ¬ db.hasKey row.idempotencyKey) (newId : ¬ db.hasTransfer row.id)
    (parties : db.hasAccount row.payerAccountId ∧ db.hasAccount row.payeeAccountId) :
    execute (.insertTransfer new) db [] =
      .ok { answer := some row, writes := [.transfer row], locks := row.locks } := by
  simp only [execute, insertTransfer, bind_eq_ok]
  refine ⟨row, read, ?_⟩
  simp only [if_neg newKey, bind_eq_ok, require_eq_ok]
  exact ⟨(), newId, (), parties, rfl⟩

theorem insertTransfer_taken {new : NewTransfer} {row : TransferRow} (read : new.row = .ok row)
    (taken : db.hasKey row.idempotencyKey) :
    execute (.insertTransfer new) db [] = .ok { answer := none } := by
  simp only [execute, insertTransfer, bind_eq_ok]
  refine ⟨row, read, ?_⟩
  rw [if_pos taken]
  rfl

theorem insertEntry_new {entry : LedgerEntry} {row : LedgerEntryRow} (read : entry.row = .ok row)
    (known : db.hasTransfer row.transferId ∧ db.hasAccount row.accountId) :
    execute (.insertEntry entry) db [] =
      .ok { answer := (), writes := [.ledgerEntry row], locks := [keyShare row.accountId] } := by
  simp only [execute, insertEntry, bind_eq_ok, require_eq_ok]
  exact ⟨row, read, (), known, rfl⟩

theorem updateStatus_debited {status : InterbankTransferStatus} {now : Int}
    (nodup : (db.interbankTransfers.map InterbankTransferRow.transferId).Nodup)
    (parsed : Uuid.parse text = some id) (debited : db.status id = some .debited) :
    execute (.updateStatus text status now) db [] =
      .ok { answer := (), writes := [.status id status now],
            locks := [exclusive (.interbankTransfer id)] } := by
  simp only [execute, updateStatus, bind_eq_ok, uuid_eq_ok]
  refine ⟨id, parsed, ?_⟩
  rw [if_pos ((any_debited nodup id).mpr debited)]
  rfl

end Statements

section Rules

variable {α : Type} {db : Database} {now : Txn engine} {statement : Sql}
    {effect : Reply statement.Answer}
variable {f : statement.Answer → Program α} {error : PgError}

theorem evaluate_client (alive : now.aborted = false)
    (ran : execute statement (now.view db) [] = .ok effect) :
    ((sql .client statement).bind f).evaluate (some now) db =
      (f effect.answer).evaluate (some (now.add effect)) db :=
  Prog.evaluate_client alive (exec_eq_ok.mpr ran)

theorem evaluate_read {txn : Option (Txn engine)} {answer : statement.Answer}
    (ran : execute statement db [] = .ok { answer := answer }) :
    ((sql .pool statement).bind f).evaluate txn db = (f answer).evaluate txn db :=
  Prog.evaluate_lookup (exec_eq_ok.mpr ran) rfl rfl

theorem evaluate_write (ran : execute statement db [] = .ok effect) :
    ((sql .pool statement).bind f).evaluate none db =
      (f effect.answer).evaluate none (effect.writes.foldl Database.apply db) :=
  Prog.evaluate_pool (exec_eq_ok.mpr ran)

theorem evaluate_read_error {txn : Option (Txn engine)}
    (raised : execute statement db [] = .error error) :
    ((sql .pool statement).bind f).evaluate txn db = some ⟨.error (.database error), txn, db⟩ := by
  refine Prog.evaluate_lookup_error ?_
  change (execute statement db []).mapError Failure.database = _
  rw [raised]
  rfl

theorem evaluate_rollbackOnError_ok {body : Program α} {txn after : Option (Txn engine)}
    {later : Database} {value : α} (ran : body.evaluate txn db = some ⟨.ok value, after, later⟩) :
    (rollbackOnError body).evaluate txn db = some ⟨.ok value, after, later⟩ :=
  Prog.evaluate_tryCatch_ok ran

end Rules

namespace TransferRow

def money (row : TransferRow) (safe : row.amount.natAbs ≤ Double.maxSafeInteger) : Money :=
  ⟨row.amount, safe⟩

def record (row : TransferRow) (safe : row.amount.natAbs ≤ Double.maxSafeInteger) :
    TransferRecord where
  id := row.id.text
  payerAccountId := row.payerAccountId.text
  payeeAccountId := row.payeeAccountId.text
  amount := row.money safe

variable {row : TransferRow} (safe : row.amount.natAbs ≤ Double.maxSafeInteger)

theorem toRecord_safe : row.toRecord = .ok (row.record safe) := by
  have read : Money.fromCents (.ofInt row.amount) = .ok (row.money safe) :=
    Money.fromCents_ofInt_cents (row.money safe)
  simp only [toRecord, read]
  rfl

theorem optionalRecord_safe : optionalRecord (some row) = .done (.ok (some (row.record safe))) := by
  simp only [optionalRecord, toRecord_safe safe]
  rfl

end TransferRow

/-- What `compensate` needs of the transfer it reverses. -/
structure TransferRow.Reversible (original : TransferRow) : Prop where
  safe : original.amount.natAbs ≤ Double.maxSafeInteger
  positive : 0 < original.amount
  payer : original.payerAccountId ≠ SUSPENSE_ACCOUNT_ID

theorem WellFormed.reversible {db : Database} (wellFormed : WellFormed db)
    {interbank : InterbankTransferRow} (member : interbank ∈ db.interbankTransfers) :
    ∃ original ∈ db.transfers, original.id = interbank.transferId ∧ original.Reversible := by
  obtain ⟨original, present, same, customer, -⟩ := wellFormed.interbank interbank member
  exact ⟨original, present, same, wellFormed.safe original present,
    (wellFormed.checked original present).2.2.1, customer.1⟩

namespace TransferRow.Reversible

variable {original : TransferRow} (reversalId : Uuid) (reversible : original.Reversible)

def reversal : Transfer where
  id := reversalId.text
  payerAccountId := SUSPENSE_ACCOUNT_ID.text
  payeeAccountId := original.payerAccountId.text
  amount := original.money reversible.safe
  positive := reversible.positive
  distinct := fun same => reversible.payer (Uuid.text_injective same).symm

theorem create_reversal :
    Transfer.create reversalId.text SUSPENSE_ACCOUNT_ID.text original.payerAccountId.text
    (original.money reversible.safe) = .ok (reversible.reversal reversalId) := by
  have positive := (Money.isPositive_iff (original.money reversible.safe)).mpr reversible.positive
  have distinct : SUSPENSE_ACCOUNT_ID.text ≠ original.payerAccountId.text :=
    (reversible.reversal reversalId).distinct
  rw [Transfer.create, dif_pos positive, dif_neg distinct]
  rfl

variable {text : String} {id : Uuid}

theorem checked (reversible : original.Reversible) (parsed : Uuid.parse text = some id) :
    (reversalOf reversalId text original).Checked := by
  have length := (Uuid.parse_spells parsed).1
  have fixed : "compensation-".length = 13 := by decide
  have key : (compensationKey text).length = 13 + text.length := by
    simp [compensationKey, String.length_append, fixed]
  refine ⟨?_, ?_, reversible.positive, fun same => reversible.payer same.symm⟩
  · change 1 ≤ (compensationKey text).length
    omega
  · change (compensationKey text).length ≤ 255
    omega

theorem reversal_new (parsed : Uuid.parse text = some id) :
    ((reversible.reversal reversalId).params (compensationKey text)).row =
      .ok (reversalOf reversalId text original) := by
  have fixed : storable "compensation-" = true := by decide
  have key : storable (compensationKey text) = true := by
    change storable ("compensation-" ++ text) = true
    rw [storable_append, Uuid.storable_of_parse parsed, Bool.and_true]
    exact fixed
  simp only [NewTransfer.row, bind_eq_ok, uuid_eq_ok, text_eq_ok, require_eq_ok]
  exact ⟨reversalId, Uuid.parse_text _, _, ⟨key, rfl⟩, _, Uuid.parse_text _, _,
    Uuid.parse_text _, (), reversible.checked reversalId parsed, rfl⟩

end TransferRow.Reversible

section Compensation

variable {db : Database} {original : TransferRow} {text : String} {reversalId : Uuid} {now : Int}

theorem find_transfer (wellFormed : WellFormed db) (present : original ∈ db.transfers) :
    (db.transfers.find? fun row => row.id = original.id) = some original := by
  cases found : db.transfers.find? fun row => row.id = original.id with
  | none =>
    have absent := List.find?_eq_none.mp found original present
    simp at absent
  | some row =>
    have same := List.find?_some found
    simp only [decide_eq_true_eq] at same
    rw [transfer_ext wellFormed (List.mem_of_find?_eq_some found) present same]

theorem evaluate_findById (wellFormed : WellFormed db) (present : original ∈ db.transfers)
    (parsed : Uuid.parse text = some original.id) :
    (TransferRepository.findById text).evaluate none db =
      some ⟨.ok (some (original.record (wellFormed.safe original present))), none, db⟩ := by
  have selected := selectTransferById_read db parsed
  rw [find_transfer wellFormed present] at selected
  refine (evaluate_read selected).trans ?_
  rw [TransferRow.optionalRecord_safe]
  rfl

variable (reversalId) (reversible : original.Reversible)

theorem evaluate_insert_taken (parsed : Uuid.parse text = some original.id)
    (taken : db.hasKey (compensationKey text)) :
    (TransferRepository.insert (reversible.reversal reversalId) (compensationKey text)).evaluate
      (some {}) db =
      some ⟨.ok none, some {}, db⟩ := by
  have skipped : execute
      (.insertTransfer ((reversible.reversal reversalId).params (compensationKey text)))
      (Txn.view (E := engine) {} db) [] = .ok { answer := none } :=
    insertTransfer_taken (reversible.reversal_new reversalId parsed) taken
  exact (evaluate_client rfl skipped).trans rfl

/-- The transaction of a reversal that goes in: after the row, after each entry. -/
def inserting (reversal : TransferRow) : Txn engine where
  writes := [.transfer reversal]
  locks := reversal.locks

def debiting (reversal : TransferRow) : Txn engine where
  writes := [.transfer reversal,
    .ledgerEntry ⟨reversal.id, reversal.payerAccountId, -reversal.amount⟩]
  locks := reversal.locks ++ [keyShare reversal.payerAccountId]

def reversing (reversal : TransferRow) : Txn engine where
  writes := [.transfer reversal,
    .ledgerEntry ⟨reversal.id, reversal.payerAccountId, -reversal.amount⟩,
    .ledgerEntry ⟨reversal.id, reversal.payeeAccountId, reversal.amount⟩]
  locks := reversal.locks ++ [keyShare reversal.payerAccountId, keyShare reversal.payeeAccountId]

theorem reversing_view (reversal : TransferRow) : (reversing reversal).view db =
      db.book reversal := by
  simp [reversing, Txn.view, Database.book, TransferRow.entries, engine, Database.apply]

theorem evaluate_insert_new (wellFormed : WellFormed db) (present : original ∈ db.transfers)
    (parsed : Uuid.parse text = some original.id) (newKey : ¬ db.hasKey (compensationKey text))
    (newId : ¬ db.hasTransfer reversalId) :
    (TransferRepository.insert (reversible.reversal reversalId) (compensationKey text)).evaluate
      (some {}) db =
      some ⟨.ok (some ((reversalOf reversalId text original).record reversible.safe)),
        some (inserting (reversalOf reversalId text original)), db⟩ := by
  have inserted : execute
      (.insertTransfer ((reversible.reversal reversalId).params (compensationKey text)))
      (Txn.view (E := engine) {} db) [] = .ok _ :=
    insertTransfer_new (reversible.reversal_new reversalId parsed) newKey newId
      ⟨wellFormed.suspense, (wellFormed.parties original present).1⟩
  refine (evaluate_client rfl inserted).trans ?_
  have safe : (reversalOf reversalId text original).amount.natAbs ≤ Double.maxSafeInteger :=
    reversible.safe
  have read := TransferRow.optionalRecord_safe safe
  exact congrArg (fun program =>
    Prog.evaluate program (some (inserting (reversalOf reversalId text original))) db) read

theorem entry_row {transferId accountId : Uuid} {amount : Money} (moves : amount.cents ≠ 0) :
    LedgerEntry.row ⟨transferId.text, accountId.text, amount⟩ =
      .ok ⟨transferId, accountId, amount.cents⟩ := by
  simp only [LedgerEntry.row, bind_eq_ok, uuid_eq_ok, require_eq_ok]
  exact ⟨_, Uuid.parse_text _, _, Uuid.parse_text _, (), moves, rfl⟩

theorem evaluate_append (wellFormed : WellFormed db) (present : original ∈ db.transfers) :
    (LedgerRepository.append (reversible.reversal reversalId).entries).evaluate
      (some (inserting (reversalOf reversalId text original))) db =
      some ⟨.ok (), some (reversing (reversalOf reversalId text original)), db⟩ := by
  have positive := reversible.positive
  have moves : -original.amount ≠ 0 ∧ original.amount ≠ 0 := by omega
  have booked : (db.book (reversalOf reversalId text original)).hasTransfer reversalId :=
    (hasTransfer_book _ _ _).mpr (.inr rfl)
  have debited : execute
      (.insertEntry ⟨reversalId.text, SUSPENSE_ACCOUNT_ID.text,
        (original.money reversible.safe).negated⟩)
      ((inserting (reversalOf reversalId text original)).view db) [] = .ok _ :=
    insertEntry_new (entry_row moves.1) ⟨booked, wellFormed.suspense⟩
  have credited : execute
      (.insertEntry ⟨reversalId.text, original.payerAccountId.text, original.money reversible.safe⟩)
      ((debiting (reversalOf reversalId text original)).view db) [] = .ok _ :=
    insertEntry_new (entry_row moves.2) ⟨booked, (wellFormed.parties original present).1⟩
  refine (evaluate_client rfl debited).trans ?_
  refine (evaluate_client rfl credited).trans ?_
  rfl

theorem evaluate_finish {txn : Txn engine} {id : Uuid} (alive : txn.aborted = false)
    (nodup : ((txn.view db).interbankTransfers.map InterbankTransferRow.transferId).Nodup)
    (parsed : Uuid.parse text = some id)
    (debited : Database.status (txn.view db) id = some .debited) :
    ((InterbankTransferRepository.markCompensated text now .client).bind fun _ =>
      perform .commit).evaluate (some txn) db =
      some ⟨.ok (), none, Database.settle (txn.view db) id .compensated now⟩ := by
  rw [← settle_debited debited]
  exact Prog.evaluate_client_commit alive
    (exec_eq_ok.mpr (updateStatus_debited nodup parsed debited))

theorem evaluate_compensate (reversible : original.Reversible) (wellFormed : WellFormed db)
    (present : original ∈ db.transfers) (parsed : Uuid.parse text = some original.id)
    (debited : db.status original.id = some .debited)
    (drawn : db.hasKey (compensationKey text) ∨ ¬ db.hasTransfer reversalId) :
    (compensate reversalId now text).evaluate none db =
      some ⟨.ok (), none, db.compensate (reversalOf reversalId text original) original.id now⟩ := by
  refine (Prog.evaluate_bind_ok (evaluate_findById wellFormed present parsed)).trans ?_
  have created := reversible.create_reversal reversalId
  have unwrapped : fromDomain
      (Transfer.create reversalId.text SUSPENSE_ACCOUNT_ID.text original.payerAccountId.text
        (original.money reversible.safe)) = .done (.ok (reversible.reversal reversalId)) := by
    rw [created]
    rfl
  simp only [TransferRow.record, unwrapped, Prog.bind_eq, Prog.done_bind]
  refine evaluate_rollbackOnError_ok ?_
  rw [Database.compensate, Database.refund]
  by_cases taken : db.hasKey (compensationKey text)
  · rw [if_pos (show db.hasKey (reversalOf reversalId text original).idempotencyKey from taken)]
    refine (Prog.evaluate_bind_ok
      (evaluate_insert_taken reversalId reversible parsed taken)).trans ?_
    exact evaluate_finish rfl wellFormed.interbankIds parsed debited
  · rw [if_neg (show ¬ db.hasKey (reversalOf reversalId text original).idempotencyKey from taken)]
    refine (Prog.evaluate_bind_ok
      (evaluate_insert_new reversalId reversible wellFormed present parsed taken
        (drawn.resolve_left taken))).trans ?_
    refine (Prog.evaluate_bind_ok
      (evaluate_append reversalId reversible wellFormed present)).trans ?_
    rw [← reversing_view]
    refine evaluate_finish rfl ?_ parsed ?_
    · rw [reversing_view]
      exact wellFormed.interbankIds
    · rw [reversing_view]
      exact debited

end Compensation

section Handler

variable {db : Database} {handling : Handling}

def Handling.program (handling : Handling) : Program Unit :=
  handle handling.reversalId handling.now handling.event

/-- No transfer of this id is known, or the event has no id that the database reads. -/
def Handling.Unknown (handling : Handling) (db : Database) : Prop :=
  ∀ text id, handling.Targets text id → db.status id = none

theorem evaluate_handle_unknown (unknown : handling.Unknown db) :
    ∃ error, handling.program.evaluate none db = some ⟨.error error, none, db⟩ := by
  obtain ⟨reversalId, now, ⟨settlementId, outcome⟩⟩ := handling
  simp only [Handling.program, handle, InterbankTransferRepository.findById, Prog.bind_eq,
    Prog.bind_assoc]
  cases settlementId with
  | none =>
    have nothing : execute (.selectInterbankTransfer none) db [] = .ok { answer := none } := rfl
    exact ⟨_, (evaluate_read nothing).trans rfl⟩
  | some text =>
    cases parsed : Uuid.parse text with
    | none => exact ⟨_, evaluate_read_error (selectInterbankTransfer_unread parsed)⟩
    | some id =>
      have absent : (db.interbankTransfers.find? fun row => row.transferId = id) = none := by
        have none_ := unknown text id ⟨rfl, parsed⟩
        unfold Database.status at none_
        exact Option.map_eq_none_iff.mp none_
      have selected := selectInterbankTransfer_read db parsed
      rw [absent] at selected
      exact ⟨_, (evaluate_read selected).trans rfl⟩

variable {text : String} {id : Uuid} {status : InterbankTransferStatus}

theorem evaluate_handle_settled (targets : handling.Targets text id)
    (found : db.status id = some status) (final : status ≠ .debited) :
    handling.program.evaluate none db = some ⟨.ok (), none, db⟩ := by
  obtain ⟨reversalId, now, ⟨settlementId, outcome⟩⟩ := handling
  obtain ⟨row, present, same⟩ := Option.map_eq_some_iff.mp found
  obtain rfl : settlementId = some text := targets.1
  have selected := selectInterbankTransfer_read db targets.2
  rw [present] at selected
  simp only [Handling.program, handle, InterbankTransferRepository.findById, Prog.bind_eq,
    Prog.bind_assoc]
  refine (evaluate_read selected).trans ?_
  rw [← same] at final
  have settled : row.toRecord.status ≠ .debited := final
  simp only [Prog.pure_eq, Prog.done_bind, Option.map_some, if_pos settled]
  rfl

theorem evaluate_handle_confirmed (wellFormed : WellFormed db) (targets : handling.Targets text id)
    (debited : db.status id = some .debited) (confirms : handling.confirms) :
    handling.program.evaluate none db =
      some ⟨.ok (), none, db.settle id .confirmed handling.now⟩ := by
  obtain ⟨reversalId, now, ⟨settlementId, outcome⟩⟩ := handling
  obtain ⟨row, present, same⟩ := Option.map_eq_some_iff.mp debited
  obtain rfl : settlementId = some text := targets.1
  obtain rfl : outcome = some (.str "CONFIRMED") := confirms
  have selected := selectInterbankTransfer_read db targets.2
  rw [present] at selected
  simp only [Handling.program, handle, InterbankTransferRepository.findById, Prog.bind_eq,
    Prog.bind_assoc]
  refine (evaluate_read selected).trans ?_
  have underway : ¬ row.toRecord.status ≠ .debited := fun other => other same
  simp only [Prog.pure_eq, Prog.done_bind, Option.map_some, if_neg underway, if_true]
  rw [← settle_debited debited]
  have written : execute (.updateStatus text .confirmed now) db [] = .ok _ :=
    updateStatus_debited wellFormed.interbankIds targets.2 debited
  have marked := evaluate_write (f := pure) written
  rw [Prog.bind_pure] at marked
  exact marked.trans rfl

theorem evaluate_handle_refused {original : TransferRow} (wellFormed : WellFormed db)
    (targets : handling.Targets text original.id) (present : original ∈ db.transfers)
    (reversible : original.Reversible) (debited : db.status original.id = some .debited)
    (refuses : ¬ handling.confirms) (printable : handling.event.Printable)
    (drawn : db.hasKey (compensationKey text) ∨ ¬ db.hasTransfer handling.reversalId) :
    handling.program.evaluate none db =
      some ⟨.ok (), none,
        db.compensate (reversalOf handling.reversalId text original) original.id handling.now⟩ := by
  obtain ⟨reversalId, now, ⟨settlementId, outcome, reason⟩⟩ := handling
  obtain ⟨row, found, same⟩ := Option.map_eq_some_iff.mp debited
  obtain rfl : settlementId = some text := targets.1
  have selected := selectInterbankTransfer_read db targets.2
  rw [found] at selected
  simp only [Handling.program, handle, InterbankTransferRepository.findById, Prog.bind_eq,
    Prog.bind_assoc]
  refine (evaluate_read selected).trans ?_
  have underway : ¬ row.toRecord.status ≠ .debited := fun other => other same
  have other : ¬ outcome = some (.str "CONFIRMED") := refuses
  have printed : Json.allPrintable [outcome, reason] = true := printable
  simp only [Prog.pure_eq, Prog.done_bind, Option.map_some, if_neg underway, if_neg other, warn,
    if_pos printed]
  exact evaluate_compensate reversalId reversible wellFormed present targets.2 debited drawn

/-- Nothing is paid back if the log line cannot be written. -/
theorem evaluate_handle_unprintable (targets : handling.Targets text id)
    (debited : db.status id = some .debited) (refuses : ¬ handling.confirms)
    (unprintable : ¬ handling.event.Printable) :
    handling.program.evaluate none db = some ⟨.error .typeError, none, db⟩ := by
  obtain ⟨reversalId, now, ⟨settlementId, outcome, reason⟩⟩ := handling
  obtain ⟨row, found, same⟩ := Option.map_eq_some_iff.mp debited
  obtain rfl : settlementId = some text := targets.1
  have selected := selectInterbankTransfer_read db targets.2
  rw [found] at selected
  simp only [Handling.program, handle, InterbankTransferRepository.findById, Prog.bind_eq,
    Prog.bind_assoc]
  refine (evaluate_read selected).trans ?_
  have underway : ¬ row.toRecord.status ≠ .debited := fun other => other same
  have other : ¬ outcome = some (.str "CONFIRMED") := refuses
  have unprinted : ¬ Json.allPrintable [outcome, reason] = true := unprintable
  simp only [Prog.pure_eq, Prog.done_bind, Option.map_some, if_neg underway, if_neg other, warn,
    if_neg unprinted]
  rfl

/-! ### Which outcomes are safe -/

def Recognised (outcome : Option Json) : Prop :=
  outcome = some (.str "CONFIRMED") ∨ outcome = some (.str "REVERSED") ∨
    outcome = some (.str "REJECTED")

/-- The program throws and leaves every table as it was. -/
def Throws {α : Type} (program : Program α) (db : Database) : Prop :=
  ∃ error, program.evaluate none db = some ⟨.error error, none, db⟩

/-- The handler throws anyway: no transfer is known, or it is DEBITED and the log line of the
refusal cannot be written. -/
def Handling.Harmless (handling : Handling) (db : Database) : Prop :=
  ∀ text id status, handling.Targets text id → db.status id = some status → status = .debited ∧
    ¬ handling.event.Printable

theorem throws_iff (wellFormed : WellFormed db) (refuses : ¬ handling.confirms)
    (drawn : ¬ db.hasTransfer handling.reversalId) : Throws handling.program db ↔
    handling.Harmless db := by
  constructor
  · rintro ⟨error, raised⟩ text id status targets found
    by_cases debited : status = .debited
    · refine ⟨debited, fun printable => ?_⟩
      subst debited
      obtain ⟨interbank, member, same, -⟩ := mem_of_status found
      obtain ⟨original, present, spelled, reversible⟩ := wellFormed.reversible member
      obtain rfl := spelled.trans same
      have returned := evaluate_handle_refused wellFormed targets present reversible found refuses
        printable (.inr drawn)
      cases returned.symm.trans raised
    · cases (evaluate_handle_settled targets found debited).symm.trans raised
  · intro harmless
    by_cases unknown : handling.Unknown db
    · exact evaluate_handle_unknown unknown
    · obtain ⟨text, id, targets, known⟩ : ∃ text id, handling.Targets text id ∧
          db.status id ≠ none := by
        simpa [Handling.Unknown] using unknown
      obtain ⟨status, found⟩ := Option.ne_none_iff_exists'.mp known
      obtain ⟨rfl, unprintable⟩ := harmless text id status targets found
      exact ⟨_, evaluate_handle_unprintable targets found refuses unprintable⟩

theorem cautious_iff (wellFormed : WellFormed db) (drawn : ¬ db.hasTransfer handling.reversalId) :
    Recognised handling.event.outcome ∨ Throws handling.program db ↔
      Recognised handling.event.outcome ∨ handling.Harmless db :=
  or_congr_right' fun unrecognised =>
    throws_iff wellFormed (fun confirms => unrecognised (.inl confirms)) drawn

theorem reconcileOne_answer {reversalId : Uuid} {now : Int} {transferId : String}
    {hubView : Json.Object} (settled : Json.get hubView "status" ≠ some (.str "PENDING"))
    (printable : Json.allPrintable [Json.get hubView "status"] = true) :
    ReconciliationService.reconcileOne reversalId now transferId (some ⟨200, some hubView⟩) =
      (handle reversalId now (ReconciliationService.settledEvent transferId hubView)).bind fun _ =>
      pure true := by
  simp only [ReconciliationService.reconcileOne, ReconciliationService.ok, if_neg settled, warn,
    if_pos printable]
  rfl

theorem reconcileOne_unprintable {reversalId : Uuid} {now : Int} {transferId : String}
    {hubView : Json.Object} (settled : Json.get hubView "status" ≠ some (.str "PENDING"))
    (unprintable : Json.allPrintable [Json.get hubView "status"] = false) :
    Throws (ReconciliationService.reconcileOne reversalId now transferId (some ⟨200, some hubView⟩))
      db := by
  refine ⟨.typeError, ?_⟩
  simp only [ReconciliationService.reconcileOne, ReconciliationService.ok, if_neg settled, warn,
    unprintable]
  rfl

theorem reconcileOne_pending {reversalId : Uuid} {now : Int} {transferId : String}
    {hubView : Json.Object} (pending : Json.get hubView "status" = some (.str "PENDING")) :
    (ReconciliationService.reconcileOne reversalId now transferId
      (some ⟨200, some hubView⟩)).evaluate none db =
      some ⟨.ok false, none, db⟩ := by
  simp only [ReconciliationService.reconcileOne, ReconciliationService.ok, if_pos pending]
  rfl

theorem throws_bind_pure {α β : Type} {program : Program α} {value : β} :
    Throws (program.bind fun _ => pure value) db ↔ Throws program db := by
  constructor
  · rintro ⟨error, raised⟩
    have parts := (Prog.evaluate_bind program (fun _ => (pure value : Program β)) none
      db).symm.trans raised
    obtain ⟨⟨result, txn, later⟩, evaluated, raised⟩ := Option.bind_eq_some_iff.mp parts
    cases result with
    | ok value => cases raised
    | error error =>
      cases raised
      exact ⟨error, evaluated⟩
  · rintro ⟨error, raised⟩
    exact ⟨error, Prog.evaluate_bind_error raised⟩

end Handler

end BankA
