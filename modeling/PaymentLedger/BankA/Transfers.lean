import PaymentLedger.BankA.Sessions

set_option autoImplicit false

-- The rules for the writers of `transfers` and `ledger_entries`, and with them
-- `POST /transfers`.

namespace BankA

open Transactional Contract

section

variable {bankId : String} {scope : Scope (service bankId)}

theorem stable_bookable {row : TransferRow} {locks mine : List (Lock Resource)}
    (included : locks ⊆ mine) (keyLock : exclusive (.idempotencyKey row.idempotencyKey) ∈ locks)
    (idLock : exclusive (.transfer row.id) ∈ locks) :
    (contract scope).Stable mine fun db => row.Bookable locks db := by
  intro db db' interferes known
  exact { known with
    newId := stable_newId (included idLock) db db' interferes known.newId
    newKey := stable_newKey (included keyLock) db db' interferes known.newKey
    parties := ⟨stable_hasAccount _ db db' interferes known.parties.1,
      stable_hasAccount _ db db' interferes known.parties.2⟩ }

theorem stable_affordable {row : TransferRow} {locks mine : List (Lock Resource)}
    (included : locks ⊆ mine) : (contract scope).Stable mine fun db => row.Affordable locks db := by
  intro db db' interferes known
  exact { known with
    funds := stable_balance known.payer (included known.payerLock) db db' interferes known.funds }

theorem TransferRow.Bookable.mono {row : TransferRow} {locks more : List (Lock Resource)}
    {db : Database} (bookable : row.Bookable locks db) (included : locks ⊆ more) :
    row.Bookable more db :=
  { bookable with keyLock := included bookable.keyLock, idLock := included bookable.idLock }

theorem TransferRow.Affordable.mono {row : TransferRow} {locks more : List (Lock Resource)}
    {db : Database} (affordable : row.Affordable locks db) (included : locks ⊆ more) :
    row.Affordable more db :=
  { affordable with payerLock := included affordable.payerLock }

end

def Transfer.params (transfer : Transfer) (idempotencyKey : String) : NewTransfer where
  id := transfer.id
  idempotencyKey := idempotencyKey
  payerAccountId := transfer.payerAccountId
  payeeAccountId := transfer.payeeAccountId
  amount := transfer.amount

theorem NewTransfer.Denotes.entries {transfer : Transfer} {key : String} {row : TransferRow}
    (denotes : (transfer.params key).Denotes row) :
    List.Forall₂ LedgerEntry.Denotes transfer.entries row.entries := by
  refine .cons ⟨denotes.id, denotes.payer, ?_⟩
    (.cons ⟨denotes.id, denotes.payee, denotes.amount⟩ .nil)
  simpa [Transfer.params] using denotes.amount

theorem entries_unique {entries : List LedgerEntry} {rows others : List LedgerEntryRow}
    (left : List.Forall₂ LedgerEntry.Denotes entries rows)
    (right : List.Forall₂ LedgerEntry.Denotes entries others) : rows = others := by
  induction left generalizing others with
  | nil =>
    cases right
    rfl
  | cons head _ ih =>
    cases right with
    | cons head' tail' => rw [head.unique head', ih tail']

theorem book_writes (row : TransferRow) (db : Database) :
    (.transfer row :: row.entries.map .ledgerEntry : List Write).foldl Database.apply db =
      db.book row := by
  simp [TransferRow.entries, Database.apply, Database.book]

section

variable {bankId : String} {scope : Scope (service bankId)} {call : Call} {β : Type}
variable {success : β → List (Performed engine) → Option (Txn engine) → Database → Prop}
variable {refusal : Failure → List (Performed engine) → Prop}
variable {history : List (Performed engine)} {db : Database} {P : Database → Prop}
variable {writes : List Write} {locks : List (Lock Resource)}

theorem ok_insert {transfer : Transfer} {key : String} {f : Option TransferRecord → Program β}
    (refuse : ∀ error history, Unmet error history → refusal error history)
    (unmet : meets history = []) (stable : (contract scope).Stable locks P) (now : P db)
    (taken : ∀ db history' more, WellFormed db → P db → db.hasKey key → meets history' = [] →
      commits history' = commits history →
      Session scope call success refusal (f none) history' (some (live [] (locks ++ more))) db)
    (booked : ∀ db history' row record, WellFormed db → P db → (transfer.params key).Denotes row →
      row.Bookable (locks ++ row.locks) db → row.toRecord = .ok record → meets history' = [] →
      Session scope call success refusal (f (some record)) history'
        (some (live [.transfer row] (locks ++ row.locks))) db) :
    Session scope call success refusal ((TransferRepository.insert transfer key).bind f) history
      (some (live [] locks)) db := by
  simp only [TransferRepository.insert, Prog.bind_eq, Prog.bind_assoc]
  refine ok_clientQuery refuse unmet stable now ?_
  rintro db busy ⟨answer, written, more⟩ history' wellFormed known still same ran
  rcases insertTransfer_ok ran with ⟨rfl, rfl, present⟩ | ⟨row, rfl, denotes, bookable, rfl, rfl⟩
  · simpa only [optionalRecord, Prog.pure_eq, Prog.done_bind, List.nil_append] using
      taken db history' more wellFormed known present still same
  · obtain ⟨amount, -, read⟩ := TransferRow.toRecord_ok bookable.safe
    have continued := booked db history' row _ wellFormed known denotes
      (bookable.mono (List.subset_append_right _ _)) read still
    simpa only [optionalRecord_some read, Prog.done_bind, List.nil_append] using continued

theorem ok_balanceOf {accountId : String} {f : Money → Program β}
    (refuse : ∀ error history, Unmet error history → refusal error history)
    (unmet : meets history = []) (stable : (contract scope).Stable locks P) (now : P db)
    (done : ∀ db history' account balance, WellFormed db → P db → meets history' = [] →
      Uuid.parse accountId = some account →
      balance.cents = (writes.foldl Database.apply db).balanceOf account →
      Session scope call success refusal (f balance) history' (some (live writes locks)) db) :
    Session scope call success refusal ((LedgerRepository.balanceOf accountId .client).bind f)
      history (some (live writes locks)) db := by
  simp only [LedgerRepository.balanceOf, Prog.bind_eq, Prog.bind_assoc]
  refine ok_clientQuery refuse unmet stable now ?_
  rintro db busy ⟨answer, written, more⟩ history' wellFormed known still _ ran
  obtain ⟨rfl, rfl, account, parsed, rfl⟩ := sumEntries_ok ran
  rw [List.append_nil, List.append_nil]
  refine ok_fromDomain refuse still ?_
  intro balance read
  exact done db history' account balance wellFormed known still parsed (Money.fromCents_ofInt read)

theorem ok_append {entries : List LedgerEntry} {f : Unit → Program β}
    (refuse : ∀ error history, Unmet error history → refusal error history)
    (unmet : meets history = []) (stable : ∀ more, locks ⊆ more → (contract scope).Stable more P)
    (now : P db)
    (done : ∀ db history' rows more, P db → meets history' = [] →
      List.Forall₂ LedgerEntry.Denotes entries rows → locks ⊆ more →
      Session scope call success refusal (f ()) history'
        (some (live (writes ++ rows.map .ledgerEntry) more)) db) :
    Session scope call success refusal ((LedgerRepository.append entries).bind f) history
      (some (live writes locks)) db := by
  unfold LedgerRepository.append
  induction entries generalizing history writes locks db with
  | nil => simpa [Prog.forEach] using done db history [] locks now unmet .nil (List.Subset.refl _)
  | cons entry rest ih =>
    simp only [Prog.forEach, Prog.bind_assoc]
    refine ok_clientQuery refuse unmet (stable _ (List.Subset.refl _)) now ?_
    rintro db busy ⟨answer, written, more⟩ history' _ known still _ ran
    obtain ⟨row, denotes, rfl⟩ := insertEntry_ok ran
    have included : locks ⊆ locks ++ more := List.subset_append_left _ _
    refine ih still (fun others wider => stable others (List.Subset.trans included wider)) known ?_
    intro db history'' rows others known still' all wider
    simpa using done db history'' (row :: rows) others known still' (.cons denotes all)
      (List.Subset.trans included wider)

theorem ok_validate {valid : Bool} {f : Unit → Program β} {txn : Option (Txn engine)}
    (refuse : ∀ error history, Unmet error history → refusal error history)
    (unmet : meets history = [])
    (value : valid = true → Session scope call success refusal (f ()) history txn db) :
    Session scope call success refusal ((validate valid).bind f) history txn db := by
  cases valid with
  | false => exact ok_refuse (refuse _ _ ⟨unmet, by simp⟩)
  | true => exact value rfl

theorem ok_requireKey {idempotencyKey : Option String} {f : String → Program β}
    {txn : Option (Txn engine)}
    (refuse : ∀ error history, Unmet error history → refusal error history)
    (unmet : meets history = [])
    (value : ∀ key, idempotencyKey = some key →
      Session scope call success refusal (f key) history txn db) :
    Session scope call success refusal ((requireKey idempotencyKey).bind f) history txn db := by
  have refused : Session scope call success refusal (.done (.error .badRequest)) history txn db :=
    ok_refuse (refuse _ _ ⟨unmet, by simp⟩)
  unfold requireKey
  cases idempotencyKey with
  | none => exact refused
  | some key =>
    by_cases bad : key = "" ∨ utf16Length key > 255
    · simp only [bad, if_true]
      exact refused
    · simp only [bad, if_false]
      exact value key rfl

end

theorem Money.fromCents_finite {amountCents : Double} {amount : Money}
    (read : Money.fromCents amountCents = .ok amount) : amountCents = .finite amount.cents := by
  unfold Money.fromCents at read
  split at read
  · rename_i found same
    obtain rfl := Except.ok.inj read
    unfold SafeInteger.ofDouble at same
    split at same
    · split at same
      · rw [← Option.some.inj same]
        rfl
      · simp at same
    · simp at same
  · simp at read

theorem matches_exact {existing : TransferRecord} {attempted : Transfer} {row : TransferRow}
    (wellFormed : row.amount.natAbs ≤ Double.maxSafeInteger) (read : row.toRecord = .ok existing)
    (matched : TransfersService.matches_ existing attempted = true) :
    attempted.payerAccountId = row.payerAccountId.text ∧
      attempted.payeeAccountId = row.payeeAccountId.text ∧ attempted.amount.cents = row.amount := by
  obtain ⟨amount, cents, same⟩ := TransferRow.toRecord_ok wellFormed
  obtain rfl := Except.ok.inj (same.symm.trans read)
  simp only [TransfersService.matches_, Bool.and_eq_true, decide_eq_true_eq,
    Money.equals_iff] at matched
  exact ⟨matched.1.1.symm, matched.1.2.symm, matched.2.symm.trans cents⟩

theorem Request.matches_of_exact {request : Request} {db : Database} {row : TransferRow}
    (exact_ : request = db.requestOf row) : request.Matches db row := by
  subst exact_
  exact ⟨Uuid.parse_text _, Uuid.parse_text _, rfl⟩

theorem WellFormed.companion_none {db : Database} (wellFormed : WellFormed db) {row : TransferRow}
    (present : row ∈ db.transfers) (payee : row.payeeAccountId ≠ SUSPENSE_ACCOUNT_ID) :
    db.companion row.id = none := by
  cases found : db.interbankTransfers.find? fun other => other.transferId = row.id with
  | none => simp [Database.companion, found]
  | some other =>
    have same := List.find?_some found
    simp only [decide_eq_true_eq] at same
    obtain ⟨transfer, member, id, -, suspense⟩ :=
      wellFormed.interbank other (List.mem_of_find?_eq_some found)
    obtain rfl := transfer_ext wellFormed member present (id.trans same)
    exact absurd suspense payee

theorem WellFormed.companion_new {db : Database} (wellFormed : WellFormed db) {id : Uuid}
    (new : ¬ db.hasTransfer id) : db.companion id = none := by
  cases found : db.interbankTransfers.find? fun other => other.transferId = id with
  | none => simp [Database.companion, found]
  | some other =>
    have same := List.find?_some found
    simp only [decide_eq_true_eq] at same
    obtain ⟨transfer, member, id, -⟩ := wellFormed.interbank other (List.mem_of_find?_eq_some found)
    have present : transfer.id ∈ db.transfers.map TransferRow.id := List.mem_map_of_mem member
    rw [id, same] at present
    exact absurd present new

section

variable {bankId : String} {scope : Scope (service bankId)} {db : Database}

theorem payer_locked {transfer : Transfer} {locks : List (Lock Resource)}
    (all : ∀ id ∈ (if transfer.payeeAccountId < transfer.payerAccountId then
        [transfer.payeeAccountId, transfer.payerAccountId]
      else [transfer.payerAccountId, transfer.payeeAccountId]), Locked id locks) :
    Locked transfer.payerAccountId locks := by
  apply all
  split <;> simp

theorem ok_replay {id : Uuid} {key : String} {body : CreateTransferDto}
    {history : List (Performed engine)} {transfer : Transfer} {amount : Money}
    {existing : TransferRecord} {row : TransferRow} (valid : body.valid = true)
    (created : Transfer.create id.text body.payerAccountId body.payeeAccountId
      amount = .ok transfer) (cents : body.amountCents = .finite amount.cents)
    (wellFormed : WellFormed db) (present : row ∈ db.transfers) (sameKey : row.idempotencyKey = key)
    (read : row.toRecord = .ok existing) (met : meets history = [row])
    (quiet : commits history = []) :
    Session scope (.transfer id (some key) body)
      (fun response history _ db => Success (.transfer id (some key) body) response history db)
      Refusal
      ((TransfersService.replay existing transfer).bind fun record => pure (.transfer record))
      history none db := by
  unfold TransfersService.replay
  cases matched : TransfersService.matches_ existing transfer with
  | false =>
    exact ok_refuse ⟨fun _ => by simp, fun _ _ => ⟨quiet, .inl rfl⟩⟩
  | true =>
    obtain ⟨-, samePayer, samePayee, sameAmount⟩ := Transfer.create_ok created
    obtain ⟨payer, payee, total⟩ := matches_exact (wellFormed.safe row present) read matched
    simp only [CreateTransferDto.valid, Bool.and_eq_true] at valid
    have payeeText : body.payeeAccountId = row.payeeAccountId.text := samePayee.symm.trans payee
    have customer : Customer row.payeeAccountId :=
      customer_of_isUUID valid.1.2 (by rw [payeeText]; exact Uuid.parse_text _)
    have none_ := wellFormed.companion_none present customer.1
    have payerText : body.payerAccountId = row.payerAccountId.text := samePayer.symm.trans payer
    have customerPayer : Customer row.payerAccountId :=
      customer_of_isUUID valid.1.1 (by rw [payerText]; exact Uuid.parse_text _)
    have exact_ : (Call.transfer id (some key) body).request = some (db.requestOf row) := by
      have amountText : body.amountCents = .finite row.amount := by rw [cents, ← sameAmount, total]
      simp [Call.request, Database.requestOf, sameKey, payerText, payeeText, amountText, none_]
    refine ok_done (stable_success _ _ _) (?_ : Success _ (.transfer existing) _ db)
      fun _ _ known => known
    constructor
    · intro request asked
      obtain rfl := Option.some.inj (exact_.symm.trans asked)
      exact ⟨existing, rfl, row, present, read, customerPayer, Request.matches_of_exact rfl⟩
    · intro other member
      rw [met] at member
      obtain rfl := List.mem_singleton.mp member
      exact ⟨present, exact_⟩
    · intro handling handles
      cases handles

/-- What a booking transaction leaves behind: an answer, or the loss of the race on the key. -/
def Raced {α : Type} (call : Call) (key : String) (response : α → Response) :
    Option α → List (Performed engine) → Option (Txn engine) → Database → Prop
  | some value, history, txn, db => txn = none ∧ Success call (response value) history db
  | none, history, txn, db => txn = none ∧ meets history = [] ∧ commits history = [] ∧ db.hasKey key

theorem ok_bookTransfer {id : Uuid} {key : String} {body : CreateTransferDto} {transfer : Transfer}
    {amount : Money} {row : TransferRow} {record : TransferRecord}
    {history : List (Performed engine)} {locks : List (Lock Resource)} (valid : body.valid = true)
    (created : Transfer.create id.text body.payerAccountId body.payeeAccountId amount =
      .ok transfer)
    (cents : body.amountCents = .finite amount.cents) (denotes : (transfer.params key).Denotes row)
    (read : row.toRecord = .ok record) (unmet : meets history = [])
    (bookable : row.Bookable locks db)
    (payerLock : exclusive (.account row.payerAccountId) ∈ locks) :
    Session scope (.transfer id (some key) body)
      (Raced (.transfer id (some key) body) key .transfer) Unmet
      ((LedgerRepository.balanceOf transfer.payerAccountId .client).bind fun balance =>
        (fromDomain (transfer.assertPayerCanAfford balance)).bind fun _ =>
        (LedgerRepository.append transfer.entries).bind fun _ =>
        (perform .commit).bind fun _ => pure (some record))
      history (some (live [.transfer row] locks)) db := by
  obtain ⟨sameId, samePayer, samePayee, sameAmount⟩ := Transfer.create_ok created
  simp only [CreateTransferDto.valid, Bool.and_eq_true] at valid
  have payer : Uuid.parse body.payerAccountId = some row.payerAccountId := samePayer ▸ denotes.payer
  have payee : Uuid.parse body.payeeAccountId = some row.payeeAccountId := samePayee ▸ denotes.payee
  have rowId : row.id = id := by
    have parsed := denotes.id
    simp only [Transfer.params, sameId, Uuid.parse_text] at parsed
    exact (Option.some.inj parsed).symm
  have rowAmount : body.amountCents = .finite row.amount := by
    rw [cents, ← sameAmount, denotes.amount]
    rfl
  refine ok_balanceOf (fun _ _ same => same) unmet
    (stable_bookable (List.Subset.refl _) bookable.keyLock bookable.idLock) bookable ?_
  intro db history account balance _ bookable unmet parsed total
  obtain rfl := Option.some.inj (parsed.symm.trans denotes.payer)
  refine ok_fromDomain (fun _ _ same => same) unmet ?_
  intro _ enough
  have funds : row.amount ≤ db.balanceOf row.payerAccountId := by
    have check := Transfer.assertPayerCanAfford_ok enough
    rw [total] at check
    exact denotes.amount ▸ check
  have affordable : row.Affordable locks db :=
    ⟨customer_of_isUUID valid.1.1 payer, funds, payerLock⟩
  refine ok_append (fun _ _ same => same) unmet (fun more included =>
    (stable_bookable included bookable.keyLock bookable.idLock).and (stable_affordable included))
    ⟨bookable, affordable⟩ ?_
  intro db history rows more known unmet denoted included
  obtain rfl := entries_unique denoted denotes.entries
  refine ok_commit_ (fun _ _ same => same) unmet
    ((stable_bookable included bookable.keyLock bookable.idLock).and (stable_affordable included))
    known ?_ ?_
  · intro db _ known
    refine .inr ?_
    rw [List.singleton_append, book_writes]
    exact .transferred row id (some key) body (known.1.mono included) (known.2.mono included)
      ⟨rowId, congrArg some denotes.key, ⟨valid.1.1, payer⟩, rowAmount⟩ ⟨valid.1.2, payee⟩
  · intro db history wellFormed known unmet
    rw [List.singleton_append, book_writes]
    refine ok_done (stable_success _ _ _) (?_ : Success _ (.transfer record) _ (db.book row))
      fun _ _ known => ⟨rfl, known⟩
    constructor
    · intro request asked
      obtain rfl := Option.some.inj asked
      refine ⟨record, rfl, row, List.mem_append_right _ (List.mem_singleton_self _), read,
        known.2.payer, payer, payee, ?_⟩
      have none_ : (db.book row).companion row.id = none := wellFormed.companion_new known.1.newId
      have sameKey : key = row.idempotencyKey := denotes.key
      simp [Request.spelled, Database.requestOf, none_, sameKey, rowAmount]
    · intro other member
      rw [unmet] at member
      simp at member
    · intro handling handles
      cases handles

theorem ok_transfer {id : Uuid} {idempotencyKey : Option String} {body : CreateTransferDto} :
    Session scope (.transfer id idempotencyKey body)
      (fun response history _ db => Success (.transfer id idempotencyKey body) response history db)
      Refusal (program bankId (.transfer id idempotencyKey body)) [] none db := by
  have refuse (error : Failure) (history : List (Performed engine)) (unmet : Unmet error history) :
      Refusal error history := unmet.refusal
  simp only [program, TransfersController.create, TransfersService.execute, Prog.bind_eq,
    Prog.bind_assoc]
  refine ok_validate refuse rfl ?_
  intro valid
  refine ok_requireKey refuse rfl ?_
  rintro key rfl
  refine ok_fromDomain refuse rfl ?_
  intro amount readAmount
  have cents := Money.fromCents_finite readAmount
  refine ok_fromDomain refuse rfl ?_
  intro transfer created
  refine ok_findByIdempotencyKey refuse rfl stable_true trivial ?_ ?_
  · -- No row yet: the transaction either books one or finds that another has just done so.
    intro db history _ _ _ unmet quiet
    simp only [Prog.bind_assoc, TransfersService.lockAccounts]
    refine ok_rollbackOnError (Raced (.transfer id (some key) body) key .transfer) refuse ?_ ?_
    · refine ok_begin_ (fun _ _ same => same) unmet stable_true trivial ?_
      intro db history _ _ unmet quiet'
      refine ok_lockAccounts (fun _ _ same => same) unmet (fun _ => stable_true) trivial ?_
      intro db history more _ unmet quiet'' locked
      refine ok_insert (fun _ _ same => same) unmet stable_true trivial ?_ ?_
      · intro db history others _ _ taken unmet afterInsert
        refine ok_rollback_ (fun _ _ same => same) unmet (stable_hasKey key) taken ?_
        intro db history _ taken unmet afterRollback
        refine ok_done (stable_hasKey key) taken fun db _ taken => ⟨rfl, unmet, ?_, taken⟩
        rw [afterRollback, afterInsert, quiet'', quiet', quiet]
        rfl
      · intro db history row record _ _ denotes bookable read unmet
        have locks : exclusive (.account row.payerAccountId) ∈ [] ++ more ++ row.locks := by
          obtain ⟨account, parsed, member⟩ := payer_locked locked
          obtain rfl := Option.some.inj (parsed.symm.trans denotes.payer)
          exact List.mem_append_left _ member
        exact ok_bookTransfer valid created cents denotes read unmet bookable locks
    · rintro (_ | record) history txn db wellFormed ⟨rfl, result⟩
      · obtain ⟨unmet, quiet', taken⟩ := result
        simp only [Prog.bind_assoc]
        refine ok_findByIdempotencyKey refuse unmet (stable_hasKey key) taken ?_ ?_
        · intro db history _ taken missing
          exact absurd taken missing
        · intro db history row record wellFormed _ present sameKey read met quiet''
          exact ok_replay valid created cents wellFormed present sameKey read met
            (quiet''.trans quiet')
      · exact ok_done (stable_success _ _ _) result fun _ _ known => known
  · intro db history row record wellFormed _ present sameKey read met quiet
    exact ok_replay valid created cents wellFormed present sameKey read met quiet

end

end BankA
