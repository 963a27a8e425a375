import PaymentLedger.BankB.Contract

set_option autoImplicit false

namespace BankB

open Transactional Contract InboundTransfersService

def live (writes : List Write) (locks : List (Lock Resource)) : Txn engine := { writes, locks }

/-- A value satisfies `R`, and an error is not about a vanished row. -/
def After {α : Type} (R : α → Option (Txn engine) → Database → Prop) : Assertion service α :=
  fun result _ txn db =>
    match result with
    | .ok value => R value txn db
    | .error error => error.Proper

abbrev Guarded (scope : Scope service) (call : Call) {α : Type}
    (R : α → Option (Txn engine) → Database → Prop) (program : Program α)
    (history : List (Performed engine)) (txn : Option (Txn engine)) (db : Database) : Prop :=
  (contract scope).Ok call (After R) program history txn db

theorem database_proper (error : PgError) : (Failure.database error).Proper := by
  intro transferId same
  cases same

section Rules

variable {scope : Scope service} {call : Call} {α β : Type} {history : List (Performed engine)}
variable {db : Database} {P : Database → Prop} {writes : List Write} {locks : List (Lock Resource)}
variable {R : α → Option (Txn engine) → Database → Prop}
    {Q : β → Option (Txn engine) → Database → Prop}

theorem guarded_error {error : Failure} {txn : Option (Txn engine)} (proper : error.Proper) :
    Guarded scope call R (.done (.error error)) history txn db := ok_result fun _ _ => proper

theorem guarded_bind {program : Program α} {f : α → Program β} {txn : Option (Txn engine)}
    (first : Guarded scope call R program history txn db)
    (rest : ∀ value history txn db, WellFormed db → R value txn db →
      Guarded scope call Q (f value) history txn db) :
    Guarded scope call Q (program.bind f) history txn db :=
  ok_bind first (fun value history txn db inv now => rest value history txn db inv now)
    fun _ _ _ _ _ proper => proper

theorem guarded_fromDomain {result : Except DomainError α} {f : α → Program β}
    {txn : Option (Txn engine)}
    (value : ∀ value, result = .ok value → Guarded scope call Q (f value) history txn db) :
    Guarded scope call Q ((fromDomain result).bind f) history txn db := by
  cases result with
  | ok found => exact value found rfl
  | error error =>
    refine guarded_error ?_
    intro transferId same
    cases same

theorem raises_proper {sql : Sql} {error : Failure} (raises : Raises service sql db error) :
    error.Proper := by
  rcases raises with rfl | ⟨busy, raised⟩
  · exact database_proper _
  · obtain ⟨cause, rfl⟩ := exec_error raised
    exact database_proper _

theorem guarded_client {statement : Sql} {f : statement.Answer → Program β}
    (stable : (contract scope).Stable locks P) (now : P db)
    (done : ∀ db effect history', WellFormed db → P db →
      execute statement (writes.foldl Database.apply db) = .ok effect →
      Guarded scope call Q (f effect.answer) history'
        (some (live (writes ++ effect.writes) (locks ++ effect.locks))) db) :
    Guarded scope call Q ((sql .client statement).bind f) history
      (some (live writes locks)) db := by
  refine ok_client rfl stable now ?_ ?_
  · intro error db _ _ raises
    exact guarded_error (raises_proper raises)
  · intro db busy effect inv known ran
    exact done db effect _ inv known (exec_eq_ok.mp ran)

theorem guarded_read {statement : Sql} {f : statement.Answer → Program β}
    {txn : Option (Txn engine)}
    (reads : ∀ db effect, execute statement db = .ok effect → effect.writes = [])
    (stable : (contract scope).Stable (held txn) P) (now : P db)
    (done : ∀ db effect history', WellFormed db → P db → execute statement db = .ok effect →
      Guarded scope call Q (f effect.answer) history' txn db) :
    Guarded scope call Q ((sql .pool statement).bind f) history txn db := by
  refine ok_read (fun db _ effect ran => reads db effect (exec_eq_ok.mp ran)) stable now ?_ ?_
  · intro error db _ _ raises
    exact guarded_error (raises_proper raises)
  · intro db busy effect inv known ran
    exact done db effect _ inv known (exec_eq_ok.mp ran)

theorem guarded_begin {f : Unit → Program β}
    (done : ∀ db history', WellFormed db →
      Guarded scope call Q (f ()) history' (some (live [] [])) db) :
    Guarded scope call Q ((perform .begin).bind f) history none db := by
  refine ok_begin (P := fun _ => True) stable_true trivial ?_ ?_
  · intro db _ _
    exact guarded_error (database_proper _)
  · intro db inv _
    exact done db _ inv

theorem guarded_commit {f : Unit → Program β} (stable : (contract scope).Stable locks P)
    (now : P db) (act : ∀ db, P db → writes.foldl Database.apply db = db ∨
      Commit call locks db (writes.foldl Database.apply db))
    (done : ∀ db history', P db →
      Guarded scope call Q (f ()) history' none (writes.foldl Database.apply db)) :
    Guarded scope call Q ((perform .commit).bind f) history (some (live writes locks)) db := by
  refine ok_commit stable now ?_ ?_ ?_ ?_
  · intro db _ known _
    exact act db known
  · intro db _ _
    exact guarded_error (database_proper _)
  · intro db _ _ _
    exact guarded_error (database_proper _)
  · intro db _ known _
    exact done db _ known

end Rules

/-! ## The inbound transfers service -/

section Transfers

variable {scope : Scope service} {body : Option Consumer.Payload} {event : TransferInitiatedEvent}
    {db : Database}
variable {history : List (Performed engine)}

theorem stable_enters {row : IncomingTransferRow} {locks mine : List (Lock Resource)}
    (included : locks ⊆ mine) (lock : exclusive (.incomingTransfer row.transferId) ∈ locks) :
    (contract scope).Stable mine fun db => row.Enters event locks db := by
  intro db db' interferes known
  exact { known with new := stable_new (included lock) db db' interferes known.new }

theorem IncomingTransferRow.Enters.mono {row : IncomingTransferRow}
    {locks more : List (Lock Resource)} (enters : row.Enters event locks db)
    (included : locks ⊆ more) : row.Enters event more db :=
  { enters with lock := included enters.lock }

def Prepared (event : TransferInitiatedEvent) (record : Option IncomingTransferRecord)
    (txn : Option (Txn engine)) (db : Database) : Prop :=
  (record = none ∧ ∃ locks row, txn = some (live [] locks) ∧
    uuidParam event.transferId = .ok (some row.transferId) ∧
      db.incomingTransfer row.transferId = some row) ∨
    ∃ locks row entries, record = some (toRecord row) ∧
      txn = some (live (.incomingTransfer row :: entries.map .ledgerEntry) locks) ∧
      row.Enters event locks db ∧ row.Booked entries

theorem enter_writes (row : IncomingTransferRow) (entries : List LedgerEntryRow) (db : Database) :
    (Write.incomingTransfer row :: entries.map Write.ledgerEntry).foldl Database.apply db =
      db.enter row entries := by
  have appended (db : Database) : (entries.map Write.ledgerEntry).foldl Database.apply db =
      { db with ledgerEntries := db.ledgerEntries ++ entries } := by
    induction entries generalizing db with
    | nil => simp
    | cons entry rest ih => simp [ih, Database.apply]
  rw [List.foldl_cons, appended]
  rfl

theorem guarded_tryInsert {new : NewTransfer} {α : Type}
    {f : Option IncomingTransferRecord → Program α} {R : α → Option (Txn engine) → Database → Prop}
    {P : Database → Prop} (stable : (contract scope).Stable [] P) (now : P db)
    (same : new.transferId = event.transferId ∧ new.payeeAccountId = event.payeeAccountId ∧
      new.amountCents = event.amountCents)
    (lost : ∀ db history' row, P db → uuidParam event.transferId = .ok (some row.transferId) →
      db.incomingTransfer row.transferId = some row →
      Guarded scope (.deliver body) R (f none) history' (some (live [] [])) db)
    (own : ∀ db history' row, P db →
      row.Enters event [exclusive (.incomingTransfer row.transferId)] db →
      row.status = new.status →
      Guarded scope (.deliver body) R (f (some (toRecord row))) history'
        (some (live [.incomingTransfer row] [exclusive (.incomingTransfer row.transferId)])) db) :
    Guarded scope (.deliver body) R ((IncomingTransferRepository.tryInsert new).bind f) history
      (some (live [] [])) db := by
  obtain ⟨sameId, samePayee, sameAmount⟩ := same
  simp only [IncomingTransferRepository.tryInsert, Prog.bind_eq, Prog.bind_assoc]
  refine guarded_client stable now ?_
  rintro db ⟨answer, written, locks⟩ history' _ known ran
  obtain ⟨row, denotes, checked, ⟨rfl, found, rfl, rfl⟩ | ⟨rfl, fresh, rfl, rfl⟩⟩ :=
    insertTransfer_ok ran
  · obtain ⟨other, found⟩ := Option.isSome_iff_exists.mp found
    have named : uuidParam event.transferId = .ok (some other.transferId) := by
      rw [transferId_of_found found, ← sameId]
      exact denotes.transferId
    rw [← transferId_of_found found] at found
    exact lost db history' other known named found
  · have enters : row.Enters event [exclusive (.incomingTransfer row.transferId)] db :=
      { checked
        new := fresh
        lock := List.mem_singleton_self _
        names := uuidParam_ok (sameId ▸ denotes.transferId)
        payee := samePayee ▸ denotes.payee
        amount := sameAmount ▸ denotes.amount }
    exact own db history' row known enters denotes.status

theorem LedgerEntry.Denotes.unique {entry : LedgerEntry} {row other : LedgerEntryRow}
    (left : entry.Denotes row) (right : entry.Denotes other) : row = other := by
  have transferId := Option.some.inj (Except.ok.inj (left.transferId.symm.trans right.transferId))
  have accountId := Option.some.inj (Except.ok.inj (left.accountId.symm.trans right.accountId))
  have amount := left.amount.trans right.amount.symm
  cases row
  cases other
  simp_all

theorem guarded_append {entries : List LedgerEntry} {α : Type} {f : Unit → Program α}
    {R : α → Option (Txn engine) → Database → Prop} {P : Database → Prop} {writes : List Write}
    {locks : List (Lock Resource)} (stable : ∀ more, locks ⊆ more → (contract scope).Stable more P)
    (now : P db) (done : ∀ db history' rows more, P db →
      List.Forall₂ LedgerEntry.Denotes entries rows → locks ⊆ more →
      Guarded scope (.deliver body) R (f ()) history'
      (some (live (writes ++ rows.map .ledgerEntry) more)) db) :
    Guarded scope (.deliver body) R ((LedgerRepository.append entries).bind f) history
      (some (live writes locks))
      db := by
  unfold LedgerRepository.append
  induction entries generalizing history writes locks db with
  | nil => simpa [Prog.forEach] using done db history [] locks now .nil (List.Subset.refl _)
  | cons entry rest ih =>
    simp only [Prog.forEach, Prog.bind_assoc]
    refine guarded_client (stable _ (List.Subset.refl _)) now ?_
    rintro db ⟨answer, written, more⟩ history' _ known ran
    obtain ⟨row, denotes, rfl⟩ := insertEntry_ok ran
    have included : locks ⊆ locks ++ more := List.subset_append_left _ _
    refine ih (fun others wider => stable others (List.Subset.trans included wider)) known ?_
    intro db history'' rows others known all wider
    simpa using done db history'' (row :: rows) others known (.cons denotes all)
      (List.Subset.trans included wider)

theorem entries_denoted {row : IncomingTransferRow} {locks : List (Lock Resource)} {amount : Money}
    {text : Text} {payee : Uuid} {rows : List LedgerEntryRow} (enters : row.Enters event locks db)
    (account : event.payeeAccountId = .str text) (encoded : encodeUuid text = some payee)
    (read : Money.fromCents event.amountCents = .ok amount)
    (denoted : List.Forall₂ LedgerEntry.Denotes (entries event amount) rows) :
    rows = row.entries payee := by
  have cents : row.amount = amount.cents := by
    have stored := enters.amount
    rw [Money.fromCents_ok read] at stored
    simp only [bigintParam] at stored
    cases ranged : int8 amount.cents with
    | error error =>
      rw [ranged] at stored
      cases stored
    | ok value =>
      rw [ranged] at stored
      rw [← Option.some.inj (Except.ok.inj stored), int8_ok ranged]
  obtain ⟨spelled, named, parsed⟩ := enters.names
  have transferId : uuidParam event.transferId = .ok (some row.transferId) := by
    simp [named, uuidParam, parsed]
  have first : LedgerEntry.Denotes ⟨event.transferId, .str SUSPENSE_ACCOUNT_ID, amount.negated⟩
      ⟨row.transferId, suspense, -row.amount⟩ :=
    ⟨transferId, by simp [uuidParam, encodeUuid_suspense], by simp [cents, Money.negated]⟩
  have second : LedgerEntry.Denotes ⟨event.transferId, event.payeeAccountId, amount⟩
      ⟨row.transferId, payee, row.amount⟩ :=
    ⟨transferId, by simp [uuidParam, account, encoded], cents⟩
  unfold entries at denoted
  cases denoted with
  | cons head tail =>
    cases tail with
    | cons next last =>
      cases last
      rw [head.unique first, next.unique second]
      rfl

theorem guarded_findAccount {α : Type} {f : Option AccountRow → Program α}
    {txn : Option (Txn engine)} {R : α → Option (Txn engine) → Database → Prop}
    (done : ∀ account db history', WellFormed db →
      (account.isSome → ∃ text payee, event.payeeAccountId = .str text ∧
        encodeUuid text = some payee) →
      Guarded scope (.deliver body) R (f account) history' txn db) (inv : WellFormed db) :
    Guarded scope (.deliver body) R ((findAccount event).bind f) history txn db := by
  unfold findAccount
  cases valid : isValidUuid event.payeeAccountId with
  | error error =>
    refine guarded_error ?_
    intro transferId same
    subst same
    cases payee : event.payeeAccountId <;> rw [payee] at valid <;> cases valid
  | ok verdict =>
    simp only [Prog.bind_eq, Prog.bind_assoc]
    cases verdict with
    | false => exact done none db history inv (by simp)
    | true =>
      simp only [Prog.ofExcept, AccountRepository.findById]
      refine guarded_read (P := fun _ => True) (fun _ _ ran => (selectAccount_ok ran).1) stable_true
        trivial ?_
      intro db effect history' inv _ ran
      refine done effect.answer db history' inv ?_
      intro found
      obtain ⟨row, found⟩ := Option.isSome_iff_exists.mp found
      exact (selectAccount_ok ran).2 row found

theorem guarded_settle (inv : WellFormed db) :
    Guarded scope (.deliver body) (Prepared event) (settle event) history
      (some (live [] [])) db := by
  have lost {db : Database} {history' : List (Performed engine)} {row : IncomingTransferRow}
      (named : uuidParam event.transferId = .ok (some row.transferId))
      (found : db.incomingTransfer row.transferId = some row) :
      Guarded scope (.deliver body) (Prepared event) (.done (.ok none)) history'
      (some (live [] [])) db := by
    refine ok_done (stable_found row) found ?_
    intro db _ found
    exact .inl ⟨rfl, [], row, rfl, named, found⟩
  simp only [settle, Prog.bind_eq]
  refine guarded_findAccount ?_ inv
  intro account db history inv spelled
  cases account with
  | none =>
    rw [← Prog.bind_pure (IncomingTransferRepository.tryInsert _)]
    refine guarded_tryInsert (P := fun _ => True) stable_true trivial ⟨rfl, rfl, rfl⟩ ?_ ?_
    · intro db history' row _ named found
      exact lost named found
    · intro db history' row _ enters status
      refine ok_done (stable_enters (List.Subset.refl _) enters.lock) enters ?_
      intro db _ enters
      exact .inr ⟨_, row, [], rfl, rfl, enters, .rejected status⟩
  | some account =>
    obtain ⟨text, payee, same, encoded⟩ := spelled rfl
    refine guarded_tryInsert (P := fun _ => True) stable_true trivial ⟨rfl, rfl, rfl⟩ ?_ ?_
    · intro db history' row _ named found
      exact lost named found
    · intro db history' row _ enters status
      simp only [Option.isSome_some, if_true]
      refine guarded_fromDomain ?_
      intro amount read
      refine guarded_append (fun more included => stable_enters included enters.lock) enters ?_
      intro db history' rows more enters denoted included
      obtain rfl := entries_denoted enters same encoded read denoted
      refine ok_done (stable_enters included enters.lock) enters ?_
      intro db _ enters
      have payeeText : encodeUuid row.payeeAccountId = some payee := by
        have equal := enters.payee.symm.trans same
        rw [Value.str.inj equal]
        exact encoded
      exact .inr ⟨more, row, row.entries payee, rfl, rfl, enters.mono included,
        .credited payee status payeeText⟩

def Decided (event : TransferInitiatedEvent) (record : Option IncomingTransferRecord)
    (db : Database) : Prop :=
  ∃ row, uuidParam event.transferId = .ok (some row.transferId) ∧
    db.incomingTransfer row.transferId = some row ∧
    ∀ found, record = some found → found = toRecord row

theorem guarded_exit {record : Option IncomingTransferRecord} {txn : Option (Txn engine)}
    (reads : Consumer.Reads body event) (prepared : Prepared event record txn db) :
    Guarded scope (.deliver body) (fun found _ db => Decided event found db)
      ((perform .commit).bind fun _ => .done (.ok record)) history txn db := by
  rcases prepared with ⟨rfl, locks, row, rfl, named, found⟩ |
    ⟨locks, row, entries, rfl, rfl, enters, booked⟩
  · refine guarded_commit (stable_found row) found (fun _ _ => .inl rfl) ?_
    intro db history found
    exact ok_done (stable_found row) found fun db _ found => ⟨row, named, found, by simp⟩
  · obtain ⟨text, same, encoded⟩ := enters.names
    have named : uuidParam event.transferId = .ok (some row.transferId) := by
      simp [same, uuidParam, encoded]
    refine guarded_commit (stable_enters (List.Subset.refl _) enters.lock) enters ?_ ?_
    · intro db enters
      rw [enter_writes]
      exact .inr (.settled body event row entries reads enters booked)
    · intro db history enters
      rw [enter_writes]
      have found : (db.enter row entries).incomingTransfer row.transferId = some row := by
        rw [enter_found enters.new, if_pos rfl]
      refine ok_done (stable_found row) found ?_
      intro db _ found
      refine ⟨row, named, found, ?_⟩
      intro record same
      exact (Option.some.inj same).symm

theorem guarded_rollback {error : Failure} {α : Type}
    {R : α → Option (Txn engine) → Database → Prop} {txn : Option (Txn engine)}
    (proper : error.Proper) :
    Guarded scope (.deliver body) R ((perform .rollback).bind fun _ => fail error) history
      txn db := by
  refine ok_rollback (P := fun _ => True) stable_true trivial ?_ ?_
  · intro db _ _
    exact guarded_error (database_proper _)
  · intro db _ _
    exact guarded_error proper

theorem guarded_transaction (reads : Consumer.Reads body event) :
    Guarded scope (.deliver body) (fun found _ db => Decided event found db)
      (withTransaction (settle event)) history
      none db := by
  simp only [withTransaction, Prog.bind_eq, Prog.pure_eq]
  refine guarded_begin ?_
  intro db history inv
  have caught : Guarded scope (.deliver body) (Prepared event)
      ((settle event).tryCatch fun error => (perform .rollback).bind fun _ => fail error) history
      (some (live [] [])) db := by
    refine ok_tryCatch (guarded_settle inv) ?_ ?_
    · intro value history txn db _ prepared
      exact prepared
    · intro error history txn db _ proper
      exact guarded_rollback proper
  refine guarded_bind caught ?_
  intro record history txn db _ prepared
  exact guarded_exit reads prepared

theorem guarded_handle (reads : Consumer.Reads body event) :
    Guarded scope (.deliver body) (fun reply _ db => reply.Quotes db) (handle event) history
      none db := by
  have answered {row : IncomingTransferRow} {db : Database} {history : List (Performed engine)}
      {txn : Option (Txn engine)} (found : db.incomingTransfer row.transferId = some row) :
      Guarded scope (.deliver body) (fun (reply : ReplyEvent) _ db => reply.Quotes db)
        (.done (.ok (replyFor (toRecord row)))) history txn db :=
    ok_done (stable_found row) found fun _ _ found => ⟨row, found, rfl⟩
  simp only [handle, IncomingTransferRepository.findById, Prog.bind_eq, Prog.bind_assoc]
  refine guarded_read (P := fun _ => True) (fun _ _ ran => (selectTransfer_ok ran).1) stable_true
    trivial ?_
  intro db effect history _ _ ran
  obtain ⟨-, -, facts⟩ := selectTransfer_ok ran
  cases first : effect.answer with
  | some row => exact answered (facts row first).2
  | none =>
    simp only [Option.map_none, Prog.pure_eq, Prog.done_bind]
    refine guarded_bind (guarded_transaction reads) ?_
    intro record history txn db _ decided
    obtain ⟨row, named, found, own⟩ := decided
    cases record with
    | some record =>
      rw [own record rfl]
      exact answered found
    | none =>
      -- The row that the INSERT met is committed, and rows stay.
      refine guarded_read (fun _ _ ran => (selectTransfer_ok ran).1) (stable_found row) found ?_
      intro db effect history _ found ran
      have read := (selectTransfer_ok ran).2.1 row.transferId named
      rw [found] at read
      rw [read]
      exact answered found

end Transfers

section Deliveries

variable {scope : Scope service} {call : Call} {db : Database} {history : List (Performed engine)}

theorem guarded_emit {event : Event} {α : Type} {f : Unit → Program α} {txn : Option (Txn engine)}
    {R : α → Option (Txn engine) → Database → Prop} {P : Database → Prop}
    (stable : (contract scope).Stable (held txn) P) (now : P db)
    (sends : ∀ db, P db → event.Holds db)
    (done : ∀ db history', Guarded scope call R (f ()) history' txn db) :
    Guarded scope call R ((perform (.emit event)).bind f) history txn db := by
  refine ok_emit stable now ?_ ?_ ?_
  · intro db _ known
    exact sends db known
  · intro db _ _
    exact guarded_error (database_proper _)
  · intro db _ _
    exact done db _

theorem guarded_get {payload : Consumer.Payload} {field : String} {α : Type} {f : Value → Program α}
    {R : α → Option (Txn engine) → Database → Prop} {txn : Option (Txn engine)}
    (done : ∀ value, Consumer.get payload field = .done (.ok value) →
      Guarded scope call R (f value) history txn db) :
    Guarded scope call R ((Consumer.get payload field).bind f) history txn db := by
  cases found : payload.find? fun entry => entry.1 = field with
  | none =>
    have shape : Consumer.get payload field = .done (.error (.keyError field)) := by
      simp only [Consumer.get, found]
      rfl
    rw [shape]
    refine guarded_error ?_
    intro transferId same
    cases same
  | some entry =>
    have shape : Consumer.get payload field = .done (.ok entry.2) := by
      simp only [Consumer.get, found]
      rfl
    rw [shape]
    exact done entry.2 shape

theorem guarded_process {program : Program Unit} {txn : Option (Txn engine)}
    (body : Guarded scope call (fun _ _ _ => True) program history txn db) :
    Guarded scope call (fun _ _ _ => True) (Consumer.process program) history txn db := by
  simp only [Consumer.process, Prog.bind_eq]
  have guarded : Guarded scope call (fun _ _ _ => True)
      (program.tryCatch fun error => (perform (.emit (.rejected error))).bind fun _ => fail error)
      history txn db := by
    refine ok_tryCatch body (fun _ _ _ _ _ _ => trivial) ?_
    intro error history txn db _ proper
    exact guarded_emit (P := fun _ => True) stable_true trivial (fun _ _ => proper) fun _ _ =>
      guarded_error proper
  refine guarded_bind guarded ?_
  intro _ history txn db _ _
  rw [← Prog.bind_pure (perform (.emit .acked))]
  exact guarded_emit (P := fun _ => True) stable_true trivial (fun _ _ => trivial) fun _ _ =>
    ok_result fun _ _ => trivial

theorem guarded_deliver {body : Option Consumer.Payload} :
    Guarded scope (.deliver body) (fun _ _ _ => True) (program (.deliver body)) history
      none db := by
  simp only [program, Prog.bind_eq]
  refine guarded_bind (guarded_process ?_) fun _ _ _ _ _ _ => ok_result fun _ _ => trivial
  cases body with
  | none =>
    refine guarded_error ?_
    intro transferId same
    cases same
  | some payload =>
    simp only [Consumer.toEvent, Prog.bind_eq, Prog.bind_assoc]
    refine guarded_get fun transferId first => guarded_get fun payee second =>
      guarded_get fun amount third => ?_
    have reads : Consumer.Reads (some payload) ⟨transferId, payee, amount⟩ :=
      ⟨payload, rfl, by simp [Consumer.toEvent, first, second, third]⟩
    simp only [Prog.pure_eq, Prog.done_bind]
    refine guarded_bind (guarded_handle reads) ?_
    intro reply history txn db _ quotes
    rw [← Prog.bind_pure (perform (.emit (.reply reply)))]
    exact guarded_emit (stable_quotes reply) quotes (fun _ known => known) fun _ _ =>
      ok_result fun _ _ => trivial

theorem guarded_createAccount {id : Uuid} {ownerName : String} :
    Guarded scope (.createAccount id ownerName) (fun _ _ _ => True)
      (program (.createAccount id ownerName)) history
      none db := by
  simp only [program, AccountsRouter.createAccount]
  split
  · simp only [AccountRepository.create, Prog.bind_eq]
    refine ok_pool (P := fun _ => True) stable_true trivial ?_ ?_
    · intro error db _ _ raises
      exact guarded_error (raises_proper raises)
    · rintro db busy ⟨answer, written, locks⟩ _ _ ran _
      obtain ⟨new, rfl⟩ := insertAccount_ok (exec_eq_ok.mp ran)
      exact ⟨.inr (.opened ⟨id, ownerName⟩ new), ok_result fun _ _ => trivial,
        guarded_error (database_proper _)⟩
  · refine guarded_error ?_
    intro transferId same
    cases same

end Deliveries

/-- Bank B meets its contract from the migrated database on, whatever is started. -/
theorem verified {scope : Scope service} (fresh : scope.initial = migrated) :
    (contract scope).Verified where
  initial := by
    rw [fresh]
    exact wellFormed_migrated
  inv call locks db db' wellFormed changes := Commit.wellFormed wellFormed changes.2.2
  sends event call locks db db' wellFormed changes sent := (Commit.frame changes.2.2).holds sent
  crashed call history db _ error same := by
    rw [← Except.error.inj same]
    exact database_proper _
  program call db _ _ := by
    have proper {call : Call}
        (guarded : Guarded scope call (fun _ _ _ => True) (program call) [] none db) :
        (contract scope).Ok call
        (fun result history _ db => (contract scope).Post call result history db)
          (service.program call) [] none db := by
      refine ok_mono ?_ guarded
      intro result history txn db after error same
      rw [same] at after
      exact after
    cases call with
    | createAccount id ownerName => exact proper guarded_createAccount
    | deliver body => exact proper guarded_deliver

end BankB
