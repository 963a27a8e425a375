import PaymentLedger.BankA.Statements

set_option autoImplicit false

-- Each rule reads from left to right: the call of a repository function, then the rest of
-- the program. A session that has met no row yet may fail with any error but `vanished`.

namespace BankA

open Transactional Contract

def Unmet (error : Failure) (history : List (Performed engine)) : Prop :=
  meets history = [] ∧ ∀ key, error ≠ .vanished key

theorem Unmet.refusal {error : Failure} {history : List (Performed engine)}
    (unmet : Unmet error history) : Refusal error history where
  notVanished := unmet.2
  met := fun some_ => absurd unmet.1 some_

theorem TransferRow.toRecord_ok {row : TransferRow}
    (safe : row.amount.natAbs ≤ Double.maxSafeInteger) :
    ∃ amount : Money, amount.cents = row.amount ∧
      row.toRecord = .ok
      ⟨row.id.text, row.payerAccountId.text, row.payeeAccountId.text, amount⟩ := by
  have read := Money.fromCents_ofInt_cents ⟨row.amount, safe⟩
  refine ⟨⟨row.amount, safe⟩, rfl, ?_⟩
  change Money.fromCents (.ofInt row.amount) = _ at read
  simp only [TransferRow.toRecord, read]
  rfl

def live (writes : List Write) (locks : List (Lock Resource)) : Txn engine := { writes, locks }

theorem optionalRecord_some {row : TransferRow} {record : TransferRecord}
    (read : row.toRecord = .ok record) : optionalRecord (some row) = .done (.ok (some record)) := by
  simp only [optionalRecord, fromDomain, Prog.ofExcept, read, Except.mapError]
  rfl

abbrev Session {bankId : String} (scope : Scope (service bankId)) (call : Call) {α : Type}
    (success : α → List (Performed engine) → Option (Txn engine) → Database → Prop)
    (refusal : Failure → List (Performed engine) → Prop) (program : Program α)
    (history : List (Performed engine)) (txn : Option (Txn engine)) (db : Database) : Prop :=
  (contract scope).Ok call (Promise success refusal) program history txn db

section

variable {bankId : String} {scope : Scope (service bankId)} {call : Call} {β : Type}
variable {success : β → List (Performed engine) → Option (Txn engine) → Database → Prop}
variable {refusal : Failure → List (Performed engine) → Prop}
variable {history : List (Performed engine)} {db : Database} {P : Database → Prop}

theorem ok_refuse {error : Failure} {txn : Option (Txn engine)} (refuse : refusal error history) :
    Session scope call success refusal (.done (.error error)) history txn db :=
  ok_result fun _ _ => refuse

theorem ok_fromDomain {α : Type} {result : Except DomainError α} {f : α → Program β}
    {txn : Option (Txn engine)}
    (refuse : ∀ error history, Unmet error history → refusal error history)
    (unmet : meets history = [])
    (value : ∀ value, result = .ok value →
      Session scope call success refusal (f value) history txn db) :
    Session scope call success refusal ((fromDomain result).bind f) history txn db := by
  cases result with
  | ok found => exact value found rfl
  | error error => exact ok_refuse (refuse _ _ ⟨unmet, by simp⟩)

theorem ok_clientQuery {statement : Sql} {f : statement.Answer → Program β} {writes : List Write}
    {locks : List (Lock Resource)}
    (refuse : ∀ error history, Unmet error history → refusal error history)
    (unmet : meets history = []) (stable : (contract scope).Stable locks P) (now : P db)
    (done : ∀ db busy effect history', WellFormed db → P db → meets history' = [] →
      commits history' = commits history →
      execute statement (writes.foldl Database.apply db) busy = .ok effect →
      Session scope call success refusal (f effect.answer) history'
        (some (live (writes ++ effect.writes) (locks ++ effect.locks))) db) :
    Session scope call success refusal ((sql .client statement).bind f) history
      (some (live writes locks)) db := by
  refine ok_client rfl stable now ?_ ?_
  · intro error db inv known raises
    obtain ⟨cause, rfl⟩ := raises_database raises
    exact ok_refuse (refuse _ _ ⟨(meets_append rfl).trans unmet, by simp⟩)
  · intro db busy effect inv known ran
    exact done db busy effect _ inv known ((meets_append rfl).trans unmet) (commits_append rfl)
      (exec_eq_ok.mp ran)

theorem ok_poolRead {statement : Sql} {f : statement.Answer → Program β}
    (failed : ∀ cause, refusal (.database cause)
      (history ++ [⟨.query .pool statement, .error (.database cause)⟩]))
    (reads : ∀ db busy effect, execute statement db busy = .ok effect → effect.writes = [])
    (stable : (contract scope).Stable [] P) (now : P db)
    (done : ∀ db busy effect, WellFormed db → P db → execute statement db busy = .ok effect →
      Session scope call success refusal (f effect.answer)
        (history ++ [⟨.query .pool statement, .ok effect.answer⟩]) none db) :
    Session scope call success refusal ((sql .pool statement).bind f) history none db := by
  refine ok_read (fun db busy effect ran => reads db busy effect (exec_eq_ok.mp ran))
    stable now ?_ ?_
  · intro error db inv known raises
    obtain ⟨cause, rfl⟩ := raises_database raises
    exact ok_refuse (failed cause)
  · intro db busy effect inv known ran
    exact done db busy effect inv known (exec_eq_ok.mp ran)

theorem ok_findByIdempotencyKey {key : String} {f : Option TransferRecord → Program β}
    (refuse : ∀ error history, Unmet error history → refusal error history)
    (unmet : meets history = []) (stable : (contract scope).Stable [] P) (now : P db)
    (missing : ∀ db history', WellFormed db → P db → ¬ db.hasKey key → meets history' = [] →
      commits history' = commits history →
      Session scope call success refusal (f none) history' none db)
    (found : ∀ db history' row record, WellFormed db → P db → row ∈ db.transfers →
      row.idempotencyKey = key → row.toRecord = .ok record → meets history' = [row] →
      commits history' = commits history →
      Session scope call success refusal (f (some record)) history' none db) :
    Session scope call success refusal ((TransferRepository.findByIdempotencyKey key).bind f)
      history none db := by
  simp only [TransferRepository.findByIdempotencyKey, Prog.bind_eq, Prog.bind_assoc]
  have failed (cause : PgError) : refusal (.database cause)
      (history ++ [⟨.query .pool (.selectTransferByKey key), .error (.database cause)⟩]) :=
    refuse _ _ ⟨(meets_append rfl).trans unmet, by simp⟩
  refine ok_poolRead failed (fun _ _ _ ran => (selectTransferByKey_ok ran).1) stable now ?_
  rintro db busy ⟨answer, writes, locks⟩ wellFormed known ran
  obtain ⟨-, absent, present⟩ := selectTransferByKey_ok ran
  cases answer with
  | none =>
    exact missing db _ wellFormed known (absent rfl) ((meets_append rfl).trans unmet)
      (commits_append rfl)
  | some row =>
    have member := present row rfl
    obtain ⟨amount, -, read⟩ := TransferRow.toRecord_ok (wellFormed.safe row member.1)
    have met : meets (history ++ [⟨.query .pool (.selectTransferByKey key), .ok (some row)⟩]) =
        [row] := by
      rw [meets_append_met rfl, unmet]
      rfl
    have continued := found db _ row _ wellFormed known member.1 member.2 read met
      (commits_append rfl)
    simpa only [optionalRecord_some read, Prog.done_bind] using continued

theorem ok_begin_ {f : Unit → Program β}
    (refuse : ∀ error history, Unmet error history → refusal error history)
    (unmet : meets history = []) (stable : (contract scope).Stable [] P) (now : P db)
    (done : ∀ db history', WellFormed db → P db → meets history' = [] →
      commits history' = commits history →
      Session scope call success refusal (f ()) history' (some (live [] [])) db) :
    Session scope call success refusal ((perform .begin).bind f) history none db := by
  refine ok_begin stable now ?_ ?_
  · intro db inv known
    exact ok_refuse (refuse _ _
      ⟨(meets_append rfl).trans unmet, fun _ => by simp [service, engine]⟩)
  · intro db inv known
    exact done db _ inv known ((meets_append rfl).trans unmet) (commits_append rfl)

theorem ok_rollback_ {f : Unit → Program β} {txn : Option (Txn engine)}
    (refuse : ∀ error history, Unmet error history → refusal error history)
    (unmet : meets history = []) (stable : (contract scope).Stable (held txn) P) (now : P db)
    (done : ∀ db history', WellFormed db → P db → meets history' = [] →
      commits history' = commits history →
      Session scope call success refusal (f ()) history' none db) :
    Session scope call success refusal ((perform .rollback).bind f) history txn db := by
  refine ok_rollback stable now ?_ ?_
  · intro db inv known
    exact ok_refuse (refuse _ _
      ⟨(meets_append rfl).trans unmet, fun _ => by simp [service, engine]⟩)
  · intro db inv known
    exact done db _ inv known ((meets_append rfl).trans unmet) (commits_append rfl)

theorem ok_commit_ {f : Unit → Program β} {writes : List Write} {locks : List (Lock Resource)}
    (refuse : ∀ error history, Unmet error history → refusal error history)
    (unmet : meets history = []) (stable : (contract scope).Stable locks P) (now : P db)
    (act : ∀ db, WellFormed db → P db → writes.foldl Database.apply db = db ∨
      Commit bankId call locks db (writes.foldl Database.apply db))
    (done : ∀ db history', WellFormed db → P db → meets history' = [] →
      Session scope call success refusal (f ()) history' none (writes.foldl Database.apply db)) :
    Session scope call success refusal ((perform .commit).bind f) history
      (some (live writes locks)) db := by
  have failed (db : Database) :
      Session scope call success refusal (.done (.error (.database .disconnected)))
      (history ++ [⟨.commit, .error (.database .disconnected)⟩]) none db :=
    ok_refuse (refuse _ _ ⟨(meets_append rfl).trans unmet, by simp⟩)
  refine ok_commit stable now ?_ ?_ ?_ ?_
  · intro db inv known _
    exact act db inv known
  · intro db _ _
    exact failed db
  · intro db _ _ _
    exact failed _
  · intro db inv known _
    exact done db _ inv known ((meets_append rfl).trans unmet)

theorem ok_rollbackOnError {α : Type} {body : Program α} {f : α → Program β}
    (inside : α → List (Performed engine) → Option (Txn engine) → Database → Prop)
    {txn : Option (Txn engine)}
    (refuse : ∀ error history, Unmet error history → refusal error history)
    (session : Session scope call inside Unmet body history txn db)
    (value : ∀ value history txn db, WellFormed db → inside value history txn db →
      Session scope call success refusal (f value) history txn db) :
    Session scope call success refusal ((rollbackOnError body).bind f) history txn db := by
  refine ok_bind (R := Promise inside Unmet) ?_ ?_ ?_
  · refine ok_tryCatch session (fun _ _ _ _ _ result => result) ?_
    intro error history txn db _ unmet
    exact ok_rollback_ (fun _ _ result => result) unmet.1 stable_true trivial
      fun db history' _ _ still _ => ok_refuse ⟨still, unmet.2⟩
  · intro result history txn db wellFormed done
    exact value result history txn db wellFormed done
  · intro error history txn db _ unmet
    exact refuse error history unmet

end

section Transactions

variable {bankId : String} {scope : Scope (service bankId)} {call : Call} {β : Type}
variable {success : β → List (Performed engine) → Option (Txn engine) → Database → Prop}
variable {refusal : Failure → List (Performed engine) → Prop}
variable {history : List (Performed engine)} {db : Database} {P : Database → Prop}
variable {writes : List Write} {locks : List (Lock Resource)}

def Locked (id : String) (locks : List (Lock Resource)) : Prop :=
  ∃ account, Uuid.parse id = some account ∧ exclusive (.account account) ∈ locks

theorem Locked.append {id : String} (locked : Locked id locks) (more : List (Lock Resource)) :
    Locked id (locks ++ more) := by
  obtain ⟨account, parsed, member⟩ := locked
  exact ⟨account, parsed, List.mem_append_left _ member⟩

theorem ok_lockById {id : String} {f : Bool → Program β}
    (refuse : ∀ error history, Unmet error history → refusal error history)
    (unmet : meets history = []) (stable : (contract scope).Stable locks P) (now : P db)
    (done : ∀ db history' found more, WellFormed db → P db → meets history' = [] →
      commits history' = commits history → (found = true → Locked id (locks ++ more)) →
      Session scope call success refusal (f found) history'
      (some (live writes (locks ++ more))) db) :
    Session scope call success refusal ((AccountRepository.lockById id).bind f) history
      (some (live writes locks)) db := by
  refine ok_clientQuery refuse unmet stable now ?_
  rintro db busy ⟨answer, written, more⟩ history' wellFormed known still same ran
  obtain ⟨rfl, locked⟩ := lockAccount_ok ran
  have continued := done db history' answer more wellFormed known still same fun found => by
    obtain ⟨account, parsed, member⟩ := locked found
    exact ⟨account, parsed, List.mem_append_right _ member⟩
  simpa using continued

theorem ok_lockAccounts {ids : List String} {f : Unit → Program β}
    (refuse : ∀ error history, Unmet error history → refusal error history)
    (unmet : meets history = []) (stable : ∀ locks, (contract scope).Stable locks P) (now : P db)
    (done : ∀ db history' more, P db → meets history' = [] →
      commits history' = commits history → (∀ id ∈ ids, Locked id (locks ++ more)) →
      Session scope call success refusal (f ()) history' (some (live writes (locks ++ more))) db) :
    Session scope call success refusal
      ((Prog.forEach ids fun id => (AccountRepository.lockById id).bind fun found =>
        if found then return () else fail (.domain (.accountNotFound id))).bind f)
      history (some (live writes locks)) db := by
  induction ids generalizing history locks db with
  | nil => simpa [Prog.forEach] using done db history [] now unmet rfl (by simp)
  | cons id rest ih =>
    simp only [Prog.forEach, Prog.bind_assoc]
    refine ok_lockById refuse unmet (stable _) now ?_
    intro db history' found more _ known still same locked
    cases found with
    | false => exact ok_refuse (refuse _ _ ⟨still, by simp⟩)
    | true =>
      refine ih still known ?_
      intro db history'' others known still' same' lockedRest
      have all : ∀ other ∈ id :: rest, Locked other (locks ++ (more ++ others)) := by
        intro other member
        rw [← List.append_assoc]
        rcases List.mem_cons.mp member with rfl | member
        · exact (locked rfl).append others
        · exact lockedRest other member
      simpa using done db history'' (more ++ others) known still' (same'.trans same) all

end Transactions

end BankA
