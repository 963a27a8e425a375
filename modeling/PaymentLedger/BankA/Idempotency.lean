import PaymentLedger.BankA.Solvency

set_option autoImplicit false

-- Both transfer endpoints share one column of keys. Whoever commits a row first under a
-- key decides what every other call with that key is told.

namespace BankA

open Transactional

/-- A client that names an account by a UUID spells it as the database does. -/
structure Request.Canonical (request : Request) : Prop where
  payer : ∀ id, Uuid.parse request.payerAccountId = some id → request.payerAccountId = id.text
  payee : ∀ id, Uuid.parse request.payeeAccountId = some id → request.payeeAccountId = id.text

def canonicalRun (bankId : String) : Scope (service bankId) where
  initial := migrated
  starts call := ∀ request, call.request = some request → request.Canonical

/-- The id that a call draws for the transfer it may create. -/
def Call.generatedId : Call → Option Uuid
  | .transfer id _ _ => some id
  | .interbankTransfer draws _ _ => some draws.id
  | _ => none

theorem Call.request_of_handling {call : Call} {handling : Handling}
    (handles : call.handling = some handling) :
    call.request = none := by
  cases call <;> first | rfl | cases handles

theorem Request.Matches.exact_ {request : Request} {db : Database} {row : TransferRow}
    (matches_ : request.Matches db row) (canonical : request.Canonical) :
    request = db.requestOf row := by
  rw [← matches_.same, Request.spelled, ← canonical.payer _ matches_.payer,
    ← canonical.payee _ matches_.payee]

theorem Frame.matches_ {locks : List (Lock Resource)} {db db' : Database}
    (frame : Frame locks db db') {request : Request} {row : TransferRow}
    (present : row ∈ db.transfers) (matches_ : request.Matches db row) : request.Matches db' row :=
  { matches_ with same := matches_.same.trans (frame.requestOf present).symm }

/-- What the commit of a client's request adds. -/
structure Adds (call : Call) (request : Request) (row : TransferRow)
    (db db' : Database) : Prop where
  transfers : db'.transfers = db.transfers ++ [row]
  entries : db'.ledgerEntries = db.ledgerEntries ++ row.entries
  id : call.generatedId = some row.id
  payer : Customer row.payerAccountId
  matches_ : request.Matches db' row

theorem Commit.adds {bankId : String} {call : Call} {locks : List (Lock Resource)}
    {db db' : Database} (wellFormed : WellFormed db) (commit : Commit bankId call locks db db')
    {request : Request} (asked : call.request = some request) :
    ∃ row, Adds call request row db db' := by
  cases commit with
  | opened id ownerName new => cases asked
  | seeded row account amountCents bookable payer key => cases asked
  | published rows same => cases asked
  | confirmed _ handling settlementId transferId handles targets confirms statusLock =>
    rw [Call.request_of_handling handles] at asked
    cases asked
  | compensated _ handling settlementId transferId original handles targets refuses present same
      known bookable statusLock =>
    rw [Call.request_of_handling handles] at asked
    cases asked
  | transferred row id key body bookable affordable requested payee =>
    obtain rfl := Option.some.inj asked
    refine ⟨row, rfl, rfl, congrArg some requested.id.symm, affordable.payer, requested.payer.2,
      payee.2, ?_⟩
    have alone : (db.book row).companion row.id = none := wellFormed.companion_new bookable.newId
    simp [Request.spelled, Database.requestOf, alone, requested.key, requested.amount]
  | debited row draws key body bookable affordable requested payee newEvent interbankLock
      eventLock =>
    obtain rfl := Option.some.inj asked
    refine ⟨row, rfl, rfl, congrArg some requested.id.symm, affordable.payer,
      requested.payer.2, ?_, ?_⟩
    · rw [payee]
      exact Uuid.parse_text _
    · have new := wellFormed.companion_new bookable.newId
      have companion : (db.debit row (interbankRow draws body)
          (requestedRow bankId draws body row.amount)).companion row.id =
            some (body.payeeBankId, body.payeeAccountRef) := by
        rw [requested.id] at new ⊢
        exact companion_debit new
      simp [Request.spelled, Database.requestOf, companion, requested.key, requested.amount]

theorem Commit.new_row {bankId : String} {call : Call} {locks : List (Lock Resource)}
    {db db' : Database} (commit : Commit bankId call locks db db') {row : TransferRow}
    (present : row ∈ db'.transfers) (payer : Customer row.payerAccountId) : row ∈ db.transfers ∨
    ∃ request, call.request = some request := by
  cases commit with
  | opened id ownerName new => exact .inl present
  | published rows same => exact .inl present
  | transferred added id key body bookable affordable requested payee => exact .inr ⟨_, rfl⟩
  | debited added draws key body bookable affordable requested payee newEvent interbankLock
      eventLock =>
    exact .inr ⟨_, rfl⟩
  | seeded added account amountCents bookable treasury key =>
    rcases List.mem_append.mp present with old | new
    · exact .inl old
    · obtain rfl := List.mem_singleton.mp new
      exact absurd treasury payer.2
  | confirmed _ handling settlementId transferId handles targets confirms statusLock =>
    rw [settle_transfers] at present
    exact .inl present
  | compensated _ handling settlementId transferId original handles targets refuses old same known
      bookable statusLock =>
    rw [Database.compensate, settle_transfers, Database.refund] at present
    split at present
    · exact .inl present
    · rcases List.mem_append.mp present with old | new
      · exact .inl old
      · obtain rfl := List.mem_singleton.mp new
        exact absurd rfl payer.1

theorem execute_books {sql : Sql} {db : Database} {busy : List (Lock Resource)}
    {effect : Reply sql.Answer} (ran : execute sql db busy = .ok effect) :
    (effect.writes.foldl Database.apply db).transfers = db.transfers ∨
      (effect.writes.foldl Database.apply db).ledgerEntries = db.ledgerEntries := by
  cases sql with
  | insertAccount id ownerName =>
    rw [(insertAccount_ok ran).2]
    exact .inl rfl
  | selectAccount id =>
    rw [selectAccount_ok ran]
    exact .inl rfl
  | lockAccount id =>
    rw [(lockAccount_ok ran).1]
    exact .inl rfl
  | insertTransfer new =>
    rcases insertTransfer_ok ran with ⟨-, none_, -⟩ | ⟨row, -, -, -, one, -⟩
    · rw [none_]
      exact .inl rfl
    · rw [one]
      exact .inr rfl
  | insertSeedTransfer new =>
    obtain ⟨row, -, -, one, -⟩ := insertSeedTransfer_ok ran
    rw [one]
    exact .inr rfl
  | selectTransferByKey key =>
    rw [(selectTransferByKey_ok ran).1]
    exact .inl rfl
  | selectTransferById id =>
    rw [(selectTransferById_ok ran).1]
    exact .inl rfl
  | sumEntries accountId =>
    rw [(sumEntries_ok ran).1]
    exact .inl rfl
  | insertEntry entry =>
    obtain ⟨row, -, one⟩ := insertEntry_ok ran
    rw [one]
    exact .inl rfl
  | insertSeedEntries debit credit =>
    obtain ⟨first, second, -, -, two⟩ := insertSeedEntries_ok ran
    rw [two]
    exact .inl rfl
  | insertInterbankTransfer transferId payeeBankId payeeAccountRef now =>
    obtain ⟨id, -, -, one, -⟩ := insertInterbankTransfer_ok ran
    rw [one]
    exact .inl rfl
  | selectInterbankTransfer transferId =>
    rw [(selectInterbankTransfer_ok ran).1]
    exact .inl rfl
  | updateStatus transferId status now =>
    simp only [execute, updateStatus, Postgres.bind_eq_ok] at ran
    obtain ⟨id, -, ran⟩ := ran
    split at ran <;> obtain rfl := Except.ok.inj ran <;> exact .inl rfl
  | selectStaleDebited olderThan =>
    obtain rfl := Except.ok.inj ran
    exact .inl rfl
  | insertEvent id aggregateId eventType routingKey payload =>
    obtain ⟨aggregate, -, -, one, -⟩ := insertEvent_ok ran
    rw [one]
    exact .inl rfl
  | claimUnpublished limit =>
    obtain rfl := Except.ok.inj ran
    exact .inl rfl
  | markPublished id =>
    rcases markPublished_ok ran with same | same <;> rw [same] <;> exact .inl rfl

section

variable {bankId : String}

/-- Every row that a customer pays answers a request that some call has made. -/
def Created (started : Call → Prop) (db : Database) : Prop :=
  ∀ row ∈ db.transfers, Customer row.payerAccountId → ∃ call request, started call ∧
    call.generatedId = some row.id ∧ call.request = some request ∧ request.Matches db row

theorem Commit.created {call : Call} {locks : List (Lock Resource)} {db db' : Database}
    {started : Call → Prop} (wellFormed : WellFormed db) (commit : Commit bankId call locks db db')
    (now : started call) (created : Created started db) : Created started db' := by
  intro row present payer
  have frame := commit.frame wellFormed
  by_cases old : row ∈ db.transfers
  · obtain ⟨creator, request, run, id, asked, matches_⟩ := created row old payer
    exact ⟨creator, request, run, id, asked, frame.matches_ old matches_⟩
  · obtain ⟨request, asked⟩ := (commit.new_row present payer).resolve_left old
    obtain ⟨added, adds⟩ := commit.adds wellFormed asked
    rw [adds.transfers] at present
    obtain rfl := List.mem_singleton.mp ((List.mem_append.mp present).resolve_left old)
    exact ⟨call, request, now, adds.id, asked, adds.matches_⟩

theorem Reachable.created {scope : Scope (service bankId)} {s : System (service bankId)}
    (fresh : scope.initial = migrated) (reachable : Reachable scope s) :
    Created s.Started s.db := by
  refine reachable.attributed (verified fresh) Created ?_ ?_ ?_
  · intro started row present
    rw [fresh] at present
    simp [migrated] at present
  · intro started further db includes created row present payer
    obtain ⟨call, request, run, rest⟩ := created row present payer
    exact ⟨call, request, includes call run, rest⟩
  · intro started call locks db db' wellFormed now changes created
    exact changes.2.2.created wellFormed now created

theorem Sound.adds {scope : Scope (service bankId)} {s s' : System (service bankId)}
    (fresh : scope.initial = migrated) (sound : Sound (contract scope) s) {index : Nat}
    {fault : Fault} {thread : Thread (service bankId)} (present : s.threads[index]? = some thread)
    (permits : scope.Permits s (.run index fault) s') (step : s.step (.run index fault) = some s')
    (differs : s'.db ≠ s.db) {request : Request} (asked : Call.request thread.call = some request) :
    (∃ row, Adds thread.call request row s.db s'.db) ∧
      ∃ later, s'.threads[index]? = some later ∧ commits later.history ≠ [] := by
  obtain ⟨⟨locks, -, -, commit⟩, how⟩ := sound.changed (verified fresh) present permits step differs
  obtain ⟨row, adds⟩ := Commit.adds sound.inv commit asked
  refine ⟨⟨row, adds⟩, ?_⟩
  rcases how with ⟨later, reply, found, -, appended⟩ | ⟨sql, effect, ran, same⟩
  · refine ⟨later, found, ?_⟩
    rw [appended]
    exact List.ne_nil_of_mem
      (List.mem_filter.mpr ⟨List.mem_append_right _ (List.mem_singleton_self _), rfl⟩)
  · have lists := execute_books (exec_eq_ok.mp ran)
    change _ = effect.writes.foldl Database.apply s.db at same
    rw [← same, adds.transfers, adds.entries] at lists
    simp [TransferRow.entries] at lists

theorem Sound.post {scope : Scope (service bankId)} {s : System (service bankId)}
    (sound : Sound (contract scope) s) {thread : Thread (service bankId)}
    (member : thread ∈ s.threads) {result : Except Failure Response}
    (finished : thread.result = some result) :
    Promise (fun response history _ db => Success thread.call response history db) Refusal
      result thread.history none s.db := by
  obtain ⟨index, present⟩ := List.mem_iff_getElem?.mp member
  have ok := sound.threads index thread present
  rw [Thread.result_eq_some.mp finished] at ok
  exact ok s.db .refl sound.inv

structure Answered (s : System (service bankId)) (thread : Thread (service bankId))
    (request : Request) (key : String) : Prop where
  succeeded : ∀ response, thread.result = some (.ok response) → ∃ row ∈ s.db.transfers,
    row.idempotencyKey = key ∧ request = s.db.requestOf row ∧
    (∃ record, Response.record response = some record ∧ row.toRecord = .ok record) ∧
    ∃ creator ∈ s.threads, Call.generatedId creator.call = some row.id ∧
      Call.request creator.call = some request
  conflicted : ∀ row ∈ meets thread.history, request ≠ s.db.requestOf row →
    ∀ result, thread.result = some result → result ≠ .error (.database .crashed) →
      commits thread.history = [] ∧
        (result = .error (.domain .idempotencyConflict) ∨
          ∃ cause, result = .error (.database cause))
  notVanished : ∀ other, thread.result ≠ some (.error (.vanished other))

theorem answered {s : System (service bankId)} (reachable : Reachable (canonicalRun bankId) s)
    {thread : Thread (service bankId)} (member : thread ∈ s.threads) {request : Request}
    (asked : Call.request thread.call = some request) {key : String}
    (same : request.idempotencyKey = some key) : Answered s thread request key := by
  have sound := reachable.sound (verified rfl)
  have canonical (thread : Thread (service bankId)) (member : thread ∈ s.threads)
      (request : Request)
      (asked : Call.request thread.call = some request) : request.Canonical := by
    obtain ⟨index, present⟩ := List.mem_iff_getElem?.mp member
    exact sound.starts index thread present request asked
  constructor
  · intro response finished
    have success : Success thread.call response thread.history s.db :=
      Sound.post sound member finished
    obtain ⟨record, shape, row, present, read, customer, matches_⟩ := success.answers request asked
    have equal := matches_.exact_ (canonical thread member request asked)
    have sameKey : row.idempotencyKey = key := by
      rw [equal] at same
      exact Option.some.inj same
    obtain ⟨call, wanted, ⟨index, creator, found, rfl⟩, id, origin, exact_⟩ :=
      Reachable.created rfl reachable row present customer
    have creates := List.mem_of_getElem? found
    have agreed : wanted = request := by
      rw [exact_.exact_ (canonical creator creates wanted origin), equal]
    exact ⟨row, present, sameKey, equal, ⟨record, shape, read⟩, creator, creates, id,
      agreed ▸ origin⟩
  · intro row met differs result finished alive
    cases result with
    | ok response =>
      have success : Success thread.call response thread.history s.db :=
        Sound.post sound member finished
      have equal := Option.some.inj (asked.symm.trans (success.met row met).2)
      exact absurd equal differs
    | error error =>
      have refusal : Refusal error thread.history := Sound.post sound member finished
      obtain ⟨quiet, told⟩ :=
        refusal.met (List.ne_nil_of_mem met) fun crashed => alive (by rw [crashed])
      refine ⟨quiet, told.imp (congrArg Except.error) ?_⟩
      rintro ⟨cause, rfl⟩
      exact ⟨_, rfl⟩
  · intro other finished
    have refusal : Refusal (.vanished other) thread.history := Sound.post sound member finished
    exact refusal.notVanished other rfl

def Failure.isConflict : Failure → Bool
  | .domain .idempotencyConflict => true
  | _ => false

def refused (thread : Thread (service "bank-a")) : Bool :=
  match thread.prog with
  | .done (.error error) => Failure.isConflict error
  | _ => false

theorem payment_canonical (id : Uuid) (cents : Int) :
    (canonicalRun "bank-a").starts (payment id cents) := by
  intro request asked
  obtain rfl := Option.some.inj asked
  constructor <;> intro id parsed <;> rw [Uuid.parse_text] at parsed <;> rw [Option.some.inj parsed]

end

end BankA
