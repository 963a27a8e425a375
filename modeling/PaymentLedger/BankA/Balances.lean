import PaymentLedger.BankA.Atomicity
import PaymentLedger.BankA.Outcomes
import PaymentLedger.BankA.Saga
import PaymentLedger.Shared.Precedence

set_option autoImplicit false

-- Each amount is checked when it comes in, and nothing checks the totals. `balanceOf` reads a
-- total back as a number, so it returns exactly while the total is a safe integer.

namespace BankA

open Transactional

/-! ## Totals in range -/

def InRange (total : Int) : Prop := total.natAbs ≤ Double.maxSafeInteger

instance (total : Int) : Decidable (InRange total) := by
  unfold InRange
  infer_instance

theorem fromCents_ofInt_iff {total : Int} : (∃ money, Money.fromCents (.ofInt total) = .ok money) ↔
      InRange total := by
  constructor
  · rintro ⟨money, read⟩
    rw [InRange, ← Money.fromCents_ofInt read]
    exact money.cents_le
  · intro inRange
    exact ⟨⟨total, inRange⟩, Money.fromCents_ofInt_cents ⟨total, inRange⟩⟩

theorem not_inRange {total : Int} {error : DomainError}
    (read : Money.fromCents (.ofInt total) = .error error) :
    ¬ InRange total := by
  rw [← fromCents_ofInt_iff]
  rintro ⟨money, same⟩
  rw [same] at read
  cases read

/-- The movement that a call books, if its commit books one. -/
def Call.Moves (call : Call) (db : Database) (movement : DoubleEntry.Movement Uuid) : Prop :=
  match call with
  | .devSeed _ id amountCents =>
    movement.payer = DEV_TREASURY_ACCOUNT_ID ∧ Uuid.parse id = some movement.payee ∧
      amountCents = .finite movement.amount
  | .transfer _ _ body =>
    Uuid.parse body.payerAccountId = some movement.payer ∧
      Uuid.parse body.payeeAccountId = some movement.payee ∧
      body.amountCents = .finite movement.amount
  | .interbankTransfer _ _ body =>
    Uuid.parse body.payerAccountId = some movement.payer ∧ movement.payee = SUSPENSE_ACCOUNT_ID ∧
      body.amountCents = .finite movement.amount
  | call => ∃ handling text, ∃ original ∈ db.transfers, call.handling = some handling ∧
      handling.Targets text original.id ∧ ¬ handling.confirms ∧
      ¬ db.hasKey (InterbankReplyService.compensationKey text) ∧
      movement = (reversalOf handling.reversalId text original).movement

theorem Call.moves_reversal {call : Call} {db : Database} {handling : Handling} {text : String}
    {original : TransferRow} (handles : call.handling = some handling)
    (targets : handling.Targets text original.id) (refuses : ¬ handling.confirms)
    (present : original ∈ db.transfers)
    (newKey : ¬ db.hasKey (InterbankReplyService.compensationKey text)) :
    call.Moves db (reversalOf handling.reversalId text original).movement := by
  cases call with
  | outcome | reconcile =>
    exact ⟨handling, text, original, present, handles, targets, refuses, newKey, rfl⟩
  | _ => cases handles

def Bearable (db : Database) (movement : DoubleEntry.Movement Uuid) : Prop :=
  InRange (db.balanceOf movement.payer - movement.amount) ∧
    InRange (db.balanceOf movement.payee + movement.amount)

instance (db : Database) (movement : DoubleEntry.Movement Uuid) :
    Decidable (Bearable db movement) := by
  unfold Bearable
  infer_instance

def bearableRun (bankId : String) : Scope (service bankId) where
  initial := migrated
  admits call db := ∀ movement, Call.Moves call db movement → Bearable db movement

def AllInRange (db : Database) : Prop := ∀ account, InRange (db.balanceOf account)

theorem AllInRange.book {db : Database} {row : TransferRow} (all : AllInRange db)
    (distinct : row.payerAccountId ≠ row.payeeAccountId) (bearable : Bearable db row.movement) :
    AllInRange (db.book row) := by
  intro account
  rw [balanceOf_book, DoubleEntry.balance_movement]
  have payer : row.movement.payer = row.payerAccountId := rfl
  have payee : row.movement.payee = row.payeeAccountId := rfl
  by_cases pays : row.movement.payer = account
  · have other : row.movement.payee ≠ account := by
      rintro rfl
      exact distinct pays
    rw [if_neg other, if_pos pays, ← pays, zero_sub, ← Int.sub_eq_add_neg]
    exact bearable.1
  · by_cases gets : row.movement.payee = account
    · rw [if_pos gets, if_neg pays, ← gets, sub_zero]
      exact bearable.2
    · rw [if_neg gets, if_neg pays]
      simpa using all account

variable {bankId : String}

theorem Commit.inRange {call : Call} {locks : List (Lock Resource)} {db db' : Database}
    (commit : Commit bankId call locks db db') (admitted : (bearableRun bankId).admits call db)
    (all : AllInRange db) : AllInRange db' := by
  cases commit with
  | opened | published => exact all
  | seeded row account amountCents bookable payer key payee amount =>
    exact all.book bookable.checked.2.2.2 (admitted row.movement ⟨payer, payee, amount⟩)
  | transferred row id key body bookable affordable requested payee =>
    exact all.book bookable.checked.2.2.2
      (admitted row.movement ⟨requested.payer.2, payee.2, requested.amount⟩)
  | debited row draws key body bookable affordable requested payee =>
    exact all.book bookable.checked.2.2.2
      (admitted row.movement ⟨requested.payer.2, payee, requested.amount⟩)
  | confirmed =>
    intro account
    rw [settle_balanceOf]
    exact all account
  | compensated _ handling settlementId transferId original handles targets refuses present same
      known bookable =>
    intro account
    rw [Database.compensate, settle_balanceOf, Database.refund]
    split
    · exact all account
    · rename_i newKey
      subst same
      have moves := Call.moves_reversal handles targets refuses present newKey
      exact all.book (bookable newKey).checked.2.2.2 (admitted _ moves) account

theorem Reachable.inRange {s : System (service bankId)}
    (reachable : Reachable (bearableRun bankId) s) :
    AllInRange s.db := by
  refine reachable.invariant (verified rfl) AllInRange ?_ ?_
  · intro account
    exact Nat.zero_le _
  · intro call locks db db' _ changes all
    exact Commit.inRange changes.2.2 changes.2.1 all

/-! ## A seed that throws -/

section Seeds

variable {α : Type} {history more : List (Performed engine)}

/-- COMMIT, or an operation after it, has failed. -/
def Interrupted (history : List (Performed engine)) : Prop :=
  ∃ before performed after, history = before ++ performed :: after ∧
    commits (before ++ [performed]) ≠ [] ∧
    performed.reply.isOk = false

def found (text : String) (row : AccountRow) : Performed engine :=
  ⟨.query .pool (.selectAccount text), .ok (some row)⟩

def missed (text : String) : Performed engine := ⟨.query .pool (.selectAccount text), .ok none⟩

def summed (text : String) (total : Int) : Performed engine :=
  ⟨.query .pool (.sumEntries text), .ok total⟩

/-- An account that one lookup has found, a later one has not. -/
def Forgotten (history : List (Performed engine)) : Prop :=
  ∃ before text row after, history = before ++ missed text :: after ∧ found text row ∈ before

def Oversized (history : List (Performed engine)) : Prop :=
  ∃ text total, summed text total ∈ history ∧ ¬ InRange total

def Excused (history : List (Performed engine)) : Prop :=
  commits history = [] ∨ Interrupted history ∨ Forgotten history ∨ Oversized history

def Excusing (result : Except Failure α) (history : List (Performed engine)) : Prop :=
  match result with
  | .ok _ => True
  | .error _ => Excused history

theorem Excused.append {performed : Performed engine} (excused : Excused history)
    (other : isCommit performed = false) :
    Excused (history ++ [performed]) := by
  rcases excused with quiet | ⟨before, cut, after, rfl, rest⟩ |
    ⟨before, text, row, after, rfl, rest⟩ | ⟨text, total, member, large⟩
  · exact .inl ((commits_append other).trans quiet)
  · exact .inr (.inl ⟨before, cut, after ++ [performed], by simp, rest⟩)
  · exact .inr (.inr (.inl ⟨before, text, row, after ++ [performed], by simp, rest⟩))
  · exact .inr (.inr (.inr ⟨text, total, List.mem_append_left _ member, large⟩))

theorem interrupted_last {performed : Performed engine}
    (committed : commits (history ++ [performed]) ≠ []) (failed : performed.reply.isOk = false) :
    Excused (history ++ [performed]) :=
  .inr (.inl ⟨history, performed, [], rfl, committed, failed⟩)

/-- What the transaction of a seed leaves on record. -/
def Booking (accountId : String) (row : AccountRow) (result : Except Failure Unit)
    (history : List (Performed engine)) : Prop :=
  match result with
  | .ok _ => commits history ≠ [] ∧ found accountId row ∈ history
  | .error _ => Excused history

def Reading (operation : Op engine) : Prop :=
  match operation with
  | .query .pool sql => engine.Reads sql
  | _ => True

theorem traced_devSeed (transferId : Uuid) (accountId : String) (amount : Money) :
    (AccountsService.devSeed transferId accountId amount).Traced
      (fun _ operation => Reading operation) Excusing [] := by
  simp only [AccountsService.devSeed, AccountsService.getBalance, AccountsService.getAccount,
    AccountRepository.findById, LedgerRepository.balanceOf, Prog.bind_eq, Prog.bind_assoc]
  refine Prog.traced_perform (reads_sound (.selectAccount _) rfl) (fun _ => .inl rfl)
    fun account => ?_
  cases account with
  | none => exact .inl rfl
  | some row =>
    -- Nothing is committed until COMMIT; after it the lookup that found the account stays on
    -- record.
    have seeding : (rollbackOnError (α := Unit) do
        BankA.perform .begin
        sql .client (.insertSeedTransfer
          { id := transferId.text, idempotencyKey := AccountsService.seedKey transferId.text,
            payerAccountId := DEV_TREASURY_ACCOUNT_ID.text, payeeAccountId := accountId, amount })
        sql .client (.insertSeedEntries
          ⟨transferId.text, DEV_TREASURY_ACCOUNT_ID.text, amount.negated⟩
          ⟨transferId.text, accountId, amount⟩)
        BankA.perform .commit).Traced (fun _ operation => Reading operation)
          (Booking accountId row) [found accountId row] := by
      refine Prog.traced_tryCatch (R := Booking accountId row) ?_ (fun _ _ done => done) ?_
      · refine Prog.traced_perform trivial (fun _ => .inl rfl) fun _ => ?_
        refine Prog.traced_perform trivial (fun _ => .inl rfl) fun _ => ?_
        refine Prog.traced_perform trivial (fun _ => .inl rfl) fun _ => ?_
        refine ⟨trivial, ?_⟩
        intro reply _
        cases reply with
        | error error => exact interrupted_last (by simp [commits, isCommit, found]) rfl
        | ok done => exact ⟨by simp [commits, isCommit, found], by simp⟩
      · intro error history excused
        exact Prog.traced_perform trivial (fun _ => Excused.append excused rfl) fun _ =>
          Excused.append excused rfl
    simp only [Prog.pure_eq, Prog.done_bind]
    refine Prog.traced_bind seeding ?_ fun _ _ excused => excused
    rintro ⟨⟩ history ⟨committed, present⟩
    have still (performed : Performed engine) (other : isCommit performed = false) :
        commits (history ++ [performed]) ≠ [] := by
      rw [commits_append other]
      exact committed
    refine Prog.traced_perform (reads_sound (.selectAccount _) rfl)
      (fun _ => interrupted_last (still _ rfl) rfl) fun again => ?_
    cases again with
    | none => exact .inr (.inr (.inl ⟨history, accountId, row, [], rfl, present⟩))
    | some again =>
      refine Prog.traced_perform (reads_sound (.sumEntries _) rfl)
        (fun _ => interrupted_last ?_ rfl) fun total => ?_
      · rw [commits_append rfl]
        exact still _ rfl
      · cases read : Money.fromCents (.ofInt total) with
        | ok balance => trivial
        | error error =>
          exact .inr (.inr (.inr ⟨accountId, total, by simp [summed], not_inRange read⟩))

/-- What each call has left to show when it throws; only seeds have anything. -/
def SeedTrace (call : Call) (operation : Op engine) : Prop :=
  match call with
  | .devSeed _ _ _ => Reading operation
  | _ => True

def SeedEnd (call : Call) (result : Except Failure Response)
    (history : List (Performed engine)) : Prop :=
  match call with
  | .devSeed _ _ _ => result = .error (.database .crashed) ∨ Excusing result history
  | _ => True

theorem seedEnd_crashed (call : Call) (history : List (Performed engine)) :
    SeedEnd call (.error (.database .crashed)) history := by
  cases call with
  | devSeed => exact .inl rfl
  | _ => trivial

theorem traced_program (bankId : String) (call : Call) :
    (program bankId call).Traced (fun _ => SeedTrace call) (SeedEnd call) [] := by
  cases call with
  | devSeed transferId id amountCents =>
    simp only [program, AccountsController.devSeed, Prog.bind_eq, Prog.bind_assoc]
    cases valid : (Uuid.ofPattern id).isSome && isPositiveInt amountCents with
    | false => exact .inr (.inl rfl)
    | true =>
      cases read : Money.fromCents amountCents with
      | error error => exact .inr (.inl rfl)
      | ok amount =>
        have seeded := traced_devSeed transferId id amount
        have answered := Prog.traced_bind
          (f := fun balance => (pure (.balance balance) : Program Response))
          (Q := SeedEnd (.devSeed transferId id amountCents)) seeded (fun _ _ _ => .inr trivial)
          fun _ _ excused => .inr excused
        exact answered
  | _ => exact Prog.traced_trivial _ _

/-- What an answer has told, and no later step makes untrue. -/
def Told (performed : Performed engine) (db : Database) : Prop :=
  match performed with
  | ⟨.query .pool (.selectAccount text), .ok (some _)⟩ =>
    ∃ account, Uuid.parse text = some account ∧ db.hasAccount account
  | ⟨.query .pool (.sumEntries _), .ok total⟩ => InRange total
  | _ => True

theorem selectAccount_told {text : String} {db : Database} {busy : List (Lock Resource)}
    {effect : Reply (Option AccountRow)}
    (ran : execute (.selectAccount text) db busy = .ok effect) :
    ∃ account, Uuid.parse text = some account ∧ (effect.answer ≠ none ↔ db.hasAccount account) := by
  simp only [execute, selectAccount, Postgres.bind_eq_ok, Postgres.uuid_eq_ok] at ran
  obtain ⟨account, parsed, same⟩ := ran
  obtain rfl := Except.ok.inj same
  refine ⟨account, parsed, ?_⟩
  simp [Database.hasAccount]

variable {bankId : String}

theorem told_learned {s : System (service bankId)} (reachable : Reachable (bearableRun bankId) s)
    {operation : Op engine} {fault : Fault} {txn : Option (Txn engine)}
    {busy : List (Lock Resource)} {out : Outcome engine operation.Reply}
    (performed : performOp operation fault txn s.db busy = some out) :
    Told ⟨operation, out.reply⟩ out.db := by
  have all : AllInRange s.db := Reachable.inRange reachable
  cases operation with
  | query executor statement =>
    cases executor with
    | client => trivial
    | pool =>
      cases statement with
      | selectAccount text =>
        cases answered : out.reply with
        | error error => trivial
        | ok answer =>
          obtain ⟨effect, ran, rfl, same⟩ := performOp_answer performed answered
          obtain ⟨account, parsed, present⟩ := selectAccount_told (exec_eq_ok.mp ran)
          cases row : effect.answer with
          | none => trivial
          | some row =>
            have writes : effect.writes = [] := selectAccount_ok (exec_eq_ok.mp ran)
            rw [same, writes]
            exact ⟨account, parsed, present.mp (by rw [row]; exact Option.some_ne_none _)⟩
      | sumEntries text =>
        cases answered : out.reply with
        | error error => trivial
        | ok total =>
          obtain ⟨effect, ran, rfl, -⟩ := performOp_answer performed answered
          obtain ⟨-, -, account, -, same⟩ := sumEntries_ok (exec_eq_ok.mp ran)
          rw [same]
          exact all account
      | _ => trivial
  | _ => trivial

theorem told_stable {scope : Scope (service bankId)} (fresh : scope.initial = migrated)
    {s s' : System (service bankId)} {action : Action (service bankId)}
    (reachable : Reachable scope s) (permits : scope.Permits s action s')
    (step : s.step action = some s') (performed : Performed engine) (told : Told performed s.db) :
    Told performed s'.db := by
  have sound := reachable.sound (verified fresh)
  have kept : ∀ account, Database.hasAccount s.db account → Database.hasAccount s'.db account := by
    rcases (sound.step (verified fresh) permits step).2 with same |
      ⟨index, thread, locks, -, changes⟩
    · rw [same]
      exact fun _ present => present
    · exact (Commit.frame sound.inv changes.2.2).accounts
  revert told
  unfold Told
  split
  · rintro ⟨account, parsed, present⟩
    exact ⟨account, parsed, kept account present⟩
  · exact id
  · exact id

theorem Recalled.remembers {history : List (Performed engine)} (recalled : Recalled Told history) :
    ¬ Forgotten history := by
  rintro ⟨before, text, row, after, split_, member⟩
  obtain ⟨db, fault, txn, busy, out, told, performed, answered⟩ :=
    recalled before (missed text) after split_
  obtain ⟨account, parsed, present⟩ : ∃ account, Uuid.parse text = some account ∧
    Database.hasAccount db account :=
    told (found text row) member
  obtain ⟨effect, ran, none_, -⟩ := performOp_answer performed answered.symm
  obtain ⟨other, parsed', known⟩ := selectAccount_told (exec_eq_ok.mp ran)
  obtain rfl := Option.some.inj (parsed.symm.trans parsed')
  exact known.mpr present none_

theorem seed_thrown {s : System (service bankId)} (reachable : Reachable (bearableRun bankId) s)
    {thread : Thread (service bankId)} (running : thread ∈ s.threads) {transferId : Uuid}
    {id : String} {amountCents : Double} {error : Failure}
    (seeds : thread.call = Call.devSeed transferId id amountCents)
    (thrown : thread.result = some (.error error)) (alive : error ≠ .database .crashed)
    (whole : ¬ Interrupted thread.history) : commits thread.history = [] := by
  obtain ⟨index, present⟩ := List.mem_iff_getElem?.mp running
  have traced := (reachable.tracing (fun call _ => traced_program bankId call) seedEnd_crashed index
    thread present).1
  obtain ⟨told, recalled⟩ := reachable.recalled (F := Told)
    (fun _ reachable _ _ _ _ _ performed => told_learned reachable performed)
    (fun _ _ _ reachable permits step performed => told_stable rfl reachable permits step performed)
    index thread present
  rw [Thread.result_eq_some.mp thrown, seeds] at traced
  rcases traced with same | excused
  · exact absurd (Except.error.inj same) alive
  · rcases excused with quiet | interrupted | forgotten | ⟨text, total, member, large⟩
    · exact quiet
    · exact absurd interrupted whole
    · exact absurd forgotten (Recalled.remembers recalled)
    · exact absurd (told _ member) large

theorem seed_changes {scope : Scope (service bankId)} {s s' : System (service bankId)}
    (reachable : Reachable scope s) {index : Nat} {fault : Fault} {thread : Thread (service bankId)}
    (present : s.threads[index]? = some thread) {transferId : Uuid} {id : String}
    {amountCents : Double} (seeds : thread.call = Call.devSeed transferId id amountCents)
    (step : s.step (.run index fault) = some s') (differs : s'.db ≠ s.db) :
    ∃ later, s'.threads[index]? = some later ∧ commits later.history ≠ [] := by
  have traced := (reachable.tracing (fun call _ => traced_program bankId call) seedEnd_crashed index
    thread present).1
  have once := reachable.once (fun call _ => single_program bankId call) index thread present
  obtain ⟨mover, operation, next, out, found, shape, performed, rfl⟩ := System.step_run step
  obtain rfl := Option.some.inj (present.symm.trans found)
  have loud := ((once.resume shape performed).2 differs).1
  have single := once.resolve_right loud
  rw [shape] at single traced
  rw [seeds] at traced
  have acts : operation.Acts := by
    by_contra idle
    exact differs (performOp_idle single.1 idle performed).1
  have bound := (List.getElem?_eq_some_iff.mp present).1
  refine ⟨_, List.getElem?_set_self bound, ?_⟩
  cases operation with
  | commit =>
    have last : (⟨.commit, out.reply⟩ : Performed engine) ∈ commits
        (thread.history ++ [⟨.commit, out.reply⟩]) :=
      List.mem_filter.mpr ⟨List.mem_append_right _ (List.mem_singleton_self _), rfl⟩
    exact List.ne_nil_of_mem last
  | query executor statement =>
    cases executor with
    | client => exact acts.elim
    | pool => exact absurd traced.1 acts
  | begin | rollback | emit => exact acts.elim

end Seeds

/-! ## Balances are readable -/

section Readable

variable {db : Database} {text : String} {account : Uuid}

theorem sumEntries_read (db : Database) (parsed : Uuid.parse text = some account) :
    execute (.sumEntries text) db [] = .ok { answer := db.balanceOf account } := by
  simp only [execute, sumEntries, Postgres.bind_eq_ok, Postgres.uuid_eq_ok]
  exact ⟨account, parsed, rfl⟩

/-- `balanceOf` returns, for a reader and for a transaction that has booked no entry yet. -/
structure Readable (db : Database) (text : String) (balance : Money) : Prop where
  pool : ∀ txn, ((LedgerRepository.balanceOf text .pool).evaluate txn db).map Finish.result =
    some (.ok balance)
  client : ∀ now : Txn engine, now.aborted = false →
    Database.ledgerEntries (now.view db) = db.ledgerEntries →
    ((LedgerRepository.balanceOf text .client).evaluate (some now) db).map Finish.result =
    some (.ok balance)

/-- What `balanceOf` makes of a total. -/
def readTotal (total : Int) : Except Failure Money :=
  SafeInteger.exactly (fun value => Failure.domain (.invalidAmount value)) total

theorem readTotal_of_inRange {total : Int} (inRange : InRange total) :
    readTotal total = .ok ⟨total, inRange⟩ :=
  dif_pos inRange

theorem readTotal_of_large {total : Int} (large : ¬ InRange total) :
    readTotal total = .error (.domain (.invalidAmount (.ofInt total))) :=
  dif_neg large

theorem Money.fromCents_exactly (total : Int) :
    Money.fromCents (.ofInt total) = SafeInteger.exactly DomainError.invalidAmount total := by
  apply SafeInteger.exactly_of_ofDouble
  · intro money accepted
    simp only [Money.fromCents, accepted]
  · intro declined
    simp only [Money.fromCents, declined]

theorem fromDomain_total (total : Int) :
    fromDomain (Money.fromCents (.ofInt total)) = .done (readTotal total) := by
  have wrapped : (SafeInteger.exactly DomainError.invalidAmount total).mapError Failure.domain =
      readTotal total :=
    SafeInteger.exactly_mapError Failure.domain
  rw [Money.fromCents_exactly]
  exact congrArg Prog.done wrapped

theorem evaluate_balanceOf_pool (db : Database) (txn : Option (Txn engine))
    (parsed : Uuid.parse text = some account) :
    (LedgerRepository.balanceOf text .pool).evaluate txn db =
      some ⟨readTotal (db.balanceOf account), txn, db⟩ := by
  rw [LedgerRepository.balanceOf, Prog.bind_eq, evaluate_read (sumEntries_read db parsed),
    fromDomain_total]
  rfl

theorem evaluate_balanceOf_client (db : Database) {now : Txn engine} (alive : now.aborted = false)
    (parsed : Uuid.parse text = some account) :
    ∃ after, (LedgerRepository.balanceOf text .client).evaluate (some now) db =
      some ⟨readTotal (Database.balanceOf (now.view db) account), some after, db⟩ := by
  rw [LedgerRepository.balanceOf, Prog.bind_eq,
    evaluate_client alive (sumEntries_read (now.view db) parsed), fromDomain_total]
  exact ⟨_, rfl⟩

theorem readable_of_inRange (parsed : Uuid.parse text = some account)
    (inRange : InRange (db.balanceOf account)) :
    Readable db text ⟨db.balanceOf account, inRange⟩ := by
  constructor
  · intro txn
    rw [evaluate_balanceOf_pool db txn parsed, readTotal_of_inRange inRange]
    rfl
  · intro now alive same
    have total : Database.balanceOf (now.view db) account = db.balanceOf account := by
      simp only [Database.balanceOf, Database.postings, same]
    obtain ⟨after, evaluated⟩ := evaluate_balanceOf_client db alive parsed
    rw [evaluated, total, readTotal_of_inRange inRange]
    rfl

theorem inRange_of_readable {balance : Money} (parsed : Uuid.parse text = some account)
    (readable : Readable db text balance) :
    InRange (db.balanceOf account) := by
  have returned := readable.pool none
  rw [evaluate_balanceOf_pool db none parsed] at returned
  by_contra large
  rw [readTotal_of_large large] at returned
  cases returned

end Readable

section

variable {bankId : String}

/-- While every movement is bearable, every balance is readable, and a seed that throws has
changed nothing, unless its COMMIT or a read after it has failed. -/
theorem balances_readable {s : System (service bankId)}
    (reachable : Reachable (bearableRun bankId) s) :
    (∀ text account, Uuid.parse text = some account →
      ∃ balance, balance.cents = s.db.balanceOf account ∧ Readable s.db text balance) ∧
    (∀ thread ∈ s.threads, ∀ transferId id amountCents error,
      thread.call = Call.devSeed transferId id amountCents →
      thread.result = some (.error error) → error ≠ .database .crashed →
        ¬ Interrupted thread.history →
        commits thread.history = []) ∧
    (∀ index fault s' thread transferId id amountCents, s.threads[index]? = some thread →
      thread.call = Call.devSeed transferId id amountCents → s.step (.run index fault) = some s' →
        s'.db ≠ s.db →
        ∃ later, s'.threads[index]? = some later ∧ commits later.history ≠ []) := by
  refine ⟨?_, ?_, ?_⟩
  · intro text account parsed
    exact ⟨_, rfl, readable_of_inRange parsed (Reachable.inRange reachable account)⟩
  · intro thread running transferId id amountCents error seeds thrown alive whole
    exact seed_thrown reachable running seeds thrown alive whole
  · intro index fault s' thread transferId id amountCents present seeds step differs
    exact seed_changes reachable present seeds step differs

/-- Whether the movement between the two accounts, if both are known, can be borne. -/
def Database.bears (db : Database) (payer payee : Option Uuid) (amountCents : Double) : Bool :=
  match payer, payee, amountCents with
  | some payer, some payee, .finite amount => decide (Bearable db ⟨payer, payee, amount⟩)
  | _, _, _ => true

theorem Database.bears_movement {db : Database} {payer payee : Option Uuid} {amountCents : Double}
    {movement : DoubleEntry.Movement Uuid} (bears : db.bears payer payee amountCents = true)
    (pays : payer = some movement.payer) (gets : payee = some movement.payee)
    (amount : amountCents = .finite movement.amount) : Bearable db movement := by
  subst pays gets amount
  exact of_decide_eq_true bears

/-- What `bearableRun` asks of a call, as a check. -/
def Call.bearable (call : Call) (db : Database) : Bool :=
  match call with
  | .devSeed _ id amountCents => db.bears (some DEV_TREASURY_ACCOUNT_ID) (Uuid.parse id) amountCents
  | .transfer _ _ body =>
    db.bears (Uuid.parse body.payerAccountId) (Uuid.parse body.payeeAccountId) body.amountCents
  | .interbankTransfer _ _ body =>
    db.bears (Uuid.parse body.payerAccountId) (some SUSPENSE_ACCOUNT_ID) body.amountCents
  | call =>
    call.handling.all fun handling => handling.event.settlementId.all fun text =>
      decide (db.hasKey (InterbankReplyService.compensationKey text)) ||
        db.transfers.all fun original => decide (Uuid.parse text = some original.id →
          Bearable db (reversalOf handling.reversalId text original).movement)

theorem Call.bearable_movement {call : Call} {db : Database}
    {movement : DoubleEntry.Movement Uuid} (checked : call.bearable db = true)
    (moves : call.Moves db movement) : Bearable db movement := by
  cases call with
  | devSeed transferId id amountCents =>
    obtain ⟨payer, payee, amount⟩ := moves
    exact Database.bears_movement checked (congrArg some payer.symm) payee amount
  | transfer id key body =>
    obtain ⟨payer, payee, amount⟩ := moves
    exact Database.bears_movement checked payer payee amount
  | interbankTransfer draws key body =>
    obtain ⟨payer, payee, amount⟩ := moves
    exact Database.bears_movement checked payer (congrArg some payee.symm) amount
  | outcome | reconcile | createAccount | relayTick =>
    obtain ⟨handling, text, original, present, handles, ⟨named, target⟩, -, newKey, rfl⟩ := moves
    simp only [Call.bearable, handles, named, Option.all_some, Bool.or_eq_true, decide_eq_true_eq,
      newKey, false_or, List.all_eq_true] at checked
    exact checked original present target

/-- The operation leaves the database alone, or its movement can be borne. -/
def borne (call : Call) (db db' : Database) : Bool := decide (db' = db) || call.bearable db

theorem bearable_of_borne {call : Call} {db db' : Database} (checked : borne call db db' = true)
    (differs : db' ≠ db) : call.bearable db = true := by
  simpa [borne, differs] using checked

/-- Alice has as much as a number holds. She gets a refund back to that sum, and pays. -/
def nearTheBound : List (Action (service "bank-a")) :=
  [.start (Call.createAccount (sampleId 0) "alice")] ++ runs 0 1 ++
  [.start (Call.createAccount (sampleId 1) "bob")] ++ runs 1 1 ++
  [.start (Call.devSeed (sampleId 2) (sampleId 0).text (.finite Double.maxSafeInteger))] ++
  runs 2 7 ++ [.start (debit (sampleId 3) 300)] ++ runs 3 10 ++
  [.start (outcome (sampleId 4) (sampleId 3) "REVERSED")] ++ runs 4 8 ++
  [.start (payment (sampleId 5) 400)] ++ runs 5 9

theorem balances_readable_opening : ∃ s, Reachable (bearableRun "bank-a") s ∧
    (s.db.transfers.map TransferRow.id = [sampleId 2, sampleId 3, sampleId 4, sampleId 5]) ∧
    (∃ balance, balance.cents = (Double.maxSafeInteger : Int) - 400 ∧
      Readable s.db (sampleId 0).text balance) ∧
    ∃ balance, balance.cents = -(Double.maxSafeInteger : Int) ∧
      Readable s.db DEV_TREASURY_ACCOUNT_ID.text balance := by
  have evaluated : (System.runWithin borne { db := (bearableRun "bank-a").initial }
      nearTheBound).map (fun s => (s.db.transfers.map TransferRow.id,
        s.db.balanceOf (sampleId 0), s.db.balanceOf DEV_TREASURY_ACCOUNT_ID)) =
      some ([sampleId 2, sampleId 3, sampleId 4, sampleId 5],
        (Double.maxSafeInteger - 400 : Int), -(Double.maxSafeInteger : Int)) := by
    decide +kernel
  obtain ⟨s, reachable, observed, -⟩ := @Reachable.of_evaluation _ (bearableRun "bank-a") _ _ _ _ _
    evaluated (fun _ _ => trivial) fun call db ⟨db', checked, differs⟩ _ moves =>
      Call.bearable_movement (bearable_of_borne checked differs) moves
  obtain ⟨ids, balances⟩ := Prod.mk.inj observed
  obtain ⟨alice, treasury⟩ := Prod.mk.inj balances
  have readable := (balances_readable reachable).1
  refine ⟨s, reachable, ids, ?_, ?_⟩
  · obtain ⟨money, cents, reads⟩ := readable _ _ (Uuid.parse_text (sampleId 0))
    exact ⟨money, cents.trans alice, reads⟩
  · obtain ⟨money, cents, reads⟩ := readable _ _ (Uuid.parse_text DEV_TREASURY_ACCOUNT_ID)
    exact ⟨money, cents.trans treasury, reads⟩

def seedingTwice : List (Action (service "bank-a")) :=
  [.start (Call.createAccount (sampleId 0) "alice")] ++ runs 0 1 ++
  [.start (Call.devSeed (sampleId 2) (sampleId 0).text (.finite Double.maxSafeInteger))] ++
    runs 1 7 ++
  [.start (Call.devSeed (sampleId 3) (sampleId 0).text (.finite Double.maxSafeInteger))] ++ runs 2 7

def overflowed (thread : Thread (service "bank-a")) : Bool :=
  match thread.prog with
  | .done (.error (.domain (.invalidAmount _))) => true
  | _ => false

theorem overflowed_throws {thread : Thread (service "bank-a")} (past : overflowed thread = true) :
    ∃ value, thread.result = some (.error (Failure.domain (.invalidAmount value))) := by
  unfold overflowed at past
  split at past
  · rename_i value same
    exact ⟨value, Thread.result_eq_some.mpr same⟩
  · cases past

def seedOutcome (s : System (service "bank-a")) : List Uuid × Int × List (Uuid × Int) × List Bool :=
  (s.db.accounts.map AccountRow.id, s.db.balanceOf (sampleId 0),
    s.db.transfers.map (fun row => (row.id, row.amount)),
    s.threads.map overflowed)

/-- The second seed has committed when it throws, and the account can no longer be read. -/
theorem balances_readable_fails : ∃ s, Reachable (anyRun "bank-a") s ∧
    s.db.hasAccount (sampleId 0) ∧
    (¬ ∃ balance, Readable s.db (sampleId 0).text balance) ∧
    ∃ thread ∈ s.threads,
    (∃ value, thread.result = some (.error (Failure.domain (.invalidAmount value)))) ∧
      ∃ row ∈ s.db.transfers,
      thread.call = Call.devSeed row.id (sampleId 0).text (.finite row.amount) := by
  have evaluated : (System.run { db := (anyRun "bank-a").initial } seedingTwice).map seedOutcome =
      some ([SUSPENSE_ACCOUNT_ID, DEV_TREASURY_ACCOUNT_ID, sampleId 0],
        (2 * Double.maxSafeInteger : Int),
        [(sampleId 2, (Double.maxSafeInteger : Int)), (sampleId 3, (Double.maxSafeInteger : Int))],
        [false, false, true]) := by
    decide +kernel
  obtain ⟨s, reachable, observed, started⟩ :=
    @Reachable.of_evaluation _ (anyRun "bank-a") _ _ _ _ _ evaluated
    (fun _ _ => trivial) fun _ _ _ => trivial
  obtain ⟨accounts, observed⟩ := Prod.mk.inj observed
  obtain ⟨balance, observed⟩ := Prod.mk.inj observed
  obtain ⟨transfers, results⟩ := Prod.mk.inj observed
  refine ⟨s, reachable, ?_, ?_, ?_⟩
  · have listed : sampleId 0 ∈ s.db.accounts.map AccountRow.id := by
      rw [accounts]
      decide
    exact listed
  · rintro ⟨money, readable⟩
    have inRange := inRange_of_readable (Uuid.parse_text _) readable
    rw [balance] at inRange
    exact absurd inRange (by decide)
  · have third (α : Type) (f : Thread (service "bank-a") → α) (values : List α)
        (same : s.threads.map f = values) :
        s.threads[2]?.map f = values[2]? := by
      rw [← same, List.getElem?_map]
    obtain ⟨thread, present, past⟩ := Option.map_eq_some_iff.mp (third _ _ _ results)
    obtain ⟨other, found, seeds⟩ := Option.map_eq_some_iff.mp (third _ _ _ started)
    obtain rfl := Option.some.inj (present.symm.trans found)
    have booked : (sampleId 3, (Double.maxSafeInteger : Int)) ∈ s.db.transfers.map fun row =>
        (row.id, row.amount) := by
      rw [transfers]
      decide
    obtain ⟨row, member, same⟩ := List.mem_map.mp booked
    obtain ⟨id, amount⟩ := Prod.mk.inj same
    refine ⟨thread, List.mem_of_getElem? present, overflowed_throws past, row, member, ?_⟩
    rw [id, amount]
    exact seeds

end

end BankA
