import PaymentLedger.BankA.InterbankTransfers
import PaymentLedger.BankA.Replies

set_option autoImplicit false

-- The accounts endpoints and the outbox relay, and then every call together.

namespace BankA

open Transactional Contract

section

variable {bankId : String} {scope : Scope (service bankId)} {db : Database}

theorem keep_unmet (error : Failure) (history : List (Performed engine))
    (unmet : Unmet error history) :
    Refusal error history := unmet.refusal

theorem ok_answer {call : Call} {response : Response} {history : List (Performed engine)}
    (silent : call.request = none) (idle : call.handling = none) (unmet : meets history = []) :
    Session scope call (fun response history _ db => Success call response history db) Refusal
      (.done (.ok response)) history none db := by
  refine ok_done stable_true trivial fun db _ _ => success_of_settled silent unmet ?_
  intro handling handles
  rw [idle] at handles
  cases handles

theorem ok_createAccount {id : Uuid} {ownerName : String} :
    Session scope (.createAccount id ownerName)
      (fun response history _ db => Success (.createAccount id ownerName) response history db)
      Refusal (program bankId (.createAccount id ownerName)) [] none db := by
  simp only [program, AccountsController.create, AccountRepository.create, Prog.bind_eq,
    Prog.bind_assoc]
  refine ok_validate keep_unmet rfl ?_
  intro valid
  have failed (cause : PgError) (db : Database) : Session scope (.createAccount id ownerName)
      (fun response history _ db => Success (.createAccount id ownerName) response history db)
      Refusal (.done (.error (.database cause)))
      ([] ++ [⟨.query .pool (.insertAccount id ownerName), .error (.database cause)⟩]) none db :=
    ok_refuse (Unmet.refusal ⟨meets_append rfl, by simp⟩)
  refine ok_pool stable_true trivial ?_ ?_
  · intro error db _ _ raises
    obtain ⟨cause, rfl⟩ := raises_database raises
    exact failed cause db
  · rintro db busy ⟨answer, written, locks⟩ _ _ ran _
    obtain ⟨new, rfl⟩ := insertAccount_ok (exec_eq_ok.mp ran)
    exact ⟨.inr (.opened id ownerName new), ok_answer rfl rfl (meets_append rfl), failed _ _⟩

theorem ok_getAccount {call : Call} {id : String} {β : Type} {f : AccountRow → Program β}
    {success : β → List (Performed engine) → Option (Txn engine) → Database → Prop}
    {history : List (Performed engine)} (unmet : meets history = [])
    (done : ∀ db history' account, meets history' = [] →
      Session scope call success Refusal (f account) history' none db) :
    Session scope call success Refusal ((AccountsService.getAccount id).bind f) history
      none db := by
  have failed (cause : PgError) : Refusal (.database cause)
      (history ++ [⟨.query .pool (.selectAccount id), .error (.database cause)⟩]) :=
    Unmet.refusal ⟨(meets_append rfl).trans unmet, by simp⟩
  simp only [AccountsService.getAccount, AccountRepository.findById, Prog.bind_eq, Prog.bind_assoc]
  refine ok_poolRead failed (fun _ _ _ ran => selectAccount_ok ran) stable_true trivial ?_
  rintro db busy ⟨answer, written, more⟩ _ _ ran
  cases answer with
  | none => exact ok_refuse (Unmet.refusal ⟨(meets_append rfl).trans unmet, by simp⟩)
  | some account => exact done db _ account ((meets_append rfl).trans unmet)

theorem seed_row {transferId : Uuid} {accountId : String} {amount : Money} {row : TransferRow}
    (denotes : NewTransfer.Denotes ⟨transferId.text, AccountsService.seedKey transferId.text,
      DEV_TREASURY_ACCOUNT_ID.text, accountId, amount⟩ row) :
    row.id = transferId ∧ row.idempotencyKey = AccountsService.seedKey row.id.text ∧
      row.payerAccountId = DEV_TREASURY_ACCOUNT_ID := by
  have id := denotes.id
  have payer := denotes.payer
  have key := denotes.key
  simp only [Uuid.parse_text, Option.some.injEq] at id payer key
  exact ⟨id.symm, by rw [← id, ← key], payer.symm⟩

theorem ok_devSeed {transferId : Uuid} {id : String} {amountCents : Double} :
    Session scope (.devSeed transferId id amountCents)
      (fun response history _ db =>
        Success (.devSeed transferId id amountCents) response history db) Refusal
      (program bankId (.devSeed transferId id amountCents)) [] none db := by
  simp only [program, AccountsController.devSeed, AccountsService.devSeed,
    AccountsService.getBalance, Prog.bind_eq, Prog.bind_assoc]
  refine ok_validate keep_unmet rfl ?_
  intro valid
  refine ok_fromDomain keep_unmet rfl ?_
  intro amount read
  have cents := Money.fromCents_finite read
  refine ok_getAccount rfl ?_
  intro db history account unmet
  refine ok_rollbackOnError (fun _ history txn _ => txn = none ∧ meets history = [])
    keep_unmet ?_ ?_
  · refine ok_begin_ (fun _ _ same => same) unmet stable_true trivial ?_
    intro db history _ _ unmet _
    refine ok_clientQuery (fun _ _ same => same) unmet stable_true trivial ?_
    rintro db busy ⟨answer, written, locks⟩ history _ _ unmet _ ran
    obtain ⟨row, denotes, bookable, rfl, rfl⟩ := insertSeedTransfer_ok ran
    obtain ⟨rfl, sameKey, payer⟩ := seed_row denotes
    refine ok_clientQuery (fun _ _ same => same) unmet
      (stable_bookable (List.Subset.refl _) bookable.keyLock bookable.idLock) bookable ?_
    rintro db busy ⟨answer, written, more⟩ history _ bookable unmet _ ran
    obtain ⟨debit, credit, denotesDebit, denotesCredit, rfl⟩ := insertSeedEntries_ok ran
    have entries : row.entries = [debit, credit] := by
      have total : -row.amount = amount.negated.cents := by simp [denotes.amount]
      have first : debit = ⟨row.id, row.payerAccountId, -row.amount⟩ :=
        denotesDebit.unique ⟨denotes.id, denotes.payer, total⟩
      have second : credit = ⟨row.id, row.payeeAccountId, row.amount⟩ :=
        denotesCredit.unique ⟨denotes.id, denotes.payee, denotes.amount⟩
      rw [first, second, TransferRow.entries]
    have view (db : Database) : ([] ++ [Write.transfer row] ++
        [Write.ledgerEntry debit, Write.ledgerEntry credit]).foldl Database.apply db =
        db.book row := by
      have written := book_writes row db
      rw [entries] at written
      exact written
    have included : row.locks ⊆ [] ++ row.locks ++ more := by simp
    rw [← Prog.bind_pure (perform .commit)]
    refine ok_commit_ (fun _ _ same => same) unmet
      (stable_bookable included bookable.keyLock bookable.idLock) bookable ?_ ?_
    · intro db _ bookable
      have commit := @Commit.seeded bankId _ db row id amountCents (bookable.mono included)
        payer sameKey denotes.payee (by rw [cents, denotes.amount])
      rw [← view db] at commit
      exact .inr commit
    · intro db history _ _ unmet
      exact ok_done stable_true trivial fun _ _ _ => ⟨rfl, unmet⟩
  · rintro _ history txn db _ ⟨rfl, unmet⟩
    refine ok_getAccount unmet ?_
    intro db history account unmet
    have failed (cause : PgError) : Refusal (.database cause)
        (history ++ [⟨.query .pool (.sumEntries id), .error (.database cause)⟩]) :=
      Unmet.refusal ⟨(meets_append rfl).trans unmet, by simp⟩
    simp only [LedgerRepository.balanceOf, Prog.bind_eq, Prog.bind_assoc]
    refine ok_poolRead failed (fun _ _ _ ran => (sumEntries_ok ran).1) stable_true trivial ?_
    rintro db busy ⟨answer, written, more⟩ _ _ ran
    refine ok_fromDomain keep_unmet ((meets_append rfl).trans unmet) ?_
    intro balance _
    exact ok_answer rfl rfl ((meets_append rfl).trans unmet)

def Publishes (writes : List Write) : Prop :=
  ∀ db : Database, ∃ rows, writes.foldl Database.apply db = { db with outboxEvents := rows } ∧
    Outbox.SameEvents db.outboxEvents rows

theorem Publishes.nil : Publishes [] := fun db => ⟨db.outboxEvents, rfl, .refl _⟩

theorem Publishes.append {writes : List Write} (publishes : Publishes writes) (id : Nat) :
    Publishes (writes ++ [.published id]) := by
  intro db
  obtain ⟨rows, same, events⟩ := publishes db
  refine ⟨Outbox.mark rows id, ?_, events.trans (Outbox.mark_sameEvents rows id)⟩
  rw [List.foldl_append, same]
  rfl

def Announced (events : List Outbox.Row) (db : Database) : Prop :=
  ∀ row ∈ events, ∃ later ∈ db.outboxEvents, later.message = row.message

theorem stable_announced {mine : List (Lock Resource)} (events : List Outbox.Row) :
    (contract scope).Stable mine (Announced events) := by
  intro db db' interferes known row member
  exact stable_message row db db' interferes (known row member)

theorem ok_publishAll {call : Call} {events rest : List Outbox.Row} {f : Unit → Program Nat}
    {success : Nat → List (Performed engine) → Option (Txn engine) → Database → Prop}
    {history : List (Performed engine)} {writes : List Write} {locks : List (Lock Resource)}
    (unmet : meets history = []) (publishes : Publishes writes) (announced : Announced events db)
    (included : ∀ row ∈ rest, row ∈ events)
    (done : ∀ db history' writes' locks', meets history' = [] → Publishes writes' →
      Session scope call success Unmet (f ()) history' (some (live writes' locks')) db) :
    Session scope call success Unmet
      ((Prog.forEach rest fun event => (OutboxRelayService.publish event.message).bind fun _ =>
        sql .client (.markPublished event.id)).bind f) history (some (live writes locks)) db := by
  induction rest generalizing history writes locks db with
  | nil => exact done db history writes locks unmet publishes
  | cons row rest ih =>
    simp only [Prog.forEach, Prog.bind_assoc, OutboxRelayService.publish, Outbox.publish]
    by_cases publishable : Outbox.publishable row.message = true
    · simp only [publishable, if_true]
      refine ok_emit (stable_announced events) announced ?_ ?_ ?_
      · intro db _ announced
        exact announced row (included row (by simp))
      · intro db _ _
        exact ok_refuse ⟨(meets_append rfl).trans unmet, fun _ => by simp [service, engine]⟩
      · intro db _ announced
        refine ok_clientQuery (fun _ _ same => same) ((meets_append rfl).trans unmet)
          (stable_announced events) announced ?_
        rintro db busy ⟨answer, written, more⟩ history' _ announced unmet' _ ran
        have still : Publishes (writes ++ written) := by
          rcases markPublished_ok ran with rfl | rfl
          · simpa using publishes
          · exact publishes.append row.id
        exact ih unmet' still announced fun other member => included other (by simp [member])
    · simp only [publishable, if_false, Bool.false_eq_true]
      exact ok_refuse ⟨unmet, by simp⟩

theorem ok_relayTick :
    Session scope .relayTick (fun response history _ db => Success .relayTick response history db)
      Refusal (program bankId .relayTick) [] none db := by
  have body : Session scope .relayTick
      (fun _ history txn _ => txn = none ∧ meets history = []) Unmet
      ((perform .begin).bind fun _ =>
        (sql .client (.claimUnpublished Outbox.BATCH_SIZE)).bind fun events =>
        (Prog.forEach events fun event => (OutboxRelayService.publish event.message).bind fun _ =>
          sql .client (.markPublished event.id)).bind fun _ =>
        (perform .commit).bind fun _ => pure events.length) [] none db := by
    refine ok_begin_ (fun _ _ same => same) rfl stable_true trivial ?_
    intro db history _ _ unmet _
    refine ok_clientQuery (fun _ _ same => same) unmet stable_true trivial ?_
    rintro db busy ⟨events, written, locks⟩ history _ _ unmet _ ran
    obtain ⟨rfl, rfl⟩ :
        events = Outbox.claim db.outboxEvents Outbox.BATCH_SIZE (lockedEvents busy) ∧
        written = [] := by
      have same := Except.ok.inj ran
      exact ⟨(congrArg Effect.answer same).symm, (congrArg Effect.writes same).symm⟩
    have announced : Announced
        (Outbox.claim db.outboxEvents Outbox.BATCH_SIZE (lockedEvents busy)) db :=
      fun row member => ⟨row, (Outbox.mem_claim member).1, rfl⟩
    refine ok_publishAll unmet .nil announced (fun _ member => member) ?_
    intro db history writes locks unmet publishes
    refine ok_commit_ (fun _ _ same => same) unmet stable_true trivial ?_ ?_
    · intro db _ _
      obtain ⟨rows, view, same⟩ := publishes db
      rw [view]
      exact .inr (.published rows same)
    · intro db history _ _ unmet
      exact ok_done stable_true trivial fun _ _ _ => ⟨rfl, unmet⟩
  simp only [program, Prog.bind_eq]
  refine ok_rollbackOnError (fun _ history txn _ => txn = none ∧ meets history = [])
    keep_unmet body ?_
  rintro published history txn db _ ⟨rfl, unmet⟩
  exact ok_answer rfl rfl unmet

end

section

variable {bankId : String} {scope : Scope (service bankId)}

/-- Bank A meets its contract from the migrated database on, whatever is started. -/
theorem verified (fresh : scope.initial = migrated) : (contract scope).Verified where
  initial := by
    rw [fresh]
    exact wellFormed_migrated
  inv call locks db db' wellFormed changes := Commit.wellFormed wellFormed changes.2.2
  sends message call locks db db' wellFormed changes sent := by
    obtain ⟨row, present, same⟩ := sent
    obtain ⟨later, found, again⟩ := (Commit.frame wellFormed changes.2.2).messages row present
    exact ⟨later, found, again.trans same⟩
  crashed call history db _ := ⟨fun _ => by simp [service, engine], fun _ alive => absurd rfl alive⟩
  program call db _ _ := by
    refine ok_mono (Q := Promise (fun response history _ db => Success call response history db)
      Refusal) ?_ ?_
    · rintro (error | response) history txn db promised <;> exact promised
    cases call with
    | createAccount id ownerName => exact ok_createAccount
    | devSeed transferId id amountCents => exact ok_devSeed
    | transfer id idempotencyKey body => exact ok_transfer
    | interbankTransfer draws idempotencyKey body => exact ok_interbankTransfer
    | outcome reversalId now event => exact ok_outcome
    | reconcile reversalId now transferId response => exact ok_reconcile
    | relayTick => exact ok_relayTick

end

end BankA
