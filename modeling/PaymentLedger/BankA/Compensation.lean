import PaymentLedger.BankA.Saga

set_option autoImplicit false

namespace BankA

open Transactional InterbankReplyService

def anyKeyRun (bankId : String) : Scope (service bankId) where
  initial := migrated
  starts call := Call.Canonical call

def freeKeyRun (bankId : String) : Scope (service bankId) :=
  { anyKeyRun bankId with
    admits := fun call db => ∀ transferId reversalId settlementId,
      Call.Refuses call transferId reversalId settlementId → db.status transferId = some .debited →
      ∀ row ∈ db.transfers, row.idempotencyKey = compensationKey settlementId →
        row.payerAccountId = SUSPENSE_ACCOUNT_ID }

def PaidBack (db : Database) : Prop :=
  ∀ interbank ∈ db.interbankTransfers, interbank.status = .compensated →
    ∃ original ∈ db.transfers, original.id = interbank.transferId ∧ ∃ reversal ∈ db.transfers,
      db.transfers.filter (fun row => row.payerAccountId = SUSPENSE_ACCOUNT_ID ∧
        row.idempotencyKey = compensationKey original.id.text) = [reversal] ∧
      Reverses reversal original db

instance PaidBack.decidable (db : Database) : Decidable (PaidBack db) := by
  unfold PaidBack
  infer_instance

def KeyPaid (db : Database) : Prop :=
  ∀ transferId, db.status transferId = some .compensated → ∃ row ∈ db.transfers,
    row.idempotencyKey = compensationKey transferId.text ∧ row.payerAccountId = SUSPENSE_ACCOUNT_ID

theorem filter_key {db : Database} (wellFormed : WellFormed db) {row : TransferRow}
    (present : row ∈ db.transfers) (P : TransferRow → Bool) (holds : P row = true)
    (key : ∀ other, P other = true → other.idempotencyKey = row.idempotencyKey) :
    db.transfers.filter P = [row] := by
  have nodup : db.transfers.Nodup := wellFormed.keys.of_map _
  have only : ∀ other, other ∈ db.transfers.filter P ↔ other ∈ [row] := by
    intro other
    rw [List.mem_filter, List.mem_singleton]
    constructor
    · intro both
      exact transfer_of_key wellFormed both.1 present (key other both.2)
    · rintro rfl
      exact ⟨present, holds⟩
  exact List.perm_singleton.mp
    ((List.perm_ext_iff_of_nodup (nodup.filter P) (List.nodup_singleton row)).mpr only)

section

variable {bankId : String}

theorem Commit.keyPaid {call : Call} {locks : List (Lock Resource)} {db db' : Database}
    (wellFormed : WellFormed db)
    (changes : (contract (freeKeyRun bankId)).Changes call locks db db')
    (paid : KeyPaid db) : KeyPaid db' := by
  obtain ⟨canonical, free, commit⟩ := changes
  have frame := Commit.frame wellFormed commit
  intro transferId found
  rcases Commit.turn wellFormed commit found with old | turn
  · obtain ⟨row, present, facts⟩ := paid transferId old
    exact ⟨row, frame.transfers row present, facts⟩
  · cases turn with
    | compensated reversalId settlementId refuses before taken =>
      obtain ⟨row, present, key⟩ := List.mem_map.mp taken
      refine ⟨row, present, refuses.canonical canonical ▸ key, ?_⟩
      rcases Commit.origin commit present with old | ⟨-, origin⟩
      · exact free transferId reversalId settlementId refuses before row old key
      · cases origin with
        | seed payer seeded => exact absurd (key.symm.trans seeded) (compensationKey_ne_seedKey _ _)
        | client request asked payer same =>
          obtain ⟨handling, handles, -⟩ := refuses
          rw [Call.request_of_handling handles] at asked
          cases asked
        | refund otherId text original refuses' origin known row_eq turned =>
          rw [row_eq]
          rfl

theorem Reachable.keyPaid {s : System (service bankId)}
    (reachable : Reachable (freeKeyRun bankId) s) :
    KeyPaid s.db := by
  refine reachable.invariant (verified rfl) KeyPaid ?_ ?_
  · intro transferId found
    cases found
  · intro call locks db db' wellFormed changes paid
    exact Commit.keyPaid wellFormed changes paid

/-- As long as no client has taken the key, COMPENSATED means that the payer was paid. -/
theorem compensated_paid {s : System (service bankId)}
    (reachable : Reachable (freeKeyRun bankId) s) :
    PaidBack s.db := by
  have wellFormed : WellFormed s.db := Reachable.wellFormed rfl reachable
  have refunds := Reachable.refunds rfl reachable fun _ starts => starts
  intro interbank member compensated
  have current := wellFormed.status_of_mem member
  obtain ⟨original, present, same, -⟩ := wellFormed.interbank interbank member
  rw [← same, compensated] at current
  obtain ⟨reversal, booked, key, payer⟩ := Reachable.keyPaid reachable original.id current
  refine ⟨original, present, same, reversal, booked, ?_,
    refunds.reverses wellFormed booked payer present key⟩
  refine filter_key wellFormed booked _ (by simp [payer, key]) ?_
  intro other holds
  simp only [decide_eq_true_eq] at holds
  rw [holds.2, key]

end

/-- A client takes the key of the reversal before the transfer is refused. -/
def squatting : List (Action (service "bank-a")) :=
  opening "bank-a" ++ [.start (debit (sampleId 3) 400)] ++ runs 3 10 ++
  [.start (Call.transfer (sampleId 4) (some (compensationKey (sampleId 3).text))
    ⟨(sampleId 0).text, (sampleId 1).text, .finite 1⟩)] ++ runs 4 9 ++
  [.start (outcome (sampleId 5) (sampleId 3) "REVERSED")] ++ runs 5 6

def handlers (s : System (service "bank-a")) : Nat :=
  s.threads.countP fun thread => (Call.handling thread.call).isSome

/-- One outcome only is ever handled, and the payer is not paid. -/
theorem compensated_paid_fails : ∃ s, Reachable (anyKeyRun "bank-a") s ∧ handlers s = 1 ∧
    s.db.status (sampleId 3) = some .compensated ∧ ¬ PaidBack s.db := by
  have evaluated : (System.run { db := (anyKeyRun "bank-a").initial } squatting).map (fun s =>
      (handlers s, Database.status s.db (sampleId 3), (PaidBack.decidable s.db).decide)) =
        some (1, some .compensated, false) := by
    decide +kernel
  have canonical (call : Call) (listed : call ∈ [Call.createAccount (sampleId 0) "alice",
      .createAccount (sampleId 1) "bob", .devSeed (sampleId 2) (sampleId 0).text (.finite 500),
      debit (sampleId 3) 400, .transfer (sampleId 4) (some (compensationKey (sampleId 3).text))
        ⟨(sampleId 0).text, (sampleId 1).text, .finite 1⟩,
      outcome (sampleId 5) (sampleId 3) "REVERSED"]) : (anyKeyRun "bank-a").starts call := by
    simp only [List.mem_cons, List.not_mem_nil, or_false] at listed
    rcases listed with rfl | rfl | rfl | rfl | rfl | rfl
    case inr.inr.inr.inr.inr => exact outcome_canonical _ _ _
    all_goals exact fun _ _ _ handles => (by cases handles)
  obtain ⟨s, reachable, observed, -⟩ :=
    Reachable.of_evaluation evaluated (fun call member => canonical call member) fun _ _ _ =>
      trivial
  simp only [Prod.mk.injEq, decide_eq_false_iff_not] at observed
  exact ⟨s, reachable, observed⟩

theorem compensated_paid_crossing : ∃ s, Reachable (freeKeyRun "bank-a") s ∧
    s.db.status (sampleId 3) = some .compensated ∧ PaidBack s.db := by
  obtain ⟨s, reachable, observed, -⟩ := @Reachable.of_evaluation _ (freeKeyRun "bank-a") _ _ _ _ _
    refusals_evaluated (fun call member => (crossing_starts "REVERSED" call member).1)
    fun _ _ ⟨_, checked, _⟩ _ _ settlementId _ _ row present key =>
      keysReserved_of_undisturbed checked row present (key ▸ reserved_compensationKey settlementId)
  exact ⟨s, reachable, congrArg Prod.fst observed, compensated_paid reachable⟩

/-- What the reversals of a transfer have moved. -/
def Database.reversalPostings (db : Database) (transferId : Uuid) :
    List (DoubleEntry.Posting Uuid) :=
  (db.transfers.filter fun row => row.idempotencyKey = compensationKey transferId.text).flatMap
    fun row =>
    (db.ledgerEntries.filter fun entry => entry.transferId = row.id).map fun entry =>
      ⟨entry.accountId, entry.amount⟩

def Database.Refunded (db : Database) (original : TransferRow) (amount : Int) : Prop :=
  DoubleEntry.balance (db.reversalPostings original.id) original.payerAccountId = amount ∧
    DoubleEntry.balance (db.reversalPostings original.id) SUSPENSE_ACCOUNT_ID = -amount

theorem refunded_none {db : Database} {original : TransferRow}
    (free : ¬ db.hasKey (compensationKey original.id.text)) : db.Refunded original 0 := by
  have none_ : db.transfers.filter
      (fun row => row.idempotencyKey = compensationKey original.id.text) = [] := by
    rw [List.filter_eq_nil_iff]
    intro row present same
    simp only [decide_eq_true_eq] at same
    exact free (List.mem_map.mpr ⟨row, present, same⟩)
  simp [Database.Refunded, Database.reversalPostings, none_]

theorem Reverses.refunded {db : Database} (wellFormed : WellFormed db)
    {reversal original : TransferRow} (reverses : Reverses reversal original db)
    (customer : Customer original.payerAccountId) :
    db.Refunded original original.amount := by
  obtain ⟨present, key, payer, payee, amount, entries⟩ := reverses
  have one : db.transfers.filter
      (fun row => row.idempotencyKey = compensationKey original.id.text) =
      [reversal] := by
    refine filter_key wellFormed present _ (by simp [key]) ?_
    intro other holds
    simp only [decide_eq_true_eq] at holds
    rw [holds, key]
  have movement : db.reversalPostings original.id =
      DoubleEntry.Movement.postings
      ⟨SUSPENSE_ACCOUNT_ID, original.payerAccountId, original.amount⟩ := by
    simp [Database.reversalPostings, one, entries, DoubleEntry.Movement.postings]
  have apart : original.payerAccountId ≠ SUSPENSE_ACCOUNT_ID := customer.1
  rw [Database.Refunded, movement, DoubleEntry.balance_movement, DoubleEntry.balance_movement]
  simp [apart, apart.symm]

def Call.Handles (call : Call) (transferId : Uuid) : Prop :=
  ∃ handling settlementId, call.handling = some handling ∧ handling.Targets settlementId transferId

def Call.Confirms (call : Call) (transferId : Uuid) : Prop :=
  ∃ handling settlementId, call.handling = some handling ∧
    handling.Targets settlementId transferId ∧
    handling.confirms

section

variable {bankId : String} {scope : Scope (service bankId)} {s : System (service bankId)}

theorem Reachable.turned (fresh : scope.initial = migrated) (reachable : Reachable scope s)
    (transferId : Uuid) {status : InterbankTransferStatus}
    (found : s.db.status transferId = some status) (final : status ≠ .debited) :
    ∃ call before after, s.Started call ∧ Turn call transferId before after status := by
  refine reachable.attributed (verified fresh) (fun started (db : Database) => ∀ transferId status,
    db.status transferId = some status → status ≠ .debited →
      ∃ call before after, started call ∧ Turn call transferId before after status)
    ?_ ?_ ?_ transferId status found final
  · rw [fresh]
    intro started transferId status found
    cases found
  · intro started further db includes known transferId status found final
    obtain ⟨call, before, after, run, turn⟩ := known transferId status found final
    exact ⟨call, before, after, includes call run, turn⟩
  · intro started call locks db db' wellFormed now changes known transferId status found final
    rcases Commit.turn wellFormed changes.2.2 found with old | turn
    · exact known transferId status old final
    · exact ⟨call, db, db', now, turn⟩

theorem Reachable.confirmed (fresh : scope.initial = migrated) (reachable : Reachable scope s)
    (transferId : Uuid) (found : s.db.status transferId = some .confirmed) :
    ∃ call, s.Started call ∧ Call.Confirms call transferId := by
  obtain ⟨call, before, after, started, turn⟩ :=
    Reachable.turned fresh reachable transferId found (by simp)
  cases turn with
  | confirmed handling settlementId handles targets confirms _ =>
    exact ⟨call, started, handling, settlementId, handles, targets, confirms⟩

theorem Reachable.refused (fresh : scope.initial = migrated) (reachable : Reachable scope s)
    (transferId : Uuid) (found : s.db.status transferId = some .compensated) :
    ∃ call reversalId settlementId, s.Started call ∧
      Call.Refuses call transferId reversalId settlementId := by
  obtain ⟨call, before, after, started, turn⟩ :=
    Reachable.turned fresh reachable transferId found (by simp)
  cases turn with
  | compensated reversalId settlementId refuses _ _ =>
    exact ⟨call, reversalId, settlementId, started, refuses⟩

end

section

variable {bankId : String}

/-- The payer gets nothing or the whole amount; and the whole amount if the transfer is only
ever refused and one call that handled it has returned. -/
theorem compensated_once {s : System (service bankId)} (reachable : Reachable (sagaRun bankId) s) :
    ∀ interbank ∈ s.db.interbankTransfers, ∃ original ∈ s.db.transfers,
      original.id = interbank.transferId ∧
      (s.db.Refunded original 0 ∨ s.db.Refunded original original.amount) ∧
      ((∀ thread ∈ s.threads, ¬ Call.Confirms thread.call original.id) →
        ∀ thread ∈ s.threads, Call.Handles thread.call original.id →
          ∀ response, thread.result = some (.ok response) →
            interbank.status = .compensated ∧ s.db.Refunded original original.amount) := by
  have sound := reachable.sound (verified rfl)
  have wellFormed : WellFormed s.db := sound.inv
  have refunds := Reachable.refunds rfl reachable fun _ starts => starts.1
  have reserved := Reachable.keysReserved rfl reachable fun _ starts => starts.2
  have taken := Reachable.keyTaken rfl reachable fun _ starts => starts.1
  intro interbank member
  have current := wellFormed.status_of_mem member
  obtain ⟨original, present, same, customer, -⟩ := wellFormed.interbank interbank member
  rw [← same] at current
  have whole (key : s.db.hasKey (compensationKey original.id.text)) :
      s.db.Refunded original original.amount := by
    obtain ⟨reversal, booked, sameKey⟩ := List.mem_map.mp key
    have payer := reserved reversal booked (sameKey ▸ reserved_compensationKey _)
    exact (refunds.reverses wellFormed booked payer present sameKey).refunded wellFormed customer
  refine ⟨original, present, same, ?_, ?_⟩
  · by_cases key : s.db.hasKey (compensationKey original.id.text)
    · exact .inr (whole key)
    · exact .inl (refunded_none key)
  · intro refused thread running handles response finished
    have success : Success thread.call response thread.history s.db :=
      Sound.post sound running finished
    obtain ⟨handling, settlementId, passes, targets⟩ := handles
    obtain ⟨text, transferId, status, targets', found, final⟩ := success.settled handling passes
    obtain rfl := Option.some.inj (targets.1.symm.trans targets'.1)
    obtain rfl := Option.some.inj (targets.2.symm.trans targets'.2)
    obtain rfl := Option.some.inj (current.symm.trans found)
    cases shape : interbank.status with
    | debited => exact absurd shape final
    | compensated => exact ⟨rfl, whole (taken original.id (by rw [current, shape]))⟩
    | confirmed =>
      obtain ⟨call, ⟨index, other, there, rfl⟩, confirms⟩ :=
        Reachable.confirmed rfl reachable original.id (by rw [current, shape])
      exact absurd confirms (refused other (List.mem_of_getElem? there))

theorem crossing_refuses (call : Call) (listed : call ∈ crossingCalls "REVERSED") (target : Uuid) :
    ¬ Call.Confirms call target := by
  simp only [crossingCalls, List.mem_cons, List.not_mem_nil, or_false] at listed
  rcases listed with rfl | rfl | rfl | rfl | rfl | rfl <;>
    rintro ⟨handling, settlementId, handles, -, confirms⟩
  case inr.inr.inr.inr.inl | inr.inr.inr.inr.inr =>
    obtain rfl := Option.some.inj handles
    simp [Handling.confirms] at confirms
  all_goals cases handles

theorem compensated_once_crossing : ∃ s, Reachable (sagaRun "bank-a") s ∧
    ∃ original ∈ s.db.transfers, original.id = sampleId 3 ∧
      s.db.Refunded original original.amount := by
  obtain ⟨s, reachable, observed, started⟩ :=
    @Reachable.of_evaluation _ (sagaRun "bank-a") _ _ _ _ _
    refusals_evaluated (fun call member => crossing_starts "REVERSED" call member) fun _ _ _ =>
      trivial
  have started : s.threads.map Thread.call = crossingCalls "REVERSED" := started
  have past : s.threads.map finished = [true, true, true, true, true, true] :=
    congrArg Prod.snd observed
  obtain ⟨interbank, member, target, -⟩ := mem_of_status (congrArg Prod.fst observed)
  obtain ⟨original, present, same, -, whole⟩ := compensated_once reachable interbank member
  rw [target] at same
  have refused : ∀ thread ∈ s.threads, ¬ Call.Confirms thread.call original.id := by
    intro thread running
    have listed : thread.call ∈ s.threads.map Thread.call := List.mem_map_of_mem running
    rw [started] at listed
    exact crossing_refuses thread.call listed original.id
  have listed : outcome (sampleId 4) (sampleId 3) "REVERSED" ∈ crossingCalls "REVERSED" :=
    List.mem_of_getElem? (i := 4) rfl
  rw [← started] at listed
  obtain ⟨thread, running, call⟩ := List.mem_map.mp listed
  have returned : finished thread ∈ s.threads.map finished := List.mem_map_of_mem running
  rw [past] at returned
  obtain ⟨response, done⟩ := result_of_finished (by simpa using returned)
  have handles : Call.Handles thread.call original.id := by
    rw [call, same]
    exact ⟨_, _, rfl, rfl, Uuid.parse_text _⟩
  exact ⟨s, reachable, original, present, same,
    (whole refused thread running handles response done).2⟩

end

end BankA
