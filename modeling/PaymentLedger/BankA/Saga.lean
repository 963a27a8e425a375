import PaymentLedger.BankA.Reversals

set_option autoImplicit false

-- Outcomes arrive from the consumer and from the sweep, any number of times and at once.

namespace BankA

open Transactional InterbankReplyService

def sagaRun (bankId : String) : Scope (service bankId) where
  initial := migrated
  starts call := Call.Canonical call ∧ Call.Unreserved call

def Reverses (reversal original : TransferRow) (db : Database) : Prop :=
  reversal ∈ db.transfers ∧ reversal.idempotencyKey = compensationKey original.id.text ∧
    reversal.payerAccountId = SUSPENSE_ACCOUNT_ID ∧
    reversal.payeeAccountId = original.payerAccountId ∧ reversal.amount = original.amount ∧
    db.ledgerEntries.filter (fun entry => entry.transferId = reversal.id) =
      [⟨reversal.id, SUSPENSE_ACCOUNT_ID, -original.amount⟩,
       ⟨reversal.id, original.payerAccountId, original.amount⟩]

instance (reversal original : TransferRow) (db : Database) :
    Decidable (Reverses reversal original db) := by
  unfold Reverses
  infer_instance

theorem Refunds.reverses {db : Database} (wellFormed : WellFormed db) (refunds : Refunds db)
    {reversal original : TransferRow} (present : reversal ∈ db.transfers)
    (payer : reversal.payerAccountId = SUSPENSE_ACCOUNT_ID) (origin : original ∈ db.transfers)
    (key : reversal.idempotencyKey = compensationKey original.id.text) :
    Reverses reversal original db := by
  obtain ⟨other, known, sameKey, payee, amount⟩ := refunds reversal present payer
  have same : other.id = original.id := by
    apply Uuid.text_injective
    apply compensationKey_injective
    rw [← sameKey, key]
  obtain rfl := transfer_ext wellFormed known origin same
  refine ⟨present, key, payer, payee, amount, ?_⟩
  rw [wellFormed.ledger, filter_entries wellFormed.ids present, TransferRow.entries, payer,
    payee, amount]

section

variable {bankId : String} {scope : Scope (service bankId)} {s : System (service bankId)}

theorem Reachable.refunds (fresh : scope.initial = migrated) (reachable : Reachable scope s)
    (canonical : ∀ call, scope.starts call → Call.Canonical call) :
    Refunds s.db := by
  refine reachable.invariant (verified fresh) Refunds ?_ ?_
  · rw [fresh]
    intro row present
    simp [migrated] at present
  · intro call locks db db' wellFormed changes refunds
    exact changes.2.2.refunds wellFormed (canonical call changes.1) refunds

theorem Reachable.keyTaken (fresh : scope.initial = migrated) (reachable : Reachable scope s)
    (canonical : ∀ call, scope.starts call → Call.Canonical call) :
    KeyTaken s.db := by
  refine reachable.invariant (verified fresh) KeyTaken ?_ ?_
  · rw [fresh]
    intro transferId found
    cases found
  · intro call locks db db' wellFormed changes taken
    exact changes.2.2.keyTaken wellFormed (canonical call changes.1) taken

theorem Reachable.keysReserved (fresh : scope.initial = migrated) (reachable : Reachable scope s)
    (unreserved : ∀ call, scope.starts call → Call.Unreserved call) :
    KeysReserved s.db := by
  refine reachable.invariant (verified fresh) KeysReserved ?_ ?_
  · rw [fresh]
    intro row present
    simp [migrated] at present
  · intro call locks db db' _ changes reserved
    exact changes.2.2.keysReserved (unreserved call changes.1) reserved

end

def StatusAgrees (db : Database) : Prop :=
  ∀ interbank ∈ db.interbankTransfers, ∃ original ∈ db.transfers,
    original.id = interbank.transferId ∧
    ((∃ reversal ∈ db.transfers, Reverses reversal original db) ↔ interbank.status = .compensated)

instance (db : Database) : Decidable (StatusAgrees db) := by
  unfold StatusAgrees
  infer_instance

def orderlyRun (bankId : String) : Scope (service bankId) :=
  { sagaRun bankId with
    admits := fun call db => ∀ transferId reversalId settlementId,
      Call.Refuses call transferId reversalId settlementId →
        db.status transferId ≠ some .confirmed }

def KeyEarned (db : Database) : Prop :=
  ∀ transferId, db.hasKey (compensationKey transferId.text) →
    db.status transferId = some .compensated

section

variable {bankId : String}

theorem Commit.keyEarned {call : Call} {locks : List (Lock Resource)} {db db' : Database}
    (wellFormed : WellFormed db)
    (changes : (contract (orderlyRun bankId)).Changes call locks db db')
    (both : KeyTaken db ∧ KeyEarned db) : KeyEarned db' := by
  obtain ⟨⟨canonical, unreserved⟩, orderly, commit⟩ := changes
  have frame := Commit.frame wellFormed commit
  intro transferId found
  obtain ⟨row, present, key⟩ := List.mem_map.mp found
  rcases Commit.origin commit present with old | ⟨newKey, origin⟩
  · have before := both.2 transferId (List.mem_map.mpr ⟨row, old, key⟩)
    exact frame.settled transferId _ before (by decide)
  · cases origin with
    | seed payer seeded => exact absurd (key.symm.trans seeded) (compensationKey_ne_seedKey _ _)
    | client request asked payer sameKey =>
      have free := unreserved request _ asked sameKey
      rw [key] at free
      exact absurd (reserved_compensationKey _) free
    | refund reversalId settlementId original refuses origin known row_eq turned =>
      obtain rfl := refuses.canonical canonical
      subst row_eq
      obtain rfl := Uuid.text_injective (compensationKey_injective key)
      obtain ⟨status, current⟩ := known
      cases status with
      | debited => exact turned current
      | compensated => exact absurd (both.1 _ current) newKey
      | confirmed => exact absurd current (orderly _ _ _ refuses)

theorem Reachable.keyEarned {s : System (service bankId)}
    (reachable : Reachable (orderlyRun bankId) s) :
    KeyTaken s.db ∧ KeyEarned s.db := by
  refine reachable.invariant (verified rfl) (fun db => KeyTaken db ∧ KeyEarned db) ?_ ?_
  · constructor
    · intro transferId found
      cases found
    · intro transferId found
      cases found
  · intro call locks db db' wellFormed changes both
    exact ⟨changes.2.2.keyTaken wellFormed changes.1.1 both.1,
      Commit.keyEarned wellFormed changes both⟩

/-- As long as no CONFIRMED transfer is compensated, the status agrees with the ledger. -/
theorem status_agrees {s : System (service bankId)} (reachable : Reachable (orderlyRun bankId) s) :
    StatusAgrees s.db := by
  have wellFormed : WellFormed s.db := Reachable.wellFormed rfl reachable
  have refunds := Reachable.refunds rfl reachable fun _ starts => starts.1
  have reserved := Reachable.keysReserved rfl reachable fun _ starts => starts.2
  obtain ⟨taken, earned⟩ := Reachable.keyEarned reachable
  intro interbank member
  have current := wellFormed.status_of_mem member
  obtain ⟨original, present, same, -⟩ := wellFormed.interbank interbank member
  rw [← same] at current
  refine ⟨original, present, same, ?_, ?_⟩
  · rintro ⟨reversal, booked, reverses⟩
    have compensated := earned original.id (List.mem_map.mpr ⟨reversal, booked, reverses.2.1⟩)
    exact Option.some.inj (current.symm.trans compensated)
  · intro compensated
    rw [compensated] at current
    obtain ⟨reversal, booked, key⟩ := List.mem_map.mp (taken original.id current)
    have payer := reserved reversal booked (key ▸ reserved_compensationKey _)
    exact ⟨reversal, booked, refunds.reverses wellFormed booked payer present key⟩

end

def debit (id : Uuid) (cents : Int) : Call :=
  .interbankTransfer ⟨id, 7, 0⟩ (some "debit") ⟨(sampleId 0).text, "bank-b", "iban", .finite cents⟩

def outcome (reversalId transferId : Uuid) (outcome : String) : Call :=
  .outcome reversalId 1 { settlementId := some transferId.text, outcome := some (.str outcome) }

/-- 400 cents are debited; then a REVERSED and a second outcome are both read before either acts. -/
def crossing (second : String) : List (Action (service "bank-a")) :=
  opening "bank-a" ++ [.start (debit (sampleId 3) 400)] ++ runs 3 10 ++
  [.start (outcome (sampleId 4) (sampleId 3) second),
   .start (outcome (sampleId 5) (sampleId 3) "REVERSED")] ++ runs 4 1 ++ runs 5 1

theorem outcome_canonical (reversalId transferId : Uuid) (text : String) :
    Call.Canonical (outcome reversalId transferId text) := by
  intro handling settlementId target handles targets
  obtain rfl := Option.some.inj handles
  obtain ⟨same, parsed⟩ := targets
  obtain rfl := Option.some.inj same
  rw [Uuid.parse_text] at parsed
  rw [Option.some.inj parsed]

def crossingCalls (second : String) : List Call :=
  [.createAccount (sampleId 0) "alice", .createAccount (sampleId 1) "bob",
   .devSeed (sampleId 2) (sampleId 0).text (.finite 500), debit (sampleId 3) 400,
   outcome (sampleId 4) (sampleId 3) second, outcome (sampleId 5) (sampleId 3) "REVERSED"]

theorem crossing_starts (second : String) (call : Call) (listed : call ∈ crossingCalls second) :
    (sagaRun "bank-a").starts call := by
  simp only [crossingCalls, List.mem_cons, List.not_mem_nil, or_false] at listed
  rcases listed with rfl | rfl | rfl | rfl | rfl | rfl
  case inr.inr.inr.inl =>
    refine ⟨fun _ _ _ handles => (by cases handles), ?_⟩
    intro request key asked same
    obtain rfl := Option.some.inj asked
    obtain rfl := Option.some.inj same
    unfold Reserved
    decide
  case inr.inr.inr.inr.inl | inr.inr.inr.inr.inr =>
    exact ⟨outcome_canonical _ _ _, fun _ _ asked => (by cases asked)⟩
  all_goals exact ⟨fun _ _ _ handles => (by cases handles), fun _ _ asked => (by cases asked)⟩

def finished (thread : Thread (service "bank-a")) : Bool :=
  match thread.prog with
  | .done (.ok _) => true
  | _ => false

theorem result_of_finished {thread : Thread (service "bank-a")} (past : finished thread = true) :
    ∃ response, thread.result = some (.ok response) := by
  unfold finished at past
  split at past
  · rename_i response done
    exact ⟨response, Thread.result_eq_some.mpr done⟩
  · simp at past

/-- A late CONFIRMED passes the sweep's refusal: the transfer is CONFIRMED and refunded. -/
theorem status_agrees_fails : ∃ s, Reachable (sagaRun "bank-a") s ∧
    s.db.status (sampleId 3) = some .confirmed ∧ ¬ StatusAgrees s.db := by
  have evaluated : (System.run { db := (sagaRun "bank-a").initial }
      (crossing "CONFIRMED" ++ runs 4 1 ++ runs 5 7)).map (fun s =>
        (Database.status s.db (sampleId 3), decide (StatusAgrees s.db))) =
      some (some .confirmed, false) := by
    decide +kernel
  obtain ⟨s, reachable, observed, -⟩ :=
    Reachable.of_evaluation evaluated (fun call member => crossing_starts "CONFIRMED" call member)
      fun _ _ _ => trivial
  simp only [Prod.mk.injEq, decide_eq_false_iff_not] at observed
  exact ⟨s, reachable, observed⟩

/-- No transfer is CONFIRMED and no client holds the key of a reversal. -/
def undisturbed (db : Database) : Bool :=
  (db.interbankTransfers.all fun row => row.status ≠ .confirmed) &&
    db.transfers.all fun row =>
    decide (Reserved row.idempotencyKey → row.payerAccountId = SUSPENSE_ACCOUNT_ID)

theorem status_of_undisturbed {db : Database} (checked : undisturbed db = true)
    (transferId : Uuid) :
    db.status transferId ≠ some .confirmed := by
  intro confirmed
  obtain ⟨row, member, -, status⟩ := mem_of_status confirmed
  have other := List.all_eq_true.mp (Bool.and_eq_true_iff.mp checked).1 row member
  simp [status] at other

theorem keysReserved_of_undisturbed {db : Database} (checked : undisturbed db = true) :
    KeysReserved db := by
  intro row present
  exact of_decide_eq_true (List.all_eq_true.mp (Bool.and_eq_true_iff.mp checked).2 row present)

theorem refusals_evaluated :
    (System.runWithin (fun _ db _ => undisturbed db) { db := (sagaRun "bank-a").initial }
      (crossing "REVERSED" ++ runs 5 7 ++ runs 4 5)).map (fun s =>
      (Database.status s.db (sampleId 3), s.threads.map finished)) =
    some (some .compensated, [true, true, true, true, true, true]) := by
  decide +kernel

theorem status_agrees_crossing : ∃ s, Reachable (orderlyRun "bank-a") s ∧
    s.db.status (sampleId 3) = some .compensated ∧ StatusAgrees s.db := by
  obtain ⟨s, reachable, observed, -⟩ := @Reachable.of_evaluation _ (orderlyRun "bank-a") _ _ _ _ _
    refusals_evaluated (fun call member => crossing_starts "REVERSED" call member)
    fun _ _ ⟨_, checked, _⟩ transferId _ _ _ => status_of_undisturbed checked transferId
  exact ⟨s, reachable, congrArg Prod.fst observed, status_agrees reachable⟩

end BankA
