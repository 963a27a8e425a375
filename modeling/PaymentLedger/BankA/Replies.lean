import PaymentLedger.BankA.Transfers

set_option autoImplicit false

-- `InterbankReplyService.handle`, called by the outcome consumer and by the sweep.

namespace BankA

open Transactional Contract InterbankReplyService

theorem settle_debited {db : Database} {transferId : Uuid} {status : InterbankTransferStatus}
    {now : Int} (debited : db.status transferId = some .debited) :
    db.apply (.status transferId status now) = db.settle transferId status now := by
  simp [Database.settle, debited, Database.apply]

theorem settle_other {db : Database} {transferId : Uuid} {status : InterbankTransferStatus}
    {now : Int} (other : db.status transferId ≠ some .debited) :
    db.settle transferId status now = db := by
  simp [Database.settle, other]

theorem settled_settle {db : Database} {handling : Handling} {settlementId : String}
    {transferId : Uuid} {status : InterbankTransferStatus} {now : Int}
    (targets : handling.Targets settlementId transferId)
    (known : ∃ status, db.status transferId = some status) (final : status ≠ .debited) :
    Settled (db.settle transferId status now) handling := by
  obtain ⟨before, found⟩ := known
  by_cases debited : before = .debited
  · subst debited
    exact ⟨settlementId, transferId, status, targets, by simp [status_settle, found], final⟩
  · exact ⟨settlementId, transferId, before, targets,
      by simp [status_settle, found, debited], debited⟩

theorem status_of_selected {db : Database} {row : InterbankTransferRow}
    (found : (db.interbankTransfers.find? fun other => other.transferId = row.transferId) =
      some row) :
    db.status row.transferId = some row.status := by
  simp [Database.status, found]

/-- The parameters of the reversal denote exactly the row `reversalOf` describes. -/
theorem reversal_row {reversalId : Uuid} {settlementId : String} {original row : TransferRow}
    {amount : Money} {reversal : Transfer} (cents : amount.cents = original.amount)
    (created : Transfer.create reversalId.text SUSPENSE_ACCOUNT_ID.text
      original.payerAccountId.text amount =
      .ok reversal)
    (denotes : (reversal.params (compensationKey settlementId)).Denotes row) :
    row = reversalOf reversalId settlementId original := by
  obtain ⟨sameId, samePayer, samePayee, sameAmount⟩ := Transfer.create_ok created
  have id := denotes.id
  have payer := denotes.payer
  have payee := denotes.payee
  have key := denotes.key
  have total := denotes.amount
  simp only [Transfer.params, sameId, samePayer, samePayee, sameAmount, Uuid.parse_text,
    Option.some.injEq] at id payer payee key total
  cases row
  simp_all [reversalOf]

section

variable {bankId : String} {scope : Scope (service bankId)} {call : Call} {β : Type} {db : Database}
variable {success : β → List (Performed engine) → Option (Txn engine) → Database → Prop}
variable {refusal : Failure → List (Performed engine) → Prop} {history : List (Performed engine)}
variable {handling : Handling} {settlementId : String} {transferId : Uuid}

theorem ok_markConfirmed {f : Unit → Program β} (handles : call.handling = some handling)
    (targets : handling.Targets settlementId transferId) (confirms : handling.confirms)
    (refuse : ∀ error history, Unmet error history → refusal error history)
    (unmet : meets history = []) (known : ∃ status, db.status transferId = some status)
    (done : ∀ db history', Settled db handling → meets history' = [] →
      Session scope call success refusal (f ()) history' none db) :
    Session scope call success refusal
      ((InterbankTransferRepository.markConfirmed settlementId handling.now .pool).bind f) history
      none db := by
  have failed (cause : PgError) (db : Database) :
      Session scope call success refusal (.done (.error (.database cause)))
        (history ++ [⟨.query .pool (.updateStatus settlementId .confirmed handling.now),
          .error (.database cause)⟩]) none db :=
    ok_refuse (refuse _ _ ⟨(meets_append rfl).trans unmet, by simp⟩)
  refine ok_pool (P := fun db : Database => ∃ status, db.status transferId = some status)
    (stable_known transferId) known ?_ ?_
  · intro error db _ _ raises
    obtain ⟨cause, rfl⟩ := raises_database raises
    exact failed cause db
  · rintro db busy ⟨answer, written, locks⟩ wellFormed known ran _
    obtain ⟨id, parsed, effect⟩ :=
      updateStatus_ok (WellFormed.interbankIds wellFormed) (exec_eq_ok.mp ran)
    obtain rfl := Option.some.inj (parsed.symm.trans targets.2)
    have after : written.foldl Database.apply db = db.settle id .confirmed handling.now ∧
        (db.status id = some .debited → exclusive (.interbankTransfer id) ∈ locks) := by
      rcases effect with ⟨debited, rfl, rfl⟩ | ⟨other, rfl, rfl⟩
      · exact ⟨settle_debited debited, fun _ => List.mem_singleton_self _⟩
      · exact ⟨(settle_other other).symm, fun debited => absurd debited other⟩
    have settled : Settled (written.foldl Database.apply db) handling := by
      rw [after.1]
      exact settled_settle targets known (by decide)
    refine ⟨.inr ?_, done _ _ settled ((meets_append rfl).trans unmet), failed _ _⟩
    have commit := @Commit.confirmed bankId locks db call handling settlementId id handles targets
      confirms after.2
    rw [← after.1] at commit
    exact commit

theorem ok_markCompensated {original : TransferRow} {writes : List Write}
    {locks : List (Lock Resource)} {P : Database → Prop} (handles : call.handling = some handling)
    (targets : handling.Targets settlementId transferId) (refuses : ¬ handling.confirms)
    (printable : handling.event.Printable) (same : original.id = transferId)
    (unmet : meets history = []) (stable : ∀ more, locks ⊆ more → (contract scope).Stable more P)
    (now : P db) (present : ∀ db, P db → original ∈ db.transfers)
    (known : ∀ db, P db → ∃ status, db.status transferId = some status)
    (bookable : ∀ db, P db →
      ¬ db.hasKey (reversalOf handling.reversalId settlementId original).idempotencyKey →
        (reversalOf handling.reversalId settlementId original).Bookable locks db)
    (view : ∀ db, P db → writes.foldl Database.apply db =
      db.refund (reversalOf handling.reversalId settlementId original)) :
    Session scope call
      (fun _ history txn db => txn = none ∧ meets history = [] ∧ Settled db handling) Unmet
      ((InterbankTransferRepository.markCompensated settlementId handling.now .client).bind fun _ =>
        perform .commit)
      history (some (live writes locks)) db := by
  refine ok_clientQuery (fun _ _ same => same) unmet (stable locks (List.Subset.refl _)) now ?_
  rintro db busy ⟨answer, written, more⟩ history wellFormed current unmet _ ran
  have included : locks ⊆ locks ++ more := List.subset_append_left _ _
  have nodup : ((writes.foldl Database.apply db).interbankTransfers.map
      InterbankTransferRow.transferId).Nodup := by
    rw [view db current, refund_interbankTransfers]
    exact wellFormed.interbankIds
  obtain ⟨id, parsed, effect⟩ := updateStatus_ok nodup ran
  obtain rfl := Option.some.inj (parsed.symm.trans targets.2)
  rw [view db current, refund_status] at effect
  -- Either the row is DEBITED and locked by now, or it never will be DEBITED again.
  have finish (Q : Database → Prop) (stableQ : (contract scope).Stable (locks ++ more) Q)
      (nowQ : Q db)
      (compensated : ∀ db, P db → Q db → (writes ++ written).foldl Database.apply db =
        db.compensate (reversalOf handling.reversalId settlementId original) id handling.now)
      (statusLock : ∀ db, Q db → db.status id = some .debited →
        exclusive (.interbankTransfer id) ∈ locks ++ more) :
      Session scope call
        (fun _ history txn db => txn = none ∧ meets history = [] ∧ Settled db handling) Unmet
        (perform .commit) history (some (live (writes ++ written) (locks ++ more))) db := by
    rw [← Prog.bind_pure (perform .commit)]
    refine ok_commit_ (fun _ _ same => same) unmet ((stable _ included).and stableQ)
      ⟨current, nowQ⟩ ?_ ?_
    · intro db _ both
      have commit := @Commit.compensated bankId (locks ++ more) db call handling settlementId
        id original
        handles targets refuses (present db both.1) same (known db both.1)
        (fun new => (bookable db both.1 new).mono included) (statusLock db both.2) printable
      rw [← compensated db both.1 both.2] at commit
      exact .inr commit
    · intro db history _ both unmet
      have settled : Settled ((writes ++ written).foldl Database.apply db) handling := by
        rw [compensated db both.1 both.2]
        refine settled_settle targets ?_ (by decide)
        rw [refund_status]
        exact known db both.1
      refine ok_done (P := fun db => Settled db handling) ?_ settled fun db _ known =>
        ⟨rfl, unmet, known⟩
      exact stable_of_frame fun _ _ _ _ _ frame known => frame.settled_ known
  rcases effect with ⟨debited, rfl, rfl⟩ | ⟨other, rfl, rfl⟩
  · refine finish (fun db => db.status id = some .debited)
      (stable_debited (List.mem_append_right _ (List.mem_singleton_self _))) debited ?_ ?_
    · intro db current debited
      rw [List.foldl_append, view db current]
      exact settle_debited (by simpa using debited)
    · intro db _ _
      simp
  · obtain ⟨status, found⟩ := known db current
    refine finish (fun db => ∃ status, db.status id = some status ∧ status ≠ .debited)
      (stable_settled id) ⟨status, found, fun debited => other (debited ▸ found)⟩ ?_ ?_
    · rintro db current ⟨status, found, final⟩
      rw [List.append_nil, view db current]
      exact (settle_other (by simp [found, final])).symm
    · rintro db ⟨status, found, final⟩ debited
      exact absurd (Option.some.inj (found.symm.trans debited)) final

theorem ok_compensate {f : Unit → Program β} (handles : call.handling = some handling)
    (targets : handling.Targets settlementId transferId) (refuses : ¬ handling.confirms)
    (printable : handling.event.Printable)
    (refuse : ∀ error history, Unmet error history → refusal error history)
    (unmet : meets history = []) (known : ∃ status, db.status transferId = some status)
    (done : ∀ db history', WellFormed db → Settled db handling → meets history' = [] →
      Session scope call success refusal (f ()) history' none db) :
    Session scope call success refusal
      ((compensate handling.reversalId handling.now settlementId).bind f) history none db := by
  have failed (cause : PgError) : refusal (.database cause)
      (history ++ [⟨.query .pool (.selectTransferById settlementId), .error (.database cause)⟩]) :=
    refuse _ _ ⟨(meets_append rfl).trans unmet, by simp⟩
  simp only [compensate, TransferRepository.findById, Prog.bind_eq, Prog.bind_assoc]
  refine ok_poolRead failed (fun _ _ _ ran => (selectTransferById_ok ran).1)
    (stable_known transferId) known ?_
  rintro db busy ⟨answer, written, more⟩ wellFormed known ran
  obtain ⟨-, facts⟩ := selectTransferById_ok ran
  have unmet' : meets
      (history ++ [⟨.query .pool (.selectTransferById settlementId), .ok answer⟩]) = [] :=
    (meets_append rfl).trans unmet
  cases answer with
  | none => exact ok_refuse (refuse _ _ ⟨unmet', by simp⟩)
  | some original =>
    obtain ⟨present, parsed⟩ := facts original rfl
    have same : original.id = transferId := Option.some.inj (parsed.symm.trans targets.2)
    obtain ⟨amount, cents, read⟩ := TransferRow.toRecord_ok (wellFormed.safe original present)
    simp only [optionalRecord_some read, Prog.done_bind, Prog.bind_assoc]
    refine ok_fromDomain refuse unmet' ?_
    intro reversal created
    have steady (mine : List (Lock Resource)) : (contract scope).Stable mine fun db =>
        original ∈ db.transfers ∧ ∃ status, db.status transferId = some status :=
      (stable_transfer original).and (stable_known transferId)
    refine ok_rollbackOnError
      (fun _ history txn db => txn = none ∧ meets history = [] ∧ Settled db handling) refuse ?_ ?_
    · refine ok_begin_ (fun _ _ same => same) unmet' (steady []) ⟨present, known⟩ ?_
      intro db history _ facts unmet _
      refine ok_insert (fun _ _ same => same) unmet (steady []) facts ?_ ?_
      · intro db history more _ facts taken unmet _
        refine ok_markCompensated handles targets refuses printable same unmet
          (fun more _ => (steady more).and (stable_hasKey _)) ⟨facts, taken⟩
          (fun _ known => known.1.1)
          (fun _ known => known.1.2) (fun _ known new => absurd known.2 new) ?_
        intro db known
        exact (if_pos known.2).symm
      · intro db history row record _ facts denotes bookable _ unmet
        obtain rfl := reversal_row cents created denotes
        refine ok_append (fun _ _ same => same) unmet (fun more included =>
          (steady more).and (stable_bookable included bookable.keyLock bookable.idLock))
          ⟨facts, bookable⟩ ?_
        intro db history rows more known unmet denoted included
        obtain rfl := entries_unique denoted denotes.entries
        refine ok_markCompensated handles targets refuses printable same unmet (fun others wider =>
          (steady others).and (stable_bookable (List.Subset.trans included wider) bookable.keyLock
            bookable.idLock))
          known (fun _ known => known.1.1) (fun _ known => known.1.2)
          (fun _ known _ => known.2.mono included) ?_
        intro db known
        rw [List.singleton_append, book_writes]
        exact (if_neg known.2.newKey).symm
    · rintro _ history txn db wellFormed ⟨rfl, unmet, settled⟩
      exact done db history wellFormed settled unmet

theorem ok_handle (handling : Handling) {f : Unit → Program β}
    (handles : call.handling = some handling)
    (refuse : ∀ error history, Unmet error history → refusal error history)
    (unmet : meets history = [])
    (done : ∀ db history', WellFormed db → Settled db handling → meets history' = [] →
      Session scope call success refusal (f ()) history' none db) :
    Session scope call success refusal
      ((handle handling.reversalId handling.now handling.event).bind f) history none db := by
  have failed (cause : PgError) : refusal (.database cause) (history ++
      [⟨.query .pool (.selectInterbankTransfer handling.event.settlementId),
        .error (.database cause)⟩]) :=
    refuse _ _ ⟨(meets_append rfl).trans unmet, by simp⟩
  have reads (db : Database) (busy : List (Lock Resource))
      (effect : Reply (Option InterbankTransferRow))
      (ran : selectInterbankTransfer handling.event.settlementId db = .ok effect) :
      effect.writes = [] :=
    (selectInterbankTransfer_ok ran).1
  simp only [handle, InterbankTransferRepository.findById, Prog.bind_eq, Prog.bind_assoc]
  refine ok_poolRead failed reads stable_true trivial ?_
  rintro db busy ⟨answer, written, more⟩ wellFormed - ran
  have unmet' : meets (history ++
      [⟨.query .pool (.selectInterbankTransfer handling.event.settlementId), .ok answer⟩]) = [] :=
    (meets_append rfl).trans unmet
  cases answer with
  | none => exact ok_refuse (refuse _ _ ⟨unmet', by simp⟩)
  | some interbank =>
    have selected : selectInterbankTransfer handling.event.settlementId db =
        .ok ⟨some interbank, written, more⟩ := ran
    obtain ⟨-, facts⟩ := selectInterbankTransfer_ok selected
    obtain ⟨settlementId, text, parsed, found⟩ := facts interbank rfl
    have status := status_of_selected found
    have targets : handling.Targets settlementId interbank.transferId := ⟨text, parsed⟩
    simp only [Option.map_some, Prog.pure_eq, Prog.done_bind, text, InterbankTransferRow.toRecord]
    by_cases debited : interbank.status = .debited
    · by_cases confirms : handling.event.outcome = some (.str "CONFIRMED")
      · simp only [debited, confirms, ne_eq, not_true_eq_false, if_false, if_true]
        refine ok_markConfirmed handles targets confirms refuse unmet' ⟨_, status⟩ ?_
        intro db history settled unmet
        exact ok_of_later fun db' later inv => done db' history inv (Stable.later
          (stable_of_frame fun _ _ _ _ _ frame known => frame.settled_ known) later settled) unmet
      · simp only [debited, confirms, ne_eq, not_true_eq_false, if_false]
        unfold warn
        split
        · rename_i printable
          exact ok_compensate handles targets confirms printable refuse unmet' ⟨_, status⟩ done
        · exact ok_refuse (refuse _ _ ⟨unmet', by simp⟩)
    · simp only [debited, ne_eq, not_false_eq_true, if_true]
      exact done db _ wellFormed ⟨settlementId, _, _, targets, status, debited⟩ unmet'

end

section

variable {bankId : String} {scope : Scope (service bankId)} {db : Database}

theorem success_of_settled {call : Call} {response : Response} {history : List (Performed engine)}
    (silent : call.request = none) (unmet : meets history = [])
    (settled : ∀ handling, call.handling = some handling → Settled db handling) :
    Success call response history db where
  answers := by
    intro request asked
    rw [silent] at asked
    cases asked
  met := by
    intro row member
    rw [unmet] at member
    simp at member
  settled := settled

theorem ok_outcome {reversalId : Uuid} {now : Int} {event : SettlementOutcomeEvent} :
    Session scope (.outcome reversalId now event)
      (fun response history _ db => Success (.outcome reversalId now event) response history db)
      Refusal (program bankId (.outcome reversalId now event)) [] none db := by
  simp only [program, Prog.bind_eq]
  refine ok_handle ⟨reversalId, now, event⟩ rfl (fun _ _ unmet => unmet.refusal) rfl ?_
  intro db history _ settled unmet
  refine ok_done (stable_success _ _ _) (success_of_settled rfl unmet ?_) fun _ _ known => known
  intro handling handles
  obtain rfl := Option.some.inj handles
  exact settled

theorem ok_reconcile {reversalId : Uuid} {now : Int} {transferId : String}
    {response : Option ReconciliationService.HubResponse} :
    Session scope (.reconcile reversalId now transferId response)
      (fun answer history _ db =>
        Success (.reconcile reversalId now transferId response) answer history db)
      Refusal (program bankId (.reconcile reversalId now transferId response)) [] none db := by
  have handled {event : SettlementOutcomeEvent}
      (passes : ReconciliationService.eventOf transferId response = some event) :
      Session scope (.reconcile reversalId now transferId response)
        (fun answer history _ db =>
          Success (.reconcile reversalId now transferId response) answer history db)
        Refusal ((handle reversalId now event).bind fun _ => pure (.reconciled true)) []
          none db := by
    have handles : (Call.reconcile reversalId now transferId response).handling =
        some ⟨reversalId, now, event⟩ := by
      simp [Call.handling, passes]
    refine ok_handle ⟨reversalId, now, event⟩ handles (fun _ _ unmet => unmet.refusal) rfl ?_
    intro db history _ settled unmet
    refine ok_done (stable_success _ _ _) (success_of_settled rfl unmet ?_) fun _ _ known => known
    intro handling same
    obtain rfl := Option.some.inj (handles.symm.trans same)
    exact settled
  have idle (passes : ReconciliationService.eventOf transferId response = none) (changed : Bool) :
      Session scope (.reconcile reversalId now transferId response)
        (fun answer history _ db =>
          Success (.reconcile reversalId now transferId response) answer history db)
        Refusal (.done (.ok (.reconciled changed))) [] none db := by
    refine ok_done stable_true trivial fun db _ _ => success_of_settled rfl rfl ?_
    intro handling handles
    simp [Call.handling, passes] at handles
  have lost : Session scope (.reconcile reversalId now transferId response)
      (fun answer history _ db =>
        Success (.reconcile reversalId now transferId response) answer history db)
      Refusal (.done (.error .fetchFailed)) [] none db :=
    ok_refuse (Unmet.refusal ⟨rfl, by simp⟩)
  simp only [program, Prog.bind_eq, ReconciliationService.reconcileOne]
  cases response with
  | none => exact lost
  | some response =>
    by_cases missing : response.status = 404
    · simp only [missing, if_true, Prog.bind_assoc]
      exact handled (by simp [ReconciliationService.eventOf, ReconciliationService.unknownEvent, missing])
    · by_cases fine_ : ReconciliationService.ok response = true
      · cases body : response.body with
        | none =>
          simp only [missing, fine_, body, if_true, if_false]
          exact lost
        | some hubView =>
          by_cases pending : Json.get hubView "status" = some (.str "PENDING")
          · simp only [missing, fine_, body, pending, if_true, if_false]
            exact idle (by simp [ReconciliationService.eventOf, missing, fine_, body, pending])
              false
          · simp only [missing, fine_, body, pending, if_true, if_false, Prog.bind_assoc]
            unfold warn
            split
            · rename_i printable
              exact handled (by simp [ReconciliationService.eventOf, ReconciliationService.settledEvent, missing, fine_,
                body, pending, printable])
            · exact ok_refuse (Unmet.refusal ⟨rfl, by simp⟩)
      · simp only [missing, fine_, if_false, Bool.false_eq_true]
        exact idle (by simp [ReconciliationService.eventOf, missing, fine_]) false

end

end BankA
