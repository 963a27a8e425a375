import PaymentLedger.BankA.Atomicity
import PaymentLedger.BankA.Connections
import PaymentLedger.BankA.Solvency
import PaymentLedger.Shared.Disclosure

set_option autoImplicit false

-- A client that is answered with a status of its own fault (400, 404, 409 or 422) may take it that
-- nothing has happened. Only a dev seed can refuse after its commit.

namespace BankA

open Transactional Prog

/-- The table of `DomainExceptionFilter`, and 400 for what the validation refuses; everything else
is a 500. -/
def Failure.httpStatus : Failure → ℕ
  | .domain (.accountNotFound _) | .domain (.transferNotFound _) => 404
  | .domain (.insufficientFunds _) => 422
  | .domain .idempotencyConflict => 409
  | .domain (.invalidAmount _) | .domain .selfTransfer | .badRequest => 400
  | .vanished _ | .noInterbankTransfer _ | .noLocalTransfer _ | .unroutable | .fetchFailed | .typeError | .database _ => 500

def Failure.internal (failure : Failure) : Bool := decide (failure.httpStatus = 500)

theorem candid (bankId : String) : Candid (service bankId) Sql.reads Failure.internal where
  disconnected := rfl
  aborted := rfl
  raises := by
    intro sql db busy error raised
    have raised : (execute sql db busy).mapError Failure.database = .error error := raised
    cases ran : execute sql db busy with
    | ok effect =>
      rw [ran] at raised
      cases raised
    | error cause =>
      rw [ran] at raised
      obtain rfl := Except.error.inj raised
      rfl
  reads := reads_sound

abbrev Candidly {α : Type} (ok : α → Prop) (phase : Phase) (program : Program α) : Prop :=
  program.Discloses Sql.reads Failure.internal ok phase

theorem candidly_execute (id : Uuid) (key : String) (params : TransfersService.TransferParams) :
    Candidly (fun _ => True) (.before false) (TransfersService.execute id key params) := by
  have replays (existing : TransferRecord) (transfer : Transfer) (inside : Bool) :
      Candidly (fun _ => True) (.before inside) (TransfersService.replay existing transfer) := by
    unfold TransfersService.replay
    split <;> exact disclosed_before
  refine discloses_look issues_ofExcept fun transfer => discloses_look (looks_findByKey key) ?_
  rintro (_ | existing)
  · refine discloses_then (F := fun record => record.isSome = true)
      (discloses_protect (discloses_begin ?_)) ?_ ?_
    · refine discloses_inner (inner_lockAccounts transfer) fun _ =>
        discloses_inner (inner_insert transfer key) ?_
      rintro (_ | record)
      · exact discloses_rollback disclosed_before
      · refine discloses_inner (inner_balanceOf _) fun _ =>
          discloses_inner issues_ofExcept fun _ => ?_
        exact discloses_inner (inner_append _) fun _ => discloses_commit fun _ => rfl
    · rintro (_ | record) stored
      · cases stored
      · exact fun _ => trivial
    · rintro (_ | record) inside
      · -- nothing was inserted, so the call is still before its change
        refine discloses_look (looks_findByKey key) ?_
        rintro (_ | winner)
        · exact disclosed_before
        · exact replays winner transfer inside
      · exact disclosed_before
  · exact replays existing transfer false

theorem candidly_interbankExecute (bankId : String) (draws : InterbankTransfersService.Draws)
    (key : String) (params : InterbankTransfersService.InterbankTransferParams) :
    Candidly (fun _ => True) (.before false)
      (InterbankTransfersService.execute bankId draws key params) := by
  have replays (existing : TransferRecord) (transfer : Transfer) (inside : Bool) :
      Candidly (fun _ => True) (.before inside)
        (InterbankTransfersService.replay existing transfer params.payeeBankId
          params.payeeAccountRef) := by
    unfold InterbankTransfersService.replay
    split
    · refine discloses_look (looks_findInterbank _) ?_
      rintro (_ | interbank)
      · exact disclosed_before
      · simp only
        split <;> exact disclosed_before
    · exact disclosed_before
  refine discloses_look issues_ofExcept fun transfer => discloses_look (looks_findByKey key) ?_
  rintro (_ | existing)
  · refine discloses_then (F := fun result => result.isSome = true)
      (discloses_protect (discloses_begin ?_)) ?_ ?_
    · refine discloses_inner issues_client ?_
      rintro (_ | _)
      · exact disclosed_before
      · refine discloses_inner (inner_insert transfer key) ?_
        rintro (_ | record)
        · exact discloses_rollback disclosed_before
        · refine discloses_inner (inner_balanceOf _) fun _ =>
            discloses_inner issues_ofExcept fun _ => ?_
          refine discloses_inner (inner_append _) fun _ => ?_
          refine discloses_inner (issues_bind issues_client fun _ => trivial) fun _ => ?_
          exact discloses_inner issues_client fun _ => discloses_commit fun _ => rfl
    · rintro (_ | result) stored
      · cases stored
      · exact fun _ => trivial
    · rintro (_ | result) inside
      · refine discloses_look (looks_findByKey key) ?_
        rintro (_ | winner)
        · exact disclosed_before
        · exact replays winner transfer inside
      · exact disclosed_before
  · exact replays existing transfer false

theorem candidly_handle (reversalId : Uuid) (now : Int)
    (event : InterbankReplyService.SettlementOutcomeEvent) :
    Candidly (fun _ => True) (.before false)
      (InterbankReplyService.handle reversalId now event) := by
  have compensates (transferId : String) :
      Candidly (fun _ => True) (.before false)
      (InterbankReplyService.compensate reversalId now transferId) := by
    refine discloses_look (looks_findTransfer transferId) ?_
    rintro (_ | original)
    · exact disclosed_before
    · refine discloses_look issues_ofExcept fun reversal => discloses_protect (discloses_begin ?_)
      refine discloses_inner (inner_insert _ _) ?_
      have finish : Candidly (fun _ => True) (.before true)
          ((InterbankTransferRepository.markCompensated transferId now .client).bind fun _ =>
            BankA.perform .commit) :=
        discloses_inner issues_client fun _ => discloses_last (fun _ => trivial) trivial
      rintro (_ | record)
      · exact finish
      · exact discloses_inner (inner_append _) fun _ => finish
  refine discloses_look (looks_findInterbank _) fun interbank => ?_
  split
  · split
    · exact disclosed_before
    · split
      · exact discloses_last (fun _ => trivial) trivial
      · exact discloses_look issues_check fun _ => compensates _
  · exact disclosed_before

def Call.seeds : Call → Bool
  | .devSeed _ _ _ => true
  | _ => false

/-- Past its change a call other than a seed has been answered, or has failed with a 500. -/
def Ends (call : Call) (result : Except engine.Error Response) (phase : Phase) : Prop :=
  call.seeds = false → Disclosed (E := engine) Failure.internal (fun _ => True) result phase

theorem watched_freely {α : Type} {phase : Phase} (program : Program α)
    (late : phase = .changed ∨ phase = .excused) :
    program.Watched (disclosure Sql.reads Failure.internal) (fun _ _ => True) phase :=
  (watched_late program late).imp fun _ _ _ => trivial

theorem watched_opening {α β : Type} {inside : Bool} {first : Program β} {f : β → Program α}
    (looks : Looks first)
    (rest : ∀ value, (f value).Watched (disclosure Sql.reads Failure.internal) (fun _ _ => True)
      (.before inside)) :
    (first.bind f).Watched (disclosure Sql.reads Failure.internal) (fun _ _ => True)
      (.before inside) := by
  refine watched_bind (watched_calm (looks.imp fun _ => calm_look)) ?_ fun _ _ _ => trivial
  rintro value phase (rfl | rfl)
  · exact rest value
  · exact watched_freely _ (.inr rfl)

theorem watched_devSeed (transferId : Uuid) (id : String) (amount : Money) :
    (AccountsService.devSeed transferId id amount).Watched (disclosure Sql.reads Failure.internal)
      (fun _ _ => True)
      (.before false) := by
  have reads (phase : Phase) :
      (AccountsService.getBalance id).Watched (disclosure Sql.reads Failure.internal)
      (fun _ _ => True) phase := by
    cases phase with
    | before inside =>
      exact (watched_calm ((looks_getBalance id).imp fun _ => calm_look)).imp fun _ _ _ => trivial
    | changed => exact watched_freely _ (.inl rfl)
    | excused => exact watched_freely _ (.inr rfl)
  refine watched_opening (looks_getAccount id) fun account => ?_
  have seeds : Candidly (fun _ => True) (.before false) (rollbackOnError (do
      BankA.perform .begin
      sql .client (.insertSeedTransfer
        { id := transferId.text, idempotencyKey := AccountsService.seedKey transferId.text,
          payerAccountId := DEV_TREASURY_ACCOUNT_ID.text, payeeAccountId := id, amount })
      sql .client (.insertSeedEntries
        ⟨transferId.text, DEV_TREASURY_ACCOUNT_ID.text, amount.negated⟩
        ⟨transferId.text, id, amount⟩)
      BankA.perform .commit)) :=
    discloses_protect (discloses_begin (discloses_inner issues_client fun _ =>
      discloses_inner issues_client fun _ => discloses_last (fun _ => trivial) trivial))
  exact watched_bind seeds (fun _ phase _ => reads phase) fun _ _ _ => trivial

theorem keeps (bankId : String) (scope : Scope (service bankId)) :
    Keeps scope Sql.reads Failure.internal Ends where
  candid := candid bankId
  crashed := fun _ _ _ => fun _ => rfl
  programs := by
    intro call _
    have answered {α : Type} {body : Program α} {f : α → Response}
        (candidly : Candidly (fun _ => True) (.before false) body) :
        (body.bind fun value => pure (f value)).Watched (disclosure Sql.reads Failure.internal)
        (Ends call)
          (.before false) := by
      refine (discloses_then candidly ?_ ?_).imp fun _ _ told _ => told
      · exact fun _ _ _ => trivial
      · exact fun _ _ => disclosed_before
    cases call with
    | createAccount id ownerName =>
      exact answered (discloses_look issues_check fun _ =>
        discloses_last (fun _ => trivial) trivial)
    | devSeed transferId id amountCents =>
      have seeds : (AccountsController.devSeed transferId id amountCents).Watched
          (disclosure Sql.reads Failure.internal)
          (fun _ _ => True) (.before false) :=
        watched_opening issues_check fun _ => watched_opening issues_ofExcept fun amount =>
          watched_devSeed transferId id amount
      have whole : ((AccountsController.devSeed transferId id amountCents).bind fun balance =>
          pure (Response.balance balance)).Watched (disclosure Sql.reads Failure.internal)
            (fun _ _ => True)
          (.before false) := watched_bind seeds (fun _ _ _ => trivial) fun _ _ _ => trivial
      refine whole.imp ?_
      intro result phase _ other
      cases other
    | transfer id idempotencyKey body =>
      refine answered (discloses_look issues_check fun _ =>
        discloses_look issues_requireKey fun key => ?_)
      exact discloses_look issues_ofExcept fun amount => candidly_execute id key _
    | interbankTransfer draws idempotencyKey body =>
      refine answered (discloses_look issues_check fun _ =>
        discloses_look issues_requireKey fun key => ?_)
      exact discloses_look issues_ofExcept fun amount =>
        candidly_interbankExecute bankId draws key _
    | outcome reversalId now event => exact answered (candidly_handle reversalId now event)
    | reconcile reversalId now transferId response =>
      refine answered ?_
      unfold ReconciliationService.reconcileOne
      have handles (event : InterbankReplyService.SettlementOutcomeEvent) :
          Candidly (fun _ => True) (.before false)
            ((InterbankReplyService.handle reversalId now event).bind fun _ =>
              (pure true : Program Bool)) :=
        discloses_then (candidly_handle reversalId now event) (fun _ _ _ => trivial) fun _ _ =>
          disclosed_before
      split
      · exact disclosed_before
      · split
        · exact handles _
        · split
          · split
            · exact disclosed_before
            · simp only
              split
              · exact disclosed_before
              · exact discloses_look issues_check fun _ => handles _
          · exact disclosed_before
    | relayTick => exact answered works.discloses

/-- Whoever is refused (400, 404, 409, 422) can take it that the request has changed nothing: once a
call other than a dev seed has changed the database, it never ends with an error but a 500. -/
theorem refusals_change_nothing {bankId : String} {s middle s' : System (service bankId)}
    {index : ℕ} {fault : Fault} (reachable : Reachable (anyRun bankId) s)
    (step : s.step (.run index fault) = some middle) (differs : middle.db ≠ s.db)
    (leads : Leads (anyRun bankId) middle s') {thread : Thread (service bankId)}
    (present : s'.threads[index]? = some thread) (other : Call.seeds thread.call = false)
    {failure : Failure} (ended : thread.result = some (.error failure)) :
    failure.httpStatus = 500 := by
  have permits : (anyRun bankId).Permits s (.run index fault) middle := fun _ _ _ => trivial
  have kept := keeps bankId (anyRun bankId)
  obtain ⟨_, found, changed⟩ := leads.changed kept reachable permits step differs
  obtain rfl := Option.some.inj (present.symm.trans found)
  have final : Reachable (anyRun bankId) s' := leads.reachable (.step _ reachable permits step)
  have watched := final.watched kept.programs kept.crashed index thread present
  rw [Thread.result_eq_some.mp ended] at watched
  exact of_decide_eq_true (watched other changed)

def committing : List (Action (service "bank-a")) :=
  opening "bank-a" ++ [.start (payment (sampleId 3) 400)] ++ runs 3 8

def fourth (s : System (service "bank-a")) : Option (Bool × Bool) :=
  s.threads[3]?.bind fun thread => thread.result.map fun result =>
    (Call.seeds thread.call, !result.isOk)

theorem refusals_change_nothing_lost :
    ∃ (s middle s' : System (service "bank-a")) (thread : Thread (service "bank-a"))
    (failure : Failure), Reachable (anyRun "bank-a") s ∧ s.step (.run 3 .lost) = some middle ∧
    middle.db ≠ s.db ∧ Leads (anyRun "bank-a") middle s' ∧ s'.threads[3]? = some thread ∧
    thread.result = some (.error failure) ∧ failure.httpStatus = 500 := by
  have evaluated : (System.run { db := (anyRun "bank-a").initial } committing).bind (fun s =>
      (s.step (.run 3 .lost)).bind fun middle => (middle.step (.run 3 .none)).map fun s' =>
        (decide (middle.db.ledgerEntries.length = s.db.ledgerEntries.length), fourth s')) =
      some (false, some (false, true)) := by
    decide +kernel
  obtain ⟨s, ran, evaluated⟩ := Option.bind_eq_some_iff.mp evaluated
  obtain ⟨middle, step, evaluated⟩ := Option.bind_eq_some_iff.mp evaluated
  obtain ⟨s', last, observed⟩ := Option.map_eq_some_iff.mp evaluated
  obtain ⟨grown, ended⟩ := Prod.mk.inj observed
  have reachable : Reachable (anyRun "bank-a") s :=
    @Reachable.of_run _ (anyRun "bank-a") (fun _ _ _ => true) _ _ _ .init ran (fun _ _ => trivial)
      fun _ _ _ => trivial
  have differs : middle.db ≠ s.db := by
    intro same
    rw [same] at grown
    exact absurd rfl (of_decide_eq_false grown)
  have leads : Leads (anyRun "bank-a") middle s' :=
    .single ⟨.run 3 .none, fun _ _ _ => trivial, last⟩
  obtain ⟨thread, present, ended⟩ := Option.bind_eq_some_iff.mp ended
  obtain ⟨result, finished, facts⟩ := Option.map_eq_some_iff.mp ended
  obtain ⟨other, failed⟩ := Prod.mk.inj facts
  cases result with
  | ok response => cases failed
  | error failure =>
    exact ⟨s, middle, s', thread, failure, reachable, step, differs, leads, present, finished,
      refusals_change_nothing reachable step differs leads present other finished⟩

end BankA
