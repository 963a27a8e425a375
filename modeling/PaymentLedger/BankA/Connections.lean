import PaymentLedger.BankA.Atomicity
import PaymentLedger.BankA.Deadlock
import PaymentLedger.Shared.Progress

set_option autoImplicit false

-- Every service asks the pool before its transaction or after it. So no call that has a
-- connection waits for one, and transfers go on over a single connection.

namespace BankA

open Transactional Prog

theorem thrifty_first {α β : Type} {first : Program α} {f : α → Program β} (looks : Looks first)
    (rest : ∀ value, (f value).Thrifty) : (first.bind f).Thrifty := thrifty_look looks rest

theorem thrifty_execute (id : Uuid) (key : String) (params : TransfersService.TransferParams) :
    (TransfersService.execute id key params).Thrifty := by
  have replays (existing : TransferRecord) (transfer : Transfer) :
      (TransfersService.replay existing transfer).Thrifty := by
    unfold TransfersService.replay
    split <;> rfl
  refine thrifty_first issues_ofExcept fun transfer => thrifty_first (looks_findByKey key) ?_
  rintro (_ | existing)
  · refine thrifty_bind
      (thrifty_protect (closes_inner (inner_lockAccounts transfer) fun _ => ?_)) ?_
    · refine closes_inner (inner_insert transfer key) ?_
      rintro (_ | record)
      · exact closes_return closes_rollback
      · refine closes_inner (inner_balanceOf _) fun _ => closes_inner issues_ofExcept fun _ => ?_
        exact closes_inner (inner_append _) fun _ => closes_return closes_commit
    · rintro (_ | record)
      · refine thrifty_first (looks_findByKey key) ?_
        rintro (_ | winner)
        · rfl
        · exact replays winner transfer
      · rfl
  · exact replays existing transfer

theorem thrifty_interbankExecute (bankId : String) (draws : InterbankTransfersService.Draws)
    (key : String) (params : InterbankTransfersService.InterbankTransferParams) :
    (InterbankTransfersService.execute bankId draws key params).Thrifty := by
  refine thrifty_first issues_ofExcept fun transfer => thrifty_first (looks_findByKey key) ?_
  rintro (_ | existing)
  · refine thrifty_bind (thrifty_protect (closes_inner issues_client ?_)) ?_
    · rintro (_ | _)
      · exact closes_raise _
      · refine closes_inner (inner_insert transfer key) ?_
        rintro (_ | record)
        · exact closes_return closes_rollback
        · refine closes_inner (inner_balanceOf _) fun _ => closes_inner issues_ofExcept fun _ => ?_
          refine closes_inner (inner_append _) fun _ => ?_
          refine closes_inner (issues_bind issues_client fun _ => trivial) fun _ => ?_
          exact closes_inner issues_client fun _ => closes_return closes_commit
    · rintro (_ | result)
      · refine thrifty_first (looks_findByKey key) ?_
        rintro (_ | winner)
        · rfl
        · exact thrifty_looks (looks_interbankReplay winner transfer _ _)
      · rfl
  · exact thrifty_looks (looks_interbankReplay existing transfer _ _)

theorem thrifty_handle (reversalId : Uuid) (now : Int)
    (event : InterbankReplyService.SettlementOutcomeEvent) :
    (InterbankReplyService.handle reversalId now event).Thrifty := by
  have compensates (transferId : String) :
      (InterbankReplyService.compensate reversalId now transferId).Thrifty := by
    refine thrifty_first (looks_findTransfer transferId) ?_
    rintro (_ | original)
    · rfl
    · refine thrifty_first issues_ofExcept fun reversal =>
        thrifty_protect (closes_inner (inner_insert _ _) ?_)
      have finish : ((InterbankTransferRepository.markCompensated transferId now .client).bind
          fun _ =>
          (BankA.perform .commit : Program Unit)).Closes := closes_inner issues_client fun _ =>
            closes_commit
      rintro (_ | record)
      · exact finish
      · exact closes_inner (inner_append _) fun _ => finish
  refine thrifty_first (looks_findInterbank _) fun interbank => ?_
  split
  · split
    · rfl
    · split
      · exact thrifty_pool
      · exact thrifty_first issues_check fun _ => compensates _
  · rfl

theorem thrifty_devSeed (transferId : Uuid) (accountId : String) (amount : Money) :
    (AccountsService.devSeed transferId accountId amount).Thrifty := by
  refine thrifty_first (looks_getAccount accountId) fun _ => thrifty_bind (thrifty_protect ?_) ?_
  · exact closes_inner issues_client fun _ => closes_inner issues_client fun _ => closes_commit
  · exact fun _ => thrifty_looks (looks_getBalance accountId)

theorem thrifty_program (bankId : String) (call : Call) : (program bankId call).Thrifty := by
  have returned {α : Type} {body : Program α} {f : α → Response} (thrifty : body.Thrifty) :
      (body.bind fun value => pure (f value)).Thrifty := thrifty_bind thrifty fun _ => rfl
  cases call with
  | createAccount id ownerName => exact returned (thrifty_first issues_check fun _ => thrifty_pool)
  | devSeed transferId id amountCents =>
    refine returned (thrifty_first issues_check fun _ =>
      thrifty_first issues_ofExcept fun amount => ?_)
    exact thrifty_devSeed transferId id amount
  | transfer id idempotencyKey body =>
    refine returned (thrifty_first issues_check fun _ =>
      thrifty_first issues_requireKey fun key => ?_)
    exact thrifty_first issues_ofExcept fun amount => thrifty_execute id key _
  | interbankTransfer draws idempotencyKey body =>
    refine returned (thrifty_first issues_check fun _ =>
      thrifty_first issues_requireKey fun key => ?_)
    exact thrifty_first issues_ofExcept fun amount => thrifty_interbankExecute bankId draws key _
  | outcome reversalId now event =>
    exact thrifty_bind (thrifty_handle reversalId now event) fun _ => rfl
  | reconcile reversalId now transferId response =>
    refine returned ?_
    unfold ReconciliationService.reconcileOne
    have handles (event : InterbankReplyService.SettlementOutcomeEvent) :
        ((InterbankReplyService.handle reversalId now event).bind fun _ =>
          (pure true : Program Bool)).Thrifty :=
      thrifty_bind (thrifty_handle reversalId now event) fun _ => rfl
    split
    · rfl
    · split
      · exact handles _
      · split
        · split
          · rfl
          · simp only
            split
            · rfl
            · exact thrifty_first issues_check fun _ => handles _
        · rfl
  | relayTick => exact returned works.thrifty

/-- Over any number of connections but none, whatever transfers are in progress and whatever has
failed: every call that has not ended takes its next operation, once others have taken finitely
many of theirs and it has been given the connection that it lacks. -/
theorem transfers_proceed {bankId : String} {db : Database} {size : ℕ}
    {checkout : Checkout (service bankId)} (positive : 0 < size)
    (reachable : Checkout.Reachable size (transferRuns bankId db) checkout) {index : ℕ}
    {thread : Thread (service bankId)} (present : checkout.system.threads[index]? = some thread)
    (unfinished : thread.result = none) :
    ∃ later, Relation.ReflTransGen (Checkout.Meanwhile size index) checkout later ∧
      ∃ checkout', later.step size (.run index .none) = some checkout' := by
  have courteous : Checkout.Courteous lockPolicy (transferRuns bankId db) :=
    { thrifty := fun call _ => thrifty_program bankId call
      obeyed := fun call plain => ordered_program bankId plain
      always := fun _ _ => trivial }
  exact Checkout.proceeds courteous positive reachable present unfinished

/-- Alice's transfer is in a transaction, on the only connection, when another comes to its own. -/
def crowd : List (Checkout.Action (service "bank-a")) :=
  [.start (payment (sampleId 3) 400), .start (debit (sampleId 4) 300), .acquire 0, .run 0 .none,
    .acquire 1, .run 1 .none,
   .acquire 0, .run 0 .none]

theorem crowd_plain {call : Call} (member : .start call ∈ crowd) : call.Plain := by
  have alice : CustomerText (sampleId 0).text := ⟨_, ⟨by decide, by decide⟩, rfl⟩
  have bob : CustomerText (sampleId 1).text := ⟨_, ⟨by decide, by decide⟩, rfl⟩
  simp only [crowd, List.mem_cons, reduceCtorEq, List.not_mem_nil, or_false] at member
  rcases member with same | same
  · cases same
    exact ⟨alice, bob⟩
  · cases same
    exact alice

theorem transfers_proceed_crowded : ∃ checkout thread lent,
    Checkout.Reachable 1 (transferRuns "bank-a" contended) checkout ∧ checkout.inUse = 1 ∧
    checkout.system.threads[1]? = some thread ∧ thread.lacks (checkout.lent 1) = some lent ∧
    ∃ later, Relation.ReflTransGen (Checkout.Meanwhile 1 1) checkout later ∧
      ∃ checkout', later.step 1 (.run 1 .none) = some checkout' := by
  have evaluated : (Checkout.run 1 { system := { db := (transferRuns "bank-a" contended).initial } }
      crowd).map (fun checkout => (checkout.inUse, checkout.system.threads[1]?.map fun thread =>
        ((thread.lacks (checkout.lent 1)).isSome, thread.result.isNone))) =
          some (1, some (true, true)) := by
    decide +kernel
  obtain ⟨checkout, ran, observed⟩ := Option.map_eq_some_iff.mp evaluated
  obtain ⟨full, observed⟩ := Prod.mk.inj observed
  obtain ⟨thread, present, observed⟩ := Option.map_eq_some_iff.mp observed
  obtain ⟨lacks, unfinished⟩ := Prod.mk.inj observed
  obtain ⟨lent, lacks⟩ := Option.isSome_iff_exists.mp lacks
  have reachable : Checkout.Reachable 1 (transferRuns "bank-a" contended) checkout :=
    .of_run .init (fun call member => crowd_plain member) ran
  exact ⟨checkout, thread, lent, reachable, full, present, lacks,
    transfers_proceed Nat.one_pos reachable present (Option.isNone_iff_eq_none.mp unfinished)⟩

end BankA
