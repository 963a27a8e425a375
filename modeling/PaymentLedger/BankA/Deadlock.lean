import PaymentLedger.BankA.Retries
import PaymentLedger.BankA.Saga
import PaymentLedger.Shared.Deadlock
import Mathlib.Data.Prod.Lex

set_option autoImplicit false

-- Payers' and payees' rows are locked in the order of their ids, then a key is inserted, then
-- the rows that belong to the new transfer. The suspense row is only ever shared.

namespace BankA

open Transactional Postgres

/-- Accounts before keys, keys before the rows of one transfer. -/
def lockPolicy : Policy Resource where
  Rank := ℕ ×ₗ String
  rank
    | .account id => toLex (0, id.text)
    | .idempotencyKey _ => toLex (1, "")
    | .transfer _ => toLex (2, "")
    | .interbankTransfer _ => toLex (3, "")
    | .outboxEvent _ => toLex (4, "")
  spared resource := resource = .account SUSPENSE_ACCOUNT_ID

section Statements

variable {db : Database}

theorem lockAccount_locks {id : Uuid} {effect : Reply Bool}
    (ran : lockAccount id.text db = .ok effect) :
    effect.locks = if effect.answer then [exclusive (.account id)] else [] := by
  simp only [lockAccount, bind_eq_ok, uuid_eq_ok, Uuid.parse_text, Option.some.injEq] at ran
  obtain ⟨_, rfl, same⟩ := ran
  split at same <;> obtain rfl := Except.ok.inj same <;> rfl

theorem insertTransfer_locks {new : NewTransfer} {effect : Reply (Option TransferRow)}
    (ran : insertTransfer new db = .ok effect) :
    effect.locks = (effect.answer.map TransferRow.locks).getD [] := by
  simp only [insertTransfer, bind_eq_ok] at ran
  obtain ⟨row, -, ran⟩ := ran
  split at ran
  · obtain rfl := Except.ok.inj ran
    rfl
  · simp only [bind_eq_ok] at ran
    obtain ⟨_, -, _, -, same⟩ := ran
    obtain rfl := Except.ok.inj same
    rfl

theorem TransferRow.mem_locks {row : TransferRow} {lock : Lock Resource} :
    lock ∈ row.locks ↔ lock = exclusive (.idempotencyKey row.idempotencyKey) ∨
      lock = exclusive (.transfer row.id) ∨
      lock = keyShare row.payerAccountId ∨ lock = keyShare row.payeeAccountId := by
  simp [TransferRow.locks]

theorem insertEntry_locks {entry : LedgerEntry} {effect : Reply Unit}
    (ran : insertEntry entry db = .ok effect) :
    ∃ account, Uuid.parse entry.accountId = some account ∧ effect.locks = [keyShare account] := by
  simp only [insertEntry, bind_eq_ok, require_eq_ok] at ran
  obtain ⟨row, read, _, -, same⟩ := ran
  obtain rfl := Except.ok.inj same
  exact ⟨row.accountId, (LedgerEntry.row_ok read).accountId, rfl⟩

theorem selectTransferByKey_locks {key : String} {effect : Reply (Option TransferRow)}
    (ran : selectTransferByKey key db = .ok effect) : effect.locks = [] := by
  simp only [selectTransferByKey, bind_eq_ok] at ran
  obtain ⟨_, -, same⟩ := ran
  obtain rfl := Except.ok.inj same
  rfl

theorem selectInterbankTransfer_locks {transferId : Option String} {busy : List (Lock Resource)}
    {effect : Reply (Option InterbankTransferRow)}
    (ran : execute (.selectInterbankTransfer transferId) db busy = .ok effect) :
    effect.locks = [] := by
  cases transferId with
  | none =>
    obtain rfl := Except.ok.inj ran
    rfl
  | some text =>
    simp only [execute, selectInterbankTransfer, bind_eq_ok] at ran
    obtain ⟨_, -, same⟩ := ran
    obtain rfl := Except.ok.inj same
    rfl

end Statements

def CustomerText (text : String) : Prop := ∃ account, Customer account ∧ text = account.text

def Call.Plain : Call → Prop
  | .transfer _ _ body => CustomerText body.payerAccountId ∧ CustomerText body.payeeAccountId
  | .interbankTransfer _ _ body => CustomerText body.payerAccountId
  | _ => False

/-- Transfers of both kinds, over any database. -/
def transferRuns (bankId : String) (db : Database) : Scope (service bankId) where
  initial := db
  starts := Call.Plain

section Bodies

variable {α : Type} {locks : List (Lock Resource)} {held : Option (List (Lock Resource))}

def Below (level : ℕ) (locks : List (Lock Resource)) : Prop :=
  ∀ lock ∈ locks, lockPolicy.rank lock.resource < toLex (level, "")

/-- The account may be shared: its row is locked, or never is. -/
def Covered (locks : List (Lock Resource)) (text : String) : Prop :=
  ∀ id, Uuid.parse text = some id → lockPolicy.Fits locks (keyShare id)

/-- After its body a transaction is over, unless an error still has to end it. -/
def Released (result : Except Failure α) (held : Option (List (Lock Resource))) : Prop :=
  ∀ value, result = .ok value → held = none

def Idle (_ : Except Failure α) (held : Option (List (Lock Resource))) : Prop := held = none

theorem released_error (error : Failure) : Released (.error error : Except Failure α) held := by
  intro value same
  cases same

theorem ordered_rollbackOnError {body : Program α}
    (ordered : body.Ordered lockPolicy Released held) :
    (rollbackOnError body).Ordered lockPolicy Idle held := by
  refine Prog.ordered_tryCatch ordered (fun value _ released => released value rfl)
    fun error _ _ => ?_
  exact Prog.ordered_rollback (fun _ => rfl) rfl

theorem ordered_select {key : String} {f : Option TransferRecord → Program α}
    (rest : ∀ record, (f record).Ordered lockPolicy Idle none) :
    ((TransferRepository.findByIdempotencyKey key).bind f).Ordered lockPolicy Idle none := by
  simp only [TransferRepository.findByIdempotencyKey, Prog.bind_eq, Prog.bind_assoc]
  refine Prog.ordered_read (fun _ _ _ ran => selectTransferByKey_locks (exec_eq_ok.mp ran))
    (fun _ => rfl) fun row => ?_
  cases row with
  | none => exact rest none
  | some row =>
    simp only [optionalRecord, fromDomain, Prog.ofExcept, Prog.bind_eq, Prog.bind_assoc]
    cases row.toRecord with
    | error error => rfl
    | ok record => exact rest (some record)

theorem Below.mono {level higher : ℕ} (below : Below level locks)
    (le : level ≤ higher) : Below higher locks := by
  intro lock member
  exact (below lock member).trans_le (Prod.Lex.toLex_mono ⟨le, le_rfl⟩)

theorem below_account (id : Uuid) {level : ℕ} (positive : 0 < level) :
    lockPolicy.rank (.account id) < toLex (level, "") := Prod.Lex.toLex_lt_toLex.mpr (.inl positive)

/-- The accounts that these texts denote are locked, and nothing that comes after accounts. -/
structure Secured (texts : List String) (locks : List (Lock Resource)) : Prop where
  each : ∀ text ∈ texts, ∀ id, Uuid.parse text = some id → exclusive (.account id) ∈ locks
  below : Below 1 locks

theorem Secured.covered {texts : List String} {text : String} (locked : Secured texts locks)
    (member : text ∈ texts) :
    Covered locks text := fun id parsed => .inl (locked.each text member id parsed)

theorem ordered_lockById {text : String} {account : Uuid} {f : Bool → Program α}
    {Q : Except Failure α → Option (List (Lock Resource)) → Prop} (customer : Customer account)
    (canonical : text = account.text)
    (below : ∀ lock ∈ locks, lockPolicy.rank lock.resource < toLex (0, text))
    (raise : ∀ error, Q (.error error) (some locks))
    (rest : ∀ found, (f found).Ordered lockPolicy Q
      (some (locks ++ if found then [exclusive (.account account)] else []))) :
    ((AccountRepository.lockById text).bind f).Ordered lockPolicy Q (some locks) := by
  subst canonical
  refine Prog.ordered_client raise fun db busy effect ran => ?_
  refine ⟨_, lockAccount_locks (exec_eq_ok.mp ran), ?_, rest effect.answer⟩
  intro lock member
  split at member
  · obtain rfl := List.mem_singleton.mp member
    refine ⟨fun spared => customer.1 ?_, below⟩
    injection spared
  · cases member

/-- A sorted list of accounts is locked in order; the induction carries that everything held
ranks below what is still to come. -/
theorem ordered_lockEach {texts : List String} {f : Unit → Program α}
    (sorted : texts.Pairwise (· < ·)) (canonical : ∀ text ∈ texts, CustomerText text)
    (below : Below 1 locks)
    (before : ∀ lock ∈ locks, ∀ text ∈ texts, lockPolicy.rank lock.resource < toLex (0, text))
    (rest : ∀ more, locks ⊆ more → Secured texts more →
      (f ()).Ordered lockPolicy Released (some more)) :
    ((Prog.forEach texts fun text => do
      let found ← AccountRepository.lockById text
      if found then return () else fail (.domain (.accountNotFound text)) : Program Unit).bind
      f).Ordered lockPolicy Released
        (some locks) := by
  induction texts generalizing locks with
  | nil => exact rest locks (List.Subset.refl _) ⟨by simp, below⟩
  | cons text texts ih =>
    obtain ⟨first, others⟩ := List.pairwise_cons.mp sorted
    obtain ⟨⟨account, customer, rfl⟩, canonicals⟩ := List.forall_mem_cons.mp canonical
    simp only [Prog.forEach, Prog.bind_eq, Prog.bind_assoc]
    refine ordered_lockById customer rfl
      (fun lock member => before lock member _ List.mem_cons_self)
      (fun error => released_error error) fun found => ?_
    cases found with
    | false => exact released_error _
    | true =>
      refine ih others canonicals ?_ ?_ ?_
      · intro lock member
        rcases List.mem_append.mp member with old | new
        · exact below lock old
        · obtain rfl := List.mem_singleton.mp new
          exact below_account account Nat.one_pos
      · intro lock member later next
        rcases List.mem_append.mp member with old | new
        · exact before lock old later (List.mem_cons_of_mem _ next)
        · obtain rfl := List.mem_singleton.mp new
          exact Prod.Lex.toLex_lt_toLex.mpr (.inr ⟨rfl, first later next⟩)
      · intro more kept locked
        refine rest more (fun lock member => kept (List.mem_append_left _ member))
          ⟨?_, locked.below⟩
        intro text' member id parsed
        rcases List.mem_cons.mp member with rfl | later
        · rw [Uuid.parse_text] at parsed
          obtain rfl := Option.some.inj parsed
          exact kept (List.mem_append_right _ (List.mem_singleton.mpr rfl))
        · exact locked.each text' later id parsed

theorem Covered.mono {text : String} {more : List (Lock Resource)} (covered : Covered locks text)
    (kept : locks ⊆ more) :
    Covered more text := fun id parsed => (covered id parsed).imp_left fun member => kept member

theorem below_nil (level : ℕ) : Below level [] := by
  intro lock member
  cases member

theorem Below.append {level : ℕ} {new : List (Lock Resource)} (below : Below level locks)
    (more : Below level new) :
    Below level (locks ++ new) := by
  intro lock member
  exact (List.mem_append.mp member).elim (below lock) (more lock)

theorem covered_suspense (locks : List (Lock Resource)) :
    Covered locks SUSPENSE_ACCOUNT_ID.text := by
  intro id parsed
  rw [Uuid.parse_text] at parsed
  exact .inr (congrArg Resource.account (Option.some.inj parsed).symm)

theorem ordered_insert {f : Option TransferRecord → Program α} {transfer : Transfer} {key : String}
    (payer : Covered locks transfer.payerAccountId) (payee : Covered locks transfer.payeeAccountId)
    (below : Below 1 locks) (taken : (f none).Ordered lockPolicy Released (some locks))
    (inserted : ∀ record more, locks ⊆ more → Below 3 more →
      (f (some record)).Ordered lockPolicy Released (some more)) :
    ((TransferRepository.insert transfer key).bind f).Ordered lockPolicy Released (some locks) := by
  simp only [TransferRepository.insert, Prog.bind_eq, Prog.bind_assoc]
  refine Prog.ordered_client (fun error => released_error error) fun db busy effect ran => ?_
  have ran := exec_eq_ok.mp ran
  have locks_ := insertTransfer_locks ran
  rcases insertTransfer_ok ran with ⟨answer, -, -⟩ | ⟨row, answer, denotes, -, -, rowLocks⟩
  · rw [answer] at locks_ ⊢
    exact ⟨[], locks_, by simp, (List.append_nil locks).symm ▸ taken⟩
  · rw [answer]
    have ranks : Below 3 row.locks := by
      intro lock member
      rcases TransferRow.mem_locks.mp member with rfl | rfl | rfl | rfl
      · exact Prod.Lex.toLex_lt_toLex.mpr (.inl (by decide))
      · exact Prod.Lex.toLex_lt_toLex.mpr (.inl (by decide))
      · exact below_account _ (by decide)
      · exact below_account _ (by decide)
    refine ⟨row.locks, rowLocks, ?_, ?_⟩
    · intro lock member
      rcases TransferRow.mem_locks.mp member with rfl | rfl | rfl | rfl
      · exact ⟨(by simp [lockPolicy]), below⟩
      · exact ⟨(by simp [lockPolicy]), below.mono (by decide)⟩
      · exact payer _ denotes.payer
      · exact payee _ denotes.payee
    · simp only [optionalRecord, fromDomain, Prog.ofExcept, Prog.bind_eq, Prog.bind_assoc]
      cases row.toRecord with
      | error error => exact released_error _
      | ok record => exact inserted record _ (List.subset_append_left _ _) ((below.mono (by decide)).append ranks)

theorem ordered_balance {f : Money → Program α} {accountId : String}
    (rest : ∀ balance, (f balance).Ordered lockPolicy Released (some locks)) :
    ((LedgerRepository.balanceOf accountId .client).bind f).Ordered lockPolicy Released
      (some locks) := by
  simp only [LedgerRepository.balanceOf, Prog.bind_eq, Prog.bind_assoc]
  refine Prog.ordered_free (fun _ _ _ ran => (sumEntries_ok (exec_eq_ok.mp ran)).2.1)
    (fun error => released_error error) fun total => ?_
  simp only [fromDomain, Prog.ofExcept]
  cases Money.fromCents (.ofInt total) with
  | error error => exact released_error _
  | ok balance => exact rest balance

theorem ordered_append {f : Unit → Program α} {entries : List LedgerEntry}
    (covered : ∀ entry ∈ entries, Covered locks entry.accountId) (below : Below 3 locks)
    (rest : ∀ more, Below 3 more → (f ()).Ordered lockPolicy Released (some more)) :
    ((LedgerRepository.append entries).bind f).Ordered lockPolicy Released (some locks) := by
  unfold LedgerRepository.append
  induction entries generalizing locks with
  | nil => exact rest locks below
  | cons entry entries ih =>
    obtain ⟨first, others⟩ := List.forall_mem_cons.mp covered
    simp only [Prog.forEach, Prog.bind_assoc]
    refine Prog.ordered_client (fun error => released_error error) fun db busy effect ran => ?_
    obtain ⟨account, parsed, shared⟩ := insertEntry_locks (exec_eq_ok.mp ran)
    refine ⟨_, shared, ?_, ?_⟩
    · intro lock member
      obtain rfl := List.mem_singleton.mp member
      exact first account parsed
    · refine ih (fun entry member => (others entry member).mono (List.subset_append_left _ _))
        (below.append ?_)
      intro lock member
      obtain rfl := List.mem_singleton.mp member
      exact below_account account (by decide)

/-- What both services do once the payer is locked: the transfer, the balance, the entries. -/
theorem ordered_pay {f : TransferRecord → Program (Option α)} {transfer : Transfer} {key : String}
    (payer : Covered locks transfer.payerAccountId) (payee : Covered locks transfer.payeeAccountId)
    (below : Below 1 locks)
    (rest : ∀ record more, Below 3 more → (f record).Ordered lockPolicy Released (some more)) :
    (do
      let record ← TransferRepository.insert transfer key
      match record with
      | some record =>
        let balance ← LedgerRepository.balanceOf transfer.payerAccountId .client
        fromDomain (transfer.assertPayerCanAfford balance)
        LedgerRepository.append transfer.entries
        f record
      | none =>
        perform .rollback
        return none : Program (Option α)).Ordered lockPolicy Released (some locks) := by
  refine ordered_insert payer payee below ?_ fun record more kept below => ?_
  · exact Prog.ordered_rollback (fun error => released_error error) fun _ _ => rfl
  · refine ordered_balance fun balance => ?_
    simp only [fromDomain, Prog.ofExcept]
    cases transfer.assertPayerCanAfford balance with
    | error error => exact released_error _
    | ok afforded =>
      refine ordered_append ?_ below fun all below => rest record all below
      intro entry member
      simp only [Transfer.entries, List.mem_cons, List.not_mem_nil, or_false] at member
      rcases member with rfl | rfl
      · exact payer.mono kept
      · exact payee.mono kept

theorem ordered_lockAccounts {f : Unit → Program α} {transfer : Transfer}
    (payer : CustomerText transfer.payerAccountId) (payee : CustomerText transfer.payeeAccountId)
    (rest : ∀ more, Secured [transfer.payerAccountId, transfer.payeeAccountId] more →
      (f ()).Ordered lockPolicy Released (some more)) :
    ((TransfersService.lockAccounts transfer).bind f).Ordered lockPolicy Released (some []) := by
  have nothing {texts : List String} : ∀ lock ∈ ([] : List (Lock Resource)), ∀ text ∈ texts,
      lockPolicy.rank lock.resource < toLex (0, text) := by simp
  unfold TransfersService.lockAccounts
  by_cases after : transfer.payeeAccountId < transfer.payerAccountId
  · simp only [if_pos after]
    refine ordered_lockEach (by simpa using after) ?_ (below_nil 1) nothing fun more _ locked =>
      rest more ?_
    · simp [payer, payee]
    · exact ⟨fun text member => locked.each text (by simpa [or_comm] using member), locked.below⟩
  · have before := lt_of_le_of_ne (not_lt.mp after) transfer.distinct
    simp only [if_neg after]
    refine ordered_lockEach (by simpa using before) ?_ (below_nil 1) nothing fun more _ locked =>
      rest more locked
    simp [payer, payee]

end Bodies

section Services

theorem ordered_execute (id : Uuid) (key : String) {params : TransfersService.TransferParams}
    (payer : CustomerText params.payerAccountId) (payee : CustomerText params.payeeAccountId) :
    (TransfersService.execute id key params).Ordered lockPolicy Idle none := by
  have replayed (existing : TransferRecord) (attempted : Transfer) :
      (TransfersService.replay existing attempted).Ordered lockPolicy Idle none := by
    unfold TransfersService.replay
    split <;> rfl
  simp only [TransfersService.execute, fromDomain, Prog.ofExcept, Prog.bind_eq]
  cases created : Transfer.create id.text params.payerAccountId params.payeeAccountId params.amount with
  | error error => rfl
  | ok transfer =>
    obtain ⟨-, samePayer, samePayee, -⟩ := Transfer.create_ok created
    rw [← samePayer] at payer
    rw [← samePayee] at payee
    refine ordered_select fun existing => ?_
    cases existing with
    | some existing => exact replayed existing transfer
    | none =>
      refine Prog.ordered_bind (R := Idle) (ordered_rollbackOnError ?_) ?_ fun _ _ idle => idle
      · refine Prog.ordered_begin (fun error => released_error error) ?_
        refine ordered_lockAccounts payer payee fun locks secured => ?_
        refine ordered_pay (secured.covered (by simp)) (secured.covered (by simp)) secured.below
          fun record more _ => ?_
        exact Prog.ordered_commit (fun error => released_error error) fun _ _ => rfl
      · rintro (_ | record) held rfl
        · refine ordered_select fun winner => ?_
          cases winner with
          | none => rfl
          | some winner => exact replayed winner transfer
        · rfl

theorem ordered_replay (existing : TransferRecord) (attempted : Transfer) (bank ref : String) :
    (InterbankTransfersService.replay existing attempted bank ref).Ordered lockPolicy Idle
      none := by
  unfold InterbankTransfersService.replay
  split
  · simp only [InterbankTransferRepository.findById, Prog.bind_eq, Prog.bind_assoc]
    refine Prog.ordered_read (fun _ _ _ ran => selectInterbankTransfer_locks (exec_eq_ok.mp ran))
      (fun _ => rfl)
      fun row => ?_
    cases row with
    | none => rfl
    | some row =>
      simp only [Option.map_some, Prog.pure_eq, Prog.done_bind]
      split <;> rfl
  · rfl

theorem ordered_request {α : Type} {transferId bank ref eventType routingKey : String} {now : Int}
    {eventId : Nat} {payload : Json.Object} {f : InterbankTransferRecord → α}
    {locks : List (Lock Resource)} (below : Below 3 locks) :
    (do
      let interbank ← InterbankTransferRepository.insert transferId bank ref now
      sql .client (.insertEvent eventId transferId eventType routingKey payload)
      perform .commit
      return f interbank : Program α).Ordered lockPolicy Released (some locks) := by
  simp only [InterbankTransferRepository.insert, Prog.bind_eq, Prog.bind_assoc]
  refine Prog.ordered_client (fun error => released_error error) fun db busy effect ran => ?_
  obtain ⟨id, -, -, -, first⟩ := insertInterbankTransfer_ok (exec_eq_ok.mp ran)
  have ranked : Below 4 [exclusive (.interbankTransfer id)] := by
    intro lock member
    obtain rfl := List.mem_singleton.mp member
    exact Prod.Lex.toLex_lt_toLex.mpr (.inl (by decide))
  refine ⟨_, first, ?_, ?_⟩
  · intro lock member
    obtain rfl := List.mem_singleton.mp member
    exact ⟨(by simp [lockPolicy]), below⟩
  simp only [Prog.pure_eq, Prog.done_bind]
  refine Prog.ordered_client (fun error => released_error error) fun db busy effect ran => ?_
  obtain ⟨_, -, -, -, second⟩ := insertEvent_ok (exec_eq_ok.mp ran)
  refine ⟨_, second, ?_, ?_⟩
  · intro lock member
    obtain rfl := List.mem_singleton.mp member
    exact ⟨(by simp [lockPolicy]), (below.mono (by decide)).append ranked⟩
  · exact Prog.ordered_commit (fun error => released_error error) fun _ _ => rfl

theorem ordered_interbankExecute (bankId : String) (draws : InterbankTransfersService.Draws)
    (key : String) {params : InterbankTransfersService.InterbankTransferParams}
    (payer : CustomerText params.payerAccountId) :
    (InterbankTransfersService.execute bankId draws key params).Ordered lockPolicy Idle none := by
  simp only [InterbankTransfersService.execute, fromDomain, Prog.ofExcept, Prog.bind_eq]
  cases created : Transfer.create draws.id.text params.payerAccountId SUSPENSE_ACCOUNT_ID.text params.amount with
  | error error => rfl
  | ok transfer =>
    obtain ⟨-, samePayer, samePayee, -⟩ := Transfer.create_ok created
    rw [← samePayer] at payer
    have payee {locks : List (Lock Resource)} : Covered locks transfer.payeeAccountId :=
      samePayee ▸ covered_suspense locks
    obtain ⟨account, customer, text⟩ := payer
    refine ordered_select fun existing => ?_
    cases existing with
    | some existing => exact ordered_replay existing transfer _ _
    | none =>
      refine Prog.ordered_bind (R := Idle) (ordered_rollbackOnError ?_) ?_ fun _ _ idle => idle
      · refine Prog.ordered_begin (fun error => released_error error) ?_
        refine ordered_lockById customer text (List.forall_mem_nil _)
          (fun error => released_error error) fun found => ?_
        cases found with
        | false => exact released_error _
        | true =>
          have locked : Secured [transfer.payerAccountId] [exclusive (.account account)] := by
            constructor
            · intro text' member id parsed
              obtain rfl := List.mem_singleton.mp member
              rw [text, Uuid.parse_text] at parsed
              obtain rfl := Option.some.inj parsed
              exact List.mem_cons_self
            · intro lock member
              obtain rfl := List.mem_singleton.mp member
              exact below_account account Nat.one_pos
          refine ordered_pay (locked.covered (by simp)) payee locked.below
            fun record more below => ?_
          exact ordered_request below
      · rintro (_ | record) held rfl
        · refine ordered_select fun winner => ?_
          cases winner with
          | none => rfl
          | some winner => exact ordered_replay winner transfer _ _
        · rfl

theorem ordered_program (bankId : String) {call : Call} (plain : call.Plain) :
    (program bankId call).Ordered lockPolicy Idle none := by
  have returned {α : Type} {body : Program α} {f : α → Response}
      (ordered : body.Ordered lockPolicy Idle none) :
      (body.bind fun value => pure (f value)).Ordered lockPolicy Idle none := by
    refine Prog.ordered_bind ordered ?_ fun _ _ idle => idle
    rintro value held rfl
    rfl
  cases call with
  | transfer id idempotencyKey body =>
    rw [program_transfer]
    rcases guarded_cases with ⟨error, refused⟩ | ⟨key, money, passes⟩
    · rw [refused]
      rfl
    · rw [guarded_passes passes]
      exact returned (ordered_execute id key plain.1 plain.2)
  | interbankTransfer draws idempotencyKey body =>
    rw [program_interbankTransfer]
    rcases guarded_cases with ⟨error, refused⟩ | ⟨key, money, passes⟩
    · rw [refused]
      rfl
    · rw [guarded_passes passes]
      exact returned (ordered_interbankExecute bankId draws key plain)
  | _ => exact plain.elim

end Services

/-- Whatever transfers are in progress and whatever has failed: nobody waits for itself, every
chain of waits ends at a call that takes its next statement, and every call that has not ended
takes its own after finitely many statements of others. -/
theorem transfers_never_deadlock {bankId : String} {db : Database} {s : System (service bankId)}
    (reachable : Reachable (transferRuns bankId db) s) :
    (∀ i, ¬ Relation.TransGen s.Waits i i) ∧
    (∀ i j, s.Waits i j → ∃ k, Relation.TransGen s.Waits i k ∧
      ∃ s', s.step (.run k .none) = some s') ∧
    (∀ i thread, s.threads[i]? = some thread → thread.result = none →
      ∃ later, Relation.ReflTransGen (System.Elsewhere i) s later ∧
      ∃ s', later.step (.run i .none) = some s') := by
  have orderly : s.Orderly lockPolicy :=
    reachable.orderly fun call plain => ordered_program bankId plain
  exact ⟨orderly.acyclic, fun _ _ => orderly.ends, fun _ _ => orderly.proceeds⟩

def contended : Database where
  accounts := [⟨SUSPENSE_ACCOUNT_ID, "suspense"⟩, ⟨sampleId 0, "alice"⟩, ⟨sampleId 1, "bob"⟩]

def contention : List (Action (service "bank-a")) :=
  [.start (payment (sampleId 3) 400), .start (debit (sampleId 4) 300)] ++ runs 0 4 ++ runs 1 2

theorem contention_plain : ∀ call ∈ calls contention, Call.Plain call := by
  intro call listed
  have listed : call ∈ ([payment (sampleId 3) 400, debit (sampleId 4) 300] : List Call) := listed
  have alice : CustomerText (sampleId 0).text := ⟨_, ⟨by decide, by decide⟩, rfl⟩
  have bob : CustomerText (sampleId 1).text := ⟨_, ⟨by decide, by decide⟩, rfl⟩
  rcases List.mem_pair.mp listed with rfl | rfl
  · exact ⟨alice, bob⟩
  · exact alice

theorem transfers_never_deadlock_contended : ∃ s j, Reachable (transferRuns "bank-a" contended) s ∧
    s.Waits 1 j ∧
    (¬ Relation.TransGen s.Waits 1 1) ∧ ∃ k, Relation.TransGen s.Waits 1 k ∧
      ∃ s', s.step (.run k .none) = some s' := by
  have evaluated : (System.run { db := (transferRuns "bank-a" contended).initial } contention).map
      (fun s => ((s.step (.run 1 .none)).isNone,
        s.threads[1]?.map fun thread => thread.result.isNone)) =
        some (true, some true) := by
    decide +kernel
  obtain ⟨s, reachable, observed, -⟩ :=
    @Reachable.of_evaluation _ (transferRuns "bank-a" contended) _ _ _ _ _ evaluated
    contention_plain fun _ _ _ => trivial
  obtain ⟨blocked, unfinished⟩ := Prod.mk.inj observed
  obtain ⟨thread, present, unfinished⟩ := Option.map_eq_some_iff.mp unfinished
  have orderly : s.Orderly lockPolicy :=
    reachable.orderly fun call plain => ordered_program "bank-a" plain
  obtain ⟨j, wait⟩ :=
    (orderly.runs_or_waits present (Option.isNone_iff_eq_none.mp unfinished)).resolve_left (by
    rintro ⟨s', step⟩
    rw [step] at blocked
    cases blocked)
  obtain ⟨acyclic, ends, -⟩ := transfers_never_deadlock reachable
  exact ⟨s, j, reachable, wait, acyclic 1, ends 1 j wait⟩

end BankA
