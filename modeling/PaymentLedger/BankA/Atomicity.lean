import PaymentLedger.BankA.Solvency
import PaymentLedger.Shared.Relay
import PaymentLedger.Shared.Ticks

set_option autoImplicit false

namespace BankA

open Transactional Prog

section Pieces

def Sql.reads : Sql → Bool
  | .selectAccount _ | .selectTransferByKey _ | .selectTransferById _ | .sumEntries _ | .selectInterbankTransfer _ => true
  | _ => false

theorem reads_sound (sql : Sql) (reads : sql.reads = true) : engine.Reads sql := by
  intro db busy effect ran
  cases sql with
  | selectAccount id => exact selectAccount_ok (exec_eq_ok.mp ran)
  | selectTransferByKey key => exact (selectTransferByKey_ok (exec_eq_ok.mp ran)).1
  | selectTransferById id => exact (selectTransferById_ok (exec_eq_ok.mp ran)).1
  | sumEntries accountId => exact (sumEntries_ok (exec_eq_ok.mp ran)).1
  | selectInterbankTransfer transferId => exact (selectInterbankTransfer_ok (exec_eq_ok.mp ran)).1
  | _ => cases reads

variable {P : Op engine → Prop}

theorem issues_optionalRecord {row : Option TransferRow} : (optionalRecord row).Issues P := by
  cases row with
  | none => trivial
  | some row => exact issues_bind issues_ofExcept fun _ => trivial

theorem issues_requireKey {key : Option String} : (requireKey key).Issues P := by
  unfold requireKey
  split
  · split <;> trivial
  · trivial

theorem issues_replay (existing : TransferRecord) (transfer : Transfer) :
    (TransfersService.replay existing transfer).Issues P := by
  unfold TransfersService.replay
  split <;> trivial

abbrev Looks {α : Type} (program : Program α) : Prop := program.Issues (Op.Look Sql.reads)

theorem looks_findByKey (key : String) : Looks (TransferRepository.findByIdempotencyKey key) :=
  issues_bind (issues_pool rfl) fun _ => issues_optionalRecord

theorem looks_findTransfer (id : String) : Looks (TransferRepository.findById id) :=
  issues_bind (issues_pool rfl) fun _ => issues_optionalRecord

theorem looks_findInterbank (id : Option String) :
    Looks (InterbankTransferRepository.findById id) :=
  issues_bind (issues_pool rfl) fun _ => trivial

theorem looks_getAccount (id : String) : Looks (AccountsService.getAccount id) := by
  refine issues_bind (issues_pool rfl) ?_
  rintro (_ | account) <;> trivial

theorem looks_getBalance (id : String) : Looks (AccountsService.getBalance id) :=
  issues_bind (looks_getAccount id) fun _ => issues_bind (issues_pool rfl) fun _ => issues_ofExcept

theorem looks_interbankReplay (existing : TransferRecord) (transfer : Transfer)
    (payeeBankId payeeAccountRef : String) :
    Looks (InterbankTransfersService.replay existing transfer payeeBankId payeeAccountRef) := by
  unfold InterbankTransfersService.replay
  split
  · refine issues_bind (looks_findInterbank _) ?_
    rintro (_ | interbank)
    · trivial
    · simp only
      split <;> trivial
  · trivial

theorem inner_lockAccounts (transfer : Transfer) :
    (TransfersService.lockAccounts transfer).Issues Op.Inner := by
  refine issues_forEach fun id _ => issues_bind issues_client ?_
  rintro (_ | _) <;> trivial

theorem inner_insert (transfer : Transfer) (key : String) :
    (TransferRepository.insert transfer key).Issues Op.Inner :=
  issues_bind issues_client fun _ => issues_optionalRecord

theorem inner_balanceOf (id : String) : (LedgerRepository.balanceOf id .client).Issues Op.Inner :=
  issues_bind issues_client fun _ => issues_ofExcept

theorem inner_append (entries : List LedgerEntry) :
    (LedgerRepository.append entries).Issues Op.Inner :=
  issues_forEach fun _ _ => issues_client

theorem works : Outbox.Works (E := engine) (fun limit => sql .client (.claimUnpublished limit))
      OutboxRelayService.publish
    fun id => sql .client (.markPublished id) :=
  ⟨fun _ => issues_client, fun _ => Outbox.issues_publish trivial, fun _ => issues_client⟩

end Pieces

section Singles

variable {α β : Type} {inside : Bool} {first : Program α} {f : α → Program β}

theorem single_first (looks : Looks first) (rest : ∀ value, (f value).Single inside) :
    (first.bind f).Single inside :=
  single_look reads_sound looks rest

theorem single_only (looks : Looks first) : first.Single inside := single_looks reads_sound looks

theorem single_later (single : first.Single inside) (looks : ∀ value, Looks (f value)) :
    (first.bind f).Single inside :=
  single_then reads_sound single looks

end Singles

section Calls

open InterbankReplyService

theorem single_execute (id : Uuid) (key : String) (params : TransfersService.TransferParams) :
    (TransfersService.execute id key params).Single false := by
  refine single_first issues_ofExcept fun transfer => single_first (looks_findByKey key) ?_
  rintro (_ | existing)
  · refine single_later (single_protect (single_begin ?_)) ?_
    · refine single_inner (inner_lockAccounts transfer) fun _ => ?_
      refine single_inner (inner_insert transfer key) ?_
      rintro (_ | record)
      · exact single_rollback trivial
      · refine single_inner (inner_balanceOf _) fun _ => single_inner issues_ofExcept fun _ => ?_
        exact single_inner (inner_append _) fun _ => single_commit trivial
    · rintro (_ | record)
      · refine issues_bind (looks_findByKey key) ?_
        rintro (_ | winner)
        · trivial
        · exact issues_replay winner transfer
      · trivial
  · exact single_only (issues_replay existing transfer)

theorem single_interbankExecute (bankId : String) (draws : InterbankTransfersService.Draws)
    (key : String) (params : InterbankTransfersService.InterbankTransferParams) :
    (InterbankTransfersService.execute bankId draws key params).Single false := by
  refine single_first issues_ofExcept fun transfer => single_first (looks_findByKey key) ?_
  rintro (_ | existing)
  · refine single_later (single_protect (single_begin ?_)) ?_
    · refine single_inner issues_client ?_
      rintro (_ | _)
      · trivial
      · refine single_inner (inner_insert transfer key) ?_
        rintro (_ | record)
        · exact single_rollback trivial
        · refine single_inner (inner_balanceOf _) fun _ => single_inner issues_ofExcept fun _ => ?_
          refine single_inner (inner_append _) fun _ => ?_
          refine single_inner (issues_bind issues_client fun _ => trivial) fun _ => ?_
          exact single_inner issues_client fun _ => single_commit trivial
    · rintro (_ | result)
      · refine issues_bind (looks_findByKey key) ?_
        rintro (_ | winner)
        · trivial
        · exact looks_interbankReplay winner transfer _ _
      · trivial
  · exact single_only (looks_interbankReplay existing transfer _ _)

theorem single_compensate (reversalId : Uuid) (now : Int) (transferId : String) :
    (compensate reversalId now transferId).Single false := by
  refine single_first (looks_findTransfer transferId) ?_
  rintro (_ | original)
  · trivial
  · refine single_first issues_ofExcept fun reversal => single_protect (single_begin ?_)
    refine single_inner (inner_insert _ _) ?_
    have finish : ((InterbankTransferRepository.markCompensated transferId now .client).bind
        fun _ =>
        BankA.perform .commit).Single true := single_inner issues_client fun _ => single_commit_last
    rintro (_ | record)
    · exact finish
    · exact single_inner (inner_append _) fun _ => finish

theorem single_handle (reversalId : Uuid) (now : Int) (event : SettlementOutcomeEvent) :
    (handle reversalId now event).Single false := by
  refine single_first (looks_findInterbank _) fun interbank => ?_
  split
  · split
    · trivial
    · split
      · exact single_pool_last
      · exact single_first issues_check fun _ => single_compensate reversalId now _
  · trivial

theorem single_devSeed (transferId : Uuid) (accountId : String) (amount : Money) :
    (AccountsService.devSeed transferId accountId amount).Single false := by
  refine single_first (looks_getAccount accountId) fun _ =>
    single_later (single_protect (single_begin ?_)) ?_
  · exact single_inner issues_client fun _ => single_inner issues_client fun _ => single_commit_last
  · exact fun _ => looks_getBalance accountId

theorem single_program (bankId : String) (call : Call) : (program bankId call).Single false := by
  have answer {α : Type} {body : Program α} {f : α → Response} (single : body.Single false) :
      (body.bind fun value => (pure (f value) : Program Response)).Single false :=
      single_later single fun _ => trivial
  have handled (reversalId : Uuid) (now : Int) (event : SettlementOutcomeEvent) (changed : Bool) :
      ((handle reversalId now event).bind fun _ => (pure changed : Program Bool)).Single false :=
    single_later (single_handle reversalId now event) fun _ => trivial
  cases call with
  | createAccount id ownerName => exact answer (single_first issues_check fun _ => single_pool_last)
  | devSeed transferId id amountCents =>
    refine answer (single_first issues_check fun _ => single_first issues_ofExcept fun amount => ?_)
    exact single_devSeed transferId id amount
  | transfer id key body =>
    refine answer (single_first issues_check fun _ => single_first issues_requireKey fun key => ?_)
    exact single_first issues_ofExcept fun amount => single_execute id key _
  | interbankTransfer draws key body =>
    refine answer (single_first issues_check fun _ => single_first issues_requireKey fun key => ?_)
    exact single_first issues_ofExcept fun amount => single_interbankExecute bankId draws key _
  | outcome reversalId now event =>
    exact answer (f := fun _ => .handled) (single_handle reversalId now event)
  | reconcile reversalId now transferId response =>
    refine answer ?_
    unfold ReconciliationService.reconcileOne
    split
    · trivial
    · split
      · exact handled reversalId now _ _
      · split
        · split
          · trivial
          · simp only
            split
            · trivial
            · exact single_first issues_check fun _ => handled reversalId now _ _
        · trivial
  | relayTick => exact answer works.single

end Calls

end BankA
