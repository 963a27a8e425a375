import PaymentLedger.BankB.Transfers
import PaymentLedger.Shared.Single

set_option autoImplicit false

-- The transaction of `handle` ends in the exit of `async with`, outside the body that writes.

namespace BankB

open Transactional Prog InboundTransfersService

section Reads

theorem reads_selectTransfer (transferId : Value) : engine.Reads (.selectTransfer transferId) :=
  fun _ _ _ ran => (selectTransfer_ok (exec_eq_ok.mp ran)).1

theorem reads_selectAccount (id : Value) : engine.Reads (.selectAccount id) :=
  fun _ _ _ ran => (selectAccount_ok (exec_eq_ok.mp ran)).1

end Reads

section Pending

variable {α β : Type}

theorem pending_fromDomain {result : Except DomainError α} :
    (fromDomain result).Issues Op.Pending := by
  cases result <;> trivial

theorem pending_findAccount (event : TransferInitiatedEvent) :
    (findAccount event).Issues Op.Pending := by
  unfold findAccount
  cases isValidUuid event.payeeAccountId with
  | error error => trivial
  | ok valid =>
    cases valid with
    | false => trivial
    | true => exact issues_perform (reads_selectAccount event.payeeAccountId)

theorem pending_tryInsert (new : NewTransfer) :
    (IncomingTransferRepository.tryInsert new).Issues Op.Pending :=
  issues_bind (issues_perform trivial) fun _ => trivial

theorem pending_settle (event : TransferInitiatedEvent) : (settle event).Issues Op.Pending := by
  refine issues_bind (pending_findAccount event) fun account => ?_
  cases account with
  | none => exact pending_tryInsert _
  | some account =>
    refine issues_bind (pending_tryInsert _) fun record => ?_
    cases record with
    | none => trivial
    | some record =>
      refine issues_bind pending_fromDomain fun amount => ?_
      exact issues_bind (issues_forEach fun _ _ => issues_perform trivial) fun _ => trivial

end Pending

section Singles

variable {α : Type}

theorem single_withTransaction {body : Program α} (pending : body.Issues Op.Pending) :
    (withTransaction body).Single false := by
  refine single_begin (single_protected pending (fun error => ?_) fun value => ?_)
  · refine ⟨trivial, .inl ⟨id, fun reply => ?_⟩⟩
    cases reply <;> trivial
  · exact single_commit (f := fun _ => pure value) trivial

theorem single_handle (event : TransferInitiatedEvent) : (handle event).Single false := by
  unfold handle IncomingTransferRepository.findById
  simp only [Prog.bind_eq, Prog.bind_assoc]
  refine single_read (reads_selectTransfer event.transferId) fun existing => ?_
  cases existing with
  | some existing => trivial
  | none =>
    simp only [Option.map_none, Prog.pure_eq, Prog.done_bind]
    refine single_bind (single_withTransaction (pending_settle event)) (fun record inside => ?_)
      fun record => ?_
    · cases record with
      | some record => trivial
      | none =>
        -- Another delivery was first; its verdict is read.
        refine single_read (reads_selectTransfer event.transferId) fun row => ?_
        cases row <;> trivial
    · cases record with
      | some record => trivial
      | none =>
        refine issues_bind (issues_perform (reads_selectTransfer event.transferId)) fun row => ?_
        cases row <;> trivial

theorem single_get {β : Type} {payload : Consumer.Payload} {field : String} {f : Value → Program β}
    (rest : ∀ value, (f value).Single false) :
    ((Consumer.get payload field).bind f).Single false := by
  unfold Consumer.get
  split
  · exact rest _
  · trivial

theorem single_onMessage (body : Option Consumer.Payload) :
    (Consumer.onMessage body).Single false := by
  refine single_bind (single_tryCatch ?_ ?_ ?_) (fun _ _ => ⟨trivial, .inl ⟨id, fun _ => trivial⟩⟩)
    fun _ =>
    issues_perform trivial
  · cases body with
    | none => trivial
    | some payload =>
      simp only [Consumer.toEvent, Prog.bind_eq, Prog.bind_assoc, Prog.pure_eq, Prog.done_bind]
      refine single_get fun transferId => single_get fun payeeAccountId =>
        single_get fun amountCents => ?_
      refine single_bind (single_handle _) (fun reply inside => ?_) fun reply =>
        issues_perform trivial
      exact ⟨trivial, .inl ⟨id, fun _ => trivial⟩⟩
  · intro error inside
    exact single_emit trivial
  · intro error
    exact issues_bind (issues_perform trivial) fun _ => trivial

theorem single_program (call : Call) : (program call).Single false := by
  cases call with
  | createAccount id ownerName =>
    refine single_bind ?_ (fun _ _ => trivial) fun _ => trivial
    unfold AccountsRouter.createAccount
    split
    · exact single_pool_last
    · trivial
  | deliver body => exact single_bind (single_onMessage body) (fun _ _ => trivial) fun _ => trivial

end Singles

/-- What one delivery writes: the transfer, and both entries if it is credited. -/
inductive Whole : Call → Database → Database → Prop where
  | settled {db} (body : Option Consumer.Payload) (event : TransferInitiatedEvent)
      (row : IncomingTransferRow)
      (entries : List LedgerEntryRow) (reads : Consumer.Reads body event)
      (names : event.Names row.transferId)
      (amount : bigintParam event.amountCents = .ok (some row.amount))
      (booked : row.Booked entries) :
      Whole (.deliver body) db
        { db with incomingTransfers := db.incomingTransfers ++ [row],
                  ledgerEntries := db.ledgerEntries ++ entries }

theorem deliver_whole {db : Database} (wellFormed : WellFormed db) {body : Option Consumer.Payload}
    {s : System service} (alone : Alone db (Call.deliver body) s) : s.db = db ∨
    Whole (.deliver body) db s.db := by
  have holds : (contract everyCall).Verified := verified rfl
  refine (alone.change holds single_program wellFormed trivial fun _ _ => trivial).imp_right ?_
  rintro ⟨locks, commit⟩
  generalize s.db = later at commit
  cases commit with
  | settled body event row entries reads enters booked =>
    exact .settled body event row entries reads enters.names enters.amount booked

end BankB
