import PaymentLedger.BankA.Atomicity

set_option autoImplicit false

-- Every event that a call inserts asks for a settlement of a transfer that the DTO lets through.

namespace BankA

open Transactional Prog InterbankTransfersService

-- Of the bank's id the DTO bounds `isLength`, which does not count every code point.
structure InterbankTransfersService.InterbankTransferParams.Within
    (params : InterbankTransferParams) : Prop where
  bank : 1 ≤ params.payeeBankId.length
  positive : 0 < params.amount.cents

def Offers (bankId : String) (payload : Json.Object) : Prop :=
  ∃ transferId params, params.Within ∧ payload = requestedPayload bankId transferId params

def Business (bankId : String) (operation : Op engine) : Prop :=
  match operation with
  | .query _ (.insertEvent _ _ _ _ payload) => Offers bankId payload
  | .query _ (.claimUnpublished _) | .query _ (.markPublished _) | .emit _ => False
  | _ => True

section Business

variable {bankId : String}

theorem business_look {operation : Op engine} (look : operation.Look Sql.reads) :
    Business bankId operation := by
  cases operation with
  | query executor sql =>
    cases executor with
    | pool =>
      cases sql with
      | insertEvent | claimUnpublished | markPublished => cases look
      | _ => trivial
    | client => exact look.elim
  | begin | commit | rollback | emit event => exact look.elim

theorem business_looks {α : Type} {program : Program α} (looks : Looks program) :
    program.Issues (Business bankId) :=
  looks.imp fun _ => business_look

theorem business_insert (transfer : Transfer) (key : String) :
    (TransferRepository.insert transfer key).Issues (Business bankId) :=
  issues_bind (issues_perform trivial) fun _ => issues_optionalRecord

theorem business_balanceOf (accountId : String) :
    (LedgerRepository.balanceOf accountId .client).Issues (Business bankId) :=
  issues_bind (issues_perform trivial) fun _ => issues_ofExcept

theorem business_append (entries : List LedgerEntry) : (LedgerRepository.append entries).Issues
    (Business bankId) :=
  issues_forEach fun _ _ => issues_perform trivial

theorem business_execute (id : Uuid) (key : String) (params : TransfersService.TransferParams) :
    (TransfersService.execute id key params).Issues (Business bankId) := by
  refine issues_bind issues_ofExcept fun transfer =>
    issues_bind (business_looks (looks_findByKey key)) fun existing => ?_
  cases existing with
  | some existing => exact issues_replay existing transfer
  | none =>
    refine issues_bind (issues_protect (issues_bind (issues_perform trivial) fun _ => ?_) trivial)
      fun record => ?_
    · refine issues_bind
        (issues_forEach fun id _ => issues_bind (issues_perform trivial) fun found => ?_)
        fun _ => ?_
      · cases found <;> trivial
      · refine issues_bind (business_insert transfer key) fun record => ?_
        cases record with
        | none => exact issues_bind (issues_perform trivial) fun _ => trivial
        | some record =>
          refine issues_bind (business_balanceOf _) fun _ => issues_bind issues_ofExcept fun _ => ?_
          exact issues_bind (business_append _) fun _ =>
            issues_bind (issues_perform trivial) fun _ => trivial
    · cases record with
      | some record => trivial
      | none =>
        refine issues_bind (business_looks (looks_findByKey key)) fun winner => ?_
        cases winner with
        | none => trivial
        | some winner => exact issues_replay winner transfer

theorem business_interbankExecute (draws : InterbankTransfersService.Draws) (key : String)
    (params : InterbankTransfersService.InterbankTransferParams) (within : params.Within) :
    (InterbankTransfersService.execute bankId draws key params).Issues (Business bankId) := by
  refine issues_bind issues_ofExcept fun transfer =>
    issues_bind (business_looks (looks_findByKey key)) fun existing => ?_
  cases existing with
  | some existing => exact business_looks (looks_interbankReplay existing transfer _ _)
  | none =>
    refine issues_bind (issues_protect (issues_bind (issues_perform trivial) fun _ => ?_) trivial)
      fun result => ?_
    · refine issues_bind (issues_perform trivial) fun found => ?_
      cases found with
      | false => trivial
      | true =>
        refine issues_bind (business_insert transfer key) fun record => ?_
        cases record with
        | none => exact issues_bind (issues_perform trivial) fun _ => trivial
        | some record =>
          refine issues_bind (business_balanceOf _) fun _ => issues_bind issues_ofExcept fun _ => ?_
          refine issues_bind (business_append _) fun _ => ?_
          refine issues_bind (issues_bind (issues_perform trivial) fun _ => trivial) fun _ => ?_
          have offered : Offers bankId (requestedPayload bankId transfer.id params) :=
            ⟨transfer.id, params, within, rfl⟩
          exact issues_bind (issues_perform offered) fun _ =>
            issues_bind (issues_perform trivial) fun _ => trivial
    · cases result with
      | some result => trivial
      | none =>
        refine issues_bind (business_looks (looks_findByKey key)) fun winner => ?_
        cases winner with
        | none => trivial
        | some winner => exact business_looks (looks_interbankReplay winner transfer _ _)

theorem business_handle (reversalId : Uuid) (now : Int)
    (event : InterbankReplyService.SettlementOutcomeEvent) :
    (InterbankReplyService.handle reversalId now event).Issues (Business bankId) := by
  have compensates (transferId : String) :
      (InterbankReplyService.compensate reversalId now transferId).Issues (Business bankId) := by
    refine issues_bind (business_looks (looks_findTransfer transferId)) fun original => ?_
    cases original with
    | none => trivial
    | some original =>
      refine issues_bind issues_ofExcept fun reversal => issues_protect ?_ trivial
      refine issues_bind (issues_perform trivial) fun _ =>
        issues_bind (business_insert _ _) fun record => ?_
      have finish : ((InterbankTransferRepository.markCompensated transferId now .client).bind
          fun _ =>
          BankA.perform .commit).Issues (Business bankId) :=
        issues_bind (issues_perform trivial) fun _ => issues_perform trivial
      cases record with
      | none => exact finish
      | some record => exact issues_bind (business_append _) fun _ => finish
  refine issues_bind (issues_bind (issues_perform trivial) fun _ => trivial) fun interbank => ?_
  split
  · split
    · trivial
    · split
      · exact issues_perform trivial
      · exact issues_bind issues_check fun _ => compensates _
  · trivial

theorem business_devSeed (transferId : Uuid) (accountId : String) (amount : Money) :
    (AccountsService.devSeed transferId accountId amount).Issues (Business bankId) := by
  refine issues_bind (business_looks (looks_getAccount accountId)) fun _ => ?_
  refine issues_bind (issues_protect ?_ trivial) fun _ =>
    business_looks (looks_getBalance accountId)
  refine issues_bind (issues_perform trivial) fun _ =>
    issues_bind (issues_perform trivial) fun _ => ?_
  exact issues_bind (issues_perform trivial) fun _ => issues_perform trivial

theorem within_of_valid {body : CreateInterbankTransferDto} {amount : Money}
    (valid : body.valid = true) (read : Money.fromCents body.amountCents = .ok amount) :
    InterbankTransferParams.Within
      ⟨body.payerAccountId, body.payeeBankId, body.payeeAccountRef, amount⟩ := by
  simp only [CreateInterbankTransferDto.valid, Bool.and_eq_true, decide_eq_true_eq] at valid
  obtain ⟨⟨⟨-, filled, -⟩, -⟩, positive⟩ := valid
  constructor
  · rw [Nat.one_le_iff_ne_zero, ne_eq, String.length_eq_zero_iff]
    exact filled
  · rw [Money.fromCents_finite read, isPositiveInt, decide_eq_true_eq] at positive
    exact positive

theorem business_program (bankId : String) (call : Call) (other : call ≠ .relayTick) :
    (program bankId call).Issues (Business bankId) := by
  have answer {β : Type} {body : Program β} {f : β → Response}
      (issues : body.Issues (Business bankId)) :
      (body.bind fun value => (pure (f value) : Program Response)).Issues (Business bankId) :=
    issues_bind issues fun _ => trivial
  cases call with
  | createAccount id ownerName =>
    exact answer (issues_bind issues_check fun _ => issues_perform trivial)
  | devSeed transferId id amountCents =>
    refine answer (issues_bind issues_check fun _ => issues_bind issues_ofExcept fun amount => ?_)
    exact business_devSeed transferId id amount
  | transfer id key body =>
    refine answer (issues_bind issues_check fun _ => issues_bind issues_requireKey fun key => ?_)
    exact issues_bind issues_ofExcept fun amount => business_execute id key _
  | interbankTransfer draws key body =>
    refine answer ?_
    simp only [InterbankTransfersController.create, Prog.bind_eq]
    cases valid : body.valid with
    | false => trivial
    | true =>
      refine issues_bind issues_check fun _ => issues_bind issues_requireKey fun key => ?_
      cases read : Money.fromCents body.amountCents with
      | error error => trivial
      | ok amount => exact business_interbankExecute draws key _ (within_of_valid valid read)
  | outcome reversalId now event =>
    exact answer (f := fun _ => .handled) (business_handle reversalId now event)
  | reconcile reversalId now transferId response =>
    have handled (event : InterbankReplyService.SettlementOutcomeEvent) (changed : Bool) :
        ((InterbankReplyService.handle reversalId now event).bind fun _ =>
          (pure changed : Program Bool)).Issues (Business bankId) :=
      issues_bind (business_handle reversalId now event) fun _ => trivial
    refine answer ?_
    unfold ReconciliationService.reconcileOne
    split
    · trivial
    · split
      · exact handled _ _
      · split
        · split
          · trivial
          · simp only
            split
            · trivial
            · exact issues_bind issues_check fun _ => handled _ _
        · trivial
  | relayTick => exact absurd rfl other

end Business

section Written

/-- Neither an event, nor a mark on one, nor a new interbank transfer. -/
def Write.Ordinary (write : Write) : Prop :=
  match write with
  | .outboxEvent _ | .published _ | .interbankTransfer _ => False
  | _ => True

def InterbankTransferRow.Checked (row : InterbankTransferRow) : Prop :=
  1 ≤ row.payeeAccountRef.length ∧ row.payeeAccountRef.length ≤ 255

theorem execute_writes {sql : Sql} {db : Database} {busy : List (Lock Resource)}
    {effect : Reply sql.Answer} {W : Write → Prop} (ran : execute sql db busy = .ok effect)
    (ordinary : ∀ write, write.Ordinary → W write)
    (interbank : ∀ row : InterbankTransferRow, row.Checked → W (.interbankTransfer row))
    (event : ∀ id aggregateId eventType routingKey payload row,
      sql = .insertEvent id aggregateId eventType routingKey payload →
      Outbox.newRow id aggregateId eventType routingKey payload db.outboxEvents = .ok row →
      W (.outboxEvent row))
    (mark : ∀ id, sql = .markPublished id → W (.published id)) : ∀ write ∈ effect.writes,
    W write := by
  intro write member
  have one {only : Write} (same : effect.writes = [only]) (holds : W only) : W write := by
    rw [same] at member
    rw [List.mem_singleton.mp member]
    exact holds
  have none_ (same : effect.writes = []) : W write := by
    rw [same] at member
    cases member
  cases sql with
  | insertAccount id ownerName => exact one (insertAccount_ok ran).2 (ordinary _ trivial)
  | selectAccount id => exact none_ (selectAccount_ok ran)
  | lockAccount id => exact none_ (lockAccount_ok ran).1
  | insertTransfer new =>
    rcases insertTransfer_ok ran with ⟨-, same, -⟩ | ⟨row, -, -, -, same, -⟩
    · exact none_ same
    · exact one same (ordinary _ trivial)
  | insertSeedTransfer new =>
    obtain ⟨row, -, -, same, -⟩ := insertSeedTransfer_ok ran
    exact one same (ordinary _ trivial)
  | selectTransferByKey key => exact none_ (selectTransferByKey_ok ran).1
  | selectTransferById id => exact none_ (selectTransferById_ok ran).1
  | sumEntries accountId => exact none_ (sumEntries_ok ran).1
  | insertEntry entry =>
    obtain ⟨row, -, same⟩ := insertEntry_ok ran
    exact one same (ordinary _ trivial)
  | insertSeedEntries debit credit =>
    obtain ⟨first, second, -, -, two⟩ := insertSeedEntries_ok ran
    rw [two] at member
    rcases List.mem_cons.mp member with rfl | last
    · exact ordinary _ trivial
    · rw [List.mem_singleton.mp last]
      exact ordinary _ trivial
  | insertInterbankTransfer transferId payeeBankId payeeAccountRef now =>
    obtain ⟨id, -, -, same, -⟩ := insertInterbankTransfer_ok ran
    exact one same (interbank _ (insertInterbankTransfer_checked ran))
  | selectInterbankTransfer transferId => exact none_ (selectInterbankTransfer_ok ran).1
  | updateStatus transferId status now =>
    simp only [execute, updateStatus, Postgres.bind_eq_ok] at ran
    obtain ⟨id, -, ran⟩ := ran
    split at ran <;> obtain rfl := Except.ok.inj ran
    · exact one rfl (ordinary _ trivial)
    · exact none_ rfl
  | selectStaleDebited olderThan =>
    obtain rfl := Except.ok.inj ran
    exact none_ rfl
  | insertEvent id aggregateId eventType routingKey payload =>
    simp only [execute, insertEvent, Postgres.bind_eq_ok] at ran
    obtain ⟨row, added, same⟩ := ran
    obtain rfl := Except.ok.inj same
    exact one rfl (event _ _ _ _ _ row rfl added)
  | claimUnpublished limit =>
    obtain rfl := Except.ok.inj ran
    exact none_ rfl
  | markPublished id =>
    rcases markPublished_ok ran with same | same
    · exact none_ same
    · exact one same (mark id rfl)

variable {bankId : String}

structure Offered (bankId : String) (payload : Json.Object) : Prop where
  offers : Offers bankId payload
  stored : Outbox.storable payload = true

structure AllOffered (bankId : String) (db : Database) : Prop where
  events : ∀ event ∈ db.outboxEvents, Offered bankId event.payload
  refs : ∀ row ∈ db.interbankTransfers, row.Checked

def Write.Offered (bankId : String) (write : Write) : Prop :=
  match write with
  | .outboxEvent row => BankA.Offered bankId row.payload
  | .interbankTransfer row => row.Checked
  | _ => True

def Offering (bankId : String) (operation : Op engine) : Prop :=
  match operation with
  | .query _ (.insertEvent _ _ _ _ payload) => Offers bankId payload
  | _ => True

theorem offering_program (bankId : String) (call : Call) : (program bankId call).Issues
    (Offering bankId) := by
  by_cases tick : call = .relayTick
  · subst tick
    refine issues_bind (Outbox.issues_tick ?_ ?_ ?_ trivial trivial trivial) fun _ => trivial
    · exact fun _ => issues_perform trivial
    · exact fun _ => Outbox.issues_publish trivial
    · exact fun _ => issues_perform trivial
  · refine (business_program bankId call tick).imp ?_
    intro operation business
    cases operation with
    | query executor sql =>
      cases sql with
      | insertEvent id aggregateId eventType routingKey payload => exact business
      | _ => trivial
    | _ => trivial

theorem writes_offered : Writes (S := service bankId) (Offering bankId) (Write.Offered bankId) := by
  intro executor sql db busy effect offering ran
  refine execute_writes (exec_eq_ok.mp ran) ?_ (fun _ checked => checked) ?_ ?_
  · intro write ordinary
    cases write with
    | outboxEvent row | interbankTransfer row => exact ordinary.elim
    | _ => trivial
  · rintro id aggregateId eventType routingKey payload row rfl added
    have stored : Outbox.storable payload = true := Outbox.storable_of_newRow added
    obtain ⟨aggregate, -, -, rfl⟩ := Outbox.newRow_ok added
    exact ⟨offering, stored⟩
  · intro id _
    trivial

theorem apply_offered (db : Database) (write : Write) (all : AllOffered bankId db)
    (offered : write.Offered bankId) :
    AllOffered bankId (db.apply write) := by
  cases write with
  | outboxEvent row =>
    refine ⟨fun event member => ?_, all.refs⟩
    rcases List.mem_append.mp member with old | new
    · exact all.events event old
    · rw [List.mem_singleton.mp new]
      exact offered
  | published id =>
    refine ⟨fun event member => ?_, all.refs⟩
    obtain ⟨row, present, same⟩ := List.mem_map.mp member
    have kept : event.payload = row.payload := by
      rw [← same]
      split <;> rfl
    rw [kept]
    exact all.events row present
  | interbankTransfer row =>
    refine ⟨all.events, fun other member => ?_⟩
    rcases List.mem_append.mp member with old | new
    · exact all.refs other old
    · rw [List.mem_singleton.mp new]
      exact offered
  | status transferId status updatedAt =>
    refine ⟨all.events, fun other member => ?_⟩
    obtain ⟨row, present, same⟩ := List.mem_map.mp member
    have kept : other.payeeAccountRef = row.payeeAccountRef := by
      rw [← same]
      split <;> rfl
    rw [InterbankTransferRow.Checked, kept]
    exact all.refs row present
  | account _ | transfer _ | ledgerEntry _ => exact ⟨all.events, all.refs⟩

theorem Reachable.offered {scope : Scope (service bankId)} {s : System (service bankId)}
    (fresh : scope.initial = migrated) (reachable : Reachable scope s) :
    AllOffered bankId s.db := by
  have initial : AllOffered bankId scope.initial := by
    rw [fresh]
    constructor <;> intro _ member <;> cases member
  exact (reachable.wrote (fun call _ => offering_program bankId call) writes_offered initial
    apply_offered).1

end Written

end BankA
