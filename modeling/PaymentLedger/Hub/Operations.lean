import PaymentLedger.Hub.Statements
import PaymentLedger.Shared.Relay

set_option autoImplicit false

namespace Hub

open Transactional Prog Postgres SettlementsService

/-- A settlement is entered with a reason exactly if it is refused; one that is opened has an
amount that was read as money. -/
def Issued (operation : Op engine) : Prop :=
  match operation with
  | .query _ (.insertSettlement new) => StatusReason new.status new.rejectReason ∧
      (new.status = .pending → ∃ amount : Money, new.amountCents = some (.num amount.cents))
  | .query _ (.updateStatus _ status rejectReason) => status ≠ .pending ∧ status.Fits rejectReason
  | _ => True

def Business (operation : Op engine) : Prop :=
  match operation with
  | .query _ (.claimUnpublished _) | .query _ (.markPublished _) | .emit _ => False
  | operation => Issued operation

theorem business_requested (eventId : Nat) (event : SettlementRequestedEvent) :
    (handleRequested eventId event).Issues Business := by
  refine issues_bind (issues_perform trivial) fun payeeBank => issues_protect ?_ trivial
  refine issues_bind (issues_perform trivial) fun _ => ?_
  cases payeeBank with
  | none =>
    have insert : Business (.query .client (.insertSettlement
        { id := event.settlementId, payerBankId := event.payerBankId,
          payeeBankId := event.payeeBankId,
          payeeAccountRef := event.payeeAccountRef, amountCents := event.amountCents,
          status := .rejected,
          rejectReason := some UNKNOWN_PAYEE_BANK })) := by
      simp [Business, Issued, StatusReason]
    refine issues_bind (issues_bind (issues_perform insert) fun _ => trivial) fun record => ?_
    cases record with
    | none => exact issues_perform trivial
    | some record => exact issues_bind (issues_perform trivial) fun _ => issues_perform trivial
  | some bank =>
    refine issues_bind issues_ofExcept fun amount =>
      issues_bind issues_ofExcept fun settlement => ?_
    have insert : Business (.query .client (.insertSettlement
        { id := settlement.id, payerBankId := settlement.payerBankId,
          payeeBankId := settlement.payeeBankId,
          payeeAccountRef := settlement.payeeAccountRef,
          amountCents := some (.num settlement.amount.cents),
          status := .pending, rejectReason := none })) := by
      simp [Business, Issued, StatusReason]
    refine issues_bind (issues_bind (issues_perform insert) fun _ => trivial) fun record => ?_
    cases record with
    | none => exact issues_perform trivial
    | some record =>
      refine issues_bind (issues_forEach fun _ _ => issues_perform trivial) fun _ => ?_
      exact issues_bind (issues_perform trivial) fun _ => issues_perform trivial

theorem business_reply (eventId : Nat) (event : SettlementReplyEvent) :
    (handleReply eventId event).Issues Business := by
  have confirmed (id : String) : Business (.query .client (.updateStatus id .confirmed none)) :=
    ⟨by simp, confirmed_fits⟩
  have reversed (id reason : String) :
      Business (.query .client (.updateStatus id .reversed (some reason))) :=
    ⟨by simp, reversed_fits reason⟩
  refine issues_bind (issues_bind (issues_perform trivial) fun _ => trivial) fun settlement => ?_
  cases settlement with
  | none => trivial
  | some settlement =>
    simp only
    split
    · trivial
    · refine issues_protect (issues_bind (issues_perform trivial) fun _ => ?_) trivial
      split
      · refine issues_bind (issues_perform (confirmed _)) fun _ => ?_
        exact issues_bind (issues_perform trivial) fun _ => issues_perform trivial
      · refine issues_bind issues_check fun _ => ?_
        refine issues_bind issues_ofExcept fun amount =>
          issues_bind issues_ofExcept fun domain => ?_
        refine issues_bind (issues_forEach fun _ _ => issues_perform trivial) fun _ => ?_
        refine issues_bind (issues_perform (reversed _ _)) fun _ => ?_
        exact issues_bind (issues_perform trivial) fun _ => issues_perform trivial

theorem business_program (call : Call) (other : call ≠ .relayTick) :
    (program call).Issues Business := by
  cases call with
  | registerBank id name baseUrl =>
    refine issues_bind ?_ fun _ => trivial
    unfold BanksController.create
    split
    · refine issues_bind (issues_perform trivial) fun bank => ?_
      cases bank <;> trivial
    · trivial
  | requested eventId event => exact issues_bind (business_requested eventId event) fun _ => trivial
  | reply eventId event => exact issues_bind (business_reply eventId event) fun _ => trivial
  | getSettlement id =>
    refine issues_bind ?_ fun _ => trivial
    refine issues_bind (issues_bind (issues_perform trivial) fun _ => trivial) fun settlement => ?_
    cases settlement <;> trivial
  | relayTick => exact absurd rfl other

theorem Business.issued {operation : Op engine} (business : Business operation) :
    Issued operation := by
  cases operation with
  | query executor sql =>
    cases sql with
    | claimUnpublished limit | markPublished id => exact business.elim
    | _ => exact business
  | begin | commit | rollback => trivial
  | emit message => exact business.elim

theorem issued_program (call : Call) : (program call).Issues Issued := by
  by_cases tick : call = .relayTick
  · subst tick
    refine issues_bind (Outbox.issues_tick ?_ ?_ ?_ trivial trivial trivial) fun _ => trivial
    · exact fun _ => issues_perform trivial
    · exact fun _ => Outbox.issues_publish trivial
    · exact fun _ => issues_perform trivial
  · exact (business_program call tick).imp fun _ => Business.issued

def Write.Ordinary (write : Write) : Prop :=
  match write with
  | .bank _ | .ledgerEntry _ => True
  | .settlement _ | .status _ _ _ | .outboxEvent _ | .published _ => False

theorem updateStatus_writes {id : String} {status : SettlementStatus} {rejectReason : Option String}
    {db : Database} {effect : Reply Unit}
    (ran : updateStatus id status rejectReason db = .ok effect) :
    ∀ write ∈ effect.writes, ∃ target, write = .status target status rejectReason := by
  simp only [updateStatus, bind_eq_ok, uuid_eq_ok] at ran
  obtain ⟨target, -, stored, read, ran⟩ := ran
  obtain rfl := optionalText_ok read
  split at ran
  · simp only [bind_eq_ok, require_eq_ok] at ran
    obtain ⟨_, -, same⟩ := ran
    obtain rfl := Except.ok.inj same
    intro write member
    exact ⟨target, List.mem_singleton.mp member⟩
  · obtain rfl := Except.ok.inj ran
    intro write member
    cases member

theorem execute_writes {sql : Sql} {db : Database} {busy : List (Lock Resource)}
    {effect : Reply sql.Answer} {W : Write → Prop} (ran : execute sql db busy = .ok effect)
    (ordinary : ∀ write, write.Ordinary → W write)
    (settlement : ∀ new row, sql = .insertSettlement new → new.row = .ok row → W (.settlement row))
    (turn : ∀ id status rejectReason, sql = .updateStatus id status rejectReason →
      ∀ target, W (.status target status rejectReason))
      (event : ∀ row : Outbox.Row, row.published = false → W (.outboxEvent row))
    (mark : ∀ id, sql = .markPublished id → W (.published id)) : ∀ write ∈ effect.writes,
    W write := by
  intro write member
  have one {only : Write} (same : effect.writes = [only]) (holds : W only) : W write := by
    rw [same] at member
    rw [List.mem_singleton.mp member]
    exact holds
  have none_ (same : effect.writes = []) : W write := by
    rw [same] at member
    cases member
  cases sql with
  | insertBank id name baseUrl =>
    rcases insertBank_ok ran with same | ⟨-, same⟩
    · exact none_ same
    · exact one same (ordinary _ trivial)
  | selectBank id => exact none_ (selectBank_ok ran).1
  | insertSettlement new =>
    simp only [execute, insertSettlement, bind_eq_ok] at ran
    obtain ⟨row, read, ran⟩ := ran
    split at ran
    · obtain rfl := Except.ok.inj ran
      exact none_ rfl
    · simp only [bind_eq_ok, require_eq_ok] at ran
      obtain ⟨_, -, same⟩ := ran
      obtain rfl := Except.ok.inj same
      exact one rfl (settlement new row rfl read)
  | selectSettlement id => exact none_ (selectSettlement_ok ran).1
  | updateStatus id status rejectReason =>
    obtain ⟨target, rfl⟩ := updateStatus_writes ran write member
    exact turn id status rejectReason rfl target
  | sumEntries bankId => exact none_ (sumEntries_ok ran).1
  | insertEntry entry =>
    obtain ⟨row, -, -, same⟩ := insertEntry_ok ran
    exact one same (ordinary _ trivial)
  | insertEvent id aggregateId eventType routingKey payload =>
    obtain ⟨text, aggregate, -, -, -, same, -⟩ := insertEvent_ok ran
    exact one same (event _ rfl)
  | claimUnpublished limit =>
    obtain rfl := Except.ok.inj ran
    exact none_ rfl
  | markPublished id =>
    rcases markPublished_ok ran with same | same
    · exact none_ same
    · exact one same (mark id rfl)

/-- The columns of a stored row, as the code reads them back. -/
structure SettlementRow.Stored (row : SettlementRow) : Prop where
  payer : storable row.payerBankId = true
  payee : storable row.payeeBankId = true
  safe : row.status = .pending → row.amount.natAbs ≤ Double.maxSafeInteger

def Write.Stored (write : Write) : Prop :=
  match write with
  | .settlement row => row.Stored
  | .status _ next _ => next ≠ .pending
  | _ => True

def AllStored (db : Database) : Prop := ∀ row ∈ db.settlements, row.Stored

theorem AllStored.apply {db : Database} {write : Write} (all : AllStored db)
    (stored : write.Stored) :
    AllStored (db.apply write) := by
  intro row member
  cases write with
  | settlement new =>
    rcases List.mem_append.mp member with old | added
    · exact all row old
    · rw [List.mem_singleton.mp added]
      exact stored
  | status id status rejectReason =>
    obtain ⟨before, present, same⟩ := List.mem_map.mp member
    have kept := all before present
    by_cases target : before.id = id
    · rw [if_pos target] at same
      rw [← same]
      exact ⟨kept.payer, kept.payee, fun pending => absurd pending stored⟩
    · rw [if_neg target] at same
      rw [← same]
      exact kept
  | bank | ledgerEntry | outboxEvent | published => exact all row member

theorem NewSettlement.stored {new : NewSettlement} {row : SettlementRow} (read : new.row = .ok row)
    (opened : new.status = .pending →
      ∃ amount : Money, new.amountCents = some (.num amount.cents)) : row.Stored := by
  simp only [NewSettlement.row, bind_eq_ok, text_eq_ok, require_eq_ok] at read
  obtain ⟨_, -, _, -, _, -, payer, ⟨stored, rfl⟩, _, -, payee, ⟨stored', rfl⟩, _, -, _, -, amount,
      counted, _, -, same⟩ := read
  obtain rfl := Except.ok.inj same
  refine ⟨stored, stored', ?_⟩
  intro pending
  obtain ⟨money, spelled⟩ := opened pending
  rw [spelled] at counted
  simp only [bigint] at counted
  split at counted
  · obtain rfl := Except.ok.inj counted
    exact money.safe
  · split at counted <;> cases counted

theorem execute_stored {executor : Executor} {sql : Sql} {db : Database}
    {busy : List (Lock Resource)} {effect : Reply sql.Answer}
    (issued : Issued (.query executor sql)) (ran : execute sql db busy = .ok effect) :
    ∀ write ∈ effect.writes, write.Stored := by
  refine execute_writes ran ?_ ?_ ?_ (fun _ _ => trivial) fun _ _ => trivial
  · intro write ordinary
    cases write with
    | bank row | ledgerEntry row => trivial
    | settlement | status | outboxEvent | published => exact ordinary.elim
  · rintro new row rfl read
    exact NewSettlement.stored read issued.2
  · rintro id status rejectReason rfl target
    exact issued.1

theorem Reachable.stored {scope : Scope service} {s : System service}
    (fresh : scope.initial = migrated) (reachable : Reachable scope s) : AllStored s.db := by
  have initial : AllStored scope.initial := by
    rw [fresh]
    intro row member
    cases member
  have writes : Writes (S := service) Issued Write.Stored :=
    fun _ _ _ _ _ issued ran => execute_stored issued (exec_eq_ok.mp ran)
  exact (reachable.wrote (fun call _ => issued_program call) writes initial fun db write =>
    AllStored.apply).1

end Hub
