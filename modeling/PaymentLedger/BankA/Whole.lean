import PaymentLedger.BankA.Outcomes
import PaymentLedger.BankA.Turns
import PaymentLedger.Shared.Serial

set_option autoImplicit false

-- A call that moves money leaves the database as it was, or adds every row that it is to write.
-- The one exception is a refusal whose reversal finds its idempotency key taken: it marks the
-- transfer COMPENSATED and books nothing.

namespace BankA

open Transactional

def Call.movesMoney : Call → Bool
  | .devSeed _ _ _ | .transfer _ _ _ | .interbankTransfer _ _ _ | .outcome _ _ _ | .reconcile _ _ _ _ => true
  | .createAccount _ _ | .relayTick => false

/-- `db.book row` adds the transfer with its two entries, `db.debit` the interbank row and the
outbox row besides. -/
inductive Whole (bankId : String) : Call → Database → Database → Prop where
  | seeded {db} (row : TransferRow) (account : String) (amountCents : Double)
      (payer : row.payerAccountId = DEV_TREASURY_ACCOUNT_ID)
      (payee : Uuid.parse account = some row.payeeAccountId)
      (amount : amountCents = .finite row.amount) :
      Whole bankId (.devSeed row.id account amountCents) db (db.book row)
  | transferred {db} (row : TransferRow) (id : Uuid) (idempotencyKey : Option String)
      (body : CreateTransferDto)
      (requested : row.Requested id idempotencyKey body.payerAccountId body.amountCents)
      (payee : Uuid.parse body.payeeAccountId = some row.payeeAccountId) :
      Whole bankId (.transfer id idempotencyKey body) db (db.book row)
  | debited {db} (row : TransferRow) (draws : InterbankTransfersService.Draws)
      (idempotencyKey : Option String) (body : CreateInterbankTransferDto)
      (requested : row.Requested draws.id idempotencyKey body.payerAccountId body.amountCents)
      (payee : row.payeeAccountId = SUSPENSE_ACCOUNT_ID) :
      Whole bankId (.interbankTransfer draws idempotencyKey body) db
        (db.debit row (interbankRow draws body) (requestedRow bankId draws body row.amount))
  | confirmed {db} (call : Call) (handling : Handling) (settlementId : String) (transferId : Uuid)
      (handles : call.handling = some handling) (targets : handling.Targets settlementId transferId)
      (confirms : handling.confirms) (debited : db.status transferId = some .debited) :
      Whole bankId call db
        { db with
          interbankTransfers :=
            setStatus db.interbankTransfers transferId .confirmed handling.now }
  | compensated {db} (call : Call) (handling : Handling) (settlementId : String)
      (original : TransferRow) (handles : call.handling = some handling)
      (targets : handling.Targets settlementId original.id)
      (refuses : ¬ handling.confirms) (present : original ∈ db.transfers)
      (debited : db.status original.id = some .debited) :
      Whole bankId call db
        { db.book (reversalOf handling.reversalId settlementId original) with
          interbankTransfers := setStatus db.interbankTransfers original.id .compensated
            handling.now }

/-- If the call is to refund a DEBITED transfer, and gets as far as that, nobody has taken the
key of the reversal. -/
def Call.Refundable (call : Call) (db : Database) : Prop :=
  ∀ handling settlementId transferId, call.handling = some handling →
    handling.Targets settlementId transferId →
    ¬ handling.confirms → handling.event.Printable → db.status transferId = some .debited →
      ¬ db.hasKey (InterbankReplyService.compensationKey settlementId)

variable {bankId : String} {db : Database} {call : Call}

theorem alone_settled {handling : Handling} {settlementId : String} {transferId : Uuid}
    {status : InterbankTransferStatus} (handles : call.handling = some handling)
    (targets : handling.Targets settlementId transferId)
    (current : db.status transferId = some status) (final : status ≠ .debited)
    {s : System (service bankId)} (alone : Alone db call s) : s.db = db := by
  refine alone.quiet fun operation next fault out shape performed => ?_
  exact quiet_of_settled handles targets current final shape performed

theorem whole_of_refundable (wellFormed : WellFormed db) (moves : call.movesMoney = true)
    (refundable : call.Refundable db) {s : System (service bankId)} (alone : Alone db call s) :
    s.db = db ∨ Whole bankId call db s.db := by
  have holds : (contract (anyRun bankId)).Verified := verified rfl
  by_cases same : s.db = db
  · exact .inl same
  obtain ⟨locks, commit⟩ :=
    (alone.change holds (single_program bankId) wellFormed trivial fun _ _ =>
      trivial).resolve_left same
  refine .inr ?_
  -- What changes something finds its transfer DEBITED.
  have underway {handling : Handling} {settlementId : String} {transferId : Uuid}
      {status : InterbankTransferStatus}
      (handles : call.handling = some handling) (targets : handling.Targets settlementId transferId)
      (current : db.status transferId = some status) : db.status transferId = some .debited := by
    by_cases debited : status = .debited
    · exact debited ▸ current
    · exact absurd (alone_settled handles targets current debited alone) same
  generalize s.db = later at commit same
  cases commit with
  | opened | published => cases moves
  | seeded row account amountCents bookable payer key payee amount =>
    exact .seeded row account amountCents payer payee amount
  | transferred row id key body bookable affordable requested payee =>
    exact .transferred row id key body requested payee.2
  | debited row draws key body bookable affordable requested payee newEvent interbankLock
      eventLock =>
    exact .debited row draws key body requested payee
  | confirmed _ handling settlementId transferId handles targets confirms statusLock =>
    by_cases debited : db.status transferId = some .debited
    · rw [Database.settle, if_pos debited]
      exact .confirmed call handling settlementId transferId handles targets confirms debited
    · rw [Database.settle, if_neg debited] at same
      exact absurd rfl same
  | compensated _ handling settlementId transferId original handles targets refuses present id known
      bookable statusLock printable =>
    subst id
    obtain ⟨status, current⟩ := known
    have debited := underway handles targets current
    have free : ¬ db.hasKey (reversalOf handling.reversalId settlementId original).idempotencyKey :=
      refundable handling settlementId original.id handles targets refuses printable debited
    have still : (db.book (reversalOf handling.reversalId settlementId original)).status
        original.id = some .debited :=
      debited
    rw [Database.compensate, Database.refund, if_neg free, Database.settle, if_pos still]
    exact .compensated call handling settlementId original handles targets refuses present debited

variable (bankId call) in
theorem torn_of_taken (wellFormed : WellFormed db) {handling : Handling} {settlementId : String}
    {transferId : Uuid} (handles : call.handling = some handling)
    (targets : handling.Targets settlementId transferId) (refuses : ¬ handling.confirms)
    (printable : handling.event.Printable) (debited : db.status transferId = some .debited)
    (taken : db.hasKey (InterbankReplyService.compensationKey settlementId)) :
    ∃ s : System (service bankId), Alone db call s ∧ s.db ≠ db ∧ ¬ Whole bankId call db s.db := by
  obtain ⟨interbank, member, same, -⟩ := mem_of_status debited
  obtain ⟨original, present, spelled, reversible⟩ := wellFormed.reversible member
  obtain rfl : original.id = transferId := spelled.trans same
  have returned := evaluate_handle_refused wellFormed targets present reversible debited refuses
    printable (.inl taken)
  obtain ⟨response, runs⟩ := program_of_handling bankId handles
  have evaluated : (program bankId call).evaluate none db = some ⟨.ok response, none, db.compensate
      (reversalOf handling.reversalId settlementId original) original.id handling.now⟩ := by
    rw [runs]
    exact (Prog.evaluate_bind_ok returned).trans rfl
  have begun : Alone (S := service bankId) db call _ := .start
  obtain ⟨s, -, alone, left_, -, -⟩ := begun.evaluate rfl evaluated
  have booked : (reversalOf handling.reversalId settlementId original).idempotencyKey =
      InterbankReplyService.compensationKey settlementId := rfl
  rw [Database.compensate, Database.refund, if_pos (booked ▸ taken)] at left_
  have marked : s.db.status original.id = some .compensated := by
    rw [left_, status_settle, if_pos ⟨rfl, debited⟩]
  have transfers : s.db.transfers = db.transfers := by
    rw [left_, settle_transfers]
  refine ⟨s, alone, ?_, ?_⟩
  · intro unchanged
    rw [unchanged, debited] at marked
    cases marked
  · generalize s.db = later at marked transfers
    intro whole
    cases whole with
    | seeded | transferred | debited => cases handles
    | confirmed _ other text id handles' targets' confirms debited' =>
      obtain rfl := Option.some.inj (handles.symm.trans handles')
      exact refuses confirms
    | compensated =>
      -- A reversal would make the list of transfers longer.
      exact absurd transfers (by simp [Database.book])

/-- Exactly the refused transfers whose key is taken are not refunded as a whole. -/
theorem refundable_iff (wellFormed : WellFormed db) (moves : call.movesMoney = true) :
    (service bankId).Indivisible (Whole bankId) call db ↔ call.Refundable db := by
  constructor
  · intro whole handling settlementId transferId handles targets refuses printable debited taken
    obtain ⟨s, alone, changed, torn⟩ :=
      torn_of_taken bankId call wellFormed handles targets refuses printable debited taken
    exact (whole s alone).elim changed torn
  · intro refundable s alone
    exact whole_of_refundable wellFormed moves refundable alone

end BankA
