import PaymentLedger.BankA.Idempotency

set_option autoImplicit false

-- A transfer to the suspense account, its interbank row and its settlement request go in
-- together. Nothing else writes any of the three.

namespace BankA

open Transactional InterbankTransfersService

/-- A payer's money on its way out; dev seeds come from the treasury. -/
def TransferRow.outgoing (row : TransferRow) : Bool :=
  decide (row.payeeAccountId = SUSPENSE_ACCOUNT_ID) &&
    decide (row.payerAccountId ≠ DEV_TREASURY_ACCOUNT_ID)

def isRequest (event : Outbox.Row) : Bool := decide (event.eventType = "settlement.requested")

namespace Database

variable (db : Database)

def outgoing : List TransferRow := db.transfers.filter TransferRow.outgoing

def requests : List Outbox.Row := db.outboxEvents.filter isRequest

end Database

structure Asks (bankId : String) (event : Outbox.Row) (transfer : TransferRow)
    (payeeBankId payeeAccountRef : String) :
    Prop where
  aggregate : event.aggregateId = transfer.id
  routing : event.routingKey = SETTLEMENT_REQUESTED_ROUTING_KEY
  payload : event.payload =
    [("settlementId", .str transfer.id.text), ("payerBankId", .str bankId),
     ("payeeBankId", .str payeeBankId),
     ("payeeAccountRef", .str payeeAccountRef), ("amountCents", .num transfer.amount)]

structure Corresponds (bankId : String) (db : Database) : Prop where
  transfers : db.outgoing.map TransferRow.id =
    db.interbankTransfers.map InterbankTransferRow.transferId
  events : db.requests.map Outbox.Row.aggregateId =
    db.interbankTransfers.map InterbankTransferRow.transferId
  asked : ∀ event ∈ db.outboxEvents, isRequest event = true ∧ ∃ transfer ∈ db.outgoing,
    ∃ payeeBankId payeeAccountRef, db.companion transfer.id = some (payeeBankId, payeeAccountRef) ∧
      Asks bankId event transfer payeeBankId payeeAccountRef

section Steps

variable {bankId : String} {call : Call} {locks : List (Lock Resource)} {db db' : Database}

theorem outgoing_book (row : TransferRow) :
    (db.book row).outgoing = db.outgoing ++ if row.outgoing then [row] else [] := by
  unfold Database.outgoing
  cases kept : row.outgoing <;> simp [kept]

theorem not_outgoing {row : TransferRow} (payee : row.payeeAccountId ≠ SUSPENSE_ACCOUNT_ID) :
    row.outgoing = false := by
  simp [TransferRow.outgoing, payee]

theorem requests_map_publish {rows : List Outbox.Row}
    (same : Outbox.SameEvents db.outboxEvents rows) :
    (rows.filter isRequest).map Outbox.Row.aggregateId =
      db.requests.map Outbox.Row.aggregateId := by
  have through (rows : List Outbox.Row) : (rows.filter isRequest).map Outbox.Row.aggregateId =
      ((rows.map fun row => { row with published := false }).filter isRequest).map
      Outbox.Row.aggregateId := by
    rw [List.filter_map, List.map_map]
    rfl
  rw [through, same, ← through]
  rfl

structure Debits (bankId : String) (call : Call) (row : TransferRow)
    (db db' : Database) : Prop where
  asked : ∃ draws key body, call = .interbankTransfer draws key body ∧
    row.Requested draws.id key body.payerAccountId body.amountCents ∧
    db'.companion row.id = some (body.payeeBankId, body.payeeAccountRef) ∧
    db'.outboxEvents = db.outboxEvents ++ [requestedRow bankId draws body row.amount]
  outgoing : db'.outgoing = db.outgoing ++ [row]
  ids : db'.interbankTransfers.map InterbankTransferRow.transferId =
    db.interbankTransfers.map InterbankTransferRow.transferId ++ [row.id]

theorem Commit.debits (wellFormed : WellFormed db) (commit : Commit bankId call locks db db') :
    (∃ row, Debits bankId call row db db') ∨ (db'.outgoing = db.outgoing ∧
      db'.interbankTransfers.map InterbankTransferRow.transferId =
        db.interbankTransfers.map InterbankTransferRow.transferId ∧
      Outbox.SameEvents db.outboxEvents db'.outboxEvents) := by
  cases commit with
  | opened id ownerName new => exact .inr ⟨rfl, rfl, .refl _⟩
  | published rows same => exact .inr ⟨rfl, rfl, same⟩
  | seeded row account amountCents bookable payer key payee =>
    have seed : row.outgoing = false := by simp [TransferRow.outgoing, payer]
    refine .inr ⟨?_, rfl, .refl _⟩
    rw [outgoing_book, seed]
    exact List.append_nil _
  | transferred row id key body bookable affordable requested payee =>
    refine .inr ⟨?_, rfl, .refl _⟩
    rw [outgoing_book, not_outgoing (customer_of_isUUID payee.1 payee.2).1]
    exact List.append_nil _
  | debited row draws key body bookable affordable requested payee newEvent interbankLock
      eventLock =>
    have leaves : row.outgoing = true := by simp [TransferRow.outgoing, payee, affordable.payer.2]
    refine .inl ⟨row, ⟨draws, key, body, rfl, requested, ?_, rfl⟩, ?_, ?_⟩
    · have new := wellFormed.companion_new bookable.newId
      rw [requested.id] at new ⊢
      have new : db.companion (interbankRow draws body).transferId = none := new
      exact companion_debit new
    · have booked : (db.book row).outgoing = db.outgoing ++
          if row.outgoing then [row] else [] := outgoing_book row
      rw [leaves] at booked
      exact booked
    · simp [Database.debit, interbankRow, requested.id]
  | confirmed _ handling settlementId transferId handles targets confirms statusLock =>
    refine .inr ⟨by simp [Database.outgoing], settle_ids _ _ _ _, ?_⟩
    rw [settle_outboxEvents]
    exact .refl _
  | compensated _ handling settlementId transferId original handles targets refuses present same
      known bookable statusLock =>
    -- The reversal leaves the suspense account.
    obtain ⟨status, current⟩ := known
    obtain ⟨interbank, member, target, -⟩ := mem_of_status current
    obtain ⟨paid, paidPresent, paidId, payer, -⟩ := wellFormed.interbank interbank member
    obtain rfl := transfer_ext wellFormed paidPresent present (paidId.trans
      (target.trans same.symm))
    have back : (reversalOf handling.reversalId settlementId paid).payeeAccountId ≠
        SUSPENSE_ACCOUNT_ID := payer.1
    have refund : (db.refund (reversalOf handling.reversalId settlementId paid)).outgoing =
        db.outgoing ∧
        (db.refund (reversalOf handling.reversalId settlementId paid)).outboxEvents =
        db.outboxEvents := by
      unfold Database.refund
      split
      · exact ⟨rfl, rfl⟩
      · rw [outgoing_book, not_outgoing back]
        exact ⟨List.append_nil _, rfl⟩
    refine .inr ⟨?_, ?_, ?_⟩
    · rw [← refund.1]
      simp [Database.outgoing, Database.compensate]
    · rw [Database.compensate, settle_ids, refund_interbankTransfers]
    · rw [Database.compensate, settle_outboxEvents, refund.2]
      exact .refl _

theorem Commit.corresponds (wellFormed : WellFormed db) (commit : Commit bankId call locks db db')
    (corresponds : Corresponds bankId db) : Corresponds bankId db' := by
  have frame := commit.frame wellFormed
  have kept {event : Outbox.Row} (member : event ∈ db.outboxEvents)
      (included : db.outgoing ⊆ db'.outgoing) :
      isRequest event = true ∧ ∃ transfer ∈ db'.outgoing, ∃ payeeBankId payeeAccountRef,
        db'.companion transfer.id = some (payeeBankId, payeeAccountRef) ∧
          Asks bankId event transfer payeeBankId payeeAccountRef := by
    obtain ⟨request, transfer, present, payeeBankId, payeeAccountRef, companion, asks⟩ :=
      corresponds.asked event member
    refine ⟨request, transfer, included present, payeeBankId, payeeAccountRef, ?_, asks⟩
    rw [frame.companions transfer (List.mem_filter.mp present).1]
    exact companion
  rcases commit.debits wellFormed with ⟨row, ⟨draws, key, body, -, requested, companion, events⟩,
    outgoing, ids⟩ |
    ⟨outgoing, ids, events⟩
  · refine ⟨?_, ?_, ?_⟩
    · rw [outgoing, ids, List.map_append, corresponds.transfers]
      rfl
    · rw [Database.requests, events, ids, List.filter_append, List.map_append, ← corresponds.events]
      simp [Database.requests, isRequest, requestedRow, requested.id]
    · intro event member
      rw [events] at member
      rcases List.mem_append.mp member with old | new
      · exact kept old (outgoing ▸ List.subset_append_left _ _)
      · obtain rfl := List.mem_singleton.mp new
        refine ⟨rfl, row, outgoing ▸ (by simp), body.payeeBankId, body.payeeAccountRef, companion,
          requested.id.symm, rfl, ?_⟩
        simp only [requestedRow, requested.id]
  · refine ⟨?_, ?_, ?_⟩
    · rw [outgoing, ids]
      exact corresponds.transfers
    · rw [ids, ← corresponds.events]
      exact requests_map_publish events
    · intro event member
      obtain ⟨before, present, equal⟩ := events.mem member
      obtain ⟨request, transfer, known, payeeBankId, payeeAccountRef, companion, asks⟩ :=
        kept present (outgoing ▸ List.Subset.refl _)
      have flags {α : Type} (read : Outbox.Row → α)
          (blind : ∀ row, read { row with published := false } = read row) :
          read before = read event :=
          (blind before).symm.trans ((congrArg read equal).trans (blind event))
      refine ⟨(flags isRequest fun _ => rfl) ▸ request, transfer, known, payeeBankId,
        payeeAccountRef, companion, ?_⟩
      exact
        { aggregate := (flags Outbox.Row.aggregateId fun _ => rfl) ▸ asks.aggregate
          routing := (flags Outbox.Row.routingKey fun _ => rfl) ▸ asks.routing
          payload := (flags Outbox.Row.payload fun _ => rfl) ▸ asks.payload }

end Steps

section Runs

variable {bankId : String} {scope : Scope (service bankId)} {s : System (service bankId)}

theorem Reachable.corresponds (fresh : scope.initial = migrated) (reachable : Reachable scope s) :
    Corresponds bankId s.db := by
  refine reachable.invariant (verified fresh) (Corresponds bankId) ?_ ?_
  · rw [fresh]
    exact ⟨rfl, rfl, by simp [migrated]⟩
  · intro call locks db db' wellFormed changes corresponds
    exact Commit.corresponds wellFormed changes.2.2 corresponds

def Ordered (started : Call → Prop) (db : Database) : Prop :=
  ∀ transfer ∈ db.outgoing, ∃ draws key body, started (.interbankTransfer draws key body) ∧
    transfer.Requested draws.id key body.payerAccountId body.amountCents ∧
    db.companion transfer.id = some (body.payeeBankId, body.payeeAccountRef)

theorem Reachable.ordered (fresh : scope.initial = migrated) (reachable : Reachable scope s) :
    Ordered s.Started s.db := by
  refine reachable.attributed (verified fresh) Ordered ?_ ?_ ?_
  · rw [fresh]
    intro started transfer member
    simp [Database.outgoing, migrated] at member
  · intro started further db includes ordered transfer member
    obtain ⟨draws, key, body, run, facts⟩ := ordered transfer member
    exact ⟨draws, key, body, includes _ run, facts⟩
  · intro started call locks db db' wellFormed now changes ordered
    have frame := Commit.frame wellFormed changes.2.2
    have kept (transfer : TransferRow) (member : transfer ∈ db.outgoing) : ∃ draws key body,
        started (.interbankTransfer draws key body) ∧
        transfer.Requested draws.id key body.payerAccountId body.amountCents ∧
        db'.companion transfer.id = some (body.payeeBankId, body.payeeAccountRef) := by
      rw [frame.companions transfer (List.mem_filter.mp member).1]
      exact ordered transfer member
    intro transfer member
    rcases Commit.debits wellFormed changes.2.2 with
      ⟨row, ⟨draws, key, body, rfl, requested, companion, -⟩, outgoing, -⟩ | ⟨outgoing, -⟩
    · rw [outgoing] at member
      rcases List.mem_append.mp member with old | new
      · exact kept transfer old
      · obtain rfl := List.mem_singleton.mp new
        exact ⟨draws, key, body, now, requested, companion⟩
    · exact kept transfer (outgoing ▸ member)

end Runs

end BankA
