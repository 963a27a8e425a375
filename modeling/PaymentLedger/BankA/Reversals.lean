import PaymentLedger.BankA.Idempotency

set_option autoImplicit false

-- The reversal of a transfer is known by its key, `compensation-` and the id of the transfer.
-- Client keys, seed keys and these share one column.

namespace BankA

open Transactional InterbankReplyService

theorem compensationKey_injective {left right : String}
    (same : compensationKey left = compensationKey right) : left = right := by
  have lists := congrArg String.toList same
  simp only [compensationKey, String.toList_append, List.append_cancel_left_eq] at lists
  exact String.toList_injective lists

theorem compensationKey_ne_seedKey (left right : String) :
    compensationKey left ≠ AccountsService.seedKey right := by
  intro same
  have lists := congrArg String.toList same
  simp [compensationKey, AccountsService.seedKey] at lists

/-- Ids in outcomes are spelled as the Hub's database spells them. -/
def Call.Canonical (call : Call) : Prop :=
  ∀ handling settlementId transferId, call.handling = some handling →
    handling.Targets settlementId transferId → settlementId = transferId.text

def Reserved (key : String) : Prop := "compensation-".toList <+: key.toList

instance (key : String) : Decidable (Reserved key) := by
  unfold Reserved
  infer_instance

theorem reserved_compensationKey (transferId : String) : Reserved (compensationKey transferId) := by
  refine ⟨transferId.toList, ?_⟩
  rw [compensationKey, String.toList_append]

def Call.Unreserved (call : Call) : Prop :=
  ∀ request key, call.request = some request → request.idempotencyKey = some key → ¬ Reserved key

def Call.Refuses (call : Call) (transferId reversalId : Uuid) (settlementId : String) : Prop :=
  ∃ handling, call.handling = some handling ∧ handling.reversalId = reversalId ∧
    handling.Targets settlementId transferId ∧ ¬ handling.confirms

inductive Origin (call : Call) (row : TransferRow) (db db' : Database) : Prop where
  | seed (payer : row.payerAccountId = DEV_TREASURY_ACCOUNT_ID)
      (key : row.idempotencyKey = AccountsService.seedKey row.id.text)
  | client (request : Request) (asked : call.request = some request)
      (payer : Customer row.payerAccountId) (key : request.idempotencyKey = some row.idempotencyKey)
  | refund (reversalId : Uuid) (settlementId : String) (original : TransferRow)
      (refuses : call.Refuses original.id reversalId settlementId)
      (present : original ∈ db.transfers) (known : ∃ status, db.status original.id = some status)
      (row_eq : row = reversalOf reversalId settlementId original)
      (turned : db.status original.id = some .debited → db'.status original.id = some .compensated)

inductive Turn (call : Call) (transferId : Uuid) (db db' : Database) : InterbankTransferStatus →
    Prop where
  | debited (new : ¬ db.hasTransfer transferId) : Turn call transferId db db' .debited
  | confirmed (handling : Handling) (settlementId : String)
      (handles : call.handling = some handling)
      (targets : handling.Targets settlementId transferId) (confirms : handling.confirms)
      (before : db.status transferId = some .debited) : Turn call transferId db db' .confirmed
  | compensated (reversalId : Uuid) (settlementId : String)
      (refuses : call.Refuses transferId reversalId settlementId)
      (before : db.status transferId = some .debited)
      (taken : db'.hasKey (compensationKey settlementId)) :
      Turn call transferId db db' .compensated

theorem Commit.origin {bankId : String} {call : Call} {locks : List (Lock Resource)}
    {db db' : Database} (commit : Commit bankId call locks db db') {row : TransferRow}
    (present : row ∈ db'.transfers) :
    row ∈ db.transfers ∨ (¬ db.hasKey row.idempotencyKey ∧ Origin call row db db') := by
  cases commit with
  | opened id ownerName new => exact .inl present
  | published rows same => exact .inl present
  | seeded added account amountCents bookable payer key =>
    rcases List.mem_append.mp present with old | new
    · exact .inl old
    · obtain rfl := List.mem_singleton.mp new
      exact .inr ⟨bookable.newKey, .seed payer key⟩
  | transferred added id key body bookable affordable requested payee =>
    rcases List.mem_append.mp present with old | new
    · exact .inl old
    · obtain rfl := List.mem_singleton.mp new
      exact .inr ⟨bookable.newKey, .client _ rfl affordable.payer requested.key⟩
  | debited added draws key body bookable affordable requested payee newEvent interbankLock
      eventLock =>
    rcases List.mem_append.mp present with old | new
    · exact .inl old
    · obtain rfl := List.mem_singleton.mp new
      exact .inr ⟨bookable.newKey, .client _ rfl affordable.payer requested.key⟩
  | confirmed _ handling settlementId transferId handles targets confirms statusLock =>
    rw [settle_transfers] at present
    exact .inl present
  | compensated _ handling settlementId transferId original handles targets refuses old same known
      bookable statusLock =>
    subst same
    have turned (debited : db.status original.id = some .debited) :
        (db.compensate (reversalOf handling.reversalId settlementId original) original.id
          handling.now).status original.id = some .compensated := by
      simp [Database.compensate, status_settle, debited]
    rw [Database.compensate, settle_transfers, Database.refund] at present
    split at present
    · exact .inl present
    · rename_i newKey
      rcases List.mem_append.mp present with old | new
      · exact .inl old
      · obtain rfl := List.mem_singleton.mp new
        exact .inr ⟨newKey, .refund handling.reversalId settlementId original
          ⟨handling, handles, rfl, targets, refuses⟩ old known rfl turned⟩

theorem hasKey_refund (db : Database) (reversal : TransferRow) :
    (db.refund reversal).hasKey reversal.idempotencyKey := by
  unfold Database.refund
  split
  · assumption
  · rw [hasKey_book]
    exact .inr rfl

theorem Commit.turn {bankId : String} {call : Call} {locks : List (Lock Resource)}
    {db db' : Database} (wellFormed : WellFormed db) (commit : Commit bankId call locks db db')
    {transferId : Uuid} {status : InterbankTransferStatus}
    (found : db'.status transferId = some status) :
    db.status transferId = some status ∨ Turn call transferId db db' status := by
  cases commit with
  | opened id ownerName new => exact .inl found
  | published rows same => exact .inl found
  | seeded added account amountCents bookable payer key => exact .inl found
  | transferred added id key body bookable affordable requested payee => exact .inl found
  | debited added draws key body bookable affordable requested payee newEvent interbankLock
      eventLock =>
    by_cases same : draws.id = transferId
    · subst same
      obtain ⟨row, member, id, rfl⟩ := mem_of_status found
      rcases List.mem_append.mp member with old | new
      · obtain ⟨transfer, present, sameId, -⟩ := wellFormed.interbank row old
        apply absurd _ bookable.newId
        rw [requested.id, ← id, ← sameId]
        exact List.mem_map_of_mem present
      · obtain rfl := List.mem_singleton.mp new
        exact .inr (.debited (requested.id ▸ bookable.newId))
    · refine .inl ?_
      have apart : (interbankRow draws body).transferId ≠ transferId := same
      simpa only [Database.status, Database.debit, find?_append_of_ne apart] using found
  | confirmed _ handling settlementId other handles targets confirms statusLock =>
    rw [status_settle] at found
    split at found
    · rename_i both
      obtain ⟨rfl, before⟩ := both
      obtain rfl := Option.some.inj found
      exact .inr (.confirmed handling settlementId handles targets confirms before)
    · exact .inl found
  | compensated _ handling settlementId other original handles targets refuses old same known
      bookable statusLock =>
    have taken : (db.compensate (reversalOf handling.reversalId settlementId original) other
        handling.now).hasKey (compensationKey settlementId) := by
      rw [Database.compensate, settle_hasKey]
      exact hasKey_refund db (reversalOf handling.reversalId settlementId original)
    rw [Database.compensate, status_settle, refund_status] at found
    split at found
    · rename_i both
      obtain ⟨rfl, before⟩ := both
      obtain rfl := Option.some.inj found
      exact .inr (.compensated handling.reversalId settlementId
        ⟨handling, handles, rfl, targets, refuses⟩
        before taken)
    · exact .inl (by simpa using found)

section Invariants

/-- Whatever the suspense account pays out is the reversal of a known transfer. -/
def Refunds (db : Database) : Prop :=
  ∀ row ∈ db.transfers, row.payerAccountId = SUSPENSE_ACCOUNT_ID → ∃ original ∈ db.transfers,
    row.idempotencyKey = compensationKey original.id.text ∧
    row.payeeAccountId = original.payerAccountId ∧ row.amount = original.amount

def KeyTaken (db : Database) : Prop :=
  ∀ transferId, db.status transferId = some .compensated →
    db.hasKey (compensationKey transferId.text)

def KeysReserved (db : Database) : Prop :=
  ∀ row ∈ db.transfers, Reserved row.idempotencyKey → row.payerAccountId = SUSPENSE_ACCOUNT_ID

variable {bankId : String} {call : Call} {locks : List (Lock Resource)} {db db' : Database}

theorem Call.Refuses.canonical {transferId reversalId : Uuid} {settlementId : String}
    (refuses : call.Refuses transferId reversalId settlementId) (canonical : call.Canonical) :
    settlementId = transferId.text := by
  obtain ⟨handling, handles, -, targets, -⟩ := refuses
  exact canonical handling settlementId transferId handles targets

theorem Commit.refunds (wellFormed : WellFormed db) (commit : Commit bankId call locks db db')
    (canonical : call.Canonical) (refunds : Refunds db) : Refunds db' := by
  have frame := commit.frame wellFormed
  intro row present payer
  rcases commit.origin present with old | ⟨newKey, origin⟩
  · obtain ⟨original, known, facts⟩ := refunds row old payer
    exact ⟨original, frame.transfers original known, facts⟩
  · cases origin with
    | seed treasury key => exact absurd (payer.symm.trans treasury) (by decide)
    | client request asked customer key => exact absurd payer customer.1
    | refund reversalId settlementId original refuses known status row_eq turned =>
      obtain rfl := refuses.canonical canonical
      subst row_eq
      exact ⟨original, frame.transfers original known, rfl, rfl, rfl⟩

theorem Commit.keyTaken (wellFormed : WellFormed db) (commit : Commit bankId call locks db db')
    (canonical : call.Canonical) (taken : KeyTaken db) : KeyTaken db' := by
  have frame := commit.frame wellFormed
  intro transferId found
  rcases commit.turn wellFormed found with old | turn
  · obtain ⟨row, present, same⟩ := List.mem_map.mp (taken transferId old)
    exact List.mem_map.mpr ⟨row, frame.transfers row present, same⟩
  · cases turn with
    | compensated reversalId settlementId refuses before taken' =>
      obtain rfl := refuses.canonical canonical
      exact taken'

theorem Commit.keysReserved (commit : Commit bankId call locks db db')
    (unreserved : call.Unreserved) (reserved : KeysReserved db) : KeysReserved db' := by
  intro row present prefixed
  rcases commit.origin present with old | ⟨newKey, origin⟩
  · exact reserved row old prefixed
  · cases origin with
    | seed treasury key =>
      obtain ⟨rest, same⟩ := prefixed
      rw [key, AccountsService.seedKey, String.toList_append] at same
      simp at same
    | client request asked customer key => exact absurd prefixed (unreserved request _ asked key)
    | refund reversalId settlementId original refuses known status row_eq turned => rw [row_eq]; rfl

end Invariants

end BankA
