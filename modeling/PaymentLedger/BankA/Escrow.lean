import PaymentLedger.BankA.Transit
import PaymentLedger.Shared.Escrow

set_option autoImplicit false

-- Its customers hold accounts, a dev seed issues money to one of them, and the suspense account is
-- where the
-- money of a payment is while it is on its way.

namespace BankA

open Transactional InterbankReplyService

instance (accountId : Uuid) : Decidable (Customer accountId) :=
  inferInstanceAs (Decidable
    (accountId ≠ SUSPENSE_ACCOUNT_ID ∧ accountId ≠ DEV_TREASURY_ACCOUNT_ID))

namespace Database

variable (db : Database)

def customerBalance (accountId : Uuid) : Int :=
  if Customer accountId then db.balanceOf accountId else 0

def owed (status : InterbankTransferStatus) (transferId : Uuid) : Int :=
  if db.status transferId = some status then db.amountOf transferId else 0

def payerOf (transferId : Uuid) : Option Uuid :=
  if (db.status transferId).isSome then
    (db.transfers.find? fun row => row.id = transferId).map TransferRow.payerAccountId
  else none

/-- What the dev seeds have issued to customers. -/
def seeded : Int :=
  ((db.transfers.filter fun row =>
    decide (row.payerAccountId = DEV_TREASURY_ACCOUNT_ID ∧ Customer row.payeeAccountId)).map
    TransferRow.amount).sum

theorem customerBalance_support (accountId : Uuid) (nonzero : db.customerBalance accountId ≠ 0) :
    accountId ∈ (db.postings.map DoubleEntry.Posting.account).toFinset := by
  by_contra absent
  have none_ : (db.postings.filter fun posting => posting.account = accountId) = [] := by
    rw [List.filter_eq_nil_iff]
    intro posting member
    simp only [decide_eq_true_eq]
    rintro rfl
    exact absent (List.mem_toFinset.mpr (List.mem_map_of_mem member))
  simp [customerBalance, balanceOf, DoubleEntry.balance, none_] at nonzero

theorem owed_support (status : InterbankTransferStatus) (transferId : Uuid)
    (nonzero : db.owed status transferId ≠ 0) :
    transferId ∈ (db.interbankTransfers.map InterbankTransferRow.transferId).toFinset := by
  unfold owed at nonzero
  split at nonzero
  · rename_i found
    obtain ⟨row, member, rfl, -⟩ := mem_of_status found
    exact List.mem_toFinset.mpr (List.mem_map_of_mem member)
  · exact absurd rfl nonzero

noncomputable def customers : Uuid →₀ ℤ := .onFinset _ db.customerBalance db.customerBalance_support

noncomputable def leaving (status : InterbankTransferStatus) : Uuid →₀ ℤ :=
  .onFinset _ (db.owed status) (db.owed_support status)

noncomputable def escrow : Escrow.Books Uuid Uuid where
  balances := db.customers
  held := db.leaving .debited
  paid := db.leaving .confirmed
  payer := db.payerOf

@[simp] theorem customers_apply (accountId : Uuid) :
    db.customers accountId = db.customerBalance accountId := rfl

@[simp] theorem leaving_apply (status : InterbankTransferStatus) (transferId : Uuid) :
    db.leaving status transferId = db.owed status transferId := rfl

end Database

section Steps

variable {bankId : String} {call : Call} {locks : List (Lock Resource)} {db db' : Database}
    {row : TransferRow}

theorem customers_book : (db.book row).customers = db.customers +
    ((if Customer row.payeeAccountId then Finsupp.single row.payeeAccountId row.amount else 0) -
      if Customer row.payerAccountId then Finsupp.single row.payerAccountId row.amount else 0) := by
  ext accountId
  have moved : (db.book row).balanceOf accountId = db.balanceOf accountId +
      ((if row.payeeAccountId = accountId then row.amount else 0) -
        if row.payerAccountId = accountId then row.amount else 0) :=
    (balanceOf_book db row accountId).trans
      (congrArg _ (DoubleEntry.balance_movement row.movement accountId))
  have part (other : Uuid) :
      (if Customer other then Finsupp.single other row.amount else (0 : Uuid →₀ ℤ)) accountId =
      if Customer accountId then (if other = accountId then row.amount else 0) else 0 := by
    by_cases same : other = accountId
    · subst same
      split <;> simp
    · split <;> split <;> simp [Finsupp.single_eq_of_ne (Ne.symm same)]
  rw [Finsupp.add_apply, Finsupp.sub_apply, part, part]
  simp only [Database.customers_apply, Database.customerBalance, moved]
  split
  · rfl
  · rfl

theorem owed_book (wellFormed : WellFormed db) (row : TransferRow)
    (status : InterbankTransferStatus) (transferId : Uuid) :
    (db.book row).owed status transferId = db.owed status transferId ∧
      (db.book row).payerOf transferId = db.payerOf transferId := by
  have found (known : (db.status transferId).isSome = true) :
      (db.book row).transfers.find? (fun row => row.id = transferId) = db.transfers.find? fun row =>
      row.id = transferId := by
    obtain ⟨now, current⟩ := Option.isSome_iff_exists.mp known
    obtain ⟨interbank, member, rfl, -⟩ := mem_of_status current
    obtain ⟨transfer, present, same, -⟩ := wellFormed.interbank interbank member
    have there : (db.transfers.find? fun row => row.id = interbank.transferId).isSome = true := by
      rw [List.find?_isSome]
      exact ⟨transfer, present, by simpa using same⟩
    obtain ⟨first, found⟩ := Option.isSome_iff_exists.mp there
    simp [Database.book, List.find?_append, found]
  constructor
  · unfold Database.owed Database.amountOf
    rw [book_status]
    split
    · rename_i current
      rw [found (Option.isSome_of_eq_some current)]
    · rfl
  · unfold Database.payerOf
    rw [book_status]
    split
    · rename_i known
      rw [found known]
    · rfl

theorem leaving_book (wellFormed : WellFormed db) (status : InterbankTransferStatus) :
    (db.book row).leaving status = db.leaving status :=
  Finsupp.ext fun transferId => (owed_book wellFormed row status transferId).1

theorem escrow_book (wellFormed : WellFormed db) :
    (db.book row).escrow = { db.escrow with balances := (db.book row).customers } := by
  have payers : (db.book row).payerOf = db.payerOf :=
    funext fun transferId => (owed_book wellFormed row .debited transferId).2
  simp only [Database.escrow, leaving_book wellFormed, payers]

theorem seeded_book (db : Database) (row : TransferRow) : (db.book row).seeded = db.seeded +
    if row.payerAccountId = DEV_TREASURY_ACCOUNT_ID ∧ Customer row.payeeAccountId then row.amount else 0 := by
  unfold Database.seeded Database.book
  by_cases issues : row.payerAccountId = DEV_TREASURY_ACCOUNT_ID ∧ Customer row.payeeAccountId
  · rw [List.filter_append, if_pos issues]
    simp [issues]
  · rw [List.filter_append, if_neg issues]
    simp [issues]

section Settling

variable {transferId : Uuid} {status : InterbankTransferStatus} {now : Int}

theorem owed_settle (debited : db.status transferId = some .debited) (other : Uuid)
    (asked : InterbankTransferStatus) :
    (db.settle transferId status now).owed asked other =
      if other = transferId then (if asked = status then db.amountOf transferId else 0) else db.owed asked other := by
  have amounts : (db.settle transferId status now).amountOf = db.amountOf := by
    funext id
    simp [Database.amountOf]
  unfold Database.owed
  rw [amounts, status_settle]
  by_cases same : other = transferId
  · subst same
    simp [debited, eq_comm]
  · simp [same]

theorem leaving_settle (debited : db.status transferId = some .debited)
    (final : status ≠ .debited) :
    (db.settle transferId status now).leaving .debited =
      db.leaving .debited - Finsupp.single transferId (db.amountOf transferId) := by
  refine Finsupp.ext fun other => ?_
  rw [Database.leaving_apply, owed_settle debited]
  by_cases same : other = transferId
  · subst same
    simp [Ne.symm final, Database.owed, debited]
  · simp [same, Finsupp.single_eq_of_ne same]

theorem leaving_settle_confirmed (debited : db.status transferId = some .debited) :
    (db.settle transferId status now).leaving .confirmed = db.leaving .confirmed +
      if status = .confirmed then Finsupp.single transferId (db.amountOf transferId) else 0 := by
  refine Finsupp.ext fun other => ?_
  rw [Database.leaving_apply, owed_settle debited]
  by_cases same : other = transferId
  · subst same
    cases status <;> simp [Database.owed, debited]
  · rw [if_neg same]
    cases status <;> simp [Finsupp.single_eq_of_ne same]

theorem payerOf_settle : (db.settle transferId status now).payerOf = db.payerOf := by
  funext other
  unfold Database.payerOf
  rw [settle_transfers, status_settle]
  split
  · rename_i both
    simp [both.1, both.2]
  · rfl

theorem customers_settle : (db.settle transferId status now).customers = db.customers := by
  refine Finsupp.ext fun accountId => ?_
  simp [Database.customerBalance]

theorem escrow_settle (debited : db.status transferId = some .debited) (final : status ≠ .debited) :
    (db.settle transferId status now).escrow =
      { db.escrow with
        held := db.leaving .debited - Finsupp.single transferId (db.amountOf transferId)
        paid := db.leaving .confirmed +
          if status = .confirmed then Finsupp.single transferId (db.amountOf transferId) else 0 } := by
  simp only [Database.escrow, customers_settle, leaving_settle debited final,
    leaving_settle_confirmed debited, payerOf_settle]

theorem seeded_settle : (db.settle transferId status now).seeded = db.seeded := by
  unfold Database.seeded
  rw [settle_transfers]

theorem underway (wellFormed : WellFormed db) (debited : db.status transferId = some .debited) :
    ∃ transfer ∈ db.transfers, transfer.id = transferId ∧ Customer transfer.payerAccountId ∧
      db.amountOf transferId = transfer.amount ∧ 0 < transfer.amount ∧
      db.escrow.held transferId = transfer.amount ∧
      db.escrow.payer transferId = some transfer.payerAccountId := by
  obtain ⟨interbank, member, rfl, -⟩ := mem_of_status debited
  obtain ⟨transfer, present, same, customer, -⟩ := wellFormed.interbank interbank member
  have amount := amountOf_of_mem wellFormed present
  rw [same] at amount
  refine ⟨transfer, present, same, customer, amount, (wellFormed.checked transfer present).2.2.1,
    ?_, ?_⟩
  · exact (if_pos debited).trans amount
  · cases first : db.transfers.find? fun row => row.id = interbank.transferId with
    | none =>
      have absent := List.find?_eq_none.mp first transfer present
      simp [same] at absent
    | some other =>
      have id := List.find?_some first
      simp only [decide_eq_true_eq] at id
      obtain rfl := transfer_ext wellFormed (List.mem_of_find?_eq_some first) present (id.trans
        same.symm)
      simp [Database.escrow, Database.payerOf, debited, first]

end Settling

section Debiting

variable {interbank : InterbankTransferRow} (event : Outbox.Row)

theorem status_debit (wellFormed : WellFormed db) (new : ¬ db.hasTransfer row.id)
    (own : interbank.transferId = row.id) (opened : interbank.status = .debited)
    (transferId : Uuid) :
    (db.debit row interbank event).status transferId =
      if transferId = row.id then some .debited else db.status transferId := by
  have unknown : db.interbankTransfers.find? (fun other => other.transferId = row.id) = none := by
    rw [List.find?_eq_none]
    intro other member same
    obtain ⟨transfer, present, id, -⟩ := wellFormed.interbank other member
    exact new (List.mem_map.mpr ⟨transfer, present, id.trans (of_decide_eq_true same)⟩)
  unfold Database.status Database.debit
  rw [List.find?_append]
  by_cases same : transferId = row.id
  · subst same
    simp [unknown, own, opened]
  · simp [own, Ne.symm same, same]

theorem amountOf_debit (interbank : InterbankTransferRow) (new : ¬ db.hasTransfer row.id) :
    (db.debit row interbank event).amountOf row.id = row.amount ∧
      (db.debit row interbank event).transfers.find? (fun other => other.id = row.id) =
      some row := by
  have unknown : db.transfers.find? (fun other => other.id = row.id) = none := by
    rw [List.find?_eq_none]
    intro other present same
    exact new (List.mem_map.mpr ⟨other, present, of_decide_eq_true same⟩)
  have found : (db.debit row interbank event).transfers.find? (fun other => other.id = row.id) =
      some row := by
    simp [Database.debit, Database.book, List.find?_append, unknown]
  exact ⟨by simp [Database.amountOf, found], found⟩

theorem status_of_new (wellFormed : WellFormed db) (new : ¬ db.hasTransfer row.id) :
    db.status row.id = none := by
  by_contra known
  obtain ⟨now, current⟩ := Option.ne_none_iff_exists'.mp known
  obtain ⟨other, member, same, -⟩ := mem_of_status current
  obtain ⟨transfer, present, id, -⟩ := wellFormed.interbank other member
  exact new (List.mem_map.mpr ⟨transfer, present, id.trans same⟩)

theorem escrow_debit (wellFormed : WellFormed db) (new : ¬ db.hasTransfer row.id)
    (own : interbank.transferId = row.id) (opened : interbank.status = .debited) :
    (db.debit row interbank event).escrow =
      { db.escrow with
        balances := (db.book row).customers
        held := db.leaving .debited + Finsupp.single row.id row.amount
        payer := Function.update db.payerOf row.id (some row.payerAccountId) } := by
  have status := status_debit event wellFormed new own opened
  obtain ⟨amount, found⟩ := amountOf_debit event interbank new
  have absent := status_of_new wellFormed new
  have others (transferId : Uuid) (different : transferId ≠ row.id)
      (asked : InterbankTransferStatus) :
      (db.debit row interbank event).owed asked transferId =
      (db.book row).owed asked transferId := by
    unfold Database.owed
    rw [status, if_neg different, book_status]
    rfl
  have held : (db.debit row interbank event).leaving .debited = db.leaving .debited +
      Finsupp.single row.id row.amount := by
    refine Finsupp.ext fun transferId => ?_
    by_cases same : transferId = row.id
    · subst same
      simp [Database.owed, status, amount, absent]
    · simp [others transferId same, (owed_book wellFormed row .debited transferId).1,
        Finsupp.single_eq_of_ne same]
  have paid : (db.debit row interbank event).leaving .confirmed = db.leaving .confirmed := by
    refine Finsupp.ext fun transferId => ?_
    by_cases same : transferId = row.id
    · subst same
      simp [Database.owed, status, absent]
    · simp [others transferId same, (owed_book wellFormed row .confirmed transferId).1]
  have payer : (db.debit row interbank event).payerOf =
      Function.update db.payerOf row.id (some row.payerAccountId) := by
    funext transferId
    by_cases same : transferId = row.id
    · subst same
      simp [Database.payerOf, status, found]
    · rw [Function.update_of_ne same, ← (owed_book wellFormed row .debited transferId).2]
      unfold Database.payerOf
      rw [status, if_neg same, book_status]
      rfl
  have balances : (db.debit row interbank event).customers = (db.book row).customers := rfl
  simp only [Database.escrow, held, paid, payer, balances]

end Debiting

/-- The books after a commit: as they were, or one step further. -/
def Advances (db db' : Database) : Prop :=
  db'.escrow = db.escrow ∧ db'.seeded = db.seeded ∨
    ∃ amount, Escrow.Step db.escrow amount db'.escrow ∧ db'.seeded = db.seeded + amount

theorem funded {locks : List (Lock Resource)} (affordable : row.Affordable locks db) :
    row.amount ≤ db.escrow.balances row.payerAccountId :=
  affordable.funds.trans (if_pos affordable.payer).ge

theorem suspense_not_customer : ¬ Customer SUSPENSE_ACCOUNT_ID := fun customer => customer.1 rfl

theorem unissued (other : row.payerAccountId ≠ DEV_TREASURY_ACCOUNT_ID) :
    (db.book row).seeded = db.seeded + 0 := by
  rw [seeded_book, if_neg fun both => other both.1]

theorem advances_seed (wellFormed : WellFormed db) (bookable : row.Bookable locks db)
    (payer : row.payerAccountId = DEV_TREASURY_ACCOUNT_ID) : Advances db (db.book row) := by
  have treasury : ¬ Customer row.payerAccountId := fun customer => customer.2 payer
  have issued := seeded_book db row
  rw [Advances, escrow_book wellFormed, customers_book, if_neg treasury, sub_zero]
  by_cases customer : Customer row.payeeAccountId
  · rw [if_pos ⟨payer, customer⟩] at issued
    rw [if_pos customer]
    exact .inr ⟨row.amount, .issue _ _ _ bookable.checked.2.2.1, issued⟩
  · rw [if_neg fun both => customer both.2] at issued
    rw [if_neg customer, add_zero]
    exact .inl ⟨rfl, issued.trans (add_zero _)⟩

theorem advances_transfer (wellFormed : WellFormed db) (bookable : row.Bookable locks db)
    (affordable : row.Affordable locks db) (customer : Customer row.payeeAccountId) :
    Advances db (db.book row) := by
  have step := Escrow.Step.transfer db.escrow _ row.payeeAccountId _ bookable.checked.2.2.1
    (funded affordable)
  rw [Advances, escrow_book wellFormed, customers_book, if_pos customer, if_pos affordable.payer,
    ← add_sub_assoc, add_sub_right_comm]
  exact .inr ⟨0, step, unissued affordable.payer.2⟩

theorem advances_debit {interbank : InterbankTransferRow} (event : Outbox.Row)
    (wellFormed : WellFormed db) (bookable : row.Bookable locks db)
    (affordable : row.Affordable locks db) (payee : row.payeeAccountId = SUSPENSE_ACCOUNT_ID)
    (own : interbank.transferId = row.id) (opened : interbank.status = .debited) :
    Advances db (db.debit row interbank event) := by
  have payments := escrow_debit event wellFormed bookable.newId own opened
  have unmade : db.escrow.payer row.id = none := by
    simp [Database.escrow, Database.payerOf, status_of_new wellFormed bookable.newId]
  have step := Escrow.Step.hold db.escrow row.id _ _ unmade bookable.checked.2.2.1
    (funded affordable)
  have outside : ¬ Customer row.payeeAccountId := payee ▸ suspense_not_customer
  rw [Advances, payments, customers_book, if_neg outside, if_pos affordable.payer, zero_sub,
    ← sub_eq_add_neg]
  exact .inr ⟨0, step, unissued affordable.payer.2⟩

theorem advances_confirm (wellFormed : WellFormed db) (transferId : Uuid) (now : Int) :
    Advances db (db.settle transferId .confirmed now) := by
  by_cases debited : db.status transferId = some .debited
  · obtain ⟨transfer, present, same, customer, amount, positive, held, payer⟩ :=
      underway wellFormed debited
    have step := Escrow.Step.pay db.escrow transferId _ held positive
    rw [Advances, escrow_settle debited (by decide), if_pos rfl, amount, seeded_settle]
    exact .inr ⟨0, step, (add_zero _).symm⟩
  · rw [Database.settle, if_neg debited]
    exact .inl ⟨rfl, rfl⟩

theorem advances_refund (wellFormed : WellFormed db) {transfer : TransferRow}
    (present : transfer ∈ db.transfers) (current : db.status transfer.id = some .debited)
    (reversalId : Uuid) (settlementId : String) (now : Int)
    (newKey : ¬ db.hasKey (reversalOf reversalId settlementId transfer).idempotencyKey) :
    Advances db (db.compensate (reversalOf reversalId settlementId transfer) transfer.id now) := by
  have refund : db.refund (reversalOf reversalId settlementId transfer) =
      db.book (reversalOf reversalId settlementId transfer) := if_neg newKey
  obtain ⟨other, there, same, customer, amount, positive, held, payer⟩ :=
    underway wellFormed current
  obtain rfl := transfer_ext wellFormed there present same
  have step := Escrow.Step.giveBack db.escrow other.id _ _ held positive payer
  have back : Customer (reversalOf reversalId settlementId other).payeeAccountId := customer
  have debited : (db.book (reversalOf reversalId settlementId other)).status other.id =
      some .debited := current
  have sum : (db.book (reversalOf reversalId settlementId other)).amountOf other.id =
      other.amount := by
    have owed := (owed_book wellFormed (reversalOf reversalId settlementId other) .debited
      other.id).1
    simp only [Database.owed, debited, current, if_true] at owed
    exact owed.trans amount
  have paying : (reversalOf reversalId settlementId other).payerAccountId ≠
      DEV_TREASURY_ACCOUNT_ID := by
    show SUSPENSE_ACCOUNT_ID ≠ DEV_TREASURY_ACCOUNT_ID
    decide
  have outside : ¬ Customer (reversalOf reversalId settlementId other).payerAccountId :=
    suspense_not_customer
  rw [Database.compensate, refund, Advances, escrow_settle debited (by decide),
    if_neg (by decide), add_zero, sum, leaving_book wellFormed, leaving_book wellFormed,
    escrow_book wellFormed, customers_book, if_pos back, if_neg outside, sub_zero, seeded_settle]
  exact .inr ⟨0, step, unissued paying⟩

theorem Commit.advances (wellFormed : WellFormed db) (commit : Commit bankId call locks db db')
    (timely : call.Timely db) (reserved : KeysReserved db) (returned : Returned db) :
    Advances db db' := by
  cases commit with
  | opened id ownerName new => exact .inl ⟨rfl, rfl⟩
  | published rows same => exact .inl ⟨rfl, rfl⟩
  | seeded row account amountCents bookable payer key payee =>
    exact advances_seed wellFormed bookable payer
  | transferred row id key body bookable affordable requested payee =>
    exact advances_transfer wellFormed bookable affordable (customer_of_isUUID payee.1 payee.2)
  | debited row draws key body bookable affordable requested payee =>
    exact advances_debit _ wellFormed bookable affordable payee requested.id.symm rfl
  | confirmed _ handling settlementId transferId =>
    exact advances_confirm wellFormed transferId handling.now
  | compensated _ handling settlementId transferId original handles targets refuses present same
      known =>
    obtain ⟨status, current⟩ := known
    obtain rfl := timely transferId handling.reversalId settlementId status
      ⟨handling, handles, rfl, targets, refuses⟩ current
    obtain rfl := same
    exact advances_refund wellFormed present current handling.reversalId settlementId handling.now
      (returned.open_ reserved targets.2 current)

end Steps

section Totals

variable {db : Database}

theorem sum_customers (wellFormed : WellFormed db) :
    Escrow.sum db.customers =
      (db.accounts.map fun account => db.customerBalance account.id).sum := by
  have known : db.customers.support ⊆ (db.accounts.map AccountRow.id).toFinset := by
    intro accountId member
    have posted := db.customerBalance_support accountId (Finsupp.mem_support_iff.mp member)
    obtain ⟨posting, listed, rfl⟩ := List.mem_map.mp (List.mem_toFinset.mp posted)
    rw [wellFormed.postings] at listed
    obtain ⟨movement, moved, inside⟩ := List.mem_flatMap.mp listed
    obtain ⟨row, present, rfl⟩ := List.mem_map.mp moved
    have parties := wellFormed.parties row present
    simp only [DoubleEntry.Movement.postings, List.mem_cons, List.not_mem_nil, or_false] at inside
    rcases inside with rfl | rfl
    · exact List.mem_toFinset.mpr parties.1
    · exact List.mem_toFinset.mpr parties.2
  calc Escrow.sum db.customers
      = ∑ accountId ∈ (db.accounts.map AccountRow.id).toFinset, db.customers accountId :=
        Finsupp.sum_of_support_subset _ known _ fun _ _ => rfl
    _ = ((db.accounts.map AccountRow.id).map db.customerBalance).sum :=
      List.sum_toFinset _ wellFormed.accounts
    _ = (db.accounts.map fun account => db.customerBalance account.id).sum := by
      rw [List.map_map]; rfl

theorem sum_leaving (wellFormed : WellFormed db) (status : InterbankTransferStatus) :
    Escrow.sum (db.leaving status) =
      (db.interbankTransfers.map fun row => db.owed status row.transferId).sum := by
  have known : (db.leaving status).support ⊆ (db.interbankTransfers.map
      InterbankTransferRow.transferId).toFinset :=
    fun transferId member => db.owed_support status transferId (Finsupp.mem_support_iff.mp member)
  calc Escrow.sum (db.leaving status)
      = ∑ transferId ∈ (db.interbankTransfers.map InterbankTransferRow.transferId).toFinset,
      db.leaving status transferId :=
        Finsupp.sum_of_support_subset _ known _ fun _ _ => rfl
    _ = ((db.interbankTransfers.map InterbankTransferRow.transferId).map (db.owed status)).sum :=
        List.sum_toFinset _ wellFormed.interbankIds
    _ = (db.interbankTransfers.map fun row => db.owed status row.transferId).sum := by
      rw [List.map_map]; rfl

theorem transit_eq (amount : Uuid → Int) (rows : List InterbankTransferRow) :
    transit amount rows =
      (rows.map fun row => if row.underway then amount row.transferId else 0).sum := by
  induction rows with
  | nil => rfl
  | cons row rest ih => rw [transit_cons, ih, List.map_cons, List.sum_cons]

theorem sum_underway (wellFormed : WellFormed db) :
    Escrow.sum (db.leaving .debited) + Escrow.sum (db.leaving .confirmed) = db.inTransit := by
  rw [sum_leaving wellFormed, sum_leaving wellFormed, ← List.sum_map_add, Database.inTransit,
    transit_eq]
  refine congrArg List.sum (List.map_congr_left fun row member => ?_)
  have current := wellFormed.status_of_mem member
  cases known : row.status <;> simp [Database.owed, current, known, InterbankTransferRow.underway]

end Totals

section Runs

variable {bankId : String} {s : System (service bankId)}

theorem escrow_migrated : migrated.escrow = {} := by
  have customers : migrated.customers = 0 := Finsupp.ext fun accountId => ite_self 0
  have leaving (status : InterbankTransferStatus) : migrated.leaving status = 0 :=
    Finsupp.ext fun _ => rfl
  simp only [Database.escrow, customers, leaving]
  rfl

theorem HandledInTurn.returned (handled : HandledInTurn (unreservedRun bankId) s) :
    KeysReserved s.db ∧ Returned s.db := by
  refine (handled.turns rfl).1.invariant (verified rfl)
    (fun db => KeysReserved db ∧ Returned db) ?_ ?_
  · constructor
    · intro row present
      cases present
    · intro row present
      cases present
  · intro call locks db db' wellFormed changes before
    obtain ⟨unreserved, ⟨-, timely⟩, commit⟩ := changes
    exact ⟨Commit.keysReserved commit unreserved before.1,
      Commit.returned wellFormed commit timely before.2⟩

theorem HandledInTurn.advances (handled : HandledInTurn (unreservedRun bankId) s)
    {s' : System (service bankId)} {action : Action (service bankId)}
    (permits : (unreservedRun bankId).Permits s action s') (step : s.step action = some s') :
    Advances s.db s'.db := by
  obtain ⟨reachable, plain, turns⟩ := handled.turns rfl
  have holds : (contract (timely (unreservedRun bankId))).Verified := verified rfl
  have sound := reachable.sound holds
  obtain ⟨reserved, returned⟩ := handled.returned
  rcases (sound.step holds (turns.permits permits step) step).2 with same |
    ⟨index, thread, locks, -, -, ⟨-, timely⟩, commit⟩
  · rw [same]
    exact .inl ⟨rfl, rfl⟩
  · exact commit.advances sound.inv timely reserved returned

theorem HandledInTurn.simulated (handled : HandledInTurn (unreservedRun bankId) s) :
    Escrow.Reachable (Database.seeded s.db) (Database.escrow s.db) := by
  induction handled with
  | init =>
    show Escrow.Reachable 0 migrated.escrow
    rw [escrow_migrated]
    exact .init
  | step action handled inTurn permits step ih =>
    rcases handled.advances permits step with ⟨same, issued⟩ | ⟨amount, next, issued⟩
    · rw [same, issued]
      exact ih
    · rw [issued]
      exact ih.step next

/-- Bank A does what an escrow does, one step at a time: nobody is overdrawn, no money comes from
nowhere, none is lost. -/
theorem refines_escrow (handled : HandledInTurn (unreservedRun bankId) s) :
    (∀ action s', (unreservedRun bankId).Permits s action s' → s.step action = some s' →
      Advances s.db s'.db) ∧
      Escrow.Reachable (Database.seeded s.db) (Database.escrow s.db) ∧
      (∀ accountId, 0 ≤ Database.customerBalance s.db accountId) ∧
      ((Database.accounts s.db).map fun account => Database.customerBalance s.db account.id).sum +
      Database.inTransit s.db =
        Database.seeded s.db := by
  have wellFormed := Reachable.wellFormed rfl (handled.turns rfl).1
  refine ⟨fun _ _ => handled.advances, handled.simulated, handled.simulated.sound.solvent, ?_⟩
  rw [← sum_customers wellFormed, ← sum_underway wellFormed, ← add_assoc]
  exact handled.simulated.total

theorem refines_escrow_departures : ∃ s, HandledInTurn (unreservedRun "bank-a") s ∧
    Database.seeded s.db = 500 ∧
    Database.inTransit s.db = 100 ∧
    (∀ action s', (unreservedRun "bank-a").Permits s action s' → s.step action = some s' →
      Advances s.db s'.db) ∧
      Escrow.Reachable (Database.seeded s.db) (Database.escrow s.db) ∧
      (∀ accountId, 0 ≤ Database.customerBalance s.db accountId) ∧
      ((Database.accounts s.db).map fun account => Database.customerBalance s.db account.id).sum +
      Database.inTransit s.db =
        Database.seeded s.db := by
  have evaluated : (runInTurn { db := (unreservedRun "bank-a").initial } departures).map
      (fun s => (Database.seeded s.db, Database.inTransit s.db)) = some (500, 100) := by
    decide +kernel
  obtain ⟨s, run, observed⟩ := Option.map_eq_some_iff.mp evaluated
  have handled := HandledInTurn.of_run .init run
    (fun call member => (departures_start call member).1) fun _ _ => trivial
  obtain ⟨seeded, transit⟩ := Prod.mk.inj observed
  exact ⟨s, handled, seeded, transit, refines_escrow handled⟩

end Runs

end BankA
