import PaymentLedger.BankA.Saga
import PaymentLedger.BankA.Turns

set_option autoImplicit false

-- What the suspense account holds is owed: to a payee bank, or back to a payer.

namespace BankA

open Transactional InterbankReplyService

def InterbankTransferRow.underway (row : InterbankTransferRow) : Bool :=
  decide (row.status = .debited) || decide (row.status = .confirmed)

def transit (amount : Uuid → Int) (rows : List InterbankTransferRow) : Int :=
  ((rows.filter InterbankTransferRow.underway).map fun row => amount row.transferId).sum

namespace Database

variable (db : Database)

def amountOf (transferId : Uuid) : Int :=
  ((db.transfers.find? fun row => row.id = transferId).map TransferRow.amount).getD 0

def inTransit : Int := transit db.amountOf db.interbankTransfers

end Database

section Sums

variable {amount : Uuid → Int}

theorem transit_cons (row : InterbankTransferRow) (rest : List InterbankTransferRow) :
    transit amount (row :: rest) = (if row.underway then amount row.transferId else 0) +
      transit amount rest := by
  unfold transit
  cases kept : row.underway <;> simp [kept]

theorem transit_concat (rows : List InterbankTransferRow) (row : InterbankTransferRow) :
    transit amount (rows ++ [row]) = transit amount rows +
      if row.underway then amount row.transferId else 0 := by
  unfold transit
  cases kept : row.underway <;> simp [kept]

theorem transit_congr {other : Uuid → Int} {rows : List InterbankTransferRow}
    (same : ∀ row ∈ rows, amount row.transferId = other row.transferId) :
    transit amount rows = transit other rows := by
  unfold transit
  refine congrArg List.sum (List.map_congr_left ?_)
  intro row kept
  exact same row (List.mem_filter.mp kept).1

theorem setStatus_absent {rows : List InterbankTransferRow} {transferId : Uuid}
    {status : InterbankTransferStatus} {now : Int}
    (absent : transferId ∉ rows.map InterbankTransferRow.transferId) :
    setStatus rows transferId status now = rows := by
  unfold setStatus
  refine (List.map_congr_left ?_).trans (List.map_id rows)
  intro row member
  have other : row.transferId ≠ transferId := by
    rintro rfl
    exact absent (List.mem_map_of_mem member)
  rw [if_neg other]
  rfl

theorem transit_setStatus {rows : List InterbankTransferRow} {transferId : Uuid}
    {status : InterbankTransferStatus} {now : Int}
    (nodup : (rows.map InterbankTransferRow.transferId).Nodup)
    (debited : ∃ row ∈ rows, row.transferId = transferId ∧ row.status = .debited) :
    transit amount (setStatus rows transferId status now) =
      transit amount rows - if status = .compensated then amount transferId else 0 := by
  induction rows with
  | nil => simp at debited
  | cons head rest ih =>
    obtain ⟨fresh, nodup⟩ := List.nodup_cons.mp nodup
    have step : setStatus (head :: rest) transferId status now =
        (if head.transferId = transferId then { head with status, updatedAt := now } else head) ::
          setStatus rest transferId status now := rfl
    rw [step, transit_cons, transit_cons]
    obtain ⟨row, member, target, before⟩ := debited
    by_cases here : head.transferId = transferId
    · have only : head = row := by
        rcases List.mem_cons.mp member with same | later
        · exact same.symm
        · apply absurd _ fresh
          rw [here, ← target]
          exact List.mem_map_of_mem later
      rw [if_pos here, setStatus_absent (here ▸ fresh)]
      subst only
      cases status <;> simp [InterbankTransferRow.underway, before, here]
    · have later : row ∈ rest := by
        rcases List.mem_cons.mp member with same | later
        · exact absurd (same ▸ target) here
        · exact later
      rw [if_neg here, ih nodup ⟨row, later, target, before⟩]
      omega

end Sums

section Steps

variable {bankId : String} {call : Call} {locks : List (Lock Resource)} {db db' : Database}

theorem amountOf_of_mem (wellFormed : WellFormed db) {row : TransferRow}
    (present : row ∈ db.transfers) :
    db.amountOf row.id = row.amount := by
  cases first : db.transfers.find? fun other => other.id = row.id with
  | none =>
    have absent := List.find?_eq_none.mp first row present
    simp at absent
  | some other =>
    have same := List.find?_some first
    simp only [decide_eq_true_eq] at same
    obtain rfl := transfer_ext wellFormed (List.mem_of_find?_eq_some first) present same
    simp [Database.amountOf, first]

theorem inTransit_book (wellFormed : WellFormed db) (row : TransferRow) :
    transit (db.book row).amountOf db.interbankTransfers = db.inTransit := by
  refine transit_congr ?_
  intro interbank member
  obtain ⟨transfer, present, same, -⟩ := wellFormed.interbank interbank member
  have found : db.transfers.find? (fun other => other.id = interbank.transferId) ≠ none := by
    intro none_
    have absent := List.find?_eq_none.mp none_ transfer present
    simp [same] at absent
  obtain ⟨first, found⟩ := Option.ne_none_iff_exists'.mp found
  simp [Database.amountOf, Database.book, List.find?_append, found]

theorem suspense_book (row : TransferRow) :
    (db.book row).balanceOf SUSPENSE_ACCOUNT_ID = db.balanceOf SUSPENSE_ACCOUNT_ID +
      ((if row.payeeAccountId = SUSPENSE_ACCOUNT_ID then row.amount else 0) -
        if row.payerAccountId = SUSPENSE_ACCOUNT_ID then row.amount else 0) := by
  rw [balanceOf_book, DoubleEntry.balance_movement]
  rfl

theorem inTransit_settle (wellFormed : WellFormed db) {transferId : Uuid}
    {status : InterbankTransferStatus} {now : Int}
    (debited : db.status transferId = some .debited) :
    (db.settle transferId status now).inTransit =
      db.inTransit - if status = .compensated then db.amountOf transferId else 0 := by
  have amounts : (db.settle transferId status now).amountOf = db.amountOf := by
    funext other
    simp [Database.amountOf]
  obtain ⟨row, member, target, before⟩ := mem_of_status debited
  rw [Database.inTransit, amounts, Database.settle, if_pos debited]
  exact transit_setStatus wellFormed.interbankIds ⟨row, member, target, before⟩

def Returned (db : Database) : Prop :=
  ∀ row ∈ db.transfers, row.payerAccountId = SUSPENSE_ACCOUNT_ID → ∃ settlementId transferId,
    row.idempotencyKey = compensationKey settlementId ∧ Uuid.parse settlementId = some transferId ∧
      db.status transferId = some .compensated

def Call.SeedsElsewhere (call : Call) : Prop :=
  ∀ transferId account amountCents, call = .devSeed transferId account amountCents →
    Uuid.parse account ≠ some SUSPENSE_ACCOUNT_ID

def Call.Timely (call : Call) (db : Database) : Prop :=
  ∀ transferId reversalId settlementId status, call.Refuses transferId reversalId settlementId →
    db.status transferId = some status → status = .debited

theorem Commit.returned (wellFormed : WellFormed db) (commit : Commit bankId call locks db db')
    (timely : call.Timely db) (returned : Returned db) : Returned db' := by
  have frame := commit.frame wellFormed
  intro row present payer
  rcases commit.origin present with old | ⟨-, origin⟩
  · obtain ⟨settlementId, transferId, key, parsed, status⟩ := returned row old payer
    exact ⟨settlementId, transferId, key, parsed, frame.settled transferId _ status (by simp)⟩
  · cases origin with
    | seed treasury key =>
      have different : DEV_TREASURY_ACCOUNT_ID ≠ SUSPENSE_ACCOUNT_ID := by decide
      exact absurd (treasury.symm.trans payer) different
    | client request asked customer key => exact absurd payer customer.1
    | refund reversalId settlementId original refuses known status row_eq turned =>
      obtain ⟨status, current⟩ := status
      obtain rfl := timely original.id reversalId settlementId status refuses current
      obtain ⟨handling, handles, -, targets, refuses⟩ := refuses
      refine ⟨settlementId, original.id, ?_, targets.2, turned current⟩
      rw [row_eq]
      rfl

theorem Returned.open_ (returned : Returned db) (reserved : KeysReserved db) {settlementId : String}
    {transferId : Uuid} (parsed : Uuid.parse settlementId = some transferId)
    (debited : db.status transferId = some .debited) :
    ¬ db.hasKey (compensationKey settlementId) := by
  intro taken
  obtain ⟨row, present, key⟩ := List.mem_map.mp taken
  have payer := reserved row present (key ▸ reserved_compensationKey settlementId)
  obtain ⟨spelled, target, key', parsed', compensated⟩ := returned row present payer
  obtain rfl := compensationKey_injective (key.symm.trans key')
  obtain rfl := Option.some.inj (parsed.symm.trans parsed')
  rw [debited] at compensated
  cases compensated

theorem Commit.inTransit (wellFormed : WellFormed db) (commit : Commit bankId call locks db db')
    (elsewhere : call.SeedsElsewhere) (timely : call.Timely db) (reserved : KeysReserved db)
    (returned : Returned db) (balance : db.balanceOf SUSPENSE_ACCOUNT_ID = db.inTransit) :
    db'.balanceOf SUSPENSE_ACCOUNT_ID = db'.inTransit := by
  have booked (row : TransferRow) : (db.book row).inTransit = db.inTransit :=
    inTransit_book wellFormed row
  cases commit with
  | opened id ownerName new => exact balance
  | published rows same => exact balance
  | seeded row account amountCents bookable payer key payee =>
    have other : row.payeeAccountId ≠ SUSPENSE_ACCOUNT_ID := by
      intro same
      exact elsewhere _ _ _ rfl (same ▸ payee)
    have treasury : row.payerAccountId ≠ SUSPENSE_ACCOUNT_ID := by
      rw [payer]
      decide
    rw [suspense_book, if_neg other, if_neg treasury, booked, balance]
    omega
  | transferred row id key body bookable affordable requested payee =>
    have other := (customer_of_isUUID payee.1 payee.2).1
    rw [suspense_book, if_neg other, if_neg affordable.payer.1, booked, balance]
    omega
  | debited row draws key body bookable affordable requested payee newEvent interbankLock
      eventLock =>
    have moved : (db.debit row (interbankRow draws body)
        (requestedRow bankId draws body row.amount)).inTransit =
        db.inTransit + row.amount := by
      have own : (db.book row).amountOf draws.id = row.amount := by
        rw [← requested.id]
        exact amountOf_of_mem (wellFormed.book bookable fun _ => affordable.funds) (by simp)
      calc transit (db.book row).amountOf (db.interbankTransfers ++ [interbankRow draws body])
          = transit (db.book row).amountOf db.interbankTransfers +
          (db.book row).amountOf draws.id :=
            transit_concat _ _
        _ = db.inTransit + row.amount := by rw [inTransit_book wellFormed, own]
    have suspense : (db.debit row (interbankRow draws body)
        (requestedRow bankId draws body row.amount)).balanceOf SUSPENSE_ACCOUNT_ID =
          (db.book row).balanceOf SUSPENSE_ACCOUNT_ID := rfl
    rw [suspense, suspense_book, if_pos payee, if_neg affordable.payer.1, moved, balance]
    omega
  | confirmed _ handling settlementId transferId handles targets confirms statusLock =>
    rw [settle_balanceOf, balance]
    by_cases debited : db.status transferId = some .debited
    · rw [inTransit_settle wellFormed debited]
      simp
    · rw [Database.settle, if_neg debited]
  | compensated _ handling settlementId transferId original handles targets refuses present same
      known bookable statusLock =>
    obtain ⟨status, current⟩ := known
    obtain rfl := timely transferId handling.reversalId settlementId status ⟨handling, handles, rfl,
      targets, refuses⟩ current
    have newKey := returned.open_ reserved targets.2 current
    have whole := bookable newKey
    have refund : db.refund (reversalOf handling.reversalId settlementId original) =
        db.book (reversalOf handling.reversalId settlementId original) := if_neg newKey
    obtain ⟨interbank, member, target, -⟩ := mem_of_status current
    obtain ⟨paid, paidPresent, paidId, payer, -⟩ := wellFormed.interbank interbank member
    obtain rfl := transfer_ext wellFormed paidPresent present (paidId.trans
      (target.trans same.symm))
    rw [Database.compensate, refund, settle_balanceOf, suspense_book]
    have wellFormed_ : WellFormed (db.book (reversalOf handling.reversalId settlementId paid)) :=
      wellFormed.book whole fun customer => absurd rfl customer.1
    have amount : (db.book (reversalOf handling.reversalId settlementId paid)).amountOf transferId =
        paid.amount := by
      rw [← same]
      exact amountOf_of_mem wellFormed_ (by simp [present])
    rw [inTransit_settle wellFormed_ (by simpa using current), if_pos rfl, amount, booked, balance]
    have back : (reversalOf handling.reversalId settlementId paid).payeeAccountId ≠
        SUSPENSE_ACCOUNT_ID := payer.1
    have paying : (reversalOf handling.reversalId settlementId paid).payerAccountId =
        SUSPENSE_ACCOUNT_ID := rfl
    have sum : (reversalOf handling.reversalId settlementId paid).amount = paid.amount := rfl
    rw [if_neg back, if_pos paying, sum]
    omega

end Steps

section Runs

variable {bankId : String} {s : System (service bankId)}

/-- Runs in which no client key looks like the key of a reversal. -/
def unreservedRun (bankId : String) : Scope (service bankId) where
  initial := migrated
  starts call := Call.Unreserved call

def separateRun (bankId : String) : Scope (service bankId) where
  initial := migrated
  starts call := Call.Unreserved call ∧ Call.SeedsElsewhere call

/-- While no dev seed names it, the suspense account holds what is in transit. -/
theorem suspense_in_transit (handled : HandledInTurn (separateRun bankId) s) :
    s.db.balanceOf SUSPENSE_ACCOUNT_ID = Database.inTransit s.db := by
  have reachable := (handled.turns rfl).1
  have all : KeysReserved s.db ∧ Returned s.db ∧
      Database.balanceOf s.db SUSPENSE_ACCOUNT_ID = Database.inTransit s.db := by
    refine reachable.invariant (verified rfl)
      (fun db => KeysReserved db ∧ Returned db ∧
        db.balanceOf SUSPENSE_ACCOUNT_ID = db.inTransit) ?_ ?_
    · refine ⟨?_, ?_, rfl⟩
      · intro row present
        cases present
      · intro row present
        cases present
    · intro call locks db db' wellFormed changes before
      obtain ⟨⟨unreserved, elsewhere⟩, ⟨-, timely⟩, commit⟩ := changes
      obtain ⟨reserved, returned, balance⟩ := before
      exact ⟨Commit.keysReserved commit unreserved reserved,
        Commit.returned wellFormed commit timely returned,
        Commit.inTransit wellFormed commit elsewhere timely reserved returned balance⟩
  exact all.2.2

end Runs

def departures : List (Action (service "bank-a")) :=
  opening "bank-a" ++ [.start (debit (sampleId 3) 300)] ++ runs 3 10 ++
  [.start (Call.interbankTransfer ⟨sampleId 6, 8, 0⟩ (some "second")
    ⟨(sampleId 0).text, "bank-b", "iban", .finite 100⟩)] ++ runs 4 10 ++
  [.start (outcome (sampleId 4) (sampleId 3) "REVERSED")] ++ runs 5 8 ++
  [.start (outcome (sampleId 5) (sampleId 6) "CONFIRMED")] ++ runs 6 2

def departuresCalls : List Call :=
  [.createAccount (sampleId 0) "alice", .createAccount (sampleId 1) "bob",
   .devSeed (sampleId 2) (sampleId 0).text (.finite 500), debit (sampleId 3) 300,
   .interbankTransfer ⟨sampleId 6, 8, 0⟩ (some "second")
   ⟨(sampleId 0).text, "bank-b", "iban", .finite 100⟩,
   outcome (sampleId 4) (sampleId 3) "REVERSED", outcome (sampleId 5) (sampleId 6) "CONFIRMED"]

theorem departures_start (call : Call) (listed : call ∈ departuresCalls) :
    (separateRun "bank-a").starts call := by
  simp only [departuresCalls, List.mem_cons, List.not_mem_nil, or_false] at listed
  rcases listed with rfl | rfl | rfl | rfl | rfl | rfl | rfl
  case inr.inr.inl =>
    refine ⟨fun _ _ asked => (by cases asked), ?_⟩
    intro transferId account amountCents same
    cases same
    rw [Uuid.parse_text]
    decide
  case inr.inr.inr.inl | inr.inr.inr.inr.inl =>
    refine ⟨?_, fun _ _ _ same => (by cases same)⟩
    intro request key asked same
    obtain rfl := Option.some.inj asked
    obtain rfl := Option.some.inj same
    unfold Reserved
    decide
  all_goals exact ⟨fun _ _ asked => (by cases asked), fun _ _ _ same => (by cases same)⟩

theorem suspense_in_transit_departures : ∃ s, HandledInTurn (separateRun "bank-a") s ∧
    s.db.balanceOf SUSPENSE_ACCOUNT_ID = 100 ∧ Database.inTransit s.db = 100 := by
  have evaluated : (runInTurn { db := (separateRun "bank-a").initial } departures).map
      (fun s => Database.balanceOf s.db SUSPENSE_ACCOUNT_ID) = some 100 := by
    decide +kernel
  obtain ⟨s, run, balance⟩ := Option.map_eq_some_iff.mp evaluated
  have handled := HandledInTurn.of_run .init run (fun call member => departures_start call member)
    fun _ _ => trivial
  exact ⟨s, handled, balance, (suspense_in_transit handled).symm.trans balance⟩

/-- `ParseUUIDPipe` lets a dev seed name the suspense account: 500 cents that nothing has sent. -/
theorem suspense_in_transit_fails : ∃ s, HandledInTurn (unreservedRun "bank-a") s ∧
    s.db.balanceOf SUSPENSE_ACCOUNT_ID = 500 ∧ Database.inTransit s.db = 0 := by
  have evaluated : (@runInTurn "bank-a" { db := (unreservedRun "bank-a").initial }
      ([.start (Call.devSeed (sampleId 2) SUSPENSE_ACCOUNT_ID.text (.finite 500))] ++ runs 0 7)).map
        (fun s => (Database.balanceOf s.db SUSPENSE_ACCOUNT_ID, Database.inTransit s.db)) =
        some (500, 0) := by
    decide +kernel
  obtain ⟨s, run, observed⟩ := Option.map_eq_some_iff.mp evaluated
  have starts (call : Call) (listed : call ∈ calls (S := service "bank-a")
      ([.start (Call.devSeed (sampleId 2) SUSPENSE_ACCOUNT_ID.text (.finite 500))] ++ runs 0 7)) :
      Call.Unreserved call := by
    obtain rfl := List.mem_singleton.mp listed
    intro request key asked
    cases asked
  exact ⟨s, .of_run .init run starts fun _ _ => trivial, congrArg Prod.fst observed,
    congrArg Prod.snd observed⟩

end BankA
