import PaymentLedger.BankA.Transfers

set_option autoImplicit false

namespace BankA

open Transactional Contract InterbankTransfersService

theorem debit_writes (row : TransferRow) (interbank : InterbankTransferRow) (event : Outbox.Row)
    (db : Database) :
    ((.transfer row :: row.entries.map .ledgerEntry : List Write) ++
      [Write.interbankTransfer interbank] ++
      [Write.outboxEvent event]).foldl Database.apply db = db.debit row interbank event := by
  rw [List.foldl_append, List.foldl_append, book_writes]
  rfl

theorem companion_debit {db : Database} {row : TransferRow} {interbank : InterbankTransferRow}
    {event : Outbox.Row} (new : db.companion interbank.transferId = none) :
    (db.debit row interbank event).companion interbank.transferId =
      some (interbank.payeeBankId, interbank.payeeAccountRef) := by
  simp only [Database.companion, Option.map_eq_none_iff] at new
  simp [Database.companion, Database.debit, List.find?_append, new]

def interbankRequest (key : String) (body : CreateInterbankTransferDto) : Request where
  idempotencyKey := some key
  payerAccountId := body.payerAccountId
  payeeAccountId := SUSPENSE_ACCOUNT_ID.text
  amountCents := body.amountCents
  interbank := some (body.payeeBankId, body.payeeAccountRef)

section

variable {bankId : String} {scope : Scope (service bankId)} {db : Database}
variable {draws : Draws} {key : String} {body : CreateInterbankTransferDto} {transfer : Transfer}
variable {amount : Money} {row : TransferRow} {history : List (Performed engine)}

theorem interbankRequest_of_matched {existing : TransferRecord} (valid : body.valid = true)
    (created : Transfer.create draws.id.text body.payerAccountId SUSPENSE_ACCOUNT_ID.text amount =
      .ok transfer) (cents : body.amountCents = .finite amount.cents)
    (wellFormed : WellFormed db) (present : row ∈ db.transfers) (sameKey : row.idempotencyKey = key)
    (read : row.toRecord = .ok existing)
    (matched : TransfersService.matches_ existing transfer = true)
    (companion : db.companion row.id = some (body.payeeBankId, body.payeeAccountRef)) :
    interbankRequest key body = db.requestOf row ∧ Customer row.payerAccountId := by
  obtain ⟨-, samePayer, samePayee, sameAmount⟩ := Transfer.create_ok created
  obtain ⟨payer, payee, total⟩ := matches_exact (wellFormed.safe row present) read matched
  simp only [CreateInterbankTransferDto.valid, Bool.and_eq_true] at valid
  have payerText : body.payerAccountId = row.payerAccountId.text := samePayer.symm.trans payer
  have amountText : body.amountCents = .finite row.amount := by
    rw [cents, ← sameAmount, total]
  constructor
  · simp [interbankRequest, Database.requestOf, sameKey, payerText, samePayee.symm.trans payee,
      amountText, companion]
  · exact customer_of_isUUID valid.1.1.1 (by rw [payerText]; exact Uuid.parse_text _)

theorem ok_interbankReplay {existing : TransferRecord} (valid : body.valid = true)
    (created : Transfer.create draws.id.text body.payerAccountId SUSPENSE_ACCOUNT_ID.text amount =
      .ok transfer) (cents : body.amountCents = .finite amount.cents)
    (wellFormed : WellFormed db) (present : row ∈ db.transfers) (sameKey : row.idempotencyKey = key)
    (read : row.toRecord = .ok existing) (met : meets history = [row])
    (quiet : commits history = []) :
    Session scope (.interbankTransfer draws (some key) body)
      (fun response history _ db =>
        Success (.interbankTransfer draws (some key) body) response history db)
      Refusal
      ((replay existing transfer body.payeeBankId body.payeeAccountRef).bind fun result =>
        pure (.interbankTransfer result))
      history none db := by
  have conflict (history' : List (Performed engine)) (quiet' : commits history' = []) :
      Refusal (.domain .idempotencyConflict) history' :=
    ⟨fun _ => by simp, fun _ _ => ⟨quiet', .inl rfl⟩⟩
  unfold replay
  cases matched : TransfersService.matches_ existing transfer with
  | false => exact ok_refuse (conflict history quiet)
  | true =>
    obtain ⟨money, -, shape⟩ := TransferRow.toRecord_ok (wellFormed.safe row present)
    have existingId : existing.id = row.id.text := by
      rw [← Except.ok.inj (shape.symm.trans read)]
    have reads (db : Database) (busy : List (Lock Resource))
        (effect : Reply (Option InterbankTransferRow))
        (ran : selectInterbankTransfer (some existing.id) db = .ok effect) : effect.writes = [] :=
      (selectInterbankTransfer_ok ran).1
    simp only [if_true, InterbankTransferRepository.findById, Prog.bind_eq, Prog.bind_assoc]
    refine ok_poolRead (fun cause => ⟨fun _ => by simp, fun _ _ =>
      ⟨(commits_append rfl).trans quiet, .inr ⟨cause, rfl⟩⟩⟩) reads (stable_transfer row) present ?_
    rintro db busy ⟨answer, written, more⟩ wellFormed present ran
    have quiet' : commits (history ++ [⟨.query .pool (.selectInterbankTransfer (some existing.id)),
        .ok answer⟩]) = [] := (commits_append rfl).trans quiet
    have met' : meets (history ++ [⟨.query .pool (.selectInterbankTransfer (some existing.id)),
        .ok answer⟩]) = [row] := (meets_append rfl).trans met
    cases answer with
    | none => exact ok_refuse (conflict _ quiet')
    | some interbank =>
      have selected : selectInterbankTransfer (some existing.id) db =
          .ok ⟨some interbank, written, more⟩ :=
        ran
      obtain ⟨-, facts⟩ := selectInterbankTransfer_ok selected
      obtain ⟨_, sameText, parsed, found⟩ := facts interbank rfl
      obtain rfl := Option.some.inj sameText
      rw [existingId, Uuid.parse_text] at parsed
      have sameId : interbank.transferId = row.id := (Option.some.inj parsed).symm
      rw [sameId] at found
      by_cases differs : interbank.payeeBankId ≠ body.payeeBankId ∨
          interbank.payeeAccountRef ≠ body.payeeAccountRef
      · simp only [Option.map_some, InterbankTransferRow.toRecord, Prog.pure_eq, Prog.done_bind,
          differs, if_true]
        exact ok_refuse (conflict _ quiet')
      · simp only [Option.map_some, InterbankTransferRow.toRecord, Prog.pure_eq, Prog.done_bind,
          differs, if_false]
        have same := not_or.mp differs
        have companion : db.companion row.id = some (body.payeeBankId, body.payeeAccountRef) := by
          simp [Database.companion, found, not_not.mp same.1, not_not.mp same.2]
        obtain ⟨exact_, customer⟩ := interbankRequest_of_matched valid created cents wellFormed
          present sameKey read matched companion
        refine ok_done (stable_success _ _ _)
          (?_ : Success _ (.interbankTransfer ⟨existing, _⟩) _ db) fun _ _ known => known
        constructor
        · intro request asked
          obtain rfl := Option.some.inj asked
          exact ⟨existing, rfl, row, present, read, customer, Request.matches_of_exact exact_⟩
        · intro other member
          rw [met'] at member
          obtain rfl := List.mem_singleton.mp member
          exact ⟨present, congrArg some exact_⟩
        · intro handling handles
          cases handles

/-- The row is the debit that the request asks for. -/
structure Departs (draws : Draws) (body : CreateInterbankTransferDto) (amount : Money)
    (row : TransferRow) : Prop where
  id : row.id = draws.id
  payer : Uuid.parse body.payerAccountId = some row.payerAccountId
  payee : row.payeeAccountId = SUSPENSE_ACCOUNT_ID
  amount : row.amount = amount.cents

theorem departs_of_created
    (created : Transfer.create draws.id.text body.payerAccountId SUSPENSE_ACCOUNT_ID.text amount =
      .ok transfer) (denotes : (transfer.params key).Denotes row) :
    Departs draws body amount row := by
  obtain ⟨sameId, samePayer, samePayee, sameAmount⟩ := Transfer.create_ok created
  refine ⟨?_, samePayer ▸ denotes.payer, ?_, ?_⟩
  · have parsed := denotes.id
    simp only [Transfer.params, sameId, Uuid.parse_text] at parsed
    exact (Option.some.inj parsed).symm
  · have parsed := denotes.payee
    simp only [Transfer.params, samePayee, Uuid.parse_text] at parsed
    exact (Option.some.inj parsed).symm
  · rw [← sameAmount, denotes.amount]
    rfl

theorem success_debit {record : TransferRecord} (departs : Departs draws body amount row)
    (cents : body.amountCents = .finite amount.cents) (sameKey : row.idempotencyKey = key)
    (read : row.toRecord = .ok record) (unmet : meets history = []) (wellFormed : WellFormed db)
    (newId : ¬ db.hasTransfer row.id) (customer : Customer row.payerAccountId) :
    Success (.interbankTransfer draws (some key) body)
      (.interbankTransfer ⟨record, (interbankRow draws body).toRecord⟩) history
      (db.debit row (interbankRow draws body) (requestedRow bankId draws body row.amount)) := by
  constructor
  · intro request asked
    obtain rfl := Option.some.inj asked
    refine ⟨record, rfl, row, List.mem_append_right _ (List.mem_singleton_self _), read, customer,
      departs.payer, ?_, ?_⟩
    · rw [departs.payee]
      exact Uuid.parse_text _
    · have new := wellFormed.companion_new newId
      have companion : (db.debit row (interbankRow draws body)
          (requestedRow bankId draws body row.amount)).companion row.id =
            some (body.payeeBankId, body.payeeAccountRef) := by
        rw [departs.id] at new ⊢
        exact companion_debit new
      have amountText : body.amountCents = .finite row.amount := by rw [departs.amount, cents]
      simp [Request.spelled, Database.requestOf, companion, sameKey, amountText]
  · intro other member
    rw [unmet] at member
    simp at member
  · intro handling handles
    cases handles

theorem ok_bookInterbank {record : TransferRecord} {locks : List (Lock Resource)}
    (valid : body.valid = true)
    (created : Transfer.create draws.id.text body.payerAccountId SUSPENSE_ACCOUNT_ID.text amount =
      .ok transfer) (cents : body.amountCents = .finite amount.cents)
    (denotes : (transfer.params key).Denotes row) (read : row.toRecord = .ok record)
    (unmet : meets history = []) (bookable : row.Bookable locks db)
    (payerLock : exclusive (.account row.payerAccountId) ∈ locks) :
    Session scope (.interbankTransfer draws (some key) body)
      (Raced (.interbankTransfer draws (some key) body) key .interbankTransfer) Unmet
      ((LedgerRepository.balanceOf transfer.payerAccountId .client).bind fun balance =>
        (fromDomain (transfer.assertPayerCanAfford balance)).bind fun _ =>
        (LedgerRepository.append transfer.entries).bind fun _ =>
        (InterbankTransferRepository.insert transfer.id body.payeeBankId body.payeeAccountRef
          draws.now).bind fun interbank =>
        (sql .client (.insertEvent draws.eventId transfer.id "settlement.requested"
          SETTLEMENT_REQUESTED_ROUTING_KEY (requestedPayload bankId transfer.id
            ⟨body.payerAccountId, body.payeeBankId, body.payeeAccountRef, amount⟩))).bind fun _ =>
        (perform .commit).bind fun _ => pure (some ⟨record, interbank⟩))
      history (some (live [.transfer row] locks)) db := by
  have departs := departs_of_created created denotes
  have sameId := (Transfer.create_ok created).1
  simp only [CreateInterbankTransferDto.valid, Bool.and_eq_true] at valid
  refine ok_balanceOf (fun _ _ same => same) unmet
    (stable_bookable (List.Subset.refl _) bookable.keyLock bookable.idLock) bookable ?_
  intro db history account balance _ bookable unmet parsed total
  obtain rfl := Option.some.inj (parsed.symm.trans denotes.payer)
  refine ok_fromDomain (fun _ _ same => same) unmet ?_
  intro _ enough
  have funds : row.amount ≤ db.balanceOf row.payerAccountId := by
    have check := Transfer.assertPayerCanAfford_ok enough
    rw [total] at check
    exact denotes.amount ▸ check
  have affordable : row.Affordable locks db :=
    ⟨customer_of_isUUID valid.1.1.1 departs.payer, funds, payerLock⟩
  have stable (more : List (Lock Resource)) (included : locks ⊆ more) :
      (contract scope).Stable more fun db => row.Bookable locks db ∧ row.Affordable locks db :=
    (stable_bookable included bookable.keyLock bookable.idLock).and (stable_affordable included)
  refine ok_append (fun _ _ same => same) unmet stable ⟨bookable, affordable⟩ ?_
  intro db history rows more known unmet denoted included
  obtain rfl := entries_unique denoted denotes.entries
  simp only [InterbankTransferRepository.insert, Prog.bind_eq, Prog.bind_assoc, Prog.pure_eq,
    Prog.done_bind]
  refine ok_clientQuery (fun _ _ same => same) unmet (stable more included) known ?_
  rintro db busy ⟨answer, written, others⟩ history _ known unmet _ ran
  obtain ⟨_, parsedId, rfl, rfl, rfl⟩ := insertInterbankTransfer_ok ran
  rw [sameId, Uuid.parse_text] at parsedId
  obtain rfl := Option.some.inj parsedId
  have included' : locks ⊆ more ++ [exclusive (.interbankTransfer draws.id)] :=
    List.Subset.trans included (List.subset_append_left _ _)
  refine ok_clientQuery (fun _ _ same => same) unmet (stable _ included') known ?_
  rintro db busy ⟨answer, written, others⟩ history _ known unmet _ ran
  obtain ⟨_, parsedId, newEvent, rfl, rfl⟩ := insertEvent_ok ran
  rw [sameId, Uuid.parse_text] at parsedId
  obtain rfl := Option.some.inj parsedId
  have newEvent : draws.eventId ∉ db.outboxEvents.map Outbox.Row.id := by
    rw [List.singleton_append, List.foldl_append, book_writes] at newEvent
    exact newEvent
  have included'' : locks ⊆ more ++ [exclusive (.interbankTransfer draws.id)] ++
      [exclusive (.outboxEvent draws.eventId)] :=
    List.Subset.trans included' (List.subset_append_left _ _)
  have view (db : Database) : ([Write.transfer row] ++ row.entries.map Write.ledgerEntry ++
      [Write.interbankTransfer (interbankRow draws body)] ++
      [Write.outboxEvent (requestedRow bankId draws body row.amount)]).foldl Database.apply db =
        db.debit row (interbankRow draws body) (requestedRow bankId draws body row.amount) := by
    rw [List.singleton_append]
    exact debit_writes _ _ _ _
  have payload : requestedPayload bankId transfer.id
      ⟨body.payerAccountId, body.payeeBankId, body.payeeAccountRef, amount⟩ =
        (requestedRow bankId draws body row.amount).payload := by
    rw [departs.amount, sameId]
    rfl
  rw [payload]
  refine ok_commit_ (fun _ _ same => same) unmet ((stable _ included'').and
    (stable_newEvent (List.mem_append_right _ (List.mem_singleton_self _)))) ⟨known, newEvent⟩ ?_ ?_
  · intro db _ known
    have commit := @Commit.debited bankId _ _ row draws (some key) body
      (known.1.1.mono included'') (known.1.2.mono included'')
      ⟨departs.id, congrArg some denotes.key, ⟨valid.1.1.1, departs.payer⟩,
       by rw [departs.amount, cents]⟩
      departs.payee known.2 (by simp) (by simp)
    rw [← view db] at commit
    exact .inr commit
  · intro db history wellFormed known unmet
    have answered := @success_debit bankId _ _ _ _ _ _ _ _ departs cents denotes.key.symm read unmet
      wellFormed known.1.1.newId known.1.2.payer
    rw [← view db] at answered
    exact ok_done (stable_success _ _ _) answered fun _ _ known => ⟨rfl, known⟩

theorem ok_interbankTransfer {idempotencyKey : Option String} :
    Session scope (.interbankTransfer draws idempotencyKey body)
      (fun response history _ db =>
        Success (.interbankTransfer draws idempotencyKey body) response history db)
      Refusal (program bankId (.interbankTransfer draws idempotencyKey body)) [] none db := by
  have refuse (error : Failure) (history : List (Performed engine)) (unmet : Unmet error history) :
      Refusal error history := unmet.refusal
  simp only [program, InterbankTransfersController.create,
    InterbankTransfersService.execute, Prog.bind_eq, Prog.bind_assoc]
  refine ok_validate refuse rfl ?_
  intro valid
  refine ok_requireKey refuse rfl ?_
  rintro key rfl
  refine ok_fromDomain refuse rfl ?_
  intro amount readAmount
  have cents := Money.fromCents_finite readAmount
  refine ok_fromDomain refuse rfl ?_
  intro transfer created
  refine ok_findByIdempotencyKey refuse rfl stable_true trivial ?_ ?_
  · intro db history _ _ _ unmet quiet
    simp only [Prog.bind_assoc]
    refine ok_rollbackOnError
      (Raced (.interbankTransfer draws (some key) body) key .interbankTransfer)
      refuse ?_ ?_
    · refine ok_begin_ (fun _ _ same => same) unmet stable_true trivial ?_
      intro db history _ _ unmet quiet'
      refine ok_lockById (fun _ _ same => same) unmet stable_true trivial ?_
      intro db history found more _ _ unmet quiet'' locked
      cases found with
      | false => exact ok_refuse ⟨unmet, by simp⟩
      | true =>
        refine ok_insert (fun _ _ same => same) unmet stable_true trivial ?_ ?_
        · intro db history others _ _ taken unmet afterInsert
          refine ok_rollback_ (fun _ _ same => same) unmet (stable_hasKey key) taken ?_
          intro db history _ taken unmet afterRollback
          refine ok_done (stable_hasKey key) taken fun db _ taken => ⟨rfl, unmet, ?_, taken⟩
          rw [afterRollback, afterInsert, quiet'', quiet', quiet]
          rfl
        · intro db history row record _ _ denotes bookable read unmet
          have payerLock : exclusive (.account row.payerAccountId) ∈ [] ++ more ++ row.locks := by
            obtain ⟨account, parsed, member⟩ := locked rfl
            obtain rfl := Option.some.inj (parsed.symm.trans denotes.payer)
            exact List.mem_append_left _ member
          exact ok_bookInterbank valid created cents denotes read unmet bookable payerLock
    · rintro (_ | result) history txn db wellFormed ⟨rfl, known⟩
      · obtain ⟨unmet, quiet', taken⟩ := known
        simp only [Prog.bind_assoc]
        refine ok_findByIdempotencyKey refuse unmet (stable_hasKey key) taken ?_ ?_
        · intro db history _ taken missing
          exact absurd taken missing
        · intro db history row record wellFormed _ present sameKey read met quiet''
          exact ok_interbankReplay valid created cents wellFormed present sameKey read met
            (quiet''.trans quiet')
      · exact ok_done (stable_success _ _ _) known fun _ _ known => known
  · intro db history row record wellFormed _ present sameKey read met quiet
    exact ok_interbankReplay valid created cents wellFormed present sameKey read met quiet

end

end BankA
