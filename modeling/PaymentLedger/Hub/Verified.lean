import PaymentLedger.Hub.Statements

set_option autoImplicit false

namespace Hub

open Transactional Contract SettlementsService

def live (writes : List Write) (locks : List (Lock Resource)) : Txn engine := { writes, locks }

/-- Every change that the program makes is a commit of `call`. -/
abbrev Guarded (scope : Scope service) (call : Call) {α : Type} (program : Program α)
    (history : List (Performed engine)) (txn : Option (Txn engine)) (db : Database) : Prop :=
  (contract scope).Ok call (fun _ _ _ _ => True) program history txn db

section Rules

variable {scope : Scope service} {call : Call} {α β : Type} {history : List (Performed engine)}
variable {db : Database} {P : Database → Prop} {writes : List Write} {locks : List (Lock Resource)}

theorem guarded_done {result : Except Failure β} {txn : Option (Txn engine)} :
    Guarded scope call (.done result) history txn db := ok_result fun _ _ => trivial

theorem guarded_bind {program : Program α} {f : α → Program β} {txn : Option (Txn engine)}
    (first : Guarded scope call program history txn db)
    (rest : ∀ value history txn db, Guarded scope call (f value) history txn db) :
    Guarded scope call (program.bind f) history txn db :=
  ok_bind first (fun value history txn db _ _ => rest value history txn db) fun _ _ _ _ _ _ =>
    trivial

theorem guarded_fromDomain {result : Except DomainError α} {f : α → Program β}
    {txn : Option (Txn engine)}
    (value : ∀ value, result = .ok value → Guarded scope call (f value) history txn db) :
    Guarded scope call ((fromDomain result).bind f) history txn db := by
  cases result with
  | ok found => exact value found rfl
  | error error => exact guarded_done

theorem guarded_warn {values : List (Option Json)} {f : Unit → Program β}
    {txn : Option (Txn engine)}
    (rest : Json.allPrintable values = true → Guarded scope call (f ()) history txn db) :
    Guarded scope call ((warn values).bind f) history txn db := by
  unfold warn
  split
  · rename_i printable
    exact rest printable
  · exact guarded_done

theorem guarded_client {statement : Sql} {f : statement.Answer → Program β}
    (stable : (contract scope).Stable locks P) (now : P db)
    (done : ∀ db busy effect history', WellFormed db → P db →
      execute statement (writes.foldl Database.apply db) busy = .ok effect →
      Guarded scope call (f effect.answer) history'
        (some (live (writes ++ effect.writes) (locks ++ effect.locks))) db) :
    Guarded scope call ((sql .client statement).bind f) history (some (live writes locks)) db := by
  refine ok_client rfl stable now ?_ ?_
  · intro error db _ _ _
    exact guarded_done
  · intro db busy effect inv known ran
    exact done db busy effect _ inv known (exec_eq_ok.mp ran)

theorem guarded_read {statement : Sql} {f : statement.Answer → Program β}
    (reads : ∀ db busy effect, execute statement db busy = .ok effect → effect.writes = [])
    (done : ∀ db busy effect history', WellFormed db → execute statement db busy = .ok effect →
      Guarded scope call (f effect.answer) history' none db) :
    Guarded scope call ((sql .pool statement).bind f) history none db := by
  refine ok_read (P := fun _ => True)
    (fun db busy effect ran => reads db busy effect (exec_eq_ok.mp ran))
    stable_true trivial ?_ ?_
  · intro error db _ _ _
    exact guarded_done
  · intro db busy effect inv _ ran
    exact done db busy effect _ inv (exec_eq_ok.mp ran)

theorem guarded_begin {f : Unit → Program β} (stable : (contract scope).Stable [] P) (now : P db)
    (done : ∀ db history', P db → Guarded scope call (f ()) history' (some (live [] [])) db) :
    Guarded scope call ((perform .begin).bind f) history none db := by
  refine ok_begin stable now ?_ ?_
  · intro db _ _
    exact guarded_done
  · intro db _ known
    exact done db _ known

theorem guarded_commit (stable : (contract scope).Stable locks P) (now : P db)
    (act : ∀ db, WellFormed db → P db → writes.foldl Database.apply db = db ∨
      Commit call locks db (writes.foldl Database.apply db)) :
    Guarded scope call (perform .commit) history (some (live writes locks)) db := by
  refine ok_commit stable now ?_ ?_ ?_ ?_
  · intro db inv known _
    exact act db inv known
  all_goals
    intros
    exact guarded_done

theorem guarded_rollbackOnError {body : Program α} {txn : Option (Txn engine)}
    (guarded : Guarded scope call body history txn db) :
    Guarded scope call (rollbackOnError body) history txn db := by
  refine ok_tryCatch guarded (fun _ _ _ _ _ _ => trivial) ?_
  intro error history txn db _ _
  refine ok_rollback (P := fun _ => True) stable_true trivial ?_ ?_
  · intro db _ _
    exact guarded_done
  · intro db _ _
    exact guarded_done

theorem guarded_append {entries : List ReserveEntry} {f : Unit → Program β}
    (stable : ∀ more, locks ⊆ more → (contract scope).Stable more P) (now : P db)
    (done : ∀ db history' rows more, P db → List.Forall₂ ReserveEntry.Denotes entries rows →
      locks ⊆ more →
      Guarded scope call (f ()) history' (some (live (writes ++ rows.map .ledgerEntry) more)) db) :
    Guarded scope call ((LedgerRepository.append entries).bind f) history
      (some (live writes locks)) db := by
  unfold LedgerRepository.append
  induction entries generalizing history writes locks db with
  | nil => simpa [Prog.forEach] using done db history [] locks now .nil (List.Subset.refl _)
  | cons entry rest ih =>
    simp only [Prog.forEach, Prog.bind_assoc]
    refine guarded_client (stable _ (List.Subset.refl _)) now ?_
    rintro db busy ⟨answer, written, more⟩ history' _ known ran
    obtain ⟨row, denotes, -, rfl⟩ := insertEntry_ok ran
    have included : locks ⊆ locks ++ more := List.subset_append_left _ _
    refine ih (fun others wider => stable others (List.Subset.trans included wider)) known ?_
    intro db history'' rows others known all wider
    simpa using done db history'' (row :: rows) others known (.cons denotes all)
      (List.Subset.trans included wider)

end Rules

section Requests

variable {scope : Scope service} {db : Database}

theorem entries_unique {entries : List ReserveEntry} {rows others : List LedgerEntryRow}
    (left : List.Forall₂ ReserveEntry.Denotes entries rows)
    (right : List.Forall₂ ReserveEntry.Denotes entries others) : rows = others := by
  induction left generalizing others with
  | nil =>
    cases right
    rfl
  | cons head _ ih =>
    cases right with
    | cons head' tail' => rw [head.unique head', ih tail']

theorem stable_enters {row : SettlementRow} {event : SettlementRequestedEvent}
    {locks mine : List (Lock Resource)} (included : locks ⊆ mine)
    (lock : exclusive (.settlement row.id) ∈ locks) :
    (contract scope).Stable mine fun db => row.Enters event locks db := by
  intro db db' interferes known
  exact { known with
    new := stable_newSettlement (included lock) db db' interferes known.new
    payer := stable_hasBank _ db db' interferes known.payer }

theorem SettlementRow.Enters.mono {row : SettlementRow} {event : SettlementRequestedEvent}
    {locks more : List (Lock Resource)} {db : Database} (enters : row.Enters event locks db)
    (included : locks ⊆ more) : row.Enters event more db :=
  { enters with lock := included enters.lock }

theorem settlement_lock (row : SettlementRow) : exclusive (.settlement row.id) ∈ row.locks := by
  simp [SettlementRow.locks]

theorem bigint_num {value amount : Int} (read : bigint (some (.num value)) = .ok amount) :
    amount = value := by
  simp only [bigint] at read
  split at read
  · exact (Except.ok.inj read).symm
  · split at read <;> cases read

/-- The unknown payee bank: the row and its outcome go in together, or neither does. -/
theorem guarded_reject {eventId : Nat} {event : SettlementRequestedEvent}
    {history : List (Performed engine)} :
    Guarded scope (.requested eventId event)
      ((SettlementRepository.insert
          { id := event.settlementId, payerBankId := event.payerBankId,
            payeeBankId := event.payeeBankId,
            payeeAccountRef := event.payeeAccountRef, amountCents := event.amountCents,
            status := .rejected,
            rejectReason := some UNKNOWN_PAYEE_BANK }).bind fun record =>
        match record with
        | some record =>
          (sql .client (.insertEvent eventId (some record.id) "settlement.outcome"
            (settlementOutcomeRoutingKey event.payerBankId) (rejectedPayload record.id))).bind
            fun _ =>
              perform .commit
        | none => perform .commit)
      history (some (live [] [])) db := by
  simp only [SettlementRepository.insert, Prog.bind_eq, Prog.bind_assoc]
  refine guarded_client (P := fun _ => True) stable_true trivial ?_
  rintro db busy ⟨answer, written, locks⟩ history _ _ ran
  rcases insertSettlement_ok ran with ⟨rfl, rfl⟩ |
    ⟨row, rfl, denotes, checked, new, payer, rfl, rfl⟩
  · exact guarded_commit (P := fun _ => True) stable_true trivial fun _ _ _ => .inl rfl
  · have requested : row.Requested event :=
      { payer := denotes.payer
        payee := denotes.payee
        ref := denotes.ref
        amount := by
          intro value same
          have read := denotes.amount
          simp only [same] at read
          exact bigint_num read }
    have enters : row.Enters event row.locks db :=
      ⟨checked, new, payer, settlement_lock row, denotes.id, requested⟩
    simp only [List.nil_append, Option.map_some, Prog.pure_eq, Prog.done_bind]
    refine guarded_client (stable_enters (List.Subset.refl _) (settlement_lock row)) enters ?_
    rintro db busy ⟨answer, written, more⟩ history _ enters ran
    obtain ⟨text, aggregate, same, parsed, newEvent, rfl, rfl⟩ := insertEvent_ok ran
    obtain rfl := Option.some.inj same
    simp only [SettlementRow.toRecord, Uuid.parse_text, Option.some.injEq] at parsed
    subst parsed
    have included : row.locks ⊆ row.locks ++ [exclusive (.outboxEvent eventId)] :=
      List.subset_append_left _ _
    refine guarded_commit ((stable_enters included (settlement_lock row)).and
      (stable_newEvent (List.mem_append_right _ (List.mem_singleton_self _)))) ⟨enters, newEvent⟩ ?_
    intro db _ known
    have commit := @Commit.rejected (row.locks ++ [exclusive (.outboxEvent eventId)]) db row
      eventId event (known.1.mono included) denotes.status known.2 (by simp)
    have routing : settlementOutcomeRoutingKey event.payerBankId =
        settlementOutcomeRoutingKey (some row.payerBankId) := congrArg _ denotes.payer
    rw [routing]
    exact .inr commit

def Settlement.params (settlement : Settlement) : NewSettlement where
  id := settlement.id
  payerBankId := settlement.payerBankId
  payeeBankId := settlement.payeeBankId
  payeeAccountRef := settlement.payeeAccountRef
  amountCents := some (.num settlement.amount.cents)
  status := .pending
  rejectReason := none

theorem NewSettlement.Denotes.entries {settlement : Settlement} {row : SettlementRow}
    (denotes : settlement.params.Denotes row) :
    List.Forall₂ ReserveEntry.Denotes settlement.entries row.entries := by
  have amount : row.amount = settlement.amount.cents := bigint_num denotes.amount
  refine .cons ⟨denotes.id, denotes.payer, ?_⟩ (.cons ⟨denotes.id, denotes.payee, amount⟩ .nil)
  simpa using amount

theorem notify_payload {settlement : Settlement} {row : SettlementRow} {settlementId : String}
    (denotes : settlement.params.Denotes row) (spelled : settlement.id = some settlementId)
    (eventId : Nat) :
    notifyPayload settlement = (notifyRow eventId settlementId row).payload := by
  have payer : settlement.payerBankId = some row.payerBankId := denotes.payer
  have ref : settlement.payeeAccountRef = some row.payeeAccountRef := denotes.ref
  have amount : row.amount = settlement.amount.cents := bigint_num denotes.amount
  simp [notifyPayload, notifyRow, fieldText, field, spelled, payer, ref, amount]

theorem enter_writes (row : SettlementRow) (event : Outbox.Row) (db : Database) :
    ([Write.settlement row] ++ row.entries.map Write.ledgerEntry ++ [Write.outboxEvent event]).foldl
      Database.apply db = ((db.enter row).append row.entries).announce event := by
  simp [SettlementRow.entries, Database.apply, Database.enter, Database.append, Database.announce]

/-- The known payee bank: row, movement and notification go in together, or nothing does. -/
theorem guarded_open {eventId : Nat} {event : SettlementRequestedEvent} {payeeBankId : String}
    {history : List (Performed engine)} (payeeBank : event.payeeBankId = some payeeBankId)
    (registered : db.hasBank payeeBankId) {amount : Money} {settlement : Settlement}
    (read : Money.fromCents (amountOf event.amountCents) = .ok amount)
    (created : Settlement.create event.settlementId event.payerBankId event.payeeBankId
      event.payeeAccountRef amount = .ok settlement) :
    Guarded scope (.requested eventId event)
      ((SettlementRepository.insert settlement.params).bind fun record =>
        match record with
        | some _ =>
          (LedgerRepository.append settlement.entries).bind fun _ =>
          (sql .client (.insertEvent eventId settlement.id "settlement.notify"
            (settlementNotifyRoutingKey settlement.payeeBankId) (notifyPayload settlement))).bind
            fun _ =>
              perform .commit
        | none => perform .commit)
      history (some (live [] [])) db := by
  obtain ⟨sameId, samePayer, samePayee, sameRef, sameAmount⟩ := Settlement.create_ok created
  simp only [SettlementRepository.insert, Prog.bind_eq, Prog.bind_assoc]
  refine guarded_client (stable_hasBank payeeBankId) registered ?_
  rintro db busy ⟨answer, written, locks⟩ history _ registered ran
  rcases insertSettlement_ok ran with ⟨rfl, rfl⟩ |
    ⟨row, rfl, denotes, checked, new, payer, rfl, rfl⟩
  · exact guarded_commit (P := fun _ => True) stable_true trivial fun _ _ _ => .inl rfl
  · have target : ∃ text, event.settlementId = some text ∧ Uuid.parse text = some row.id := by
      rw [← sameId]
      exact denotes.id
    have payee : payeeBankId = row.payeeBankId := by
      have same : settlement.payeeBankId = some row.payeeBankId := denotes.payee
      rw [samePayee, payeeBank] at same
      exact Option.some.inj same
    subst payee
    have requested : row.Requested event :=
      { payer := samePayer.symm.trans denotes.payer
        payee := payeeBank
        ref := sameRef.symm.trans denotes.ref
        amount := by
          intro value same
          rw [same] at read
          have cents : amount.cents = value := Money.fromCents_finite read
          rw [bigint_num denotes.amount, sameAmount, cents] }
    have enters : row.Enters event row.locks db :=
      ⟨checked, new, payer, settlement_lock row, target, requested⟩
    have stable (more : List (Lock Resource)) (included : row.locks ⊆ more) :
        (contract scope).Stable more
        fun db => row.Enters event row.locks db ∧ db.hasBank row.payeeBankId :=
      (stable_enters included (settlement_lock row)).and (stable_hasBank row.payeeBankId)
    simp only [List.nil_append, Option.map_some, Prog.pure_eq, Prog.done_bind]
    refine guarded_append stable ⟨enters, registered⟩ ?_
    intro db history rows more known denoted included
    obtain rfl := entries_unique denoted denotes.entries
    refine guarded_client (stable more included) known ?_
    rintro db busy ⟨answer, written, others⟩ history _ known ran
    obtain ⟨text, aggregate, spelled, parsed, newEvent, rfl, rfl⟩ := insertEvent_ok ran
    obtain ⟨again, spelled', parsed'⟩ := denotes.id
    obtain rfl := Option.some.inj (spelled.symm.trans spelled')
    obtain rfl := Option.some.inj (parsed.symm.trans parsed')
    have newEvent : eventId ∉ db.outboxEvents.map Outbox.Row.id := by
      simpa [SettlementRow.entries, Database.apply] using newEvent
    have included' : row.locks ⊆ more ++ [exclusive (.outboxEvent eventId)] :=
      List.Subset.trans included (List.subset_append_left _ _)
    refine guarded_commit ((stable _ included').and
      (stable_newEvent (List.mem_append_right _ (List.mem_singleton_self _)))) ⟨known, newEvent⟩ ?_
    intro db _ known
    have commit := @Commit.opened (more ++ [exclusive (.outboxEvent eventId)]) db row eventId
      event text
      (known.1.1.mono included') denotes.status known.1.2 (sameId ▸ spelled) known.2 (by simp)
    have routing : settlementNotifyRoutingKey settlement.payeeBankId =
        settlementNotifyRoutingKey (some row.payeeBankId) := congrArg _ denotes.payee
    rw [← enter_writes] at commit
    rw [routing, notify_payload denotes spelled eventId]
    exact .inr commit

theorem guarded_requested {eventId : Nat} {event : SettlementRequestedEvent} :
    Guarded scope (.requested eventId event) (program (.requested eventId event)) [] none db := by
  simp only [program, handleRequested, BankRepository.findById, Prog.bind_eq, Prog.bind_assoc]
  refine guarded_read (fun _ _ _ ran => (selectBank_ok ran).1) ?_
  rintro db busy ⟨answer, written, locks⟩ history _ ran
  obtain ⟨-, facts⟩ := selectBank_ok ran
  refine guarded_bind (guarded_rollbackOnError ?_) fun _ _ _ _ => guarded_done
  cases answer with
  | none => exact guarded_begin (P := fun _ => True) stable_true trivial fun _ _ _ => guarded_reject
  | some bank =>
    obtain ⟨payeeBankId, payeeBank, registered⟩ := facts bank rfl
    refine guarded_begin (stable_hasBank payeeBankId) registered ?_
    intro db history registered
    refine guarded_fromDomain ?_
    intro amount read
    refine guarded_fromDomain ?_
    intro settlement created
    exact guarded_open payeeBank registered read created

end Requests

section Replies

variable {scope : Scope service} {db : Database}

theorem settle_pending {db : Database} {id : Uuid} {status : SettlementStatus}
    {rejectReason : Option String}
    (pending : (db.settlement id).map SettlementRow.status = some .pending) :
    db.apply (.status id status rejectReason) = db.settle id status rejectReason := by
  simp [Database.settle, pending, Database.apply]

theorem settle_other {db : Database} {id : Uuid} {status : SettlementStatus}
    {rejectReason : Option String}
    (other : (db.settlement id).map SettlementRow.status ≠ some .pending) :
    db.settle id status rejectReason = db := by
  simp [Database.settle, other]

theorem append_writes (entries : List LedgerEntryRow) (db : Database) :
    (entries.map Write.ledgerEntry).foldl Database.apply db = db.append entries := by
  induction entries generalizing db with
  | nil => simp [Database.append]
  | cons entry rest ih =>
    rw [List.map_cons, List.foldl_cons, ih]
    simp [Database.apply, Database.append]

/-- The guarded UPDATE, the outcome row and COMMIT, after the writes that `entries` stands for. -/
theorem guarded_settle {row : SettlementRow} {eventId : Nat} {event : SettlementReplyEvent}
    {status : SettlementStatus} {rejectReason : Option String} {entries : List LedgerEntryRow}
    {history : List (Performed engine)} {locks : List (Lock Resource)} (known : db.Known row)
    (commit : ∀ locks db, db.Known row →
      ((db.settlement row.id).map SettlementRow.status = some .pending →
        exclusive (.settlement row.id) ∈ locks) →
      eventId ∉ db.outboxEvents.map Outbox.Row.id → exclusive (.outboxEvent eventId) ∈ locks →
      Commit (.reply eventId event) locks db
        (((db.append entries).settle row.id status rejectReason).announce
          (outcomeRow eventId event row))) :
    Guarded scope (.reply eventId event)
      ((sql .client (.updateStatus row.id.text status rejectReason)).bind fun _ =>
        (sql .client (.insertEvent eventId (some row.id.text) "settlement.outcome"
          (settlementOutcomeRoutingKey (some row.payerBankId))
          (outcomePayload row.id.text event))).bind fun _ =>
        perform .commit)
      history (some (live (entries.map .ledgerEntry) locks)) db := by
  have view (db : Database) : (entries.map Write.ledgerEntry).foldl Database.apply db =
      db.append entries :=
    append_writes entries db
  refine guarded_client (stable_known row) known ?_
  rintro db busy ⟨answer, written, more⟩ history wellFormed known ran
  rw [view db] at ran
  have ids : ((db.append entries).settlements.map SettlementRow.id).Nodup := wellFormed.ids
  obtain ⟨id, parsed, effect⟩ := updateStatus_ok ids ran
  rw [Uuid.parse_text] at parsed
  obtain rfl := Option.some.inj parsed
  rw [append_settlement] at effect
  -- Either the row is PENDING and locked by now, or it never will be PENDING again.
  have finish (Q : Database → Prop)
      (stable : ∀ others, locks ++ more ⊆ others → (contract scope).Stable others Q) (now : Q db)
      (settled : ∀ db, Q db → (entries.map Write.ledgerEntry ++ written).foldl Database.apply db =
        (db.append entries).settle row.id status rejectReason)
      (statusLock : ∀ db, Q db → (db.settlement row.id).map SettlementRow.status = some .pending →
        exclusive (.settlement row.id) ∈ locks ++ more) :
      Guarded scope (.reply eventId event)
        ((sql .client (.insertEvent eventId (some row.id.text) "settlement.outcome"
          (settlementOutcomeRoutingKey (some row.payerBankId))
          (outcomePayload row.id.text event))).bind fun _ =>
          perform .commit) history
            (some (live (entries.map .ledgerEntry ++ written) (locks ++ more))) db := by
    refine guarded_client ((stable_known row).and (stable _ (List.Subset.refl _))) ⟨known, now⟩ ?_
    rintro db busy ⟨answer, announced, others⟩ history _ known ran
    obtain ⟨text, aggregate, same, parsed, newEvent, rfl, rfl⟩ := insertEvent_ok ran
    obtain rfl := Option.some.inj same
    rw [Uuid.parse_text] at parsed
    obtain rfl := Option.some.inj parsed
    rw [settled db known.2, settle_outboxEvents] at newEvent
    refine guarded_commit (((stable_known row).and (stable _ (List.subset_append_left _ _))).and
      (stable_newEvent (List.mem_append_right _ (List.mem_singleton_self _)))) ⟨known, newEvent⟩ ?_
    intro db _ current
    have done := commit (locks ++ more ++ [exclusive (.outboxEvent eventId)]) db current.1.1
      (fun pending => List.mem_append_left _ (statusLock db current.1.2 pending))
      current.2 (by simp)
    rw [List.foldl_append, settled db current.1.2]
    exact .inr done
  rcases effect with ⟨pending, rfl, rfl⟩ | ⟨other, rfl, rfl⟩
  · refine finish (fun db => (db.settlement row.id).map SettlementRow.status = some .pending)
      (fun others included => stable_pending (included (by simp))) pending ?_ ?_
    · intro db pending
      rw [List.foldl_append, view db]
      exact settle_pending pending
    · intro db _ _
      simp
  · obtain ⟨later, found, -⟩ := known
    refine finish (fun db => ∃ status, (db.settlement row.id).map SettlementRow.status =
      some status ∧
      status ≠ .pending) (fun _ _ => stable_settled row.id)
      ⟨later.status, by simp [found], fun pending => other (by simp [found, pending])⟩ ?_ ?_
    · rintro db ⟨status, found, final⟩
      rw [List.append_nil, view db]
      exact (settle_other (by simp [found, final])).symm
    · rintro db ⟨status, found, final⟩ pending
      exact absurd (Option.some.inj (found.symm.trans pending)) final

theorem known_of_selected {db : Database} {row : SettlementRow}
    (found : db.settlement row.id = some row) :
    db.Known row := by
  refine ⟨row, found, rfl, fun _ => rfl, ?_⟩
  intro pending rejected
  rw [pending] at rejected
  cases rejected

theorem reversal_denotes {row : SettlementRow} {amount : Money} {domain : Settlement}
    (fromCents : Money.fromCents (some (.ofInt row.amount)) = .ok amount)
    (created : Settlement.create (some row.id.text) (some row.payerBankId) (some row.payeeBankId)
      (some row.payeeAccountRef) amount = .ok domain) :
    List.Forall₂ ReserveEntry.Denotes domain.reversalEntries row.reversalEntries := by
  obtain ⟨id, payer, payee, -, same⟩ := Settlement.create_ok created
  have cents : amount.cents = row.amount := Money.fromCents_ofInt fromCents
  have target : ∃ text, domain.id = some text ∧ Uuid.parse text = some row.id :=
    ⟨row.id.text, id, Uuid.parse_text row.id⟩
  refine .cons ⟨target, payer, ?_⟩ (.cons ⟨target, payee, ?_⟩ .nil)
  · simp [same, cents]
  · simp [same, cents]

theorem guarded_reply {eventId : Nat} {event : SettlementReplyEvent} :
    Guarded scope (.reply eventId event) (program (.reply eventId event)) [] none db := by
  simp only [program, handleReply, SettlementRepository.findById, Prog.bind_eq, Prog.bind_assoc]
  refine guarded_read (fun _ _ _ ran => (selectSettlement_ok ran).1) ?_
  rintro db busy ⟨answer, written, locks⟩ history _ ran
  obtain ⟨-, facts⟩ := selectSettlement_ok ran
  cases answer with
  | none => exact guarded_done
  | some row =>
    obtain ⟨text, spelled, parsed, found⟩ := facts row rfl
    have targets : Targets event.settlementId row.id := ⟨text, spelled, parsed⟩
    have known := known_of_selected found
    simp only [Option.map_some, Prog.pure_eq, Prog.done_bind, SettlementRow.toRecord]
    by_cases pending : row.status = .pending
    · rw [if_neg (not_not.mpr pending)]
      refine guarded_bind (guarded_rollbackOnError ?_) fun _ _ _ _ => guarded_done
      refine guarded_begin (stable_known row) known ?_
      intro db history known
      by_cases confirms : event.outcome = some (.str "CONFIRMED")
      · rw [if_pos confirms]
        have commit := @guarded_settle scope db row eventId event .confirmed none [] history
          [] known ?_
        · simpa [SettlementRepository.markConfirmed, perform] using commit
        · intro locks db known statusLock newEvent eventLock
          have done := @Commit.confirmed locks db row eventId event targets confirms pending known
            statusLock newEvent eventLock
          simpa [Database.append] using done
      · rw [if_neg confirms]
        refine guarded_warn fun printable => guarded_fromDomain ?_
        intro amount fromCents
        refine guarded_fromDomain ?_
        intro domain created
        refine guarded_append (fun _ _ => stable_known row) known ?_
        intro db history rows more known denoted _
        obtain rfl := entries_unique denoted (reversal_denotes fromCents created)
        refine guarded_settle known ?_
        intro locks db known statusLock newEvent eventLock
        exact .reversed row eventId event targets confirms pending known statusLock newEvent
          eventLock printable
    · simp only [ne_eq, pending, not_false_eq_true, if_true]
      exact guarded_done

end Replies

section Others

variable {scope : Scope service} {db : Database}

theorem ok_getSettlement {id : String} :
    (contract scope).Ok (.getSettlement id)
      (fun result _ _ db => Reported (.getSettlement id) result db)
      (program (.getSettlement id)) [] none db := by
  have selected {db : Database} {busy : List (Lock Resource)}
      {effect : Reply (Sql.Answer (.selectSettlement (some id)))}
      (ran : engine.exec (.selectSettlement (some id)) db busy = .ok effect) :
      selectSettlement (some id) db = .ok effect := exec_eq_ok.mp ran
  simp only [program, getSettlement, SettlementRepository.findById, Prog.bind_eq, Prog.bind_assoc]
  refine ok_read (P := fun _ => True)
    (fun db busy effect ran => (selectSettlement_ok (selected ran)).1)
    stable_true trivial ?_ ?_
  · intro error db _ _ _
    exact ok_result fun _ _ _ _ _ done => by cases done
  · intro db busy effect _ _ ran
    obtain ⟨-, facts⟩ := selectSettlement_ok (selected ran)
    cases found : effect.answer with
    | none => exact ok_result fun _ _ _ _ _ done => by cases done
    | some row =>
      obtain ⟨text, spelled, parsed, present⟩ := facts row found
      refine ok_done (stable_known row) (known_of_selected present) ?_
      intro db _ known id' record same done
      obtain rfl := Call.getSettlement.inj same
      obtain rfl := Option.some.inj spelled
      obtain rfl := Response.settlement.inj (Except.ok.inj done)
      exact ⟨row, parsed, rfl, known⟩

theorem guarded_registerBank {id name baseUrl : String} :
    Guarded scope (.registerBank id name baseUrl) (program (.registerBank id name baseUrl)) []
      none db := by
  simp only [program, BanksController.create]
  split
  · simp only [BanksService.registerBank, BankRepository.create, Prog.bind_eq, Prog.bind_assoc]
    refine ok_pool (P := fun _ => True) stable_true trivial ?_ ?_
    · intro error db _ _ _
      exact guarded_done
    · rintro db busy ⟨answer, written, locks⟩ _ _ ran _
      refine ⟨?_, ?_, guarded_done⟩
      · rcases insertBank_ok (exec_eq_ok.mp ran) with rfl | ⟨new, rfl⟩
        · exact .inl rfl
        · exact .inr (.registered ⟨id, name, baseUrl⟩ new)
      · cases answer <;> exact guarded_done
  · exact guarded_done

def Publishes (writes : List Write) : Prop :=
  ∀ db : Database, ∃ rows, writes.foldl Database.apply db = { db with outboxEvents := rows } ∧
    Outbox.SameEvents db.outboxEvents rows

theorem Publishes.nil : Publishes [] := fun db => ⟨db.outboxEvents, rfl, .refl _⟩

theorem Publishes.append {writes : List Write} (publishes : Publishes writes) (id : Nat) :
    Publishes (writes ++ [.published id]) := by
  intro db
  obtain ⟨rows, same, events⟩ := publishes db
  refine ⟨Outbox.mark rows id, ?_, events.trans (Outbox.mark_sameEvents rows id)⟩
  rw [List.foldl_append, same]
  rfl

def Announced (events : List Outbox.Row) (db : Database) : Prop :=
  ∀ row ∈ events, ∃ later ∈ db.outboxEvents, later.message = row.message

theorem stable_announced {mine : List (Lock Resource)} (events : List Outbox.Row) :
    (contract scope).Stable mine (Announced events) := by
  intro db db' interferes known row member
  exact stable_message row db db' interferes (known row member)

theorem guarded_publishAll {events rest : List Outbox.Row} {f : Unit → Program Nat}
    {history : List (Performed engine)} {writes : List Write} {locks : List (Lock Resource)}
    (publishes : Publishes writes) (announced : Announced events db)
    (included : ∀ row ∈ rest, row ∈ events)
    (done : ∀ db history' writes' locks', Publishes writes' →
      Guarded scope .relayTick (f ()) history' (some (live writes' locks')) db) :
    Guarded scope .relayTick
      ((Prog.forEach rest fun event => (OutboxRelayService.publish event.message).bind fun _ =>
        sql .client (.markPublished event.id)).bind f) history (some (live writes locks)) db := by
  induction rest generalizing history writes locks db with
  | nil => exact done db history writes locks publishes
  | cons row rest ih =>
    simp only [Prog.forEach, Prog.bind_assoc, OutboxRelayService.publish, Outbox.publish]
    by_cases publishable : Outbox.publishable row.message = true
    · simp only [publishable, if_true]
      refine ok_emit (stable_announced events) announced ?_ ?_ ?_
      · intro db _ announced
        exact announced row (included row (by simp))
      · intro db _ _
        exact guarded_done
      · intro db _ announced
        refine guarded_client (stable_announced events) announced ?_
        rintro db busy ⟨answer, written, more⟩ history' _ announced ran
        have still : Publishes (writes ++ written) := by
          rcases markPublished_ok ran with rfl | rfl
          · simpa using publishes
          · exact publishes.append row.id
        exact ih still announced fun other member => included other (by simp [member])
    · simp only [publishable, if_false, Bool.false_eq_true]
      exact guarded_done

theorem guarded_relayTick : Guarded scope .relayTick (program .relayTick) [] none db := by
  simp only [program, Prog.bind_eq]
  refine guarded_bind (guarded_rollbackOnError ?_) fun _ _ _ _ => guarded_done
  refine guarded_begin (P := fun _ => True) stable_true trivial ?_
  intro db history _
  refine guarded_client (P := fun _ => True) stable_true trivial ?_
  rintro db busy ⟨events, written, locks⟩ history _ _ ran
  obtain ⟨rfl, rfl⟩ : events = Outbox.claim db.outboxEvents Outbox.BATCH_SIZE (lockedEvents busy) ∧
      written = [] := by
    have same := Except.ok.inj ran
    exact ⟨(congrArg Effect.answer same).symm, (congrArg Effect.writes same).symm⟩
  have announced : Announced
      (Outbox.claim db.outboxEvents Outbox.BATCH_SIZE (lockedEvents busy)) db :=
    fun row member => ⟨row, (Outbox.mem_claim member).1, rfl⟩
  refine guarded_publishAll .nil announced (fun _ member => member) ?_
  intro db history writes locks publishes
  refine guarded_bind (guarded_commit (P := fun _ => True) stable_true trivial ?_) fun _ _ _ _ =>
    guarded_done
  intro db _ _
  obtain ⟨rows, view, same⟩ := publishes db
  rw [view]
  exact .inr (.published rows same)

end Others

theorem reported_of_guarded {scope : Scope service} {call : Call} {db : Database}
    (other : ∀ id, call ≠ .getSettlement id)
    (guarded : Guarded scope call (program call) [] none db) :
    (contract scope).Ok call (fun result _ _ db => Reported call result db) (program call) []
      none db :=
  ok_mono (fun _ _ _ _ _ id _ same _ => absurd same (other id)) guarded

/-- The Hub meets its contract from the migrated database on, whatever is started. -/
theorem verified {scope : Scope service} (fresh : scope.initial = migrated) :
    (contract scope).Verified where
  initial := by
    rw [fresh]
    exact wellFormed_migrated
  inv call locks db db' wellFormed changes := Commit.wellFormed wellFormed changes.2.2
  sends message call locks db db' wellFormed changes sent := by
    obtain ⟨row, present, same⟩ := sent
    obtain ⟨later, found, again⟩ := (Commit.frame changes.2.2).messages row present
    exact ⟨later, found, again.trans same⟩
  crashed call history db _ id record _ done := by cases done
  program call db _ _ := by
    cases call with
    | registerBank id name baseUrl => exact reported_of_guarded (by simp) guarded_registerBank
    | requested eventId event => exact reported_of_guarded (by simp) guarded_requested
    | reply eventId event => exact reported_of_guarded (by simp) guarded_reply
    | getSettlement id => exact ok_getSettlement
    | relayTick => exact reported_of_guarded (by simp) guarded_relayTick

end Hub
