import PaymentLedger.Network.Verdicts

set_option autoImplicit false

-- What the Hub settles for Bank A is what the payer was debited for, and what Bank A takes
-- for settled is settled at the Hub.

namespace Network

open Transactional

variable {setting : Setting} {s : State setting.bankId}

structure Settles (bankId : String) (settlement : Hub.SettlementRow) (transfer : BankA.TransferRow)
    (interbank : BankA.InterbankTransferRow) : Prop where
  id : transfer.id = settlement.id
  row : interbank.transferId = settlement.id
  payer : settlement.payerBankId = bankId
  payee : settlement.payeeBankId = interbank.payeeBankId
  ref : settlement.payeeAccountRef = interbank.payeeAccountRef
  amount : settlement.amount = transfer.amount

theorem interbank_of_companion {db : BankA.Database} {transferId : Uuid}
    {payeeBankId payeeAccountRef : String}
    (companion : db.companion transferId = some (payeeBankId, payeeAccountRef)) :
    ∃ interbank ∈ db.interbankTransfers, interbank.transferId = transferId ∧
      interbank.payeeBankId = payeeBankId ∧ interbank.payeeAccountRef = payeeAccountRef := by
  obtain ⟨interbank, found, same⟩ := Option.map_eq_some_iff.mp companion
  have id := List.find?_some found
  simp only [decide_eq_true_eq] at id
  rw [Prod.mk.injEq] at same
  exact ⟨interbank, List.mem_of_find?_eq_some found, id, same⟩

theorem Asks.ofPayload {bankId : String} {event : Outbox.Row} {transfer : BankA.TransferRow}
    {payeeBankId payeeAccountRef : String}
    (asks : BankA.Asks bankId event transfer payeeBankId payeeAccountRef) :
    Hub.SettlementsService.SettlementRequestedEvent.ofPayload event.payload =
      { settlementId := some transfer.id.text, payerBankId := some bankId,
        payeeBankId := some payeeBankId
        payeeAccountRef := some payeeAccountRef, amountCents := some (.num transfer.amount) } := by
  rw [asks.payload]
  rfl

theorem Reachable.settles (reachable : Reachable setting s) {settlement : Hub.SettlementRow}
    (member : settlement ∈ Hub.Database.settlements s.hub.db) :
    (∃ event, setting.others event ∧ settlement.Requested event) ∨
      ∃ transfer ∈ BankA.Database.outgoing s.bankA.db,
        ∃ interbank ∈ BankA.Database.interbankTransfers s.bankA.db,
          Settles setting.bankId settlement transfer interbank := by
  obtain ⟨bankA, hub⟩ := reachable.components
  obtain ⟨eventId, event, started, ⟨text, spelled, parsed⟩, requested⟩ :=
    Hub.Reachable.asked rfl hub settlement member
  cases reachable.submitted started with
  | own own => cases own
  | other allowed => exact .inl ⟨event, allowed, requested⟩
  | requested sent =>
    obtain ⟨row, present, rfl⟩ := (bankA.sound (BankA.verified rfl)).sent _ sent
    obtain ⟨-, transfer, outgoing, payeeBankId, payeeAccountRef, companion, asks⟩ :=
      (BankA.Reachable.corresponds rfl bankA).asked row present
    obtain ⟨interbank, there, id, payee, ref⟩ := interbank_of_companion companion
    have read : Hub.SettlementsService.SettlementRequestedEvent.ofPayload row.message.payload = _ :=
      Asks.ofPayload asks
    rw [read] at requested spelled
    obtain rfl := Option.some.inj spelled
    have same : transfer.id = settlement.id :=
      Option.some.inj ((Uuid.parse_text _).symm.trans parsed)
    refine .inr ⟨transfer, outgoing, interbank, there, ?_⟩
    exact
      { id := same
        row := id.trans same
        payer := (Option.some.inj requested.payer).symm
        payee := (Option.some.inj requested.payee).symm.trans payee.symm
        ref := (Option.some.inj requested.ref).symm.trans ref.symm
        amount := requested.amount _ rfl }

theorem Reachable.told (reachable : Reachable setting s) {call : BankA.Call}
    (started : s.bankA.Started call) {handling : BankA.Handling} {text : String} {t : Uuid}
    (handles : call.handling = some handling) (targets : handling.Targets text t) :
    (∃ row, Hub.Database.settlement s.hub.db t = some row ∧ row.status ≠ .pending ∧
      handling.event.outcome = some (.str row.status.text)) ∨
    ∃ reversalId now response, call = .reconcile reversalId now text (some response) ∧
      response.status = 404 :=
  (reachable.origins started).tells reachable handles targets

theorem confirmed_of_text {status : Hub.SettlementStatus}
    (text : (some (.str status.text) : Option Json) = some (.str "CONFIRMED")) :
    status = .confirmed := by
  cases status <;> simp_all [Hub.SettlementStatus.text]

/-- Bank A keeps the payer's money only if the Hub has settled the transfer as the payee bank
ruled, for the same amount and the same payee bank. -/
theorem confirmed_is_settled {bankId : String} {verdict : Uuid → Verdict} {s : State bankId}
    (reachable : Reachable { bankId, verdict } s) {t : Uuid}
    (confirmed : s.bankA.db.status t = some .confirmed) :
    verdict t = .confirmed ∧ ∃ settlement, s.hub.db.settlement t = some settlement ∧
      settlement.status = .confirmed ∧ ∃ transfer ∈ s.bankA.db.transfers,
        ∃ interbank ∈ s.bankA.db.interbankTransfers,
        Settles bankId settlement transfer interbank := by
  obtain ⟨bankA, hub⟩ := reachable.components
  obtain ⟨call, started, handling, text, handles, targets, confirms⟩ :=
    BankA.Reachable.confirmed rfl bankA t confirmed
  obtain ⟨settlement, found, settled⟩ : ∃ row, Hub.Database.settlement s.hub.db t = some row ∧
      row.status = .confirmed := by
    rcases reachable.told started handles targets with ⟨row, found, -, outcome⟩ |
      ⟨reversalId, now, response, rfl, unknown⟩
    · exact ⟨row, found, confirmed_of_text (outcome.symm.trans confirms)⟩
    · -- A 404 is passed on as a refusal.
      have refusal : (⟨reversalId, now, BankA.ReconciliationService.unknownEvent text⟩ :
          BankA.Handling) = handling := by
        simpa [BankA.Call.handling, BankA.ReconciliationService.eventOf, unknown] using handles
      rw [← refusal, BankA.Handling.confirms] at confirms
      simp [BankA.ReconciliationService.unknownEvent] at confirms
  have member := Hub.mem_of_settlement found
  have id := Hub.id_of_settlement found
  have ruled : verdict t = .confirmed := by
    have decided := (hub_decided hub member).1
    rw [settled, id] at decided
    cases shape : verdict t with
    | confirmed => rfl
    | reversed => simp_all [Verdict.status]
  refine ⟨ruled, settlement, found, settled, ?_⟩
  rcases reachable.settles member with ⟨event, other, -⟩ |
    ⟨transfer, outgoing, interbank, there, settles⟩
  · cases other
  · exact ⟨transfer, (List.mem_filter.mp outgoing).1, interbank, there, settles⟩

section Runs

def atBankA (actions : List (Transactional.Action (BankA.service "bank-a"))) :
    List (Action "bank-a") :=
  actions.map .bankA

def atHub (actions : List (Transactional.Action Hub.service)) : List (Action "bank-a") :=
  actions.map .hub

def departure : List (Action "bank-a") :=
  atHub ([.start (Hub.Call.registerBank "bank-a" "Bank A" "http://a")] ++ runs 0 1 ++
    [.start (Hub.Call.registerBank "bank-b" "Bank B" "http://b")] ++ runs 1 1) ++
  atBankA (BankA.opening "bank-a" ++ [.start (BankA.debit (BankA.sampleId 3) 400)] ++ runs 3 10)

def requestMessage : Outbox.Message :=
  ⟨"settlement.requested",
    [("settlementId", .str (BankA.sampleId 3).text), ("payerBankId", .str "bank-a"),
     ("payeeBankId", .str "bank-b"), ("payeeAccountRef", .str "iban"), ("amountCents", .num 400)]⟩

def notifyMessage : Outbox.Message :=
  ⟨"settlement.notify.bank-b",
    [("settlementId", .str (BankA.sampleId 3).text), ("payerBankId", .str "bank-a"),
     ("payeeAccountRef", .str "iban"), ("amountCents", .num 400)]⟩

def outcomeMessage (text : String) : Outbox.Message :=
  ⟨"settlement.outcome.bank-a",
    [("settlementId", .str (BankA.sampleId 3).text), ("outcome", .str text)]⟩

def relayBankA (index : Nat) : List (Action "bank-a") :=
  atBankA ([.start BankA.Call.relayTick] ++ runs index 5)

def relayHub (index : Nat) : List (Action "bank-a") :=
  atHub ([.start Hub.Call.relayTick] ++ runs index 5)

/-- A transfer's whole way there and back; a reversal takes two operations more at the Hub and
six more at Bank A. -/
def journey (verdict : Verdict) (atHub_ atBankA_ : Nat) : List (Action "bank-a") :=
  departure ++ relayBankA 4 ++ [.requested requestMessage 0] ++ atHub (runs 2 7) ++ relayHub 3 ++
  [.notified notifyMessage 1 none] ++ atHub (runs 4 atHub_) ++ relayHub 5 ++
  [.outcome (outcomeMessage verdict.text) (BankA.sampleId 5) 0] ++ atBankA (runs 5 atBankA_)

def observe (s : State "bank-a") :
    Option BankA.InterbankTransferStatus × Option Hub.SettlementStatus :=
  (BankA.Database.status s.bankA.db (BankA.sampleId 3),
   (Hub.Database.settlement s.hub.db (BankA.sampleId 3)).map Hub.SettlementRow.status)

theorem reachable_of_evaluation (others : Hub.SettlementsService.SettlementRequestedEvent → Prop)
    {verdict : Uuid → Verdict} {actions : List (Action "bank-a")} {α : Type}
    {observe : State "bank-a" → α} {value : α}
    (evaluated : (run verdict {} actions).map observe = some value)
    (alone : actions.any Action.fromOthers = false) :
    ∃ s, Reachable { bankId := "bank-a", verdict, others } s ∧ observe s = value := by
  obtain ⟨s, ran, observed⟩ := Option.map_eq_some_iff.mp evaluated
  exact ⟨s, .of_run .init alone ran, observed⟩

theorem journey_confirmed : (run (fun _ => .confirmed) {} (journey .confirmed 5 2)).map observe =
    some (some .confirmed, some .confirmed) := by
  decide +kernel

theorem confirmed_is_settled_journey :
    ∃ s, Reachable { bankId := "bank-a", verdict := fun _ => .confirmed } s ∧
    s.bankA.db.status (BankA.sampleId 3) = some .confirmed ∧
    ∃ settlement, s.hub.db.settlement (BankA.sampleId 3) = some settlement ∧
      settlement.status = .confirmed := by
  obtain ⟨s, reachable, observed⟩ := reachable_of_evaluation (fun _ => False) journey_confirmed rfl
  have confirmed : s.bankA.db.status (BankA.sampleId 3) = some .confirmed :=
    congrArg Prod.fst observed
  obtain ⟨-, settlement, found, settled, -⟩ := confirmed_is_settled reachable confirmed
  exact ⟨s, reachable, confirmed, settlement, found, settled⟩

end Runs

/-- A transfer that Bank A has paid back is reversed or rejected at the Hub, unless a sweep
was told that the Hub did not know it. -/
theorem refunded_is_not_settled {setting : Setting} {s : State setting.bankId}
    (reachable : Reachable setting s) {t : Uuid}
    (refunded : s.bankA.db.status t = some .compensated) :
    (∃ settlement, s.hub.db.settlement t = some settlement ∧
      (settlement.status = .reversed ∨ settlement.status = .rejected)) ∨
    ∃ thread ∈ s.bankA.threads, ∃ reversalId now text response,
      thread.call = BankA.Call.reconcile reversalId now text (some response) ∧
        Uuid.parse text = some t ∧
        response.status = 404 := by
  obtain ⟨call, -, text, started, handling, handles, -, targets, refuses⟩ :=
    BankA.Reachable.refused rfl reachable.components.1 t refunded
  rcases reachable.told started handles targets with ⟨row, found, settled, outcome⟩ |
    ⟨reversalId, now, response, rfl, unknown⟩
  · refine .inl ⟨row, found, ?_⟩
    rw [BankA.Handling.confirms, outcome] at refuses
    cases status : row.status <;> simp_all [Hub.SettlementStatus.text]
  · obtain ⟨index, thread, present, same⟩ := started
    exact .inr ⟨thread, List.mem_of_getElem? present, reversalId, now, text, response, same,
      targets.2, unknown⟩

section Runs

theorem refunded_is_not_settled_journey :
    ∃ s, Reachable { bankId := "bank-a", verdict := fun _ => .reversed } s ∧
    s.bankA.db.status (BankA.sampleId 3) = some .compensated ∧
    ((∃ settlement, s.hub.db.settlement (BankA.sampleId 3) = some settlement ∧
        (settlement.status = .reversed ∨ settlement.status = .rejected)) ∨
      ∃ thread ∈ s.bankA.threads, ∃ reversalId now text response,
        thread.call = BankA.Call.reconcile reversalId now text (some response) ∧
          Uuid.parse text = some (BankA.sampleId 3) ∧ response.status = 404) := by
  have evaluated : (run (fun _ => .reversed) {} (journey .reversed 7 8)).map observe =
      some (some .compensated, some .reversed) := by
    decide +kernel
  obtain ⟨s, reachable, observed⟩ := reachable_of_evaluation (fun _ => False) evaluated rfl
  have refunded : s.bankA.db.status (BankA.sampleId 3) = some .compensated :=
    congrArg Prod.fst observed
  exact ⟨s, reachable, refunded, refunded_is_not_settled reachable refunded⟩

/-- The request is still in the outbox when the sweep asks; it arrives after the refund. -/
def overtaken : List (Action "bank-a") :=
  departure ++ [.wait 300001, .sweep (BankA.sampleId 3), .fetch (BankA.sampleId 3)] ++
    atHub (runs 2 1) ++
  [.fetched 2 false (BankA.sampleId 5) 300001] ++ atBankA (runs 4 8) ++ relayBankA 5 ++
  [.requested requestMessage 0] ++ atHub (runs 3 7)

theorem refunded_is_not_settled_fails :
    ∃ s, Reachable { bankId := "bank-a", verdict := fun _ => .confirmed } s ∧
    s.bankA.db.status (BankA.sampleId 3) = some .compensated ∧
    ∃ settlement, s.hub.db.settlement (BankA.sampleId 3) = some settlement ∧
      settlement.status = .pending := by
  have evaluated : (run (fun _ => .confirmed) {} overtaken).map observe =
      some (some .compensated, some .pending) := by
    decide +kernel
  obtain ⟨s, reachable, observed⟩ := reachable_of_evaluation (fun _ => False) evaluated rfl
  exact ⟨s, reachable, congrArg Prod.fst observed,
    Option.map_eq_some_iff.mp (congrArg Prod.snd observed)⟩

end Runs

section Requests

/-- The rows that announce a transfer of Bank A are there together or not at all; and whoever
settles for Bank A settles what it has recorded. -/
theorem requests_unaltered (setting : Setting)
    (honest : ∀ event, setting.others event → event.payerBankId ≠ some setting.bankId) :
    (∀ s, Transactional.Reachable (BankA.anyRun setting.bankId) s →
      BankA.Corresponds setting.bankId s.db ∧
      (s.db.interbankTransfers.map BankA.InterbankTransferRow.transferId).Nodup ∧
      (∀ transfer ∈ BankA.Database.outgoing s.db,
        s.db.ledgerEntries.filter (fun entry => entry.transferId = transfer.id) =
          [⟨transfer.id, transfer.payerAccountId, -transfer.amount⟩,
           ⟨transfer.id, BankA.SUSPENSE_ACCOUNT_ID, transfer.amount⟩]) ∧
      BankA.Ordered s.Started s.db) ∧
    ∀ s, Reachable setting s → ∀ settlement ∈ s.hub.db.settlements,
    settlement.payerBankId = setting.bankId →
      ∃ transfer ∈ s.bankA.db.transfers, ∃ interbank ∈ s.bankA.db.interbankTransfers,
        Settles setting.bankId settlement transfer interbank := by
  refine ⟨?_, ?_⟩
  · intro s reachable
    have wellFormed := BankA.Reachable.wellFormed rfl reachable
    refine ⟨BankA.Reachable.corresponds rfl reachable, wellFormed.interbankIds, ?_,
      BankA.Reachable.ordered rfl reachable⟩
    intro transfer outgoing
    obtain ⟨present, leaves⟩ := List.mem_filter.mp outgoing
    simp only [BankA.TransferRow.outgoing, Bool.and_eq_true, decide_eq_true_eq] at leaves
    rw [wellFormed.ledger, BankA.filter_entries wellFormed.ids present,
      BankA.TransferRow.entries, leaves.1]
  · intro s reachable settlement member payer
    rcases reachable.settles member with ⟨event, other, requested⟩ |
      ⟨transfer, outgoing, interbank, there, settles⟩
    · exact absurd (payer ▸ requested.payer) (honest event other)
    · exact ⟨transfer, (List.mem_filter.mp outgoing).1, interbank, there, settles⟩

theorem requests_unaltered_journey : ∃ s,
    Reachable { bankId := "bank-a", verdict := fun _ => .confirmed
                others := fun event => event.payerBankId = some "bank-b" } s ∧
    ∃ settlement ∈ s.hub.db.settlements, settlement.payerBankId = "bank-a" ∧
      ∃ transfer ∈ s.bankA.db.transfers, ∃ interbank ∈ s.bankA.db.interbankTransfers,
        Settles "bank-a" settlement transfer interbank := by
  have evaluated : (run (fun _ => .confirmed) {}
      (departure ++ relayBankA 4 ++ [.requested requestMessage 0] ++
        atHub (runs 2 7))).map (fun s => (Hub.Database.settlement s.hub.db (BankA.sampleId 3)).map
        Hub.SettlementRow.payerBankId) = some (some "bank-a") := by
    decide +kernel
  obtain ⟨s, reachable, observed⟩ :=
    reachable_of_evaluation (fun event => event.payerBankId = some "bank-b") evaluated rfl
  obtain ⟨settlement, found, payer⟩ := Option.map_eq_some_iff.mp observed
  have unaltered := requests_unaltered
    { bankId := "bank-a", verdict := fun _ => .confirmed,
      others := fun event => event.payerBankId = some "bank-b" }
    (by simp +contextual)
  have member := Hub.mem_of_settlement found
  exact ⟨s, reachable, settlement, member, payer, unaltered.2 s reachable settlement member payer⟩

end Requests

end Network
