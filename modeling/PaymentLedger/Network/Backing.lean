import Mathlib.Algebra.Order.BigOperators.Group.List
import Mathlib.Algebra.Order.Ring.Int
import Mathlib.Data.List.Perm.Subperm
import PaymentLedger.Network.Causality

set_option autoImplicit false

-- The amount of a settlement at the Hub, and of the notification to its payee bank, has left a
-- customer's account at the payer bank. Nobody is asked to credit money that nobody paid.

namespace BankA

open Transactional InterbankTransfersService

/-- The bank has debited a customer of its own for this account of another bank. -/
def Database.Backs (db : Database) (id : Uuid) (payeeBankId payeeAccountRef : String)
    (amount : Int) : Prop :=
  ∃ transfer ∈ db.transfers, ∃ interbank ∈ db.interbankTransfers, transfer.id = id ∧
    transfer.amount = amount ∧
    Customer transfer.payerAccountId ∧ interbank.transferId = id ∧
    interbank.payeeBankId = payeeBankId ∧
    interbank.payeeAccountRef = payeeAccountRef ∧
    db.ledgerEntries.filter (fun entry => entry.transferId = id) =
      [⟨id, transfer.payerAccountId, -amount⟩, ⟨id, SUSPENSE_ACCOUNT_ID, amount⟩]

variable {bankId : String} {s : System (service bankId)}

theorem Reachable.asks (reachable : Reachable (anyRun bankId) s) {message : Outbox.Message}
    (sent : message ∈ s.sent) :
    ∃ transfer ∈ Database.outgoing s.db, ∃ payeeBankId payeeAccountRef,
      Database.companion s.db transfer.id = some (payeeBankId, payeeAccountRef) ∧
      message.payload =
        [("settlementId", .str transfer.id.text), ("payerBankId", .str bankId),
         ("payeeBankId", .str payeeBankId),
         ("payeeAccountRef", .str payeeAccountRef), ("amountCents", .num transfer.amount)] := by
  obtain ⟨event, present, rfl⟩ := (reachable.sound (verified rfl)).sent message sent
  obtain ⟨-, transfer, outgoing, payeeBankId, payeeAccountRef, companion, asks⟩ :=
    (Reachable.corresponds rfl reachable).asked event present
  exact ⟨transfer, outgoing, payeeBankId, payeeAccountRef, companion, asks.payload⟩

theorem WellFormed.backs {db : Database} (wellFormed : WellFormed db) {transfer : TransferRow}
    (outgoing : transfer ∈ db.outgoing) {payeeBankId payeeAccountRef : String}
    (companion : db.companion transfer.id = some (payeeBankId, payeeAccountRef)) :
    db.Backs transfer.id payeeBankId payeeAccountRef transfer.amount := by
  have present := (List.mem_filter.mp outgoing).1
  obtain ⟨interbank, found, pair⟩ := Option.map_eq_some_iff.mp companion
  have member := List.mem_of_find?_eq_some found
  have accepted := List.find?_some found
  have target : interbank.transferId = transfer.id := of_decide_eq_true accepted
  obtain ⟨paid, there, same, payer, payee⟩ := wellFormed.interbank interbank member
  obtain rfl := transfer_ext wellFormed there present (same.trans target)
  obtain ⟨bank, ref⟩ := Prod.mk.inj pair
  refine ⟨paid, present, interbank, member, rfl, rfl, payer, target, bank, ref, ?_⟩
  rw [wellFormed.ledger, filter_entries wellFormed.ids present, TransferRow.entries, payee]

end BankA

namespace Hub

open Transactional SettlementsService

def SettlementRow.Addresses (row : SettlementRow) (message : Outbox.Message) : Prop :=
  message.routingKey = settlementOutcomeRoutingKey (some row.payerBankId) ∨
    message.routingKey = settlementNotifyRoutingKey (some row.payeeBankId) ∧
      ∃ text, Uuid.parse text = some row.id ∧ message.payload =
        [("settlementId", .str text), ("payerBankId", .str row.payerBankId),
         ("payeeAccountRef", .str row.payeeAccountRef), ("amountCents", .num row.amount)]

theorem Life.addresses {admits : SettlementReplyEvent → SettlementStatus → Prop}
    {row : SettlementRow} {status : SettlementStatus} {entries : List LedgerEntryRow}
    {events : List Outbox.Row} (life : Life admits row status entries events) :
    ∀ event ∈ events, row.Addresses event.message := by
  have more {events : List Outbox.Row} {eventId : Nat} {event : SettlementReplyEvent}
      (ih : ∀ event ∈ events, row.Addresses event.message) :
      ∀ other ∈ events ++ [outcomeRow eventId event row], row.Addresses other.message := by
    intro other member
    rcases List.mem_append.mp member with old | new
    · exact ih other old
    · obtain rfl := List.mem_singleton.mp new
      exact .inl rfl
  induction life with
  | rejected eventId =>
    intro event member
    obtain rfl := List.mem_singleton.mp member
    exact .inl rfl
  | opened eventId settlementId spelled =>
    intro event member
    obtain rfl := List.mem_singleton.mp member
    exact .inr ⟨rfl, settlementId, spelled, rfl⟩
  | confirmed eventId event before live confirms admitted ih => exact more ih
  | reversed eventId event before live refuses admitted ih => exact more ih

variable {s : System service}

theorem Reachable.addresses (reachable : Reachable anyRun s) {message : Outbox.Message}
    (sent : message ∈ s.sent) :
    ∃ row ∈ Database.settlements s.db, row.Addresses message := by
  have sound := reachable.sound (verified rfl)
  have wellFormed : WellFormed s.db := sound.inv
  obtain ⟨event, present, rfl⟩ := sound.sent message sent
  obtain ⟨row, found⟩ := Option.isSome_iff_exists.mp (wellFormed.announced event present)
  have id := id_of_settlement found
  have member := mem_of_settlement found
  have lives : Lives (fun _ _ _ => True) s.db :=
    Reachable.lives rfl reachable fun _ _ _ _ _ _ _ _ _ => trivial
  -- the history of a settlement does not see which of its events are published
  have listed : { event with published := false } ∈ Database.eventsOf s.db row.id :=
    List.mem_map_of_mem (List.mem_filter.mpr ⟨present, by simp [id]⟩)
  have addresses := (lives row member).addresses { event with published := false } listed
  exact ⟨row, member, addresses⟩

end Hub

namespace Federation

open Transactional Hub.SettlementsService

/-- Different items on the left stand for different items on the right. -/
theorem sum_le_of_nodup {K : Type} {xs ys : List (K × Int)} (nodup : xs.Nodup) (included : xs ⊆ ys)
    (nonneg : ∀ y ∈ ys, 0 ≤ y.2) : (xs.map Prod.snd).sum ≤ (ys.map Prod.snd).sum := by
  obtain ⟨zs, perm, sublist⟩ := List.subperm_of_subset nodup included
  rw [← (perm.map Prod.snd).sum_eq]
  refine (sublist.map Prod.snd).sum_le_sum ?_
  intro amount member
  obtain ⟨y, present, rfl⟩ := List.mem_map.mp member
  exact nonneg y present

variable {s : State}

theorem Reachable.debited (reachable : Reachable s) {row : Hub.SettlementRow}
    (member : row ∈ Hub.Database.settlements s.hub.db) :
    ∃ transfer ∈ BankA.Database.outgoing (s.banks row.payerBankId).db, transfer.id = row.id ∧
      transfer.amount = row.amount ∧
      BankA.Database.companion (s.banks row.payerBankId).db transfer.id =
      some (row.payeeBankId, row.payeeAccountRef) := by
  obtain ⟨eventId, event, started, ⟨text, spelled, parsed⟩, asked⟩ :=
    Hub.Reachable.asked rfl reachable.hub row member
  obtain ⟨bankId, message, sent, rfl⟩ := reachable.requested started
  obtain ⟨transfer, outgoing, payeeBankId, payeeAccountRef, companion, payload⟩ :=
    BankA.Reachable.asks (reachable.bank bankId) sent
  have settlementId : some transfer.id.text = some text := by
    simpa [SettlementRequestedEvent.ofPayload, payload, Json.get, Json.param] using spelled
  have payer : some bankId = some row.payerBankId := by
    simpa [SettlementRequestedEvent.ofPayload, payload, Json.get, Json.param] using asked.payer
  have payee : some payeeBankId = some row.payeeBankId := by
    simpa [SettlementRequestedEvent.ofPayload, payload, Json.get, Json.param] using asked.payee
  have ref : some payeeAccountRef = some row.payeeAccountRef := by
    simpa [SettlementRequestedEvent.ofPayload, payload, Json.get, Json.param] using asked.ref
  have amount : row.amount = transfer.amount := by
    refine asked.amount transfer.amount ?_
    simp [SettlementRequestedEvent.ofPayload, payload, Json.get]
  rw [← Option.some.inj settlementId, Uuid.parse_text] at parsed
  obtain rfl := Option.some.inj payer
  refine ⟨transfer, outgoing, Option.some.inj parsed, amount.symm, ?_⟩
  rw [companion, Option.some.inj payee, Option.some.inj ref]

/-- Every settlement, and every notification that reaches a payee bank, is for money that the payer
bank has taken from a customer for exactly this account; and no bank's settlements add up to
more than it has taken. -/
theorem settlements_backed (reachable : Reachable s) :
    (∀ row ∈ Hub.Database.settlements s.hub.db,
      BankA.Database.Backs (s.banks row.payerBankId).db row.id row.payeeBankId
      row.payeeAccountRef row.amount) ∧
    (∀ bankId, Hub.Literal bankId → ∀ message ∈ s.hub.sent,
      Topic.matches_ (Hub.settlementNotifyRoutingKey (some bankId)) message.routingKey = true →
      ∃ (text : String) (id : Uuid) (payerBankId payeeAccountRef : String) (amount : Int),
        Uuid.parse text = some id ∧ message.payload =
          [("settlementId", .str text), ("payerBankId", .str payerBankId),
           ("payeeAccountRef", .str payeeAccountRef),
           ("amountCents", .num amount)] ∧
        BankA.Database.Backs (s.banks payerBankId).db id bankId payeeAccountRef amount) ∧
    ∀ bankId, (((Hub.Database.settlements s.hub.db).filter fun row => row.payerBankId = bankId).map
        Hub.SettlementRow.amount).sum ≤
      ((BankA.Database.outgoing (s.banks bankId).db).map BankA.TransferRow.amount).sum := by
  have backed (row : Hub.SettlementRow) (member : row ∈ Hub.Database.settlements s.hub.db) :
      BankA.Database.Backs (s.banks row.payerBankId).db row.id row.payeeBankId row.payeeAccountRef
      row.amount := by
    obtain ⟨transfer, outgoing, id, amount, companion⟩ := reachable.debited member
    rw [← id, ← amount]
    exact (BankA.Reachable.wellFormed rfl (reachable.bank row.payerBankId)).backs outgoing companion
  refine ⟨backed, ?_, ?_⟩
  · intro bankId literal message sent bound
    obtain ⟨row, member, outcome | ⟨notify, text, parsed, payload⟩⟩ :=
      Hub.Reachable.addresses reachable.hub sent
    · rw [outcome, Hub.notify_matches_outcome] at bound
      cases bound
    · rw [notify, Hub.notify_matches_notify] at bound
      have payee := literal.matches_ bound
      exact ⟨text, row.id, row.payerBankId, row.payeeAccountRef, row.amount, parsed, payload,
        payee ▸ backed row member⟩
  · intro bankId
    have wellFormed := BankA.Reachable.wellFormed rfl (reachable.bank bankId)
    have hub : Hub.WellFormed s.hub.db := (reachable.hub.sound (Hub.verified rfl)).inv
    let settlement (row : Hub.SettlementRow) : Uuid × Int := (row.id, row.amount)
    let debit (row : BankA.TransferRow) : Uuid × Int := (row.id, row.amount)
    let own := (Hub.Database.settlements s.hub.db).filter fun row => row.payerBankId = bankId
    have nodup : (own.map settlement).Nodup := by
      refine List.Nodup.of_map Prod.fst ?_
      rw [List.map_map]
      exact hub.ids.sublist (List.filter_sublist.map Hub.SettlementRow.id)
    have included : own.map settlement ⊆ (BankA.Database.outgoing (s.banks bankId).db).map
        debit := by
      intro pair listed
      obtain ⟨row, kept, rfl⟩ := List.mem_map.mp listed
      obtain ⟨member, payer⟩ := List.mem_filter.mp kept
      obtain rfl := of_decide_eq_true payer
      obtain ⟨transfer, outgoing, id, amount, -⟩ := reachable.debited member
      refine List.mem_map.mpr ⟨transfer, outgoing, ?_⟩
      simp only [debit, settlement, id, amount]
    have nonneg : ∀ pair ∈ (BankA.Database.outgoing (s.banks bankId).db).map debit, 0 ≤ pair.2 := by
      intro pair listed
      obtain ⟨transfer, outgoing, rfl⟩ := List.mem_map.mp listed
      exact (wellFormed.checked transfer (List.mem_filter.mp outgoing).1).2.2.1.le
    have bound := sum_le_of_nodup nodup included nonneg
    rw [List.map_map, List.map_map] at bound
    exact bound

def agreed (s : State) : List (Uuid × String × String × String × Int) :=
  (Hub.Database.settlements s.hub.db).map fun row =>
    (row.id, row.payerBankId, row.payeeBankId, row.payeeAccountRef, row.amount)

theorem settlements_backed_confirming : ∃ s, Reachable s ∧ Network.notifyMessage ∈ s.hub.sent ∧
    BankA.Database.Backs (s.banks "bank-a").db (BankA.sampleId 3) "bank-b" "iban" 400 := by
  have evaluated : (run {} confirming).map (fun s => (decide (Network.notifyMessage ∈ fromHub s),
      decide (agreed s = [(BankA.sampleId 3, "bank-a", "bank-b", "iban", 400)]))) =
      some (true, true) := by
    decide +kernel
  obtain ⟨s, ran, observed⟩ := Option.map_eq_some_iff.mp evaluated
  obtain ⟨told, listed⟩ := Prod.mk.inj observed
  have rows : agreed s = [(BankA.sampleId 3, "bank-a", "bank-b", "iban", 400)] :=
    of_decide_eq_true listed
  have reachable : Reachable s := .of_run .init ran
  have sent : Network.notifyMessage ∈ fromHub s := of_decide_eq_true told
  obtain ⟨row, member, same⟩ := List.mem_map.mp (rows ▸ List.mem_singleton_self _ : _ ∈ agreed s)
  have holds := (settlements_backed reachable).1 row member
  simp only [Prod.mk.injEq] at same
  obtain ⟨id, payer, payee, ref, amount⟩ := same
  rw [id, payer, payee, ref, amount] at holds
  exact ⟨s, reachable, sent, holds⟩

end Federation
