import PaymentLedger.BankA.Outcomes
import PaymentLedger.BankA.Saga
import PaymentLedger.Hub.Outcomes
import PaymentLedger.Hub.Settlements

set_option autoImplicit false

-- Both handlers end in a branch that returns the money.

namespace Network

open Transactional

section Defaults

variable {bankId : String} {hub : System Hub.service} {bank : System (BankA.service bankId)}

def ReconcilesCautiously (reversalId : Uuid) (now : Int) (transferId : String)
    (hubView : Json.Object) (db : BankA.Database) : Prop :=
  let program := BankA.ReconciliationService.reconcileOne reversalId now transferId (some ⟨200, some hubView⟩)
  (Json.get hubView "status" = some (.str "PENDING") ∧
    program.evaluate none db = some ⟨.ok false, none, db⟩) ∨
    BankA.Recognised (Json.get hubView "status") ∨ BankA.Throws program db

/-- The call of `handle` that `reconcileOne` makes of the answer. -/
def answered (reversalId : Uuid) (now : Int) (transferId : String) (hubView : Json.Object) :
    BankA.Handling where
  reversalId := reversalId
  now := now
  event := BankA.ReconciliationService.settledEvent transferId hubView

-- The log line comes before the call of `handle`.
def StatusPrintable (hubView : Json.Object) : Prop :=
  Json.allPrintable [Json.get hubView "status"] = true

theorem reconcilesCautiously_iff {db : BankA.Database} (wellFormed : BankA.WellFormed db)
    {reversalId : Uuid} (drawn : ¬ db.hasTransfer reversalId) (now : Int) (transferId : String)
    (hubView : Json.Object) :
    ReconcilesCautiously reversalId now transferId hubView db ↔
      Json.get hubView "status" = some (.str "PENDING") ∨
        BankA.Recognised (Json.get hubView "status") ∨
        ¬ StatusPrintable hubView ∨ (answered reversalId now transferId hubView).Harmless db := by
  by_cases pending : Json.get hubView "status" = some (.str "PENDING")
  · exact iff_of_true (.inl ⟨pending, BankA.reconcileOne_pending pending⟩) (.inl pending)
  by_cases printable : StatusPrintable hubView
  · have throws : BankA.Throws (BankA.ReconciliationService.reconcileOne reversalId now transferId
        (some ⟨200, some hubView⟩)) db ↔
        BankA.Throws (answered reversalId now transferId hubView).program db := by
      rw [BankA.reconcileOne_answer pending printable]
      exact BankA.throws_bind_pure
    have fresh : ¬ db.hasTransfer (answered reversalId now transferId hubView).reversalId := drawn
    have cautious := BankA.cautious_iff wellFormed fresh
    simp only [ReconcilesCautiously, throws, pending, printable, not_true, false_and, false_or]
    exact cautious
  · have throws : BankA.Throws (BankA.ReconciliationService.reconcileOne reversalId now transferId
        (some ⟨200, some hubView⟩)) db := 
        BankA.reconcileOne_unprintable pending (Bool.eq_false_of_not_eq_true printable)
    exact iff_of_true (.inr (.inr throws)) (.inr (.inr (.inl printable)))

/-- An outcome that nobody defined moves money exactly if it reaches a transfer that is known
and the handler can print what it says, and at the Hub store it too; it is passed over if that
transfer is settled. -/
theorem unrecognised_outcome (hubReached : Transactional.Reachable Hub.anyRun hub)
    (bankReached : Transactional.Reachable (BankA.anyRun bankId) bank) :
    (∀ eventId (event : Hub.SettlementsService.SettlementReplyEvent),
      eventId ∉ (Hub.Database.outboxEvents hub.db).map Outbox.Row.id →
      (event.Cautious eventId hub.db ↔ event.Recognised ∨ event.Harmless hub.db)) ∧
    (∀ handling : BankA.Handling, ¬ BankA.Database.hasTransfer bank.db handling.reversalId →
      (BankA.Recognised handling.event.outcome ∨ BankA.Throws handling.program bank.db ↔
        BankA.Recognised handling.event.outcome ∨ handling.Harmless bank.db)) ∧
    ∀ reversalId now transferId hubView, ¬ BankA.Database.hasTransfer bank.db reversalId →
      (ReconcilesCautiously reversalId now transferId hubView bank.db ↔
        Json.get hubView "status" = some (.str "PENDING") ∨
          BankA.Recognised (Json.get hubView "status") ∨
          ¬ StatusPrintable hubView ∨
          (answered reversalId now transferId hubView).Harmless bank.db) := by
  have wellFormed := BankA.Reachable.wellFormed rfl bankReached
  refine ⟨?_, ?_, ?_⟩
  · intro eventId event new
    exact Hub.cautious_iff rfl hubReached new
  · intro handling drawn
    exact BankA.cautious_iff wellFormed drawn
  · intro reversalId now transferId hubView drawn
    exact reconcilesCautiously_iff wellFormed drawn now transferId hubView

def textless : Json := .object (.cons "toString" (.num 1) .nil)

def silentReply : Hub.SettlementsService.SettlementReplyEvent where
  settlementId := some Hub.sampleId.text
  outcome := none
  reason := none

def unstorableReply : Hub.SettlementsService.SettlementReplyEvent :=
  { silentReply with reason := some (.array (.cons (.str (String.singleton '\x00')) .nil)) }

def misspelt : BankA.Handling where
  reversalId := BankA.sampleId 4
  now := 1
  event := { settlementId := some (BankA.sampleId 3).text, outcome := some (.str "confirmed") }

def misprinted : BankA.Handling :=
  { misspelt with event := { settlementId := some (BankA.sampleId 3).text,
                             outcome := some textless } }

def observePending (db : Hub.Database) : List (Uuid × Hub.SettlementStatus) × List Nat :=
  ((Hub.Database.settlements db).map fun row => (row.id, row.status),
    (Hub.Database.outboxEvents db).map Outbox.Row.id)

/-- The handlers throw on an outcome without a text, and on a reason that cannot be stored. -/
theorem unrecognised_outcome_unprintable :
    (∃ s, Transactional.Reachable Hub.anyRun s ∧
      observePending s.db = ([(Hub.sampleId, .pending)], [1]) ∧
      unstorableReply.Cautious 5 s.db) ∧
    ∃ s, Transactional.Reachable (BankA.anyRun "bank-a") s ∧
      BankA.Database.status s.db (BankA.sampleId 3) = some .debited ∧
      BankA.Throws misprinted.program s.db := by
  have registered : (System.run { db := Hub.anyRun.initial } Hub.registering).map
      (fun s => observePending s.db) =
      some ([(Hub.sampleId, .pending)], [1]) := by
    decide +kernel
  have debited : (System.run { db := (BankA.anyRun "bank-a").initial }
      (BankA.opening "bank-a" ++ [.start (BankA.debit (BankA.sampleId 3) 400)] ++ runs 3 10)).map
      (fun s =>
        (BankA.Database.status s.db (BankA.sampleId 3),
          decide (BankA.Database.hasTransfer s.db (BankA.sampleId 4)))) =
      some (some .debited, false) := by
    decide +kernel
  obtain ⟨hub, hubReached, pending, -⟩ :=
    Reachable.of_evaluation registered (fun _ _ => trivial) (fun _ _ _ => trivial)
  obtain ⟨bank, bankReached, observed, -⟩ :=
    Reachable.of_evaluation debited (fun _ _ => trivial) (fun _ _ _ => trivial)
  obtain ⟨status, free⟩ := Prod.mk.inj observed
  obtain ⟨atHub, atBank, -⟩ := unrecognised_outcome hubReached bankReached
  refine ⟨⟨hub, hubReached, pending, ?_⟩, bank, bankReached, status, ?_⟩
  · obtain ⟨rows, events⟩ := Prod.mk.inj pending
    refine (atHub 5 unstorableReply (by rw [events]; decide)).mpr (.inr fun row targets found => ?_)
    have listed := List.mem_map_of_mem (f := fun row => (row.id, row.status))
      (Hub.mem_of_settlement found)
    rw [rows, List.mem_singleton] at listed
    exact ⟨congrArg Prod.snd listed, fun safe => absurd safe.2 (by decide)⟩
  · have drawn : ¬ BankA.Database.hasTransfer bank.db (BankA.sampleId 4) := by simpa using free
    refine ((atBank misprinted drawn).mpr (.inr ?_)).resolve_left ?_
    · rintro text id current ⟨spelled, parsed⟩ found
      obtain rfl := Option.some.inj spelled
      obtain rfl := Option.some.inj ((Uuid.parse_text _).symm.trans parsed)
      exact ⟨Option.some.inj (found.symm.trans status), by decide⟩
    · simp [BankA.Recognised, misprinted, textless]

/-- A reply without an outcome reverses a settlement, and a misspelt one pays the payer back. -/
theorem unrecognised_outcome_fails :
    (∃ s, Transactional.Reachable Hub.anyRun s ∧ ¬ silentReply.Cautious 5 s.db) ∧
      ∃ s, Transactional.Reachable (BankA.anyRun "bank-a") s ∧
        ¬ (BankA.Recognised misspelt.event.outcome ∨ BankA.Throws misspelt.program s.db) := by
  constructor
  · have evaluated : (System.run { db := Hub.anyRun.initial } Hub.registering).map (fun s =>
        ((Hub.SettlementsService.handleReply 5 silentReply).evaluate none s.db).map fun finish =>
          (finish.result.toOption.isSome,
            (Hub.Database.settlements finish.db).map Hub.SettlementRow.status)) =
        some (some (true, [.reversed])) := by
      decide +kernel
    obtain ⟨s, reachable, observed, -⟩ :=
      Reachable.of_evaluation evaluated (fun _ _ => trivial) (fun _ _ _ => trivial)
    refine ⟨s, reachable, ?_⟩
    rintro (recognised | ⟨error, raised⟩)
    · rcases recognised with outcome | outcome <;> cases outcome
    · rw [raised] at observed
      cases observed
  · have evaluated : (System.run { db := (BankA.anyRun "bank-a").initial }
        (BankA.opening "bank-a" ++ [.start (BankA.debit (BankA.sampleId 3) 400)] ++ runs 3 10)).map
        (fun s =>
          (misspelt.program.evaluate none s.db).map fun finish => (finish.result.toOption.isSome,
            (BankA.Database.interbankTransfers finish.db).map BankA.InterbankTransferRow.status)) =
        some (some (true, [.compensated])) := by
      decide +kernel
    obtain ⟨s, reachable, observed, -⟩ :=
      Reachable.of_evaluation evaluated (fun _ _ => trivial) (fun _ _ _ => trivial)
    refine ⟨s, reachable, ?_⟩
    rintro (recognised | ⟨error, raised⟩)
    · simp [BankA.Recognised, misspelt] at recognised
    · rw [raised] at observed
      cases observed

end Defaults

end Network
