import PaymentLedger.BankA.Compensation
import PaymentLedger.BankA.Whole
import PaymentLedger.BankB.Atomicity
import PaymentLedger.Hub.Serial

set_option autoImplicit false

-- At each of the three services, whatever fails in the middle of a call.

namespace Network

open Transactional

/-- Bank A's calls leave all or nothing unless a refund finds its key taken; those of the Hub and
of Bank B always do. -/
theorem all_or_nothing (bankId : String) (bankA : BankA.Database) (call : BankA.Call)
    (hub : Hub.Database) (eventId : Nat) (bankB : BankB.Database)
    (body : Option BankB.Consumer.Payload) :
    (BankA.WellFormed bankA → call.movesMoney = true →
      ((BankA.service bankId).Indivisible (BankA.Whole bankId) call bankA ↔
        call.Refundable bankA)) ∧
    (Hub.WellFormed hub →
      (∀ event, Hub.service.Indivisible Hub.Whole (.requested eventId event) hub) ∧
      ∀ event, Hub.service.Indivisible Hub.Whole (.reply eventId event) hub) ∧
    (BankB.WellFormed bankB → BankB.service.Indivisible BankB.Whole (.deliver body) bankB) := by
  refine ⟨?_, ?_, ?_⟩
  · intro wellFormed moves
    exact BankA.refundable_iff wellFormed moves
  · intro wellFormed
    exact ⟨fun event s alone => Hub.requested_whole wellFormed alone,
      fun event s alone => Hub.reply_whole wellFormed alone⟩
  · intro wellFormed s alone
    exact BankB.deliver_whole wellFormed alone

section Samples

open BankA

def underway (squatter : List (Transactional.Action (BankA.service "bank-a"))) :
    List (Transactional.Action (BankA.service "bank-a")) :=
  opening "bank-a" ++ [.start (debit (sampleId 3) 400)] ++ runs 3 10 ++ squatter

def squat : List (Transactional.Action (BankA.service "bank-a")) :=
  [.start (BankA.Call.transfer (sampleId 4)
    (some (InterbankReplyService.compensationKey (sampleId 3).text))
    ⟨(sampleId 0).text, (sampleId 1).text, .finite 1⟩)] ++ runs 4 9

def refunding : BankA.Call := outcome (sampleId 5) (sampleId 3) "REVERSED"

theorem refunding_handles (handling : Handling) (settlementId : String) (transferId : Uuid)
    (handles : refunding.handling = some handling)
    (targets : handling.Targets settlementId transferId) :
    settlementId = (sampleId 3).text := by
  obtain rfl := Option.some.inj handles
  exact (Option.some.inj targets.1).symm

def observeRefund (db : BankA.Database) :
    Bool × Option InterbankTransferStatus × Option (Option InterbankTransferStatus) :=
  (decide (db.hasKey (InterbankReplyService.compensationKey (sampleId 3).text)),
    db.status (sampleId 3), ((BankA.service "bank-a").alone refunding db).map fun answer =>
    BankA.Database.status answer.2 (sampleId 3))

theorem observeRefund_taken (db : BankA.Database) :
    (observeRefund db).1 = true ↔
    db.hasKey (InterbankReplyService.compensationKey (sampleId 3).text) :=
  decide_eq_true_iff

theorem refunding_whole : ∃ s, Transactional.Reachable (BankA.anyRun "bank-a") s ∧
    observeRefund s.db = (false, some .debited, some (some .compensated)) ∧
    (BankA.service "bank-a").Indivisible (BankA.Whole "bank-a") refunding s.db := by
  have evaluated : (System.run { db := (BankA.anyRun "bank-a").initial } (underway [])).map
      (fun s => observeRefund s.db) =
      some (false, some .debited, some (some .compensated)) := by
    decide +kernel
  obtain ⟨s, reachable, observed, -⟩ :=
    @Transactional.Reachable.of_evaluation _ (BankA.anyRun "bank-a") _ _ _ _ _ evaluated
    (fun _ _ => trivial) fun _ _ _ => trivial
  have wellFormed : BankA.WellFormed s.db := BankA.Reachable.wellFormed rfl reachable
  have refundable : refunding.Refundable s.db := by
    intro handling settlementId transferId handles targets _ _ _
    rw [refunding_handles handling settlementId transferId handles targets]
    exact mt (observeRefund_taken s.db).mpr (by rw [observed]; decide)
  exact ⟨s, reachable, observed,
    ((all_or_nothing "bank-a" s.db refunding Hub.migrated 0 BankB.migrated none).1 wellFormed
      rfl).mpr refundable⟩

/-- The outcome of a debit whose reversal's key is taken. -/
theorem all_or_nothing_fails : ¬ ∀ (s : System (BankA.service "bank-a")) (call : BankA.Call),
    Transactional.Reachable (BankA.anyRun "bank-a") s → call.movesMoney = true →
      (BankA.service "bank-a").Indivisible (BankA.Whole "bank-a") call s.db := by
  intro indivisible
  have evaluated : (System.run { db := (BankA.anyRun "bank-a").initial } (underway squat)).map
      (fun s => observeRefund s.db) =
      some (true, some .debited, some (some .compensated)) := by
    decide +kernel
  obtain ⟨s, reachable, observed, -⟩ :=
    @Transactional.Reachable.of_evaluation _ (BankA.anyRun "bank-a") _ _ _ _ _ evaluated
    (fun _ _ => trivial) fun _ _ _ => trivial
  have taken := (observeRefund_taken s.db).mp (congrArg Prod.fst observed)
  have debited := congrArg (fun seen => seen.2.1) observed
  have targets : Handling.Targets
      ⟨sampleId 5, 1, ⟨some (sampleId 3).text, some (.str "REVERSED"), none⟩⟩
      (sampleId 3).text (sampleId 3) := ⟨rfl, Uuid.parse_text _⟩
  obtain ⟨later, alone, changed, torn⟩ := torn_of_taken "bank-a" refunding
    (BankA.Reachable.wellFormed rfl reachable) rfl targets (by simp [Handling.confirms]) (by decide)
    debited taken
  exact (indivisible s refunding reachable rfl later alone).elim changed torn

end Samples

end Network
