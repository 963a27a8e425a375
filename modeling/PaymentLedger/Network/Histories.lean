import PaymentLedger.BankA.History
import PaymentLedger.BankA.Saga
import PaymentLedger.Hub.History

set_option autoImplicit false

namespace Network

open Transactional

/-- Settlements and interbank transfers move forward once and then never change. -/
theorem saga_moves_forward :
    (∀ states s id, Visits Hub.anyRun states s →
      Hub.LegalHistory (history (states.map (Hub.statusOf id))) ∧
        (history (states.map (Hub.businessOf id))).length ≤ 1) ∧
    (∀ s, Reachable Hub.anyRun s →
      (∀ row ∈ s.db.settlements, row.rejectReason = none ↔
        (row.status = .pending ∨ row.status = .confirmed)) ∧
      ∀ (index : Nat) (thread : Thread Hub.service) (executor : Executor) (sql : Hub.Sql)
        (next : Except Hub.Failure sql.Answer → Hub.Program Hub.Response),
        s.threads[index]? = some thread → thread.prog = .op (.query executor sql) next →
          sql.PassesStatusCheck (Hub.view thread s.db)) ∧
    ∀ bankId states s id, Visits (BankA.anyRun bankId) states s →
      BankA.LegalHistory (history (states.map (BankA.statusOf id))) := by
  refine ⟨?_, ?_, ?_⟩
  · intro states s id visits
    exact ⟨Hub.statuses_legal visits id, Hub.business_fixed visits id⟩
  · intro s reachable
    refine ⟨?_, fun index thread executor sql next => Hub.status_check_passes reachable⟩
    have wellFormed : Hub.WellFormed s.db := (reachable.sound (Hub.verified rfl)).inv
    intro row member
    obtain ⟨-, -, -, -, reason⟩ := wellFormed.checked row member
    rw [Hub.StatusReason] at reason
    cases status : row.status <;> cases given : row.rejectReason <;> simp_all
  · intro bankId states s id visits
    exact BankA.statuses_legal visits id

theorem saga_moves_forward_crossing :
    (∃ states s, Visits Hub.anyRun states s ∧
      s.db.settlements.map Hub.SettlementRow.status = [.reversed] ∧
      Hub.LegalHistory (history (states.map (Hub.statusOf Hub.sampleId))) ∧
      ∀ row ∈ s.db.settlements, row.rejectReason = none ↔
      (row.status = .pending ∨ row.status = .confirmed)) ∧
    ∃ states s, Visits (BankA.anyRun "bank-a") states s ∧
      s.db.status (BankA.sampleId 3) = some .compensated ∧
      BankA.LegalHistory (history (states.map (BankA.statusOf (BankA.sampleId 3)))) := by
  obtain ⟨hub, bankA⟩ := saga_moves_forward
  constructor
  · obtain ⟨s, reachable, observed, -⟩ :=
      @Reachable.of_evaluation _ Hub.anyRun _ _ _ _ _ Hub.reversal_evaluated
      (fun _ _ => trivial) fun _ _ _ => trivial
    obtain ⟨states, visits⟩ := reachable.visits
    exact ⟨states, s, visits, observed, (hub states s Hub.sampleId visits).1,
      (bankA.1 s reachable).1⟩
  · obtain ⟨s, reachable, observed, -⟩ :=
      @Reachable.of_evaluation _ (BankA.anyRun "bank-a") _ _ _ _ _
      BankA.refusals_evaluated (fun _ _ => trivial) fun _ _ _ => trivial
    obtain ⟨states, visits⟩ := reachable.visits
    exact ⟨states, s, visits, congrArg Prod.fst observed,
      bankA.2 "bank-a" states s (BankA.sampleId 3) visits⟩

end Network
