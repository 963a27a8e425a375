import PaymentLedger.BankA.Solvency
import PaymentLedger.Shared.History

set_option autoImplicit false

namespace BankA

open Transactional

def LegalHistory (history : List InterbankTransferStatus) : Prop :=
  history <+: [.debited, .confirmed] ∨ history <+: [.debited, .compensated]

theorem debited_of_last {history : List InterbankTransferStatus} (legal : LegalHistory history)
    (last : history.getLast? = some .debited) : history = [.debited] := by
  rcases legal with within | within <;>
    simp only [List.prefix_cons_iff, List.prefix_nil] at within <;> aesop

theorem Commit.enters {bankId : String} {call : Call} {locks : List (Lock Resource)}
    {db db' : Database} (commit : Commit bankId call locks db db') (id : Uuid)
    (new : db.status id = none) :
    db'.status id = none ∨ db'.status id = some .debited := by
  cases commit with
  | opened | seeded | transferred | published => exact .inl new
  | debited row draws key body bookable affordable requested payee newEvent interbankLock
      eventLock =>
    simp only [Database.status, Option.map_eq_none_iff] at new
    simp only [Database.status, Database.debit, List.find?_append, new, Option.none_or,
      List.find?_cons]
    split
    · exact .inr rfl
    · exact .inl rfl
  | confirmed handling settlementId transferId handles targets confirms statusLock =>
    refine .inl ?_
    rw [status_settle, if_neg, new]
    rintro ⟨rfl, debited⟩
    rw [new] at debited
    cases debited
  | compensated handling settlementId transferId original handles targets refuses present
      same known =>
    refine .inl ?_
    rw [Database.compensate, status_settle, refund_status, refund_status, if_neg, new]
    rintro ⟨rfl, debited⟩
    rw [new] at debited
    cases debited

variable {bankId : String}

def statusOf (id : Uuid) (s : System (service bankId)) : Option InterbankTransferStatus :=
  Database.status s.db id

theorem Reachable.moves {s s' : System (service bankId)} {action : Action (service bankId)}
    (reachable : Reachable (anyRun bankId) s) (permits : (anyRun bankId).Permits s action s')
    (step : s.step action = some s') (id : Uuid) :
    statusOf id s' = statusOf id s ∨ (statusOf id s = none ∧ statusOf id s' = some .debited) ∨
      (statusOf id s = some .debited ∧
        (statusOf id s' = some .confirmed ∨ statusOf id s' = some .compensated)) := by
  have sound := reachable.sound (verified rfl)
  rcases (sound.step (verified rfl) permits step).2 with same | ⟨index, thread, locks, -, changes⟩
  · exact .inl (by rw [statusOf, statusOf, same])
  · have wellFormed : WellFormed s.db := sound.inv
    have commit : Commit bankId thread.call locks s.db s'.db := changes.2.2
    have frame := Commit.frame wellFormed commit
    unfold statusOf
    cases before : Database.status s.db id with
    | none => exact (Commit.enters commit id before).imp_right fun debited => .inl ⟨rfl, debited⟩
    | some status =>
      by_cases debited : status = .debited
      · subst debited
        rcases frame.debited id before with still | ⟨-, later, after, final⟩
        · exact .inl still
        · refine .inr (.inr ⟨rfl, ?_⟩)
          rw [after]
          cases later <;> simp_all
      · exact .inl (frame.settled id status before debited)

theorem statuses_legal {states : List (System (service bankId))} {s : System (service bankId)}
    (visits : Visits (anyRun bankId) states s) (id : Uuid) :
    LegalHistory (history (states.map (statusOf id))) := by
  refine visits.history_induction (.inl (List.nil_prefix)) rfl ?_
  intro s s' action reachable permits step
  rcases Reachable.moves reachable permits step id with same | ⟨new, debited⟩ | ⟨debited, final⟩
  · exact .inl same
  · refine .inr ⟨.debited, debited, ?_⟩
    intro history _ last
    rw [new] at last
    rw [List.getLast?_eq_none_iff.mp last]
    exact .inl ⟨[.confirmed], rfl⟩
  · rcases final with status | status
    · refine .inr ⟨_, status, ?_⟩
      intro history legal last
      rw [debited_of_last legal (last.trans debited)]
      exact .inl ⟨[], rfl⟩
    · refine .inr ⟨_, status, ?_⟩
      intro history legal last
      rw [debited_of_last legal (last.trans debited)]
      exact .inr ⟨[], rfl⟩

end BankA
