import PaymentLedger.Shared.Serial

set_option autoImplicit false

-- Any operation may fail and the run may stop anywhere: `R` holds wherever it does, `Q` when the
-- program has ended by itself.

namespace Transactional

namespace Prog

variable {E : Engine} {α β : Type}

abbrev Ending (E : Engine) (α : Type) := Except E.Error α → Option (Txn E) → E.Database → Prop

def Leads (R : E.Database → Prop) (Q : Ending E α) : Prog E α → Option (Txn E) → E.Database → Prop
  | .done result, txn, db => R db ∧ Q result txn db
  | .op operation next, txn, db =>
    R db ∧ ∀ fault out, performOp operation fault txn db [] = some out →
      (next out.reply).Leads R Q out.txn out.db

/-- Between two transactions: `ok` after a success, `raised` after an error. -/
def Between (ok raised : E.Database → Prop) : Ending E α
  | .ok _, txn, db => txn = none ∧ ok db
  | .error _, _, db => raised db

variable {R : E.Database → Prop} {Q : Ending E α} {program : Prog E α} {txn : Option (Txn E)}
    {db : E.Database}

theorem Leads.holds (leads : program.Leads R Q txn db) : R db := by
  cases program with
  | done result => exact leads.1
  | op operation next => exact leads.1

theorem leads_mono {P : Ending E α}
    (implies : ∀ result txn db, R db → P result txn db → Q result txn db)
    (leads : program.Leads R P txn db) : program.Leads R Q txn db := by
  induction program generalizing txn db with
  | done result => exact ⟨leads.1, implies result txn db leads.1 leads.2⟩
  | op operation next ih =>
    exact ⟨leads.1, fun fault out performed => ih out.reply (leads.2 fault out performed)⟩

theorem leads_bind {P : Ending E β} {first : Prog E β} {f : β → Prog E α}
    (leads : first.Leads R P txn db)
    (rest : ∀ value txn db, R db → P (.ok value) txn db → (f value).Leads R Q txn db)
    (raise : ∀ error txn db, P (.error error) txn db → Q (.error error) txn db) :
    (first.bind f).Leads R Q txn db := by
  induction first generalizing txn db with
  | done result =>
    cases result with
    | ok value => exact rest value txn db leads.1 leads.2
    | error error => exact ⟨leads.1, raise error txn db leads.2⟩
  | op operation next ih =>
    exact ⟨leads.1, fun fault out performed => ih out.reply (leads.2 fault out performed)⟩

theorem leads_tryCatch {P : Ending E α} {handler : E.Error → Prog E α}
    (body : program.Leads R P txn db)
    (value : ∀ value txn db, P (.ok value) txn db → Q (.ok value) txn db)
    (handle : ∀ error txn db, R db → P (.error error) txn db → (handler error).Leads R Q txn db) :
    (program.tryCatch handler).Leads R Q txn db := by
  induction program generalizing txn db with
  | done result =>
    cases result with
    | ok result => exact ⟨body.1, value result txn db body.2⟩
    | error error => exact handle error txn db body.1 body.2
  | op operation next ih =>
    exact ⟨body.1, fun fault out performed => ih out.reply (body.2 fault out performed)⟩

theorem leads_forEach {items : List β} {body : β → Prog E Unit} {I : List β → E.Database → Prop}
    {raised : E.Database → Prop} (holds : ∀ db, I [] db → R db) (now : I items db)
    (each : ∀ item rest db, item :: rest <:+ items → I (item :: rest) db →
      (body item).Leads R (Between (I rest) raised) none db) :
    (forEach items body).Leads R (Between (I []) raised) none db := by
  induction items generalizing db with
  | nil => exact ⟨holds db now, rfl, now⟩
  | cons item rest ih =>
    refine leads_bind (each item rest db (List.suffix_refl _) now) ?_ ?_
    · rintro _ txn later _ ⟨rfl, after⟩
      exact ih after fun other others later part =>
        each other others later (part.trans (List.suffix_cons item rest))
    · intro error txn later failed
      exact failed

section Operations

variable {now : Txn E}

theorem leads_begin {f : Unit → Prog E α} (holds : R db)
    (raised : ∀ error, Q (.error error) none db) (rest : (f ()).Leads R Q (some {}) db) :
    ((perform .begin).bind f).Leads R Q txn db := by
  refine ⟨holds, ?_⟩
  intro fault out performed
  cases fault <;> obtain rfl := Option.some.inj performed
  case none => exact rest
  all_goals exact ⟨holds, raised _⟩

theorem leads_statement {sql : E.Sql} {f : E.Answer sql → Prog E α} (holds : R db)
    (raised : ∀ error, Q (.error error) none db)
    (rest : ∀ effect, E.exec sql db [] = .ok effect →
      (∀ error, Q (.error error) none (effect.writes.foldl E.apply db)) ∧
        (f effect.answer).Leads R Q none (effect.writes.foldl E.apply db)) :
    ((query .client sql).bind f).Leads R Q none db := by
  refine ⟨holds, ?_⟩
  have answered (fault : Fault) (out : Outcome E (E.Answer sql))
      (performed : autocommit sql fault none db [] = some out) :
      ((Prog.done out.reply).bind f).Leads R Q out.txn out.db := by
    rcases autocommit_cases performed with ⟨error, -, rfl⟩ | ⟨effect, ran, -, rfl⟩
    · exact ⟨holds, raised error⟩
    · obtain ⟨lost, done⟩ := rest effect ran
      cases fault
      case lost => exact ⟨done.holds, lost _⟩
      all_goals exact done
  intro fault out performed
  cases fault
  case failed =>
    obtain rfl := Option.some.inj performed
    exact ⟨holds, raised _⟩
  all_goals exact answered _ out performed

theorem leads_client {sql : E.Sql} {f : E.Answer sql → Prog E α} (holds : R db)
    (alive : now.aborted = false) (raised : ∀ error, Q (.error error) (some now.abort) db)
    (rest : ∀ effect, E.exec sql (now.view db) [] = .ok effect →
      (f effect.answer).Leads R Q (some (now.add effect)) db) :
    ((query .client sql).bind f).Leads R Q (some now) db := by
  refine ⟨holds, ?_⟩
  intro fault out performed
  have inside (ran : inTransaction sql now db [] = some out) :
      ((Prog.done out.reply).bind f).Leads R Q out.txn out.db := by
    rcases inTransaction_cases ran with ⟨dead, -⟩ | ⟨error, -, -, rfl⟩ |
      ⟨effect, -, answered, -, rfl⟩
    · simp [alive] at dead
    · exact ⟨holds, raised error⟩
    · exact rest effect answered
  cases fault
  case failed =>
    obtain rfl := Option.some.inj performed
    exact ⟨holds, raised _⟩
  all_goals exact inside performed

theorem leads_commit {f : Unit → Prog E α} (holds : R db)
    (raised : ∀ error, Q (.error error) none db)
    (lost : ∀ error, Q (.error error) none (now.view db))
    (rest : (f ()).Leads R Q none (now.view db)) :
    ((perform .commit).bind f).Leads R Q (some now) db := by
  refine ⟨holds, ?_⟩
  intro fault out performed
  cases fault <;> obtain rfl := Option.some.inj performed
  case none => exact rest
  case failed => exact ⟨holds, raised _⟩
  case lost => exact ⟨rest.holds, lost _⟩

theorem leads_rollback {f : Unit → Prog E α} (holds : R db)
    (raised : ∀ error, Q (.error error) none db) (rest : (f ()).Leads R Q none db) :
    ((perform .rollback).bind f).Leads R Q txn db := by
  refine ⟨holds, ?_⟩
  intro fault out performed
  cases fault <;> obtain rfl := Option.some.inj performed
  case none => exact rest
  all_goals exact ⟨holds, raised _⟩

end Operations

end Prog

variable {S : Service} {db : S.Database} {call : S.Call} {s : System S}

theorem Alone.leads {R : S.Database → Prop} {Q : Prog.Ending S.toEngine S.Response}
    (program : (S.program call).Leads R Q none db) (alone : Alone db call s) :
    R s.db ∧ ∀ thread, s.threads = [thread] → ∀ value, thread.result = some (.ok value) →
      Q (.ok value) thread.txn s.db := by
  have all : R s.db ∧ ∀ thread, s.threads = [thread] →
      thread.prog = .done (.error S.crashed) ∨ thread.prog.Leads R Q thread.txn s.db := by
    induction alone with
    | start =>
      refine ⟨program.holds, ?_⟩
      intro thread only
      obtain rfl := List.singleton_inj.mp only
      exact .inr program
    | @run s s' fault before step ih =>
      obtain ⟨mover, only, -⟩ := before.thread
      obtain ⟨running, operation, next, out, found, shape, performed, rfl⟩ := System.step_run step
      have idle : s.busy 0 = [] := by simp [System.busy, only]
      rw [only] at found
      obtain rfl := Option.some.inj found
      rcases ih.2 mover only with stopped | leads
      · cases stopped.symm.trans shape
      · rw [shape] at leads
        rw [idle] at performed
        have after := leads.2 fault out performed
        refine ⟨after.holds, ?_⟩
        intro thread last
        rw [only, List.set_cons_zero] at last
        obtain rfl := List.singleton_inj.mp last
        exact .inr after
    | @crash s s' before step ih =>
      obtain ⟨mover, only, -⟩ := before.thread
      obtain ⟨running, found, rfl⟩ := System.step_crash step
      refine ⟨ih.1, ?_⟩
      intro thread last
      rw [only, List.set_cons_zero] at last
      obtain rfl := List.singleton_inj.mp last
      exact .inl rfl
  refine ⟨all.1, ?_⟩
  intro thread only value ended
  have shape := Thread.result_eq_some.mp ended
  rcases all.2 thread only with stopped | leads
  · cases stopped.symm.trans shape
  · rw [shape] at leads
    exact leads.2

end Transactional
