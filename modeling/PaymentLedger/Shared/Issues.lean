import PaymentLedger.Shared.RelyGuarantee

set_option autoImplicit false

-- Some properties of a run need no reasoning about locks: they follow from the shape of
-- the operations that the programs contain, whatever is answered.

namespace Transactional

variable {E : Engine} {α β : Type}

def Op.Inner (operation : Op E) : Prop :=
  match operation with
  | .query .client _ | .emit _ => True
  | .query .pool _ | .begin | .commit | .rollback => False

def Op.Look (reads : E.Sql → Bool) (operation : Op E) : Prop :=
  match operation with
  | .query .pool sql => reads sql = true
  | .query .client _ | .begin | .commit | .rollback | .emit _ => False

namespace Prog

/-- Every operation in the program satisfies `P`, whatever the answers to the ones before it. -/
def Issues (P : Op E → Prop) : Prog E α → Prop
  | .done _ => True
  | .op operation next => P operation ∧ ∀ reply, (next reply).Issues P

variable {P : Op E → Prop}

theorem Issues.imp {Q : Op E → Prop} {program : Prog E α} (issues : program.Issues P)
    (weaker : ∀ operation, P operation → Q operation) : program.Issues Q := by
  induction program with
  | done result => trivial
  | op operation next ih => exact ⟨weaker _ issues.1, fun reply => ih reply (issues.2 reply)⟩

theorem issues_bind {program : Prog E α} {f : α → Prog E β} (first : program.Issues P)
    (rest : ∀ value, (f value).Issues P) : (program.bind f).Issues P := by
  induction program with
  | done result =>
    cases result with
    | ok value => exact rest value
    | error error => trivial
  | op operation next ih => exact ⟨first.1, fun reply => ih reply (first.2 reply)⟩

theorem issues_tryCatch {program : Prog E α} {handler : E.Error → Prog E α}
    (body : program.Issues P) (handle : ∀ error, (handler error).Issues P) :
    (program.tryCatch handler).Issues P := by
  induction program with
  | done result =>
    cases result with
    | ok value => trivial
    | error error => exact handle error
  | op operation next ih => exact ⟨body.1, fun reply => ih reply (body.2 reply)⟩

theorem issues_perform {operation : Op E} (holds : P operation) : (perform operation).Issues P :=
  ⟨holds, fun _ => trivial⟩

theorem issues_forEach {items : List β} {body : β → Prog E Unit}
    (each : ∀ item ∈ items, (body item).Issues P) : (forEach items body).Issues P := by
  induction items with
  | nil => trivial
  | cons item rest ih =>
    exact issues_bind (each item (by simp)) fun _ => ih fun other member =>
      each other (by simp [member])

theorem issues_ofExcept {result : Except E.Error α} : (ofExcept result).Issues P := trivial

theorem issues_check {passes : Bool} {error : E.Error} : (check passes error).Issues P := by
  unfold check
  split <;> trivial

theorem issues_protect {body : Prog E α} (issues : body.Issues P)
    (rolls : P .rollback) : body.protect.Issues P :=
  issues_tryCatch issues fun _ => issues_bind (issues_perform rolls) fun _ => trivial

theorem issues_client {sql : E.Sql} : (query .client sql).Issues Op.Inner := issues_perform trivial

theorem issues_pool {reads : E.Sql → Bool} {sql : E.Sql} (looks : reads sql = true) :
    (query .pool sql).Issues (Op.Look reads) := issues_perform looks

end Prog

variable {S : Service} {scope : Scope S} {s : System S}

theorem Reachable.issues {P : Op S.toEngine → Prop}
    (programs : ∀ call, scope.starts call → (S.program call).Issues P)
    (reachable : Reachable scope s) :
    ∀ (index : Nat) (thread : Thread S), s.threads[index]? = some thread →
      thread.prog.Issues P := by
  induction reachable with
  | init =>
    intro index thread present
    simp at present
  | @step s s' action before permits step ih =>
    intro index thread present
    cases action with
    | start call =>
      obtain rfl := System.step_start step
      rw [List.getElem?_append] at present
      split at present
      · exact ih index thread present
      · obtain rfl := List.mem_singleton.mp (List.mem_of_getElem? present)
        exact programs call permits
    | run chosen fault =>
      obtain ⟨mover, operation, next, out, found, shape, -, rfl⟩ := System.step_run step
      rcases getElem?_set_cases present with ⟨-, rfl⟩ | ⟨-, old⟩
      · have left := ih chosen mover found
        rw [shape] at left
        exact left.2 out.reply
      · exact ih index thread old
    | crash chosen =>
      obtain ⟨mover, found, rfl⟩ := System.step_crash step
      rcases getElem?_set_cases present with ⟨-, rfl⟩ | ⟨-, old⟩
      · trivial
      · exact ih index thread old

def Writes (P : Op S.toEngine → Prop) (W : S.Write → Prop) : Prop :=
  ∀ executor sql db busy effect, P (.query executor sql) → S.exec sql db busy = .ok effect →
    ∀ write ∈ effect.writes, W write

theorem performOp_wrote {P : Op S.toEngine → Prop} {W : S.Write → Prop} {Q : S.Database → Prop}
    (writes : Writes (S := S) P W) (apply : ∀ db write, Q db → W write → Q (S.apply db write))
    {operation : Op S.toEngine} {fault : Fault} {txn : Option (Txn S.toEngine)} {db : S.Database}
    {busy : List (Lock S.Resource)} {out : Outcome S.toEngine operation.Reply}
    (issued : P operation) (open_ : ∀ now, txn = some now → ∀ write ∈ now.writes, W write)
    (clean : Q db) (performed : performOp operation fault txn db busy = some out) :
    (∀ now, out.txn = some now → ∀ write ∈ now.writes, W write) ∧ Q out.db := by
  have all {db : S.Database} (clean : Q db) (list : List S.Write) (each : ∀ write ∈ list, W write) :
      Q (list.foldl S.apply db) := by
    induction list generalizing db with
    | nil => exact clean
    | cons write rest ih =>
      exact ih (apply db write clean (each write (by simp))) fun other member =>
        each other (by simp [member])
  have auto {executor : Executor} {sql : S.Sql} {fault : Fault} {txn : Option (Txn S.toEngine)}
      {out : Outcome S.toEngine (S.Answer sql)} (issued : P (.query executor sql))
      (open_ : ∀ now, txn = some now → ∀ write ∈ now.writes, W write)
      (h : autocommit sql fault txn db busy = some out) :
      (∀ now, out.txn = some now → ∀ write ∈ now.writes, W write) ∧ Q out.db := by
    rcases autocommit_cases h with ⟨error, -, rfl⟩ | ⟨effect, ran, -, rfl⟩
    · exact ⟨open_, clean⟩
    · exact ⟨open_, all clean effect.writes (writes executor sql db busy effect issued ran)⟩
  have aborted {now : Txn S.toEngine} : ∀ later, some now.abort = some later →
      ∀ write ∈ later.writes, W write := by
    intro later same write member
    obtain rfl := Option.some.inj same
    cases member
  have none_ : ∀ now : Txn S.toEngine, none = some now → ∀ write ∈ now.writes, W write := by
    intro now same
    cases same
  cases operation with
  | query executor sql =>
    cases executor <;> cases fault <;> simp only [performOp] at performed
    case pool.none | pool.lost => exact auto issued open_ performed
    case pool.failed =>
      obtain rfl := Option.some.inj performed
      exact ⟨open_, clean⟩
    case client.failed =>
      obtain rfl := Option.some.inj performed
      cases txn
      · exact ⟨none_, clean⟩
      · exact ⟨aborted, clean⟩
    all_goals
      cases txn with
      | none => exact auto issued open_ performed
      | some now =>
        rcases inTransaction_cases performed with ⟨-, rfl⟩ | ⟨error, -, -, rfl⟩ |
          ⟨effect, -, ran, -, rfl⟩
        · exact ⟨open_, clean⟩
        · exact ⟨aborted, clean⟩
        · refine ⟨?_, clean⟩
          intro later same write member
          obtain rfl := Option.some.inj same
          rcases List.mem_append.mp member with old | new
          · exact open_ now rfl write old
          · exact writes _ sql _ busy effect issued ran write new
  | begin =>
    cases fault <;> obtain rfl := Option.some.inj performed
    case none =>
      refine ⟨?_, clean⟩
      intro later same write member
      obtain rfl := Option.some.inj same
      cases member
    all_goals exact ⟨none_, clean⟩
  | commit =>
    have committed : Q ((txn.map fun txn => txn.view db).getD db) := by
      cases txn with
      | none => exact clean
      | some now => exact all clean now.writes (open_ now rfl)
    cases fault <;> obtain rfl := Option.some.inj performed
    case failed => exact ⟨none_, clean⟩
    all_goals exact ⟨none_, committed⟩
  | rollback => cases fault <;> obtain rfl := Option.some.inj performed <;> exact ⟨none_, clean⟩
  | emit event => cases fault <;> obtain rfl := Option.some.inj performed <;> exact ⟨open_, clean⟩

/-- Committed or not, the writes of a reachable state have the shapes that the programs allow. -/
theorem Reachable.wrote {P : Op S.toEngine → Prop} {W : S.Write → Prop} {Q : S.Database → Prop}
    (programs : ∀ call, scope.starts call → (S.program call).Issues P)
    (writes : Writes (S := S) P W) (initial : Q scope.initial)
    (apply : ∀ db write, Q db → W write → Q (S.apply db write)) (reachable : Reachable scope s) :
    Q s.db ∧ ∀ (index : Nat) (thread : Thread S) (txn : Txn S.toEngine),
    s.threads[index]? = some thread →
      thread.txn = some txn → ∀ write ∈ txn.writes, W write := by
  induction reachable with
  | init =>
    refine ⟨initial, ?_⟩
    intro index thread txn present
    simp at present
  | @step s s' action before permits step ih =>
    cases action with
    | start call =>
      obtain rfl := System.step_start step
      refine ⟨ih.1, ?_⟩
      intro index thread txn present opened
      rw [List.getElem?_append] at present
      split at present
      · exact ih.2 index thread txn present opened
      · obtain rfl := List.mem_singleton.mp (List.mem_of_getElem? present)
        cases opened
    | run chosen fault =>
      obtain ⟨mover, operation, next, out, found, shape, performed, rfl⟩ := System.step_run step
      have issued := before.issues programs chosen mover found
      rw [shape] at issued
      obtain ⟨open_, clean⟩ := performOp_wrote writes apply issued.1
        (fun now opened => ih.2 chosen mover now found opened) ih.1 performed
      refine ⟨clean, ?_⟩
      intro index thread txn present opened
      rcases getElem?_set_cases present with ⟨-, rfl⟩ | ⟨-, old⟩
      · exact open_ txn opened
      · exact ih.2 index thread txn old opened
    | crash chosen =>
      obtain ⟨mover, found, rfl⟩ := System.step_crash step
      refine ⟨ih.1, ?_⟩
      intro index thread txn present opened
      rcases getElem?_set_cases present with ⟨-, rfl⟩ | ⟨-, old⟩
      · cases opened
      · exact ih.2 index thread txn old opened

end Transactional
