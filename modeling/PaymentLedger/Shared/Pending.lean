import PaymentLedger.Shared.Issues

set_option autoImplicit false

-- A constraint that a statement checks on the rows it sees stays true of what it writes,
-- until the write is committed, if other commits cannot break it.

namespace Transactional

variable {S : Service} {scope : Scope S} {s : System S}

/-- The database keeps `Q`, and writes that were fine before still are. -/
def Extends (W : S.Database → S.Write → Prop) (Q : S.Database → Prop)
    (db db' : S.Database) : Prop :=
  Q db' ∧ ∀ write, W db write → W db' write

structure Upholds (P : Op S.toEngine → Prop) (W : S.Database → S.Write → Prop)
    (Q : S.Database → Prop) : Prop where
  inside : ∀ sql db busy effect (pending : List S.Write), P (.query .client sql) → Q db →
    (∀ write ∈ pending, W db write) →
    S.exec sql (pending.foldl S.apply db) busy = .ok effect → ∀ write ∈ effect.writes, W db write
  outside : ∀ executor sql db busy effect, P (.query executor sql) → Q db →
    S.exec sql db busy = .ok effect →
    Extends W Q db (effect.writes.foldl S.apply db)
  commit : ∀ db (pending : List S.Write), Q db → (∀ write ∈ pending, W db write) →
    Extends W Q db (pending.foldl S.apply db)

variable {P : Op S.toEngine → Prop} {W : S.Database → S.Write → Prop} {Q : S.Database → Prop}

def Pends (W : S.Database → S.Write → Prop) (txn : Option (Txn S.toEngine))
    (db : S.Database) : Prop :=
  ∀ now, txn = some now → ∀ write ∈ now.writes, W db write

theorem pends_none {db : S.Database} : Pends W none db := by
  intro now same
  cases same

theorem pends_empty {now : Txn S.toEngine} {db : S.Database} (empty : now.writes = []) :
    Pends W (some now) db := by
  intro later same write member
  obtain rfl := Option.some.inj same
  rw [empty] at member
  cases member

theorem Pends.extends_ {txn : Option (Txn S.toEngine)} {db db' : S.Database}
    (pends : Pends W txn db) (extends_ : Extends W Q db db') : Pends W txn db' :=
  fun now same write member => extends_.2 write (pends now same write member)

theorem Extends.refl {db : S.Database} (clean : Q db) : Extends W Q db db :=
  ⟨clean, fun _ fine => fine⟩

theorem autocommit_upholds (upholds : Upholds P W Q) {executor : Executor} {sql : S.Sql}
    {fault : Fault} {txn : Option (Txn S.toEngine)} {db : S.Database}
    {busy : List (Lock S.Resource)} {out : Outcome S.toEngine (S.Answer sql)}
    (issued : P (.query executor sql)) (clean : Q db) (pends : Pends W txn db)
    (performed : autocommit sql fault txn db busy = some out) : Extends W Q db out.db ∧
    Pends W out.txn out.db := by
  rcases autocommit_cases performed with ⟨error, -, rfl⟩ | ⟨effect, ran, -, rfl⟩
  · exact ⟨.refl clean, pends⟩
  · have extends_ := upholds.outside executor sql db busy effect issued clean ran
    exact ⟨extends_, pends.extends_ extends_⟩

theorem performOp_upholds (upholds : Upholds P W Q) {operation : Op S.toEngine} {fault : Fault}
    {txn : Option (Txn S.toEngine)} {db : S.Database} {busy : List (Lock S.Resource)}
    {out : Outcome S.toEngine operation.Reply} (issued : P operation) (clean : Q db)
    (pends : Pends W txn db) (performed : performOp operation fault txn db busy = some out) :
    Extends W Q db out.db ∧ Pends W out.txn out.db := by
  cases operation with
  | query executor sql =>
    cases executor <;> cases fault <;> simp only [performOp] at performed
    case pool.none | pool.lost => exact autocommit_upholds upholds issued clean pends performed
    case pool.failed =>
      obtain rfl := Option.some.inj performed
      exact ⟨.refl clean, pends⟩
    case client.failed =>
      obtain rfl := Option.some.inj performed
      cases txn with
      | none => exact ⟨.refl clean, pends_none⟩
      | some now => exact ⟨.refl clean, pends_empty rfl⟩
    all_goals
      cases txn with
      | none => exact autocommit_upholds upholds issued clean pends performed
      | some now =>
        rcases inTransaction_cases performed with ⟨-, rfl⟩ | ⟨error, -, -, rfl⟩ |
          ⟨effect, -, ran, -, rfl⟩
        · exact ⟨.refl clean, pends⟩
        · exact ⟨.refl clean, pends_empty rfl⟩
        · refine ⟨.refl clean, ?_⟩
          intro later same write member
          obtain rfl := Option.some.inj same
          have before := pends now rfl
          rcases List.mem_append.mp member with old | new
          · exact before write old
          · exact upholds.inside sql db busy effect now.writes issued clean before ran write new
  | begin =>
    cases fault <;> obtain rfl := Option.some.inj performed
    case none => exact ⟨.refl clean, pends_empty rfl⟩
    all_goals exact ⟨.refl clean, pends_none⟩
  | commit =>
    have committed : Extends W Q db ((txn.map fun txn => txn.view db).getD db) := by
      cases txn with
      | none => exact .refl clean
      | some now => exact upholds.commit db now.writes clean (pends now rfl)
    cases fault <;> obtain rfl := Option.some.inj performed
    case failed => exact ⟨.refl clean, pends_none⟩
    all_goals exact ⟨committed, pends_none⟩
  | rollback => cases fault <;> obtain rfl := Option.some.inj performed <;> exact ⟨.refl clean, pends_none⟩
  | emit event => cases fault <;> obtain rfl := Option.some.inj performed <;> exact ⟨.refl clean, pends⟩

/-- `Q` holds in every reachable state, and so does `W` of what is pending there. -/
theorem Reachable.upheld (programs : ∀ call, scope.starts call → (S.program call).Issues P)
    (upholds : Upholds P W Q) (initial : Q scope.initial) (reachable : Reachable scope s) :
    Q s.db ∧ ∀ (index : Nat) (thread : Thread S), s.threads[index]? = some thread →
      Pends W thread.txn s.db := by
  induction reachable with
  | init =>
    refine ⟨initial, ?_⟩
    intro index thread present
    simp at present
  | @step s s' action before permits step ih =>
    cases action with
    | start call =>
      obtain rfl := System.step_start step
      refine ⟨ih.1, ?_⟩
      intro index thread present
      rw [List.getElem?_append] at present
      split at present
      · exact ih.2 index thread present
      · obtain rfl := List.mem_singleton.mp (List.mem_of_getElem? present)
        exact pends_none
    | run chosen fault =>
      obtain ⟨mover, operation, next, out, found, shape, performed, rfl⟩ := System.step_run step
      have issued := before.issues programs chosen mover found
      rw [shape] at issued
      obtain ⟨extends_, own⟩ :=
        performOp_upholds upholds issued.1 ih.1 (ih.2 chosen mover found) performed
      refine ⟨extends_.1, ?_⟩
      intro index thread present
      rcases getElem?_set_cases present with ⟨-, rfl⟩ | ⟨-, old⟩
      · exact own
      · exact (ih.2 index thread old).extends_ extends_
    | crash chosen =>
      obtain ⟨mover, found, rfl⟩ := System.step_crash step
      refine ⟨ih.1, ?_⟩
      intro index thread present
      rcases getElem?_set_cases present with ⟨-, rfl⟩ | ⟨-, old⟩
      · exact pends_none
      · exact ih.2 index thread old

end Transactional
