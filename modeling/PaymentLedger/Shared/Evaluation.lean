import PaymentLedger.Shared.Single

set_option autoImplicit false

-- What a program returns and commits when no other session is there and nothing fails.

namespace Transactional

structure Finish (E : Engine) (α : Type) where
  result : Except E.Error α
  txn : Option (Txn E)
  db : E.Database

theorem Txn.view_add {E : Engine} {Answer : Type} (now : Txn E)
    (effect : Effect E.Write E.Resource Answer) (db : E.Database) :
    (now.add effect).view db = effect.writes.foldl E.apply (now.view db) := List.foldl_append

namespace Prog

variable {E : Engine} {α β : Type}

/-- `none` is a statement that waits for a lock of its own session. -/
def evaluate (program : Prog E α) (txn : Option (Txn E)) (db : E.Database) : Option (Finish E α) :=
  match program with
  | .done result => some ⟨result, txn, db⟩
  | .op operation next =>
    (performOp operation .none txn db []).bind fun out => (next out.reply).evaluate out.txn out.db

variable {program : Prog E α} {txn after : Option (Txn E)} {now : Txn E} {db later : E.Database}

@[simp] theorem evaluate_done (result : Except E.Error α) :
    (Prog.done result).evaluate txn db = some ⟨result, txn, db⟩ := rfl

theorem evaluate_bind (program : Prog E α) (f : α → Prog E β) (txn : Option (Txn E))
    (db : E.Database) :
    (program.bind f).evaluate txn db = (program.evaluate txn db).bind fun finish =>
      match finish.result with
      | .ok value => (f value).evaluate finish.txn finish.db
      | .error error => some ⟨.error error, finish.txn, finish.db⟩ := by
  induction program generalizing txn db with
  | done result => cases result <;> rfl
  | op operation next ih => simp only [bind, evaluate, ih, Option.bind_assoc]

theorem evaluate_bind_ok {f : α → Prog E β} {value : α}
    (first : program.evaluate txn db = some ⟨.ok value, after, later⟩) :
    (program.bind f).evaluate txn db = (f value).evaluate after later := by
  rw [evaluate_bind, first]
  rfl

theorem evaluate_bind_error {f : α → Prog E β} {error : E.Error}
    (first : program.evaluate txn db = some ⟨.error error, after, later⟩) :
    (program.bind f).evaluate txn db = some ⟨.error error, after, later⟩ := by
  rw [evaluate_bind, first]
  rfl

theorem evaluate_tryCatch (program : Prog E α) (handler : E.Error → Prog E α) (txn : Option (Txn E))
    (db : E.Database) :
    (program.tryCatch handler).evaluate txn db = (program.evaluate txn db).bind fun finish =>
      match finish.result with
      | .ok value => some ⟨.ok value, finish.txn, finish.db⟩
      | .error error => (handler error).evaluate finish.txn finish.db := by
  induction program generalizing txn db with
  | done result => cases result <;> rfl
  | op operation next ih => simp only [tryCatch, evaluate, ih, Option.bind_assoc]

theorem evaluate_tryCatch_ok {handler : E.Error → Prog E α} {value : α}
    (body : program.evaluate txn db = some ⟨.ok value, after, later⟩) :
    (program.tryCatch handler).evaluate txn db = some ⟨.ok value, after, later⟩ := by
  rw [evaluate_tryCatch, body]
  rfl

theorem evaluate_tryCatch_error {handler : E.Error → Prog E α} {error : E.Error}
    (body : program.evaluate txn db = some ⟨.error error, after, later⟩) :
    (program.tryCatch handler).evaluate txn db = (handler error).evaluate after later := by
  rw [evaluate_tryCatch, body]
  rfl

variable {sql : E.Sql} {effect : Effect E.Write E.Resource (E.Answer sql)}

theorem evaluate_begin {f : Unit → Prog E β} :
    ((perform .begin).bind f).evaluate txn db = (f ()).evaluate (some {}) db := rfl

theorem evaluate_client {f : E.Answer sql → Prog E β} (alive : now.aborted = false)
    (ran : E.exec sql (now.view db) [] = .ok effect) :
    ((query .client sql).bind f).evaluate (some now) db =
      (f effect.answer).evaluate (some (now.add effect)) db := by
  have free : Compatible effect.locks [] := (compatible_nil _).symm
  have performed : performOp (.query .client sql) .none (some now) db [] =
      some { reply := .ok effect.answer, txn := some (now.add effect), db } := by
    simp [performOp, inTransaction, alive, ran, free]
  simp only [query, perform, bind, evaluate, performed, Option.bind_some]

theorem evaluate_pool {f : E.Answer sql → Prog E β} (ran : E.exec sql db [] = .ok effect) :
    ((query .pool sql).bind f).evaluate none db =
      (f effect.answer).evaluate none (effect.writes.foldl E.apply db) := by
  have free : Compatible effect.locks [] := (compatible_nil _).symm
  have performed : performOp (.query .pool sql) .none none db [] =
      some { reply := .ok effect.answer, txn := none, db := effect.writes.foldl E.apply db,
             locks := effect.locks } := by
    simp [performOp, autocommit, ran, free, Fault.reply]
  simp only [query, perform, bind, evaluate, performed, Option.bind_some]

theorem evaluate_lookup {f : E.Answer sql → Prog E β} (ran : E.exec sql db [] = .ok effect)
    (reads : effect.writes = []) (free : effect.locks = []) :
    ((query .pool sql).bind f).evaluate txn db = (f effect.answer).evaluate txn db := by
  have performed : performOp (.query .pool sql) .none txn db [] =
      some { reply := .ok effect.answer, txn, db } := by
    simp [performOp, autocommit, ran, reads, free, Compatible, Fault.reply]
  simp only [query, perform, bind, evaluate, performed, Option.bind_some]

theorem evaluate_lookup_error {f : E.Answer sql → Prog E β} {error : E.Error}
    (raised : E.exec sql db [] = .error error) :
    ((query .pool sql).bind f).evaluate txn db = some ⟨.error error, txn, db⟩ := by
  have performed : performOp (.query .pool sql) .none txn db [] =
      some { reply := .error error, txn, db } := by
    simp [performOp, autocommit, raised]
  simp only [query, perform, bind, evaluate, performed, Option.bind_some]

theorem evaluate_client_commit (alive : now.aborted = false)
    (ran : E.exec sql (now.view db) [] = .ok effect) :
    ((query .client sql).bind fun _ => perform .commit).evaluate (some now) db =
      some ⟨.ok (), none, effect.writes.foldl E.apply (now.view db)⟩ := by
  rw [evaluate_client alive ran, ← Txn.view_add]
  rfl

/-- A statement that fails aborts its transaction. -/
theorem evaluate_client_error {f : E.Answer sql → Prog E β} {error : E.Error}
    (alive : now.aborted = false) (raised : E.exec sql (now.view db) [] = .error error) :
    ((query .client sql).bind f).evaluate (some now) db =
      some ⟨.error error, some now.abort, db⟩ := by
  have performed : performOp (.query .client sql) .none (some now) db [] =
      some { reply := .error error, txn := some now.abort, db } := by
    simp [performOp, inTransaction, alive, raised]
  simp only [query, perform, bind, evaluate, performed, Option.bind_some]

end Prog

variable {S : Service} {db : S.Database} {call : S.Call} {s : System S}

theorem Alone.evaluate {thread : Thread S} {finish : Finish S.toEngine S.Response}
    (alone : Alone db call s) (only : s.threads = [thread])
    (evaluated : thread.prog.evaluate thread.txn s.db = some finish) :
    ∃ s' last, Alone db call s' ∧ s'.db = finish.db ∧ s'.threads = [last] ∧
      last.result = some finish.result := by
  generalize shape : thread.prog = program at evaluated
  induction program generalizing s thread with
  | done result =>
    cases evaluated
    exact ⟨s, thread, alone, rfl, only, Thread.result_eq_some.mpr shape⟩
  | op operation next ih =>
    obtain ⟨out, performed, rest⟩ := Option.bind_eq_some_iff.mp evaluated
    have idle : s.busy 0 = [] := by simp [System.busy, only]
    have step : s.step (.run 0 .none) = some { db := out.db
                                               threads := [thread.resume operation next out]
                                               sent := s.sent ++ out.sent } := by
      simp [System.step, only, shape, idle, performed]
    exact ih out.reply (alone.run .none step) rfl rfl rest

def Service.alone (S : Service) (call : S.Call) (db : S.Database) :
    Option (Except S.Error S.Response × S.Database) :=
  ((S.program call).evaluate none db).map fun finish => (finish.result, finish.db)

theorem Service.alone_reached {result : Except S.Error S.Response} {later : S.Database}
    (returned : S.alone call db = some (result, later)) :
    ∃ s last, Alone db call s ∧ s.db = later ∧ s.threads = [last] ∧ last.result = some result := by
  obtain ⟨finish, evaluated, same⟩ := Option.map_eq_some_iff.mp returned
  cases same
  exact Alone.start.evaluate rfl evaluated

end Transactional
