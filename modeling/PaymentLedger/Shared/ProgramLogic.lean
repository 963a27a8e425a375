import PaymentLedger.Shared.RelyGuarantee

set_option autoImplicit false

-- One rule for every way to build a program. `P` is what the session knows before the
-- operation; it has to be stable under what the others may do.

namespace Transactional.Contract

variable {S : Service} {scope : Scope S} {C : Contract scope} {α β : Type}
variable {call : S.Call} {history : History S} {db : S.Database} {P : S.Database → Prop}

theorem ok_of_later {Q : Assertion S α} {program : Prog S.toEngine α}
    {txn : Option (Txn S.toEngine)}
    (ok : ∀ db', C.Later (held txn) db db' → C.Inv db' → C.Ok call Q program history txn db') :
    C.Ok call Q program history txn db := by
  cases program with
  | done result =>
    intro db' later inv
    exact ok db' later inv db' .refl inv
  | op operation next =>
    intro db' fault busy out later inv compatible performed admitted
    exact ok db' later inv db' fault busy out .refl inv compatible performed admitted

theorem ok_mono {Q R : Assertion S α} {program : Prog S.toEngine α} {txn : Option (Txn S.toEngine)}
    (implies : ∀ result history txn db, Q result history txn db → R result history txn db)
    (ok : C.Ok call Q program history txn db) : C.Ok call R program history txn db := by
  induction program generalizing history txn db with
  | done result =>
    intro db' later inv
    exact implies _ _ _ _ (ok db' later inv)
  | op operation next ih =>
    intro db' fault busy out later inv compatible performed admitted
    obtain ⟨act, sends, then_⟩ := ok db' fault busy out later inv compatible performed admitted
    exact ⟨act, sends, ih out.reply then_⟩

theorem ok_bind {R : Assertion S α} {Q : Assertion S β} {program : Prog S.toEngine α}
    {f : α → Prog S.toEngine β} {txn : Option (Txn S.toEngine)}
    (first : C.Ok call R program history txn db)
    (rest : ∀ value history txn db, C.Inv db → R (.ok value) history txn db →
      C.Ok call Q (f value) history txn db)
    (raise : ∀ error history txn db, C.Inv db → R (.error error) history txn db →
      Q (.error error) history txn db) :
    C.Ok call Q (program.bind f) history txn db := by
  induction program generalizing history txn db with
  | done result =>
    cases result with
    | ok value =>
      apply ok_of_later
      intro db' later inv
      exact rest value history txn db' inv (first db' later inv)
    | error error =>
      intro db' later inv
      exact raise error history txn db' inv (first db' later inv)
  | op operation next ih =>
    intro db' fault busy out later inv compatible performed admitted
    obtain ⟨act, sends, then_⟩ := first db' fault busy out later inv compatible performed admitted
    exact ⟨act, sends, ih out.reply then_⟩

theorem ok_tryCatch {R Q : Assertion S α} {program : Prog S.toEngine α}
    {handler : S.Error → Prog S.toEngine α} {txn : Option (Txn S.toEngine)}
    (body : C.Ok call R program history txn db)
    (value : ∀ value history txn db, C.Inv db → R (.ok value) history txn db →
      Q (.ok value) history txn db)
    (handle : ∀ error history txn db, C.Inv db → R (.error error) history txn db →
      C.Ok call Q (handler error) history txn db) :
    C.Ok call Q (program.tryCatch handler) history txn db := by
  induction program generalizing history txn db with
  | done result =>
    cases result with
    | ok result =>
      intro db' later inv
      exact value result history txn db' inv (body db' later inv)
    | error error =>
      apply ok_of_later
      intro db' later inv
      exact handle error history txn db' inv (body db' later inv)
  | op operation next ih =>
    intro db' fault busy out later inv compatible performed admitted
    obtain ⟨act, sends, then_⟩ := body db' fault busy out later inv compatible performed admitted
    exact ⟨act, sends, ih out.reply then_⟩

theorem ok_done {Q : Assertion S α} {result : Except S.Error α} {txn : Option (Txn S.toEngine)}
    (stable : C.Stable (held txn) P) (now : P db)
    (post : ∀ db, C.Inv db → P db → Q result history txn db) :
    C.Ok call Q (.done result) history txn db := by
  intro db' later inv
  exact post db' inv (stable.later later now)

theorem ok_result {Q : Assertion S α} {result : Except S.Error α} {txn : Option (Txn S.toEngine)}
    (post : ∀ db, C.Inv db → Q result history txn db) :
    C.Ok call Q (.done result) history txn db := by
  intro db' _ inv
  exact post db' inv

/-- How a statement can fail: by its own error, or because the answer never came. -/
def Raises (S : Service) (sql : S.Sql) (db : S.Database) (error : S.Error) : Prop :=
  error = S.disconnected ∨ ∃ busy, S.exec sql db busy = .error error

theorem ok_client {Q : Assertion S α} {sql : S.Sql}
    {next : Except S.Error (S.Answer sql) → Prog S.toEngine α} {txn : Txn S.toEngine}
    (alive : txn.aborted = false) (stable : C.Stable txn.locks P) (now : P db)
    (failed : ∀ error db, C.Inv db → P db → Raises S sql (txn.view db) error →
      C.Ok call Q (next (.error error)) (history ++ [⟨.query .client sql, .error error⟩])
        (some txn.abort) db)
    (done : ∀ db busy effect, C.Inv db → P db → S.exec sql (txn.view db) busy = .ok effect →
      C.Ok call Q (next (.ok effect.answer)) (history ++ [⟨.query .client sql, .ok effect.answer⟩])
        (some (txn.add effect)) db) :
    C.Ok call Q (.op (.query .client sql) next) history (some txn) db := by
  intro db' fault busy out later inv compatible performed admitted
  have known := stable.later later now
  have normal (inside : inTransaction sql txn db' busy = some out) :
      (out.db = db' ∨ C.Act call out.locks db' out.db) ∧
      (∀ event ∈ out.sent, C.Sends event db') ∧
      C.Ok call Q (next out.reply) (history ++ [⟨.query .client sql, out.reply⟩]) out.txn
      out.db := by
    rcases inTransaction_cases inside with
      ⟨dead, -⟩ | ⟨error, -, raised, rfl⟩ | ⟨effect, -, ran, -, rfl⟩
    · simp [alive] at dead
    · exact ⟨.inl rfl, by simp, failed error db' inv known (.inr ⟨busy, raised⟩)⟩
    · exact ⟨.inl rfl, by simp, done db' busy effect inv known ran⟩
  cases fault with
  | none | lost => exact normal performed
  | failed =>
    obtain rfl := Option.some.inj performed
    exact ⟨.inl rfl, by simp, failed _ db' inv known (.inl rfl)⟩

theorem ok_pool {Q : Assertion S α} {sql : S.Sql}
    {next : Except S.Error (S.Answer sql) → Prog S.toEngine α} {txn : Option (Txn S.toEngine)}
    (stable : C.Stable (held txn) P) (now : P db)
    (failed : ∀ error db, C.Inv db → P db → Raises S sql db error →
      C.Ok call Q (next (.error error)) (history ++ [⟨.query .pool sql, .error error⟩]) txn db)
    (done : ∀ db busy effect, C.Inv db → P db → S.exec sql db busy = .ok effect →
      (effect.writes.foldl S.apply db = db ∨ scope.admits call db) →
      (effect.writes.foldl S.apply db = db ∨
        C.Act call effect.locks db (effect.writes.foldl S.apply db)) ∧
      C.Ok call Q (next (.ok effect.answer)) (history ++ [⟨.query .pool sql, .ok effect.answer⟩])
        txn (effect.writes.foldl S.apply db) ∧
      C.Ok call Q (next (.error S.disconnected))
        (history ++ [⟨.query .pool sql, .error S.disconnected⟩])
        txn (effect.writes.foldl S.apply db)) :
    C.Ok call Q (.op (.query .pool sql) next) history txn db := by
  intro db' fault busy out later inv compatible performed admitted
  have known := stable.later later now
  cases fault with
  | failed =>
    obtain rfl := Option.some.inj performed
    exact ⟨.inl rfl, by simp, failed _ db' inv known (.inl rfl)⟩
  | none =>
    rcases autocommit_cases performed with ⟨error, raised, rfl⟩ | ⟨effect, ran, -, rfl⟩
    · exact ⟨.inl rfl, by simp, failed error db' inv known (.inr ⟨busy, raised⟩)⟩
    · obtain ⟨act, ok, -⟩ := done db' busy effect inv known ran admitted
      exact ⟨act, by simp, ok⟩
  | lost =>
    rcases autocommit_cases performed with ⟨error, raised, rfl⟩ | ⟨effect, ran, -, rfl⟩
    · exact ⟨.inl rfl, by simp, failed error db' inv known (.inr ⟨busy, raised⟩)⟩
    · obtain ⟨act, -, ok⟩ := done db' busy effect inv known ran admitted
      exact ⟨act, by simp, ok⟩

theorem ok_read {Q : Assertion S α} {sql : S.Sql}
    {next : Except S.Error (S.Answer sql) → Prog S.toEngine α} {txn : Option (Txn S.toEngine)}
    (reads : ∀ db busy effect, S.exec sql db busy = .ok effect → effect.writes = [])
    (stable : C.Stable (held txn) P) (now : P db)
    (failed : ∀ error db, C.Inv db → P db → Raises S sql db error →
      C.Ok call Q (next (.error error)) (history ++ [⟨.query .pool sql, .error error⟩]) txn db)
    (done : ∀ db busy effect, C.Inv db → P db → S.exec sql db busy = .ok effect →
      C.Ok call Q (next (.ok effect.answer)) (history ++ [⟨.query .pool sql, .ok effect.answer⟩])
        txn db) :
    C.Ok call Q (.op (.query .pool sql) next) history txn db := by
  refine ok_pool stable now failed ?_
  intro db busy effect inv known ran _
  have same : effect.writes.foldl S.apply db = db := by rw [reads db busy effect ran]; rfl
  rw [same]
  exact ⟨.inl rfl, done db busy effect inv known ran, failed _ db inv known (.inl rfl)⟩

theorem ok_begin {Q : Assertion S α} {next : Except S.Error Unit → Prog S.toEngine α}
    {txn : Option (Txn S.toEngine)} (stable : C.Stable (held txn) P) (now : P db)
    (failed : ∀ db, C.Inv db → P db →
      C.Ok call Q (next (.error S.disconnected)) (history ++ [⟨.begin, .error S.disconnected⟩])
      none db)
    (done : ∀ db, C.Inv db → P db →
      C.Ok call Q (next (.ok ())) (history ++ [⟨.begin, .ok ()⟩]) (some {}) db) :
    C.Ok call Q (.op .begin next) history txn db := by
  intro db' fault busy out later inv compatible performed admitted
  have known := stable.later later now
  cases fault <;> obtain rfl := Option.some.inj performed
  case none => exact ⟨.inl rfl, by simp, done db' inv known⟩
  all_goals exact ⟨.inl rfl, by simp, failed db' inv known⟩

theorem ok_rollback {Q : Assertion S α} {next : Except S.Error Unit → Prog S.toEngine α}
    {txn : Option (Txn S.toEngine)} (stable : C.Stable (held txn) P) (now : P db)
    (failed : ∀ db, C.Inv db → P db →
      C.Ok call Q (next (.error S.disconnected)) (history ++ [⟨.rollback, .error S.disconnected⟩])
        none db)
    (done : ∀ db, C.Inv db → P db →
      C.Ok call Q (next (.ok ())) (history ++ [⟨.rollback, .ok ()⟩]) none db) :
    C.Ok call Q (.op .rollback next) history txn db := by
  intro db' fault busy out later inv compatible performed admitted
  have known := stable.later later now
  cases fault <;> obtain rfl := Option.some.inj performed
  case none => exact ⟨.inl rfl, by simp, done db' inv known⟩
  all_goals exact ⟨.inl rfl, by simp, failed db' inv known⟩

theorem ok_commit {Q : Assertion S α} {next : Except S.Error Unit → Prog S.toEngine α}
    {txn : Txn S.toEngine} (stable : C.Stable txn.locks P) (now : P db)
    (act : ∀ db, C.Inv db → P db → (txn.view db = db ∨ scope.admits call db) →
      txn.view db = db ∨ C.Act call txn.locks db (txn.view db))
    (failed : ∀ db, C.Inv db → P db →
      C.Ok call Q (next (.error S.disconnected)) (history ++ [⟨.commit, .error S.disconnected⟩])
        none db)
    (lost : ∀ db, C.Inv db → P db → (txn.view db = db ∨ scope.admits call db) →
      C.Ok call Q (next (.error S.disconnected)) (history ++ [⟨.commit, .error S.disconnected⟩])
        none (txn.view db))
    (done : ∀ db, C.Inv db → P db → (txn.view db = db ∨ scope.admits call db) →
      C.Ok call Q (next (.ok ())) (history ++ [⟨.commit, .ok ()⟩]) none (txn.view db)) :
    C.Ok call Q (.op .commit next) history (some txn) db := by
  intro db' fault busy out later inv compatible performed admitted
  have known := stable.later later now
  cases fault <;> obtain rfl := Option.some.inj performed
  case none => exact ⟨act db' inv known admitted, by simp, done db' inv known admitted⟩
  case failed => exact ⟨.inl rfl, by simp, failed db' inv known⟩
  case lost => exact ⟨act db' inv known admitted, by simp, lost db' inv known admitted⟩

theorem ok_emit {Q : Assertion S α} {event : S.Event}
    {next : Except S.Error Unit → Prog S.toEngine α} {txn : Option (Txn S.toEngine)}
    (stable : C.Stable (held txn) P) (now : P db) (sends : ∀ db, C.Inv db → P db → C.Sends event db)
    (failed : ∀ db, C.Inv db → P db →
      C.Ok call Q (next (.error S.disconnected))
        (history ++ [⟨.emit event, .error S.disconnected⟩]) txn db)
    (done : ∀ db, C.Inv db → P db →
      C.Ok call Q (next (.ok ())) (history ++ [⟨.emit event, .ok ()⟩]) txn db) :
    C.Ok call Q (.op (.emit event) next) history txn db := by
  intro db' fault busy out later inv compatible performed admitted
  have known := stable.later later now
  cases fault <;> obtain rfl := Option.some.inj performed
  case none =>
    exact ⟨.inl rfl, by simpa using sends db' inv known, done db' inv known⟩
  case failed => exact ⟨.inl rfl, by simp, failed db' inv known⟩
  case lost => exact ⟨.inl rfl, by simpa using sends db' inv known, failed db' inv known⟩

end Transactional.Contract
