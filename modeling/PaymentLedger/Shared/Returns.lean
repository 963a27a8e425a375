import PaymentLedger.Shared.ProgramLogic

set_option autoImplicit false

-- A contract says what a program may do. `Yields` follows the same program under the same
-- interference and asks only what is true at the moment it returns a value; a path that ends in
-- an error owes nothing.

namespace Transactional

variable {S : Service} {scope : Scope S} {α β : Type}

namespace Contract

def Yields (C : Contract scope) (Q : α → Option (Txn S.toEngine) → S.Database → Prop) :
    Prog S.toEngine α → Option (Txn S.toEngine) → S.Database → Prop
  | .done (.ok value), txn, db => ∀ db', C.Later (held txn) db db' → C.Inv db' → Q value txn db'
  | .done (.error _), _, _ => True
  | .op operation next, txn, db =>
    ∀ db' fault busy out, C.Later (held txn) db db' → C.Inv db' → Compatible (held txn) busy →
      performOp operation fault txn db' busy = some out → C.Yields Q (next out.reply) out.txn out.db

variable {C : Contract scope} {Q : α → Option (Txn S.toEngine) → S.Database → Prop}
    {program : Prog S.toEngine α}
variable {txn : Option (Txn S.toEngine)} {now : Txn S.toEngine} {db db' : S.Database}
    {P : S.Database → Prop}

theorem Yields.later (yields : C.Yields Q program txn db) (later : C.Later (held txn) db db') :
    C.Yields Q program txn db' := by
  cases program with
  | done result =>
    cases result with
    | ok value =>
      intro final next inv
      exact yields final (later.trans next) inv
    | error error => trivial
  | op operation next =>
    intro final fault busy out further inv compatible performed
    exact yields final fault busy out (later.trans further) inv compatible performed

theorem yields_of_later
    (yields : ∀ db', C.Later (held txn) db db' → C.Inv db' → C.Yields Q program txn db') :
    C.Yields Q program txn db := by
  cases program with
  | done result =>
    cases result with
    | ok value =>
      intro db' later inv
      exact yields db' later inv db' .refl inv
    | error error => trivial
  | op operation next =>
    intro db' fault busy out later inv compatible performed
    exact yields db' later inv db' fault busy out .refl inv compatible performed

theorem Yields.imp {R : α → Option (Txn S.toEngine) → S.Database → Prop}
    (yields : C.Yields Q program txn db)
    (implies : ∀ value txn db, Q value txn db → R value txn db) : C.Yields R program txn db := by
  induction program generalizing txn db with
  | done result =>
    cases result with
    | ok value =>
      intro db' later inv
      exact implies value txn db' (yields db' later inv)
    | error error => trivial
  | op operation next ih =>
    intro db' fault busy out later inv compatible performed
    exact ih out.reply (yields db' fault busy out later inv compatible performed)

theorem yields_always (always : ∀ value txn db, Q value txn db) : C.Yields Q program txn db := by
  induction program generalizing txn db with
  | done result =>
    cases result with
    | ok value => exact fun _ _ _ => always value _ _
    | error error => trivial
  | op operation next ih => exact fun _ _ _ out _ _ _ _ => ih out.reply

theorem yields_error (error : S.Error) : C.Yields Q (.done (.error error)) txn db := trivial

theorem yields_done {value : α} (stable : C.Stable (held txn) P) (known : P db)
    (post : ∀ db, C.Inv db → P db → Q value txn db) : C.Yields Q (.done (.ok value)) txn db := by
  intro db' later inv
  exact post db' inv (stable.later later known)

theorem yields_bind {R : β → Option (Txn S.toEngine) → S.Database → Prop}
    {f : α → Prog S.toEngine β} (first : C.Yields Q program txn db)
    (rest : ∀ value txn db, C.Inv db → Q value txn db → C.Yields R (f value) txn db) :
    C.Yields R (program.bind f) txn db := by
  induction program generalizing txn db with
  | done result =>
    cases result with
    | ok value => exact yields_of_later fun db' later inv => rest value txn db' inv (first db' later inv)
    | error error => trivial
  | op operation next ih =>
    intro db' fault busy out later inv compatible performed
    exact ih out.reply (first db' fault busy out later inv compatible performed)

theorem yields_tryCatch {handler : S.Error → Prog S.toEngine α} (body : C.Yields Q program txn db)
    (handle : ∀ error txn db, C.Yields Q (handler error) txn db) :
    C.Yields Q (program.tryCatch handler) txn db := by
  induction program generalizing txn db with
  | done result =>
    cases result with
    | ok value => exact body
    | error error => exact handle error txn db
  | op operation next ih =>
    intro db' fault busy out later inv compatible performed
    exact ih out.reply (body db' fault busy out later inv compatible performed)

theorem yields_raise (operation : Op S.toEngine) (error : S.Error) :
    C.Yields Q ((Prog.perform operation).bind fun _ => .done (.error error)) txn db := by
  intro db' fault busy out _ _ _ _
  cases out.reply <;> trivial

section Operations

variable {f : Unit → Prog S.toEngine α}

theorem yields_read {sql : S.Sql} {f : S.Answer sql → Prog S.toEngine α}
    (reads : ∀ db busy effect, S.exec sql db busy = .ok effect → effect.writes = [])
    (stable : C.Stable (held txn) P) (known : P db)
    (done : ∀ db busy effect, C.Inv db → P db → S.exec sql db busy = .ok effect →
      C.Yields Q (f effect.answer) txn db) :
    C.Yields Q ((Prog.query .pool sql).bind f) txn db := by
  intro db' fault busy out later inv _ performed
  have known := stable.later later known
  cases fault with
  | failed =>
    obtain rfl := Option.some.inj performed
    trivial
  | none =>
    rcases autocommit_cases performed with ⟨error, -, rfl⟩ | ⟨effect, ran, -, rfl⟩
    · trivial
    · have same : effect.writes.foldl S.apply db' = db' := by rw [reads db' busy effect ran]; rfl
      have next := done db' busy effect inv known ran
      rw [← same] at next
      exact next
  | lost =>
    rcases autocommit_cases performed with ⟨error, -, rfl⟩ | ⟨effect, -, -, rfl⟩ <;> trivial

theorem yields_client {sql : S.Sql} {f : S.Answer sql → Prog S.toEngine α}
    (stable : C.Stable now.locks P) (known : P db)
    (done : ∀ db busy effect, C.Inv db → P db → S.exec sql (now.view db) busy = .ok effect →
      C.Yields Q (f effect.answer) (some (now.add effect)) db) :
    C.Yields Q ((Prog.query .client sql).bind f) (some now) db := by
  intro db' fault busy out later inv _ performed
  have known := stable.later later known
  have normal (inside : inTransaction sql now db' busy = some out) :
      C.Yields Q (Prog.bind (.done out.reply) f) out.txn out.db := by
    rcases inTransaction_cases inside with ⟨-, rfl⟩ | ⟨error, -, -, rfl⟩ | ⟨effect, -, ran, -, rfl⟩
    · trivial
    · trivial
    · exact done db' busy effect inv known ran
  cases fault with
  | none | lost => exact normal performed
  | failed =>
    obtain rfl := Option.some.inj performed
    trivial

theorem yields_begin (stable : C.Stable (held txn) P) (known : P db)
    (done : ∀ db, C.Inv db → P db → C.Yields Q (f ()) (some {}) db) :
    C.Yields Q ((Prog.perform .begin).bind f) txn db := by
  intro db' fault busy out later inv _ performed
  have known := stable.later later known
  cases fault <;> obtain rfl := Option.some.inj performed
  case none => exact done db' inv known
  all_goals trivial

theorem yields_commit (stable : C.Stable now.locks P) (known : P db)
    (done : ∀ db, C.Inv db → P db → C.Yields Q (f ()) none (now.view db)) :
    C.Yields Q ((Prog.perform .commit).bind f) (some now) db := by
  intro db' fault busy out later inv _ performed
  have known := stable.later later known
  cases fault <;> obtain rfl := Option.some.inj performed
  case none => exact done db' inv known
  all_goals trivial

theorem yields_committed {R : S.Database → Prop} (stable : C.Stable now.locks P) (known : P db)
    (done : ∀ db, C.Inv db → P db → R (now.view db)) (stays : C.Stable [] R) :
    C.Yields (fun _ _ db => R db) (Prog.perform .commit) (some now) db := by
  rw [← Prog.bind_pure (Prog.perform .commit)]
  refine yields_commit stable known ?_
  intro db inv known
  exact yields_done stays (done db inv known) fun _ _ holds => holds

end Operations

end Contract

variable {C : Contract scope} {s : System S}

theorem Reachable.yields (verified : C.Verified) {R : S.Call → S.Response → S.Database → Prop}
    (program : ∀ call db, scope.starts call → C.Inv db →
      C.Yields (fun value _ db => R call value db) (S.program call) none db)
    (reachable : Reachable scope s) : ∀ (index : Nat) (thread : Thread S),
    s.threads[index]? = some thread →
      C.Yields (fun value _ db => R thread.call value db) thread.prog thread.txn s.db := by
  induction reachable with
  | init =>
    intro index thread present
    cases present
  | @step s s' action before permits step ih =>
    have sound := before.sound verified
    intro other thread present
    cases action with
    | start call =>
      obtain rfl := System.step_start step
      rw [List.getElem?_append] at present
      split at present
      · exact ih other thread present
      · obtain rfl := List.mem_singleton.mp (List.mem_of_getElem? present)
        exact program call s.db permits sound.inv
    | crash index =>
      obtain ⟨mover, there, rfl⟩ := System.step_crash step
      rcases getElem?_set_cases present with ⟨rfl, rfl⟩ | ⟨-, old⟩
      · exact Contract.yields_error _
      · exact ih other thread old
    | run index fault =>
      obtain ⟨mover, operation, next, out, there, shape, performed, rfl⟩ := System.step_run step
      have compatible : Compatible (held mover.txn) (s.busy index) := by
        intro x hx y hy
        obtain ⟨third, owner, different, found, member⟩ := System.mem_busy.mp hy
        exact sound.exclusive index third mover owner different.symm there found x hx y member
      rcases getElem?_set_cases present with ⟨rfl, rfl⟩ | ⟨different, old⟩
      · have yields := ih other mover there
        rw [shape] at yields
        exact yields s.db fault (s.busy other) out .refl sound.inv compatible performed
      · have yields := ih other thread old
        have admitted : out.db = s.db ∨ scope.admits mover.call s.db := by
          by_cases same : out.db = s.db
          · exact .inl same
          · exact .inr (permits mover there same)
        -- The mover's act keeps off whatever this thread has locked.
        rcases (sound.resume verified there shape performed admitted).2 with same | changed
        · rw [same]
          exact yields
        · have free : Compatible out.locks thread.held := by
            intro x hx y hy
            have member : y ∈ s.busy index :=
              System.mem_busy.mpr ⟨other, thread, different, old, hy⟩
            exact (performOp_locks performed compatible).1 x hx y member
          exact yields.later (.single ⟨sound.inv, mover.call, out.locks, free, changed⟩)

theorem Reachable.returned (verified : C.Verified) {R : S.Call → S.Response → S.Database → Prop}
    (program : ∀ call db, scope.starts call → C.Inv db →
      C.Yields (fun value _ db => R call value db) (S.program call) none db)
    (reachable : Reachable scope s) {thread : Thread S} (member : thread ∈ s.threads)
    {response : S.Response} (returned : thread.result = some (.ok response)) :
    R thread.call response s.db := by
  obtain ⟨index, present⟩ := List.mem_iff_getElem?.mp member
  have yields := reachable.yields verified program index thread present
  rw [Thread.result_eq_some.mp returned] at yields
  exact yields s.db .refl (reachable.sound verified).inv

end Transactional
