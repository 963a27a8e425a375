import PaymentLedger.Shared.Issues

set_option autoImplicit false

-- A program that writes in one transaction, or by one statement of its own, and only reads
-- after that. A call run alone then leaves what it found, or exactly one change of it.

namespace Transactional

variable {E : Engine} {α β : Type}

def Engine.Reads (E : Engine) (sql : E.Sql) : Prop :=
  ∀ db busy effect, E.exec sql db busy = .ok effect → effect.writes = []

namespace Op

def Quiet (operation : Op E) : Prop :=
  match operation with
  | .query .pool sql => E.Reads sql
  | .query .client _ | .commit => False
  | .begin | .rollback | .emit _ => True

def Acts (operation : Op E) : Prop :=
  match operation with
  | .query .pool sql => ¬ E.Reads sql
  | .commit => True
  | .query .client _ | .begin | .rollback | .emit _ => False

/-- A client query outside a transaction would commit by itself. -/
def Allowed (inside : Bool) (operation : Op E) : Prop :=
  match operation with
  | .query .client _ => inside = true
  | _ => True

def after (inside : Bool) (operation : Op E) (reply : Except E.Error operation.Reply) : Bool :=
  match operation with
  | .begin => reply.isOk
  | .commit | .rollback => false
  | .query _ _ | .emit _ => inside

def Pending (operation : Op E) : Prop :=
  match operation with
  | .query .pool sql => E.Reads sql
  | .query .client _ | .emit _ => True
  | .begin | .commit | .rollback => False

theorem Pending.idle {operation : Op E} (pending : operation.Pending) :
    operation.Allowed true ∧ ¬ operation.Acts ∧ ∀ reply, operation.after true reply = true := by
  cases operation with
  | query executor sql =>
    cases executor with
    | pool => exact ⟨trivial, fun acts => acts pending, fun _ => rfl⟩
    | client => exact ⟨rfl, id, fun _ => rfl⟩
  | emit event => exact ⟨trivial, id, fun _ => rfl⟩
  | begin | commit | rollback => cases pending

theorem Inner.pending {operation : Op E} (inner : operation.Inner) : operation.Pending := by
  cases operation with
  | query executor sql =>
    cases executor with
    | pool => exact inner.elim
    | client => trivial
  | emit event => trivial
  | begin | commit | rollback => exact inner.elim

end Op

namespace Prog

def Single : Prog E α → Bool → Prop
  | .done _, _ => True
  | .op operation next, inside => operation.Allowed inside ∧
    ((¬ operation.Acts ∧ ∀ reply, (next reply).Single (operation.after inside reply)) ∨
      ∀ reply, (next reply).Issues Op.Quiet)

variable {inside : Bool}

theorem single_begin {f : Unit → Prog E β} (rest : (f ()).Single true) :
    ((perform .begin).bind f).Single inside := by
  refine ⟨trivial, .inl ⟨id, ?_⟩⟩
  intro reply
  cases reply with
  | ok value => exact rest
  | error error => trivial

theorem single_pending {first : Prog E α} {f : α → Prog E β} (pending : first.Issues Op.Pending)
    (rest : ∀ value, (f value).Single true) : (first.bind f).Single true := by
  induction first with
  | done result =>
    cases result with
    | ok value => exact rest value
    | error error => trivial
  | op operation next ih =>
    obtain ⟨allowed, idle, open_⟩ := pending.1.idle
    refine ⟨allowed, .inl ⟨idle, fun reply => ?_⟩⟩
    rw [open_ reply]
    exact ih reply (pending.2 reply)

theorem single_inner {first : Prog E α} {f : α → Prog E β} (inner : first.Issues Op.Inner)
    (rest : ∀ value, (f value).Single true) : (first.bind f).Single true :=
  single_pending (inner.imp fun _ => Op.Inner.pending) rest

section Looks

variable {reads : E.Sql → Bool} {first : Prog E α} {f : α → Prog E β}

theorem quiet_looks (sound : ∀ sql, reads sql = true → E.Reads sql)
    (looks : first.Issues (Op.Look reads)) :
    first.Issues Op.Quiet := by
  refine looks.imp ?_
  intro operation look
  cases operation with
  | query executor sql =>
    cases executor with
    | pool => exact sound sql look
    | client => exact look.elim
  | begin | commit | rollback | emit event => exact look.elim

theorem single_look (sound : ∀ sql, reads sql = true → E.Reads sql)
    (looks : first.Issues (Op.Look reads)) (rest : ∀ value, (f value).Single inside) :
    (first.bind f).Single inside := by
  induction first with
  | done result =>
    cases result with
    | ok value => exact rest value
    | error error => trivial
  | op operation next ih =>
    obtain ⟨look, later⟩ := looks
    cases operation with
    | query executor sql =>
      cases executor with
      | pool => exact ⟨trivial, .inl ⟨fun acts => acts (sound sql look), fun reply => ih reply (later reply)⟩⟩
      | client => exact look.elim
    | begin | commit | rollback | emit event => exact look.elim

theorem single_looks (sound : ∀ sql, reads sql = true → E.Reads sql)
    (looks : first.Issues (Op.Look reads)) :
    first.Single inside := by
  rw [← bind_pure first]
  exact single_look sound looks fun _ => trivial

end Looks

theorem single_read {sql : E.Sql} {f : E.Answer sql → Prog E β} (reads : E.Reads sql)
    (rest : ∀ value, (f value).Single inside) : ((query .pool sql).bind f).Single inside := by
  refine ⟨trivial, .inl ⟨fun acts => acts reads, ?_⟩⟩
  intro reply
  cases reply with
  | ok value => exact rest value
  | error error => trivial

theorem single_emit {event : E.Event} {f : Unit → Prog E β} (rest : (f ()).Single inside) :
    ((perform (.emit event)).bind f).Single inside := by
  refine ⟨trivial, .inl ⟨id, ?_⟩⟩
  intro reply
  cases reply with
  | ok value => exact rest
  | error error => trivial

theorem single_pool {sql : E.Sql} {f : E.Answer sql → Prog E β}
    (rest : ∀ value, (f value).Issues Op.Quiet) :
    ((query .pool sql).bind f).Single inside := by
  refine ⟨trivial, .inr ?_⟩
  intro reply
  cases reply with
  | ok value => exact rest value
  | error error => trivial

theorem single_commit {f : Unit → Prog E β} (rest : (f ()).Issues Op.Quiet) :
    ((perform .commit).bind f).Single inside := by
  refine ⟨trivial, .inr ?_⟩
  intro reply
  cases reply with
  | ok value => exact rest
  | error error => trivial

-- The same two at the end of a program.
theorem single_pool_last {sql : E.Sql} : (query .pool sql).Single inside :=
  ⟨trivial, .inr fun _ => trivial⟩

theorem single_commit_last : (perform (E := E) .commit).Single inside :=
  ⟨trivial, .inr fun _ => trivial⟩

theorem single_rollback {f : Unit → Prog E β} (rest : (f ()).Single false) :
    ((perform .rollback).bind f).Single inside := by
  refine ⟨trivial, .inl ⟨id, ?_⟩⟩
  intro reply
  cases reply with
  | ok value => exact rest
  | error error => trivial

theorem single_bind {program : Prog E α} {f : α → Prog E β} (first : program.Single inside)
    (rest : ∀ value inside, (f value).Single inside) (quiet : ∀ value, (f value).Issues Op.Quiet) :
    (program.bind f).Single inside := by
  induction program generalizing inside with
  | done result =>
    cases result with
    | ok value => exact rest value inside
    | error error => trivial
  | op operation next ih =>
    obtain ⟨allowed, ⟨idle, later⟩ | past⟩ := first
    · exact ⟨allowed, .inl ⟨idle, fun reply => ih reply (later reply)⟩⟩
    · exact ⟨allowed, .inr fun reply => issues_bind (past reply) quiet⟩

theorem single_tryCatch {program : Prog E α} {handler : E.Error → Prog E α}
    (body : program.Single inside) (handle : ∀ error inside, (handler error).Single inside)
    (quiet : ∀ error, (handler error).Issues Op.Quiet) :
    (program.tryCatch handler).Single inside := by
  induction program generalizing inside with
  | done result =>
    cases result with
    | ok value => trivial
    | error error => exact handle error inside
  | op operation next ih =>
    obtain ⟨allowed, ⟨idle, later⟩ | past⟩ := body
    · exact ⟨allowed, .inl ⟨idle, fun reply => ih reply (later reply)⟩⟩
    · exact ⟨allowed, .inr fun reply => issues_tryCatch (past reply) quiet⟩

theorem single_then {reads : E.Sql → Bool} {program : Prog E α} {f : α → Prog E β}
    (sound : ∀ sql, reads sql = true → E.Reads sql) (first : program.Single inside)
    (looks : ∀ value, (f value).Issues (Op.Look reads)) : (program.bind f).Single inside :=
  single_bind first (fun value _ => single_looks sound (looks value)) fun value =>
    quiet_looks sound (looks value)

theorem single_protect {body : Prog E α} (single : body.Single inside) :
    body.protect.Single inside :=
  single_tryCatch single (fun _ _ => single_rollback trivial) fun _ =>
    issues_bind (issues_perform trivial) fun _ => trivial

theorem single_protected {body : Prog E α} {handler : E.Error → Prog E α} {f : α → Prog E β}
    (pending : body.Issues Op.Pending) (handle : ∀ error, ((handler error).bind f).Single true)
    (rest : ∀ value, (f value).Single true) : ((body.tryCatch handler).bind f).Single true := by
  induction body with
  | done result =>
    cases result with
    | ok value => exact rest value
    | error error => exact handle error
  | op operation next ih =>
    obtain ⟨allowed, idle, open_⟩ := pending.1.idle
    refine ⟨allowed, .inl ⟨idle, fun reply => ?_⟩⟩
    rw [open_ reply]
    exact ih reply (pending.2 reply)

end Prog

section Operations

variable {operation : Op E} {fault : Fault} {txn : Option (Txn E)} {db : E.Database}
variable {busy : List (Lock E.Resource)} {out : Outcome E operation.Reply}

theorem autocommit_reads {sql : E.Sql} (reads : E.Reads sql) {out : Outcome E (E.Answer sql)}
    (performed : autocommit sql fault txn db busy = some out) : out.db = db ∧ out.txn = txn := by
  rcases autocommit_cases performed with ⟨error, -, rfl⟩ | ⟨effect, ran, -, rfl⟩
  · exact ⟨rfl, rfl⟩
  · refine ⟨?_, rfl⟩
    rw [reads db busy effect ran]
    rfl

theorem performOp_quiet (quiet : operation.Quiet)
    (performed : performOp operation fault txn db busy = some out) :
    out.db = db := by
  cases operation with
  | query executor sql =>
    cases executor with
    | client => cases quiet
    | pool =>
      cases fault <;> simp only [performOp] at performed
      case failed =>
        obtain rfl := Option.some.inj performed
        rfl
      all_goals exact (autocommit_reads quiet performed).1
  | commit => cases quiet
  | begin | rollback | emit event => cases fault <;> obtain rfl := Option.some.inj performed <;> rfl

theorem performOp_idle (allowed : operation.Allowed txn.isSome) (idle : ¬ operation.Acts)
    (performed : performOp operation fault txn db busy = some out) :
    out.db = db ∧ out.txn.isSome = operation.after txn.isSome out.reply := by
  cases operation with
  | query executor sql =>
    cases executor with
    | client =>
      obtain ⟨now, rfl⟩ := Option.isSome_iff_exists.mp allowed
      cases fault <;> simp only [performOp] at performed
      case failed =>
        obtain rfl := Option.some.inj performed
        exact ⟨rfl, rfl⟩
      all_goals
        rcases inTransaction_cases performed with ⟨-, rfl⟩ | ⟨error, -, -, rfl⟩ |
        ⟨effect, -, -, -, rfl⟩
        all_goals exact ⟨rfl, rfl⟩
    | pool =>
      have reads : E.Reads sql := not_not.mp idle
      cases fault <;> simp only [performOp] at performed
      case failed =>
        obtain rfl := Option.some.inj performed
        exact ⟨rfl, rfl⟩
      all_goals
        obtain ⟨same, still⟩ := autocommit_reads reads performed
        exact ⟨same, by rw [still]; rfl⟩
  | commit => exact absurd trivial idle
  | begin | rollback | emit event =>
    cases fault <;> obtain rfl := Option.some.inj performed <;> exact ⟨rfl, rfl⟩

end Operations

variable {S : Service} {scope : Scope S} {s s' : System S}

def Thread.Once (thread : Thread S) : Prop :=
  thread.prog.Single thread.txn.isSome ∨ thread.prog.Issues Op.Quiet

theorem Thread.Once.resume {thread : Thread S} (once : thread.Once) {operation : Op S.toEngine}
    {next : Except S.Error operation.Reply → Prog S.toEngine S.Response}
    (shape : thread.prog = .op operation next) {fault : Fault} {db : S.Database}
    {busy : List (Lock S.Resource)} {out : Outcome S.toEngine operation.Reply}
    (performed : performOp operation fault thread.txn db busy = some out) :
    (thread.resume operation next out).Once ∧
      (out.db ≠ db → ¬ thread.prog.Issues Op.Quiet ∧
        (thread.resume operation next out).prog.Issues Op.Quiet) := by
  unfold Thread.Once at once ⊢
  rw [shape] at once ⊢
  by_cases quiet : (Prog.op operation next).Issues Op.Quiet
  · exact ⟨.inr (quiet.2 out.reply),
      fun differs => absurd (performOp_quiet quiet.1 performed) differs⟩
  · obtain ⟨allowed, ⟨idle, later⟩ | past⟩ := once.resolve_right quiet
    · obtain ⟨same, still⟩ := performOp_idle allowed idle performed
      refine ⟨.inl ?_, fun differs => absurd same differs⟩
      have single := later out.reply
      rw [← still] at single
      exact single
    · exact ⟨.inr (past out.reply), fun _ => ⟨quiet, past out.reply⟩⟩

theorem Reachable.once (programs : ∀ call, scope.starts call → (S.program call).Single false)
    (reachable : Reachable scope s) :
    ∀ (index : Nat) (thread : Thread S), s.threads[index]? = some thread → thread.Once := by
  induction reachable with
  | init =>
    intro index thread present
    simp at present
  | @step s s' action before permits step ih =>
    intro index thread present
    cases action with
    | start call =>
      obtain rfl := System.step_start step
      rw [List.getElem?_append] at present
      split at present
      · exact ih index thread present
      · obtain rfl := List.mem_singleton.mp (List.mem_of_getElem? present)
        exact .inl (programs call permits)
    | run chosen fault =>
      obtain ⟨mover, operation, next, out, found, shape, performed, rfl⟩ := System.step_run step
      rcases getElem?_set_cases present with ⟨-, rfl⟩ | ⟨-, old⟩
      · exact ((ih chosen mover found).resume shape performed).1
      · exact ih index thread old
    | crash chosen =>
      obtain ⟨mover, found, rfl⟩ := System.step_crash step
      rcases getElem?_set_cases present with ⟨-, rfl⟩ | ⟨-, old⟩
      · exact .inr trivial
      · exact ih index thread old

/-- One call, run alone on `db`, with any faults, and stopped at any point. -/
inductive Alone (db : S.Database) (call : S.Call) : System S → Prop where
  | start : Alone db call { db, threads := [{ call, prog := S.program call }] }
  | run {s s' : System S} (fault : Fault) : Alone db call s → s.step (.run 0 fault) = some s' →
      Alone db call s'
  | crash {s s' : System S} : Alone db call s → s.step (.crash 0) = some s' → Alone db call s'

theorem Alone.thread {db : S.Database} {call : S.Call} (alone : Alone db call s) :
    ∃ thread, s.threads = [thread] ∧ thread.call = call := by
  induction alone with
  | start => exact ⟨_, rfl, rfl⟩
  | run fault _ step ih =>
    obtain ⟨thread, only, same⟩ := ih
    obtain ⟨mover, operation, next, out, found, -, -, rfl⟩ := System.step_run step
    rw [only] at found ⊢
    obtain rfl := Option.some.inj found
    exact ⟨_, rfl, same⟩
  | crash _ step ih =>
    obtain ⟨thread, only, same⟩ := ih
    obtain ⟨mover, found, rfl⟩ := System.step_crash step
    rw [only] at found ⊢
    obtain rfl := Option.some.inj found
    exact ⟨_, rfl, same⟩

theorem Alone.sound {C : Contract scope} (verified : C.Verified) {db : S.Database} {call : S.Call}
    (inv : C.Inv db) (starts : scope.starts call) (admits : ∀ call db, scope.admits call db)
    (alone : Alone db call s) : Sound C s := by
  induction alone with
  | start =>
    have idle : Sound C { db } :=
      { inv
        starts := by intro index thread present; simp at present
        threads := by intro index thread present; simp at present
        exclusive := by intro i j left right _ present; simp at present
        sent := by intro event member; simp at member }
    exact idle.start verified starts
  | @run s s' fault before step ih =>
    have permits : scope.Permits s (.run 0 fault) s' := fun thread _ _ => admits thread.call s.db
    exact (ih.step verified permits step).1
  | @crash s s' before step ih =>
    have permits : scope.Permits s (.crash 0) s' := trivial
    exact (ih.step verified permits step).1

/-- A call run alone leaves the database as it was, or changed by one act. -/
theorem Alone.change {C : Contract scope} (verified : C.Verified)
    (programs : ∀ call, (S.program call).Single false) {db : S.Database} {call : S.Call}
    (inv : C.Inv db) (starts : scope.starts call) (admits : ∀ call db, scope.admits call db)
    (alone : Alone db call s) :
    s.db = db ∨ ∃ locks, C.Act call locks db s.db := by
  have all : (∀ (index : Nat) (thread : Thread S), s.threads[index]? = some thread → thread.Once) ∧
      (s.db = db ∨ ((∃ locks, C.Act call locks db s.db) ∧
        ∀ (index : Nat) (thread : Thread S), s.threads[index]? = some thread →
        thread.prog.Issues Op.Quiet)) := by
    induction alone with
    | start =>
      refine ⟨?_, .inl rfl⟩
      intro index thread present
      obtain rfl := List.mem_singleton.mp (List.mem_of_getElem? present)
      exact .inl (programs call)
    | @run s s' fault before step ih =>
      obtain ⟨once, changed⟩ := ih
      obtain ⟨only, single, same⟩ := before.thread
      have permits : scope.Permits s (.run 0 fault) s' := fun thread _ _ => admits thread.call s.db
      obtain ⟨-, moves⟩ := (before.sound verified inv starts admits).step verified permits step
      obtain ⟨mover, operation, next, out, found, shape, performed, rfl⟩ := System.step_run step
      obtain ⟨still, turned⟩ := (once 0 mover found).resume shape performed
      refine ⟨?_, ?_⟩
      · intro index thread present
        rcases getElem?_set_cases present with ⟨-, rfl⟩ | ⟨-, old⟩
        · exact still
        · exact once index thread old
      · have alone_ {index : Nat} {thread : Thread S}
            (present : (s.threads.set 0 (mover.resume operation next out))[index]? = some thread) :
            thread = mover.resume operation next out := by
          rw [single] at present
          exact List.mem_singleton.mp (List.mem_of_getElem? present)
        rcases changed with unchanged | ⟨act, quiet⟩
        · by_cases differs : out.db = s.db
          · exact .inl (differs.trans unchanged)
          · refine .inr ⟨?_, ?_⟩
            · rcases moves with none_ | ⟨index, thread, locks, present, -, -, act⟩
              · exact absurd none_ differs
              · rw [single] at present
                rw [List.mem_singleton.mp (List.mem_of_getElem? present), same, unchanged] at act
                exact ⟨locks, act⟩
            · intro index thread present
              rw [alone_ present]
              exact (turned differs).2
        · -- Past its one change the call only issues operations that change nothing.
          have past := quiet 0 mover found
          rw [shape] at past
          have none_ : out.db = s.db := performOp_quiet past.1 performed
          refine .inr ⟨by rw [none_]; exact act, ?_⟩
          intro index thread present
          rw [alone_ present]
          exact past.2 out.reply
    | @crash s s' before step ih =>
      obtain ⟨once, changed⟩ := ih
      obtain ⟨mover, found, rfl⟩ := System.step_crash step
      have past {index : Nat} {thread : Thread S}
          (present : (s.threads.set 0 mover.crash)[index]? = some thread) :
          thread.prog.Issues Op.Quiet ∨ s.threads[index]? = some thread := by
        rcases getElem?_set_cases present with ⟨-, rfl⟩ | ⟨-, old⟩
        · exact .inl trivial
        · exact .inr old
      refine ⟨?_, changed.imp_right fun both => ⟨both.1, ?_⟩⟩
      · intro index thread present
        exact (past present).elim .inr (once index thread)
      · intro index thread present
        exact (past present).elim id (both.2 index thread)
  rcases all.2 with unchanged | ⟨act, -⟩
  · exact .inl unchanged
  · exact .inr act

end Transactional
