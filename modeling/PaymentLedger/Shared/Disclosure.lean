import PaymentLedger.Shared.Answers
import PaymentLedger.Shared.Monitor
import PaymentLedger.Shared.Single
import Mathlib.Logic.Relation

set_option autoImplicit false

-- Once a session has changed the database, an error that it raises on its own account would hide
-- the change from its caller. A program that `Discloses` then fails only as its operations do.

namespace Transactional

/-- `excused`: an operation has failed with an error of another kind. -/
inductive Phase where
  | before (inside : Bool)
  | changed
  | excused

variable {E : Engine} {α β : Type}

def Op.acts (reads : E.Sql → Bool) (operation : Op E) : Bool :=
  match operation with
  | .query .pool sql => !reads sql
  | .commit => true
  | .query .client _ | .begin | .rollback | .emit _ => false

def strange {Reply : Type} (expected : E.Error → Bool) (reply : Except E.Error Reply) : Bool :=
  match reply with
  | .error error => !expected error
  | .ok _ => false

/-- `expected` are the errors that operations give, `reads` the statements that write nothing. -/
def disclosure (reads : E.Sql → Bool) (expected : E.Error → Bool) : Monitor E where
  State := Phase
  start := .before false
  admits phase operation :=
    match phase with
    | .before inside => operation.Allowed inside
    | .changed | .excused => True
  next phase performed :=
    if strange expected performed.reply then .excused
    else
      match phase with
      | .before inside =>
        if performed.operation.acts reads then .changed
        else .before (performed.operation.after inside performed.reply)
      | .changed => .changed
      | .excused => .excused

namespace Prog

variable {reads : E.Sql → Bool} {expected : E.Error → Bool} {ok : α → Prop} {inside : Bool}
    {phase : Phase}

/-- Past its change, the result is one of these values or an expected error. -/
def Disclosed (expected : E.Error → Bool) (ok : α → Prop) (result : Except E.Error α)
    (phase : Phase) : Prop :=
  phase = .changed →
    match result with
    | .ok value => ok value
    | .error error => expected error = true

abbrev Discloses (reads : E.Sql → Bool) (expected : E.Error → Bool) (ok : α → Prop) (phase : Phase)
    (program : Prog E α) :
    Prop := program.Watched (disclosure reads expected) (Disclosed expected ok) phase

theorem disclosed_excused {result : Except E.Error α} : Disclosed expected ok result .excused :=
  fun same => Phase.noConfusion same

theorem disclosed_before {result : Except E.Error α} :
    Disclosed expected ok result (.before inside) :=
  fun same => Phase.noConfusion same

theorem next_excused (performed : Performed E) :
    (disclosure reads expected).next .excused performed = .excused := by
  simp only [disclosure]
  split <;> rfl

theorem next_changed (performed : Performed E) :
    (disclosure reads expected).next .changed performed = .changed ∨
    (disclosure reads expected).next .changed performed = .excused := by
  simp only [disclosure]
  split
  · exact .inr rfl
  · exact .inl rfl

theorem watched_late (program : Prog E α) (late : phase = .changed ∨ phase = .excused) :
    program.Watched (disclosure reads expected) (fun _ after => after = .changed ∨ after = .excused)
      phase := by
  induction program generalizing phase with
  | done result => exact late
  | op operation next ih =>
    rcases late with rfl | rfl
    · exact ⟨trivial, fun reply => ih reply (next_changed ⟨operation, reply⟩)⟩
    · exact ⟨trivial, fun reply => ih reply (.inr (next_excused ⟨operation, reply⟩))⟩

theorem watched_excused (program : Prog E α) :
    program.Watched (disclosure reads expected) (fun _ after => after = .excused) .excused := by
  induction program with
  | done result => rfl
  | op operation next ih =>
    refine ⟨trivial, fun reply => ?_⟩
    rw [next_excused ⟨operation, reply⟩]
    exact ih reply

theorem discloses_excused (program : Prog E α) : program.Discloses reads expected ok .excused := by
  refine (watched_excused program).imp ?_
  rintro result after rfl
  exact disclosed_excused

theorem disclosed_error (operation : Op E) (error : E.Error) :
    Disclosed expected ok (.error error)
      ((disclosure reads expected).next phase ⟨operation, .error error⟩) := by
  by_cases known : expected error = true
  · exact fun _ => known
  · have away : (disclosure reads expected).next phase ⟨operation, .error error⟩ = .excused := by
      simp [disclosure, strange, known]
    rw [away]
    exact disclosed_excused

theorem discloses_perform {operation : Op E} {f : operation.Reply → Prog E α}
    (admitted : (disclosure reads expected).admits phase operation)
    (rest : ∀ answer, (f answer).Discloses reads expected ok
      ((disclosure reads expected).next phase ⟨operation, .ok answer⟩)) :
    ((perform operation).bind f).Discloses reads expected ok phase :=
  watched_perform admitted (disclosed_error operation) rest

theorem discloses_last {operation : Op E} {ok : operation.Reply → Prop} (fine : ∀ answer, ok answer)
    (admitted : (disclosure reads expected).admits phase operation) :
    (perform operation).Discloses reads expected ok phase := by
  refine ⟨admitted, ?_⟩
  intro reply
  cases reply with
  | ok answer => exact fun _ => fine answer
  | error error => exact disclosed_error operation error

/-- Operations that leave the session before its change, and where it is. -/
def Calm (reads : E.Sql → Bool) (inside : Bool) (operation : Op E) : Prop :=
  operation.Allowed inside ∧ operation.acts reads = false ∧
    ∀ reply, operation.after inside reply = inside

theorem watched_calm {program : Prog E α} (calm : program.Issues (Calm reads inside)) :
    program.Watched (disclosure reads expected)
      (fun _ after => after = .before inside ∨ after = .excused)
      (.before inside) := by
  induction program with
  | done result => exact .inl rfl
  | op operation next ih =>
    obtain ⟨⟨allowed, idle, stays⟩, later⟩ := calm
    refine ⟨allowed, ?_⟩
    intro reply
    cases odd : strange expected reply with
    | true =>
      have away : (disclosure reads expected).next (.before inside) ⟨operation, reply⟩ =
          .excused := by
        simp [disclosure, odd]
      rw [away]
      exact (watched_excused _).imp fun _ _ same => .inr same
    | false =>
      have still : (disclosure reads expected).next (.before inside) ⟨operation, reply⟩ =
          .before inside := by
        simp [disclosure, odd, idle, stays]
      rw [still]
      exact ih reply (later reply)

theorem discloses_calm {first : Prog E β} {f : β → Prog E α}
    (calm : first.Issues (Calm reads inside))
    (rest : ∀ value, (f value).Discloses reads expected ok (.before inside)) :
    (first.bind f).Discloses reads expected ok (.before inside) := by
  refine watched_bind (watched_calm calm) ?_ ?_
  · rintro value after (rfl | rfl)
    · exact rest value
    · exact discloses_excused _
  · rintro error after (rfl | rfl)
    · exact disclosed_before
    · exact disclosed_excused

theorem discloses_inner {first : Prog E β} {f : β → Prog E α} (inner : first.Issues Op.Inner)
    (rest : ∀ value, (f value).Discloses reads expected ok (.before true)) :
    (first.bind f).Discloses reads expected ok (.before true) := by
  refine discloses_calm (inner.imp ?_) rest
  intro operation inner
  cases operation with
  | query executor sql =>
    cases executor with
    | pool => exact inner.elim
    | client => exact ⟨rfl, rfl, fun _ => rfl⟩
  | emit event => exact ⟨trivial, rfl, fun _ => rfl⟩
  | begin | commit | rollback => exact inner.elim

theorem calm_look {operation : Op E} (look : operation.Look reads) :
    Calm reads inside operation := by
  cases operation with
  | query executor sql =>
    cases executor with
    | pool => exact ⟨trivial, by simp [Op.acts, show reads sql = true from look], fun _ => rfl⟩
    | client => exact look.elim
  | begin | commit | rollback | emit event => exact look.elim

theorem discloses_look {first : Prog E β} {f : β → Prog E α} (looks : first.Issues (Op.Look reads))
    (rest : ∀ value, (f value).Discloses reads expected ok (.before inside)) :
    (first.bind f).Discloses reads expected ok (.before inside) :=
  discloses_calm (looks.imp fun _ => calm_look) rest

theorem discloses_begin {f : Unit → Prog E α}
    (rest : (f ()).Discloses reads expected ok (.before true)) :
    ((perform .begin).bind f).Discloses reads expected ok (.before inside) :=
  discloses_perform trivial fun _ => rest

theorem discloses_commit {f : Unit → Prog E α}
    (rest : (f ()).Discloses reads expected ok .changed) :
    ((perform .commit).bind f).Discloses reads expected ok (.before inside) :=
  discloses_perform trivial fun _ => rest

theorem discloses_rollback {f : Unit → Prog E α}
    (rest : (f ()).Discloses reads expected ok (.before false)) :
    ((perform .rollback).bind f).Discloses reads expected ok (.before inside) :=
  discloses_perform trivial fun _ => rest

theorem discloses_protect {body : Prog E α} (discloses : body.Discloses reads expected ok phase) :
    body.protect.Discloses reads expected ok phase := by
  refine watched_tryCatch discloses (fun value after told => told) ?_
  intro error after told
  cases after with
  | before inside => exact discloses_rollback disclosed_before
  | changed => exact discloses_perform trivial fun _ => told
  | excused => exact discloses_excused _

/-- A program that goes on after its change, or without one. -/
theorem discloses_then {first : Prog E β} {f : β → Prog E α} {F : β → Prop}
    (discloses : first.Discloses reads expected F phase)
    (late : ∀ value, F value → (f value).Discloses reads expected ok .changed)
    (early : ∀ value inside, (f value).Discloses reads expected ok (.before inside)) :
    (first.bind f).Discloses reads expected ok phase := by
  refine watched_bind discloses ?_ fun error after told => told
  intro value after told
  cases after with
  | before inside => exact early value inside
  | changed => exact late value (told rfl)
  | excused => exact discloses_excused _

end Prog

section Runs

variable {S : Service} {scope : Scope S} {s s' : System S} {reads : S.Sql → Bool}
    {expected : S.Error → Bool}

structure Thread.Tracked (reads : S.Sql → Bool) (expected : S.Error → Bool)
    (thread : Thread S) : Prop where
  known : (disclosure reads expected).after thread.history ≠ .excused
  inside : thread.result = none →
    ∀ inside, (disclosure reads expected).after thread.history = .before inside →
    thread.txn.isSome = inside

/-- The errors of statements and of the connection are expected, and `reads` is right. -/
structure Candid (S : Service) (reads : S.Sql → Bool) (expected : S.Error → Bool) : Prop where
  disconnected : expected S.disconnected = true
  aborted : expected S.aborted = true
  raises : ∀ sql db busy error, S.exec sql db busy = .error error → expected error = true
  reads : ∀ sql, reads sql = true → S.toEngine.Reads sql

theorem Thread.Tracked.resume (candid : Candid S reads expected) {thread : Thread S}
    (tracked : thread.Tracked reads expected) {operation : Op S.toEngine}
    {next : Except S.Error operation.Reply → Prog S.toEngine S.Response}
    (shape : thread.prog = .op operation next)
    (admitted : (disclosure reads expected).admits
      ((disclosure reads expected).after thread.history) operation) {fault : Fault}
      {db : S.Database} {busy : List (Lock S.Resource)} {out : Outcome S.toEngine operation.Reply}
    (performed : performOp operation fault thread.txn db busy = some out) :
    (thread.resume operation next out).Tracked reads expected ∧
      (out.db ≠ db → (disclosure reads expected).after (thread.resume operation next out).history =
        .changed) := by
  have plain : strange expected out.reply = false := by
    cases reply : out.reply with
    | ok answer => rfl
    | error error =>
      have known : expected error = true :=
        performOp_raises (R := (expected · = true)) candid.disconnected candid.aborted candid.raises
          performed reply
      simp [strange, known]
  have resumed : (disclosure reads expected).after (thread.resume operation next out).history =
      (disclosure reads expected).next ((disclosure reads expected).after thread.history)
      ⟨operation, out.reply⟩ :=
    Monitor.after_concat ..
  have unfinished : thread.result = none := by simp [Thread.result, shape]
  have inside := tracked.inside unfinished
  have known := tracked.known
  generalize (disclosure reads expected).after thread.history = phase at *
  cases phase with
  | excused => exact absurd rfl known
  | changed =>
    have now : (disclosure reads expected).next .changed ⟨operation, out.reply⟩ = .changed := by
      simp [disclosure, plain]
    rw [now] at resumed
    refine ⟨⟨fun same => Phase.noConfusion (resumed.symm.trans same), fun _ inside same => ?_⟩,
      fun _ => resumed⟩
    rw [resumed] at same
    cases same
  | before inside_ =>
    have opened : thread.txn.isSome = inside_ := inside inside_ rfl
    cases acts : operation.acts reads with
    | true =>
      have now : (disclosure reads expected).next (.before inside_) ⟨operation, out.reply⟩ =
          .changed := by
        simp [disclosure, plain, acts]
      rw [now] at resumed
      refine ⟨⟨fun same => Phase.noConfusion (resumed.symm.trans same), fun _ inside same => ?_⟩,
        fun _ => resumed⟩
      rw [resumed] at same
      cases same
    | false =>
      have now : (disclosure reads expected).next (.before inside_) ⟨operation, out.reply⟩ =
          .before (operation.after inside_ out.reply) := by
        simp [disclosure, plain, acts]
      rw [now] at resumed
      have allowed : operation.Allowed thread.txn.isSome := opened ▸ admitted
      have idle : ¬ operation.Acts := by
        cases operation with
        | query executor sql =>
          cases executor with
          | client => exact id
          | pool =>
            intro writes
            exact writes (candid.reads sql (by simpa [Op.acts] using acts))
        | commit => cases acts
        | begin | rollback | emit event => exact id
      obtain ⟨same, still⟩ := performOp_idle allowed idle performed
      refine ⟨⟨fun same => Phase.noConfusion (resumed.symm.trans same), fun _ later at_ => ?_⟩,
        fun differs => absurd same differs⟩
      rw [resumed] at at_
      cases at_
      rw [← opened]
      exact still

variable {Q : S.Call → Except S.Error S.Response → Phase → Prop}

structure Keeps (scope : Scope S) (reads : S.Sql → Bool) (expected : S.Error → Bool)
    (Q : S.Call → Except S.Error S.Response → Phase → Prop) : Prop where
  candid : Candid S reads expected
  programs : ∀ call, scope.starts call →
    (S.program call).Watched (disclosure reads expected) (Q call) (.before false)
  crashed : ∀ call phase, Q call (.error S.crashed) phase

theorem Reachable.tracked (keeps : Keeps scope reads expected Q) (reachable : Reachable scope s) :
    ∀ (index : Nat) (thread : Thread S), s.threads[index]? = some thread →
      thread.Tracked reads expected := by
  induction reachable with
  | init =>
    intro index thread present
    cases present
  | @step s s' action before permits step ih =>
    intro index thread present
    cases action with
    | start call =>
      -- a new session has no history and no transaction
      obtain rfl := System.step_start step
      rw [List.getElem?_append] at present
      split at present
      · exact ih index thread present
      · obtain rfl := List.mem_singleton.mp (List.mem_of_getElem? present)
        refine ⟨fun same => Phase.noConfusion same, ?_⟩
        rintro - inside same
        cases same
        rfl
    | run chosen fault =>
      obtain ⟨mover, operation, next, out, found, shape, performed, rfl⟩ := System.step_run step
      rcases getElem?_set_cases present with ⟨-, rfl⟩ | ⟨-, old⟩
      · have watched := before.watched keeps.programs keeps.crashed chosen mover found
        rw [shape] at watched
        exact ((ih chosen mover found).resume keeps.candid shape watched.1 performed).1
      · exact ih index thread old
    | crash chosen =>
      obtain ⟨mover, found, rfl⟩ := System.step_crash step
      rcases getElem?_set_cases present with ⟨-, rfl⟩ | ⟨-, old⟩
      · refine ⟨(ih chosen mover found).known, ?_⟩
        intro unfinished
        cases unfinished
      · exact ih index thread old

def Leads (scope : Scope S) : System S → System S → Prop :=
  Relation.ReflTransGen fun s s' => ∃ action, scope.Permits s action s' ∧ s.step action = some s'

theorem Leads.reachable (leads : Leads scope s s') (reachable : Reachable scope s) :
    Reachable scope s' := by
  induction leads with
  | refl => exact reachable
  | tail _ last ih =>
    obtain ⟨action, permits, step⟩ := last
    exact .step action ih permits step

theorem Leads.changed (keeps : Keeps scope reads expected Q) (reachable : Reachable scope s)
    {middle : System S} {index : Nat} {fault : Fault}
    (permits : scope.Permits s (.run index fault) middle)
    (step : s.step (.run index fault) = some middle) (differs : middle.db ≠ s.db)
    (leads : Leads scope middle s') :
    ∃ thread, s'.threads[index]? = some thread ∧
      (disclosure reads expected).after thread.history = .changed := by
  have start : Reachable scope middle := .step _ reachable permits step
  -- the changing step itself moves the monitor; no later step moves it back
  induction leads with
  | refl =>
    obtain ⟨mover, operation, next, out, found, shape, performed, rfl⟩ := System.step_run step
    have watched := reachable.watched keeps.programs keeps.crashed index mover found
    rw [shape] at watched
    have resumed := (reachable.tracked keeps index mover found).resume keeps.candid shape
      watched.1 performed
    exact ⟨_, List.getElem?_set_self (List.getElem?_eq_some_iff.mp found).1, resumed.2 differs⟩
  | @tail last later path one ih =>
    obtain ⟨thread, present, changed⟩ := ih
    have reached : Reachable scope last := Leads.reachable path start
    obtain ⟨action, allowed, one⟩ := one
    have further : Reachable scope later := .step action reached allowed one
    have bound := (List.getElem?_eq_some_iff.mp present).1
    cases action with
    | start call =>
      obtain rfl := System.step_start one
      exact ⟨thread, by simpa [List.getElem?_append_left bound] using present, changed⟩
    | run chosen fault =>
      obtain ⟨mover, operation, next, out, found, -, -, rfl⟩ := System.step_run one
      by_cases same : chosen = index
      · subst same
        obtain rfl := Option.some.inj (found.symm.trans present)
        have at_ := List.getElem?_set_self (a := mover.resume operation next out) bound
        refine ⟨_, at_, ?_⟩
        -- past the change there is only `excused`, which no tracked session is
        have tracked := further.tracked keeps chosen _ at_
        have known := tracked.known
        rw [Thread.resume, Monitor.after_concat, changed] at known ⊢
        exact (Prog.next_changed _).resolve_right known
      · exact ⟨thread, by simpa [List.getElem?_set_ne same] using present, changed⟩
    | crash chosen =>
      obtain ⟨mover, found, rfl⟩ := System.step_crash one
      by_cases same : chosen = index
      · subst same
        obtain rfl := Option.some.inj (found.symm.trans present)
        exact ⟨_, List.getElem?_set_self bound, changed⟩
      · exact ⟨thread, by simpa [List.getElem?_set_ne same] using present, changed⟩

end Runs

end Transactional
