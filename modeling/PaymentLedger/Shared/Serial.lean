import PaymentLedger.Shared.Evaluation
import PaymentLedger.Shared.Precedence

set_option autoImplicit false

namespace Transactional

variable {S : Service} {s : System S} {db : S.Database}

/-- A call that only reads once its first operation is done changes nothing. -/
theorem Alone.quiet {call : S.Call} (quiet : ∀ (operation : Op S.toEngine) next fault out,
      S.program call = .op operation next → performOp operation fault none db [] = some out →
      operation.Quiet ∧ (next out.reply).Issues Op.Quiet) (alone : Alone db call s) :
      s.db = db := by
  have all : s.db = db ∧ ∃ thread, s.threads = [thread] ∧
      (thread.prog = S.program call ∧ thread.txn = none ∨ thread.prog.Issues Op.Quiet) := by
    induction alone with
    | start => exact ⟨rfl, _, rfl, .inl ⟨rfl, rfl⟩⟩
    | @run s s' fault _ step ih =>
      obtain ⟨same, thread, only, rest⟩ := ih
      obtain ⟨mover, operation, next, out, found, shape, performed, rfl⟩ := System.step_run step
      rw [only] at found
      obtain rfl := Option.some.inj found
      have idle : s.busy 0 = [] := by simp [System.busy, only]
      rw [idle, same] at performed
      rw [only, List.set_cons_zero]
      rcases rest with ⟨first, closed⟩ | past
      · rw [closed] at performed
        obtain ⟨silent, later⟩ := quiet operation next fault out (first.symm.trans shape) performed
        exact ⟨performOp_quiet silent performed, _, rfl, .inr later⟩
      · rw [shape] at past
        exact ⟨performOp_quiet past.1 performed, _, rfl, .inr (past.2 out.reply)⟩
    | crash _ step ih =>
      obtain ⟨same, thread, only, -⟩ := ih
      obtain ⟨mover, found, rfl⟩ := System.step_crash step
      rw [only, List.set_cons_zero]
      exact ⟨same, _, rfl, .inr trivial⟩
  exact all.1

theorem Alone.untouched {call : S.Call} {sql : S.Sql}
    {f : S.Answer sql → Prog S.toEngine S.Response}
    (program : S.program call = (Prog.query .pool sql).bind f) (reads : S.Reads sql)
    (quiet : ∀ effect, S.exec sql db [] = .ok effect → (f effect.answer).Issues Op.Quiet)
    (alone : Alone db call s) :
    s.db = db := by
  refine alone.quiet fun operation next fault out shape performed => ?_
  rw [program] at shape
  cases shape
  refine ⟨reads, ?_⟩
  change ((Prog.done out.reply).bind f).Issues Op.Quiet
  cases answered : out.reply with
  | error error => trivial
  | ok answer =>
    obtain ⟨effect, ran, rfl, -⟩ := performOp_answer performed answered
    exact quiet effect ran

theorem Alone.ended {call : S.Call} {final : Except S.Error S.Response}
    (program : S.program call = .done final) (alone : Alone db call s) : s.db = db ∧
      ∃ thread, s.threads = [thread] ∧
      (thread.result = some final ∨ thread.result = some (.error S.crashed)) := by
  induction alone with
  | start => exact ⟨rfl, _, rfl, .inl (Thread.result_eq_some.mpr program)⟩
  | @run s s' fault _ step ih =>
    obtain ⟨-, thread, only, ended⟩ := ih
    obtain ⟨mover, operation, next, out, found, shape, -, rfl⟩ := System.step_run step
    rw [only] at found
    obtain rfl := Option.some.inj found
    rcases ended with done | done <;> cases (Thread.result_eq_some.mp done).symm.trans shape
  | crash _ step ih =>
    obtain ⟨same, thread, only, -⟩ := ih
    obtain ⟨mover, found, rfl⟩ := System.step_crash step
    rw [only, List.set_cons_zero]
    exact ⟨same, _, rfl, .inr rfl⟩

/-- Wherever faults or a crash stop the call, the database is as it was or has all that the call
writes. -/
def Service.Indivisible (S : Service) (Whole : S.Call → S.Database → S.Database → Prop)
    (call : S.Call) (db : S.Database) : Prop :=
  ∀ s : System S, Alone db call s → s.db = db ∨ Whole call db s.db

/-- The database after calls that ran one after the other, each with any faults and stopped at
any point. -/
inductive Serial (scope : Scope S) : S.Database → Prop where
  | init : Serial scope scope.initial
  | call {db : S.Database} {call : S.Call} {s : System S} :
      Serial scope db → scope.starts call → Alone db call s → Serial scope s.db

def Service.serially (S : Service) (db : S.Database) : List S.Call → Option S.Database
  | [] => some db
  | call :: rest => (S.alone call db).bind fun answer => S.serially answer.2 rest

theorem Serial.of_calls {scope : Scope S} {later : S.Database} {calls : List S.Call}
    (serial : Serial scope db) (starts : ∀ call ∈ calls, scope.starts call)
    (ran : S.serially db calls = some later) : Serial scope later := by
  induction calls generalizing db with
  | nil =>
    obtain rfl := Option.some.inj ran
    exact serial
  | cons call rest ih =>
    obtain ⟨⟨result, next⟩, answered, ran⟩ := Option.bind_eq_some_iff.mp ran
    obtain ⟨s, _, alone, rfl, -⟩ := Service.alone_reached answered
    obtain ⟨first, others⟩ := List.forall_mem_cons.mp starts
    exact ih (serial.call first alone) others ran

end Transactional
