import PaymentLedger.Shared.Program
import Mathlib.Data.List.Basic

set_option autoImplicit false

-- Any number of calls are in progress at once and take their operations in any order.
-- An operation may fail, its answer may be lost, and a call may die at any point.

namespace Transactional

structure Service extends Engine where
  Call : Type
  Response : Type
  program : Call → Prog toEngine Response

variable {S : Service}

structure Performed (E : Engine) where
  operation : Op E
  reply : Except E.Error operation.Reply

structure Thread (S : Service) where
  call : S.Call
  prog : Prog S.toEngine S.Response
  txn : Option (Txn S.toEngine) := none
  history : List (Performed S.toEngine) := []

def Thread.held (thread : Thread S) : List (Lock S.Resource) := Transactional.held thread.txn

def Thread.resume (thread : Thread S) (operation : Op S.toEngine)
    (next : Except S.Error operation.Reply → Prog S.toEngine S.Response)
    (out : Outcome S.toEngine operation.Reply) : Thread S :=
  { thread with
    prog := next out.reply
    txn := out.txn
    history := thread.history ++ [⟨operation, out.reply⟩] }

def Thread.crash (thread : Thread S) : Thread S :=
  { thread with prog := .done (.error S.crashed), txn := none }

def Thread.result (thread : Thread S) : Option (Except S.Error S.Response) :=
  match thread.prog with
  | .done result => some result
  | .op _ _ => none

theorem Thread.result_eq_some {thread : Thread S} {result : Except S.Error S.Response} :
    thread.result = some result ↔ thread.prog = .done result := by
  unfold Thread.result
  split <;> simp [*]

structure System (S : Service) where
  db : S.Database
  threads : List (Thread S) := []
  sent : List S.Event := []

inductive Action (S : Service) where
  | start (call : S.Call)
  | run (index : Nat) (fault : Fault)
  | crash (index : Nat)

def System.busy (s : System S) (index : Nat) : List (Lock S.Resource) :=
  (s.threads.eraseIdx index).flatMap Thread.held

def System.step (s : System S) : Action S → Option (System S)
  | .start call =>
    some { s with threads := s.threads ++ [{ call, prog := S.program call }] }
  | .run index fault =>
    match s.threads[index]? with
    | none => none
    | some thread =>
      match thread.prog with
      | .done _ => none
      | .op operation next =>
        (performOp operation fault thread.txn s.db (s.busy index)).map fun out =>
          { db := out.db
            threads := s.threads.set index (thread.resume operation next out)
            sent := s.sent ++ out.sent }
  | .crash index =>
    match s.threads[index]? with
    | none => none
    | some thread => some { s with threads := s.threads.set index thread.crash }

/-- `check` is asked of the operations, with the databases before and after. -/
def System.allows (check : S.Call → S.Database → S.Database → Bool) (s : System S)
    (action : Action S) (s' : System S) : Bool :=
  match action with
  | .run index _ => s.threads[index]?.all fun thread => check thread.call s.db s'.db
  | _ => true

/-- The state after a schedule, if no operation in it waits and `check` holds of each. -/
def System.runWithin (check : S.Call → S.Database → S.Database → Bool) (s : System S) :
    List (Action S) → Option (System S)
  | [] => some s
  | action :: rest =>
    (s.step action).bind fun next =>
      if s.allows check action next then next.runWithin check rest else none

abbrev System.run (s : System S) (actions : List (Action S)) : Option (System S) :=
  s.runWithin (fun _ _ _ => true) actions

@[simp] theorem System.allows_true (s s' : System S) (action : Action S) :
    s.allows (fun _ _ _ => true) action s' = true := by
  cases action with
  | run index fault => cases found : s.threads[index]? <;> simp [allows, found]
  | start call | crash index => rfl

def runs (index count : Nat) : List (Action S) := List.replicate count (.run index .none)

def calls (actions : List (Action S)) : List S.Call :=
  actions.filterMap fun action =>
    match action with
    | .start call => some call
    | _ => none

/-- The runs a result is about: `starts` restricts the calls, `admits` the states in
which a call changes the committed database. -/
structure Scope (S : Service) where
  initial : S.Database
  starts : S.Call → Prop := fun _ => True
  admits : S.Call → S.Database → Prop := fun _ _ => True

def Scope.Permits (scope : Scope S) (s : System S) (action : Action S) (s' : System S) : Prop :=
  match action with
  | .start call => scope.starts call
  | .run index _ =>
    ∀ thread, s.threads[index]? = some thread → s'.db ≠ s.db → scope.admits thread.call s.db
  | .crash _ => True

inductive Reachable (scope : Scope S) : System S → Prop where
  | init : Reachable scope { db := scope.initial }
  | step {s s' : System S} (action : Action S) :
      Reachable scope s → scope.Permits s action s' → s.step action = some s' → Reachable scope s'

theorem System.step_start {s s' : System S} {call : S.Call}
    (step : s.step (.start call) = some s') :
    s' = { s with threads := s.threads ++ [{ call, prog := S.program call }] } :=
  (Option.some.inj step).symm

theorem System.step_run {s s' : System S} {index : Nat} {fault : Fault}
    (step : s.step (.run index fault) = some s') :
    ∃ thread operation next out, s.threads[index]? = some thread ∧
      thread.prog = .op operation next ∧
      performOp operation fault thread.txn s.db (s.busy index) = some out ∧
      s' = { db := out.db
             threads := s.threads.set index (thread.resume operation next out)
             sent := s.sent ++ out.sent } := by
  simp only [System.step] at step
  split at step
  · simp at step
  · rename_i thread present
    split at step
    · simp at step
    · rename_i operation next same
      obtain ⟨out, performed, rfl⟩ := Option.map_eq_some_iff.mp step
      exact ⟨thread, operation, next, out, present, same, performed, rfl⟩

theorem System.step_crash {s s' : System S} {index : Nat} (step : s.step (.crash index) = some s') :
    ∃ thread, s.threads[index]? = some thread ∧
      s' = { s with threads := s.threads.set index thread.crash } := by
  simp only [System.step] at step
  split at step
  · simp at step
  · rename_i thread present
    exact ⟨thread, present, (Option.some.inj step).symm⟩

theorem System.mem_busy {s : System S} {index : Nat} {lock : Lock S.Resource} :
    lock ∈ s.busy index ↔
      ∃ other thread, other ≠ index ∧ s.threads[other]? = some thread ∧ lock ∈ thread.held := by
  simp only [System.busy, List.mem_flatMap, List.mem_eraseIdx_iff_getElem?]
  constructor
  · rintro ⟨thread, ⟨other, different, present⟩, member⟩
    exact ⟨other, thread, different, present, member⟩
  · rintro ⟨other, thread, different, present, member⟩
    exact ⟨thread, ⟨other, different, present⟩, member⟩

theorem System.step_calls {s s' : System S} {action : Action S} (step : s.step action = some s')
    {index : Nat} {thread : Thread S} (present : s.threads[index]? = some thread) :
    ∃ later, s'.threads[index]? = some later ∧ later.call = thread.call := by
  cases action with
  | start call =>
    obtain rfl := System.step_start step
    have bound := (List.getElem?_eq_some_iff.mp present).1
    exact ⟨thread, by simpa [List.getElem?_append_left bound] using present, rfl⟩
  | run chosen fault =>
    obtain ⟨mover, operation, next, out, found, -, -, rfl⟩ := System.step_run step
    by_cases same : chosen = index
    · subst same
      obtain rfl := Option.some.inj (found.symm.trans present)
      have bound := (List.getElem?_eq_some_iff.mp present).1
      exact ⟨_, List.getElem?_set_self bound, rfl⟩
    · exact ⟨thread, by simpa [List.getElem?_set_ne same] using present, rfl⟩
  | crash chosen =>
    obtain ⟨mover, found, rfl⟩ := System.step_crash step
    by_cases same : chosen = index
    · subst same
      obtain rfl := Option.some.inj (found.symm.trans present)
      have bound := (List.getElem?_eq_some_iff.mp present).1
      exact ⟨_, List.getElem?_set_self bound, rfl⟩
    · exact ⟨thread, by simpa [List.getElem?_set_ne same] using present, rfl⟩

theorem Reachable.of_run {scope : Scope S} {check : S.Call → S.Database → S.Database → Bool} {s s' : System S}
    {actions : List (Action S)} (start : Reachable scope s)
    (run : s.runWithin check actions = some s') (starts : ∀ call ∈ calls actions, scope.starts call)
    (admits : ∀ call db, (∃ db', check call db db' = true ∧ db' ≠ db) → scope.admits call db) : Reachable scope s' := by
  induction actions generalizing s with
  | nil =>
    obtain rfl := Option.some.inj run
    exact start
  | cons action rest ih =>
    simp only [System.runWithin, Option.bind_eq_some_iff, Option.ite_none_right_eq_some] at run
    obtain ⟨middle, first, checked, later⟩ := run
    have rest_ : ∀ call ∈ calls rest, scope.starts call := by
      intro call member
      apply starts
      cases action <;> simp_all [calls]
    refine ih (.step action start ?_ first) later rest_
    cases action with
    | start call => exact starts call (by simp [calls])
    | run index fault =>
      intro thread present differs
      simp only [System.allows, present, Option.all_some] at checked
      exact admits thread.call s.db ⟨middle.db, checked, differs⟩
    | crash index => trivial

theorem System.step_starts {s s' : System S} {action : Action S} (step : s.step action = some s') :
    s'.threads.map Thread.call = s.threads.map Thread.call ++ calls [action] := by
  have kept {index : Nat} {thread later : Thread S} (present : s.threads[index]? = some thread)
      (same : later.call = thread.call) :
      (s.threads.set index later).map Thread.call = s.threads.map Thread.call := by
    rw [List.map_set, same]
    obtain ⟨bound, rfl⟩ := List.getElem?_eq_some_iff.mp present
    rw [← List.getElem_map (f := Thread.call) (h := by simpa using bound), List.set_getElem_self]
  cases action with
  | start call =>
    obtain rfl := System.step_start step
    simp [calls]
  | run index fault =>
    obtain ⟨thread, operation, next, out, present, -, -, rfl⟩ := System.step_run step
    simpa [calls] using @kept index thread (thread.resume operation next out) present rfl
  | crash index =>
    obtain ⟨thread, present, rfl⟩ := System.step_crash step
    simpa [calls] using @kept index thread thread.crash present rfl

theorem System.runWithin_starts {check : S.Call → S.Database → S.Database → Bool} {s s' : System S}
    {actions : List (Action S)} (run : s.runWithin check actions = some s') :
    s'.threads.map Thread.call = s.threads.map Thread.call ++ calls actions := by
  induction actions generalizing s with
  | nil =>
    obtain rfl := Option.some.inj run
    simp [calls]
  | cons action rest ih =>
    simp only [System.runWithin, Option.bind_eq_some_iff, Option.ite_none_right_eq_some] at run
    obtain ⟨middle, first, -, later⟩ := run
    have split_ : calls (action :: rest) = calls [action] ++ calls rest := by
      rw [calls, ← List.singleton_append, List.filterMap_append]
      rfl
    rw [ih later, System.step_starts first, split_, List.append_assoc]

theorem Reachable.of_evaluation {scope : Scope S} {check : S.Call → S.Database → S.Database → Bool}
    {actions : List (Action S)} {α : Type} {observe : System S → α} {value : α}
    (evaluated : (System.runWithin check { db := scope.initial } actions).map observe = some value)
    (starts : ∀ call ∈ calls actions, scope.starts call)
    (admits : ∀ call db, (∃ db', check call db db' = true ∧ db' ≠ db) → scope.admits call db) :
    ∃ s, Reachable scope s ∧ observe s = value ∧ s.threads.map Thread.call = calls actions := by
  obtain ⟨s, run, observed⟩ := Option.map_eq_some_iff.mp evaluated
  exact ⟨s, .of_run .init run starts admits, observed, System.runWithin_starts run⟩

end Transactional
