import PaymentLedger.Shared.Issues

set_option autoImplicit false

-- A monitor watches the operations of one session and the answers to them. A program is
-- `Watched` when it never asks for what the monitor forbids, whatever is answered.

namespace Transactional

structure Monitor (E : Engine) where
  State : Type
  start : State
  admits : State → Op E → Prop
  next : State → Performed E → State

variable {E : Engine} {α β : Type}

def Monitor.after (monitor : Monitor E) (history : List (Performed E)) : monitor.State :=
  history.foldl monitor.next monitor.start

theorem Monitor.after_concat (monitor : Monitor E) (history : List (Performed E))
    (performed : Performed E) :
    monitor.after (history ++ [performed]) = monitor.next (monitor.after history) performed := by
  simp [Monitor.after, List.foldl_append]

namespace Prog

variable {monitor : Monitor E}

/-- `Q` holds of the result and of the state that the monitor ends in. -/
def Watched (monitor : Monitor E) (Q : Except E.Error α → monitor.State → Prop) : monitor.State →
    Prog E α → Prop
  | state, .done result => Q result state
  | state, .op operation next =>
    monitor.admits state operation ∧
      ∀ reply, Watched monitor Q (monitor.next state ⟨operation, reply⟩) (next reply)

variable {Q : Except E.Error α → monitor.State → Prop} {state : monitor.State} {program : Prog E α}

theorem Watched.imp {R : Except E.Error α → monitor.State → Prop}
    (watched : program.Watched monitor Q state)
    (weaker : ∀ result state, Q result state → R result state) :
    program.Watched monitor R state := by
  induction program generalizing state with
  | done result => exact weaker result state watched
  | op operation next ih => exact ⟨watched.1, fun reply => ih reply (watched.2 reply)⟩

theorem watched_bind {R : Except E.Error β → monitor.State → Prop} {f : α → Prog E β}
    (first : program.Watched monitor Q state)
    (rest : ∀ value state, Q (.ok value) state → (f value).Watched monitor R state)
    (raise : ∀ error state, Q (.error error) state → R (.error error) state) :
    (program.bind f).Watched monitor R state := by
  induction program generalizing state with
  | done result =>
    cases result with
    | ok value => exact rest value state first
    | error error => exact raise error state first
  | op operation next ih => exact ⟨first.1, fun reply => ih reply (first.2 reply)⟩

theorem watched_tryCatch {R : Except E.Error α → monitor.State → Prop}
    {handler : E.Error → Prog E α} (body : program.Watched monitor Q state)
    (value : ∀ value state, Q (.ok value) state → R (.ok value) state)
    (handle : ∀ error state, Q (.error error) state → (handler error).Watched monitor R state) :
    (program.tryCatch handler).Watched monitor R state := by
  induction program generalizing state with
  | done result =>
    cases result with
    | ok result => exact value result state body
    | error error => exact handle error state body
  | op operation next ih => exact ⟨body.1, fun reply => ih reply (body.2 reply)⟩

theorem watched_perform {operation : Op E} {f : operation.Reply → Prog E α}
    (admitted : monitor.admits state operation)
    (raise : ∀ error, Q (.error error) (monitor.next state ⟨operation, .error error⟩))
    (rest : ∀ answer, (f answer).Watched monitor Q (monitor.next state ⟨operation, .ok answer⟩)) :
    ((perform operation).bind f).Watched monitor Q state := by
  refine ⟨admitted, ?_⟩
  intro reply
  cases reply with
  | error error => exact raise error
  | ok answer => exact rest answer

def Steady (monitor : Monitor E) (state : monitor.State) (operation : Op E) : Prop :=
  monitor.admits state operation ∧ ∀ reply, monitor.next state ⟨operation, reply⟩ = state

theorem watched_of_steady (steady : program.Issues (Steady monitor state)) :
    program.Watched monitor (fun _ after => after = state) state := by
  induction program with
  | done result => rfl
  | op operation next ih =>
    refine ⟨steady.1.1, ?_⟩
    intro reply
    rw [steady.1.2 reply]
    exact ih reply (steady.2 reply)

theorem watched_steady {R : Except E.Error β → monitor.State → Prop} {f : α → Prog E β}
    (steady : program.Issues (Steady monitor state)) (raise : ∀ error, R (.error error) state)
    (rest : ∀ value, (f value).Watched monitor R state) :
    (program.bind f).Watched monitor R state := by
  refine watched_bind (watched_of_steady steady) ?_ ?_
  · rintro value after rfl
    exact rest value
  · rintro error after rfl
    exact raise error

end Prog

variable {S : Service} {scope : Scope S} {s : System S}

theorem Reachable.watched {monitor : Monitor S.toEngine}
    {Q : S.Call → Except S.Error S.Response → monitor.State → Prop}
    (programs : ∀ call, scope.starts call → (S.program call).Watched monitor (Q call) monitor.start)
    (crashed : ∀ call state, Q call (.error S.crashed) state) (reachable : Reachable scope s) :
    ∀ (index : Nat) (thread : Thread S), s.threads[index]? = some thread →
      thread.prog.Watched monitor (Q thread.call) (monitor.after thread.history) := by
  induction reachable with
  | init =>
    intro index thread present
    cases present
  | @step s s' action before permits step ih =>
    intro index thread present
    cases action with
    | start call =>
      obtain rfl := System.step_start step
      rw [List.getElem?_append] at present
      split at present
      · exact ih index thread present
      · obtain rfl := List.mem_singleton.mp (List.mem_of_getElem? present)
        exact programs call permits
    | run chosen fault =>
      obtain ⟨mover, operation, next, out, found, shape, -, rfl⟩ := System.step_run step
      rcases getElem?_set_cases present with ⟨-, rfl⟩ | ⟨-, old⟩
      · have watched := ih chosen mover found
        rw [shape] at watched
        have later := watched.2 out.reply
        rw [← Monitor.after_concat] at later
        exact later
      · exact ih index thread old
    | crash chosen =>
      obtain ⟨mover, found, rfl⟩ := System.step_crash step
      rcases getElem?_set_cases present with ⟨-, rfl⟩ | ⟨-, old⟩
      · exact crashed _ _
      · exact ih index thread old

end Transactional
