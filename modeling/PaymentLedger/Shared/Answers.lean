import PaymentLedger.Shared.RelyGuarantee

set_option autoImplicit false

-- What a call knows of the database limits the answers it can get. `Under A Q` says that a
-- program ends in `Q` as long as every answer is one that `A` allows.

namespace Transactional

theorem performOp_raises {E : Engine} {R : E.Error → Prop} (disconnected : R E.disconnected)
    (aborted : R E.aborted)
    (raises : ∀ sql db busy error, E.exec sql db busy = .error error → R error) {operation : Op E}
    {fault : Fault} {txn : Option (Txn E)} {db : E.Database} {busy : List (Lock E.Resource)}
    {out : Outcome E operation.Reply} (performed : performOp operation fault txn db busy = some out)
    {error : E.Error} (failed : out.reply = .error error) : R error := by
  have gone {α : Type} (fault : Fault) (answer : α)
      (failed : fault.reply (E := E) answer = .error error) :
      R error := by
    unfold Fault.reply at failed
    split at failed
    · exact Except.error.inj failed ▸ disconnected
    · cases failed
  cases operation with
  | query executor sql =>
    have auto {fault : Fault} {txn : Option (Txn E)} {out : Outcome E (E.Answer sql)}
        (ran : autocommit sql fault txn db busy = some out) (failed : out.reply = .error error) :
        R error := by
      rcases autocommit_cases ran with ⟨cause, raised, rfl⟩ | ⟨effect, -, -, rfl⟩
      · obtain rfl := Except.error.inj failed
        exact raises sql db busy cause raised
      · exact gone _ _ failed
    cases executor <;> cases fault <;> simp only [performOp] at performed
    case pool.none | pool.lost => exact auto performed failed
    case pool.failed | client.failed =>
      obtain rfl := Option.some.inj performed
      exact Except.error.inj failed ▸ disconnected
    all_goals
      cases txn with
      | none => exact auto performed failed
      | some txn =>
        rcases inTransaction_cases performed with ⟨-, rfl⟩ | ⟨cause, -, raised, rfl⟩ |
          ⟨effect, -, -, -, rfl⟩
        · exact Except.error.inj failed ▸ aborted
        · obtain rfl := Except.error.inj failed
          exact raises sql _ busy cause raised
        · cases failed
  | begin | rollback =>
    cases fault <;> obtain rfl := Option.some.inj performed
    case none => cases failed
    all_goals exact Except.error.inj failed ▸ disconnected
  | commit | emit event =>
    cases fault <;> obtain rfl := Option.some.inj performed
    case failed => exact Except.error.inj failed ▸ disconnected
    case none => exact gone .none () failed
    case lost => exact gone .lost () failed

namespace Prog

variable {E : Engine} {α β : Type} {A : Performed E → Prop}

def Under (A : Performed E → Prop) (Q : Except E.Error α → Prop) : Prog E α → Prop
  | .done result => Q result
  | .op operation next => ∀ reply, A ⟨operation, reply⟩ → (next reply).Under A Q

theorem under_bind {R : Except E.Error α → Prop} {Q : Except E.Error β → Prop} {program : Prog E α}
    {f : α → Prog E β} (first : program.Under A R)
    (rest : ∀ value, R (.ok value) → (f value).Under A Q)
    (raise : ∀ error, R (.error error) → Q (.error error)) : (program.bind f).Under A Q := by
  induction program with
  | done result =>
    cases result with
    | ok value => exact rest value first
    | error error => exact raise error first
  | op operation next ih => exact fun reply allowed => ih reply (first reply allowed)

theorem under_tryCatch {R Q : Except E.Error α → Prop} {program : Prog E α}
    {handler : E.Error → Prog E α} (body : program.Under A R)
    (value : ∀ value, R (.ok value) → Q (.ok value))
    (handle : ∀ error, R (.error error) → (handler error).Under A Q) :
    (program.tryCatch handler).Under A Q := by
  induction program with
  | done result =>
    cases result with
    | ok result => exact value result body
    | error error => exact handle error body
  | op operation next ih => exact fun reply allowed => ih reply (body reply allowed)

theorem under_perform {Q : Except E.Error β → Prop} {operation : Op E}
    {f : operation.Reply → Prog E β}
    (raise : ∀ error, A ⟨operation, .error error⟩ → Q (.error error))
    (rest : ∀ answer, A ⟨operation, .ok answer⟩ → (f answer).Under A Q) :
    ((perform operation).bind f).Under A Q := by
  intro reply allowed
  cases reply with
  | error error => exact raise error allowed
  | ok answer => exact rest answer allowed

theorem Under.imp {Q R : Except E.Error α → Prop} {program : Prog E α} (under : program.Under A Q)
    (weaker : ∀ result, Q result → R result) : program.Under A R := by
  induction program with
  | done result => exact weaker result under
  | op operation next ih => exact fun reply allowed => ih reply (under reply allowed)

theorem under_always {Q : Except E.Error α → Prop} (program : Prog E α)
    (always : ∀ result, Q result) :
    program.Under A Q := by
  induction program with
  | done result => exact always result
  | op operation next ih => exact fun reply _ => ih reply

def Fails (R : E.Error → Prop) (result : Except E.Error α) : Prop :=
  ∀ error, result = .error error → R error

section Fails

variable {R : E.Error → Prop}

theorem fails_ok (value : α) : Fails R (.ok value) := by
  intro error same
  cases same

theorem fails_error {error : E.Error} (within : R error) :
    Fails R (.error error : Except E.Error α) := by
  intro other same
  exact Except.error.inj same ▸ within

theorem Fails.within {error : E.Error} (fails : Fails R (.error error : Except E.Error α)) :
    R error := fails error rfl

theorem fails_bind {first : Prog E α} {f : α → Prog E β} (body : first.Under A (Fails R))
    (rest : ∀ value, (f value).Under A (Fails R)) : (first.bind f).Under A (Fails R) :=
  under_bind body (fun value _ => rest value) fun _ raised => fails_error raised.within

theorem fails_perform {operation : Op E} (raises : ∀ error, A ⟨operation, .error error⟩ → R error) :
    (perform operation).Under A (Fails R) := by
  intro reply allowed
  cases reply with
  | error error => exact fails_error (raises error allowed)
  | ok answer => exact fails_ok answer

theorem fails_forEach {items : List β} {body : β → Prog E Unit}
    (each : ∀ item, (body item).Under A (Fails R)) :
    (forEach items body).Under A (Fails R) := by
  induction items with
  | nil => exact fails_ok ()
  | cons item rest ih => exact fails_bind (each item) fun _ => ih

theorem fails_check {passes : Bool} {error : E.Error} (within : R error) :
    (check passes error).Under A (Fails R) := by
  unfold check
  split
  · exact fails_ok ()
  · exact fails_error within

theorem fails_mapError {D : Type} {raise : D → E.Error} {result : Except D α}
    (within : ∀ cause, R (raise cause)) :
    (ofExcept (result.mapError raise)).Under A (Fails R) := by
  cases result with
  | ok value => exact fails_ok value
  | error cause => exact fails_error (within cause)

theorem fails_protect {body : Prog E α} (fails : body.Under A (Fails R))
    (rolls : ∀ error, A ⟨.rollback, .error error⟩ → R error) : body.protect.Under A (Fails R) := by
  refine under_tryCatch fails (fun value _ => fails_ok value) fun error raised => ?_
  exact fails_bind (fails_perform rolls) fun _ => fails_error raised.within

end Fails

end Prog

/-- What a call may know from its start on, the answers it then gets, and the results these
leave. -/
structure Knowledge (S : Service) where
  Knows : S.Call → S.Database → Prop
  Allows : S.Call → Performed S.toEngine → Prop
  Ends : S.Call → Except S.Error S.Response → Prop
  answers : ∀ {call : S.Call} {operation : Op S.toEngine} {fault : Fault} {txn : Option (Txn S.toEngine)}
    {db : S.Database} {busy : List (Lock S.Resource)} {out : Outcome S.toEngine operation.Reply},
    Knows call db →
    performOp operation fault txn db busy = some out → Allows call ⟨operation, out.reply⟩
  programs : ∀ call, (S.program call).Under (Allows call) (Ends call)
  crashed : ∀ call, Ends call (.error S.crashed)

variable {S : Service}

/-- Every call in progress or finished has the knowledge, and has a program left that ends as it
should. -/
def Knowledge.Informs (knowledge : Knowledge S) (s : System S) : Prop :=
  ∀ (index : Nat) (thread : Thread S), s.threads[index]? = some thread →
    knowledge.Knows thread.call s.db ∧
    thread.prog.Under (knowledge.Allows thread.call) (knowledge.Ends thread.call)

variable {knowledge : Knowledge S} {s s' : System S} {action : Action S}

theorem Knowledge.Informs.init {db : S.Database} : knowledge.Informs { db } := by
  intro index thread present
  simp at present

theorem Knowledge.Informs.step (informs : knowledge.Informs s) (step : s.step action = some s')
    (starts : ∀ call, action = .start call → knowledge.Knows call s.db)
    (kept : ∀ call, knowledge.Knows call s.db → knowledge.Knows call s'.db) :
    knowledge.Informs s' := by
  intro index thread present
  cases action with
  | start call =>
    obtain rfl := System.step_start step
    rw [List.getElem?_append] at present
    split at present
    · exact informs index thread present
    · obtain rfl := List.mem_singleton.mp (List.mem_of_getElem? present)
      exact ⟨starts call rfl, knowledge.programs call⟩
  | run chosen fault =>
    obtain ⟨mover, operation, next, out, found, shape, performed, rfl⟩ := System.step_run step
    rcases getElem?_set_cases present with ⟨-, rfl⟩ | ⟨-, old⟩
    · obtain ⟨knows, left⟩ := informs chosen mover found
      rw [shape] at left
      exact ⟨kept _ knows, left out.reply (knowledge.answers knows performed)⟩
    · obtain ⟨knows, left⟩ := informs index thread old
      exact ⟨kept _ knows, left⟩
  | crash chosen =>
    obtain ⟨mover, found, rfl⟩ := System.step_crash step
    rcases getElem?_set_cases present with ⟨-, rfl⟩ | ⟨-, old⟩
    · exact ⟨(informs chosen mover found).1, knowledge.crashed _⟩
    · exact informs index thread old

theorem Knowledge.Informs.ends (informs : knowledge.Informs s) {index : Nat} {thread : Thread S}
    (present : s.threads[index]? = some thread) {result : Except S.Error S.Response}
    (done : thread.result = some result) : knowledge.Ends thread.call result := by
  have left := (informs index thread present).2
  rw [Thread.result_eq_some.mp done] at left
  exact left

end Transactional
