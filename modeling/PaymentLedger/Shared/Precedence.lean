import PaymentLedger.Shared.RelyGuarantee

set_option autoImplicit false

-- `Traced P Q history` follows a program with every answer that some database gives: `P`
-- holds of what was done before each operation, and `Q` of what was done by the end.

namespace Transactional

variable {E : Engine} {α β : Type}

/-- Some state of the database gives this answer. -/
def Op.Possible (operation : Op E) (reply : Except E.Error operation.Reply) : Prop :=
  match operation, reply with
  | .query _ sql, .ok answer =>
    ∃ db busy effect, E.exec sql db busy = .ok effect ∧ effect.answer = answer
  | _, _ => True

theorem performOp_possible {operation : Op E} {fault : Fault} {txn : Option (Txn E)}
    {db : E.Database} {busy : List (Lock E.Resource)} {out : Outcome E operation.Reply}
    (performed : performOp operation fault txn db busy = some out) :
    operation.Possible out.reply := by
  cases operation with
  | query executor sql =>
    cases answered : out.reply with
    | error error => trivial
    | ok answer =>
      have auto {fault : Fault} {txn : Option (Txn E)} {out : Outcome E (E.Answer sql)}
          (ran : autocommit sql fault txn db busy = some out) (answered : out.reply = .ok answer) :
          ∃ db busy effect, E.exec sql db busy = .ok effect ∧ effect.answer = answer := by
        rcases autocommit_cases ran with ⟨error, -, rfl⟩ | ⟨effect, executed, -, rfl⟩
        · cases answered
        · refine ⟨db, busy, effect, executed, ?_⟩
          simp only [Fault.reply] at answered
          split at answered
          · cases answered
          · exact Except.ok.inj answered
      cases executor <;> cases fault <;> simp only [performOp] at performed
      case pool.none | pool.lost => exact auto performed answered
      case pool.failed | client.failed =>
        obtain rfl := Option.some.inj performed
        cases answered
      all_goals
        cases txn with
        | none => exact auto performed answered
        | some txn =>
          rcases inTransaction_cases performed with ⟨-, rfl⟩ | ⟨error, -, -, rfl⟩ |
            ⟨effect, -, ran, -, rfl⟩
          · cases answered
          · cases answered
          · exact ⟨_, busy, effect, ran, Except.ok.inj answered⟩
  | begin | commit | rollback | emit event => trivial

theorem performOp_answer {sql : E.Sql} {fault : Fault} {txn : Option (Txn E)} {db : E.Database}
    {busy : List (Lock E.Resource)} {out : Outcome E (E.Answer sql)} {answer : E.Answer sql}
    (performed : performOp (.query .pool sql) fault txn db busy = some out)
    (answered : out.reply = .ok answer) :
    ∃ effect, E.exec sql db busy = .ok effect ∧ effect.answer = answer ∧
      out.db = effect.writes.foldl E.apply db := by
  cases fault <;> simp only [performOp] at performed
  case failed =>
    obtain rfl := Option.some.inj performed
    cases answered
  all_goals
    rcases autocommit_cases performed with ⟨error, -, rfl⟩ | ⟨effect, executed, -, rfl⟩
    · cases answered
    · refine ⟨effect, executed, ?_, rfl⟩
      simp only [Fault.reply] at answered
      split at answered
      · cases answered
      · exact Except.ok.inj answered

namespace Prog

variable {P : List (Performed E) → Op E → Prop}

def Traced (P : List (Performed E) → Op E → Prop)
    (Q : Except E.Error α → List (Performed E) → Prop) :
    List (Performed E) → Prog E α → Prop
  | history, .done result => Q result history
  | history, .op operation next => P history operation ∧
    ∀ reply, operation.Possible reply → Traced P Q (history ++ [⟨operation, reply⟩]) (next reply)

theorem traced_bind {R : Except E.Error α → List (Performed E) → Prop}
    {Q : Except E.Error β → List (Performed E) → Prop} {program : Prog E α} {f : α → Prog E β}
    {history : List (Performed E)} (first : program.Traced P R history)
    (rest : ∀ value history, R (.ok value) history → (f value).Traced P Q history)
    (raise : ∀ error history, R (.error error) history → Q (.error error) history) :
    (program.bind f).Traced P Q history := by
  induction program generalizing history with
  | done result =>
    cases result with
    | ok value => exact rest value history first
    | error error => exact raise error history first
  | op operation next ih => exact ⟨first.1, fun reply possible => ih reply (first.2 reply possible)⟩

theorem traced_tryCatch {R Q : Except E.Error α → List (Performed E) → Prop} {program : Prog E α}
    {handler : E.Error → Prog E α} {history : List (Performed E)}
    (body : program.Traced P R history)
    (value : ∀ value history, R (.ok value) history → Q (.ok value) history)
    (handle : ∀ error history, R (.error error) history → (handler error).Traced P Q history) :
    (program.tryCatch handler).Traced P Q history := by
  induction program generalizing history with
  | done result =>
    cases result with
    | ok result => exact value result history body
    | error error => exact handle error history body
  | op operation next ih => exact ⟨body.1, fun reply possible => ih reply (body.2 reply possible)⟩

theorem traced_query {Q : Except E.Error β → List (Performed E) → Prop} {executor : Executor}
    {sql : E.Sql} {f : E.Answer sql → Prog E β} {history : List (Performed E)}
    (before : P history (.query executor sql)) (raise : ∀ error history, Q (.error error) history)
    (rest : ∀ db busy effect history, E.exec sql db busy = .ok effect →
      (f effect.answer).Traced P Q history) :
    ((query executor sql).bind f).Traced P Q history := by
  refine ⟨before, ?_⟩
  intro reply possible
  cases reply with
  | error error => exact raise error _
  | ok answer =>
    obtain ⟨db, busy, effect, ran, rfl⟩ := possible
    exact rest db busy effect _ ran

theorem Traced.imp {Q R : Except E.Error α → List (Performed E) → Prop} {program : Prog E α}
    {history : List (Performed E)} (traced : program.Traced P Q history)
    (weaker : ∀ result history, Q result history → R result history) :
    program.Traced P R history := by
  induction program generalizing history with
  | done result => exact weaker result history traced
  | op operation next ih =>
    exact ⟨traced.1, fun reply possible => ih reply (traced.2 reply possible)⟩

theorem traced_trivial (program : Prog E α) (history : List (Performed E)) :
    program.Traced (fun _ _ => True) (fun _ _ => True) history := by
  induction program generalizing history with
  | done result => trivial
  | op operation next ih => exact ⟨trivial, fun reply _ => ih reply _⟩

theorem traced_perform {Q : Except E.Error β → List (Performed E) → Prop} {operation : Op E}
    {f : operation.Reply → Prog E β} {history : List (Performed E)} (before : P history operation)
    (raise : ∀ error, Q (.error error) (history ++ [⟨operation, .error error⟩]))
    (rest : ∀ answer, (f answer).Traced P Q (history ++ [⟨operation, .ok answer⟩])) :
    ((perform operation).bind f).Traced P Q history := by
  refine ⟨before, ?_⟩
  intro reply _
  cases reply with
  | error error => exact raise error
  | ok answer => exact rest answer

end Prog

variable {S : Service} {scope : Scope S} {s : System S}

/-- Where a list that is longer by one can be split: at its last entry, or before it. -/
theorem split_last {T : Type} {items before after : List T} {last item : T}
    (same : items ++ [last] = before ++ item :: after) :
    (item = last ∧ before = items) ∨ ∃ tail, items = before ++ item :: tail := by
  rcases List.append_eq_append_iff.mp same with ⟨more, rfl, rest⟩ | ⟨more, old, rest⟩
  · cases more with
    | nil => exact .inl ⟨(List.cons.inj rest).1.symm, List.append_nil _⟩
    | cons head tail => simp at rest
  · cases more with
    | nil => exact .inl ⟨(List.cons.inj rest).1, by simpa using old.symm⟩
    | cons head tail =>
      obtain ⟨rfl, -⟩ := List.cons.inj rest
      exact .inr ⟨tail, old⟩

theorem Reachable.tracing {P : S.Call → List (Performed S.toEngine) → Op S.toEngine → Prop}
    {Q : S.Call → Except S.Error S.Response → List (Performed S.toEngine) → Prop}
    (programs : ∀ call, scope.starts call → (S.program call).Traced (P call) (Q call) [])
    (crashed : ∀ call history, Q call (.error S.crashed) history) (reachable : Reachable scope s) :
    ∀ (index : Nat) (thread : Thread S), s.threads[index]? = some thread →
      thread.prog.Traced (P thread.call) (Q thread.call) thread.history ∧
        ∀ before performed after, thread.history = before ++ performed :: after →
          P thread.call before performed.operation := by
  induction reachable with
  | init =>
    intro index thread present
    simp at present
  | @step s s' action before permits step ih =>
    intro index thread present
    cases action with
    | start call =>
      obtain rfl := System.step_start step
      rw [List.getElem?_append] at present
      split at present
      · exact ih index thread present
      · obtain rfl := List.mem_singleton.mp (List.mem_of_getElem? present)
        refine ⟨programs call permits, ?_⟩
        intro before performed after split_
        simp at split_
    | run chosen fault =>
      obtain ⟨mover, operation, next, out, found, shape, performed, rfl⟩ := System.step_run step
      rcases getElem?_set_cases present with ⟨-, rfl⟩ | ⟨-, old⟩
      · obtain ⟨left, past⟩ := ih chosen mover found
        rw [shape] at left
        refine ⟨left.2 out.reply (performOp_possible performed), ?_⟩
        intro before entry after split_
        rcases split_last split_ with ⟨rfl, rfl⟩ | ⟨tail, old⟩
        · exact left.1
        · exact past before entry tail old
      · exact ih index thread old
    | crash chosen =>
      obtain ⟨mover, found, rfl⟩ := System.step_crash step
      rcases getElem?_set_cases present with ⟨-, rfl⟩ | ⟨-, old⟩
      · exact ⟨crashed _ _, (ih chosen mover found).2⟩
      · exact ih index thread old

/-- Every operation of a call came after what `P` asks for. -/
theorem Reachable.traced {P : S.Call → List (Performed S.toEngine) → Op S.toEngine → Prop}
    (programs : ∀ call, scope.starts call → (S.program call).Traced (P call) (fun _ _ => True) [])
    (reachable : Reachable scope s) {index : Nat} {thread : Thread S}
    (present : s.threads[index]? = some thread) :
    ∀ before performed after, thread.history = before ++ performed :: after →
      P thread.call before performed.operation :=
  (reachable.tracing (Q := fun _ _ _ => True) programs (fun _ _ => trivial) index thread present).2

/-- The answer came from a database of which the answers before it still told the truth. -/
def Recalled (F : Performed E → E.Database → Prop) (history : List (Performed E)) : Prop :=
  ∀ before performed after, history = before ++ performed :: after →
    ∃ db fault txn busy out, (∀ earlier ∈ before, F earlier db) ∧
      performOp performed.operation fault txn db busy = some out ∧ performed.reply = out.reply

/-- Facts that answers establish and that no step undoes. -/
theorem Reachable.recalled {F : Performed S.toEngine → S.Database → Prop}
    (learned : ∀ s, Reachable scope s → ∀ operation fault txn busy out,
      performOp operation fault txn s.db busy = some out → F ⟨operation, out.reply⟩ out.db)
    (stable : ∀ s action s', Reachable scope s → scope.Permits s action s' →
      s.step action = some s' →
      ∀ performed, F performed s.db → F performed s'.db) (reachable : Reachable scope s) :
    ∀ (index : Nat) (thread : Thread S), s.threads[index]? = some thread →
      (∀ performed ∈ thread.history, F performed s.db) ∧ Recalled F thread.history := by
  induction reachable with
  | init =>
    intro index thread present
    simp at present
  | @step s s' action before permits step ih =>
    intro index thread present
    have still := stable s action s' before permits step
    have kept {index : Nat} {thread : Thread S} (old : s.threads[index]? = some thread) :
        (∀ performed ∈ thread.history, F performed s'.db) ∧ Recalled F thread.history :=
      ⟨fun performed member => still performed ((ih index thread old).1 performed member),
        (ih index thread old).2⟩
    cases action with
    | start call =>
      obtain rfl := System.step_start step
      rw [List.getElem?_append] at present
      split at present
      · exact kept present
      · obtain rfl := List.mem_singleton.mp (List.mem_of_getElem? present)
        refine ⟨fun performed member => (List.not_mem_nil member).elim, ?_⟩
        intro before performed after split_
        simp at split_
    | run chosen fault =>
      obtain ⟨mover, operation, next, out, found, shape, performed, rfl⟩ := System.step_run step
      rcases getElem?_set_cases present with ⟨-, rfl⟩ | ⟨-, old⟩
      · refine ⟨?_, ?_⟩
        · intro entry member
          rcases List.mem_append.mp member with past | now
          · exact (kept found).1 entry past
          · rw [List.mem_singleton.mp now]
            exact learned s before operation fault mover.txn (s.busy chosen) out performed
        · intro past entry after split_
          rcases split_last split_ with ⟨rfl, rfl⟩ | ⟨tail, old⟩
          · exact ⟨s.db, fault, mover.txn, s.busy chosen, out, (ih chosen mover found).1,
              performed, rfl⟩
          · exact (ih chosen mover found).2 past entry tail old
      · exact kept old
    | crash chosen =>
      obtain ⟨mover, found, rfl⟩ := System.step_crash step
      rcases getElem?_set_cases present with ⟨-, rfl⟩ | ⟨-, old⟩
      · have same := kept found
        exact same
      · exact kept old

theorem Reachable.emitted (reachable : Reachable scope s) {index : Nat} {thread : Thread S}
    (present : s.threads[index]? = some thread) {event : S.Event}
    (published : ⟨.emit event, .ok ()⟩ ∈ thread.history) : event ∈ s.sent := by
  induction reachable generalizing index thread with
  | init => simp at present
  | @step s s' action before permits step ih =>
    have kept := System.step_sent step
    cases action with
    | start call =>
      obtain rfl := System.step_start step
      rw [List.getElem?_append] at present
      split at present
      · exact kept (ih present published)
      · obtain rfl := List.mem_singleton.mp (List.mem_of_getElem? present)
        cases published
    | run chosen fault =>
      obtain ⟨mover, operation, next, out, found, shape, performed, rfl⟩ := System.step_run step
      rcases getElem?_set_cases present with ⟨-, rfl⟩ | ⟨-, old⟩
      · rcases List.mem_append.mp published with past | now
        · exact kept (ih found past)
        · have same := List.mem_singleton.mp now
          obtain rfl : .emit event = operation := congrArg Performed.operation same
          have answered : .ok () = out.reply := eq_of_heq (Performed.mk.inj same).2
          cases fault <;> obtain rfl := Option.some.inj performed
          case failed => cases answered
          all_goals simp
      · exact kept (ih old published)
    | crash chosen =>
      obtain ⟨mover, found, rfl⟩ := System.step_crash step
      rcases getElem?_set_cases present with ⟨-, rfl⟩ | ⟨-, old⟩
      · exact kept (ih found published)
      · exact kept (ih old published)

theorem Sound.sends {C : Contract scope} (sound : Sound C s) {index : Nat} {thread : Thread S}
    (present : s.threads[index]? = some thread) {event : S.Event}
    {next : Except S.Error Unit → Prog S.toEngine S.Response}
    (shape : thread.prog = .op (.emit event) next) :
    C.Sends event s.db := by
  have ok := sound.threads index thread present
  rw [shape] at ok
  have free : Compatible (held thread.txn) (s.busy index) := by
    intro x hx y hy
    obtain ⟨other, owner, different, found, member⟩ := System.mem_busy.mp hy
    exact sound.exclusive index other thread owner different.symm present found x hx y member
  obtain ⟨-, sends, -⟩ := ok s.db .none (s.busy index) _ .refl sound.inv free rfl (.inl rfl)
  exact sends event (by simp)

end Transactional
