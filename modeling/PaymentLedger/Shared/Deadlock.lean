import PaymentLedger.Shared.RelyGuarantee
import Mathlib.Data.Fintype.Card
import Mathlib.Logic.Hydra

set_option autoImplicit false

-- Sessions that take their exclusive locks in ascending rank, and share only what they hold
-- or what nobody ever holds alone, cannot wait for each other in a circle.

namespace Transactional

/-- `spared` resources are never locked exclusively. -/
structure Policy (Resource : Type) where
  Rank : Type
  [order : Preorder Rank]
  rank : Resource → Rank
  spared : Resource → Prop

attribute [instance] Policy.order

def Policy.Fits {Resource : Type} (policy : Policy Resource) (held : List (Lock Resource))
    (lock : Lock Resource) : Prop :=
  match lock.mode with
  | .exclusive => ¬ policy.spared lock.resource ∧ ∀ other ∈ held, policy.rank other.resource < policy.rank lock.resource
  | .shared => ⟨lock.resource, .exclusive⟩ ∈ held ∨ policy.spared lock.resource

variable {E : Engine} {α β : Type} {policy : Policy E.Resource}

def Engine.needs (E : Engine) (sql : E.Sql) (db : E.Database) (busy : List (Lock E.Resource)) :
    List (Lock E.Resource) :=
  match E.exec sql db busy with
  | .ok effect => effect.locks
  | .error _ => []

theorem Engine.mem_needs {sql : E.Sql} {db : E.Database} {busy : List (Lock E.Resource)}
    {lock : Lock E.Resource} :
    lock ∈ E.needs sql db busy ↔ ∃ effect, E.exec sql db busy = .ok effect ∧
      lock ∈ effect.locks := by
  unfold Engine.needs
  split <;> simp [*]

namespace Op

def requests (operation : Op E) (txn : Option (Txn E)) (db : E.Database)
    (busy : List (Lock E.Resource)) :
    List (Lock E.Resource) :=
  match operation, txn with
  | .query .client sql, some now => if now.aborted then [] else E.needs sql (now.view db) busy
  | .query _ sql, _ => E.needs sql db busy
  | _, _ => []

/-- Every lock that the operation can need fits; a pool query needs none. -/
def Asks (policy : Policy E.Resource) (operation : Op E)
    (held : Option (List (Lock E.Resource))) : Prop :=
  match operation with
  | .query .client sql => ∃ locks, held = some locks ∧
      ∀ db busy effect, E.exec sql db busy = .ok effect →
      ∀ lock ∈ effect.locks, policy.Fits locks lock
  | .query .pool sql => ∀ db busy effect, E.exec sql db busy = .ok effect → effect.locks = []
  | _ => True

/-- What a session may hold after the answer. -/
def Takes (operation : Op E) (held : Option (List (Lock E.Resource)))
    (reply : Except E.Error operation.Reply) (after : Option (List (Lock E.Resource))) : Prop :=
  match operation, reply with
  | .query .client sql, .ok answer =>
    ∃ db busy effect, E.exec sql db busy = .ok effect ∧ effect.answer = answer ∧
      after = held.map fun locks => locks ++ effect.locks
  | .query .client _, .error _ | .query .pool _, _ | .emit _, _ => after = held
  | .begin, .ok _ => after = some []
  | .begin, .error _ | .commit, _ | .rollback, _ => after = none

end Op

section Operations

variable {operation : Op E} {fault : Fault} {txn : Option (Txn E)} {db : E.Database}
    {busy : List (Lock E.Resource)}

theorem performOp_takes {out : Outcome E operation.Reply}
    (asks : operation.Asks policy (txn.map Txn.locks))
    (performed : performOp operation fault txn db busy = some out) :
    operation.Takes (txn.map Txn.locks) out.reply (out.txn.map Txn.locks) := by
  cases operation with
  | query executor sql =>
    cases executor with
    | pool =>
      cases fault <;> simp only [performOp] at performed
      case failed =>
        obtain rfl := Option.some.inj performed
        rfl
      all_goals
        rcases autocommit_cases performed with ⟨error, -, rfl⟩ | ⟨effect, -, -, rfl⟩
        all_goals rfl
    | client =>
      obtain ⟨locks, inside, -⟩ := asks
      obtain ⟨now, rfl, -⟩ := Option.map_eq_some_iff.mp inside
      cases fault <;> simp only [performOp] at performed
      case failed =>
        obtain rfl := Option.some.inj performed
        rfl
      all_goals
        rcases inTransaction_cases performed with ⟨-, rfl⟩ | ⟨error, -, -, rfl⟩ |
        ⟨effect, -, ran, -, rfl⟩
        · rfl
        · rfl
        · exact ⟨_, busy, effect, ran, rfl, rfl⟩
  | begin | commit | rollback | emit =>
    cases fault <;> obtain rfl := Option.some.inj performed <;> rfl

/-- An operation that cannot be performed needs a lock that another session holds. -/
theorem performOp_blocked (asks : operation.Asks policy (txn.map Txn.locks))
    (blocked : performOp operation .none txn db busy = none) :
    ∃ wanted ∈ operation.requests txn db busy, ∃ kept ∈ busy, wanted.conflicts kept = true := by
  have conflict {xs ys : List (Lock E.Resource)} (apart : ¬ Compatible xs ys) :
      ∃ wanted ∈ xs, ∃ kept ∈ ys, wanted.conflicts kept = true := by
    simpa [Compatible] using apart
  cases operation with
  | query executor sql =>
    cases executor with
    | pool =>
      simp only [performOp, autocommit] at blocked
      split at blocked
      · cases blocked
      · rename_i effect ran
        have none_ : effect.locks = [] := asks db busy effect ran
        simp [none_, Compatible] at blocked
    | client =>
      obtain ⟨locks, inside, -⟩ := asks
      obtain ⟨now, rfl, -⟩ := Option.map_eq_some_iff.mp inside
      simp only [performOp, inTransaction] at blocked
      split at blocked
      · cases blocked
      · rename_i alive
        split at blocked
        · cases blocked
        · rename_i effect ran
          split at blocked
          · cases blocked
          · rename_i apart
            have needs : (Op.query .client sql).requests (some now) db busy = effect.locks := by
              simp [Op.requests, Engine.needs, alive, ran]
            rw [needs]
            exact conflict apart
  | begin | commit | rollback | emit => cases blocked

end Operations

namespace Prog

/-- Every operation fits what is held before it, whatever the answers; `Q` says what is
held at the end. -/
def Ordered (policy : Policy E.Resource)
    (Q : Except E.Error α → Option (List (Lock E.Resource)) → Prop) :
    Prog E α → Option (List (Lock E.Resource)) → Prop
  | .done result, held => Q result held
  | .op operation next, held => operation.Asks policy held ∧
      ∀ reply after, operation.Takes held reply after → (next reply).Ordered policy Q after

variable {R : Except E.Error α → Option (List (Lock E.Resource)) → Prop}
variable {Q : Except E.Error β → Option (List (Lock E.Resource)) → Prop}
    {held : Option (List (Lock E.Resource))}

theorem ordered_bind {program : Prog E α} {f : α → Prog E β} (first : program.Ordered policy R held)
    (rest : ∀ value held, R (.ok value) held → (f value).Ordered policy Q held)
    (raise : ∀ error held, R (.error error) held → Q (.error error) held) :
    (program.bind f).Ordered policy Q held := by
  induction program generalizing held with
  | done result =>
    cases result with
    | ok value => exact rest value held first
    | error error => exact raise error held first
  | op operation next ih =>
    exact ⟨first.1, fun reply after takes => ih reply (first.2 reply after takes)⟩

theorem ordered_tryCatch {P : Except E.Error α → Option (List (Lock E.Resource)) → Prop}
    {program : Prog E α} {handler : E.Error → Prog E α} (body : program.Ordered policy R held)
    (value : ∀ value held, R (.ok value) held → P (.ok value) held)
    (handle : ∀ error held, R (.error error) held → (handler error).Ordered policy P held) :
    (program.tryCatch handler).Ordered policy P held := by
  induction program generalizing held with
  | done result =>
    cases result with
    | ok result => exact value result held body
    | error error => exact handle error held body
  | op operation next ih =>
    exact ⟨body.1, fun reply after takes => ih reply (body.2 reply after takes)⟩

theorem ordered_client {sql : E.Sql} {f : E.Answer sql → Prog E β} {locks : List (Lock E.Resource)}
    (raise : ∀ error, Q (.error error) (some locks))
    (rest : ∀ db busy effect, E.exec sql db busy = .ok effect → ∃ new, effect.locks = new ∧
      (∀ lock ∈ new, policy.Fits locks lock) ∧
      (f effect.answer).Ordered policy Q (some (locks ++ new))) :
    ((query .client sql).bind f).Ordered policy Q (some locks) := by
  constructor
  · refine ⟨locks, rfl, fun db busy effect ran => ?_⟩
    obtain ⟨new, rfl, fits, -⟩ := rest db busy effect ran
    exact fits
  · intro reply after takes
    cases reply with
    | error error =>
      obtain rfl : after = some locks := takes
      exact raise error
    | ok answer =>
      obtain ⟨db, busy, effect, ran, rfl, rfl⟩ := takes
      obtain ⟨new, rfl, -, next⟩ := rest db busy effect ran
      exact next

theorem ordered_free {sql : E.Sql} {f : E.Answer sql → Prog E β} {locks : List (Lock E.Resource)}
    (free : ∀ db busy effect, E.exec sql db busy = .ok effect → effect.locks = [])
    (raise : ∀ error, Q (.error error) (some locks))
    (rest : ∀ answer, (f answer).Ordered policy Q (some locks)) :
    ((query .client sql).bind f).Ordered policy Q (some locks) := by
  refine ordered_client raise fun db busy effect ran => ⟨[], free db busy effect ran, by simp, ?_⟩
  rw [List.append_nil]
  exact rest effect.answer

theorem ordered_read {sql : E.Sql} {f : E.Answer sql → Prog E β}
    (free : ∀ db busy effect, E.exec sql db busy = .ok effect → effect.locks = [])
    (raise : ∀ error, Q (.error error) held) (rest : ∀ answer, (f answer).Ordered policy Q held) :
    ((query .pool sql).bind f).Ordered policy Q held := by
  refine ⟨free, ?_⟩
  intro reply after takes
  obtain rfl : after = held := takes
  cases reply with
  | error error => exact raise error
  | ok answer => exact rest answer

theorem ordered_begin {f : Unit → Prog E β} (raise : ∀ error, Q (.error error) none)
    (rest : (f ()).Ordered policy Q (some [])) :
    ((perform .begin).bind f).Ordered policy Q held := by
  refine ⟨trivial, ?_⟩
  intro reply after takes
  cases reply with
  | error error =>
    obtain rfl : after = none := takes
    exact raise error
  | ok done =>
    obtain rfl : after = some [] := takes
    exact rest

theorem ordered_commit {f : Unit → Prog E β} (raise : ∀ error, Q (.error error) none)
    (rest : (f ()).Ordered policy Q none) : ((perform .commit).bind f).Ordered policy Q held := by
  refine ⟨trivial, ?_⟩
  intro reply after takes
  obtain rfl : after = none := takes
  cases reply with
  | error error => exact raise error
  | ok done => exact rest

theorem ordered_rollback {f : Unit → Prog E β} (raise : ∀ error, Q (.error error) none)
    (rest : (f ()).Ordered policy Q none) : ((perform .rollback).bind f).Ordered policy Q held := by
  refine ⟨trivial, ?_⟩
  intro reply after takes
  obtain rfl : after = none := takes
  cases reply with
  | error error => exact raise error
  | ok done => exact rest

end Prog

def Policy.Fair {Resource : Type} (policy : Policy Resource)
    (held : Option (List (Lock Resource))) : Prop :=
  ∀ locks, held = some locks → ∀ lock ∈ locks, lock.mode = .exclusive →
    ¬ policy.spared lock.resource

theorem Policy.Fair.takes {operation : Op E} {held after : Option (List (Lock E.Resource))}
    {reply : Except E.Error operation.Reply} (fair : policy.Fair held)
    (asks : operation.Asks policy held) (takes : operation.Takes held reply after) :
    policy.Fair after := by
  have nothing : policy.Fair (none : Option (List (Lock E.Resource))) := by
    intro locks same
    cases same
  cases operation with
  | query executor sql =>
    cases executor with
    | pool =>
      obtain rfl : after = held := takes
      exact fair
    | client =>
      cases reply with
      | error error =>
        obtain rfl : after = held := takes
        exact fair
      | ok answer =>
        obtain ⟨locks, rfl, fits⟩ := asks
        obtain ⟨db, busy, effect, ran, -, rfl⟩ := takes
        intro more same lock member exclusive
        obtain rfl := Option.some.inj same
        rcases List.mem_append.mp member with old | new
        · exact fair locks rfl lock old exclusive
        · have fit := fits db busy effect ran lock new
          simp only [Policy.Fits, exclusive] at fit
          exact fit.1
  | begin =>
    cases reply with
    | error error =>
      obtain rfl : after = none := takes
      exact nothing
    | ok done =>
      obtain rfl : after = some [] := takes
      intro locks same lock member
      obtain rfl := Option.some.inj same
      cases member
  | commit | rollback =>
    obtain rfl : after = none := takes
    exact nothing
  | emit event =>
    obtain rfl : after = held := takes
    exact fair

section Runs

variable {S : Service} {scope : Scope S} {policy : Policy S.Resource}

structure Thread.Orderly (policy : Policy S.Resource) (thread : Thread S) : Prop where
  rest : thread.prog.Ordered policy (fun _ held => held = none) (thread.txn.map Txn.locks)
  fair : policy.Fair (thread.txn.map Txn.locks)

structure System.Orderly (policy : Policy S.Resource) (s : System S) : Prop where
  threads : ∀ (index : Nat) (thread : Thread S), s.threads[index]? = some thread →
    thread.Orderly policy
  exclusive : ∀ (i j : Nat) (left right : Thread S), i ≠ j → s.threads[i]? = some left →
    s.threads[j]? = some right → Compatible left.held right.held

def Policy.Obeyed (policy : Policy S.Resource) (scope : Scope S) : Prop :=
  ∀ call, scope.starts call → (S.program call).Ordered policy (fun _ held => held = none) none

theorem Thread.orderly_idle {thread : Thread S} (idle : thread.txn = none)
    (rest : thread.prog.Ordered policy (fun _ held => held = none) none) :
    thread.Orderly policy := by
  have nothing : thread.txn.map Txn.locks = none := by rw [idle]; rfl
  refine ⟨nothing ▸ rest, ?_⟩
  intro locks same
  rw [nothing] at same
  cases same

theorem System.Orderly.step {s s' : System S} {action : Action S} (orderly : s.Orderly policy)
    (obeyed : ∀ call, action = .start call →
      (S.program call).Ordered policy (fun _ held => held = none) none)
    (step : s.step action = some s') : s'.Orderly policy := by
  cases action with
  | start call =>
    obtain rfl := System.step_start step
    have look {index : Nat} {thread : Thread S}
        (present : (s.threads ++ [{ call, prog := S.program call }])[index]? = some thread) :
        s.threads[index]? = some thread ∨ thread = { call, prog := S.program call } := by
      rw [List.getElem?_append] at present
      split at present
      · exact .inl present
      · exact .inr (List.mem_singleton.mp (List.mem_of_getElem? present))
    constructor
    · intro index thread present
      rcases look present with old | rfl
      · exact orderly.threads index thread old
      · exact Thread.orderly_idle rfl (obeyed call rfl)
    · intro i j left right different atLeft atRight
      rcases look atLeft with oldLeft | rfl
      · rcases look atRight with oldRight | rfl
        · exact orderly.exclusive i j left right different oldLeft oldRight
        · exact (compatible_nil _).symm
      · exact compatible_nil _
  | crash index =>
    obtain ⟨thread, present, rfl⟩ := System.step_crash step
    constructor
    · intro other found at_
      rcases getElem?_set_cases at_ with ⟨rfl, rfl⟩ | ⟨-, old⟩
      · exact Thread.orderly_idle rfl rfl
      · exact orderly.threads other found old
    · intro i j left right different atLeft atRight
      rcases getElem?_set_cases atLeft with ⟨rfl, rfl⟩ | ⟨-, oldLeft⟩
      · exact compatible_nil _
      · rcases getElem?_set_cases atRight with ⟨rfl, rfl⟩ | ⟨-, oldRight⟩
        · exact (compatible_nil _).symm
        · exact orderly.exclusive i j left right different oldLeft oldRight
  | run index fault =>
    obtain ⟨thread, operation, next, out, present, shape, performed, rfl⟩ := System.step_run step
    obtain ⟨rest, fair⟩ := orderly.threads index thread present
    rw [shape] at rest
    have takes := performOp_takes rest.1 performed
    have compatible : Compatible (held thread.txn) (s.busy index) := by
      intro x hx y hy
      obtain ⟨other, owner, different, found, member⟩ := System.mem_busy.mp hy
      exact orderly.exclusive index other thread owner different.symm present found x hx y member
    have free := (performOp_locks performed compatible).2
    have apart {other : Nat} {owner : Thread S} (different : other ≠ index)
        (found : s.threads[other]? = some owner) :
        Compatible (held out.txn) owner.held := by
      intro x hx y hy
      exact free x hx y (System.mem_busy.mpr ⟨other, owner, different, found, hy⟩)
    constructor
    · intro other found at_
      rcases getElem?_set_cases at_ with ⟨rfl, rfl⟩ | ⟨-, old⟩
      · exact ⟨rest.2 out.reply _ takes, fair.takes rest.1 takes⟩
      · exact orderly.threads other found old
    · intro i j left right different atLeft atRight
      rcases getElem?_set_cases atLeft with ⟨rfl, rfl⟩ | ⟨leftOther, oldLeft⟩
      · rcases getElem?_set_cases atRight with ⟨rfl, rfl⟩ | ⟨rightOther, oldRight⟩
        · exact absurd rfl different
        · exact apart rightOther oldRight
      · rcases getElem?_set_cases atRight with ⟨rfl, rfl⟩ | ⟨rightOther, oldRight⟩
        · exact (apart leftOther oldLeft).symm
        · exact orderly.exclusive i j left right different oldLeft oldRight

theorem Reachable.orderly {s : System S} (obeyed : policy.Obeyed scope)
    (reachable : Reachable scope s) :
    s.Orderly policy := by
  induction reachable with
  | init =>
    constructor
    · intro index thread present
      simp at present
    · intro i j left right _ present
      simp at present
  | step action _ permits step ih =>
    refine ih.step ?_ step
    rintro call rfl
    exact obeyed call permits

/-- The next operation of thread `i` needs a lock on `resource` that `j` holds in its way. -/
def System.WaitsOn (s : System S) (i j : Nat) (resource : S.Resource) : Prop :=
  i ≠ j ∧ ∃ mover owner operation next, s.threads[i]? = some mover ∧ s.threads[j]? = some owner ∧
    mover.prog = .op operation next ∧ ∃ wanted ∈ operation.requests mover.txn s.db (s.busy i),
    ∃ kept ∈ owner.held,
      wanted.conflicts kept = true ∧ wanted.resource = resource

def System.Waits (s : System S) (i j : Nat) : Prop := ∃ resource, s.WaitsOn i j resource

theorem Op.Asks.fits {operation : Op S.toEngine} {txn : Option (Txn S.toEngine)} {db : S.Database}
    {busy : List (Lock S.Resource)} {lock : Lock S.Resource}
    (asks : operation.Asks policy (txn.map Txn.locks))
    (needed : lock ∈ operation.requests txn db busy) :
    ∃ locks, txn.map Txn.locks = some locks ∧ policy.Fits locks lock := by
  cases operation with
  | query executor sql =>
    cases executor with
    | pool =>
      obtain ⟨effect, ran, member⟩ := Engine.mem_needs.mp needed
      rw [asks db busy effect ran] at member
      cases member
    | client =>
      obtain ⟨locks, inside, fits⟩ := asks
      obtain ⟨now, rfl, rfl⟩ := Option.map_eq_some_iff.mp inside
      simp only [Op.requests] at needed
      split at needed
      · cases needed
      · obtain ⟨effect, ran, member⟩ := Engine.mem_needs.mp needed
        exact ⟨now.locks, rfl, fits _ busy effect ran lock member⟩
  | begin | commit | rollback | emit => cases needed

/-- Along two waits the rank goes up. -/
theorem System.Orderly.rises {s : System S} (orderly : s.Orderly policy) {i j k : Nat}
    {r r' : S.Resource} (first : s.WaitsOn i j r) (second : s.WaitsOn j k r') :
    policy.rank r < policy.rank r' := by
  obtain ⟨-, -, owner, -, -, -, atOwner, -, wanted, -, kept, held_, conflict, rfl⟩ := first
  obtain ⟨apart, mover, last, operation, next, atMover, atLast, shape, asked, needed, other, kept_,
      blocks, rfl⟩ := second
  obtain rfl := Option.some.inj (atOwner.symm.trans atMover)
  obtain ⟨rest, -⟩ := orderly.threads j owner atOwner
  rw [shape] at rest
  obtain ⟨locks, inside, fits⟩ := rest.1.fits needed
  have locks_ : owner.held = locks := by
    obtain ⟨now, present, rfl⟩ := Option.map_eq_some_iff.mp inside
    simp [Thread.held, present]
  simp only [Lock.conflicts, Bool.and_eq_true, decide_eq_true_eq,
    Bool.or_eq_true] at conflict blocks
  cases mode : asked.mode with
  | exclusive =>
    simp only [Policy.Fits, mode] at fits
    rw [conflict.1]
    exact fits.2 kept (locks_ ▸ held_)
  | shared =>
    -- what is shared is held already, or nobody holds it alone
    exfalso
    have alone : other.mode = .exclusive := by simpa [mode] using blocks.2
    simp only [Policy.Fits, mode] at fits
    rcases fits with own | spared
    · have clash := orderly.exclusive j k owner last apart atOwner atLast _ (locks_ ▸ own)
        other kept_
      simp [Lock.conflicts, blocks.1] at clash
    · obtain ⟨-, fair⟩ := orderly.threads k last atLast
      cases present : last.txn with
      | none => simp [Thread.held, present] at kept_
      | some now =>
        simp only [Thread.held, present, held_some] at kept_
        exact fair now.locks (by rw [present]; rfl) other kept_ alone (blocks.1 ▸ spared)

theorem System.Orderly.ascends {s : System S} (orderly : s.Orderly policy) {i k : Nat}
    (path : Relation.TransGen s.Waits i k) :
    ∃ j m r r', s.WaitsOn i j r ∧ s.WaitsOn m k r' ∧ policy.rank r ≤ policy.rank r' := by
  induction path with
  | single wait =>
    obtain ⟨r, wait⟩ := wait
    exact ⟨_, _, r, r, wait, wait, le_rfl⟩
  | tail _ wait ih =>
    obtain ⟨j, m, r, r', first, last, le⟩ := ih
    obtain ⟨r'', wait⟩ := wait
    exact ⟨j, _, r, r'', first, wait, le.trans (orderly.rises last wait).le⟩

theorem System.Orderly.acyclic {s : System S} (orderly : s.Orderly policy) (i : Nat) :
    ¬ Relation.TransGen s.Waits i i := by
  intro cycle
  obtain ⟨j, m, r, r', first, last, le⟩ := orderly.ascends cycle
  exact absurd (orderly.rises last first) (not_lt_of_ge le)

theorem System.WaitsOn.bounds {s : System S} {i j : Nat} {resource : S.Resource}
    (wait : s.WaitsOn i j resource) :
    i < s.threads.length ∧ j < s.threads.length := by
  obtain ⟨-, mover, owner, -, -, atMover, atOwner, -⟩ := wait
  exact ⟨(List.getElem?_eq_some_iff.mp atMover).1, (List.getElem?_eq_some_iff.mp atOwner).1⟩

theorem System.Orderly.runs_or_waits {s : System S} (orderly : s.Orderly policy) {k : Nat}
    {thread : Thread S} (present : s.threads[k]? = some thread)
    (unfinished : thread.result = none) :
    (∃ s', s.step (.run k .none) = some s') ∨ ∃ l, s.Waits k l := by
  cases shape : thread.prog with
  | done result => simp [Thread.result, shape] at unfinished
  | op operation next =>
    obtain ⟨rest, -⟩ := orderly.threads k thread present
    rw [shape] at rest
    cases performed : performOp operation .none thread.txn s.db (s.busy k) with
    | some out =>
      left
      simp [System.step, present, shape, performed]
    | none =>
      obtain ⟨wanted, needed, kept, member, conflict⟩ := performOp_blocked rest.1 performed
      obtain ⟨l, owner, different, found, held_⟩ := System.mem_busy.mp member
      exact .inr ⟨l, wanted.resource, different.symm, thread, owner, operation, next, present,
        found, shape, wanted, needed, kept, held_, conflict, rfl⟩

/-- At the end of every chain of waits there is a call that takes its next operation. -/
theorem System.Orderly.ends {s : System S} (orderly : s.Orderly policy) {i j : Nat}
    (wait : s.Waits i j) :
    ∃ k, Relation.TransGen s.Waits i k ∧ ∃ s', s.step (.run k .none) = some s' := by
  let follows (a b : Fin s.threads.length) : Prop := Relation.TransGen s.Waits b a
  have trans : IsTrans _ follows := ⟨fun _ _ _ first second => second.trans first⟩
  have irrefl : Std.Irrefl follows := ⟨fun a => orderly.acyclic a⟩
  obtain ⟨resource, on⟩ := id wait
  obtain ⟨k, ahead, last⟩ := (Finite.wellFounded_of_trans_of_irrefl follows).has_min
    {k | Relation.TransGen s.Waits i k} ⟨⟨j, on.bounds.2⟩, .single wait⟩
  refine ⟨k, ahead, ?_⟩
  have stops {l : Nat} (next : s.Waits k l) : False := by
    obtain ⟨_, on⟩ := id next
    exact last ⟨l, on.bounds.2⟩ (ahead.tail next) (.single next)
  -- somebody waits for `k`, so it holds a lock and has not ended
  obtain ⟨m, -, _, -, -, owner, -, -, -, atOwner, -, -, -, kept, member, -⟩ :=
    Relation.TransGen.tail'_iff.mp ahead
  refine (orderly.runs_or_waits atOwner ?_).resolve_right fun ⟨l, next⟩ => stops next
  cases shape : owner.prog with
  | op operation next => simp [Thread.result, shape]
  | done result =>
    obtain ⟨rest, -⟩ := orderly.threads k owner atOwner
    rw [shape] at rest
    have idle : owner.txn = none := Option.map_eq_none_iff.mp rest
    simp [Thread.held, idle] at member

/-! ## Every call can go on -/

def System.Elsewhere (i : Nat) (s s' : System S) : Prop := ∃ k ≠ i, s.step (.run k .none) = some s'

/-- What is left of a program after its first operation. -/
def Prog.Rest (program program' : Prog S.toEngine S.Response) : Prop :=
  ∃ operation next reply, program' = .op operation next ∧ program = next reply

theorem Prog.rest_wellFounded : WellFounded (Prog.Rest (S := S)) := by
  constructor
  intro program
  induction program with
  | done result =>
    constructor
    rintro rest ⟨operation, next, reply, same, -⟩
    cases same
  | op operation next ih =>
    constructor
    rintro rest ⟨operation', next', reply, same, rfl⟩
    cases same
    exact ih reply

def System.rests (s : System S) : Multiset (Prog S.toEngine S.Response) := s.threads.map Thread.prog

theorem System.step_rests {s s' : System S} {k : Nat} {fault : Fault}
    (step : s.step (.run k fault) = some s') :
    Relation.CutExpand Prog.Rest s'.rests s.rests := by
  obtain ⟨thread, operation, next, out, present, shape, -, rfl⟩ := System.step_run step
  obtain ⟨bound, rfl⟩ := List.getElem?_eq_some_iff.mp present
  refine ⟨{next out.reply}, s.threads[k].prog, ?_, ?_⟩
  · intro rest member
    obtain rfl := Multiset.mem_singleton.mp member
    exact ⟨operation, next, out.reply, shape, rfl⟩
  · have after := (List.set_perm_cons_eraseIdx bound (s.threads[k].resume operation next out)).map
      Thread.prog
    have before := (List.getElem_cons_eraseIdx_perm bound).map Thread.prog
    rw [System.rests, System.rests, Multiset.coe_eq_coe.mpr after, ← Multiset.coe_eq_coe.mpr before,
      List.map_cons, List.map_cons, ← Multiset.cons_coe, ← Multiset.cons_coe, Multiset.cons_add,
      Multiset.cons_add, Multiset.add_comm, Multiset.add_comm _ {_}, Multiset.singleton_add,
      Multiset.singleton_add, Multiset.cons_swap]
    rfl

theorem System.Orderly.proceeds {s : System S} (orderly : s.Orderly policy) {i : Nat}
    {thread : Thread S} (present : s.threads[i]? = some thread)
    (unfinished : thread.result = none) :
    ∃ later, Relation.ReflTransGen (System.Elsewhere i) s later ∧
      ∃ s', later.step (.run i .none) = some s' := by
  have progress := (Prog.rest_wellFounded (S := S)).cutExpand
  generalize left_ : s.rests = left
  induction left using progress.induction generalizing s with
  | h left ih =>
    obtain rfl := left_
    rcases orderly.runs_or_waits present unfinished with free | ⟨j, wait⟩
    · exact ⟨s, .refl, free⟩
    obtain ⟨k, chain, next, step⟩ := orderly.ends wait
    have other : k ≠ i := by
      rintro rfl
      exact orderly.acyclic k chain
    have still : next.threads[i]? = some thread := by
      obtain ⟨_, _, _, _, _, _, _, rfl⟩ := System.step_run step
      rw [List.getElem?_set_ne other]
      exact present
    have orderly' : next.Orderly policy := by
      refine orderly.step ?_ step
      intro call same
      cases same
    obtain ⟨later, path, free⟩ := ih next.rests (System.step_rests step) orderly' still rfl
    exact ⟨later, .head ⟨k, other, step⟩ path, free⟩

end Runs

end Transactional
