import Mathlib.Algebra.BigOperators.Group.List.Basic
import Mathlib.Algebra.GroupWithZero.Nat
import PaymentLedger.Shared.Monitor
import PaymentLedger.Shared.RelyGuarantee

set_option autoImplicit false

-- A pool query has a connection for one statement. A transaction checks one out before its
-- BEGIN and gives it back in its `finally`. A session that asks for a connection only when it
-- has none cannot starve the others, however small the pool is.

namespace Transactional

variable {E : Engine} {α : Type}

/-- The operation after a COMMIT or ROLLBACK is the ROLLBACK of the `catch`, on the same
connection. -/
def Prog.rolls (program : Prog E α) : Bool :=
  match program with
  | .op .rollback _ => true
  | _ => false

structure Checkout.Lent where
  statement : Bool := false
  client : Bool := false
deriving DecidableEq

namespace Checkout.Lent

def count (lent : Lent) : Nat := lent.statement.toNat + lent.client.toNat

/-- What the session has once it is served; `none` when the operation lacks no connection. -/
def grant (lent : Lent) (operation : Op E) : Option Lent :=
  match operation with
  | .query .pool _ => if lent.statement then none else some { lent with statement := true }
  | .begin => if lent.client then none else some { lent with client := true }
  | .query .client _ | .commit | .rollback | .emit _ => none

def after (lent : Lent) (operation : Op E) (rest : Prog E α) : Lent :=
  match operation with
  | .query .pool _ => { lent with statement := false }
  | .commit | .rollback => if rest.rolls then lent else { lent with client := false }
  | .query .client _ | .begin | .emit _ => lent

theorem grant_count {lent lent' : Lent} {operation : Op E}
    (granted : lent.grant operation = some lent') :
    0 < lent'.count := by
  unfold grant at granted
  split at granted
  · split at granted <;> cases granted
    exact Nat.lt_of_lt_of_le Nat.one_pos (Nat.le_add_right 1 _)
  · split at granted <;> cases granted
    exact Nat.lt_of_lt_of_le Nat.one_pos (Nat.le_add_left 1 _)
  all_goals cases granted

end Checkout.Lent

structure Checkout (S : Service) where
  system : System S
  lent : Nat → Checkout.Lent := fun _ => {}

variable {S : Service}

def Thread.lacks (thread : Thread S) (lent : Checkout.Lent) : Option Checkout.Lent :=
  match thread.prog with
  | .done _ => none
  | .op operation _ => lent.grant operation

namespace Checkout

def inUse (checkout : Checkout S) : Nat :=
  ((List.range checkout.system.threads.length).map fun index => (checkout.lent index).count).sum

def lend (checkout : Checkout S) (index : Nat) (lent : Lent) : Checkout S :=
  { checkout with lent := fun other => if other = index then lent else checkout.lent other }

inductive Action (S : Service) where
  | start (call : S.Call)
  | acquire (index : Nat)
  | run (index : Nat) (fault : Fault)
  | crash (index : Nat)

/-- Over `size` connections. -/
def step (size : Nat) (checkout : Checkout S) : Action S → Option (Checkout S)
  | .start call => (checkout.system.step (.start call)).map fun system => { checkout with system }
  | .acquire index =>
    match checkout.system.threads[index]? with
    | none => none
    | some thread =>
      match thread.lacks (checkout.lent index) with
      | none => none
      | some lent => if checkout.inUse < size then some (checkout.lend index lent) else none
  | .run index fault =>
    match checkout.system.threads[index]? with
    | none => none
    | some thread =>
      match thread.prog with
      | .done _ => none
      | .op operation next =>
        match (checkout.lent index).grant operation with
        | some _ => none
        | none =>
          (performOp operation fault thread.txn checkout.system.db (checkout.system.busy index)).map
            fun out =>
            { checkout.lend index ((checkout.lent index).after operation (next out.reply)) with
              system := { db := out.db
                          threads := checkout.system.threads.set index
                            (thread.resume operation next out)
                          sent := checkout.system.sent ++ out.sent } }
  | .crash index => (checkout.system.step (.crash index)).map fun system => { checkout.lend index {} with system }

inductive Reachable (size : Nat) (scope : Scope S) : Checkout S → Prop where
  | init : Reachable size scope { system := { db := scope.initial } }
  | step {checkout checkout' : Checkout S} (action : Action S) : Reachable size scope checkout →
      (∀ call, action = .start call → scope.starts call) →
      checkout.step size action = some checkout' →
      Reachable size scope checkout'

def run (size : Nat) (checkout : Checkout S) : List (Action S) → Option (Checkout S)
  | [] => some checkout
  | action :: rest => (checkout.step size action).bind fun next => next.run size rest

/-- Every connection is had by a session that waits for another one. -/
def Starved (size : Nat) (checkout : Checkout S) : Prop :=
  checkout.inUse = size ∧ ∀ (index : Nat) (thread : Thread S),
    checkout.system.threads[index]? = some thread →
    0 < (checkout.lent index).count → (thread.lacks (checkout.lent index)).isSome

variable {size : Nat} {scope : Scope S} {checkout checkout' : Checkout S}

theorem Reachable.of_run {actions : List (Action S)} (reachable : Reachable size scope checkout)
    (starts : ∀ call, .start call ∈ actions → scope.starts call)
    (ran : checkout.run size actions = some checkout') : Reachable size scope checkout' := by
  induction actions generalizing checkout with
  | nil =>
    obtain rfl := Option.some.inj ran
    exact reachable
  | cons action rest ih =>
    obtain ⟨next, step, ran⟩ := Option.bind_eq_some_iff.mp ran
    refine ih (.step action reachable ?_ step)
      (fun call member => starts call (List.mem_cons_of_mem _ member)) ran
    rintro call rfl
    exact starts call List.mem_cons_self

theorem step_acquire {index : Nat} (step : checkout.step size (.acquire index) = some checkout') :
    ∃ thread lent, checkout.system.threads[index]? = some thread ∧
      thread.lacks (checkout.lent index) = some lent ∧ checkout.inUse < size ∧
      checkout' = checkout.lend index lent := by
  simp only [Checkout.step] at step
  split at step
  · cases step
  · rename_i thread present
    split at step
    · cases step
    · rename_i lent lacks
      split at step
      · rename_i room
        exact ⟨thread, lent, present, lacks, room, (Option.some.inj step).symm⟩
      · cases step

theorem step_run {index : Nat} {fault : Fault}
    (step : checkout.step size (.run index fault) = some checkout') :
    ∃ thread operation next out, checkout.system.threads[index]? = some thread ∧
      thread.prog = .op operation next ∧
      (checkout.lent index).grant operation = none ∧
      performOp operation fault thread.txn checkout.system.db (checkout.system.busy index) =
      some out ∧
      checkout.system.step (.run index fault) = some checkout'.system ∧
      checkout'.system.threads =
      checkout.system.threads.set index (thread.resume operation next out) ∧
      checkout'.lent = (checkout.lend index
        ((checkout.lent index).after operation (next out.reply))).lent := by
  simp only [Checkout.step] at step
  split at step
  · cases step
  · rename_i thread present
    split at step
    · cases step
    · rename_i operation next shape
      split at step
      · cases step
      · rename_i granted
        obtain ⟨out, performed, rfl⟩ := Option.map_eq_some_iff.mp step
        refine ⟨thread, operation, next, out, present, shape, granted, performed, ?_, rfl, rfl⟩
        simp [System.step, present, shape, performed]

theorem runs_of_system {index : Nat} {fault : Fault} {thread : Thread S} {system : System S}
    (present : checkout.system.threads[index]? = some thread)
    (served : thread.lacks (checkout.lent index) = none)
    (step : checkout.system.step (.run index fault) = some system) :
    ∃ checkout', checkout.step size (.run index fault) = some checkout' := by
  obtain ⟨mover, operation, next, out, found, shape, performed, -⟩ := System.step_run step
  obtain rfl := Option.some.inj (present.symm.trans found)
  simp only [Thread.lacks, shape] at served
  simp [Checkout.step, present, shape, served, performed]

theorem Reachable.system (always : ∀ call db, scope.admits call db)
    (reachable : Reachable size scope checkout) :
    Transactional.Reachable scope checkout.system := by
  induction reachable with
  | init => exact .init
  | @step checkout checkout' action _ starts step ih =>
    cases action with
    | start call =>
      simp only [Checkout.step] at step
      obtain ⟨system, moved, rfl⟩ := Option.map_eq_some_iff.mp step
      exact .step (.start call) ih (starts call rfl) moved
    | acquire index =>
      obtain ⟨-, -, -, -, -, rfl⟩ := step_acquire step
      exact ih
    | run index fault =>
      obtain ⟨-, -, -, -, -, -, -, -, moved, -⟩ := step_run step
      exact .step (.run index fault) ih (fun thread _ _ => always thread.call _) moved
    | crash index =>
      simp only [Checkout.step] at step
      obtain ⟨system, moved, rfl⟩ := Option.map_eq_some_iff.mp step
      exact .step (.crash index) ih trivial moved

theorem holder_of_inUse (used : 0 < checkout.inUse) : ∃ index thread,
    checkout.system.threads[index]? = some thread ∧ 0 < (checkout.lent index).count := by
  obtain ⟨count, member, some_⟩ := List.exists_mem_ne_zero_of_sum_ne_zero (Nat.ne_of_gt used)
  obtain ⟨index, bound, rfl⟩ := List.mem_map.mp member
  exact ⟨index, _, List.getElem?_eq_getElem (List.mem_range.mp bound), Nat.pos_of_ne_zero some_⟩

end Checkout

/-! ## Thrifty programs -/

/-- Whether the session is between its BEGIN and the end of its transaction. After a COMMIT that
failed comes ROLLBACK, on the same connection. -/
def transacting (E : Engine) : Monitor E where
  State := Bool
  start := false
  admits inside operation :=
    match operation with
    | .query .pool _ | .begin => inside = false
    | .query .client _ | .commit | .rollback | .emit _ => True
  next inside performed :=
    match performed with
    | ⟨.begin, _⟩ => true
    | ⟨.commit, reply⟩ => if reply.isOk then false else inside
    | ⟨.rollback, _⟩ => false
    | ⟨.query _ _, _⟩ | ⟨.emit _, _⟩ => inside

/-- A program that asks for a connection only outside its transactions, and ends outside them. -/
abbrev Prog.Thrifty (program : Prog E α) : Prop :=
  program.Watched (transacting E) (fun _ inside => inside = false) false

namespace Prog

variable {β : Type} {program : Prog E α} {f : α → Prog E β}

abbrev Closes (program : Prog E α) : Prop :=
  program.Watched (transacting E) (fun result inside => result.isOk = true → inside = false) true

theorem thrifty_bind (first : program.Thrifty) (rest : ∀ value, (f value).Thrifty) :
    (program.bind f).Thrifty := by
  refine watched_bind first ?_ fun error inside closed => closed
  rintro value inside rfl
  exact rest value

theorem thrifty_pool {sql : E.Sql} : (query .pool sql).Thrifty := ⟨rfl, fun _ => rfl⟩

theorem thrifty_looks {reads : E.Sql → Bool} (looks : program.Issues (Op.Look reads)) :
    program.Thrifty := by
  refine watched_of_steady (looks.imp ?_)
  intro operation look
  cases operation with
  | query executor sql =>
    cases executor with
    | pool => exact ⟨rfl, fun _ => rfl⟩
    | client => exact look.elim
  | begin | commit | rollback | emit event => exact look.elim

theorem thrifty_look {reads : E.Sql → Bool} (looks : program.Issues (Op.Look reads))
    (rest : ∀ value, (f value).Thrifty) :
    (program.bind f).Thrifty := thrifty_bind (thrifty_looks looks) rest

theorem closes_inner (inner : program.Issues Op.Inner) (rest : ∀ value, (f value).Closes) :
    (program.bind f).Closes := by
  refine watched_steady (inner.imp ?_) (fun _ ok => Bool.noConfusion ok) rest
  intro operation inner
  cases operation with
  | query executor sql =>
    cases executor with
    | pool => exact inner.elim
    | client => exact ⟨trivial, fun _ => rfl⟩
  | emit event => exact ⟨trivial, fun _ => rfl⟩
  | begin | commit | rollback => exact inner.elim

theorem closes_raise (error : E.Error) : (.done (.error error) : Prog E α).Closes :=
  fun ok => Bool.noConfusion ok

theorem closes_commit : (perform .commit : Prog E Unit).Closes := by
  refine ⟨trivial, ?_⟩
  rintro (error | answer) ok
  · exact Bool.noConfusion ok
  · rfl

theorem closes_rollback : (perform .rollback : Prog E Unit).Closes := ⟨trivial, fun _ _ => rfl⟩

theorem closes_return {value : β} (closes : program.Closes) :
    (program.bind fun _ => (.done (.ok value) : Prog E β)).Closes :=
  watched_bind closes (fun _ _ closed _ => closed rfl) fun _ _ _ ok => Bool.noConfusion ok

/-- `try { BEGIN; ... } catch (error) { ROLLBACK; throw error }` -/
theorem thrifty_protect {body : Unit → Prog E α} (closes : (body ()).Closes) :
    ((perform .begin).bind body).protect.Thrifty := by
  refine watched_tryCatch (Q := fun result inside => result.isOk = true → inside = false) ?_
    (fun value inside closed => closed rfl) ?_
  · exact watched_perform rfl (fun _ ok => Bool.noConfusion ok) fun _ => closes
  · intro error inside _
    exact watched_perform trivial (fun _ => rfl) fun _ => rfl

end Prog

namespace Checkout

variable {size : Nat} {scope : Scope S} {checkout checkout' : Checkout S}

/-- What the connections of a session say about the operation that it is at, and about its
transaction. -/
structure Paced (thread : Thread S) (lent : Lent) : Prop where
  statement : lent.statement = true → ∃ sql next, thread.prog = .op (.query .pool sql) next
  client : lent.client = true → (transacting S.toEngine).after thread.history = true ∨
    (∃ next, thread.prog = .op .begin next) ∨ ∃ next, thread.prog = .op .rollback next
  transaction : thread.txn.isSome → lent.client = true
  rest : thread.result = none →
    thread.prog.Watched (transacting S.toEngine) (fun _ inside => inside = false)
    ((transacting S.toEngine).after thread.history)
  ended : thread.result.isSome → lent = {}

section Paced

variable {thread : Thread S} {lent lent' : Lent}

/-- Whoever has a connection waits for no other. -/
theorem Paced.served (paced : Paced thread lent) (has : 0 < lent.count) :
    lent.count = 1 ∧ thread.result = none ∧ thread.lacks lent = none := by
  obtain ⟨statement, client, -, rest, ended⟩ := paced
  obtain ⟨forStatement, forClient⟩ := lent
  simp only at statement client
  cases shape : thread.prog with
  | done result =>
    rw [ended (by rw [Thread.result_eq_some.mpr shape]; rfl)] at has
    exact absurd has (by decide)
  | op operation next =>
    have unfinished : thread.result = none := by simp [Thread.result, shape]
    have watched := rest unfinished
    rw [shape] at statement client watched
    simp only [Thread.lacks, shape]
    cases operation with
    | query executor sql =>
      cases executor with
      | pool =>
        have outside : (transacting S.toEngine).after thread.history = false := watched.1
        cases forStatement <;> cases forClient <;> simp_all [Lent.grant, Lent.count]
      | client => cases forStatement <;> cases forClient <;> simp_all [Lent.grant, Lent.count]
    | begin => cases forStatement <;> cases forClient <;> simp_all [Lent.grant, Lent.count]
    | commit | rollback | emit =>
      cases forStatement <;> cases forClient <;> simp_all [Lent.grant, Lent.count]

theorem Paced.granted (paced : Paced thread lent) (lacks : thread.lacks lent = some lent') :
    Paced thread lent' := by
  unfold Thread.lacks at lacks
  split at lacks
  · cases lacks
  · rename_i operation next shape
    have unfinished : thread.result = none := by simp [Thread.result, shape]
    have ended : thread.result.isSome → lent' = {} := by
      rw [unfinished]
      intro finished
      cases finished
    cases operation with
    | query executor sql =>
      cases executor with
      | client => cases lacks
      | pool =>
        simp only [Lent.grant] at lacks
        split at lacks
        · cases lacks
        · obtain rfl := Option.some.inj lacks
          exact ⟨fun _ => ⟨sql, next, shape⟩, paced.client, paced.transaction, paced.rest, ended⟩
    | begin =>
      simp only [Lent.grant] at lacks
      split at lacks
      · cases lacks
      · obtain rfl := Option.some.inj lacks
        exact ⟨paced.statement, fun _ => .inr (.inl ⟨next, shape⟩), fun _ => rfl, paced.rest, ended⟩
    | commit | rollback | emit event => cases lacks

theorem performOp_open {operation : Op E} {fault : Fault} {txn : Option (Txn E)} {db : E.Database}
    {busy : List (Lock E.Resource)} {out : Outcome E operation.Reply}
    (performed : performOp operation fault txn db busy = some out) (opened : out.txn.isSome) :
    operation = .begin ∨ txn.isSome ∧ operation ≠ .commit ∧ operation ≠ .rollback := by
  cases operation with
  | begin => exact .inl rfl
  | commit | rollback => cases fault <;> obtain rfl := Option.some.inj performed <;> cases opened
  | emit event =>
    refine .inr ⟨?_, by simp, by simp⟩
    cases fault <;> obtain rfl := Option.some.inj performed <;> exact opened
  | query executor sql =>
    refine .inr ⟨?_, by simp, by simp⟩
    cases txn with
    | some txn => rfl
    | none =>
      exfalso
      cases executor <;> cases fault <;> simp only [performOp] at performed
      case client.failed | pool.failed =>
        obtain rfl := Option.some.inj performed
        cases opened
      all_goals
        rcases autocommit_cases performed with ⟨error, -, rfl⟩ | ⟨effect, -, -, rfl⟩ <;>
        cases opened

section Resumed

variable {operation : Op S.toEngine}
    {next : Except S.Error operation.Reply → Prog S.toEngine S.Response}

theorem Paced.statement_after (paced : Paced thread lent) (shape : thread.prog = .op operation next)
    (reply : Except S.Error operation.Reply) : (lent.after operation (next reply)).statement =
      false := by
  have statement := paced.statement
  rw [shape] at statement
  rw [Bool.eq_false_iff]
  intro has
  have kept (old : lent.statement = true) : ∃ sql, operation = .query .pool sql := by
    obtain ⟨sql, rest, same⟩ := statement old
    cases same
    exact ⟨sql, rfl⟩
  cases operation with
  | query executor sql =>
    cases executor with
    | pool => cases has
    | client =>
      obtain ⟨sql, same⟩ := kept has
      cases same
  | begin | emit event =>
    obtain ⟨sql, same⟩ := kept has
    cases same
  | commit | rollback =>
    simp only [Lent.after] at has
    obtain ⟨sql, same⟩ := kept (by split at has <;> exact has)
    cases same

theorem Paced.client_after (paced : Paced thread lent) (shape : thread.prog = .op operation next)
    (reply : Except S.Error operation.Reply)
    (has : (lent.after operation (next reply)).client = true) :
    (transacting S.toEngine).next ((transacting S.toEngine).after thread.history)
      ⟨operation, reply⟩ = true ∨
      (next reply).rolls = true := by
  have client := paced.client
  rw [shape] at client
  have inside (old : lent.client = true) (other : operation ≠ .begin ∧ operation ≠ .rollback) :
      (transacting S.toEngine).after thread.history = true := by
    rcases client old with inside | ⟨rest, same⟩ | ⟨rest, same⟩
    · exact inside
    · cases same
      exact absurd rfl other.1
    · cases same
      exact absurd rfl other.2
  cases operation with
  | query executor sql =>
    left
    cases executor <;> exact inside has ⟨by simp, by simp⟩
  | begin => exact .inl rfl
  | emit event => exact .inl (inside has ⟨by simp, by simp⟩)
  | commit | rollback =>
    right
    simp only [Lent.after] at has
    split at has
    · assumption
    · cases has

theorem Paced.transaction_after {fault : Fault} {db : S.Database} {busy : List (Lock S.Resource)}
    {out : Outcome S.toEngine operation.Reply} (paced : Paced thread lent)
    (served : lent.grant operation = none)
    (performed : performOp operation fault thread.txn db busy = some out)
    (opened : out.txn.isSome) :
    (lent.after operation (next out.reply)).client = true := by
  rcases performOp_open performed opened with rfl | ⟨before, commit, rollback⟩
  · simp only [Lent.grant] at served
    split at served
    · assumption
    · cases served
  · cases operation with
    | query executor sql => cases executor <;> exact paced.transaction before
    | begin | emit event => exact paced.transaction before
    | commit => exact absurd rfl commit
    | rollback => exact absurd rfl rollback

theorem Paced.resumed {fault : Fault} {db : S.Database} {busy : List (Lock S.Resource)}
    {out : Outcome S.toEngine operation.Reply} (paced : Paced thread lent)
    (shape : thread.prog = .op operation next) (served : lent.grant operation = none)
    (performed : performOp operation fault thread.txn db busy = some out) :
    Paced (thread.resume operation next out) (lent.after operation (next out.reply)) := by
  have resumed : (transacting S.toEngine).after (thread.resume operation next out).history =
      (transacting S.toEngine).next ((transacting S.toEngine).after thread.history)
      ⟨operation, out.reply⟩ :=
    Monitor.after_concat ..
  have watched := paced.rest (by simp [Thread.result, shape])
  rw [shape] at watched
  have later := watched.2 out.reply
  rw [← resumed] at later
  have statement := paced.statement_after shape out.reply
  refine ⟨?_, ?_, paced.transaction_after served performed, fun _ => later, ?_⟩
  · intro has
    rw [statement] at has
    cases has
  · intro has
    rcases paced.client_after shape out.reply has with inside | rolls
    · exact .inl (resumed.trans inside)
    · right; right
      show ∃ rest, next out.reply = .op .rollback rest
      unfold Prog.rolls at rolls
      split at rolls
      · exact ⟨_, by assumption⟩
      · cases rolls
  · intro finished
    obtain ⟨result, finished⟩ := Option.isSome_iff_exists.mp finished
    have done_ : next out.reply = .done result := Thread.result_eq_some.mp finished
    have closed : (lent.after operation (next out.reply)).client = false := by
      rw [Bool.eq_false_iff]
      intro has
      rw [done_, resumed] at later
      rcases paced.client_after shape out.reply has with inside | rolls
      · exact Bool.noConfusion (inside.symm.trans later)
      · rw [done_] at rolls
        cases rolls
    generalize lent.after operation (next out.reply) = now at statement closed
    cases now
    simp_all

end Resumed

theorem Paced.blank (idle : thread.txn = none)
    (rest : thread.result = none →
      thread.prog.Watched (transacting S.toEngine) (fun _ inside => inside = false)
      ((transacting S.toEngine).after thread.history)) : Paced thread {} where
  statement has := by cases has
  client has := by cases has
  transaction opened := by
    rw [idle] at opened
    cases opened
  rest
  ended _ := rfl

end Paced

structure Smooth (checkout : Checkout S) : Prop where
  paced : ∀ (index : Nat) (thread : Thread S), checkout.system.threads[index]? = some thread →
    Paced thread (checkout.lent index)
  blank : ∀ index, checkout.system.threads.length ≤ index → checkout.lent index = {}

theorem Smooth.set {index : Nat} {lent : Lent} {thread : Thread S} (smooth : Smooth checkout)
    (bound : index < checkout.system.threads.length)
    (threads : checkout'.system.threads = checkout.system.threads.set index thread)
    (lends : checkout'.lent = (checkout.lend index lent).lent) (paced : Paced thread lent) :
    Smooth checkout' := by
  constructor
  · intro other item found
    rw [threads] at found
    rcases getElem?_set_cases found with ⟨rfl, rfl⟩ | ⟨apart, old⟩
    · simpa [lends, Checkout.lend] using paced
    · simpa [lends, Checkout.lend, apart] using smooth.paced other item old
  · intro other outside
    rw [threads, List.length_set] at outside
    have apart : other ≠ index := by omega
    simpa [lends, Checkout.lend, apart] using smooth.blank other outside

theorem Smooth.step {action : Action S}
    (programs : ∀ call, action = .start call → (S.program call).Thrifty) (smooth : Smooth checkout)
    (step : checkout.step size action = some checkout') : Smooth checkout' := by
  cases action with
  | start call =>
    simp only [Checkout.step] at step
    obtain ⟨system, moved, rfl⟩ := Option.map_eq_some_iff.mp step
    obtain rfl := System.step_start moved
    constructor
    · intro index thread present
      rw [List.getElem?_append] at present
      split at present
      · exact smooth.paced index thread present
      · rename_i outside
        obtain rfl := List.mem_singleton.mp (List.mem_of_getElem? present)
        rw [smooth.blank index (Nat.le_of_not_lt outside)]
        exact .blank rfl fun _ => programs call rfl
    · intro index outside
      rw [List.length_append] at outside
      exact smooth.blank index (Nat.le_of_add_right_le outside)
  | acquire index =>
    obtain ⟨thread, lent, present, lacks, -, rfl⟩ := step_acquire step
    have same : checkout.system.threads = checkout.system.threads.set index thread := by
      obtain ⟨bound, rfl⟩ := List.getElem?_eq_some_iff.mp present
      exact (List.set_getElem_self bound).symm
    exact smooth.set (List.getElem?_eq_some_iff.mp present).1 same rfl
      ((smooth.paced index thread present).granted lacks)
  | run index fault =>
    obtain ⟨thread, operation, next, out, present, shape, served, performed, -, threads, lends⟩ :=
      step_run step
    exact smooth.set (List.getElem?_eq_some_iff.mp present).1 threads lends
      ((smooth.paced index thread present).resumed shape served performed)
  | crash index =>
    simp only [Checkout.step] at step
    obtain ⟨system, moved, rfl⟩ := Option.map_eq_some_iff.mp step
    obtain ⟨thread, present, rfl⟩ := System.step_crash moved
    refine smooth.set (List.getElem?_eq_some_iff.mp present).1 rfl rfl (.blank rfl ?_)
    intro unfinished
    cases unfinished

theorem Reachable.smooth (programs : ∀ call, scope.starts call → (S.program call).Thrifty)
    (reachable : Reachable size scope checkout) : Smooth checkout := by
  induction reachable with
  | init =>
    constructor
    · intro index thread present
      cases present
    · intro index outside
      rfl
  | step action _ starts step ih =>
    exact ih.step (fun call same => programs call (starts call same)) step

/-- A session that has a connection has one only and waits for no other, so some connection
can always come back. -/
structure Flows (size : Nat) (checkout : Checkout S) : Prop where
  single : ∀ (index : Nat) (thread : Thread S), checkout.system.threads[index]? = some thread →
    0 < (checkout.lent index).count →
      (checkout.lent index).count = 1 ∧ thread.result = none ∧
      thread.lacks (checkout.lent index) = none
  fed : ¬ checkout.Starved size

theorem Smooth.flows (smooth : Smooth checkout) (positive : 0 < size) : checkout.Flows size := by
  refine ⟨fun index thread present => (smooth.paced index thread present).served, ?_⟩
  rintro ⟨full, waiting⟩
  obtain ⟨index, thread, present, has⟩ := holder_of_inUse (full ▸ positive)
  have waits := waiting index thread present has
  rw [((smooth.paced index thread present).served has).2.2] at waits
  cases waits

end Checkout

end Transactional
