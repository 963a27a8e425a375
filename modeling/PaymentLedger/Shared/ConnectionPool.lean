import PaymentLedger.Shared.RelyGuarantee
import Mathlib.Algebra.GroupWithZero.Nat

set_option autoImplicit false

-- A pool query takes a connection for one statement, a transaction holds one from before its
-- BEGIN until it is over. Whoever finds no connection waits.

namespace Transactional

/-- A connection is `spent` when the session goes on only once it has given it back. -/
inductive Lease where
  | free
  | held
  | spent
deriving DecidableEq

def Lease.count : Lease → Nat
  | .free => 0
  | .held | .spent => 1

structure Leases where
  statement : Lease := .free
  transaction : Lease := .free
deriving DecidableEq

namespace Leases

def count (leases : Leases) : Nat := leases.statement.count + leases.transaction.count

def settled (leases : Leases) : Bool := leases.statement ≠ .spent && leases.transaction ≠ .spent

variable {E : Engine}

/-- The leases with the connection that the operation lacks; `none` when it lacks none. -/
def grant (leases : Leases) (operation : Op E) : Option Leases :=
  match operation with
  | .query .pool _ =>
    if leases.statement = .free then some { leases with statement := .held } else none
  | .begin => if leases.transaction = .free then some { leases with transaction := .held } else none
  | .query .client _ | .commit | .rollback | .emit _ => none

def after (leases : Leases) (operation : Op E) (reply : Except E.Error operation.Reply) : Leases :=
  match operation with
  | .query .pool _ => { leases with statement := .spent }
  | .begin => if reply.isOk then leases else { leases with transaction := .spent }
  | .commit | .rollback => { leases with transaction := .spent }
  | .query .client _ | .emit _ => leases

def release (leases : Leases) : Leases where
  statement := if leases.statement = .spent then .free else leases.statement
  transaction := if leases.transaction = .spent then .free else leases.transaction

end Leases

variable {S : Service}

/-- What the session will hold once it is served; `none` when it waits for no connection. -/
def Thread.waits (thread : Thread S) (leases : Leases) : Option Leases :=
  match thread.prog with
  | .done _ => none
  | .op operation _ => if leases.settled then leases.grant operation else none

theorem Thread.waits_of_op {thread : Thread S} {operation : Op S.toEngine}
    {next : Except S.Error operation.Reply → Prog S.toEngine S.Response} {leases : Leases}
    (shape : thread.prog = .op operation next) (settled : leases.settled = true) :
    thread.waits leases = leases.grant operation := by
  simp [Thread.waits, shape, settled]

theorem performOp_read {E : Engine} {sql : E.Sql} {txn : Option (Txn E)} {db : E.Database}
    {busy : List (Lock E.Resource)} {answer : E.Answer sql}
    (read : E.exec sql db busy = .ok { answer }) :
    performOp (.query .pool sql) .none txn db busy = some { reply := .ok answer, txn, db } := by
  simp [performOp, autocommit, read, compatible_nil, Fault.reply]

structure Pool (S : Service) where
  system : System S
  leases : Nat → Leases := fun _ => {}

namespace Pool

def inUse (pool : Pool S) : Nat :=
  (pool.system.threads.mapIdx fun index _ => (pool.leases index).count).sum

def inProgress (pool : Pool S) : Nat :=
  pool.system.threads.countP fun thread => thread.result.isNone

def lend (pool : Pool S) (index : Nat) (leases : Leases) : Pool S :=
  { pool with leases := fun other => if other = index then leases else pool.leases other }

inductive Action (S : Service) where
  | start (call : S.Call)
  | acquire (index : Nat)
  | run (index : Nat) (fault : Fault)
  | release (index : Nat)
  | crash (index : Nat)

/-- At most `prefetch` calls are in progress, over `size` connections. -/
def step (size prefetch : Nat) (admits : List S.Call → S.Call → Bool) (pool : Pool S) :
    Action S → Option (Pool S)
  | .start call =>
    if pool.inProgress < prefetch && admits (pool.system.threads.map Thread.call) call then
      (pool.system.step (.start call)).map fun system => { pool with system }
    else none
  | .acquire index =>
    match pool.system.threads[index]? with
    | none => none
    | some thread =>
      match thread.waits (pool.leases index) with
      | none => none
      | some leases => if pool.inUse < size then some (pool.lend index leases) else none
  | .run index fault =>
    match pool.system.threads[index]? with
    | none => none
    | some thread =>
      match thread.prog with
      | .done _ => none
      | .op operation next =>
        if (pool.leases index).settled && ((pool.leases index).grant operation).isNone then
          (performOp operation fault thread.txn pool.system.db (pool.system.busy index)).map
            fun out =>
            { pool.lend index ((pool.leases index).after operation out.reply) with
              system := { db := out.db
                          threads := pool.system.threads.set index
                            (thread.resume operation next out)
                          sent := pool.system.sent ++ out.sent } }
        else none
  | .release index =>
    if (pool.leases index).settled then none else some (pool.lend index (pool.leases index).release)
  | .crash index => (pool.system.step (.crash index)).map fun system => { pool.lend index {} with system }

inductive Reachable (size prefetch : Nat) (admits : List S.Call → S.Call → Bool)
    (initial : S.Database → Prop) :
    Pool S → Prop where
  | init (db : S.Database) : initial db →
      Reachable size prefetch admits initial { system := { db } }
  | step {pool pool' : Pool S} (action : Action S) : Reachable size prefetch admits initial pool →
      pool.step size prefetch admits action = some pool' →
      Reachable size prefetch admits initial pool'

/-- Every connection is held by a session that waits for another one. -/
def LockedUp (size : Nat) (pool : Pool S) : Prop :=
  pool.inUse = size ∧ ∀ (index : Nat) (thread : Thread S),
    pool.system.threads[index]? = some thread →
    0 < (pool.leases index).count → (thread.waits (pool.leases index)).isSome

variable {size prefetch : Nat} {admits : List S.Call → S.Call → Bool} {initial : S.Database → Prop}
variable {pool pool' : Pool S}

theorem step_system {action : Action S}
    (step : pool.step size prefetch admits action = some pool') :
    pool'.system = pool.system ∨
    (∃ call, pool.inProgress < prefetch ∧ admits (pool.system.threads.map Thread.call) call = true ∧
      pool.system.step (.start call) = some pool'.system) ∨
    (∃ index fault, pool.system.step (.run index fault) = some pool'.system) ∨
    ∃ index, pool.system.step (.crash index) = some pool'.system := by
  cases action with
  | start call =>
    simp only [Pool.step] at step
    split at step
    · rename_i admitted
      simp only [Bool.and_eq_true, decide_eq_true_eq] at admitted
      obtain ⟨system, moved, rfl⟩ := Option.map_eq_some_iff.mp step
      exact .inr (.inl ⟨call, admitted.1, admitted.2, moved⟩)
    · cases step
  | acquire index =>
    simp only [Pool.step] at step
    split at step
    · cases step
    · split at step
      · cases step
      · split at step
        · obtain rfl := Option.some.inj step
          exact .inl rfl
        · cases step
  | run index fault =>
    simp only [Pool.step] at step
    split at step
    · cases step
    · rename_i thread present
      split at step
      · cases step
      · rename_i operation next shape
        split at step
        · obtain ⟨out, performed, rfl⟩ := Option.map_eq_some_iff.mp step
          refine .inr (.inr (.inl ⟨index, fault, ?_⟩))
          simp [System.step, present, shape, performed]
        · cases step
  | release index =>
    simp only [Pool.step] at step
    split at step
    · cases step
    · obtain rfl := Option.some.inj step
      exact .inl rfl
  | crash index =>
    simp only [Pool.step] at step
    obtain ⟨system, moved, rfl⟩ := Option.map_eq_some_iff.mp step
    exact .inr (.inr (.inr ⟨index, moved⟩))

theorem countP_set_le {T : Type} {items : List T} {index : Nat} {item : T} {p : T → Bool}
    (kept : ∀ old, items[index]? = some old → p item = true → p old = true) :
    (items.set index item).countP p ≤ items.countP p := by
  induction items generalizing index with
  | nil => simp
  | cons head rest ih =>
    cases index with
    | zero =>
      have now := kept head rfl
      simp only [List.set_cons_zero, List.countP_cons]
      split <;> split <;> simp_all
    | succ index =>
      have later := @ih index fun old present => kept old (by simpa using present)
      simp only [List.set_cons_succ, List.countP_cons]
      omega

theorem Reachable.inProgress_le (reachable : Reachable size prefetch admits initial pool) :
    pool.inProgress ≤ prefetch := by
  induction reachable with
  | init db _ => exact Nat.zero_le _
  | @step pool pool' action _ step ih =>
    simp only [inProgress] at ih ⊢
    rcases step_system step with same | ⟨call, room, -, moved⟩ | ⟨index, fault, moved⟩ |
      ⟨index, moved⟩
    · rw [same]
      exact ih
    · rw [System.step_start moved, List.countP_append, List.countP_singleton]
      simp only [inProgress] at room
      split <;> omega
    · obtain ⟨thread, operation, next, out, present, shape, -, after⟩ := System.step_run moved
      rw [after]
      refine Nat.le_trans (countP_set_le ?_) ih
      intro old found _
      obtain rfl := Option.some.inj (present.symm.trans found)
      simp [Thread.result, shape]
    · obtain ⟨thread, present, after⟩ := System.step_crash moved
      rw [after]
      refine Nat.le_trans (countP_set_le ?_) ih
      intro old found unfinished
      simp [Thread.result, Thread.crash] at unfinished

theorem waits_unfinished {thread : Thread S} {leases : Leases}
    (waits : (thread.waits leases).isSome) :
    thread.result.isNone = true := by
  unfold Thread.waits at waits
  unfold Thread.result
  split <;> simp_all

/-- Whoever waits holds one connection at most. -/
theorem waits_count {thread : Thread S} {leases : Leases} (waits : (thread.waits leases).isSome) :
    leases.count ≤ 1 := by
  have single (lease : Lease) : lease.count ≤ 1 := by cases lease <;> decide
  have first := single leases.statement
  have second := single leases.transaction
  unfold Thread.waits at waits
  split at waits
  · cases waits
  · split at waits
    · rename_i operation _ _ _
      cases operation with
      | query executor sql =>
        cases executor with
        | pool =>
          simp only [Leases.grant] at waits
          split at waits
          · simp_all [Leases.count, Lease.count]
          · cases waits
        | client => cases waits
      | begin =>
        simp only [Leases.grant] at waits
        split at waits
        · simp_all [Leases.count, Lease.count]
        · cases waits
      | commit | rollback | emit event => cases waits
    · cases waits

theorem sum_mapIdx_le_countP {T : Type} {items : List T} {p : T → Bool} {f : Nat → Nat}
    (each : ∀ index item, items[index]? = some item → f index ≤ if p item = true then 1 else 0) :
    (items.mapIdx fun index _ => f index).sum ≤ items.countP p := by
  induction items generalizing f with
  | nil => simp
  | cons head rest ih =>
    have first := each 0 head rfl
    have later := ih (f := fun index => f (index + 1)) fun index item present =>
      each (index + 1) item (by simpa using present)
    simp only [List.mapIdx_cons, List.sum_cons, List.countP_cons]
    omega

/-- A locked-up pool has as many calls in progress as connections. -/
theorem LockedUp.le_inProgress (locked : LockedUp size pool) : size ≤ pool.inProgress := by
  obtain ⟨full, waiting⟩ := locked
  rw [← full]
  refine sum_mapIdx_le_countP ?_
  intro index thread present
  by_cases idle : (pool.leases index).count = 0
  · rw [idle]
    exact Nat.zero_le _
  · have waits := waiting index thread present (Nat.pos_of_ne_zero idle)
    rw [if_pos (waits_unfinished waits)]
    exact waits_count waits

def join (pool : Pool S) (thread : Thread S) (leases : Leases) : Pool S where
  system := { pool.system with threads := pool.system.threads ++ [thread] }
  leases := fun index => if index = pool.system.threads.length then leases else pool.leases index

section Join

variable {thread : Thread S} {leases : Leases}

theorem join_thread : (pool.join thread leases).system.threads[pool.system.threads.length]? =
      some thread := by
  simp [join]

theorem join_leases : (pool.join thread leases).leases pool.system.threads.length = leases := by
  simp [join]

theorem join_lend (other : Leases) :
    (pool.join thread leases).lend pool.system.threads.length other = pool.join thread other := by
  simp only [join, lend, Pool.mk.injEq, true_and]
  funext index
  split <;> rfl

theorem join_inUse : (pool.join thread leases).inUse = pool.inUse + leases.count := by
  have old : pool.system.threads.mapIdx
      (fun index _ => ((pool.join thread leases).leases index).count) =
      pool.system.threads.mapIdx fun index _ => (pool.leases index).count := by
    refine List.mapIdx_eq_mapIdx_iff.mpr ?_
    intro index bound
    simp [join, Nat.ne_of_lt bound]
  simp only [inUse]
  rw [show (pool.join thread leases).system.threads = pool.system.threads ++ [thread] from rfl,
    List.mapIdx_append, List.sum_append, old]
  simp [join]

theorem join_start {call : S.Call} (room : pool.inProgress < prefetch)
    (admitted : admits (pool.system.threads.map Thread.call) call = true)
    (blank : pool.leases pool.system.threads.length = {}) :
    pool.step size prefetch admits (.start call) =
      some (pool.join { call, prog := S.program call } {}) := by
  have same : (fun index =>
      if index = pool.system.threads.length then ({} : Leases) else pool.leases index) =
      pool.leases := by
    funext index
    split
    · rename_i last
      rw [last, blank]
    · rfl
  simp [Pool.step, room, admitted, System.step, join, same]

theorem join_acquire {granted : Leases} (waits : thread.waits leases = some granted)
    (free : pool.inUse + leases.count < size) :
    (pool.join thread leases).step size prefetch admits (.acquire pool.system.threads.length) =
      some (pool.join thread granted) := by
  have total : (pool.join thread leases).inUse = pool.inUse + leases.count := join_inUse
  rw [← total] at free
  simp only [Pool.step, join_thread, join_leases, waits, free, if_true, join_lend]

theorem join_release (spent : leases.settled = false) :
    (pool.join thread leases).step size prefetch admits (.release pool.system.threads.length) =
      some (pool.join thread leases.release) := by
  simp [Pool.step, join_leases, spent, join_lend]

theorem join_run {operation : Op S.toEngine}
    {next : Except S.Error operation.Reply → Prog S.toEngine S.Response}
    {out : Outcome S.toEngine operation.Reply} (shape : thread.prog = .op operation next)
    (settled : leases.settled = true) (granted : leases.grant operation = none)
    (performed : performOp operation .none thread.txn pool.system.db
      (pool.system.threads.flatMap Thread.held) = some out)
    (kept : out.db = pool.system.db) (silent : out.sent = []) :
    (pool.join thread leases).step size prefetch admits (.run pool.system.threads.length .none) =
      some (pool.join (thread.resume operation next out) (leases.after operation out.reply)) := by
  have busy : (pool.join thread leases).system.busy pool.system.threads.length =
      pool.system.threads.flatMap Thread.held := by
    simp [System.busy, join, List.eraseIdx_append_of_length_le]
  have performed' : performOp operation .none thread.txn (pool.join thread leases).system.db
      ((pool.join thread leases).system.busy pool.system.threads.length) = some out := by
    rw [busy]
    exact performed
  simp only [Pool.step, join_thread, shape, join_leases, settled, granted, Option.isNone_none,
    Bool.and_self, if_true, performed', Option.map_some, join_lend]
  simp [join, kept, silent]

end Join

end Pool

end Transactional
