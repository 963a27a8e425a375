import Mathlib.Logic.Basic

set_option autoImplicit false

-- A program is a tree of operations with a continuation for every reply, failures
-- included. The store is READ COMMITTED: a statement sees what is committed plus the
-- writes of its own transaction, and a transaction keeps its locks until it ends.

namespace Transactional

inductive LockMode where
  | shared
  | exclusive
deriving DecidableEq

structure Lock (Resource : Type) where
  resource : Resource
  mode : LockMode
deriving DecidableEq

def Lock.conflicts {Resource : Type} [DecidableEq Resource] (a b : Lock Resource) : Bool :=
  decide (a.resource = b.resource) &&
    (decide (a.mode = .exclusive) || decide (b.mode = .exclusive))

theorem Lock.conflicts_comm {Resource : Type} [DecidableEq Resource] (a b : Lock Resource) :
    a.conflicts b = b.conflicts a := by
  simp [Lock.conflicts, eq_comm, Bool.or_comm]

def Compatible {Resource : Type} [DecidableEq Resource] (xs ys : List (Lock Resource)) : Prop :=
  ∀ x ∈ xs, ∀ y ∈ ys, x.conflicts y = false

instance {Resource : Type} [DecidableEq Resource] (xs ys : List (Lock Resource)) :
    Decidable (Compatible xs ys) :=
  inferInstanceAs (Decidable (∀ x ∈ xs, ∀ y ∈ ys, x.conflicts y = false))

/-- What a statement does once it is no longer waiting. -/
structure Effect (Write Resource Answer : Type) where
  answer : Answer
  writes : List Write := []
  locks : List (Lock Resource) := []

structure Engine where
  Database : Type
  Write : Type
  Resource : Type
  Sql : Type
  Answer : Sql → Type
  Error : Type
  Event : Type
  [decidableResource : DecidableEq Resource]
  apply : Database → Write → Database
  /-- The last argument lists the locks that other sessions hold (for SKIP LOCKED). -/
  exec : (sql : Sql) → Database → List (Lock Resource) →
    Except Error (Effect Write Resource (Answer sql))
  disconnected : Error
  aborted : Error
  crashed : Error

attribute [instance] Engine.decidableResource

/-- A pool query commits by itself; a client query belongs to the open transaction. -/
inductive Executor where
  | pool
  | client
deriving DecidableEq

inductive Op (E : Engine) where
  | query (executor : Executor) (sql : E.Sql)
  | begin
  | commit
  | rollback
  | emit (event : E.Event)

@[reducible] def Op.Reply {E : Engine} : Op E → Type
  | .query _ sql => E.Answer sql
  | .begin | .commit | .rollback | .emit _ => Unit

inductive Prog (E : Engine) (α : Type) where
  | done (result : Except E.Error α)
  | op (operation : Op E) (next : Except E.Error operation.Reply → Prog E α)

namespace Prog

variable {E : Engine} {α β : Type}

def bind (program : Prog E α) (f : α → Prog E β) : Prog E β :=
  match program with
  | .done (.ok value) => f value
  | .done (.error error) => .done (.error error)
  | .op operation next => .op operation fun reply => (next reply).bind f

def tryCatch (program : Prog E α) (handler : E.Error → Prog E α) : Prog E α :=
  match program with
  | .done (.ok value) => .done (.ok value)
  | .done (.error error) => handler error
  | .op operation next => .op operation fun reply => (next reply).tryCatch handler

instance : Monad (Prog E) where
  pure value := .done (.ok value)
  bind := bind

instance : MonadExcept E.Error (Prog E) where
  throw error := .done (.error error)
  tryCatch := tryCatch

def perform (operation : Op E) : Prog E operation.Reply := .op operation .done

def query (executor : Executor) (sql : E.Sql) : Prog E (E.Answer sql) :=
  perform (.query executor sql)

def ofExcept (result : Except E.Error α) : Prog E α := .done result

def forEach (items : List β) (body : β → Prog E Unit) : Prog E Unit :=
  match items with
  | [] => .done (.ok ())
  | item :: rest => (body item).bind fun _ => forEach rest body

def check (passes : Bool) (error : E.Error) : Prog E Unit :=
  if passes then .done (.ok ()) else .done (.error error)

/-- `catch (error) { ROLLBACK; throw error }` -/
def protect (body : Prog E α) : Prog E α :=
  body.tryCatch fun error => (perform .rollback).bind fun _ => .done (.error error)

@[simp] theorem bind_eq (program : Prog E α) (f : α → Prog E β) :
    (program >>= f) = program.bind f := rfl

@[simp] theorem done_bind (value : α) (f : α → Prog E β) :
    (Prog.done (.ok value)).bind f = f value := rfl

theorem bind_assoc {γ : Type} (program : Prog E α) (f : α → Prog E β) (g : β → Prog E γ) :
    (program.bind f).bind g = program.bind fun value => (f value).bind g := by
  induction program with
  | done result => cases result <;> rfl
  | op operation next ih => simp [bind, ih]

theorem bind_pure (program : Prog E α) : program.bind pure = program := by
  induction program with
  | done result => cases result <;> rfl
  | op operation next ih => simp [bind, ih]

@[simp] theorem pure_eq (value : α) : (pure value : Prog E α) = .done (.ok value) := rfl

@[simp] theorem throw_eq (error : E.Error) : (throw error : Prog E α) = .done (.error error) := rfl

@[simp] theorem tryCatch_eq (program : Prog E α) (handler : E.Error → Prog E α) :
    MonadExcept.tryCatch program handler = program.tryCatch handler := rfl

end Prog

structure Txn (E : Engine) where
  writes : List E.Write := []
  locks : List (Lock E.Resource) := []
  aborted : Bool := false

def Txn.view {E : Engine} (txn : Txn E) (db : E.Database) : E.Database :=
  txn.writes.foldl E.apply db

def Txn.abort {E : Engine} (txn : Txn E) : Txn E :=
  { txn with writes := [], aborted := true }

def Txn.add {E : Engine} {Answer : Type} (txn : Txn E)
    (effect : Effect E.Write E.Resource Answer) : Txn E :=
  { txn with writes := txn.writes ++ effect.writes, locks := txn.locks ++ effect.locks }

def held {E : Engine} : Option (Txn E) → List (Lock E.Resource)
  | none => []
  | some txn => txn.locks

@[simp] theorem held_none {E : Engine} : held (E := E) none = [] := rfl

@[simp] theorem held_some {E : Engine} (txn : Txn E) : held (some txn) = txn.locks := rfl

/-- `failed` has no effect; `lost` takes effect but the caller sees an error. -/
inductive Fault where
  | none
  | failed
  | lost
deriving DecidableEq

structure Outcome (E : Engine) (Reply : Type) where
  reply : Except E.Error Reply
  txn : Option (Txn E)
  db : E.Database
  /-- The locks under which `db` was changed. -/
  locks : List (Lock E.Resource) := []
  sent : List E.Event := []

def Fault.reply {E : Engine} {Reply : Type} (fault : Fault)
    (answer : Reply) : Except E.Error Reply :=
  if fault = .lost then .error E.disconnected else .ok answer

variable {E : Engine}

def autocommit (sql : E.Sql) (fault : Fault) (txn : Option (Txn E)) (db : E.Database)
    (busy : List (Lock E.Resource)) : Option (Outcome E (E.Answer sql)) :=
  match E.exec sql db busy with
  | .error error => some { reply := .error error, txn, db }
  | .ok effect =>
    if Compatible effect.locks (busy ++ held txn) then
      some { reply := fault.reply effect.answer, txn, db := effect.writes.foldl E.apply db,
             locks := effect.locks }
    else none

def inTransaction (sql : E.Sql) (txn : Txn E) (db : E.Database)
    (busy : List (Lock E.Resource)) : Option (Outcome E (E.Answer sql)) :=
  if txn.aborted then some { reply := .error E.aborted, txn := some txn, db }
  else
    match E.exec sql (txn.view db) busy with
    | .error error => some { reply := .error error, txn := some txn.abort, db }
    | .ok effect =>
      if Compatible effect.locks busy then
        some { reply := .ok effect.answer, txn := some (txn.add effect), db }
      else none

/-- One operation of a session; `none` means that it waits for a lock in `busy`. -/
def performOp (operation : Op E) (fault : Fault) (txn : Option (Txn E)) (db : E.Database)
    (busy : List (Lock E.Resource)) : Option (Outcome E operation.Reply) :=
  match operation, fault with
  | .query .client _, .failed =>
    some { reply := .error E.disconnected, txn := txn.map Txn.abort, db }
  | .query .pool _, .failed => some { reply := .error E.disconnected, txn, db }
  | .query .client sql, fault =>
    match txn with
    | some txn => inTransaction sql txn db busy
    | none => autocommit sql fault none db busy
  | .query .pool sql, fault => autocommit sql fault txn db busy
  | .begin, .none => some { reply := .ok (), txn := some {}, db }
  | .begin, _ => some { reply := .error E.disconnected, txn := none, db }
  | .commit, .failed => some { reply := .error E.disconnected, txn := none, db }
  | .commit, fault =>
    some { reply := fault.reply (), txn := none, locks := held txn,
           db := (txn.map fun txn => txn.view db).getD db }
  | .rollback, .none => some { reply := .ok (), txn := none, db }
  | .rollback, _ => some { reply := .error E.disconnected, txn := none, db }
  | .emit _, .failed => some { reply := .error E.disconnected, txn, db }
  | .emit event, fault => some { reply := fault.reply (), txn, db, sent := [event] }

end Transactional
