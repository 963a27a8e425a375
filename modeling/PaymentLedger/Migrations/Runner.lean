import PaymentLedger.Shared.Advisory
import Mathlib.Data.List.Sort
import Mathlib.Data.List.Lex
import Mathlib.Order.Nat

set_option autoImplicit false

-- `scripts/migrate.ts` of Bank A and of the Hub, and `scripts/migrate.py` of Bank B. What the
-- script of a migration does to the schema is up to the database, and a parameter.

namespace Migrations

open Transactional

structure Catalog where
  Schema : Type
  Fault : Type
  empty : Schema
  execute : String → Schema → Except Fault Schema

structure File where
  name : String
  /-- `none` when it cannot be read. -/
  content : Option String
deriving DecidableEq

/-- What `readdir` lists, in any order. -/
structure Directory where
  files : List File
  distinct : (files.map File.name).Nodup

-- `.sort()` compares UTF-16 code units, `sorted()` code points.
def utf16 (name : String) : List Nat :=
  name.toList.flatMap fun c =>
    if c.toNat < 0x10000 then [c.toNat]
    else [0xD800 + (c.toNat - 0x10000) / 0x400, 0xDC00 + (c.toNat - 0x10000) % 0x400]

def codePoints (name : String) : List Nat := name.toList.map Char.toNat

def Directory.migrations (directory : Directory) (units : String → List Nat) : List File :=
  (directory.files.filter fun file => decide (".sql".toList <:+ file.name.toList)).insertionSort
    fun first second => units first.name ≤ units second.name

variable {K : Catalog}

structure Database (K : Catalog) where
  schema : K.Schema
  /-- `none` before the table is created. -/
  schemaMigrations : Option (List String) := none

inductive Write where
  | createTable
  | script (sql : String)
  | name (file : String)

def Database.apply (db : Database K) : Write → Database K
  | .createTable => { db with schemaMigrations := some (db.schemaMigrations.getD []) }
  | .script sql =>
    match K.execute sql db.schema with
    | .ok schema => { db with schema }
    | .error _ => db
  | .name file => { db with schemaMigrations := db.schemaMigrations.map (· ++ [file]) }

inductive Failure (K : Catalog) where
  | script (fault : K.Fault)
  | undefinedTable
  | uniqueViolation
  | disconnected
  | aborted
  | crashed
  | unreadable (file : String)
  | migrationFailed (file : String) (cause : Failure K)

inductive Sql where
  | createTable
  | selectNames
  | script (sql : String)
  | insertName (file : String)

@[reducible] def Sql.Answer : Sql → Type
  | .selectNames => List String
  | .createTable | .script _ | .insertName _ => Unit

def execute (sql : Sql) (db : Database K) : Except (Failure K) (Effect Write Empty sql.Answer) :=
  match sql with
  | .createTable => .ok { answer := (), writes := [.createTable] }
  | .selectNames =>
    match db.schemaMigrations with
    | some names => .ok { answer := names }
    | none => .error .undefinedTable
  | .script sql =>
    match K.execute sql db.schema with
    | .ok _ => .ok { answer := (), writes := [.script sql] }
    | .error fault => .error (.script fault)
  | .insertName file =>
    match db.schemaMigrations with
    | none => .error .undefinedTable
    | some names =>
      if file ∈ names then .error .uniqueViolation else .ok { answer := (), writes := [.name file] }

def engine (K : Catalog) : Engine where
  Database := Database K
  Write := Write
  Resource := Empty
  Sql := Sql
  Answer := Sql.Answer
  Error := Failure K
  Event := Empty
  apply := Database.apply
  exec sql db _ := execute sql db
  disconnected := .disconnected
  aborted := .aborted
  crashed := .crashed

abbrev Program (K : Catalog) (α : Type) := Prog (engine K) α

def sql (statement : Sql) : Program K statement.Answer :=
  Prog.query (E := engine K) .client statement

def perform (operation : Op (engine K)) : Program K operation.Reply := Prog.perform operation

def fail {α : Type} (failure : Failure K) : Program K α := throw (m := Prog (engine K)) failure

def readFile (file : File) : Program K String :=
  match file.content with
  | some content => return content
  | none => fail (.unreadable file.name)

/-- The loop over the sorted files, with the transaction that applies one of them. -/
def migrateWith (units : String → List Nat) (transaction : String → String → Program K Unit)
    (directory : Directory) : Program K Unit := do
  sql .createTable
  let applied ← sql .selectNames
  Prog.forEach (directory.migrations units) fun file =>
    if file.name ∈ applied then return ()
    else do
      let script ← readFile file
      transaction file.name script

/-- `BEGIN` and `COMMIT` by hand; the failure of anything in between names the file. -/
def tryTransaction (file script : String) : Program K Unit := do
  perform .begin
  let body : Program K Unit := do
    sql (.script script)
    sql (.insertName file)
    perform .commit
  MonadExcept.tryCatch body fun error => do
    perform .rollback
    fail (.migrationFailed file error)

/-- `async with connection.transaction()` -/
def withTransaction (file script : String) : Program K Unit := do
  perform .begin
  let body : Program K Unit := do
    sql (.script script)
    sql (.insertName file)
  MonadExcept.tryCatch body fun error => do
    perform .rollback
    fail error
  perform .commit

def BankA.migrate (directory : Directory) : Program K Unit :=
  migrateWith utf16 tryTransaction directory

def Hub.migrate (directory : Directory) : Program K Unit :=
  migrateWith utf16 tryTransaction directory

def BankB.migrate (directory : Directory) : Program K Unit :=
  migrateWith codePoints withTransaction directory

inductive Institution where
  | bankA
  | hub
  | bankB
deriving DecidableEq

namespace Institution

def migrate (K : Catalog) : Institution → Directory → Program K Unit
  | .bankA => BankA.migrate
  | .hub => Hub.migrate
  | .bankB => BankB.migrate

def units : Institution → String → List Nat
  | .bankA | .hub => utf16
  | .bankB => codePoints

def transaction (K : Catalog) : Institution → String → String → Program K Unit
  | .bankA | .hub => tryTransaction
  | .bankB => withTransaction

theorem migrate_eq (institution : Institution) (directory : Directory) :
    institution.migrate K directory =
      migrateWith institution.units (institution.transaction K) directory := by
  cases institution <;> rfl

end Institution

/-- The runners that are started on the database of one institution. -/
def service (K : Catalog) (institution : Institution) : Service where
  toEngine := engine K
  Call := Directory
  Response := Unit
  program := institution.migrate K

def runners (K : Catalog) (institution : Institution) (starts : Directory → Prop) :
    Scope (service K institution) where
  initial := { schema := K.empty }
  starts := starts

section Sorted

variable {directory : Directory} {units : String → List Nat}

theorem migrations_nodup : ((directory.migrations units).map File.name).Nodup := by
  have sorted := List.perm_insertionSort
    (fun first second : File => units first.name ≤ units second.name)
    (directory.files.filter fun file => decide (".sql".toList <:+ file.name.toList))
  refine (sorted.map File.name).nodup_iff.mpr ?_
  exact directory.distinct.sublist ((List.filter_sublist).map File.name)

end Sorted

end Migrations
