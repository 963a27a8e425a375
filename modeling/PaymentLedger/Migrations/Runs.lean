import PaymentLedger.Migrations.Runner
import PaymentLedger.Shared.Sequential

set_option autoImplicit false

-- A migration is recorded with what its script did or not at all. Since the runners take turns,
-- the schema is at any time the work of the recorded scripts in their order.

namespace Migrations

open Transactional

variable {K : Catalog}

namespace Database

def names (db : Database K) : List String := db.schemaMigrations.getD []

def prepare (db : Database K) : Database K := db.apply .createTable

def record (db : Database K) (file script : String) : Option (Database K) :=
  match db.schemaMigrations, K.execute script db.schema with
  | some names, .ok schema =>
    if file ∈ names then none else some { schema, schemaMigrations := some (names ++ [file]) }
  | _, _ => none

def migrate (db : Database K) (file : File) : Option (Database K) :=
  file.content.bind (db.record file.name)

def advance (db : Database K) : List File → Option (Database K)
  | [] => some db
  | file :: rest => (db.migrate file).bind fun later => later.advance rest

def pending (db : Database K) (files : List File) : List File :=
  files.filter fun file => decide (file.name ∉ db.names)

variable {db later : Database K}

@[simp] theorem names_prepare : db.prepare.names = db.names := rfl

theorem record_ok {file script : String} (recorded : db.record file script = some later) :
    file ∉ db.names ∧ later.names = db.names ++ [file] ∧
    K.execute script db.schema = .ok later.schema := by
  unfold record at recorded
  split at recorded
  · rename_i names schema listed ran
    split at recorded
    · cases recorded
    · rename_i new
      obtain rfl := Option.some.inj recorded
      simp [Database.names, listed, new, ran]
  · cases recorded

theorem advance_append (first second : List File) :
    db.advance (first ++ second) = (db.advance first).bind fun middle => middle.advance second := by
  induction first generalizing db with
  | nil => rfl
  | cons file rest ih => simp only [List.cons_append, advance, ih, Option.bind_assoc]

theorem advance_names {files : List File} (advanced : db.advance files = some later) :
    later.names = db.names ++ files.map File.name ∧ (db.names.Nodup → later.names.Nodup) := by
  induction files generalizing db with
  | nil =>
    obtain rfl := Option.some.inj advanced
    simp
  | cons file rest ih =>
    obtain ⟨middle, migrated, further⟩ := Option.bind_eq_some_iff.mp advanced
    obtain ⟨script, -, recorded⟩ := Option.bind_eq_some_iff.mp migrated
    obtain ⟨new, named, -⟩ := record_ok recorded
    obtain ⟨same, distinct⟩ := ih further
    refine ⟨by simp [same, named], fun before => distinct ?_⟩
    rw [named]
    exact List.nodup_append.mpr
      ⟨before, List.nodup_singleton _,
       by simpa using fun other member => ne_of_mem_of_not_mem member new⟩

end Database

section Turns

variable {R : Database K → Prop} {db : Database K} {file script : String}

theorem transaction_leads (institution : Institution) (holds : R db)
    (next : ∀ later, db.record file script = some later → R later) :
    Prog.Leads (E := engine K) R (Prog.Between (fun later => db.record file script = some later) R)
      (institution.transaction K file script) none db := by
  have written {first second : Effect Write Empty Unit}
      (ran : execute (.script script) db = .ok first)
      (listed : execute (.insertName file) (first.writes.foldl Database.apply db) = .ok second) :
      db.record file script = some ((first.writes ++ second.writes).foldl Database.apply db) := by
    simp only [execute] at ran
    split at ran
    · rename_i schema done
      obtain rfl := Except.ok.inj ran
      simp only [List.foldl_cons, List.foldl_nil, Database.apply, done, execute] at listed
      split at listed
      · cases listed
      · rename_i names known
        split at listed
        · cases listed
        · rename_i new
          obtain rfl := Except.ok.inj listed
          simp [Database.record, Database.apply, known, done, new]
    · cases ran
  cases institution with
  | bankA | hub =>
    refine Prog.leads_begin holds (fun _ => holds) ?_
    refine Prog.leads_tryCatch
      (P := Prog.Between (fun later => db.record file script = some later) R) ?_
      (fun _ _ _ committed => committed) ?_
    · refine Prog.leads_client holds rfl (fun _ => holds) fun first ran => ?_
      refine Prog.leads_client holds rfl (fun _ => holds) fun second listed => ?_
      have recorded := written ran listed
      rw [← Prog.bind_pure (perform .commit)]
      exact Prog.leads_commit holds (fun _ => holds) (fun _ => next _ recorded)
        ⟨next _ recorded, rfl, recorded⟩
    · intro error txn later kept _
      exact Prog.leads_rollback kept (fun _ => kept) ⟨kept, kept⟩
  | bankB =>
    refine Prog.leads_begin holds (fun _ => holds) ?_
    -- The scripts have run when the block ends; its COMMIT comes after that.
    let Ran : Prog.Ending (engine K) Unit := fun result txn later =>
      match result with
      | .ok _ => later = db ∧ ∃ now, txn = some now ∧ db.record file script = some (now.view db)
      | .error _ => R later
    refine Prog.leads_bind (P := Ran) ?_ ?_ (fun _ _ _ kept => kept)
    · refine Prog.leads_tryCatch (P := Ran) ?_ (fun _ _ _ ran => ran) ?_
      · refine Prog.leads_client holds rfl (fun _ => holds) fun first ran => ?_
        rw [← Prog.bind_pure (sql (.insertName file))]
        refine Prog.leads_client holds rfl (fun _ => holds) fun second listed => ?_
        exact ⟨holds, rfl, _, rfl, written ran listed⟩
      · intro error txn later kept _
        exact Prog.leads_rollback kept (fun _ => kept) ⟨kept, kept⟩
    · rintro _ _ later _ ⟨rfl, now, rfl, recorded⟩
      rw [← Prog.bind_pure (perform .commit)]
      exact Prog.leads_commit holds (fun _ => holds) (fun _ => next _ recorded)
        ⟨next _ recorded, rfl, recorded⟩

/-- Where a runner can stop: `db` itself, or `db` with some of the files that were pending. -/
def Reaches (db : Database K) (order : List File) (later : Database K) : Prop :=
  later = db ∨ ∃ part, part <+: db.pending order ∧ db.prepare.advance part = some later

theorem Database.pending_append (first second : List File) :
    db.pending (first ++ second) = db.pending first ++ db.pending second := List.filter_append ..

def Done (db : Database K) (order rest : List File) (later : Database K) : Prop :=
  ∃ done, order = done ++ rest ∧ db.prepare.advance (db.pending done) = some later

theorem Done.reaches {order rest : List File} {later : Database K}
    (done : Done db order rest later) :
    Reaches db order later := by
  obtain ⟨files, split, advanced⟩ := done
  exact .inr ⟨db.pending files,
    by rw [split, Database.pending_append]; exact List.prefix_append .., advanced⟩

theorem file_leads (institution : Institution) {order rest : List File} {file : File}
    {later : Database K} (done : Done db order (file :: rest) later) :
    Prog.Leads (E := engine K) (Reaches db order)
      (Prog.Between (Done db order rest) (Reaches db order))
      (if file.name ∈ db.names then return () else do
        let script ← readFile file
        institution.transaction K file.name script) none later := by
  have here := done.reaches
  obtain ⟨files, split, advanced⟩ := done
  have split_ : order = files ++ [file] ++ rest := by simpa using split
  have further : db.pending (files ++ [file]) = db.pending files ++ db.pending [file] :=
    Database.pending_append ..
  by_cases applied : file.name ∈ db.names
  · have same : db.pending (files ++ [file]) = db.pending files := by
      rw [further]
      simp [Database.pending, applied]
    rw [if_pos applied]
    exact ⟨here, rfl, files ++ [file], split_, same ▸ advanced⟩
  · rw [if_neg applied]
    unfold readFile
    cases content : file.content with
    | none => exact ⟨here, here⟩
    | some script =>
      have recorded (next : Database K) (record : later.record file.name script = some next) :
          Done db order rest next := by
        refine ⟨files ++ [file], split_, ?_⟩
        have one : db.pending [file] = [file] := by simp [Database.pending, applied]
        rw [further, one, Database.advance_append, advanced]
        simp [Database.advance, Database.migrate, content, record]
      refine Prog.leads_mono (E := engine K) ?_
        (transaction_leads institution here fun next record => (recorded next record).reaches)
      rintro (error | value) txn next _ ended
      · exact ended
      · exact ⟨ended.1, recorded next ended.2⟩

theorem migrate_leads (institution : Institution) (directory : Directory) (db : Database K) :
    Prog.Leads (E := engine K) (Reaches db (directory.migrations institution.units))
      (Prog.Between (fun later =>
        db.prepare.advance (db.pending (directory.migrations institution.units)) = some later)
        (Reaches db (directory.migrations institution.units)))
      (institution.migrate K directory) none db := by
  rw [Institution.migrate_eq]
  unfold migrateWith
  generalize directory.migrations institution.units = order
  have stopped : Reaches db order db := .inl rfl
  have prepared : Reaches db order db.prepare := .inr ⟨[], List.nil_prefix, rfl⟩
  refine Prog.leads_statement stopped (fun _ => stopped) ?_
  intro created ran
  obtain rfl := Except.ok.inj ran
  refine ⟨fun _ => prepared, ?_⟩
  refine Prog.leads_statement prepared (fun _ => prepared) ?_
  intro listed ran
  obtain rfl := Except.ok.inj ran
  refine ⟨fun _ => prepared, ?_⟩
  have loop := Prog.leads_forEach (E := engine K) (I := Done db order) (fun _ done => done.reaches)
    ⟨[], rfl, rfl⟩ fun file rest later _ done => file_leads institution done
  refine Prog.leads_mono (E := engine K) ?_ loop
  rintro (error | value) txn later _ ended
  · exact ended
  · obtain ⟨free, files, split, advanced⟩ := ended
    rw [List.append_nil] at split
    exact ⟨free, split ▸ advanced⟩

end Turns

def replay (K : Catalog) (schema : K.Schema) : List File → Option K.Schema
  | [] => some schema
  | file :: rest => file.content.bind fun script => (K.execute script schema).toOption.bind fun later => replay K later rest

namespace Database

variable {db later : Database K}

def fresh : Database K := { schema := K.empty }

theorem migrate_ok {file : File} (migrated : db.migrate file = some later) :
    file.name ∉ db.names ∧ later.names = db.names ++ [file.name] ∧
    replay K db.schema [file] = some later.schema := by
  obtain ⟨script, content, recorded⟩ := Option.bind_eq_some_iff.mp migrated
  obtain ⟨new, named, ran⟩ := record_ok recorded
  exact ⟨new, named, by simp [replay, content, ran, Except.toOption]⟩

theorem replay_cons (schema : K.Schema) (file : File) (rest : List File) :
    replay K schema (file :: rest) = (replay K schema [file]).bind fun later =>
    replay K later rest := by
  simp [replay, Option.bind_assoc]

theorem advance_replay {files : List File} (advanced : db.advance files = some later) :
    replay K db.schema files = some later.schema := by
  induction files generalizing db with
  | nil =>
    obtain rfl := Option.some.inj advanced
    rfl
  | cons file rest ih =>
    obtain ⟨middle, migrated, further⟩ := Option.bind_eq_some_iff.mp advanced
    rw [replay_cons, (migrate_ok migrated).2.2]
    exact ih further

/-- `log` has been applied, and every migration recorded is in it. -/
def Holds (log : List File) (db : Database K) : Prop :=
  db = fresh ∧ log = [] ∨ fresh.prepare.advance log = some db

theorem Holds.names {log : List File} (holds : Holds log db) : db.names = log.map File.name ∧
    db.names.Nodup := by
  rcases holds with ⟨rfl, rfl⟩ | advanced
  · exact ⟨rfl, List.nodup_nil⟩
  · obtain ⟨same, distinct⟩ := advance_names advanced
    exact ⟨same, distinct List.nodup_nil⟩

theorem Holds.schema {log : List File} (holds : Holds log db) :
    replay K K.empty log = some db.schema := by
  rcases holds with ⟨rfl, rfl⟩ | advanced
  · rfl
  · exact advance_replay advanced

theorem record_prepare {file script : String} (recorded : db.record file script = some later) :
    later.prepare = later := by
  unfold record at recorded
  split at recorded
  · split at recorded
    · cases recorded
    · obtain rfl := Option.some.inj recorded
      rfl
  · cases recorded

theorem advance_prepare {files : List File} (created : db.prepare = db)
    (advanced : db.advance files = some later) :
    later.prepare = later := by
  induction files generalizing db with
  | nil =>
    obtain rfl := Option.some.inj advanced
    exact created
  | cons file rest ih =>
    obtain ⟨middle, migrated, further⟩ := Option.bind_eq_some_iff.mp advanced
    obtain ⟨script, -, recorded⟩ := Option.bind_eq_some_iff.mp migrated
    exact ih (record_prepare recorded) further

theorem Holds.advance {log part : List File} (holds : Holds log db)
    (advanced : db.prepare.advance part = some later) :
    Holds (log ++ part) later := by
  refine .inr ?_
  rcases holds with ⟨rfl, rfl⟩ | before
  · exact advanced
  · rw [advance_append, before]
    rw [advance_prepare rfl before] at advanced
    exact advanced

theorem Holds.reaches {log order : List File} (holds : Holds log db)
    (reaches : Reaches db order later) :
    ∃ part, part <+: db.pending order ∧ Holds (log ++ part) later := by
  rcases reaches with rfl | ⟨part, sub, advanced⟩
  · exact ⟨[], List.nil_prefix, by simpa using holds⟩
  · exact ⟨part, sub, holds.advance advanced⟩

theorem pending_eq_nil {files : List File} (known : ∀ file ∈ files, file.name ∈ db.names) :
    db.pending files = [] :=
  List.filter_eq_nil_iff.mpr fun file member => by simp [known file member]

/-- Of two releases the older one has nothing pending, and the newer one what the older one
lacks. -/
theorem pending_release {log listing all : List File} (names : db.names = log.map File.name)
    (applied : log <+: all) (released : listing <+: all)
    (distinct : (listing.map File.name).Nodup) :
    log ++ db.pending listing <+: all ∧ listing <+: log ++ db.pending listing := by
  rcases List.prefix_or_prefix_of_prefix applied released with ⟨rest, rfl⟩ | older
  · have known : db.pending log = [] :=
      pending_eq_nil fun file member => names ▸ List.mem_map_of_mem member
    have new : db.pending rest = rest := by
      refine List.filter_eq_self.mpr fun file member => decide_eq_true ?_
      rw [names]
      rw [List.map_append] at distinct
      exact fun old => (List.nodup_append.mp distinct).2.2 _ old _ (List.mem_map_of_mem member) rfl
    rw [pending_append, known, new]
    exact ⟨released, List.prefix_rfl⟩
  · have known : db.pending listing = [] :=
      pending_eq_nil fun file member => names ▸ List.mem_map_of_mem (older.subset member)
    rw [known, List.append_nil]
    exact ⟨applied, older⟩

end Database

section Runs

variable {institution : Institution} {starts : Directory → Prop}
    {g : Guarded (service K institution)}

theorem alone_reaches {directory : Directory} {db : Database K} {s : System (service K institution)}
    (alone : Alone (S := service K institution) db directory s) :
    Reaches db (directory.migrations institution.units) s.db :=
  (alone.leads (migrate_leads institution directory db)).1

/-- Every recorded migration ran once, in the order of the records, and nothing else touched the
schema. -/
theorem migrations_applied_once (reachable : Guarded.Reachable (runners K institution starts) g) :
    ∃ log : List File, g.db.names = log.map File.name ∧ g.db.names.Nodup ∧
      replay K K.empty log = some g.db.schema ∧
      ∀ file ∈ log, ∃ directory, starts directory ∧
      file ∈ directory.migrations institution.units := by
  have invariant : ∃ log : List File, Database.Holds log g.db ∧
      ∀ file ∈ log, ∃ directory, starts directory ∧
      file ∈ directory.migrations institution.units := by
    refine reachable.invariant
      (P := fun db : Database K => ∃ log : List File, Database.Holds log db ∧
        ∀ file ∈ log, ∃ directory, starts directory ∧
      file ∈ directory.migrations institution.units) ?_ ?_
    · exact ⟨[], .inl ⟨rfl, rfl⟩, by simp⟩
    · rintro db directory s ⟨log, holds, sources⟩ started alone
      obtain ⟨part, sub, further⟩ := holds.reaches (alone_reaches alone)
      refine ⟨log ++ part, further, ?_⟩
      intro file member
      rcases List.mem_append.mp member with old | new
      · exact sources file old
      · exact ⟨directory, started, (List.mem_filter.mp (sub.subset new)).1⟩
  obtain ⟨log, holds, sources⟩ := invariant
  exact ⟨log, holds.names.1, holds.names.2, holds.schema, sources⟩

/-! A first runner is cut off after it has applied its only file, a second one goes on. -/

def tables : Catalog where
  Schema := List String
  Fault := Unit
  empty := []
  execute script schema := if script ∈ schema then .error () else .ok (schema ++ [script])

def accounts : File := { name := "001_accounts.sql", content := some "accounts" }

def ledger : File := { name := "002_ledger.sql", content := some "ledger" }

def firstRelease : Directory where
  files := [accounts]
  distinct := by decide

def secondRelease : Directory where
  files := [ledger, { name := "README.md", content := none }, accounts]
  distinct := by decide

def takeover : List (Guarded.Action (service tables .bankA)) :=
  [.connect firstRelease, .connect secondRelease, .lock 0, .run 0 .none, .run 0 .none, .run 0 .none,
    .run 0 .none,
    .run 0 .none, .run 0 .lost, .disconnect 0, .lock 1, .run 1 .none, .run 1 .none, .run 1 .none,
    .run 1 .none, .run 1 .none, .run 1 .none, .unlock 1]

def bothReleases (directory : Directory) : Prop := directory = firstRelease ∨
    directory = secondRelease

theorem takeover_reached : ∃ g : Guarded (service tables .bankA),
    Guarded.Reachable (runners tables .bankA bothReleases) g ∧
      Database.names g.db = ["001_accounts.sql", "002_ledger.sql"] := by
  have ran : ((Guarded.run (S := service tables .bankA) { db := Database.fresh } takeover).map
      fun g => Database.names g.db) =
      some ["001_accounts.sql", "002_ledger.sql"] := by decide +kernel
  obtain ⟨g, ran, seen⟩ := Option.map_eq_some_iff.mp ran
  refine ⟨g, .of_run .init ran ?_, seen⟩
  intro call listed
  have either : Guarded.Action.connect call = .connect firstRelease ∨
      Guarded.Action.connect call = .connect secondRelease := by
    simpa [takeover] using listed
  rcases either with same | same
  · exact .inl (Guarded.Action.connect.inj same)
  · exact .inr (Guarded.Action.connect.inj same)

theorem released_in_order (directory : Directory) (started : bothReleases directory) :
    directory.migrations Institution.bankA.units <+: [accounts, ledger] := by
  rcases started with rfl | rfl <;> decide +kernel

theorem migrations_applied_once_takeover : ∃ g : Guarded (service tables .bankA),
    Database.names g.db = ["001_accounts.sql", "002_ledger.sql"] ∧
    ∃ log : List File, Database.names g.db = log.map File.name ∧ (Database.names g.db).Nodup ∧
      replay tables [] log = some (Database.schema g.db) ∧
      ∀ file ∈ log, ∃ directory, bothReleases directory ∧
      file ∈ directory.migrations Institution.bankA.units := by
  obtain ⟨g, reachable, seen⟩ := takeover_reached
  exact ⟨g, seen, migrations_applied_once reachable⟩

/-! ## A run that nothing disturbs -/

section Undisturbed

variable {institution : Institution} {db later : Database K}

def Institution.wraps (K : Catalog) : Institution → String → Failure K → Failure K
  | .bankA, file, cause | .hub, file, cause => .migrationFailed file cause
  | .bankB, _, cause => cause

def cause (db : Database K) (script : String) : Failure K :=
  match K.execute script db.schema with
  | .error fault => .script fault
  | .ok _ => if db.schemaMigrations.isSome then .uniqueViolation else .undefinedTable

def Institution.failure (institution : Institution) (db : Database K) (file : File) : Failure K :=
  match file.content with
  | none => .unreadable file.name
  | some script => institution.wraps K file.name (cause db script)

/-- One migration after the other, up to the first that fails. -/
def Institution.apply (institution : Institution) (db : Database K) : List File →
    Except (Failure K) Unit × Database K
  | [] => (.ok (), db)
  | file :: rest =>
    match db.migrate file with
    | some later => institution.apply later rest
    | none => (.error (institution.failure db file), db)

theorem apply_advance (institution : Institution) {part : List File} (rest : List File)
    (advanced : db.advance part = some later) :
    institution.apply db (part ++ rest) = institution.apply later rest := by
  induction part generalizing db with
  | nil =>
    obtain rfl := Option.some.inj advanced
    rfl
  | cons file others ih =>
    obtain ⟨middle, migrated, further⟩ := Option.bind_eq_some_iff.mp advanced
    simp only [List.cons_append, Institution.apply, migrated]
    exact ih further

theorem view_record {file script : String} (recorded : db.record file script = some later) :
    Txn.view (E := engine K) { writes := [.script script, .name file] } db = later := by
  unfold Database.record at recorded
  split at recorded
  · rename_i names schema listed ran
    split at recorded
    · cases recorded
    · obtain rfl := Option.some.inj recorded
      simp [engine, Txn.view, Database.apply, listed, ran]
  · cases recorded

theorem statements_evaluate (db : Database K) (file script : String) (f : Unit → Program K Unit) :
    let statements : Program K Unit := (sql (.script script)).bind fun _ => (sql (.insertName file)).bind f
    (∃ later, db.record file script = some later ∧
      statements.evaluate (some {}) db =
      (f ()).evaluate (some { writes := [.script script, .name file] }) db) ∨
    (db.record file script = none ∧
      ∃ now, statements.evaluate (some {}) db = some ⟨.error (cause db script), some now, db⟩) := by
  intro statements
  cases ran : K.execute script db.schema with
  | error fault =>
    have raised : (engine K).exec (.script script) (Txn.view (E := engine K) {} db) [] =
        .error (.script fault) := by
      simp [engine, execute, Txn.view, ran]
    refine .inr ⟨by simp [Database.record, ran], Txn.abort {}, ?_⟩
    simp only [cause, ran]
    exact Prog.evaluate_client_error rfl raised
  | ok schema =>
    have first : (engine K).exec (.script script) (Txn.view (E := engine K) {} db) [] =
        .ok { answer := (), writes := [.script script] } := by
      simp [engine, execute, Txn.view, ran]
    have seen : Txn.view (E := engine K) { writes := [.script script] } db =
        { db with schema } := by
      simp [engine, Txn.view, Database.apply, ran]
    have second : (engine K).exec (.insertName file)
        (Txn.view (E := engine K) { writes := [.script script] } db) [] =
        execute (.insertName file) { db with schema } := by
      rw [seen]
      rfl
    have began (f : Unit → Program K Unit) := Prog.evaluate_client (f := f) rfl first
    cases listed : db.schemaMigrations with
    | none =>
      refine .inr ⟨by simp [Database.record, listed], Txn.abort { writes := [.script script] }, (began _).trans ?_⟩
      have missing : execute (.insertName file) { db with schema } = .error .undefinedTable := by
        simp [execute, listed]
      simp only [cause, ran, listed]
      exact Prog.evaluate_client_error rfl (second.trans missing)
    | some names =>
      by_cases known : file ∈ names
      · refine .inr ⟨by simp [Database.record, listed, ran, known], Txn.abort { writes := [.script script] }, ?_⟩
        refine (began _).trans ?_
        have twice : execute (.insertName file) { db with schema } = .error .uniqueViolation := by
          simp [execute, listed, known]
        simp only [cause, ran, listed]
        exact Prog.evaluate_client_error rfl (second.trans twice)
      · refine .inl ⟨_, by simp [Database.record, listed, ran, known]; rfl, (began _).trans ?_⟩
        have added : execute (.insertName file) { db with schema } =
            .ok { answer := (), writes := [.name file] } := by
          simp [execute, listed, known]
        exact Prog.evaluate_client rfl (second.trans added)

theorem transaction_evaluate (institution : Institution) (db : Database K) (file script : String) :
    (institution.transaction K file script).evaluate none db =
      some (match db.record file script with
        | some later => ⟨.ok (), none, later⟩
        | none => ⟨.error (institution.wraps K file (cause db script)), none, db⟩) := by
  cases institution with
  | bankA | hub =>
    refine Prog.evaluate_begin.trans ?_
    rcases statements_evaluate db file script fun _ => perform .commit with
      ⟨later, recorded, ran⟩ | ⟨failed, now, ran⟩
    · have committed :=
        ran.trans (congrArg (fun db => some (Finish.mk (E := engine K) (.ok ()) none db))
          (view_record recorded))
      rw [recorded]
      exact Prog.evaluate_tryCatch_ok committed
    · rw [failed]
      exact Prog.evaluate_tryCatch_error ran
  | bankB =>
    refine Prog.evaluate_begin.trans ?_
    have statements := statements_evaluate db file script pure
    rw [Prog.bind_pure (sql (.insertName file))] at statements
    rcases statements with ⟨later, recorded, ran⟩ | ⟨failed, now, ran⟩
    · rw [recorded]
      refine (Prog.evaluate_bind_ok (Prog.evaluate_tryCatch_ok ran)).trans ?_
      exact congrArg (fun db => some (Finish.mk (E := engine K) (.ok ()) none db))
        (view_record recorded)
    · rw [failed]
      exact Prog.evaluate_bind_error (Prog.evaluate_tryCatch_error ran)

theorem file_evaluate (institution : Institution) {names : List String} (db : Database K)
    (file : File) (new : file.name ∉ names) :
    Prog.evaluate (E := engine K) (if file.name ∈ names then return () else do
        let script ← readFile file
        institution.transaction K file.name script) none db =
      some (match db.migrate file with
        | some later => ⟨.ok (), none, later⟩
        | none => ⟨.error (institution.failure db file), none, db⟩) := by
  rw [if_neg new]
  unfold readFile Database.migrate Institution.failure
  cases content : file.content with
  | none => rfl
  | some script => exact transaction_evaluate institution db file.name script

theorem passed_evaluate {names : List String} {file : File} {program : Program K Unit}
    (known : file.name ∈ names) :
    Prog.evaluate (E := engine K) (if file.name ∈ names then return () else program) none db =
      some ⟨.ok (), none, db⟩ := by
  rw [if_pos known]
  rfl

theorem loop_evaluate (institution : Institution) (names : List String) (db : Database K)
    (files : List File) :
    (Prog.forEach (E := engine K) files fun file => if file.name ∈ names then return () else do
        let script ← readFile file
        institution.transaction K file.name script).evaluate none db =
      some ⟨(institution.apply db (files.filter fun file => decide (file.name ∉ names))).1, none,
        (institution.apply db (files.filter fun file => decide (file.name ∉ names))).2⟩ := by
  induction files generalizing db with
  | nil => rfl
  | cons file rest ih =>
    by_cases known : file.name ∈ names
    · rw [List.filter_cons_of_neg (by simpa using known)]
      exact (Prog.evaluate_bind_ok (E := engine K) (passed_evaluate known)).trans (ih db)
    · rw [List.filter_cons_of_pos (by simpa using known)]
      have first := file_evaluate institution db file known
      unfold Institution.apply
      cases migrated : db.migrate file with
      | some later =>
        rw [migrated] at first
        exact (Prog.evaluate_bind_ok (E := engine K) first).trans (ih later)
      | none =>
        rw [migrated] at first
        exact Prog.evaluate_bind_error (E := engine K) first

theorem migrate_alone (institution : Institution) (directory : Directory) (db : Database K) :
    (service K institution).alone directory db =
      some (institution.apply db.prepare (db.pending (directory.migrations institution.units))) := by
  have started : (institution.migrate K directory).evaluate none db =
      (Prog.forEach (E := engine K) (directory.migrations institution.units) fun file =>
        if file.name ∈ db.names then return () else do
          let script ← readFile file
          institution.transaction K file.name script).evaluate none db.prepare := by
    rw [Institution.migrate_eq]
    rfl
  exact congrArg (Option.map _) (started.trans (loop_evaluate ..))

end Undisturbed

/-! ## One release after the other -/

section Releases

variable {all : List File} {directory : Directory} {db : Database K}

def InOrder (all : List File) (db : Database K) : Prop := ∃ log, log <+: all ∧ Database.Holds log db

/-- A runner that is stopped anywhere has added some of what is pending, in order. -/
theorem release_stopped {log : List File} {s : System (service K institution)}
    (applied : log <+: all) (holds : Database.Holds log db)
    (released : directory.migrations institution.units <+: all)
    (alone : Alone (S := service K institution) db directory s) :
    ∃ part, log ++ part <+: all ∧ Database.Holds (log ++ part) s.db := by
  obtain ⟨part, sub, further⟩ := holds.reaches (alone_reaches alone)
  have whole := (Database.pending_release holds.names.1 applied released migrations_nodup).1
  exact ⟨part, ((List.prefix_append_right_inj log).mpr sub).trans whole, further⟩

theorem in_order (released : ∀ directory, starts directory →
      directory.migrations institution.units <+: all)
    (db : Database K) (directory : Directory) (s : System (service K institution))
    (before : InOrder all db) (started : starts directory)
    (alone : Alone (S := service K institution) db directory s) : InOrder all s.db := by
  obtain ⟨log, applied, holds⟩ := before
  obtain ⟨part, further, after⟩ := release_stopped applied holds (released directory started) alone
  exact ⟨log ++ part, further, after⟩

theorem in_order_fresh : InOrder all (Database.fresh (K := K)) :=
  ⟨[], List.nil_prefix, .inl ⟨rfl, rfl⟩⟩

/-- Where every release adds its migrations after those of the releases before it, the records are always the
first migrations in their order, and they include all of every runner that has succeeded. -/
theorem migrations_in_order
    (released : ∀ directory, starts directory → directory.migrations institution.units <+: all)
    (reachable : Guarded.Reachable (runners K institution starts) g) :
    ∃ log, log <+: all ∧ g.db.names = log.map File.name ∧ replay K K.empty log = some g.db.schema ∧
      ∀ (index : Nat) (directory : Directory),
      g.sessions[index]? = some (.closed directory (.ok ())) →
        directory.migrations institution.units <+: log := by
  let Includes (directory : Directory) (_ : Unit) (db : Database K) : Prop :=
    ∃ log, log <+: all ∧ Database.Holds log db ∧ directory.migrations institution.units <+: log
  obtain ⟨log, applied, holds⟩ :=
    reachable.invariant (P := InOrder all) in_order_fresh (in_order released)
  refine ⟨log, applied, holds.names.1, holds.schema, fun index directory closed => ?_⟩
  have includes : Includes directory () g.db := by
    refine reachable.achieved (P := InOrder all) (Q := Includes) in_order_fresh
      (in_order released) ?_ ?_ closed
    · rintro db directory s last value ⟨log, applied, holds⟩ started alone only ended
      have advanced := (alone.leads (migrate_leads institution directory db)).2 last
        only value ended
      obtain ⟨further, whole⟩ :=
        Database.pending_release holds.names.1 applied (released directory started) migrations_nodup
      exact ⟨_, further, holds.advance advanced.2, whole⟩
    · rintro directory value db other s - ⟨log, applied, holds, whole⟩ started alone
      obtain ⟨part, further, after⟩ := release_stopped applied holds (released other started) alone
      exact ⟨log ++ part, further, after, whole.trans (List.prefix_append log part)⟩
  obtain ⟨second, others, same, whole⟩ := includes
  have length : second.length = log.length := by
    have names := same.names.1.symm.trans holds.names.1
    simpa using congrArg List.length names
  have equal : second = log :=
    (List.prefix_of_prefix_length_le others applied length.le).eq_of_length length
  exact equal ▸ whole

theorem migrations_in_order_takeover : ∃ g : Guarded (service tables .bankA),
    Database.names g.db = ["001_accounts.sql", "002_ledger.sql"] ∧
    ∃ log, log <+: [accounts, ledger] ∧ Database.names g.db = log.map File.name ∧
      replay tables [] log = some (Database.schema g.db) ∧
      ∀ (index : Nat) (directory : Directory),
      g.sessions[index]? = some (.closed directory (.ok ())) →
        directory.migrations Institution.bankA.units <+: log := by
  obtain ⟨g, reachable, seen⟩ := takeover_reached
  exact ⟨g, seen, migrations_in_order released_in_order reachable⟩

/-- Whatever runners of this release and of older ones have left behind, wherever they were stopped, a run that
nothing disturbs ends as on the empty database. -/
theorem migrations_converge (released : ∀ older, starts older →
      older.migrations institution.units <+: directory.migrations institution.units)
    (reachable : Guarded.Reachable (runners K institution starts) g) :
    (service K institution).alone directory g.db =
      (service K institution).alone directory Database.fresh := by
  obtain ⟨log, applied, holds⟩ :=
    reachable.invariant (P := InOrder _) in_order_fresh (in_order released)
  obtain ⟨further, whole⟩ :=
    Database.pending_release holds.names.1 applied (List.prefix_refl _) migrations_nodup
  have order := further.eq_of_length_le whole.length_le
  have start : Database.pending (Database.fresh (K := K)) (directory.migrations institution.units) =
      directory.migrations institution.units :=
      List.filter_eq_self.mpr fun _ _ => by simp [Database.fresh, Database.names]
  rcases holds with ⟨same, -⟩ | advanced
  · rw [same]
  · have created : Database.prepare g.db = g.db := Database.advance_prepare rfl advanced
    have resumed := apply_advance institution
      (Database.pending g.db (directory.migrations institution.units)) advanced
    rw [order] at resumed
    refine (migrate_alone institution directory g.db).trans ?_
    refine .trans ?_ (migrate_alone institution directory Database.fresh).symm
    rw [start, created, resumed]

theorem migrations_converge_takeover : ∃ g : Guarded (service tables .bankA),
    Database.names g.db = ["001_accounts.sql", "002_ledger.sql"] ∧
    (service tables .bankA).alone secondRelease g.db =
      (service tables .bankA).alone secondRelease Database.fresh := by
  obtain ⟨g, reachable, seen⟩ := takeover_reached
  have listing : secondRelease.migrations Institution.bankA.units = [accounts, ledger] := by
    decide +kernel
  refine ⟨g, seen, migrations_converge (fun older started => ?_) reachable⟩
  rw [listing]
  exact released_in_order older started

end Releases

end Runs

end Migrations
