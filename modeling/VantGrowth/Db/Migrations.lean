import VantGrowth.Lib.Connections
import VantGrowth.Lib.JsString

namespace VantGrowth.Db.Migrations
open Lib

/-- What follows a word at the front of a text. -/
def dropText : List Char → List Char → Option (List Char)
  | [], text => some text
  | w :: word, c :: text => if c = w then dropText word text else none
  | _ :: _, [] => none

/-- What follows `-->\s*statement-breakpoint\s*\r?\n?` at the front: the last
`\s*` leaves no line end to the rest of the pattern. -/
def afterBreakpoint (text : List Char) : Option (List Char) := do
  let rest ← dropText "-->".toList text
  let rest ← dropText "statement-breakpoint".toList (rest.dropWhile isSpaceChar)
  return rest.dropWhile isSpaceChar

/-- `split` with the pattern, given the piece so far in reverse. A breakpoint is
not empty, so the length of the text is fuel enough. -/
def splitFrom : Nat → List Char → List Char → List (List Char)
  | 0, piece, _ | _ + 1, piece, [] => [piece.reverse]
  | n + 1, piece, c :: text =>
    match afterBreakpoint (c :: text) with
    | some rest => piece.reverse :: splitFrom n [] rest
    | none => splitFrom n (c :: piece) text

def splitDrizzleMigrationSql (sql : String) : List String :=
  ((splitFrom sql.toList.length [] sql.toList).map fun chunk => jsTrim (String.ofList chunk)).filter
    (· != "")

def coreTables : List String :=
  ["approval_feedback", "component_health", "event_outbox", "experiment_assignments",
    "experiment_observations", "experiments", "external_action_events", "external_actions",
    "incidents", "learning_proposals", "motion_scores", "motion_stack", "playbook_versions",
    "signal_events", "tenant_settings", "workflow_runs"]

/-- An entry of `meta/_journal.json`, with the text of its file. -/
structure MigrationFile where
  when : Nat
  hash : String
  sql : String

/-- A row of `__drizzle_migrations`. -/
structure JournalRow where
  hash : String
  createdAt : Nat
deriving DecidableEq

def MigrationFile.row (m : MigrationFile) : JournalRow := ⟨m.hash, m.when⟩

/-- `resolveMigrationFiles`: a file that cannot be read ends it. -/
def resolveMigrationFiles (sha256 : String → String) (readFile : String → Except String String)
    (entries : List (String × Nat)) : Except String (List MigrationFile) :=
  entries.mapM fun entry => do
    let sql ← readFile entry.1
    return ⟨entry.2, sha256 sql, sql⟩

/-- The schema, and the migration table where there is one. -/
structure Database (σ : Type) where
  tables : σ
  journal : Option (List JournalRow)

namespace Database

def rows (db : Database σ) : List JournalRow := db.journal.getD []

end Database

/-- What Postgres makes of a text of SQL, and the tables of `growthos`. -/
structure Server (σ : Type) where
  execute : String → σ → Except String σ
  tables : σ → List String

inductive MigrateError where
  | sql (message : String)
  | lost (message : String)
  | error (message : String)
deriving DecidableEq

structure Report where
  applied : Nat
  chunks : Nat
  backfilled : Bool
deriving DecidableEq

abbrev Client (σ : Type) := Store MigrateError (Faulty (Connection (Database σ)))

section
variable (server : Server σ)

/-- `client.query`, which the connection may lose. -/
def query (q : Database σ → Except MigrateError (α × Database σ)) : Client σ α :=
  (Connection.query q).faulty fun f => .lost f.message

def Database.execute (sql : String) (db : Database σ) : Except MigrateError (Unit × Database σ) :=
  match server.execute sql db.tables with
  | .ok tables => .ok ((), { db with tables })
  | .error message => .error (.sql message)

def execute (sql : String) : Client σ Unit := query (Database.execute server sql)

def select (f : Database σ → α) : Client σ α := query fun db => .ok (f db, db)

def update (f : Database σ → Database σ) : Client σ Unit := query fun db => .ok ((), f db)

/-- The names of core tables the catalog lists are as many as there are. -/
def coreTablesIn (tables : σ) : Bool :=
  ((server.tables tables).filter (coreTables.contains ·)).eraseDups.length == coreTables.length

def coreTablesExist : Client σ Bool := select fun db => coreTablesIn server db.tables

def ensureMigrationJournal : Client σ Unit := update fun db => { db with journal := some db.rows }

/-- `insert … where not exists` a row of that time. -/
def Database.backfill (m : MigrationFile) (db : Database σ) : Database σ :=
  if db.rows.any (·.createdAt == m.when) then db else { db with journal := some (db.rows ++ [m.row]) }

def backfillJournal (migrations : List MigrationFile) : Client σ Unit :=
  migrations.forM fun m => update (Database.backfill m)

def statements (m : MigrationFile) : List String :=
  (splitDrizzleMigrationSql m.sql).filter fun statement => jsTrim statement != ""

def Database.insertRow (m : MigrationFile) (db : Database σ) : Database σ :=
  { db with journal := some (db.rows ++ [m.row]) }

def applyMigration (m : MigrationFile) : Client σ Nat := do
  Connection.transaction (fun f => .lost f.message) do
    (statements m).forM (execute server)
    update (Database.insertRow m)
  return (statements m).length

/-- The loop over the migrations. -/
def applyPending (lastAppliedAt : Nat) : List MigrationFile → Report → Client σ Report
  | [], report => return report
  | m :: migrations, report => do
    if m.when ≤ lastAppliedAt then applyPending lastAppliedAt migrations report
    else
      let chunks ← applyMigration server m
      applyPending lastAppliedAt migrations
        { report with applied := report.applied + 1, chunks := report.chunks + chunks }

def requireTable (table : String) : Client σ Unit := do
  let ok ← select fun db => (server.tables db.tables).contains table
  Store.require (ok = true) (.error ("Expected table growthos." ++ table ++ " to exist after migration."))

/-- A database that has its tables and an empty journal was set up by other
means; whether that was so. -/
def adoptTables (migrations : List MigrationFile) : Client σ Bool := do
  let empty ← select (·.rows.isEmpty)
  if empty = true then
    let exist ← coreTablesExist server
    if exist = true then
      backfillJournal migrations
      return true
    else return false
  else return false

/-- What `main` does between `connect` and `end`. -/
def migrate (bootstrap : String) (migrations : List MigrationFile) : Client σ Report := do
  execute server bootstrap
  ensureMigrationJournal
  let backfilled ← adoptTables server migrations
  let lastAppliedAt ← select fun db => lastKey (db.rows.map (·.createdAt))
  let report ← applyPending server lastAppliedAt migrations ⟨0, 0, backfilled⟩
  coreTables.forM (requireTable server)
  return report

/-- One start of the command: its files, and what its connection loses. A
process that dies loses every later call, and ending it rolls back. -/
structure Run where
  bootstrap : String
  migrations : List MigrationFile
  faults : List (Option Fault)

def outcome (db : Database σ) (run : Run) : Except MigrateError Report :=
  ((migrate server run.bootstrap run.migrations).run ⟨⟨db, none⟩, run.faults⟩).1

def main (db : Database σ) (run : Run) : Database σ :=
  ((migrate server run.bootstrap run.migrations).run ⟨⟨db, none⟩, run.faults⟩).2.state.committed

end

end VantGrowth.Db.Migrations
