import SchemaEvolution.Ledger.Record
import SchemaEvolution.Project.Stored

/-!
# Applying and reverting migrations

Migrations that the ledger does not list are applied in the order of their
names, one at a time: the next one begins when the statements of the last and
its row in the ledger are done. A failure stops at the migration that fails;
those before it stay applied. A migration of another format is passed over.

Only the migration that was applied last can be reverted.
-/

namespace SchemaEvolution

open Session (Strict Fallible)

namespace Routine

/-- Tells of a statement of a transaction and runs it. -/
def runStatement (sql : String) : Strict Unit := do
  Fallible.tell (.debug "Executing SQL" [("sql", sql)])
  discard (Strict.execute sql [])

/-- Tells of a batch and runs it. -/
def runBatch (sqls : List String) : Strict Unit := do
  Fallible.tell (.debug "Executing batch" [("statements", toString sqls.length)])
  Strict.batch sqls

/-- The session that runs a routine. -/
def run : Routine → Strict Unit
  | .statements [] => pure ()
  | .statements sqls => Strict.transaction (sqls.forM runStatement)
  | .batches groups => (groups.filter fun g => !g.isEmpty).forM runBatch

end Routine

/-- What is known of a migration of a project. -/
structure MigrationStatus where
  name : String
  /-- The time of its application, if it is applied. -/
  appliedAt? : Option Instant
  /-- Whether it has a file. -/
  onDisk : Bool
deriving DecidableEq

namespace Migration

/-- Applies a migration and notes it. -/
def apply (m : Migration) (d : Dialect) (name : String) : Strict Unit := do
  (m.routines d).up.run
  Ledger.recordApplied d name

/-- Reverts a migration and notes it. -/
def revert (m : Migration) (d : Dialect) (name : String) : Strict Unit := do
  (m.routines d).down.run
  Ledger.recordReverted d name

end Migration

/-- The session that comes to what was read from files. -/
def Stored.toSession {α : Type} (r : Stored α) : MigrationSession α :=
  ExceptT.mk (pure r)

namespace Project

/-- The migrations in the directory of a project, with a word on a directory that
is not there. -/
def search (p : Project) (fs : Files) : MigrationSession (List MigrationFile) := do
  match fs.contains p.directory with
  | .ok false =>
    Fallible.tell (.debug "Migrations directory does not exist" [("dir", p.directory)])
  | _ => pure ()
  (p.discover fs).toSession

/-- The migrations that are not applied. -/
def pending (p : Project) (fs : Files) (d : Dialect) : MigrationSession (List MigrationFile) := do
  let applied ← Ledger.appliedNames d
  let files ← p.search fs
  pure (files.filter fun f => !applied.contains f.name)

/-- Applies migrations one after the other, passing over those of another format.
The answer has the names of those that were applied. -/
def applyAll (fs : Files) (d : Dialect) : List MigrationFile → MigrationSession (List String)
  | [] => pure []
  | file :: rest =>
    match fs.readMigration file.path with
    | .error (.unsupportedFormat _ format) => do
      Fallible.tell (.warning "Skipping artifact with unsupported format"
        [("name", file.name), ("format", format)])
      applyAll fs d rest
    | .error e => throw e
    | .ok m => do
      Fallible.tell (.info "Applying migration" [("dialect", d.tag), ("name", file.name)])
      (m.apply d file.name).wrap (.notApplied file.name)
      let names ← applyAll fs d rest
      pure (file.name :: names)

/-- Applies all migrations that are not applied. -/
def applyPending (p : Project) (fs : Files) (d : Dialect) : MigrationSession (List String) := do
  Ledger.ensure d
  let files ← p.pending fs d
  if files.isEmpty then
    Fallible.tell (.info "No pending migrations" [("dialect", d.tag)])
    pure []
  else
    let names ← applyAll fs d files
    Fallible.tell (.info "Applied migrations"
      [("dialect", d.tag), ("count", toString names.length)])
    pure names

/-- Reads the migration of a name that the ledger lists. -/
def readApplied (p : Project) (fs : Files) (name : String) : Stored Migration := do
  let path := p.pathOf name
  if ← Stored.ofFiles (fs.contains path) then fs.readMigration path
  else .error (.missingFile name path)

/-- Reverts the migration that was applied last, if there is one. -/
def revertLast (p : Project) (fs : Files) (d : Dialect) : MigrationSession (Option String) := do
  let applied ← Ledger.appliedNames d
  match applied.getLast? with
  | none =>
    Fallible.tell (.info "No migrations to revert" [("dialect", d.tag)])
    pure none
  | some name =>
    let m ← (p.readApplied fs name).toSession
    Fallible.tell (.info "Reverting migration" [("dialect", d.tag), ("name", name)])
    (m.revert d name).wrap (.notReverted name)
    pure (some name)

/-- Pairs files with what the ledger says of them, and lists behind them what the
ledger lists besides. -/
def mergeStatus : List MigrationFile → List AppliedMigration → List MigrationStatus
  | [], applied => applied.map fun m => ⟨m.name, some m.appliedAt, false⟩
  | file :: rest, applied =>
    ⟨file.name, (applied.find? (·.name == file.name)).map (·.appliedAt), true⟩
      :: mergeStatus rest (applied.eraseP (·.name == file.name))

/-- What is known of each migration that has a file or is applied, in the order
of names. -/
def status (p : Project) (fs : Files) (d : Dialect) : MigrationSession (List MigrationStatus) := do
  let applied ← Ledger.applied d
  let files ← p.search fs
  pure ((mergeStatus files applied).mergeSort fun a b => a.name ≤ b.name)

end Project

end SchemaEvolution
