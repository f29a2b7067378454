import SchemaEvolution.Migration.Messages
import SchemaEvolution.Project.Stored

/-!
# Making migrations

A new migration leads from the baseline to the schema as it is now. It gets a
file of its own, and then the schema becomes the baseline. When there is nothing
to do, or anything fails before the file is written, nothing changes but that
missing directories may have been made; an existing migration is never written
over.
-/

namespace SchemaEvolution

/-- What came of making a migration. -/
inductive Creation where
  /-- The schema is the baseline. -/
  | noChanges
  /-- A file was written, for so many actions and with so many remarks. -/
  | created (path : String) (actions remarks : Nat)
deriving DecidableEq

/-- Files that are worked on, and what was told of the work. -/
structure Workplace where
  files : Files
  messages : List Message

/-- Work on files that may fail and keeps what it has done before. -/
abbrev FileWork (α : Type) := ExceptT MigrationError (StateM Workplace) α

namespace FileWork

/-- The outcome of work on files, and the files and messages it leaves. -/
def perform {α : Type} (work : FileWork α) (fs : Files) : Except MigrationError α × Workplace :=
  work.run.run ⟨fs, []⟩

/-- Tells something. -/
def tell (messages : List Message) : FileWork Unit :=
  modify fun w => { w with messages := w.messages ++ messages }

/-- Looks at files. -/
def look {α : Type} (f : Files → Stored α) : FileWork α := do
  match f (← get).files with
  | .ok value => pure value
  | .error e => throw e

/-- Changes files, unless that fails. -/
def change (f : Files → Except FileError Files) : FileWork Unit := do
  match f (← get).files with
  | .ok files => modify ({ · with files })
  | .error e => throw (.files e)

/-- Makes directories. If that fails, those made before stay. -/
def make (f : Files → Except FileError Unit × Files) : FileWork Unit := do
  let (result, files) := f (← get).files
  modify ({ · with files })
  match result with
  | .ok () => pure ()
  | .error e => throw (.files e)

/-- Writes a baseline, and makes the directories that lead to it. -/
def saveBaseline (path : String) (s : Schema) : FileWork Unit := do
  make (·.makeWayTo path)
  change (·.write path (s.toText ++ "\n"))
  tell [.info "Advanced baseline"
    [("path", path), ("tables", toString s.tables.entries.length)]]

end FileWork

namespace Project

/-- The migration from the baseline to a schema, under a name that the user
gives; none if there is nothing to do. -/
def draft (p : Project) (name : String) (current : Schema) (fs : Files) :
    Stored (Option Migration) := do
  if !MigrationName.isValid name then .error (.invalidName name)
  else
    let baseline ← fs.readBaseline p.baseline
    (Migration.between? name baseline current).mapError .refused

/-- What is told of the baseline of a project when it is read. -/
def baselineMessages (p : Project) (fs : Files) : List Message :=
  match fs.read p.baseline with
  | .error .notFound =>
    [.debug "No baseline yet; starting from an empty schema" [("path", p.baseline)]]
  | _ => []

/-- What is told while the migration from the baseline to a schema is made. -/
def draftMessages (p : Project) (name : String) (current : Schema) (fs : Files) : List Message :=
  if !MigrationName.isValid name then []
  else
    match fs.readBaseline p.baseline with
    | .error _ => []
    | .ok baseline => p.baselineMessages fs ++ Migration.messagesBetween name baseline current

/-- Writes the file of a new migration, for which there must be none yet. -/
def store (p : Project) (m : Migration) (path : String) : FileWork Unit := do
  FileWork.make (·.makeDirectories p.directory)
  if ← FileWork.look fun fs => Stored.ofFiles (fs.contains path) then throw (.fileTaken path)
  FileWork.change (·.write path (m.toText ++ "\n"))
  FileWork.tell [.info "Created migration" [("path", path)]]

/-- Makes a migration at some time and moves the baseline on. -/
def create (p : Project) (name : String) (current : Schema) (time : Instant) :
    FileWork Creation := do
  FileWork.tell (p.draftMessages name current (← get).files)
  match ← FileWork.look (p.draft name current) with
  | none =>
    FileWork.tell [.info "No changes detected; nothing written" [("name", name)]]
    pure .noChanges
  | some m =>
    FileWork.tell (m.diagnostics.map Diagnostic.told)
    let path := p.pathOf (MigrationName.stamped time name)
    p.store m path
    FileWork.saveBaseline p.baseline current
    pure (.created path m.up.actions.length m.diagnostics.length)

end Project

end SchemaEvolution
