import SchemaEvolution.Project.Basic
import SchemaEvolution.Project.Error

/-!
# Stored migrations and baselines

Reading the files of a project. A project without a baseline has the empty schema
for one.
-/

namespace SchemaEvolution

/-- What comes of dealing with files, if it does not fail. -/
abbrev Stored (α : Type) := Except MigrationError α

/-- A failure of files as a failure of migrations. -/
def Stored.ofFiles {α : Type} (r : Except FileError α) : Stored α :=
  r.mapError .files

/-- What is read from the text of a file. -/
def Stored.ofText {α : Type} (path : String) (r : Except ReadError α) : Stored α :=
  r.mapError (.unreadable path)

/-- A migration of a project by its name, with the path of its file. -/
structure MigrationFile where
  name : String
  path : String
deriving DecidableEq

namespace Files

/-- Reads a migration, which must have the format that can be run. -/
def readMigration (fs : Files) (path : String) : Stored Migration := do
  let text ← Stored.ofFiles (fs.read path)
  let m ← Stored.ofText path (Migration.ofText text)
  if m.isSupported then pure m else .error (.unsupportedFormat path m.format)

/-- Reads a baseline. -/
def readBaseline (fs : Files) (path : String) : Stored Schema :=
  match fs.read path with
  | .ok text => Stored.ofText path (Schema.ofText text)
  | .error .notFound => .ok .empty
  | .error e => .error (.files e)

end Files

namespace Project

/-- The migrations in the directory of a project, in the order of their names;
none if there is no directory. -/
def discover (p : Project) (fs : Files) : Stored (List MigrationFile) :=
  Stored.ofFiles do
    if ← fs.contains p.directory then
      let files ← fs.filesIn p.directory
      let found := files.filterMap fun file =>
        (MigrationName.ofFileName? file).map fun name => ⟨name, Path.join p.directory file⟩
      pure (found.mergeSort fun a b => a.name ≤ b.name)
    else pure []

end Project

end SchemaEvolution
