import SchemaEvolution.Database.Session
import SchemaEvolution.Files.Basic
import SchemaEvolution.Migration.Document

/-!
# What can go wrong with migrations
-/

namespace SchemaEvolution

/-- Why something about migrations could not be done. -/
inductive MigrationError where
  | ledgerNotCreated (cause : DatabaseError)
  /-- A migration, or the note that it is applied, has failed. -/
  | notApplied (name : String) (cause : DatabaseError)
  /-- The way back from a migration, or the note of it, has failed. -/
  | notReverted (name : String) (cause : DatabaseError)
  /-- An applied migration has no file any more. -/
  | missingFile (name path : String)
  /-- A file does not hold what it should. -/
  | unreadable (path : String) (fault : ReadError)
  | unsupportedFormat (path format : String)
  | fileTaken (path : String)
  | invalidName (name : String)
  | refused (reason : Unsupported)
  /-- A call outside of any migration has failed. -/
  | database (cause : DatabaseError)
  | files (cause : FileError)
deriving DecidableEq

/-- The text of an error. -/
def MigrationError.message : MigrationError → String
  | .ledgerNotCreated e => "Failed to create the migration ledger: " ++ e.message
  | .notApplied name e => "Failed to apply migration '" ++ name ++ "': " ++ e.message
  | .notReverted name e => "Failed to revert migration '" ++ name ++ "': " ++ e.message
  | .missingFile name path =>
    "Migration '" ++ name ++ "' is recorded as applied but " ++ path ++ " does not exist"
  | .unreadable path fault => "Failed to parse migration file '" ++ path ++ "': " ++ fault.message
  | .unsupportedFormat path format =>
    "Unsupported migration format '" ++ format ++ "' in " ++ path
  | .fileTaken path => "Migration file already exists: " ++ path
  | .invalidName name =>
    "Invalid migration name '" ++ name ++ "': use letters, digits and underscores"
  | .refused u => "Compile error: " ++ u.message
  | .database e => "Executor error: " ++ e.message
  | .files e => "IO error: " ++ e.message

end SchemaEvolution
