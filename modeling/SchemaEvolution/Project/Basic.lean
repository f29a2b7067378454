import SchemaEvolution.Files.Basic
import SchemaEvolution.Time.Instant
import SchemaEvolution.Text.Search

/-!
# Projects

A project keeps its migrations as files in a directory, and beside them, unless
told otherwise, the baseline: the schema as it was when the last migration was
made.

The name of a migration begins with the time at which it was made, to the
second, so that the order of names is the order of times. A file in the
directory is a migration if its name is one or more digits, with or without an
underscore and more behind them, before the ending `.json`.
-/

namespace SchemaEvolution

/-- Where the files of a project are. -/
structure Project where
  /-- The directory of the migrations. -/
  directory : String
  /-- The file of the baseline. -/
  baseline : String
deriving DecidableEq

namespace Project

/-- The directory of the migrations if none is given. -/
def defaultDirectory : String := "migrations"

/-- The name of the baseline's file in the directory of the migrations. -/
def baselineName : String := "schema.snapshot.json"

/-- The project with its migrations, and its baseline, in a directory. -/
def within (directory : String) : Project :=
  ⟨directory, Path.join directory baselineName⟩

/-- The path of the file of a migration. -/
def pathOf (p : Project) (name : String) : String :=
  Path.join p.directory (name ++ ".json")

end Project

/-! ## Names of migrations -/

namespace MigrationName

/-- Whether a character may stand in a name that a user gives: an ASCII letter or
digit, or an underscore. -/
def isLetter (c : Char) : Bool :=
  c.isAlphanum || c == '_'

/-- Whether a user may give a migration a name. -/
def isValid (name : String) : Bool :=
  !name.isEmpty && name.toList.all isLetter

/-- The name of a migration that is made at some time, from the name that the
user gives. -/
def stamped (time : Instant) (name : String) : String :=
  time.stamp ++ "_" ++ name

/-- Whether something has the form of a migration's name: digits, and behind them
nothing or an underscore and anything. -/
def isStamped (stem : List Char) : Bool :=
  !(stem.takeWhile Char.isDigit).isEmpty &&
    match stem.dropWhile Char.isDigit with
    | [] => true
    | c :: _ => c == '_'

/-- The name of the migration that a file holds, going by the name of the
file. -/
def ofFileName? (file : String) : Option String :=
  (withoutEnding? file ".json").filter fun stem => isStamped stem.toList

end MigrationName

end SchemaEvolution
