import SchemaEvolution.Sql.Identifier

/-!
# The statements of the ledger

The ledger is a table in the target database with one row for each migration
that is applied, under its name and the dialect, with the time of its
application. These are the statements that create, fill and read it.
-/

namespace SchemaEvolution.Ledger

/-- The name of the ledger's table. -/
def table : String := "schema_migrations"

/-- The column for the time of application, as it stands in a statement. -/
def timeColumn (d : Dialect) : String :=
  Sql.identifier d "appliedAt"

/-- What stands for a parameter in a statement. -/
def parameter : Dialect → Nat → String
  | .postgres, n => "$" ++ toString n
  | .spanner, n => "@p" ++ toString n

/-- Creates the ledger. -/
def createSql : Dialect → String
  | .postgres =>
    "CREATE TABLE " ++ table ++ " (name VARCHAR(255) NOT NULL, dialect VARCHAR(64) NOT NULL, "
      ++ timeColumn .postgres ++ " TIMESTAMPTZ NOT NULL, PRIMARY KEY (name, dialect))"
  | .spanner =>
    "CREATE TABLE " ++ table ++ " (name STRING(255) NOT NULL, dialect STRING(64) NOT NULL, "
      ++ timeColumn .spanner ++ " TIMESTAMP NOT NULL) PRIMARY KEY (name, dialect)"

/-- Adds a row, given its name, dialect and time. -/
def insertSql (d : Dialect) : String :=
  "INSERT INTO " ++ table ++ " (name, dialect, " ++ timeColumn d ++ ") VALUES (" ++
    parameter d 1 ++ ", " ++ parameter d 2 ++ ", " ++ parameter d 3 ++ ")"

/-- Removes a row, given its name and dialect. -/
def deleteSql (d : Dialect) : String :=
  "DELETE FROM " ++ table ++ " WHERE name = " ++ parameter d 1 ++ " AND dialect = " ++
    parameter d 2

/-- Reads the rows of a dialect in the order of their times, and of their names
where times are equal. -/
def selectSql (d : Dialect) : String :=
  "SELECT name, dialect, " ++ timeColumn d ++ " FROM " ++ table ++ " WHERE dialect = " ++
    parameter d 1 ++ " ORDER BY " ++ timeColumn d ++ ", name"

end SchemaEvolution.Ledger
