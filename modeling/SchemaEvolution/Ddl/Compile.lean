import SchemaEvolution.Ddl.Postgres
import SchemaEvolution.Ddl.Spanner
import SchemaEvolution.Patch.Between

/-!
# Compiling patches and schemas

The statements of a patch are grouped by its actions: one batch for each action
that needs any. A table is changed in an order that lets every statement find
what it is about: indexes go before the columns that they cover, columns come
before the indexes on them, and keys are changed last.
-/

namespace SchemaEvolution

namespace Ddl

/-! ## Single tables -/

/-- Creates a table and its indexes. -/
def createTable : Dialect → Table → Ddl
  | .postgres, t => Postgres.createTable t
  | .spanner, t => Spanner.createTable t

/-- Drops a table and whatever has to go before it. -/
def dropTable : Dialect → Table → List Sql.Statement
  | .postgres, t => Postgres.dropTable t
  | .spanner, t => Spanner.dropTable t

/-- Adds a column to a table. -/
def addColumn : Dialect → String → Column → Ddl
  | .postgres, table, c => Postgres.addColumn table c
  | .spanner, table, c => Spanner.addColumn table c

/-- Drops a column of a table. -/
def dropColumn : Dialect → String → Column → Ddl
  | .postgres, table, c => Postgres.dropColumn table c
  | .spanner, table, c => Spanner.dropColumn table c

/-- The parts of a change of a column. -/
def changeParts : Dialect → String → Column → Bool → List FieldEdit → List Ddl
  | .postgres, table, c, _, edits => [Postgres.changeColumn table c edits]
  | .spanner, table, c, keyColumn, edits => Spanner.changeParts table c keyColumn edits

/-- Changes a column of a table. -/
def changeColumn (d : Dialect) (table : String) (c : Column) (keyColumn : Bool)
    (edits : List FieldEdit) : Ddl :=
  sequence (changeParts d table c keyColumn edits)

/-- Changes the primary key and the interleaving of a table. -/
def changeConstraints : Dialect → TableEdit → Ddl
  | .postgres, e => statements (Postgres.changeKey e)
  | .spanner, e => Spanner.changeConstraints e

/-- The index that is to go, if an edit has one. -/
def leaving? : IndexEdit → Option Index
  | .add _ => none
  | .remove index => some index
  | .change before _ => some before

/-- The index that is to come, if an edit has one. -/
def arriving? : IndexEdit → Option Index
  | .add index => some index
  | .remove _ => none
  | .change _ after => some after

/-- Adds a column, if that is what the edit is. -/
def ifAdded (d : Dialect) (table : String) : ColumnEdit → Ddl
  | .add column => addColumn d table column
  | _ => statements []

/-- The parts of the change of a column, if that is what the edit is. -/
def partsIfChanged (d : Dialect) (table : String) : ColumnEdit → List Ddl
  | .change _ column keyColumn edits => changeParts d table column keyColumn edits
  | _ => []

/-- Drops a column, if that is what the edit is. -/
def ifRemoved (d : Dialect) (table : String) : ColumnEdit → Ddl
  | .remove _ previous => dropColumn d table previous
  | _ => statements []

/-- The parts of a change of a table: its indexes are dropped, columns added,
changed and dropped, indexes created, and last key and interleaving changed. -/
def alterParts (d : Dialect) (e : TableEdit) : List Ddl :=
  [statements ((e.indexes.filterMap leaving?).map (dropIndex e.name))]
    ++ e.columns.map (ifAdded d e.name)
    ++ e.columns.flatMap (partsIfChanged d e.name)
    ++ e.columns.map (ifRemoved d e.name)
    ++ [statements ((e.indexes.filterMap arriving?).map (createIndex e.name)),
      changeConstraints d e]

/-- Changes a table. -/
def alterTable (d : Dialect) (e : TableEdit) : Ddl :=
  sequence (alterParts d e)

/-- The statements of one action of a patch. -/
def act (d : Dialect) : TableAction → Ddl
  | .add table => createTable d table
  | .remove _ previous => statements (dropTable d previous)
  | .change edit => alterTable d edit

end Ddl

/-! ## Whole patches -/

/-- The statements of a patch in a dialect, in batches that are run one after the
other, and the remarks on them. -/
structure Compilation where
  dialect : Dialect
  batches : List (List Sql.Statement)
  diagnostics : List Diagnostic

namespace Compilation

/-- All statements in their order. -/
def statements (c : Compilation) : List Sql.Statement :=
  c.batches.flatten

/-- The texts of the statements, batch by batch. -/
def texts (c : Compilation) : List (List String) :=
  c.batches.map (·.map (·.text c.dialect))

/-- Whether there is nothing to run. -/
def isEmpty (c : Compilation) : Bool :=
  c.batches.isEmpty

/-- The statements as a script, each on a line that ends in a semicolon. -/
def script (c : Compilation) : String :=
  String.join (c.texts.flatten.map (· ++ ";\n"))

/-- The batches and remarks of emissions, one after the other. -/
def ofEmissions (d : Dialect) (es : List Emission) : Compilation :=
  ⟨d, (es.map (·.statements)).filter (!·.isEmpty), es.flatMap (·.diagnostics)⟩

end Compilation

namespace SchemaPatch

/-- The statements of a patch in a dialect. -/
def compile (p : SchemaPatch) (d : Dialect) : Except Unsupported Compilation := do
  let emissions ← p.actions.mapM (Ddl.act d)
  pure (.ofEmissions d emissions)

end SchemaPatch

namespace Table

/-- The statements that create a table, in one batch. -/
def compile (t : Table) (d : Dialect) : Except Unsupported Compilation := do
  let e ← Ddl.createTable d t
  pure ⟨d, [e.statements], e.diagnostics⟩

end Table

namespace Schema

/-- The patch that builds a schema from nothing. -/
def creation (s : Schema) : SchemaPatch :=
  .between ⟨s.version, .empty⟩ s

/-- The statements that build a schema from nothing. -/
def compile (s : Schema) (d : Dialect) : Except Unsupported Compilation :=
  s.creation.compile d

end Schema

end SchemaEvolution
