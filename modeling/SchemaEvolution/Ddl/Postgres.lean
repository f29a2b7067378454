import SchemaEvolution.Ddl.Basic

/-!
# Statements for PostgreSQL

Foreign keys and uniqueness are declared with their column when table or column
are created, and as named constraints later. A primary key of one flagged column
is declared with the column and once more behind the columns, any other only
there. Nothing here is refused but a clash of index names, and an interleaving,
for which there is no statement, is passed over.

A change of the primary key is a matter of the whole table: the old constraint
is dropped, unless it has gone with one of its columns, and a new one added.
-/

namespace SchemaEvolution.Ddl.Postgres

/-- What a foreign key refers to. -/
def target (r : Reference) : Sql.Target :=
  ⟨r.table, r.column, r.onDelete⟩

/-- The definition of a column. One that is declared as primary key needs no
word on null or uniqueness. -/
def columnDefinition (c : Column) (inlineKey : Bool) : Sql.ColumnDefinition where
  name := c.name
  type := c.physical.postgres
  primaryKey := inlineKey
  notNull := !inlineKey && !c.nullable
  unique := !inlineKey && c.unique
  default? := Sql.defaultText? .postgres c.default?
  reference? := c.reference?.map fun r => ⟨r.name, target r⟩

/-- The column that is declared as primary key: the flagged one, if there is no
other and no key is declared for the table. -/
def inlineKey? (t : Table) : Option String :=
  match t.primaryKey?, t.flaggedColumns with
  | none, [c] => some c.name
  | _, _ => none

/-- The primary key that is declared behind the columns. -/
def trailingKey? (t : Table) : Option Sql.Key :=
  if t.keyColumns.isEmpty then none
  else some ⟨t.primaryKey?.bind (·.name), t.keyColumns⟩

/-- The definition of a table. -/
def tableDefinition (t : Table) : Sql.TableDefinition where
  name := t.name
  columns := t.columns.values.map fun c => columnDefinition c (inlineKey? t == some c.name)
  foreignKeys := []
  primaryKey? := trailingKey? t
  interleave? := none

/-- Creates a table and its indexes. -/
def createTable (t : Table) : Ddl := do
  t.checkIndexNames .postgres
  statements (.createTable (tableDefinition t) :: t.indexes.map (createIndex t.name))

/-- Drops a table. -/
def dropTable (t : Table) : List Sql.Statement :=
  [.dropTable t.name]

/-- Adds a column to a table. -/
def addColumn (table : String) (c : Column) : Ddl :=
  statements [.alterTable table (.addColumn (columnDefinition c false))]

/-- Drops a column of a table. -/
def dropColumn (table : String) (c : Column) : Ddl :=
  statements [.alterTable table (.dropColumn c.name)]

/-- Carries out the edit of one property of a column. -/
def editField (table column : String) : FieldEdit → List Sql.Statement
  | .type _ physical => [.alterTable table (.setType column physical.postgres)]
  | .nullable true => [.alterTable table (.dropNotNull column)]
  | .nullable false => [.alterTable table (.setNotNull column)]
  | .default before after => changeDefault .postgres table column before after
  | .primaryKey _ => []
  | .unique true => [.alterTable table (.addUnique (uniqueName table column) column)]
  | .unique false => [.alterTable table (.dropConstraint (uniqueName table column))]
  | .reference before after =>
    before.toList.map (fun r => .alterTable table (.dropConstraint (r.nameFor table column)))
      ++ after.toList.map fun r =>
        .alterTable table (.addForeignKey ⟨r.nameFor table column, column, target r⟩)

/-- Changes a column of a table. -/
def changeColumn (table : String) (c : Column) (edits : List FieldEdit) : Ddl :=
  statements (edits.flatMap (editField table c.name))

/-- The name that the constraint of a primary key has if it was given none. -/
def keyName (table : String) : Option String → String
  | some name => name
  | none => table ++ "_pkey"

/-- Drops the constraint of the primary key. -/
def dropKey (table : String) (name : Option String) : Sql.Statement :=
  .alterTable table (.dropConstraint (keyName table name))

/-- Adds the primary key of flagged columns, if there are any. -/
def addFlaggedKey (table : String) (columns : List String) : List Sql.Statement :=
  if columns.isEmpty then [] else [.alterTable table (.addPrimaryKey ⟨none, columns⟩)]

/-- Changes the primary key of a table. -/
def changeKey (e : TableEdit) : List Sql.Statement :=
  let before := (e.keyColumns?.map (·.before)).getD []
  let after := (e.keyColumns?.map (·.after)).getD []
  let gone := e.removedColumns.any before.contains
  let dropIf (needed : Bool) (name : Option String) :=
    if !gone && needed then [dropKey e.name name] else []
  match e.primaryKey? with
  | some (.set previous key) =>
    dropIf (previous.isSome || !before.isEmpty) (previous.bind (·.name))
      ++ [.alterTable e.name (.addPrimaryKey ⟨key.name, key.columns⟩)]
  | some (.remove name) => dropIf true name ++ addFlaggedKey e.name after
  | none => dropIf (!before.isEmpty) none ++ addFlaggedKey e.name after

end SchemaEvolution.Ddl.Postgres
