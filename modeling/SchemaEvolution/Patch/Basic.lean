import SchemaEvolution.Schema.Basic

/-!
# Patches between schemas

A `SchemaPatch` lists what leads from one schema to another, table by table:
tables to add, tables to change and tables to remove, in the order in which they
are carried out. What is removed or replaced is kept in the patch, so that the
statements undoing it can be written.

A change of a column is a list of `FieldEdit`s, one for each property that
differs. A change of an index is always a whole new definition.
-/

namespace SchemaEvolution

/-- A change of one property of a column. -/
inductive FieldEdit where
  | type (type : ColumnType) (physical : PhysicalType)
  | nullable (nullable : Bool)
  | default (before after : Option ColumnDefault)
  | primaryKey (primaryKey : Bool)
  | unique (unique : Bool)
  | reference (before after : Option Reference)

/-- What happens to a column. -/
inductive ColumnEdit where
  | add (column : Column)
  | remove (name : String) (previous : Column)
  /-- The column takes on the given state, in which exactly the edited
  properties are new. `keyColumn` says whether it then belongs to the primary
  key. -/
  | change (name : String) (column : Column) (keyColumn : Bool) (edits : List FieldEdit)

/-- What happens to an index. -/
inductive IndexEdit where
  | add (index : Index)
  | remove (index : Index)
  | change (before after : Index)
deriving DecidableEq

/-- What happens to the declared primary key. -/
inductive KeyEdit where
  | set (before : Option CompositeKey) (after : CompositeKey)
  /-- The key is withdrawn; its constraint may have had a name. -/
  | remove (name : Option String)
deriving DecidableEq

/-- What happens to the interleaving of a table. -/
inductive InterleaveEdit where
  | set (before : Option Interleave) (after : Interleave)
  | remove (previous : Interleave)
deriving DecidableEq

/-- The columns of the primary key before and after a change. -/
structure KeyColumns where
  before : List String
  after : List String
deriving DecidableEq

/-- All changes of one table. -/
structure TableEdit where
  name : String
  columns : List ColumnEdit
  indexes : List IndexEdit
  primaryKey? : Option KeyEdit
  interleave? : Option InterleaveEdit
  /-- There when the primary key differs, whether declared or flagged. -/
  keyColumns? : Option KeyColumns

namespace TableEdit

/-- Whether nothing changes. -/
def isEmpty (e : TableEdit) : Bool :=
  e.columns.isEmpty && e.indexes.isEmpty && e.primaryKey?.isNone && e.interleave?.isNone &&
    e.keyColumns?.isNone

/-- The names of the columns that are removed. -/
def removedColumns (e : TableEdit) : List String :=
  e.columns.filterMap fun
    | .remove name _ => some name
    | _ => none

end TableEdit

/-- What happens to a table. -/
inductive TableAction where
  | add (table : Table)
  | remove (name : String) (previous : Table)
  | change (edit : TableEdit)

/-- The name of the table that an action is about. -/
def TableAction.tableName : TableAction → String
  | .add table => table.name
  | .remove name _ => name
  | .change edit => edit.name

/-- What leads from one schema to another. -/
structure SchemaPatch where
  /-- The format version of the schema that the patch starts from. -/
  fromVersion : String
  /-- The format version of the schema that the patch leads to. -/
  toVersion : String
  actions : List TableAction

namespace SchemaPatch

/-- Whether nothing happens. -/
def isEmpty (p : SchemaPatch) : Bool :=
  p.actions.isEmpty

/-- Whether the two schemas are described in different versions of the
format. -/
def versionsDiffer (p : SchemaPatch) : Bool :=
  p.fromVersion != p.toVersion

end SchemaPatch

end SchemaEvolution
