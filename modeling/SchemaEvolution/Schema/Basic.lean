import SchemaEvolution.Json.Basic

/-!
# Relational schemas

A `Schema` is a description of tables that commits to no database. Every column
carries an abstract type beside the type each database is to use for it, and
whatever only one database can express (interleaving) is described all the same.

Tables and columns are held under names. The name under which a thing is held
and the name that it bears itself may differ; `Schema.WellKeyed` says that they
do not, and the functions that build schemas keep it so.

The order of columns in keys and indexes is part of their meaning, the order of
columns in a table is not.
-/

namespace SchemaEvolution

/-! ## Columns -/

/-- The abstract type of a column. -/
inductive ColumnType where
  | string | text | integer | bigInt | float | decimal | boolean | timestamp | date | json
  | uuid | bytes
deriving DecidableEq

/-- The type of a column in each database. -/
structure PhysicalType where
  postgres : String
  spanner : String
deriving DecidableEq

/-- The default value of a column. -/
inductive ColumnDefault where
  /-- A constant. -/
  | literal (value : JsonData)
  /-- An SQL expression. -/
  | expression (sql : String)
  /-- A value that the application supplies with each row; the database knows
  nothing of it. -/
  | supplied

/-- What becomes of rows whose referenced row is deleted. -/
inductive DeleteAction where
  | cascade | restrict | setNull | setDefault | noAction
deriving DecidableEq

/-- The SQL words for a delete action. -/
def DeleteAction.sql : DeleteAction → String
  | .cascade => "CASCADE"
  | .restrict => "RESTRICT"
  | .setNull => "SET NULL"
  | .setDefault => "SET DEFAULT"
  | .noAction => "NO ACTION"

/-- A foreign key of one column. -/
structure Reference where
  /-- The referenced table. -/
  table : String
  /-- The referenced column. -/
  column : String
  name : Option String
  onDelete : Option DeleteAction
deriving DecidableEq

/-- A column of a table. -/
structure Column where
  name : String
  type : ColumnType
  physical : PhysicalType
  nullable : Bool
  default? : Option ColumnDefault
  /-- Whether the column is flagged as part of the primary key. -/
  primaryKey : Bool
  unique : Bool
  reference? : Option Reference

/-! ## Tables -/

/-- An index of a table. -/
structure Index where
  name : Option String
  columns : List String
  unique : Bool
deriving DecidableEq

/-- A primary key declared for a table as a whole. -/
structure CompositeKey where
  name : Option String
  columns : List String
deriving DecidableEq

/-- What becomes of interleaved rows when their parent row is deleted. -/
inductive ParentDelete where
  | cascade | noAction
deriving DecidableEq

/-- The SQL words for the fate of interleaved rows. -/
def ParentDelete.sql : ParentDelete → String
  | .cascade => "CASCADE"
  | .noAction => "NO ACTION"

/-- The rows of a table are stored with the rows of a parent table. -/
structure Interleave where
  parent : String
  onDelete : ParentDelete
deriving DecidableEq

/-- A table. -/
structure Table where
  name : String
  columns : NameMap Column
  indexes : List Index
  primaryKey? : Option CompositeKey
  interleave? : Option Interleave

/-- A schema, with the version of the format that describes it. -/
structure Schema where
  version : String
  tables : NameMap Table

/-! ## Defaults -/

namespace ColumnDefault

/-- Whether two defaults count as the same. Expressions always do: the text of
one read from a database says nothing about the text of the one declared. -/
def equivalent : ColumnDefault → ColumnDefault → Bool
  | .expression _, .expression _ => true
  | .supplied, .supplied => true
  | .literal a, .literal b => a.val.agrees b.val
  | _, _ => false

/-- Whether two defaults are equal, expressions by their text. -/
def agrees : ColumnDefault → ColumnDefault → Bool
  | .expression a, .expression b => a == b
  | .supplied, .supplied => true
  | .literal a, .literal b => a.val.agrees b.val
  | _, _ => false

/-- Whether two defaults that may be absent count as the same. -/
def equivalent? : Option ColumnDefault → Option ColumnDefault → Bool
  | none, none => true
  | some a, some b => a.equivalent b
  | _, _ => false

end ColumnDefault

/-! ## Names of constraints and indexes -/

/-- The name of a foreign key constraint of a column: its own, or one made from
table and column. -/
def Reference.nameFor (r : Reference) (table column : String) : String :=
  r.name.getD (table ++ "_" ++ column ++ "_fkey")

/-- The name of the constraint, or index, that keeps a column unique. -/
def uniqueName (table column : String) : String :=
  table ++ "_" ++ column ++ "_key"

namespace Index

/-- What an index is known by across versions of its table: its name, or its
columns if it has none. -/
def identity (i : Index) : String :=
  i.name.getD (",".intercalate i.columns)

/-- The name of an index in statements: its own, or one made from the table and
the columns. -/
def nameIn (i : Index) (table : String) : String :=
  i.name.getD <|
    table ++ "_" ++ "_".intercalate i.columns ++ "_" ++ (if i.unique then "key" else "idx")

end Index

/-! ## Keys and dependencies -/

namespace Table

/-- A table without columns. -/
def empty (name : String) : Table :=
  ⟨name, .empty, [], none, none⟩

/-- The columns flagged as part of the primary key, in the order of their
names. -/
def flaggedColumns (t : Table) : List Column :=
  t.columns.values.filter (·.primaryKey)

/-- The columns of the primary key: those of the declared key, else the flagged
ones. -/
def keyColumns (t : Table) : List String :=
  match t.primaryKey? with
  | some key => key.columns
  | none => t.flaggedColumns.map (·.name)

/-- The tables that a table refers to: the targets of its foreign keys and its
parent, without itself, in increasing order and each once. -/
def dependencies (t : Table) : List String :=
  let targets := t.columns.values.filterMap fun c => c.reference?.map (·.table)
  let parents := t.interleave?.toList.map (·.parent)
  (NameMap.ofList (((targets ++ parents).filter (· ≠ t.name)).map (·, ()))).names

/-! ## Building tables -/

/-- The table with a column under its own name, in place of one of that name. -/
def withColumn (t : Table) (c : Column) : Table :=
  { t with columns := t.columns.insert c.name c }

/-- The table with one more index. -/
def withIndex (t : Table) (i : Index) : Table :=
  { t with indexes := t.indexes ++ [i] }

/-- The table with a declared primary key. -/
def withPrimaryKey (t : Table) (key : CompositeKey) : Table :=
  { t with primaryKey? := some key }

/-- The table interleaved in a parent. -/
def interleavedIn (t : Table) (parent : String) (onDelete : ParentDelete) : Table :=
  { t with interleave? := some ⟨parent, onDelete⟩ }

/-- Every column is held under its own name. -/
def WellKeyed (t : Table) : Prop :=
  ∀ e ∈ t.columns.entries, e.2.name = e.1

end Table

namespace Column

/-- A column that may be null, without default or constraint. -/
def plain (name : String) (type : ColumnType) (physical : PhysicalType) : Column :=
  ⟨name, type, physical, true, none, false, false, none⟩

/-- The column without null. -/
def notNull (c : Column) : Column :=
  { c with nullable := false }

/-- The column as part of the primary key, and so without null. -/
def inPrimaryKey (c : Column) : Column :=
  { c with primaryKey := true, nullable := false }

/-- The column with unique values. -/
def withUnique (c : Column) : Column :=
  { c with unique := true }

/-- The column with a default. -/
def withDefault (c : Column) (value : ColumnDefault) : Column :=
  { c with default? := some value }

/-- The column with a foreign key. -/
def withReference (c : Column) (r : Reference) : Column :=
  { c with reference? := some r }

end Column

namespace Schema

/-- The version of the format that is written. -/
def currentVersion : String := "1"

/-- The schema without tables. -/
def empty : Schema :=
  ⟨currentVersion, .empty⟩

/-- Whether a schema is the empty one of the current version, which a project
without a baseline has for one. The program itself never asks; this is for those
who look at a schema that was read. -/
def isDefault (s : Schema) : Bool :=
  s.version == currentVersion && s.tables.isEmpty

/-- The schema with a table under its own name, in place of one of that name. -/
def withTable (s : Schema) (t : Table) : Schema :=
  { s with tables := s.tables.insert t.name t }

/-- Every table and every column is held under its own name. -/
def WellKeyed (s : Schema) : Prop :=
  ∀ e ∈ s.tables.entries, e.2.name = e.1 ∧ e.2.WellKeyed

end Schema

end SchemaEvolution
