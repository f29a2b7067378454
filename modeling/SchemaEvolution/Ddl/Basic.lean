import SchemaEvolution.Sql.Statement
import SchemaEvolution.Sql.Literal
import SchemaEvolution.Patch.Basic

/-!
# Compiling to statements

Compiling a part of a schema, or of a patch, gives statements in the order in
which they are to be run, with remarks on what the dialect cannot do quite as
asked. What it cannot do at all is refused: a `Ddl` is then the reason.
-/

namespace SchemaEvolution

/-! ## Remarks and refusals -/

/-- A remark on a statement that does not do quite what was asked for. -/
structure Diagnostic where
  dialect : Dialect
  table : String
  message : String
deriving DecidableEq

/-- What a dialect can refuse to do. -/
inductive Construct where
  /-- Two indexes of a table have one name. -/
  | duplicateIndex (name : String)
  /-- An index has the name that keeps a column unique. -/
  | indexNamedAsUnique (name column : String)
  | addKeyColumn (column : String)
  | dropKeyColumn (column : String)
  | changeKeyFlag (column : String)
  | changeKey
  | interleave (parent : String)
  | removeInterleave (parent : String)
deriving DecidableEq

/-- The words for what is refused. -/
def Construct.text : Construct → String
  | .duplicateIndex name => "duplicate index '" ++ name ++ "'"
  | .indexNamedAsUnique name column =>
    "index '" ++ name ++ "' duplicating the unique constraint of column '" ++ column ++ "'"
  | .addKeyColumn column => "adding primary key column '" ++ column ++ "' to an existing table"
  | .dropKeyColumn column => "dropping primary key column '" ++ column ++ "'"
  | .changeKeyFlag column => "changing the primary key flag of column '" ++ column ++ "'"
  | .changeKey => "changing the primary key of an existing table"
  | .interleave parent => "interleaving an existing table in '" ++ parent ++ "'"
  | .removeInterleave parent => "removing interleave in '" ++ parent ++ "'"

/-- A refusal. -/
structure Unsupported where
  dialect : Dialect
  table : String
  construct : Construct
deriving DecidableEq

/-- The text of a refusal. -/
def Unsupported.message (u : Unsupported) : String :=
  u.dialect.tag ++ " cannot express " ++ u.construct.text ++ " (table '" ++ u.table ++ "')"

/-! ## Statements with remarks -/

/-- Statements, and remarks on them. -/
structure Emission where
  statements : List Sql.Statement
  diagnostics : List Diagnostic
deriving DecidableEq

namespace Emission

/-- No statement and no remark. -/
def empty : Emission := ⟨[], []⟩

/-- The statements and remarks of two emissions, one after the other. -/
def append (a b : Emission) : Emission :=
  ⟨a.statements ++ b.statements, a.diagnostics ++ b.diagnostics⟩

instance : Append Emission := ⟨append⟩

/-- Statements without remarks. -/
def ofStatements (statements : List Sql.Statement) : Emission :=
  ⟨statements, []⟩

end Emission

/-- What compiling gives: statements with remarks, or a refusal. -/
abbrev Ddl := Except Unsupported Emission

namespace Ddl

/-- Statements without remarks. -/
def statements (l : List Sql.Statement) : Ddl :=
  .ok (.ofStatements l)

/-- The parts one after the other, or the first refusal among them. -/
def sequence : List Ddl → Ddl
  | [] => .ok .empty
  | part :: rest => do
    let a ← part
    let b ← sequence rest
    pure (a ++ b)

end Ddl

/-! ## Names of indexes -/

namespace Table

/-- Looks through indexes in their order for the first that has the name of one
before it, or the name that keeps a column of the table unique. -/
def clash? (t : Table) (seen : List String) : List Index → Option Construct
  | [] => none
  | index :: rest =>
    let name := index.nameIn t.name
    if name ∈ seen then some (.duplicateIndex name)
    else
      match t.columns.values.find? fun c => c.unique && uniqueName t.name c.name == name with
      | some c => some (.indexNamedAsUnique name c.name)
      | none => clash? t (name :: seen) rest

/-- Refuses a table in which an index has the name of another. -/
def checkIndexNames (t : Table) (d : Dialect) : Except Unsupported Unit :=
  match t.clash? [] t.indexes with
  | some construct => .error ⟨d, t.name, construct⟩
  | none => .ok ()

end Table

/-- The type of a column in a dialect. -/
def PhysicalType.inDialect (t : PhysicalType) : Dialect → String
  | .postgres => t.postgres
  | .spanner => t.spanner

/-! ## Statements about indexes -/

namespace Ddl

/-- The statement that creates an index of a table. -/
def createIndex (table : String) (index : Index) : Sql.Statement :=
  .createIndex ⟨index.nameIn table, table, index.columns, index.unique⟩

/-- The statement that drops an index of a table. -/
def dropIndex (table : String) (index : Index) : Sql.Statement :=
  .dropIndex (index.nameIn table)

/-- The statement about the default of a column when one default takes the place
of another. What counts is whether the database knew of the old default and is
to know of the new one. -/
def changeDefault (d : Dialect) (table column : String) (before after : Option ColumnDefault) :
    List Sql.Statement :=
  match Sql.defaultText? d before, Sql.defaultText? d after with
  | _, some value => [.alterTable table (.setDefault column value)]
  | some _, none => [.alterTable table (.dropDefault column)]
  | none, none => []

end Ddl

end SchemaEvolution
