import SchemaEvolution.Ddl.Basic

/-!
# Statements for Spanner

The primary key stands behind the columns and cannot be changed, nor can a
column enter or leave it; its columns are never null. Foreign keys are
constraints of the table, and a unique column has an index of its own. A change
of a column states its type anew, and with it whether it may be null.

Of the fates of rows whose referenced row is deleted only two exist; for any
other nothing is done, and a remark says so. A table can be interleaved only
when it is created.
-/

namespace SchemaEvolution.Ddl.Spanner

/-- A refusal. -/
def refuse {α : Type} (table : String) (construct : Construct) : Except Unsupported α :=
  .error ⟨.spanner, table, construct⟩

/-! ## Parts -/

/-- The definition of a column. -/
def columnDefinition (c : Column) (notNull : Bool) : Sql.ColumnDefinition where
  name := c.name
  type := c.physical.spanner
  primaryKey := false
  notNull
  unique := false
  default? := Sql.defaultText? .spanner c.default?
  reference? := none

/-- The delete action that is carried out for the one asked for. -/
def deleteAction : DeleteAction → DeleteAction
  | .cascade => .cascade
  | .restrict | .setNull | .setDefault | .noAction => .noAction

/-- The remark on a delete action that is not carried out as asked for. -/
def downgrade (table column : String) (action : DeleteAction) : Diagnostic where
  dialect := .spanner
  table
  message := "ON DELETE " ++ action.sql ++ " on " ++ table ++ "." ++ column ++
    " is not supported; using NO ACTION"

/-- The remarks on the foreign key of a column. -/
def remarks (table column : String) (r : Reference) : List Diagnostic :=
  match r.onDelete with
  | some action => if deleteAction action = action then [] else [downgrade table column action]
  | none => []

/-- The foreign key of a column. -/
def foreignKey (table column : String) (r : Reference) : Sql.ForeignKey :=
  ⟨r.nameFor table column, column, ⟨r.table, r.column, r.onDelete.map deleteAction⟩⟩

/-- Adds the foreign key of a column to a table. -/
def addForeignKey (table column : String) (r : Reference) : Emission :=
  ⟨[.alterTable table (.addForeignKey (foreignKey table column r))], remarks table column r⟩

/-- Drops the foreign key of a column. -/
def dropForeignKey (table column : String) (r : Reference) : Sql.Statement :=
  .alterTable table (.dropConstraint (r.nameFor table column))

/-- Creates the index that keeps a column unique. -/
def createUnique (table column : String) : Sql.Statement :=
  .createIndex ⟨uniqueName table column, table, [column], true⟩

/-- Drops the index that keeps a column unique. -/
def dropUnique (table column : String) : Sql.Statement :=
  .dropIndex (uniqueName table column)

/-! ## Tables -/

/-- The columns of a table that have a foreign key, with it. -/
def references (t : Table) : List (String × Reference) :=
  t.columns.values.filterMap fun c => c.reference?.map (c.name, ·)

/-- The names of the unique columns of a table. -/
def uniqueColumns (t : Table) : List String :=
  (t.columns.values.filter (·.unique)).map (·.name)

/-- Whether a column of a table can hold no null. -/
def isNotNull (t : Table) (c : Column) : Bool :=
  !c.nullable || c.primaryKey || t.keyColumns.contains c.name

/-- The definition of a table. -/
def tableDefinition (t : Table) : Sql.TableDefinition where
  name := t.name
  columns := t.columns.values.map fun c => columnDefinition c (isNotNull t c)
  foreignKeys := (references t).map fun r => foreignKey t.name r.1 r.2
  primaryKey? := some ⟨none, t.keyColumns⟩
  interleave? := t.interleave?

/-- Creates a table and its indexes, those of unique columns first. -/
def createTable (t : Table) : Ddl := do
  t.checkIndexNames .spanner
  pure ⟨.createTable (tableDefinition t)
      :: ((uniqueColumns t).map (createUnique t.name) ++ t.indexes.map (createIndex t.name)),
    (references t).flatMap fun r => remarks t.name r.1 r.2⟩

/-- Drops a table, after its indexes and foreign keys. -/
def dropTable (t : Table) : List Sql.Statement :=
  t.indexes.map (dropIndex t.name) ++ (uniqueColumns t).map (dropUnique t.name)
    ++ (references t).map (fun r => dropForeignKey t.name r.1 r.2) ++ [.dropTable t.name]

/-! ## Columns -/

/-- Adds a column to a table. -/
def addColumn (table : String) (c : Column) : Ddl :=
  if c.primaryKey then refuse table (.addKeyColumn c.name)
  else
    let column : Emission := .ofStatements
      (.alterTable table (.addColumn (columnDefinition c !c.nullable))
        :: (if c.unique then [createUnique table c.name] else []))
    pure <| match c.reference? with
      | some r => column ++ addForeignKey table c.name r
      | none => column

/-- Drops a column of a table. -/
def dropColumn (table : String) (c : Column) : Ddl :=
  if c.primaryKey then refuse table (.dropKeyColumn c.name)
  else statements
    ((if c.unique then [dropUnique table c.name] else [])
      ++ c.reference?.toList.map (dropForeignKey table c.name)
      ++ [.alterTable table (.dropColumn c.name)])

/-- States the type of a column anew; a column of the primary key is never
null. -/
def restate (table : String) (c : Column) (keyColumn nullable : Bool) : Sql.Statement :=
  .alterTable table (.restate c.name c.physical.spanner (!nullable || keyColumn))

/-- Whether a list of edits says anew whether the column may be null. -/
def editsNullable (edits : List FieldEdit) : Bool :=
  edits.any fun
    | .nullable _ => true
    | _ => false

/-- Carries out the edit of one property of a column. `nullable` says whether
the column may be null until it is said anew. -/
def editField (table : String) (c : Column) (keyColumn nullable : Bool) : FieldEdit → Ddl
  | .type _ _ => statements [restate table c keyColumn nullable]
  | .nullable flag => statements [restate table c keyColumn flag]
  | .default before after => statements (changeDefault .spanner table c.name before after)
  | .primaryKey _ => refuse table (.changeKeyFlag c.name)
  | .unique true => statements [createUnique table c.name]
  | .unique false => statements [dropUnique table c.name]
  | .reference before after =>
    let dropped : Emission := .ofStatements (before.toList.map (dropForeignKey table c.name))
    pure <| match after with
      | some r => dropped ++ addForeignKey table c.name r
      | none => dropped

/-- The parts of a change of a column, one for each property. -/
def changeParts (table : String) (c : Column) (keyColumn : Bool) (edits : List FieldEdit) :
    List Ddl :=
  let nullable := if editsNullable edits then !c.nullable else c.nullable
  edits.map (editField table c keyColumn nullable)

/-! ## Keys and interleaving -/

/-- Changes the interleaving of a table, of which only the fate of the rows can
change. -/
def changeInterleave (table : String) : InterleaveEdit → Ddl
  | .set (some before) after =>
    if before.parent = after.parent then
      statements [.alterTable table (.setOnDelete after.onDelete)]
    else refuse table (.interleave after.parent)
  | .set none after => refuse table (.interleave after.parent)
  | .remove previous => refuse table (.removeInterleave previous.parent)

/-- Changes the primary key and the interleaving of a table. -/
def changeConstraints (e : TableEdit) : Ddl :=
  if e.primaryKey?.isSome then refuse e.name .changeKey
  else
    match e.interleave? with
    | some edit => changeInterleave e.name edit
    | none => statements []

end SchemaEvolution.Ddl.Spanner
