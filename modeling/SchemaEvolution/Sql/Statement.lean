import SchemaEvolution.Sql.Identifier
import SchemaEvolution.Schema.Basic

/-!
# Statements that define data

`Statement` holds the statements that create, change and drop tables and
indexes, by their parts. Names are kept as they are; only the text of a
statement, which depends on the dialect, encloses them where needed. A type and
the value of a default are kept as the text they have in the dialect.

Not every part exists in every dialect: what a dialect does without is simply
never put into a statement for it.
-/

namespace SchemaEvolution.Sql

/-! ## Parts -/

/-- What a foreign key refers to. -/
structure Target where
  table : String
  column : String
  onDelete : Option DeleteAction
deriving DecidableEq

/-- A key of a table, and the name of its constraint if it has one. -/
structure Key where
  name : Option String
  columns : List String
deriving DecidableEq

/-- A foreign key that is declared beside the columns. -/
structure ForeignKey where
  name : String
  column : String
  target : Target
deriving DecidableEq

/-- A foreign key that is declared with its column. -/
structure InlineReference where
  name : Option String
  target : Target
deriving DecidableEq

/-- The definition of a column. -/
structure ColumnDefinition where
  name : String
  type : String
  primaryKey : Bool
  notNull : Bool
  unique : Bool
  default? : Option String
  reference? : Option InlineReference
deriving DecidableEq

/-- The definition of a table. -/
structure TableDefinition where
  name : String
  columns : List ColumnDefinition
  foreignKeys : List ForeignKey
  primaryKey? : Option Key
  interleave? : Option Interleave
deriving DecidableEq

/-- The definition of an index. -/
structure IndexDefinition where
  name : String
  table : String
  columns : List String
  unique : Bool
deriving DecidableEq

/-- What is changed about a table. -/
inductive AlterClause where
  | addColumn (column : ColumnDefinition)
  | dropColumn (column : String)
  | setType (column type : String)
  /-- States anew the type of a column and whether it may be null. -/
  | restate (column type : String) (notNull : Bool)
  | setNotNull (column : String)
  | dropNotNull (column : String)
  | setDefault (column value : String)
  | dropDefault (column : String)
  | addUnique (name column : String)
  | addPrimaryKey (key : Key)
  | addForeignKey (key : ForeignKey)
  | dropConstraint (name : String)
  /-- Says what becomes of interleaved rows when their parent is deleted. -/
  | setOnDelete (action : ParentDelete)
deriving DecidableEq

/-- A statement. -/
inductive Statement where
  | createTable (table : TableDefinition)
  | dropTable (name : String)
  | createIndex (index : IndexDefinition)
  | dropIndex (name : String)
  | alterTable (table : String) (clause : AlterClause)
deriving DecidableEq

/-! ## Texts -/

/-- A text that is there only if something holds. -/
def textIf (holds : Bool) (text : String) : String :=
  if holds then text else ""

/-- The clause that refers to a column of another table. -/
def Target.text (d : Dialect) (t : Target) : String :=
  "REFERENCES " ++ identifier d t.table ++ " (" ++ identifier d t.column ++ ")" ++
    match t.onDelete with
    | some action => " ON DELETE " ++ action.sql
    | none => ""

/-- The words that name a constraint, before the constraint itself. -/
def constraintName (d : Dialect) : Option String → String
  | some name => "CONSTRAINT " ++ identifier d name ++ " "
  | none => ""

/-- The clause of a primary key, without the name of its constraint. -/
def keyText (d : Dialect) (columns : List String) : String :=
  "PRIMARY KEY (" ++ identifierList d columns ++ ")"

/-- The clause of a primary key. -/
def Key.text (d : Dialect) (key : Key) : String :=
  constraintName d key.name ++ keyText d key.columns

/-- The clause of a foreign key. -/
def ForeignKey.text (d : Dialect) (key : ForeignKey) : String :=
  constraintName d (some key.name) ++ "FOREIGN KEY (" ++ identifier d key.column ++ ") " ++
    key.target.text d

/-- The value of a default; Spanner has it in parentheses. -/
def defaultValue : Dialect → String → String
  | .postgres, value => value
  | .spanner, value => "(" ++ value ++ ")"

/-- The definition of a column. -/
def ColumnDefinition.text (d : Dialect) (c : ColumnDefinition) : String :=
  identifier d c.name ++ " " ++ c.type ++ textIf c.primaryKey " PRIMARY KEY" ++
    textIf c.notNull " NOT NULL" ++ textIf c.unique " UNIQUE" ++
    (match c.default? with
      | some value => " DEFAULT " ++ defaultValue d value
      | none => "") ++
    match c.reference? with
    | some r => " " ++ constraintName d r.name ++ r.target.text d
    | none => ""

/-- The parts of a table between the parentheses, one on each line. -/
def tableBody (parts : List String) : String :=
  " (\n" ++ ",\n".intercalate (parts.map ("    " ++ ·)) ++ "\n)"

/-- The clause that stores the rows of a table with those of its parent. -/
def interleaveText (d : Dialect) (i : Interleave) : String :=
  ",\n  INTERLEAVE IN PARENT " ++ identifier d i.parent ++ " ON DELETE " ++ i.onDelete.sql

/-- The definition of a table. PostgreSQL has the primary key among the parts of
the table, Spanner behind them; only there can an interleaving follow. -/
def TableDefinition.text (d : Dialect) (t : TableDefinition) : String :=
  let parts := t.columns.map (·.text d) ++ t.foreignKeys.map (·.text d)
  let key := t.primaryKey?.toList.map (·.text d)
  "CREATE TABLE " ++ identifier d t.name ++
    match d with
    | .postgres => tableBody (parts ++ key)
    | .spanner =>
      tableBody parts ++ String.join (key.map (" " ++ ·)) ++
        String.join (t.interleave?.toList.map (interleaveText d))

/-- The definition of an index. -/
def IndexDefinition.text (d : Dialect) (i : IndexDefinition) : String :=
  "CREATE " ++ textIf i.unique "UNIQUE " ++ "INDEX " ++ identifier d i.name ++ " ON " ++
    identifier d i.table ++ " (" ++ identifierList d i.columns ++ ")"

/-- What is changed about a table. -/
def AlterClause.text (d : Dialect) : AlterClause → String
  | .addColumn column => "ADD COLUMN " ++ column.text d
  | .dropColumn column => "DROP COLUMN " ++ identifier d column
  | .setType column type => "ALTER COLUMN " ++ identifier d column ++ " TYPE " ++ type
  | .restate column type notNull =>
    "ALTER COLUMN " ++ identifier d column ++ " " ++ type ++ textIf notNull " NOT NULL"
  | .setNotNull column => "ALTER COLUMN " ++ identifier d column ++ " SET NOT NULL"
  | .dropNotNull column => "ALTER COLUMN " ++ identifier d column ++ " DROP NOT NULL"
  | .setDefault column value =>
    "ALTER COLUMN " ++ identifier d column ++ " SET DEFAULT " ++ defaultValue d value
  | .dropDefault column => "ALTER COLUMN " ++ identifier d column ++ " DROP DEFAULT"
  | .addUnique name column =>
    "ADD " ++ constraintName d (some name) ++ "UNIQUE (" ++ identifier d column ++ ")"
  | .addPrimaryKey key => "ADD " ++ key.text d
  | .addForeignKey key => "ADD " ++ key.text d
  | .dropConstraint name => "DROP CONSTRAINT " ++ identifier d name
  | .setOnDelete action => "SET ON DELETE " ++ action.sql

/-- The text of a statement. -/
def Statement.text (d : Dialect) : Statement → String
  | .createTable table => table.text d
  | .dropTable name => "DROP TABLE " ++ identifier d name
  | .createIndex index => index.text d
  | .dropIndex name => "DROP INDEX " ++ identifier d name
  | .alterTable table clause => "ALTER TABLE " ++ identifier d table ++ " " ++ clause.text d

end SchemaEvolution.Sql
