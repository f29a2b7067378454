import SchemaEvolution.Dialect
import SchemaEvolution.Json.Printer
import SchemaEvolution.Schema.Basic
import SchemaEvolution.Text.Blank

/-!
# Values in SQL

How the default of a column stands in a statement. Constants are written by
their kind; a list or an object is written as its JSON text. Of expressions only
the current time and the current date are known: both dialects have them, under
spellings of their own, and every other expression is left as it is.
-/

namespace SchemaEvolution.Sql

/-- A text in single quotes; a single quote inside it is written twice. -/
def quoted (s : String) : String :=
  String.ofList ('\x27' ::
    (s.toList.flatMap (fun c => if c = '\x27' then ['\x27', '\x27'] else [c]) ++ ['\x27']))

/-- The value that stands for true or false. -/
def truth : Dialect → Bool → String
  | .postgres, true => "TRUE"
  | .postgres, false => "FALSE"
  | .spanner, true => "true"
  | .spanner, false => "false"

/-- A JSON value that is written as its text. -/
def document : Dialect → Json → String
  | .postgres, j => quoted j.compact ++ "::jsonb"
  | .spanner, j => "JSON " ++ quoted j.compact

/-- A constant. -/
def literal (d : Dialect) : Json → String
  | .null => "NULL"
  | .bool b => truth d b
  | .number n => String.ofList n.text
  | .text s => quoted s
  | .list items => document d (.list items)
  | .object members => document d (.object members)

/-- The moments that every dialect can name. -/
inductive Moment where
  | time | date
deriving DecidableEq

/-- The moment that an expression stands for, whatever the case of its letters
and the blanks around it. -/
def moment? (sql : String) : Option Moment :=
  match (withoutBlankEnds sql).map Char.toUpper with
  | "CURRENT_TIMESTAMP" | "CURRENT_TIMESTAMP()" | "NOW()" => some .time
  | "CURRENT_DATE" | "CURRENT_DATE()" => some .date
  | _ => none

/-- The name of a moment. -/
def Moment.name : Moment → String
  | .time => "CURRENT_TIMESTAMP"
  | .date => "CURRENT_DATE"

/-- An expression, with the spelling that the dialect has for a moment. -/
def expression (d : Dialect) (sql : String) : String :=
  match moment? sql, d with
  | some m, .postgres => m.name
  | some m, .spanner => m.name ++ "()"
  | none, _ => sql

/-- The text of a default; a value supplied by the application has none. -/
def defaultText (d : Dialect) : ColumnDefault → Option String
  | .literal value => some (literal d value.val)
  | .expression sql => some (expression d sql)
  | .supplied => none

/-- The text of a default that may be absent. -/
def defaultText? (d : Dialect) (value : Option ColumnDefault) : Option String :=
  value.bind (defaultText d)

end SchemaEvolution.Sql
