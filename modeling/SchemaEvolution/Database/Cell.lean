import SchemaEvolution.NameMap
import SchemaEvolution.Decimal.Layout
import SchemaEvolution.Time.Reading

/-!
# Cells

The values that go into a database as parameters of statements and come out of
it in rows.
-/

namespace SchemaEvolution

/-- A value in a database. -/
inductive Cell where
  | null
  | bool (value : Bool)
  | int (value : Int)
  | float (value : Binary64)
  | text (value : String)
  | timestamp (value : Instant)
deriving DecidableEq

/-- A row of the answer to a query: cells by the names of their columns. -/
abbrev Row := NameMap Cell

namespace Cell

/-- The text in a cell, if it holds one. -/
def text? : Cell → Option String
  | .text s => some s
  | _ => none

/-- The instant in a cell; a text counts if it denotes one. -/
def instant? : Cell → Option Instant
  | .timestamp t => some t
  | .text s => Instant.ofText? s
  | _ => none

/-- Doubles of at least a ten-thousandth and below `10 ^ 16` are shown in places,
others with an exponent. -/
def layout : DoubleLayout :=
  ⟨-4, 15, "", .up⟩

/-- How a cell without text is shown in a message. -/
def shown : Cell → String
  | .null => "Null"
  | .bool true => "Bool(true)"
  | .bool false => "Bool(false)"
  | .int n => "Int(" ++ toString n ++ ")"
  | .float x => "Float(" ++ layout.render x ++ ")"
  | .text s => "Text(" ++ s ++ ")"
  | .timestamp t => "Timestamp(" ++ t.text ++ ")"

end Cell

end SchemaEvolution
