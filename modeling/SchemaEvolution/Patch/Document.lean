import SchemaEvolution.Patch.Basic
import SchemaEvolution.Schema.Document

/-!
# Patches as documents

How patches are written as JSON and read from it. Whatever has several shapes
carries a tag as its first member: `action` says what happens to a thing,
`field` which property of a column is new.
-/

namespace SchemaEvolution

/-! ## Columns -/

namespace FieldEdit

def toJson : FieldEdit → Json
  | .type abstract physical =>
    .object [("field", .text "type"), ("columnType", abstract.toJson),
      ("dialectTypes", physical.toJson)]
  | .nullable flag => .object [("field", .text "nullable"), ("nullable", .bool flag)]
  | .default before after =>
    .object [("field", .text "default"), ("from", Json.orNull (before.map ColumnDefault.toJson)),
      ("to", Json.orNull (after.map ColumnDefault.toJson))]
  | .primaryKey flag => .object [("field", .text "primaryKey"), ("primaryKey", .bool flag)]
  | .unique flag => .object [("field", .text "unique"), ("unique", .bool flag)]
  | .reference before after =>
    .object [("field", .text "foreignKey"), ("from", Json.orNull (before.map Reference.toJson)),
      ("to", Json.orNull (after.map Reference.toJson))]

/-- The fields of a new type. -/
def typeForm : JsonForm (ColumnType × PhysicalType) where
  blank := (.string, ⟨"", ""⟩)
  fields := [
    .required "columnType" ColumnType.reader fun v e => (v, e.2),
    .required "dialectTypes" PhysicalType.reader fun v e => (e.1, v)]

/-- The one field of a new flag. -/
def flagForm (name : String) : JsonForm Bool where
  blank := false
  fields := [.required name .bool fun v _ => v]

/-- The fields of a value that is replaced by another, either of which may be
absent. -/
def replacementForm {α : Type} (r : JsonReader α) : JsonForm (Option α × Option α) where
  blank := (none, none)
  fields := [
    .nullable "from" r fun v e => (v, e.2),
    .nullable "to" r fun v e => (e.1, v)]

/-- Reads the edit of a property. -/
def reader : JsonReader FieldEdit :=
  JsonVariant.within "field" [
    ("type", typeForm.read.map fun e => .type e.1 e.2),
    ("nullable", (flagForm "nullable").read.map .nullable),
    ("default", (replacementForm ColumnDefault.reader).read.map fun e => .default e.1 e.2),
    ("primaryKey", (flagForm "primaryKey").read.map .primaryKey),
    ("unique", (flagForm "unique").read.map .unique),
    ("foreignKey", (replacementForm Reference.reader).read.map fun e => .reference e.1 e.2)]

end FieldEdit

namespace ColumnEdit

def toJson : ColumnEdit → Json
  | .add column => .object [("action", .text "add"), ("column", column.toJson)]
  | .remove name previous =>
    .object [("action", .text "remove"), ("name", .text name), ("previous", previous.toJson)]
  | .change name column keyColumn edits =>
    .object ([("action", .text "change"), ("name", .text name), ("column", column.toJson)]
      ++ (if keyColumn then [("keyColumn", .bool true)] else [])
      ++ [("changes", .list (edits.map FieldEdit.toJson))])

/-- The fields of a changed column. -/
structure Change where
  name : String
  column : Column
  keyColumn : Bool
  edits : List FieldEdit

/-- The fields of a changed column, as they are read. -/
def changeForm : JsonForm Change where
  blank := ⟨"", .plain "" .string ⟨"", ""⟩, false, []⟩
  fields := [
    .required "name" .string fun v e => { e with name := v },
    .required "column" Column.reader fun v e => { e with column := v },
    .defaulted "keyColumn" .bool fun v e => { e with keyColumn := v },
    .required "changes" (.list FieldEdit.reader) fun v e => { e with edits := v }]

/-- The one field of a new column. -/
def addForm : JsonForm Column where
  blank := .plain "" .string ⟨"", ""⟩
  fields := [.required "column" Column.reader fun v _ => v]

/-- The fields of a column that goes. -/
def removeForm : JsonForm (String × Column) where
  blank := ("", .plain "" .string ⟨"", ""⟩)
  fields := [
    .required "name" .string fun v e => (v, e.2),
    .required "previous" Column.reader fun v e => (e.1, v)]

/-- Reads what happens to a column. -/
def reader : JsonReader ColumnEdit :=
  JsonVariant.within "action" [
    ("add", addForm.read.map .add),
    ("remove", removeForm.read.map fun e => .remove e.1 e.2),
    ("change", changeForm.read.map fun e => .change e.name e.column e.keyColumn e.edits)]

end ColumnEdit

/-! ## Indexes, keys and interleaving -/

namespace IndexEdit

def toJson : IndexEdit → Json
  | .add index => .object [("action", .text "add"), ("index", index.toJson)]
  | .remove index => .object [("action", .text "remove"), ("index", index.toJson)]
  | .change before after =>
    .object [("action", .text "change"), ("from", before.toJson), ("to", after.toJson)]

/-- The one field of an index that comes or goes. -/
def indexForm : JsonForm Index where
  blank := ⟨none, [], false⟩
  fields := [.required "index" Index.reader fun v _ => v]

/-- The fields of an index with a new definition. -/
def changeForm : JsonForm (Index × Index) where
  blank := (⟨none, [], false⟩, ⟨none, [], false⟩)
  fields := [
    .required "from" Index.reader fun v e => (v, e.2),
    .required "to" Index.reader fun v e => (e.1, v)]

/-- Reads what happens to an index. -/
def reader : JsonReader IndexEdit :=
  JsonVariant.within "action" [
    ("add", indexForm.read.map .add),
    ("remove", indexForm.read.map .remove),
    ("change", changeForm.read.map fun e => .change e.1 e.2)]

end IndexEdit

namespace KeyEdit

def toJson : KeyEdit → Json
  | .set before after =>
    .object [("action", .text "set"), ("from", Json.orNull (before.map CompositeKey.toJson)),
      ("to", after.toJson)]
  | .remove name => .object [("action", .text "remove"), ("name", Json.orNull (name.map .text))]

/-- The fields of a new primary key. -/
def setForm : JsonForm (Option CompositeKey × CompositeKey) where
  blank := (none, ⟨none, []⟩)
  fields := [
    .nullable "from" CompositeKey.reader fun v e => (v, e.2),
    .required "to" CompositeKey.reader fun v e => (e.1, v)]

/-- The one field of a primary key that goes. -/
def removeForm : JsonForm (Option String) where
  blank := none
  fields := [.nullable "name" .string fun v _ => v]

/-- Reads what happens to the declared primary key. -/
def reader : JsonReader KeyEdit :=
  JsonVariant.within "action" [
    ("set", setForm.read.map fun e => .set e.1 e.2),
    ("remove", removeForm.read.map .remove)]

end KeyEdit

namespace InterleaveEdit

def toJson : InterleaveEdit → Json
  | .set before after =>
    .object [("action", .text "set"), ("from", Json.orNull (before.map Interleave.toJson)),
      ("to", after.toJson)]
  | .remove previous => .object [("action", .text "remove"), ("previous", previous.toJson)]

/-- The fields of a new interleaving. -/
def setForm : JsonForm (Option Interleave × Interleave) where
  blank := (none, ⟨"", .cascade⟩)
  fields := [
    .nullable "from" Interleave.reader fun v e => (v, e.2),
    .required "to" Interleave.reader fun v e => (e.1, v)]

/-- The one field of an interleaving that goes. -/
def removeForm : JsonForm Interleave where
  blank := ⟨"", .cascade⟩
  fields := [.required "previous" Interleave.reader fun v _ => v]

/-- Reads what happens to the interleaving of a table. -/
def reader : JsonReader InterleaveEdit :=
  JsonVariant.within "action" [
    ("set", setForm.read.map fun e => .set e.1 e.2),
    ("remove", removeForm.read.map .remove)]

end InterleaveEdit

/-! ## Tables -/

namespace KeyColumns

def toJson (k : KeyColumns) : Json :=
  .object [("from", Json.texts k.before), ("to", Json.texts k.after)]

/-- The fields of the key columns of a change. -/
def form : JsonForm KeyColumns where
  blank := ⟨[], []⟩
  fields := [
    .required "from" (.list .string) fun v k => { k with before := v },
    .required "to" (.list .string) fun v k => { k with after := v }]

/-- Reads the key columns of a change. -/
def reader : JsonReader KeyColumns := form.read

end KeyColumns

namespace TableEdit

/-- The members that the record of a change is written with. -/
def members (e : TableEdit) : List (String × Json) :=
  [("name", .text e.name)]
    ++ Json.memberIfAny "columns" (e.columns.map ColumnEdit.toJson)
    ++ Json.memberIfAny "indexes" (e.indexes.map IndexEdit.toJson)
    ++ Json.memberIfSome "primaryKey" (e.primaryKey?.map KeyEdit.toJson)
    ++ Json.memberIfSome "interleave" (e.interleave?.map InterleaveEdit.toJson)
    ++ Json.memberIfSome "keyColumns" (e.keyColumns?.map KeyColumns.toJson)

def toJson (e : TableEdit) : Json :=
  .object e.members

/-- The fields of the changes of a table. -/
def form : JsonForm TableEdit where
  blank := ⟨"", [], [], none, none, none⟩
  fields := [
    .required "name" .string fun v e => { e with name := v },
    .defaulted "columns" (.list ColumnEdit.reader) fun v e => { e with columns := v },
    .defaulted "indexes" (.list IndexEdit.reader) fun v e => { e with indexes := v },
    .optional "primaryKey" KeyEdit.reader fun v e => { e with primaryKey? := v },
    .optional "interleave" InterleaveEdit.reader fun v e => { e with interleave? := v },
    .optional "keyColumns" KeyColumns.reader fun v e => { e with keyColumns? := v }]

/-- Reads the changes of a table. -/
def reader : JsonReader TableEdit := form.read

end TableEdit

namespace TableAction

def toJson : TableAction → Json
  | .add table => .object [("action", .text "add"), ("table", table.toJson)]
  | .remove name previous =>
    .object [("action", .text "remove"), ("name", .text name), ("previous", previous.toJson)]
  | .change edit => .object (("action", .text "change") :: edit.members)

/-- The one field of a new table. -/
def addForm : JsonForm Table where
  blank := .empty ""
  fields := [.required "table" Table.reader fun v _ => v]

/-- The fields of a table that goes. -/
def removeForm : JsonForm (String × Table) where
  blank := ("", .empty "")
  fields := [
    .required "name" .string fun v e => (v, e.2),
    .required "previous" Table.reader fun v e => (e.1, v)]

/-- Reads what happens to a table. -/
def reader : JsonReader TableAction :=
  JsonVariant.within "action" [
    ("add", addForm.read.map .add),
    ("remove", removeForm.read.map fun e => .remove e.1 e.2),
    ("change", TableEdit.reader.map .change)]

end TableAction

namespace SchemaPatch

def toJson (p : SchemaPatch) : Json :=
  .object [("fromVersion", .text p.fromVersion), ("toVersion", .text p.toVersion),
    ("actions", .list (p.actions.map TableAction.toJson))]

/-- The fields of a patch. -/
def form : JsonForm SchemaPatch where
  blank := ⟨"", "", []⟩
  fields := [
    .required "fromVersion" .string fun v p => { p with fromVersion := v },
    .required "toVersion" .string fun v p => { p with toVersion := v },
    .required "actions" (.list TableAction.reader) fun v p => { p with actions := v }]

/-- Reads a patch. -/
def reader : JsonReader SchemaPatch := form.read

end SchemaPatch

end SchemaEvolution
