import SchemaEvolution.Schema.Basic
import SchemaEvolution.Json.Data
import SchemaEvolution.Json.Variant

/-!
# Schemas as documents

How schemas and their parts are written as JSON and read from it. A record is
written with its fields in a fixed order; a field that is absent, or a list of
indexes that is empty, is left out. Reading accepts the fields in any order and
takes what is left out for absent; a column that does not say whether it may be
null may be.
-/

namespace SchemaEvolution

/-! ## Members of records -/

namespace Json

/-- A member that is left out when there is nothing to write. -/
def memberIfSome (name : String) (value : Option Json) : List (String × Json) :=
  value.toList.map (name, ·)

/-- A member holding a list, left out when the list is empty. -/
def memberIfAny (name : String) (items : List Json) : List (String × Json) :=
  if items.isEmpty then [] else [(name, .list items)]

/-- A value, or `null` when there is none. -/
def orNull (value : Option Json) : Json :=
  value.getD .null

/-- A list of strings. -/
def texts (items : List String) : Json :=
  .list (items.map .text)

end Json

/-! ## Names -/

namespace ColumnType

/-- All column types. -/
def all : List ColumnType :=
  [.string, .text, .integer, .bigInt, .float, .decimal, .boolean, .timestamp, .date, .json,
    .uuid, .bytes]

/-- The name of a column type in a document. -/
def name : ColumnType → String
  | .string => "string"
  | .text => "text"
  | .integer => "integer"
  | .bigInt => "bigInt"
  | .float => "float"
  | .decimal => "decimal"
  | .boolean => "boolean"
  | .timestamp => "timestamp"
  | .date => "date"
  | .json => "json"
  | .uuid => "uuid"
  | .bytes => "bytes"

def toJson (t : ColumnType) : Json := .text t.name

/-- Reads a column type. -/
def reader : JsonReader ColumnType :=
  .choice (all.map fun t => (t.name, t))

end ColumnType

namespace DeleteAction

/-- All delete actions. -/
def all : List DeleteAction :=
  [.cascade, .restrict, .setNull, .setDefault, .noAction]

/-- The name of a delete action in a document. -/
def name : DeleteAction → String
  | .cascade => "cascade"
  | .restrict => "restrict"
  | .setNull => "setNull"
  | .setDefault => "setDefault"
  | .noAction => "noAction"

def toJson (a : DeleteAction) : Json := .text a.name

/-- Reads a delete action. -/
def reader : JsonReader DeleteAction :=
  .choice (all.map fun a => (a.name, a))

end DeleteAction

namespace ParentDelete

/-- All fates of interleaved rows. -/
def all : List ParentDelete :=
  [.cascade, .noAction]

/-- The name of the fate of interleaved rows in a document. -/
def name : ParentDelete → String
  | .cascade => "cascade"
  | .noAction => "noAction"

def toJson (a : ParentDelete) : Json := .text a.name

/-- Reads the fate of interleaved rows. -/
def reader : JsonReader ParentDelete :=
  .choice (all.map fun a => (a.name, a))

end ParentDelete

/-! ## Columns -/

namespace PhysicalType

def toJson (t : PhysicalType) : Json :=
  .object [("postgres", .text t.postgres), ("spanner", .text t.spanner)]

/-- The fields of the types of a column. -/
def form : JsonForm PhysicalType where
  blank := ⟨"", ""⟩
  fields := [
    .required "postgres" .string fun v t => { t with postgres := v },
    .required "spanner" .string fun v t => { t with spanner := v }]

/-- Reads the types of a column. -/
def reader : JsonReader PhysicalType := form.read

end PhysicalType

namespace ColumnDefault

def toJson : ColumnDefault → Json
  | .literal value => .object [("kind", .text "literal"), ("value", value.val)]
  | .expression sql => .object [("kind", .text "expression"), ("value", .text sql)]
  | .supplied => .object [("kind", .text "clientGenerated")]

/-- Reads a default. -/
def reader : JsonReader ColumnDefault :=
  JsonVariant.beside "kind" "value" [
    ("literal", .some (JsonReader.data.map .literal)),
    ("expression", .some (JsonReader.string.map .expression)),
    ("clientGenerated", .none .supplied)]

end ColumnDefault

namespace Reference

def toJson (r : Reference) : Json :=
  .object ([("table", .text r.table), ("column", .text r.column)]
    ++ Json.memberIfSome "name" (r.name.map .text)
    ++ Json.memberIfSome "onDelete" (r.onDelete.map DeleteAction.toJson))

/-- The fields of a foreign key. -/
def form : JsonForm Reference where
  blank := ⟨"", "", none, none⟩
  fields := [
    .required "table" .string fun v r => { r with table := v },
    .required "column" .string fun v r => { r with column := v },
    .optional "name" .string fun v r => { r with name := v },
    .optional "onDelete" DeleteAction.reader fun v r => { r with onDelete := v }]

/-- Reads a foreign key. -/
def reader : JsonReader Reference := form.read

end Reference

namespace Column

def toJson (c : Column) : Json :=
  .object ([("name", .text c.name), ("columnType", c.type.toJson),
      ("dialectTypes", c.physical.toJson), ("nullable", .bool c.nullable)]
    ++ Json.memberIfSome "default" (c.default?.map ColumnDefault.toJson)
    ++ [("primaryKey", .bool c.primaryKey), ("unique", .bool c.unique)]
    ++ Json.memberIfSome "foreignKey" (c.reference?.map Reference.toJson))

/-- The fields of a column. -/
def form : JsonForm Column where
  blank := .plain "" .string ⟨"", ""⟩
  fields := [
    .required "name" .string fun v c => { c with name := v },
    .required "columnType" ColumnType.reader fun v c => { c with type := v },
    .required "dialectTypes" PhysicalType.reader fun v c => { c with physical := v },
    .defaulted "nullable" .bool fun v c => { c with nullable := v },
    .optional "default" ColumnDefault.reader fun v c => { c with default? := v },
    .defaulted "primaryKey" .bool fun v c => { c with primaryKey := v },
    .defaulted "unique" .bool fun v c => { c with unique := v },
    .optional "foreignKey" Reference.reader fun v c => { c with reference? := v }]

/-- Reads a column. -/
def reader : JsonReader Column := form.read

end Column

/-! ## Tables -/

namespace Index

def toJson (i : Index) : Json :=
  .object (Json.memberIfSome "name" (i.name.map .text)
    ++ [("columns", Json.texts i.columns), ("unique", .bool i.unique)])

/-- The fields of an index. -/
def form : JsonForm Index where
  blank := ⟨none, [], false⟩
  fields := [
    .optional "name" .string fun v i => { i with name := v },
    .required "columns" (.list .string) fun v i => { i with columns := v },
    .defaulted "unique" .bool fun v i => { i with unique := v }]

/-- Reads an index. -/
def reader : JsonReader Index := form.read

end Index

namespace CompositeKey

def toJson (key : CompositeKey) : Json :=
  .object (Json.memberIfSome "name" (key.name.map .text)
    ++ [("columns", Json.texts key.columns)])

/-- The fields of a declared primary key. -/
def form : JsonForm CompositeKey where
  blank := ⟨none, []⟩
  fields := [
    .optional "name" .string fun v key => { key with name := v },
    .required "columns" (.list .string) fun v key => { key with columns := v }]

/-- Reads a declared primary key. -/
def reader : JsonReader CompositeKey := form.read

end CompositeKey

namespace Interleave

def toJson (i : Interleave) : Json :=
  .object [("parent", .text i.parent), ("onDelete", i.onDelete.toJson)]

/-- The fields of an interleaving. -/
def form : JsonForm Interleave where
  blank := ⟨"", .cascade⟩
  fields := [
    .required "parent" .string fun v i => { i with parent := v },
    .required "onDelete" ParentDelete.reader fun v i => { i with onDelete := v }]

/-- Reads an interleaving. -/
def reader : JsonReader Interleave := form.read

end Interleave

namespace Table

def toJson (t : Table) : Json :=
  .object ([("name", .text t.name),
      ("columns", .object (t.columns.entries.map fun e => (e.1, e.2.toJson)))]
    ++ Json.memberIfAny "indexes" (t.indexes.map Index.toJson)
    ++ Json.memberIfSome "primaryKey" (t.primaryKey?.map CompositeKey.toJson)
    ++ Json.memberIfSome "interleave" (t.interleave?.map Interleave.toJson))

/-- The fields of a table. -/
def form : JsonForm Table where
  blank := .empty ""
  fields := [
    .required "name" .string fun v t => { t with name := v },
    .required "columns" (.nameMap Column.reader) fun v t => { t with columns := v },
    .defaulted "indexes" (.list Index.reader) fun v t => { t with indexes := v },
    .optional "primaryKey" CompositeKey.reader fun v t => { t with primaryKey? := v },
    .optional "interleave" Interleave.reader fun v t => { t with interleave? := v }]

/-- Reads a table. -/
def reader : JsonReader Table := form.read

end Table

namespace Schema

def toJson (s : Schema) : Json :=
  .object [("version", .text s.version),
    ("tables", .object (s.tables.entries.map fun e => (e.1, e.2.toJson)))]

/-- The fields of a schema. -/
def form : JsonForm Schema where
  blank := ⟨"", .empty⟩
  fields := [
    .required "version" .string fun v s => { s with version := v },
    .defaulted "tables" (.nameMap Table.reader) fun v s => { s with tables := v }]

/-- Reads a schema. -/
def reader : JsonReader Schema := form.read

/-- Reads a schema from the text of a document. -/
def ofText (text : String) : Except ReadError Schema :=
  reader.readText text

/-- The document of a schema. -/
def toText (s : Schema) : String :=
  s.toJson.pretty

end Schema

end SchemaEvolution
