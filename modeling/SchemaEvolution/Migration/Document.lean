import SchemaEvolution.Migration.Basic
import SchemaEvolution.Patch.Document

/-!
# Migrations as documents

How a migration is written as JSON and read from it, so that it can be kept in a
file. The document of a migration holds its statements as they are run.
-/

namespace SchemaEvolution

namespace Dialect

def toJson (d : Dialect) : Json := .text d.tag

/-- Reads a dialect by its tag. -/
def reader : JsonReader Dialect :=
  .choice (all.map fun d => (d.tag, d))

end Dialect

namespace Diagnostic

def toJson (d : Diagnostic) : Json :=
  .object [("dialect", d.dialect.toJson), ("table", .text d.table), ("message", .text d.message)]

/-- The fields of a remark. -/
def form : JsonForm Diagnostic where
  blank := ⟨.postgres, "", ""⟩
  fields := [
    .required "dialect" Dialect.reader fun v d => { d with dialect := v },
    .required "table" .string fun v d => { d with table := v },
    .required "message" .string fun v d => { d with message := v }]

/-- Reads a remark. -/
def reader : JsonReader Diagnostic := form.read

end Diagnostic

namespace Routine

def toJson : Routine → Json
  | .statements sqls => .object [("kind", .text "statements"), ("steps", Json.texts sqls)]
  | .batches groups =>
    .object [("kind", .text "batches"), ("steps", .list (groups.map Json.texts))]

/-- Reads a routine. -/
def reader : JsonReader Routine :=
  JsonVariant.beside "kind" "steps" [
    ("statements", .some ((JsonReader.list .string).map .statements)),
    ("batches", .some ((JsonReader.list (.list .string)).map .batches))]

end Routine

namespace RoutinePair

def toJson (p : RoutinePair) : Json :=
  .object [("up", p.up.toJson), ("down", p.down.toJson)]

/-- The fields of a pair of routines. -/
def form : JsonForm RoutinePair where
  blank := ⟨.statements [], .statements []⟩
  fields := [
    .required "up" Routine.reader fun v p => { p with up := v },
    .required "down" Routine.reader fun v p => { p with down := v }]

/-- Reads a pair of routines. -/
def reader : JsonReader RoutinePair := form.read

end RoutinePair

namespace Migration

def toJson (m : Migration) : Json :=
  .object ([("format", .text m.format), ("name", .text m.name), ("upDiff", m.up.toJson),
      ("downDiff", m.down.toJson), ("postgres", m.postgres.toJson),
      ("spanner", m.spanner.toJson)]
    ++ Json.memberIfAny "diagnostics" (m.diagnostics.map Diagnostic.toJson))

/-- The fields of a migration. -/
def form : JsonForm Migration where
  blank := ⟨"", "", ⟨"", "", []⟩, ⟨"", "", []⟩, RoutinePair.form.blank, RoutinePair.form.blank, []⟩
  fields := [
    .required "format" .string fun v m => { m with format := v },
    .required "name" .string fun v m => { m with name := v },
    .required "upDiff" SchemaPatch.reader fun v m => { m with up := v },
    .required "downDiff" SchemaPatch.reader fun v m => { m with down := v },
    .required "postgres" RoutinePair.reader fun v m => { m with postgres := v },
    .required "spanner" RoutinePair.reader fun v m => { m with spanner := v },
    .defaulted "diagnostics" (.list Diagnostic.reader) fun v m => { m with diagnostics := v }]

/-- Reads a migration. -/
def reader : JsonReader Migration := form.read

/-- Reads a migration from the text of a document. -/
def ofText (text : String) : Except ReadError Migration :=
  reader.readText text

/-- The document of a migration. -/
def toText (m : Migration) : String :=
  m.toJson.pretty

end Migration

end SchemaEvolution
