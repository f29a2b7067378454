import SchemaEvolution.Message
import SchemaEvolution.Patch.Between

/-!
# What is told while schemas are compared

A comparison goes on where its result may surprise: when the schemas are
described in different versions of the format, and when a table has several
indexes that are known by the same, of which only the last one counts.
-/

namespace SchemaEvolution

/-- What the indexes are known by that are known by the same as one before
them. -/
def repeatedIdentities (seen : List String) : List Index → List String
  | [] => []
  | index :: rest =>
    (if index.identity ∈ seen then [index.identity] else [])
      ++ repeatedIdentities (index.identity :: seen) rest

/-- What is told of the indexes of a table that is compared. -/
def Table.comparedMessages (t : Table) : List Message :=
  (repeatedIdentities [] t.indexes).map fun identity =>
    .warning "Duplicate index identity; only the last definition is compared"
      [("table", t.name), ("index", identity)]

/-- What is told while two schemas are compared. -/
def SchemaPatch.messagesBetween (before after : Schema) : List Message :=
  (if before.version = after.version then []
    else [.warning "Comparing snapshots with different format versions"
      [("from_version", before.version), ("to_version", after.version)]])
    ++ before.tables.entries.flatMap fun e =>
      match after.tables.find? e.1 with
      | none => []
      | some table => e.2.comparedMessages ++ table.comparedMessages

end SchemaEvolution
