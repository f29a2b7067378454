import SchemaEvolution.Ddl.Messages
import SchemaEvolution.Migration.Basic
import SchemaEvolution.Patch.Messages

/-!
# What is told while migrations are made

Both directions are compared, and then compiled, dialect by dialect. The last
word is that there is nothing to do or that there is a migration; when a dialect
refuses one of the directions there is no last word.
-/

namespace SchemaEvolution.Migration

/-- What is told while two patches are compiled in a dialect. -/
def compileMessages (up down : SchemaPatch) (d : Dialect) : List Message :=
  up.compileMessages d ++
    match up.compile d with
    | .error _ => []
    | .ok forward =>
      down.compileMessages d ++
        match down.compile d with
        | .error _ => []
        | .ok backward =>
          [.debug "Compiled migration routines" [("dialect", d.tag),
            ("up", toString forward.batches.length), ("down", toString backward.batches.length)]]

/-- What is told while the migration from one schema to another is made. -/
def messagesBetween (name : String) (baseline current : Schema) : List Message :=
  let up := SchemaPatch.between baseline current
  let down := SchemaPatch.between current baseline
  SchemaPatch.messagesBetween baseline current ++ SchemaPatch.messagesBetween current baseline
    ++ if up.isEmpty && down.isEmpty then [.info "No schema changes detected" [("name", name)]]
    else
      compileMessages up down .postgres ++
        match compileBoth up down .postgres with
        | .error _ => []
        | .ok _ =>
          compileMessages up down .spanner ++
            match between? name baseline current with
            | .ok (some m) =>
              [.info "Synthesized migration" [("name", name),
                ("actions", toString m.up.actions.length),
                ("diagnostics", toString m.diagnostics.length)]]
            | _ => []

end SchemaEvolution.Migration
