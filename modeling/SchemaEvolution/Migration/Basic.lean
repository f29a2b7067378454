import SchemaEvolution.Ddl.Compile

/-!
# Migrations

A migration leads from one schema to another and back: it holds the patches of
both directions and, for each dialect, the statements that carry them out.

`Migration.between?` makes one from two schemas. There is none when neither
direction has anything to do, and none when some dialect refuses one of the
directions.
-/

namespace SchemaEvolution

/-! ## Routines -/

/-- Statements in the way in which they are submitted. -/
inductive Routine where
  /-- One after the other, in one transaction. -/
  | statements (sqls : List String)
  /-- In batches, each of them as a whole. -/
  | batches (groups : List (List String))
deriving DecidableEq

namespace Routine

/-- The statements of a routine in the order in which they are run. -/
def flat : Routine → List String
  | .statements sqls => sqls
  | .batches groups => groups.flatten

/-- Whether a routine does nothing. -/
def isEmpty (r : Routine) : Bool :=
  r.flat.isEmpty

end Routine

/-- The routine that runs what was compiled: PostgreSQL changes a schema within a
transaction, Spanner batch by batch. -/
def Compilation.routine (c : Compilation) : Routine :=
  match c.dialect with
  | .postgres => .statements c.texts.flatten
  | .spanner => .batches c.texts

/-- The routines that apply and revert a migration in one dialect. -/
structure RoutinePair where
  up : Routine
  down : Routine
deriving DecidableEq

/-! ## Migrations -/

/-- A migration. -/
structure Migration where
  /-- The format of the document that holds the migration. -/
  format : String
  name : String
  up : SchemaPatch
  down : SchemaPatch
  postgres : RoutinePair
  spanner : RoutinePair
  /-- The remarks on all statements. -/
  diagnostics : List Diagnostic

namespace Migration

/-- The format in which migrations are written, and the only one that is run. -/
def currentFormat : String := "twinddl-migration/1"

/-- The routines of a migration in a dialect. -/
def routines (m : Migration) : Dialect → RoutinePair
  | .postgres => m.postgres
  | .spanner => m.spanner

/-- Whether a migration has a format that can be run. -/
def isSupported (m : Migration) : Bool :=
  m.format == currentFormat

/-- The name of the file of a migration, which begins with a time stamp. -/
def fileName (m : Migration) (stamp : String) : String :=
  stamp ++ "_" ++ m.name ++ ".json"

/-- The routines of two patches in a dialect, and the remarks on them. -/
def compileBoth (up down : SchemaPatch) (d : Dialect) :
    Except Unsupported (RoutinePair × List Diagnostic) := do
  let forward ← up.compile d
  let backward ← down.compile d
  pure (⟨forward.routine, backward.routine⟩, forward.diagnostics ++ backward.diagnostics)

/-- The migration from one schema to another; none if there is nothing to do. -/
def between? (name : String) (baseline current : Schema) :
    Except Unsupported (Option Migration) :=
  let up := SchemaPatch.between baseline current
  let down := SchemaPatch.between current baseline
  if up.isEmpty && down.isEmpty then .ok none
  else do
    let (postgres, remarks) ← compileBoth up down .postgres
    let (spanner, more) ← compileBoth up down .spanner
    pure (some ⟨currentFormat, name, up, down, postgres, spanner, remarks ++ more⟩)

end Migration

end SchemaEvolution
