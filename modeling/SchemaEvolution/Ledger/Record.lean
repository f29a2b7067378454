import SchemaEvolution.Ledger.Statements
import SchemaEvolution.Project.Error

/-!
# Keeping the ledger

Sessions that create the ledger, note in it what is applied and what no longer
is, and read it. A ledger that is there already is as good as a new one, and one
that is not there has no rows.
-/

namespace SchemaEvolution

/-- A migration that the ledger says is applied. -/
structure AppliedMigration where
  name : String
  dialect : Dialect
  appliedAt : Instant
deriving DecidableEq

/-- A session about migrations. -/
abbrev MigrationSession (α : Type) := Session.Fallible MigrationError α

namespace Ledger

open Session (Strict)

/-- The session that creates the ledger. Spanner takes statements that define
data in batches only. -/
def create : Dialect → Strict Unit
  | .postgres => discard (Strict.execute (createSql .postgres) [])
  | .spanner => Strict.batch [createSql .spanner]

/-- Creates the ledger unless it is there. -/
def ensure (d : Dialect) : MigrationSession Unit :=
  ExceptT.mk do
    match ← (create d).run with
    | .ok _ => .tell (.info "Created migration ledger" [("dialect", d.tag)]) (.done (.ok ()))
    | .error e =>
      if e.kind = .alreadyExists then
        .tell (.debug "Migration ledger already exists" [("dialect", d.tag)]) (.done (.ok ()))
      else pure (.error (.ledgerNotCreated e))

/-- Notes that a migration is applied. -/
def recordApplied (d : Dialect) (name : String) : Strict Unit := do
  let now ← Strict.clock
  discard (Strict.execute (insertSql d) [.text name, .text d.tag, .timestamp now])

/-- Notes that a migration is no longer applied. -/
def recordReverted (d : Dialect) (name : String) : Strict Unit :=
  discard (Strict.execute (deleteSql d) [.text name, .text d.tag])

/-- What a row of the ledger says. -/
def decode (d : Dialect) (row : Row) : Answer AppliedMigration :=
  match (row.find? "name").bind Cell.text? with
  | none => .error (.other "ledger row without a name")
  | some name =>
    match (row.find? "appliedAt").bind Cell.instant? with
    | none => .error (.other ("ledger row '" ++ name ++ "' without appliedAt"))
    | some time => .ok ⟨name, d, time⟩

/-- The migrations that are applied, in the order in which they were. -/
def applied (d : Dialect) : MigrationSession (List AppliedMigration) :=
  ExceptT.mk do
    match ← (Strict.query (selectSql d) [.text d.tag]).run with
    | .ok rows => pure ((rows.mapM (decode d)).mapError .database)
    | .error e =>
      if e.kind = .notFound then
        .tell (.info "Migration ledger not found; nothing applied yet" [("dialect", d.tag)])
          (.done (.ok []))
      else pure (.error (.database e))

/-- The names of the migrations that are applied, in the order in which they
were. -/
def appliedNames (d : Dialect) : MigrationSession (List String) := do
  let migrations ← applied d
  pure (migrations.map (·.name))

end Ledger

end SchemaEvolution
