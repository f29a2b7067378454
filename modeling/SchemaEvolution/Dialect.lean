/-!
# Dialects of SQL

The two databases that statements are written for. Each has a tag, which names
it in documents and in the ledger, and a few other names by which a user may
call it, in letters of either case.
-/

namespace SchemaEvolution

/-- A dialect of SQL. -/
inductive Dialect where
  | postgres | spanner
deriving DecidableEq

namespace Dialect

/-- Both dialects. -/
def all : List Dialect :=
  [.postgres, .spanner]

/-- The name of a dialect in documents and ledgers. -/
def tag : Dialect → String
  | .postgres => "postgres"
  | .spanner => "spanner"

/-- The names by which a dialect may be called. -/
def calls : Dialect → List String
  | .postgres => ["postgres", "postgresql", "pg"]
  | .spanner => ["spanner"]

/-- A name that calls no dialect, in small letters. -/
structure Unknown where
  name : String
deriving DecidableEq

/-- The text for a name that calls no dialect. -/
def Unknown.message (u : Unknown) : String :=
  "unknown dialect '" ++ u.name ++ "' (expected postgres or spanner)"

/-- The dialect that is called by a name; capital ASCII letters count as small
ones. -/
def ofName (name : String) : Except Unknown Dialect :=
  let lower := name.map Char.toLower
  match all.find? fun d => d.calls.contains lower with
  | some d => .ok d
  | none => .error ⟨lower⟩

end Dialect

end SchemaEvolution
