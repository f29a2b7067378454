import SchemaEvolution.Database.Session
import SchemaEvolution.Ledger.Statements
import SchemaEvolution.Text.Search

/-!
# Dry runs

A dry run carries out a session without a database. It notes every statement
that would have been sent, and of all tables keeps only the ledger, so that a
session finds there what it has recorded.

A statement about the ledger is known by the name of the ledger's table in it,
and what it does by its first word. A failure leaves the ledger as it was: that
of a statement, of a batch, and of a transaction with all its work. What was
noted stays noted.

A dry run can be told to let every statement fail that has a given text in it.
-/

namespace SchemaEvolution

/-- A row of the ledger. -/
structure LedgerRow where
  name : String
  dialect : String
  appliedAt : Instant
deriving DecidableEq

/-- The state of a dry run. -/
structure DryRun where
  connected : Bool
  /-- What was sent, and where transactions began and ended. -/
  log : List String
  /-- The rows of the ledger in the order in which they were added, once it has
  been created. -/
  ledger? : Option (List LedgerRow)
  /-- The text that lets a statement fail. -/
  failing? : Option String
  /-- How often the clock was read. -/
  readings : Nat
  /-- What was told. -/
  messages : List Message

namespace LedgerRow

/-- Whether a row comes no later than another when rows are read. -/
def upTo (a b : LedgerRow) : Bool :=
  a.appliedAt < b.appliedAt || (a.appliedAt = b.appliedAt && a.name ≤ b.name)

/-- A row as it is read. -/
def toRow (r : LedgerRow) : Row :=
  .ofList [("name", .text r.name), ("dialect", .text r.dialect),
    ("appliedAt", .timestamp r.appliedAt)]

/-- Whether a row has a name and a dialect. -/
def isFor (r : LedgerRow) (name dialect : String) : Bool :=
  r.name == name && r.dialect == dialect

end LedgerRow

namespace DryRun

/-- A dry run that has not begun, against a database that holds nothing. -/
def start : DryRun :=
  ⟨false, [], none, none, 0, []⟩

/-! ## The ledger -/

/-- The failure of a statement about a ledger that is not there. -/
def noLedger : DatabaseError :=
  ⟨.notFound, "table " ++ Ledger.table ++ " not found"⟩

/-- The text that a parameter must hold. -/
def textOf (c : Cell) : Answer String :=
  match c.text? with
  | some s => .ok s
  | none => .error (.other ("expected text, got " ++ c.shown))

/-- Adds a row unless there is one of the same name and dialect. -/
def insertRow (rows : List LedgerRow) : List Cell → Answer (Nat × List LedgerRow)
  | [name, dialect, time] => do
    let name ← textOf name
    let dialect ← textOf dialect
    match time.instant? with
    | none => .error (.other "appliedAt must be a timestamp")
    | some appliedAt =>
      if rows.any (·.isFor name dialect) then
        .error ⟨.alreadyExists, "ledger row (" ++ name ++ ", " ++ dialect ++ ") already exists"⟩
      else pure (1, rows ++ [⟨name, dialect, appliedAt⟩])
  | _ => .error (.other "ledger insert takes three parameters")

/-- Removes the rows of a name and a dialect. -/
def deleteRow (rows : List LedgerRow) : List Cell → Answer (Nat × List LedgerRow)
  | [name, dialect] => do
    let name ← textOf name
    let dialect ← textOf dialect
    let kept := rows.filter (!·.isFor name dialect)
    pure (rows.length - kept.length, kept)
  | _ => .error (.other "ledger delete takes two parameters")

/-- What a statement does to the ledger, and the number of rows it changes. -/
def effect (ledger? : Option (List LedgerRow)) (sql : String) (params : List Cell) :
    Answer (Nat × Option (List LedgerRow)) :=
  if !hasPart sql Ledger.table then .ok (0, ledger?)
  else if beginsWith sql "CREATE TABLE" then
    match ledger? with
    | some _ => .error ⟨.alreadyExists, "table " ++ Ledger.table ++ " already exists"⟩
    | none => .ok (0, some [])
  else
    match ledger? with
    | none => .error noLedger
    | some rows =>
      if beginsWith sql "INSERT" then (insertRow rows params).map fun r => (r.1, some r.2)
      else if beginsWith sql "DELETE" then (deleteRow rows params).map fun r => (r.1, some r.2)
      else .ok (0, some rows)

/-! ## Calls -/

/-- Takes in what is told. -/
def hear (s : DryRun) (message : Message) : DryRun :=
  { s with messages := s.messages ++ [message] }

/-- Notes a line of the log. -/
def note (s : DryRun) (line : String) : DryRun :=
  { s with log := s.log ++ [line] }

/-- Tells of a statement that was sent, and notes it. -/
def record (s : DryRun) (what sql : String) : DryRun :=
  (s.hear (.debug ("Recording " ++ what) [("sql", sql)])).note sql

/-- Whether a statement is to fail. -/
def fails (s : DryRun) (sql : String) : Bool :=
  s.failing?.any (hasPart sql ·)

/-- Runs a statement. -/
def execute (s : DryRun) (sql : String) (params : List Cell) : Answer Nat × DryRun :=
  let noted := s.record "SQL" sql
  if s.fails sql then (.error (.other ("injected failure: " ++ sql)), noted)
  else
    match effect s.ledger? sql params with
    | .ok (changed, ledger?) => (.ok changed, { noted with ledger? })
    | .error e => (.error e, noted)

/-- Runs statements up to the first that fails. -/
def executeAll (s : DryRun) : List String → Answer Unit × DryRun
  | [] => (.ok (), s)
  | sql :: rest =>
    match s.execute sql [] with
    | (.ok _, s) => s.executeAll rest
    | (.error e, s) => (.error e, s)

/-- Runs statements as a whole. -/
def batch (s : DryRun) (sqls : List String) : Answer Unit × DryRun :=
  match s.executeAll sqls with
  | (.ok _, after) => (.ok (), after)
  | (.error e, after) => (.error e, { after with ledger? := s.ledger? })

/-- The rows that a query about the ledger finds: those of the dialect in its
first parameter, or all if that holds no text. -/
def select (rows : List LedgerRow) (params : List Cell) : List LedgerRow :=
  let found : List LedgerRow :=
    match params.head?.bind Cell.text? with
    | some dialect => rows.filter (·.dialect = dialect)
    | none => rows
  found.mergeSort LedgerRow.upTo

/-- Answers a query. -/
def query (s : DryRun) (sql : String) (params : List Cell) : Answer (List Row) × DryRun :=
  let answer : Answer (List Row) :=
    if !hasPart sql Ledger.table then .ok []
    else
      match s.ledger? with
      | none => .error noLedger
      | some rows => .ok ((select rows params).map LedgerRow.toRow)
  (answer, s.record "query" sql)

/-- Ends a transaction that began in the state `before`. -/
def finish {ε β : Type} (before after : DryRun) : Except ε β → DryRun
  | .ok _ => after.note "COMMIT"
  | .error _ => { after with ledger? := before.ledger? }.note "ROLLBACK"

/-! ## What was sent -/

/-- The lines of the log that say where a transaction begins and how it ends. -/
def transactionMarks : List String :=
  ["BEGIN", "COMMIT", "ROLLBACK"]

/-- Whether a line of the log is a statement about anything but the ledger. -/
def isSchemaStatement (line : String) : Bool :=
  !hasPart line Ledger.table && !transactionMarks.contains line

/-- The statements that are not about the ledger. -/
def schemaStatements (s : DryRun) : List String :=
  s.log.filter isSchemaStatement

end DryRun

/-- Carries out a session as a dry run. The clock shows the time of each of its
readings. -/
def Session.rehearse {α : Type} (clock : Nat → Instant) : Session α → DryRun → α × DryRun
  | .done value, s => (value, s)
  | .connect next, s => (next (.ok ())).rehearse clock { s with connected := true }
  | .disconnect next, s => (next (.ok ())).rehearse clock { s with connected := false }
  | .execute sql params next, s =>
    let (answer, s) := s.execute sql params
    (next answer).rehearse clock s
  | .batch sqls next, s =>
    let (answer, s) := s.batch sqls
    (next answer).rehearse clock s
  | .query sql params next, s =>
    let (answer, s) := s.query sql params
    (next answer).rehearse clock s
  | .transaction work next, s =>
    let (ending, after) := work.rehearse clock (s.note "BEGIN")
    (next (.ok ending)).rehearse clock (DryRun.finish s after ending)
  | .clock next, s =>
    (next (clock s.readings)).rehearse clock { s with readings := s.readings + 1 }
  | .tell message next, s => next.rehearse clock (s.hear message)

end SchemaEvolution
