import SchemaEvolution.Database.Cell
import SchemaEvolution.Message

/-!
# Sessions

A `Session α` is a program that talks to a database and ends with a value: a
tree of calls, each followed by what is done with its answer. What the calls do
is left open, so one program can be run against a database, rehearsed, or
reasoned about for all databases at once.

The work of a transaction is itself a session. It ends with a value or with a
failure, and then nothing that it has done is kept.

Between its calls a session tells what it does.
-/

namespace SchemaEvolution

/-- What kind of thing has gone wrong in a database. -/
inductive DatabaseError.Kind where
  | alreadyExists | notFound | other
deriving DecidableEq

/-- The failure of a call. -/
structure DatabaseError where
  kind : DatabaseError.Kind
  message : String
deriving DecidableEq

namespace DatabaseError

/-- The words for a kind of failure. -/
def Kind.name : Kind → String
  | .alreadyExists => "already exists"
  | .notFound => "not found"
  | .other => "other"

/-- A failure of no particular kind. -/
def other (message : String) : DatabaseError :=
  ⟨.other, message⟩

end DatabaseError

/-- The answer of a call. -/
abbrev Answer (α : Type) := Except DatabaseError α

/-- A program that talks to a database. -/
inductive Session : Type → Type 1 where
  | done {α : Type} (value : α) : Session α
  | connect {α : Type} (next : Answer Unit → Session α) : Session α
  | disconnect {α : Type} (next : Answer Unit → Session α) : Session α
  /-- Runs a statement; the answer is the number of rows it has changed. -/
  | execute {α : Type} (sql : String) (params : List Cell) (next : Answer Nat → Session α) :
    Session α
  /-- Runs statements without parameters as a whole. -/
  | batch {α : Type} (sqls : List String) (next : Answer Unit → Session α) : Session α
  | query {α : Type} (sql : String) (params : List Cell) (next : Answer (List Row) → Session α) :
    Session α
  /-- Runs work of which either all or nothing is kept. The answer is how the
  work has ended, or why it has not begun. -/
  | transaction {α ε β : Type} (work : Session (Except ε β))
    (next : Answer (Except ε β) → Session α) : Session α
  /-- Reads the clock. -/
  | clock {α : Type} (next : Instant → Session α) : Session α
  /-- Tells something. -/
  | tell {α : Type} (message : Message) (next : Session α) : Session α

namespace Session

/-- One program after another. -/
def bind {α β : Type} : Session α → (α → Session β) → Session β
  | .done value, f => f value
  | .connect next, f => .connect fun a => (next a).bind f
  | .disconnect next, f => .disconnect fun a => (next a).bind f
  | .execute sql params next, f => .execute sql params fun a => (next a).bind f
  | .batch sqls next, f => .batch sqls fun a => (next a).bind f
  | .query sql params next, f => .query sql params fun a => (next a).bind f
  | .transaction work next, f => .transaction work fun a => (next a).bind f
  | .clock next, f => .clock fun t => (next t).bind f
  | .tell message next, f => .tell message (next.bind f)

instance : Monad Session where
  pure := done
  bind := bind

/-- A program that may fail. -/
abbrev Fallible (ε α : Type) := ExceptT ε Session α

/-- A program that stops when a call fails. -/
abbrev Strict (α : Type) := Fallible DatabaseError α

/-! ## Calls -/

namespace Strict

/-- Runs a statement. -/
def execute (sql : String) (params : List Cell) : Strict Nat :=
  ExceptT.mk (.execute sql params .done)

/-- Runs statements without parameters as a whole. -/
def batch (sqls : List String) : Strict Unit :=
  ExceptT.mk (.batch sqls .done)

/-- Asks a question. -/
def query (sql : String) (params : List Cell) : Strict (List Row) :=
  ExceptT.mk (.query sql params .done)

/-- Runs work of which either all or nothing is kept. -/
def transaction (work : Strict Unit) : Strict Unit :=
  ExceptT.mk (.transaction work.run fun
    | .ok ending => .done ending
    | .error e => .done (.error e))

/-- Reads the clock. -/
def clock : Strict Instant :=
  ExceptT.lift (.clock .done)

end Strict

/-- Tells something. -/
def Fallible.tell {ε : Type} (message : Message) : Fallible ε Unit :=
  ExceptT.lift (.tell message (.done ()))

/-- The program that turns its failures into others. -/
def Fallible.wrap {ε δ α : Type} (p : Fallible ε α) (f : ε → δ) : Fallible δ α :=
  ExceptT.adapt f p

end Session

end SchemaEvolution
