import SchemaEvolution.Schema.Basic

/-!
# The order in which tables are created

A table can only be created when the tables it refers to exist. Among the tables
that wait, `creationOrder` always takes the one of least name whose references
no longer wait. When every waiting table refers to another waiting one, there is
a cycle among them, and the least name goes first.

Tables outside the list play no part, and of several tables with one name the
last one stands for all.
-/

namespace SchemaEvolution

/-- The waiting table to create next. -/
def nextTable? (waiting : NameMap Table) : Option (String × Table) :=
  match waiting.entries.find? fun e => e.2.dependencies.all (!waiting.contains ·) with
  | some e => some e
  | none => waiting.entries.head?

/-- The waiting tables one after the other, at most `count` of them. -/
def takeTables : Nat → NameMap Table → List Table
  | 0, _ => []
  | count + 1, waiting =>
    match nextTable? waiting with
    | none => []
    | some (name, table) => table :: takeTables count (waiting.erase name)

/-- Tables in an order that puts each behind those it refers to, as far as there
is one. -/
def creationOrder (tables : List Table) : List Table :=
  takeTables tables.length (NameMap.ofList (tables.map fun t => (t.name, t)))

end SchemaEvolution
