import SchemaEvolution.Patch.Basic
import SchemaEvolution.Patch.Order

/-!
# The patch between two schemas

`SchemaPatch.between` compares two schemas and lists what leads from the first
to the second. New tables come first, each behind those it refers to; then the
tables that change, in order of name; then the tables that go, each before those
it refers to. Within a table, columns are compared by name and indexes by what
they are known by.

The result depends on nothing but the two schemas.
-/

namespace SchemaEvolution

/-! ## Columns -/

/-- The edits that lead from one state of a column to another. -/
def FieldEdit.between (before after : Column) : List FieldEdit :=
  (if before.type ≠ after.type ∨ before.physical ≠ after.physical then
      [.type after.type after.physical] else []) ++
  (if before.nullable ≠ after.nullable then [.nullable after.nullable] else []) ++
  (if ColumnDefault.equivalent? before.default? after.default? then []
    else [.default before.default? after.default?]) ++
  (if before.primaryKey ≠ after.primaryKey then [.primaryKey after.primaryKey] else []) ++
  (if before.unique ≠ after.unique then [.unique after.unique] else []) ++
  (if before.reference? ≠ after.reference? then
      [.reference before.reference? after.reference?] else [])

/-- The edits of the columns of a table: new columns, changed ones, and those
that go. -/
def ColumnEdit.between (before after : Table) : List ColumnEdit :=
  let added := after.columns.entries.filterMap fun e =>
    if before.columns.contains e.1 then none else some (ColumnEdit.add e.2)
  let changed := before.columns.entries.filterMap fun e =>
    match after.columns.find? e.1 with
    | none => none
    | some column =>
      let edits := FieldEdit.between e.2 column
      if edits.isEmpty then none
      else some (ColumnEdit.change e.1 column (after.keyColumns.contains e.1) edits)
  let removed := before.columns.entries.filterMap fun e =>
    if after.columns.contains e.1 then none else some (ColumnEdit.remove e.1 e.2)
  added ++ changed ++ removed

/-! ## Indexes, keys and interleaving -/

/-- The indexes of a table by what they are known by. Of several indexes known
by the same the last one stays. -/
def Table.indexesByIdentity (t : Table) : NameMap Index :=
  NameMap.ofList (t.indexes.map fun i => (i.identity, i))

/-- The edits of the indexes of a table: those that go, changed ones, and new
ones. -/
def IndexEdit.between (before after : Table) : List IndexEdit :=
  let old := before.indexesByIdentity
  let new := after.indexesByIdentity
  let removed := old.entries.filterMap fun e =>
    if new.contains e.1 then none else some (IndexEdit.remove e.2)
  let changed := old.entries.filterMap fun e =>
    match new.find? e.1 with
    | none => none
    | some index =>
      if e.2.unique ≠ index.unique ∨ e.2.columns ≠ index.columns then
        some (IndexEdit.change e.2 index) else none
  let added := new.entries.filterMap fun e =>
    if old.contains e.1 then none else some (IndexEdit.add e.2)
  removed ++ changed ++ added

/-- The edit that leads from one declared primary key to another. -/
def KeyEdit.between : Option CompositeKey → Option CompositeKey → Option KeyEdit
  | before, some after => if before = some after then none else some (.set before after)
  | some before, none => some (.remove before.name)
  | none, none => none

/-- The edit that leads from one interleaving to another. -/
def InterleaveEdit.between : Option Interleave → Option Interleave → Option InterleaveEdit
  | before, some after => if before = some after then none else some (.set before after)
  | some before, none => some (.remove before)
  | none, none => none

/-! ## Tables -/

/-- The edit that leads from one state of a table to another, or `none` when
they are the same. -/
def TableEdit.between (before after : Table) : Option TableEdit :=
  let primaryKey? := KeyEdit.between before.primaryKey? after.primaryKey?
  let edit : TableEdit :=
    { name := after.name
      columns := ColumnEdit.between before after
      indexes := IndexEdit.between before after
      primaryKey? := primaryKey?
      interleave? := InterleaveEdit.between before.interleave? after.interleave?
      keyColumns? :=
        if primaryKey?.isSome ∨ before.keyColumns ≠ after.keyColumns then
          some ⟨before.keyColumns, after.keyColumns⟩ else none }
  if edit.isEmpty then none else some edit

/-- The tables of a schema that another one has not. -/
def Schema.tablesMissingFrom (s other : Schema) : List Table :=
  (s.tables.entries.filter fun e => !other.tables.contains e.1).map Prod.snd

/-- The patch that leads from one schema to another. -/
def SchemaPatch.between (before after : Schema) : SchemaPatch where
  fromVersion := before.version
  toVersion := after.version
  actions :=
    let added := (creationOrder (after.tablesMissingFrom before)).map TableAction.add
    let changed := before.tables.entries.filterMap fun e =>
      match after.tables.find? e.1 with
      | none => none
      | some table => (TableEdit.between e.2 table).map TableAction.change
    let removed := (creationOrder (before.tablesMissingFrom after)).reverse.map fun t =>
      TableAction.remove t.name t
    added ++ changed ++ removed

end SchemaEvolution
