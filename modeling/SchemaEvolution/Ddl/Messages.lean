import SchemaEvolution.Ddl.Compile
import SchemaEvolution.Message

/-!
# What is told while patches are compiled

For PostgreSQL every definition of a column is told, and every interleaving that
is passed over; for Spanner every remark, at the time it is made. When something
is refused, what was told before stays told, and nothing is told behind it.
-/

namespace SchemaEvolution

/-- What is told of a remark. -/
def Diagnostic.told (r : Diagnostic) : Message :=
  .warning r.message [("dialect", r.dialect.tag), ("table", r.table)]

namespace Ddl

/-- The remarks of parts up to the first that is refused. -/
def remarksUpToRefusal : List Ddl → List Diagnostic
  | [] => []
  | .ok e :: rest => e.diagnostics ++ remarksUpToRefusal rest
  | .error _ :: _ => []

namespace Postgres

/-- What is told of the definition of a column. -/
def columnMessage (table : String) (c : Column) : Message :=
  .debug "Compiled column definition" [("table", table), ("column", c.name)]

/-- What is told of a table that is created. -/
def createMessages (t : Table) : List Message :=
  match t.checkIndexNames .postgres with
  | .error _ => []
  | .ok () =>
    t.columns.values.map (columnMessage t.name)
      ++ (if t.interleave?.isSome then
        [.debug "Interleave has no PostgreSQL representation; skipped" [("table", t.name)]] else [])

/-- What is told of a table that is changed. -/
def changeMessages (e : TableEdit) : List Message :=
  (e.columns.filterMap fun
    | .add c => some (columnMessage e.name c)
    | _ => none)
    ++ (if e.interleave?.isSome then
      [.debug "Interleave change has no PostgreSQL representation; skipped" [("table", e.name)]]
    else [])

/-- What is told of an action of a patch. -/
def messages : TableAction → List Message
  | .add table => createMessages table
  | .change edit => changeMessages edit
  | .remove _ _ => []

end Postgres

namespace Spanner

/-- The remarks on an action of a patch, up to what is refused of it. -/
def remarksOn : TableAction → List Diagnostic
  | .add table => remarksUpToRefusal [createTable table]
  | .change edit => remarksUpToRefusal (alterParts .spanner edit)
  | .remove _ _ => []

end Spanner

/-- What is told of an action of a patch. -/
def messages : Dialect → TableAction → List Message
  | .postgres, action => Postgres.messages action
  | .spanner, action => (Spanner.remarksOn action).map Diagnostic.told

/-- What is told of actions up to the first that is refused. -/
def messagesUpToRefusal (d : Dialect) : List TableAction → List Message
  | [] => []
  | action :: rest =>
    messages d action ++
      match act d action with
      | .ok _ => messagesUpToRefusal d rest
      | .error _ => []

end Ddl

/-- What is told while a patch is compiled. -/
def SchemaPatch.compileMessages (p : SchemaPatch) (d : Dialect) : List Message :=
  Ddl.messagesUpToRefusal d p.actions

end SchemaEvolution
