import Mathlib.Data.List.Basic
import SchemaEvolution.Proofs.Compiling

/-!
# Delete actions that Spanner does not have

Of the fates of rows whose referenced row is deleted Spanner has two, and nothing is done in place
of the other three. `SchemaPatch.relaxed` is the patch that asks for nothing from the start where a
foreign key that it declares asks for one of the three. Spanner takes or refuses both patches alike
and has the same statements for them; the patch as it is gets one remark for each action that is not
carried out, and the relaxed one gets none (`SchemaPatch.compile_relaxed`).

What a part declares, what its statements say of it and what is remarked on it go together
(`Ddl.Declares`), from the edit of one property up to a whole patch.
-/

namespace SchemaEvolution

/-! ## Patches that ask for what Spanner has -/

/-- Spanner does nothing where this action is asked for, and says so. -/
def DeleteAction.isDowngraded : DeleteAction → Bool
  | .restrict | .setNull | .setDefault => true
  | .cascade | .noAction => false

/-- The action that Spanner has in place of one that is asked for. -/
def DeleteAction.relaxed (a : DeleteAction) : DeleteAction :=
  if a.isDowngraded then .noAction else a

def Reference.relaxed (r : Reference) : Reference :=
  { r with onDelete := r.onDelete.map DeleteAction.relaxed }

def Column.relaxed (c : Column) : Column :=
  { c with reference? := c.reference?.map Reference.relaxed }

namespace NameMap

variable {α β : Type}

/-- The map with another value under each name. -/
def mapValues (f : α → β) (m : NameMap α) : NameMap β where
  entries := m.entries.map fun e => (e.1, f e.2)
  ascending := by
    rw [List.map_map]
    exact m.ascending

@[simp] theorem values_mapValues (f : α → β) (m : NameMap α) :
    (m.mapValues f).values = m.values.map f := by
  simp [values, mapValues]

end NameMap

def Table.relaxed (t : Table) : Table :=
  { t with columns := t.columns.mapValues Column.relaxed }

/-- The reference that goes is not declared any more, only the one that comes. -/
def FieldEdit.relaxed : FieldEdit → FieldEdit
  | .reference before after => .reference before (after.map Reference.relaxed)
  | edit => edit

def ColumnEdit.relaxed : ColumnEdit → ColumnEdit
  | .add column => .add column.relaxed
  | .remove name previous => .remove name previous
  | .change name column keyColumn edits =>
    .change name column keyColumn (edits.map FieldEdit.relaxed)

def TableEdit.relaxed (e : TableEdit) : TableEdit :=
  { e with columns := e.columns.map ColumnEdit.relaxed }

def TableAction.relaxed : TableAction → TableAction
  | .add table => .add table.relaxed
  | .remove name previous => .remove name previous
  | .change edit => .change edit.relaxed

/-- The patch with NO ACTION wherever a foreign key that it declares asks for an action that Spanner
does not have. -/
def SchemaPatch.relaxed (p : SchemaPatch) : SchemaPatch :=
  { p with actions := p.actions.map TableAction.relaxed }

/-! ## What is declared -/

/-- A foreign key that is declared: for a column of a table, and what it refers to. -/
structure KeyDeclaration where
  table : String
  column : String
  reference : Reference

namespace KeyDeclaration

/-- The clause for a foreign key, and the table that it is for. -/
def clause (k : KeyDeclaration) : String × Sql.ForeignKey :=
  (k.table, ⟨k.reference.nameFor k.table k.column, k.column,
    ⟨k.reference.table, k.reference.column, k.reference.relaxed.onDelete⟩⟩)

/-- The remark on a foreign key that asks for an action that Spanner does not have. -/
def remark? (k : KeyDeclaration) : Option Diagnostic :=
  match k.reference.onDelete with
  | some action =>
    if action.isDowngraded then
      some ⟨.spanner, k.table, "ON DELETE " ++ action.sql ++ " on " ++ k.table ++ "." ++ k.column ++
        " is not supported; using NO ACTION"⟩
    else none
  | none => none

end KeyDeclaration

/-- The foreign keys of a table, in the order of the names of their columns. -/
def Table.declarations (t : Table) : List KeyDeclaration :=
  t.columns.values.filterMap fun c => c.reference?.map (⟨t.name, c.name, ·⟩)

/-- The foreign key that an edit of a property declares. -/
def FieldEdit.declarations (table column : String) : FieldEdit → List KeyDeclaration
  | .reference _ after => after.toList.map (⟨table, column, ·⟩)
  | _ => []

namespace ColumnEdit

/-- The foreign key of a column that is added. -/
def declarationsAdded (table : String) : ColumnEdit → List KeyDeclaration
  | .add column => column.reference?.toList.map (⟨table, column.name, ·⟩)
  | _ => []

/-- The foreign keys that a column gets when it is changed. -/
def declarationsChanged (table : String) : ColumnEdit → List KeyDeclaration
  | .change _ column _ edits => edits.flatMap (·.declarations table column.name)
  | _ => []

end ColumnEdit

/-- The foreign keys that a change of a table declares: those of its new columns come first. -/
def TableEdit.declarations (e : TableEdit) : List KeyDeclaration :=
  e.columns.flatMap (·.declarationsAdded e.name) ++
    e.columns.flatMap (·.declarationsChanged e.name)

def TableAction.declarations : TableAction → List KeyDeclaration
  | .add table => table.declarations
  | .remove _ _ => []
  | .change edit => edit.declarations

/-- The foreign keys that a patch declares, action by action. -/
def SchemaPatch.declarations (p : SchemaPatch) : List KeyDeclaration :=
  p.actions.flatMap TableAction.declarations

/-- The clauses of foreign keys in a statement, each with the table that it is for. -/
def Sql.Statement.foreignKeys : Statement → List (String × ForeignKey)
  | .createTable table => table.foreignKeys.map (table.name, ·)
  | .alterTable table (.addForeignKey key) => [(table, key)]
  | _ => []

namespace Ddl

/-! ## Parts that declare foreign keys -/

/-- Two parts are refused alike, or give the same statements, which have the clauses of these
foreign keys. What the first of them gets remarks for, the second does without. -/
inductive Declares (keys : List KeyDeclaration) : Ddl → Ddl → Prop
  | refused (reason : Unsupported) : Declares keys (.error reason) (.error reason)
  | given {l : List Sql.Statement}
    (clauses : l.flatMap Sql.Statement.foreignKeys = keys.map KeyDeclaration.clause) :
    Declares keys (.ok ⟨l, keys.filterMap KeyDeclaration.remark?⟩) (.ok ⟨l, []⟩)

theorem append_empty (e : Emission) : e ++ Emission.empty = e := by
  change Emission.mk (e.statements ++ []) (e.diagnostics ++ []) = e
  rw [List.append_nil, List.append_nil]

theorem sequence_singleton (part : Ddl) : sequence [part] = part := by
  cases part with
  | error reason => rfl
  | ok e => exact congrArg Except.ok (append_empty e)

theorem sequence_append (parts others : List Ddl) :
    sequence (parts ++ others) =
      sequence parts >>= fun e => sequence others >>= fun e' => pure (e ++ e') := by
  induction parts with
  | nil =>
    rw [List.nil_append]
    cases sequence others <;> rfl
  | cons part rest ih =>
    rw [List.cons_append, sequence, sequence, ih]
    cases part with
    | error reason => rfl
    | ok e =>
      cases sequence rest with
      | error reason => rfl
      | ok e' =>
        cases sequence others with
        | error reason => rfl
        | ok e'' =>
          change Except.ok (Emission.mk (_ ++ (_ ++ _)) (_ ++ (_ ++ _))) =
            Except.ok (Emission.mk (_ ++ _ ++ _) (_ ++ _ ++ _))
          rw [List.append_assoc, List.append_assoc]

namespace Declares

variable {keys more : List KeyDeclaration} {parts parts' others others' : List Ddl}

/-- Statements that declare no foreign key. -/
theorem statements {l : List Sql.Statement} (h : ∀ s ∈ l, s.foreignKeys = []) :
    Declares [] (statements l) (statements l) :=
  .given (List.flatMap_eq_nil_iff.mpr h)

theorem map_statements {α : Type} {f : α → Sql.Statement} (h : ∀ a, (f a).foreignKeys = [])
    (l : List α) : Declares [] (Ddl.statements (l.map f)) (Ddl.statements (l.map f)) :=
  .statements (List.forall_mem_map.mpr fun a _ => h a)

/-- What follows goes on with what it declares. -/
theorem append (first : Declares keys (sequence parts) (sequence parts'))
    (second : Declares more (sequence others) (sequence others')) :
    Declares (keys ++ more) (sequence (parts ++ others)) (sequence (parts' ++ others')) := by
  rw [sequence_append, sequence_append]
  generalize sequence parts = x at first
  generalize sequence parts' = x' at first
  generalize sequence others = y at second
  generalize sequence others' = y' at second
  cases first with
  | refused reason => exact .refused reason
  | given clauses =>
    cases second with
    | refused reason => exact .refused reason
    | given more_clauses =>
      change Declares _ (.ok (Emission.mk _ _)) (.ok (Emission.mk _ []))
      rw [← List.filterMap_append]
      refine .given ?_
      rw [List.flatMap_append, List.map_append, clauses, more_clauses]

/-- Things that are dealt with in parts, one after the other. -/
theorem flatMap {α : Type} {declared : α → List KeyDeclaration} {f f' : α → List Ddl}
    (h : ∀ a, Declares (declared a) (sequence (f a)) (sequence (f' a))) (l : List α) :
    Declares (l.flatMap declared) (sequence (l.flatMap f)) (sequence (l.flatMap f')) := by
  induction l with
  | nil => exact .given rfl
  | cons a rest ih => exact (h a).append ih

/-- Things of which each is dealt with in one part. -/
theorem map {α : Type} {declared : α → List KeyDeclaration} {f f' : α → Ddl}
    (h : ∀ a, Declares (declared a) (f a) (f' a)) (l : List α) :
    Declares (l.flatMap declared) (sequence (l.map f)) (sequence (l.map f')) := by
  rw [List.map_eq_flatMap, List.map_eq_flatMap]
  refine flatMap (fun a => ?_) l
  rw [sequence_singleton, sequence_singleton]
  exact h a

end Declares

end Ddl

/-! ## Tables -/

namespace Table

variable {t : Table}

theorem keyColumns_relaxed (t : Table) : t.relaxed.keyColumns = t.keyColumns := by
  have flagged : t.relaxed.flaggedColumns.map (·.name) = t.flaggedColumns.map (·.name) := by
    simp only [flaggedColumns, relaxed, NameMap.values_mapValues, List.filter_map, List.map_map]
    rfl
  simp only [keyColumns, flagged]
  rfl

/-- No name of an index hangs on delete actions. -/
theorem clash?_relaxed (t : Table) (seen : List String) (l : List Index) :
    t.relaxed.clash? seen l = t.clash? seen l := by
  induction l generalizing seen with
  | nil => rfl
  | cons index rest ih =>
    have found : (t.relaxed.columns.values.find? fun c =>
          c.unique && uniqueName t.name c.name == index.nameIn t.name) =
        (t.columns.values.find? fun c =>
          c.unique && uniqueName t.name c.name == index.nameIn t.name).map Column.relaxed := by
      rw [relaxed, NameMap.values_mapValues, List.find?_map]
      rfl
    have name : t.relaxed.name = t.name := rfl
    simp only [clash?, name, found, ih]
    cases t.columns.values.find? _ <;> rfl

theorem checkIndexNames_relaxed (t : Table) (d : Dialect) :
    t.relaxed.checkIndexNames d = t.checkIndexNames d := by
  have indexes : t.relaxed.indexes = t.indexes := rfl
  rw [checkIndexNames, checkIndexNames, indexes, clash?_relaxed]
  rfl

end Table

namespace Ddl.Spanner

/-! ## What is declared to Spanner -/

theorem deleteAction_eq (a : DeleteAction) : deleteAction a = a.relaxed := by
  cases a <;> rfl

theorem foreignKey_eq (table column : String) (r : Reference) :
    (table, foreignKey table column r) = KeyDeclaration.clause ⟨table, column, r⟩ := by
  rw [foreignKey, funext deleteAction_eq]
  rfl

theorem foreignKey_relaxed (table column : String) (r : Reference) :
    foreignKey table column r.relaxed = foreignKey table column r := by
  have idle (a : DeleteAction) : deleteAction a.relaxed = deleteAction a := by cases a <;> rfl
  simp [foreignKey, Reference.relaxed, Reference.nameFor, Function.comp_def, idle]

theorem remarks_eq (table column : String) (r : Reference) :
    remarks table column r = (KeyDeclaration.remark? ⟨table, column, r⟩).toList := by
  rw [remarks, KeyDeclaration.remark?]
  cases r.onDelete with
  | none => rfl
  | some action => cases action <;> rfl

theorem remarks_relaxed (table column : String) (r : Reference) :
    remarks table column r.relaxed = [] := by
  rw [remarks, Reference.relaxed]
  cases r.onDelete with
  | none => rfl
  | some action => cases action <;> rfl

theorem references_relaxed (t : Table) :
    references t.relaxed = (references t).map fun r => (r.1, r.2.relaxed) := by
  simp only [references, Table.relaxed, NameMap.values_mapValues, List.filterMap_map,
    List.map_filterMap]
  refine List.filterMap_congr fun c _ => ?_
  simp [Column.relaxed, Function.comp_def]

theorem tableDefinition_relaxed (t : Table) : tableDefinition t.relaxed = tableDefinition t := by
  have columns :
      (t.relaxed.columns.values.map fun c => columnDefinition c (isNotNull t.relaxed c)) =
        t.columns.values.map fun c => columnDefinition c (isNotNull t c) := by
    simp only [isNotNull, Table.keyColumns_relaxed]
    rw [Table.relaxed, NameMap.values_mapValues, List.map_map]
    rfl
  simp only [tableDefinition, columns, references_relaxed, List.map_map, Function.comp_def,
    foreignKey_relaxed, Table.keyColumns_relaxed]
  rfl

theorem uniqueColumns_relaxed (t : Table) : uniqueColumns t.relaxed = uniqueColumns t := by
  simp only [uniqueColumns, Table.relaxed, NameMap.values_mapValues, List.filter_map, List.map_map]
  rfl

theorem declarations_eq (t : Table) :
    t.declarations = (references t).map fun r => ⟨t.name, r.1, r.2⟩ := by
  simp only [Table.declarations, references, List.map_filterMap, Option.map_map]
  rfl

/-- A table that is created declares its foreign keys. -/
theorem declares_createTable (t : Table) :
    Declares t.declarations (createTable t) (createTable t.relaxed) := by
  rw [createTable, createTable, Table.checkIndexNames_relaxed]
  cases t.checkIndexNames .spanner with
  | error reason => exact .refused reason
  | ok _ =>
    have remarks_off : ((references t.relaxed).flatMap fun r =>
        remarks t.relaxed.name r.1 r.2) = [] := by
      rw [references_relaxed, List.flatMap_map]
      exact List.flatMap_eq_nil_iff.mpr fun r _ => remarks_relaxed _ _ _
    have remarks_on : ((references t).flatMap fun r => remarks t.name r.1 r.2) =
        t.declarations.filterMap KeyDeclaration.remark? := by
      rw [declarations_eq, List.filterMap_map, List.filterMap_eq_flatMap_toList]
      exact List.flatMap_congr fun r _ => remarks_eq _ _ _
    change Declares _ (.ok ⟨_, _⟩) (.ok ⟨_, _⟩)
    rw [remarks_on, remarks_off, tableDefinition_relaxed, uniqueColumns_relaxed]
    refine .given ?_
    have keys : (Sql.Statement.createTable (tableDefinition t)).foreignKeys =
        t.declarations.map KeyDeclaration.clause := by
      simp only [Sql.Statement.foreignKeys, tableDefinition, declarations_eq, List.map_map,
        Function.comp_def, foreignKey_eq]
    have indexes (name : String) (l : List String) (l' : List Index) :
        (l.map (createUnique name) ++ l'.map (createIndex name)).flatMap
          Sql.Statement.foreignKeys = [] := by
      simp [Sql.Statement.foreignKeys, createUnique, createIndex]
    rw [List.flatMap_cons, keys, indexes, List.append_nil]

/-! ## Columns -/

/-- A foreign key that may be added behind statements that declare none. -/
theorem declares_reference (table column : String) (after : Option Reference)
    {l : List Sql.Statement} (h : ∀ s ∈ l, s.foreignKeys = []) :
    Declares (after.toList.map (⟨table, column, ·⟩))
      (pure <| match after with
        | some r => .ofStatements l ++ addForeignKey table column r
        | none => .ofStatements l)
      (pure <| match after.map Reference.relaxed with
        | some r => .ofStatements l ++ addForeignKey table column r
        | none => .ofStatements l) := by
  have others : l.flatMap Sql.Statement.foreignKeys = [] := List.flatMap_eq_nil_iff.mpr h
  cases after with
  | none => exact .given others
  | some r =>
    change Declares _ (.ok ⟨l ++ [_], [] ++ remarks table column r⟩)
      (.ok ⟨l ++ [_], [] ++ remarks table column r.relaxed⟩)
    have remarked : remarks table column r =
        [⟨table, column, r⟩].filterMap KeyDeclaration.remark? := by
      rw [remarks_eq, List.filterMap_eq_flatMap_toList, List.flatMap_singleton]
    have clauses : (l ++ [Sql.Statement.alterTable table
          (.addForeignKey (foreignKey table column r))]).flatMap Sql.Statement.foreignKeys =
        [KeyDeclaration.clause ⟨table, column, r⟩] := by
      rw [List.flatMap_append, others, ← foreignKey_eq]
      rfl
    rw [remarks_relaxed, remarked, foreignKey_relaxed]
    exact .given clauses

theorem declares_addColumn (table : String) (c : Column) :
    Declares (c.reference?.toList.map (⟨table, c.name, ·⟩))
      (addColumn table c) (addColumn table c.relaxed) := by
  have flagged : c.relaxed.primaryKey = c.primaryKey := rfl
  rw [addColumn, addColumn, flagged]
  cases c.primaryKey with
  | true => exact .refused _
  | false =>
    refine declares_reference table c.name c.reference? fun s hs => ?_
    rcases List.mem_cons.mp hs with rfl | hs
    · rfl
    · split at hs
      · rw [List.mem_singleton.mp hs]
        rfl
      · cases hs

theorem declares_editField (table : String) (c : Column) (keyColumn nullable : Bool)
    (edit : FieldEdit) :
    Declares (edit.declarations table c.name) (editField table c keyColumn nullable edit)
      (editField table c keyColumn nullable edit.relaxed) := by
  cases edit with
  | type _ _ => exact .statements (by simp [restate, Sql.Statement.foreignKeys])
  | nullable _ => exact .statements (by simp [restate, Sql.Statement.foreignKeys])
  | default before after =>
    refine .statements fun s hs => ?_
    rw [changeDefault] at hs
    split at hs <;> simp_all [Sql.Statement.foreignKeys]
  | primaryKey _ => exact .refused _
  | unique flag =>
    cases flag with
    | true => exact .statements (by simp [createUnique, Sql.Statement.foreignKeys])
    | false => exact .statements (by simp [dropUnique, Sql.Statement.foreignKeys])
  | reference before after =>
    refine declares_reference table c.name after fun s hs => ?_
    obtain ⟨_, _, rfl⟩ := List.mem_map.mp hs
    rfl

theorem editsNullable_relaxed (edits : List FieldEdit) :
    editsNullable (edits.map FieldEdit.relaxed) = editsNullable edits := by
  rw [editsNullable, editsNullable, List.any_map]
  refine congrArg edits.any (funext fun edit => ?_)
  cases edit <;> rfl

theorem declares_changeParts (table : String) (c : Column) (keyColumn : Bool)
    (edits : List FieldEdit) :
    Declares (edits.flatMap (·.declarations table c.name))
      (sequence (changeParts table c keyColumn edits))
      (sequence (changeParts table c keyColumn (edits.map FieldEdit.relaxed))) := by
  rw [changeParts, changeParts, editsNullable_relaxed, List.map_map]
  exact .map (declares_editField table c keyColumn _) edits

theorem declares_dropColumn (table : String) (c : Column) :
    Declares [] (dropColumn table c) (dropColumn table c) := by
  rw [dropColumn]
  cases c.primaryKey with
  | true => exact .refused _
  | false =>
    refine .statements fun s hs => ?_
    rw [List.mem_append, List.mem_append, List.mem_singleton, List.mem_map] at hs
    rcases hs with (hs | ⟨_, _, rfl⟩) | rfl
    · split at hs
      · rw [List.mem_singleton.mp hs]
        rfl
      · cases hs
    · rfl
    · rfl

/-! ## Changes of tables -/

theorem declares_changeConstraints (e : TableEdit) :
    Declares [] (changeConstraints e) (changeConstraints e.relaxed) := by
  have same : changeConstraints e.relaxed = changeConstraints e := rfl
  rw [same, changeConstraints]
  split
  · exact .refused _
  · split
    · rename_i edit _
      cases edit with
      | set before after =>
        cases before with
        | none => exact .refused _
        | some before =>
          rw [changeInterleave]
          split
          · exact .statements (by simp [Sql.Statement.foreignKeys])
          · exact .refused _
      | remove _ => exact .refused _
    · exact .statements nofun

section

variable (table : String) (columns : List ColumnEdit)

theorem declares_added :
    Declares (columns.flatMap (·.declarationsAdded table))
      (sequence (columns.map (ifAdded .spanner table)))
      (sequence ((columns.map ColumnEdit.relaxed).map (ifAdded .spanner table))) := by
  rw [List.map_map]
  refine .map (fun edit => ?_) columns
  cases edit with
  | add column => exact declares_addColumn table column
  | remove _ _ => exact .statements nofun
  | change _ _ _ _ => exact .statements nofun

theorem declares_changed :
    Declares (columns.flatMap (·.declarationsChanged table))
      (sequence (columns.flatMap (partsIfChanged .spanner table)))
      (sequence ((columns.map ColumnEdit.relaxed).flatMap (partsIfChanged .spanner table))) := by
  rw [List.flatMap_map]
  refine .flatMap (fun edit => ?_) columns
  cases edit with
  | add _ => exact .given rfl
  | remove _ _ => exact .given rfl
  | change _ column keyColumn edits => exact declares_changeParts table column keyColumn edits

theorem declares_removed :
    Declares (columns.flatMap fun _ => []) (sequence (columns.map (ifRemoved .spanner table)))
      (sequence ((columns.map ColumnEdit.relaxed).map (ifRemoved .spanner table))) := by
  rw [List.map_map]
  refine .map (fun edit => ?_) columns
  cases edit with
  | add _ => exact .statements nofun
  | remove _ previous => exact declares_dropColumn table previous
  | change _ _ _ _ => exact .statements nofun

end

/-- Of the passes of a change that for new columns comes before that for changed ones. -/
theorem declares_alterTable (e : TableEdit) :
    Declares e.declarations (alterTable .spanner e) (alterTable .spanner e.relaxed) := by
  have dropped : Declares []
      (sequence [statements ((e.indexes.filterMap leaving?).map (dropIndex e.name))])
      (sequence [statements ((e.indexes.filterMap leaving?).map (dropIndex e.name))]) := by
    rw [sequence_singleton]
    exact .map_statements (fun _ => rfl) _
  have last : Declares ([] ++ [])
      (sequence ([statements ((e.indexes.filterMap arriving?).map (createIndex e.name))] ++
        [Spanner.changeConstraints e]))
      (sequence ([statements ((e.indexes.filterMap arriving?).map (createIndex e.name))] ++
        [Spanner.changeConstraints e.relaxed])) := by
    refine .append ?_ ?_
    · rw [sequence_singleton]
      exact .map_statements (fun _ => rfl) _
    · rw [sequence_singleton, sequence_singleton]
      exact declares_changeConstraints e
  have keys : [] ++ e.columns.flatMap (·.declarationsAdded e.name) ++
      e.columns.flatMap (·.declarationsChanged e.name) ++ e.columns.flatMap (fun _ => []) ++
        ([] ++ []) = e.declarations := by
    simp [TableEdit.declarations]
  rw [← keys]
  exact (((dropped.append (declares_added e.name e.columns)).append
    (declares_changed e.name e.columns)).append (declares_removed e.name e.columns)).append last

theorem declares_act (a : TableAction) :
    Declares a.declarations (act .spanner a) (act .spanner a.relaxed) := by
  cases a with
  | add table => exact declares_createTable table
  | remove _ previous =>
    refine .statements fun s hs => ?_
    simp only [Ddl.dropTable, dropTable, List.mem_append, List.mem_map, List.mem_singleton] at hs
    rcases hs with ((⟨_, _, rfl⟩ | ⟨_, _, rfl⟩) | ⟨_, _, rfl⟩) | rfl <;> rfl
  | change edit => exact declares_alterTable edit

end Ddl.Spanner

/-! ## PostgreSQL -/

namespace Ddl

/-- Nothing is remarked on. -/
def Silent (part : Ddl) : Prop :=
  ∀ e, part = .ok e → e.diagnostics = []

theorem silent_statements (l : List Sql.Statement) : Silent (statements l) := by
  intro e he
  cases he
  rfl

theorem silent_sequence {parts : List Ddl} (h : ∀ part ∈ parts, Silent part) :
    Silent (sequence parts) := by
  induction parts with
  | nil => exact silent_statements []
  | cons part rest ih =>
    intro e he
    obtain ⟨first, hfirst, hrest⟩ := bind_eq_ok.mp he
    obtain ⟨others, hothers, hboth⟩ := bind_eq_ok.mp hrest
    cases hboth
    have none_first : first.diagnostics = [] := h part List.mem_cons_self first hfirst
    have none_others : others.diagnostics = [] :=
      ih (fun part hpart => h part (List.mem_cons_of_mem _ hpart)) others hothers
    change first.diagnostics ++ others.diagnostics = []
    rw [none_first, none_others, List.append_nil]

namespace Postgres

theorem silent_createTable (t : Table) : Silent (createTable t) := by
  intro e he
  obtain ⟨_, _, hstatements⟩ := bind_eq_ok.mp he
  exact silent_statements _ e hstatements

theorem silent_alterTable (e : TableEdit) : Silent (alterTable .postgres e) := by
  refine silent_sequence fun part hpart => ?_
  simp only [alterParts, List.mem_append, List.mem_map, List.mem_flatMap, List.mem_cons,
    List.not_mem_nil, or_false] at hpart
  rcases hpart with (((rfl | ⟨edit, _, rfl⟩) | ⟨edit, _, hpart⟩) | ⟨edit, _, rfl⟩) | rfl | rfl
  · exact silent_statements _
  · cases edit <;> exact silent_statements _
  · cases edit with
    | add _ => cases hpart
    | remove _ _ => cases hpart
    | change _ _ _ _ =>
      rw [List.mem_singleton.mp hpart]
      exact silent_statements _
  · cases edit <;> exact silent_statements _
  · exact silent_statements _
  · exact silent_statements _

/-- PostgreSQL carries out every action as it is asked for. -/
theorem silent_act (a : TableAction) : Silent (act .postgres a) := by
  cases a with
  | add table => exact silent_createTable table
  | remove _ _ => exact silent_statements _
  | change edit => exact silent_alterTable edit

end Postgres

end Ddl

/-! ## Whole patches -/

namespace SchemaPatch

/-- Action by action, either patch is refused for one reason, or they have the same statements. -/
theorem mapM_act_relaxed (actions : List TableAction) :
    (∃ reason, actions.mapM (Ddl.act .spanner) = .error reason ∧
      (actions.map TableAction.relaxed).mapM (Ddl.act .spanner) = .error reason) ∨
    ∃ es es', actions.mapM (Ddl.act .spanner) = .ok es ∧
      (actions.map TableAction.relaxed).mapM (Ddl.act .spanner) = .ok es' ∧
      es.map (·.statements) = es'.map (·.statements) ∧
      es.flatMap (·.diagnostics) =
        (actions.flatMap TableAction.declarations).filterMap KeyDeclaration.remark? ∧
      es'.flatMap (·.diagnostics) = [] ∧
      (es.flatMap (·.statements)).flatMap Sql.Statement.foreignKeys =
        (actions.flatMap TableAction.declarations).map KeyDeclaration.clause := by
  induction actions with
  | nil => exact .inr ⟨[], [], rfl, rfl, rfl, rfl, rfl, rfl⟩
  | cons a rest ih =>
    have first := Ddl.Spanner.declares_act a
    rw [List.map_cons, List.mapM_cons, List.mapM_cons]
    generalize Ddl.act .spanner a = x at first
    generalize Ddl.act .spanner a.relaxed = x' at first
    cases first with
    | refused reason => exact .inl ⟨reason, rfl, rfl⟩
    | @given l clauses =>
      rcases ih with ⟨reason, hrest, hrest'⟩ |
        ⟨es, es', hrest, hrest', statements, remarks, silent, keys⟩
      · rw [hrest, hrest']
        exact .inl ⟨reason, rfl, rfl⟩
      · rw [hrest, hrest']
        refine .inr ⟨_ :: es, _ :: es', rfl, rfl, ?_, ?_, ?_, ?_⟩
        · rw [List.map_cons, List.map_cons, statements]
        · rw [List.flatMap_cons, List.flatMap_cons, List.filterMap_append, remarks]
        · rw [List.flatMap_cons, silent, List.append_nil]
        · rw [List.flatMap_cons, List.flatMap_cons, List.flatMap_append, List.map_append,
            clauses, keys]

/-- Spanner refuses a patch and the relaxed one for one reason, or takes both with the same
statements, in the order of whose foreign keys the patch as it is gets its remarks: one for each
action that is not carried out. PostgreSQL remarks on nothing. -/
theorem compile_relaxed (p : SchemaPatch) :
    ((∃ reason, p.compile .spanner = .error reason ∧ p.relaxed.compile .spanner = .error reason) ∨
      ∃ c, p.relaxed.compile .spanner = .ok c ∧ c.diagnostics = [] ∧
        c.statements.flatMap Sql.Statement.foreignKeys =
          p.declarations.map KeyDeclaration.clause ∧
        p.compile .spanner =
          .ok { c with diagnostics := p.declarations.filterMap KeyDeclaration.remark? }) ∧
    ∀ c, p.compile .postgres = .ok c → c.diagnostics = [] := by
  refine ⟨?_, fun c hc => ?_⟩
  · rcases mapM_act_relaxed p.actions with ⟨reason, hp, hp'⟩ |
      ⟨es, es', hp, hp', statements, remarks, silent, keys⟩
    · refine .inl ⟨reason, ?_, ?_⟩
      · rw [compile, hp]
        rfl
      · rw [compile, relaxed, hp']
        rfl
    · have same : es.flatMap (·.statements) = es'.flatMap (·.statements) := by
        rw [List.flatMap_def, List.flatMap_def, statements]
      refine .inr ⟨.ofEmissions .spanner es', ?_, silent, ?_, ?_⟩
      · rw [compile, relaxed, hp']
        rfl
      · rw [Compilation.statements_ofEmissions, ← same, keys]
        rfl
      · rw [compile, hp, declarations, ← remarks]
        change Except.ok (Compilation.mk _ ((es.map (·.statements)).filter _) _) = _
        rw [statements]
        rfl
  · obtain ⟨es, hes, hc⟩ := bind_eq_ok.mp hc
    cases hc
    refine List.flatMap_eq_nil_iff.mpr fun e he => ?_
    obtain ⟨a, _, ha⟩ := exists_of_mem_mapM hes he
    exact Ddl.Postgres.silent_act a e ha

end SchemaPatch

namespace Shop

/-- A column that refers to a user. -/
def userColumn (name : String) (fate : DeleteAction) : Column :=
  (Column.plain name .bigInt ⟨"BIGINT", "INT64"⟩).withReference ⟨"users", "id", none, some fate⟩

/-- Orders are added, and a column of the carts gets a foreign key before one with its own comes. -/
def handover : SchemaPatch :=
  ⟨"1", "1",
    [.add (((Table.empty "orders").withColumn (userColumn "seller" .cascade)).withColumn
      (userColumn "buyer" .setNull)),
    .change ⟨"carts",
      [.change "owner" (userColumn "owner" .restrict) false
        [.reference none (userColumn "owner" .restrict).reference?],
      .add (userColumn "giver" .setDefault)], [], none, none, none⟩]⟩

/-- Remarks on three of four foreign keys, that of the new column before that of the changed one. -/
theorem compile_relaxed_handover :
    (∃ c, handover.relaxed.compile .spanner = .ok c ∧ c.diagnostics = [] ∧
      handover.compile .spanner = .ok { c with diagnostics := [
        ⟨.spanner, "orders",
          "ON DELETE SET NULL on orders.buyer is not supported; using NO ACTION"⟩,
        ⟨.spanner, "carts",
          "ON DELETE SET DEFAULT on carts.giver is not supported; using NO ACTION"⟩,
        ⟨.spanner, "carts",
          "ON DELETE RESTRICT on carts.owner is not supported; using NO ACTION"⟩] }) ∧
    ∃ c, handover.compile .postgres = .ok c ∧ c.diagnostics = [] := by
  obtain ⟨compiled, silent⟩ := handover.compile_relaxed
  have accepted : ∃ c, handover.compile .spanner = .ok c := ⟨_, rfl⟩
  refine ⟨?_, _, rfl, silent _ rfl⟩
  rcases compiled with ⟨reason, refused, _⟩ | ⟨c, hrelaxed, silent, _, hcompiled⟩
  · obtain ⟨c, hc⟩ := accepted
    cases hc.symm.trans refused
  · refine ⟨c, hrelaxed, silent, hcompiled.trans ?_⟩
    refine congrArg (fun l => Except.ok { c with diagnostics := l }) ?_
    decide

end Shop

end SchemaEvolution
