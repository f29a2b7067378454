import SchemaEvolution.Proofs.Compiling
import SchemaEvolution.Proofs.TableReplay
import Mathlib.Data.List.Basic

/-!
# The primary key in PostgreSQL

What the database keeps of a primary key is a constraint, which always has a name.
`KeyConstraint.execute` says what a statement makes of the constraint of a table, and what the
database refuses: a second key, or to drop a constraint that is not there.

Between two states of a table the key may be declared or flagged on either side, and may go with a
column that is removed. All these cases come to one (`changeKey_comparing`): unless it is gone, the
key that the old state would be created with is dropped, and then the one is added that the new
state would be created with. So the removals of columns and the change of the key are never refused,
and they end with the constraint of the new state (`execute_changeKey`).
-/

namespace SchemaEvolution

/-! ## Keys that are sound -/

namespace Table

variable {t : Table}

/-- A declared primary key has columns, and all of them are in the table. -/
def ProperKey (t : Table) : Prop :=
  ∀ key ∈ t.primaryKey?, key.columns ≠ [] ∧ ∀ c ∈ key.columns, t.columns.contains c = true

instance : Decidable t.ProperKey :=
  inferInstanceAs (Decidable (∀ key ∈ t.primaryKey?, _ ∧ ∀ c ∈ key.columns, _))

theorem keyColumns_of_declared {key : CompositeKey} (h : t.primaryKey? = some key) :
    t.keyColumns = key.columns := by
  unfold keyColumns
  rw [h]

/-- The columns of a proper primary key are in the table. -/
theorem ProperKey.contains_of_mem (proper : t.ProperKey) (keyed : t.WellKeyed) {c : String}
    (h : c ∈ t.keyColumns) : t.columns.contains c = true := by
  cases hkey : t.primaryKey? with
  | some key =>
    rw [keyColumns_of_declared hkey] at h
    exact (proper key hkey).2 c h
  | none =>
    unfold keyColumns at h
    rw [hkey] at h
    obtain ⟨column, hflagged, rfl⟩ := List.mem_map.mp h
    obtain ⟨n, hn⟩ := NameMap.mem_values.mp (List.mem_filter.mp hflagged).1
    rw [keyed.name_of_find? hn]
    exact NameMap.contains_iff.mpr ⟨column, hn⟩

end Table

/-- A removed column is not in the primary key that the table is to have. -/
theorem TableEdit.not_mem_keyColumns_of_removed {before after : Table} (keyed : after.WellKeyed)
    (proper : after.ProperKey) {c : String} (h : c ∈ (comparing before after).removedColumns) :
    c ∉ after.keyColumns := by
  intro hkey
  obtain ⟨edit, hmem, hremoved⟩ := List.mem_filterMap.mp h
  have hcontains := proper.contains_of_mem keyed hkey
  cases edit with
  | add _ => cases hremoved
  | change _ _ _ _ => cases hremoved
  | remove n previous =>
    obtain rfl := Option.some.inj hremoved
    rw [NameMap.contains, (ColumnEdit.of_remove_mem_between keyed hmem).2] at hcontains
    cases hcontains

namespace Ddl

namespace Postgres

/-! ## The constraint of a key -/

/-- The constraint of a primary key, as the database keeps it. -/
structure KeyConstraint where
  name : String
  columns : List String
deriving DecidableEq

namespace KeyConstraint

/-- The constraint that the declaration of a key makes. -/
def ofKey (table : String) (key : Sql.Key) : KeyConstraint :=
  ⟨keyName table key.name, key.columns⟩

/-- The constraint of the key that a table is created with. -/
def ofDefinition? (d : Sql.TableDefinition) : Option KeyConstraint :=
  d.primaryKey?.map (ofKey d.name)

/-- What a change of a table makes of the constraint of its key, or `none` if it is refused. A key
goes with any of its columns. -/
def alter (table : String) (key? : Option KeyConstraint) :
    Sql.AlterClause → Option (Option KeyConstraint)
  | .dropColumn column => some (key?.filter fun key => !key.columns.contains column)
  | .dropConstraint name => if key?.map (·.name) = some name then some none else none
  | .addPrimaryKey key => if key? = none then some (some (ofKey table key)) else none
  | _ => some key?

/-- What a statement makes of the constraint of the key of a table, or `none` if it is refused. -/
def execute (table : String) (key? : Option KeyConstraint) :
    Sql.Statement → Option (Option KeyConstraint)
  | .createTable d => some (if d.name = table then ofDefinition? d else key?)
  | .dropTable name => some (if name = table then none else key?)
  | .alterTable name clause => if name = table then alter table key? clause else some key?
  | _ => some key?

end KeyConstraint

/-- The constraint of the key that a table is created with: none without key columns, else one that
has the declared name, or a name made from that of the table. -/
theorem ofDefinition?_tableDefinition (t : Table) :
    KeyConstraint.ofDefinition? (tableDefinition t) =
      if t.keyColumns.isEmpty then none
      else some ⟨keyName t.name (t.primaryKey?.bind (·.name)), t.keyColumns⟩ := by
  unfold KeyConstraint.ofDefinition? tableDefinition trailingKey?
  split <;> rfl

/-! ## Columns that go -/

/-- The statements that remove a column, if that is what the edit is. -/
def removal (table : String) : ColumnEdit → List Sql.Statement
  | .remove _ previous => [.alterTable table (.dropColumn previous.name)]
  | _ => []

theorem ifRemoved_eq (table : String) (edit : ColumnEdit) :
    ifRemoved .postgres table edit = statements (removal table edit) := by
  cases edit <;> rfl

/-- The removals of columns are never refused, and the key is gone after them if it had one of the
columns. -/
theorem execute_dropColumns (table : String) (columns : List String)
    (key? : Option KeyConstraint) :
    (columns.map fun c => Sql.Statement.alterTable table (.dropColumn c)).foldlM
        (KeyConstraint.execute table) key? =
      some (key?.filter fun key => !columns.any key.columns.contains) := by
  induction columns generalizing key? with
  | nil => cases key? <;> rfl
  | cons c rest ih =>
    have first : KeyConstraint.execute table key? (.alterTable table (.dropColumn c)) =
        some (key?.filter fun key => !key.columns.contains c) :=
      if_pos rfl
    rw [List.map_cons, List.foldlM_cons, first]
    refine (ih _).trans (congrArg some ?_)
    rw [Option.filter_filter]
    simp only [List.any_cons, Bool.not_or]

/-- What is removed are the columns that the edit lists. -/
theorem flatMap_removal {e : TableEdit} (named : ∀ n c, .remove n c ∈ e.columns → c.name = n) :
    e.columns.flatMap (removal e.name) =
      e.removedColumns.map fun c => Sql.Statement.alterTable e.name (.dropColumn c) := by
  unfold TableEdit.removedColumns
  rw [List.map_filterMap, List.filterMap_eq_flatMap_toList]
  refine List.flatMap_congr fun edit hmem => ?_
  cases edit with
  | add _ => rfl
  | change _ _ _ _ => rfl
  | remove n previous =>
    obtain rfl := named n previous hmem
    rfl

/-! ## The change of the key -/

/-- Without a change of the columns of the key there is nothing to do. -/
theorem changeKey_eq_nil {e : TableEdit} (hkey : e.primaryKey? = none)
    (hcolumns : e.keyColumns? = none) : changeKey e = [] := by
  simp [changeKey, hkey, hcolumns, addFlaggedKey]

theorem trailingKey?_of_declared {t : Table} (proper : t.ProperKey) {key : CompositeKey}
    (h : t.primaryKey? = some key) : trailingKey? t = some ⟨key.name, key.columns⟩ := by
  unfold trailingKey?
  rw [Table.keyColumns_of_declared h, h, if_neg]
  · rfl
  · rw [List.isEmpty_iff]
    exact (proper key h).1

theorem trailingKey?_of_flagged {t : Table} (h : t.primaryKey? = none) :
    trailingKey? t = if t.keyColumns.isEmpty then none else some ⟨none, t.keyColumns⟩ := by
  unfold trailingKey?
  rw [h]
  rfl

/-- A flagged key is added as it is declared when the table is created. -/
theorem addFlaggedKey_eq {t : Table} (h : t.primaryKey? = none) (table : String) :
    addFlaggedKey table t.keyColumns =
      (trailingKey? t).toList.map fun key => .alterTable table (.addPrimaryKey key) := by
  rw [trailingKey?_of_flagged h, addFlaggedKey]
  split <;> rfl

/-- A flagged key is dropped under the name that it has when the table is created. -/
theorem dropFlaggedKey_eq {t : Table} (h : t.primaryKey? = none) (table : String) :
    (if !t.keyColumns.isEmpty then [dropKey table none] else []) =
      (trailingKey? t).toList.map fun key => dropKey table key.name := by
  rw [trailingKey?_of_flagged h]
  cases t.keyColumns.isEmpty <;> rfl

private theorem ite_not_and (gone needed : Bool) (l : List Sql.Statement) :
    (if !gone && needed then l else []) = if gone then [] else if needed then l else [] := by
  cases gone <;> rfl

/-- **To change the key** is to drop the constraint of the old one, if it is not gone with one of
its columns, and to add the new one as it is declared when the table is created. -/
theorem changeKey_comparing {before after : Table} (proper_before : before.ProperKey)
    (proper_after : after.ProperKey)
    (h : (TableEdit.comparing before after).keyColumns?.isSome = true) :
    changeKey (.comparing before after) =
      (if (TableEdit.comparing before after).removedColumns.any before.keyColumns.contains then []
        else (trailingKey? before).toList.map fun key => dropKey after.name key.name) ++
      (trailingKey? after).toList.map fun key => .alterTable after.name (.addPrimaryKey key) := by
  rw [TableEdit.keyColumns?_comparing] at h
  have hcolumns := TableEdit.keyColumns?_comparing before after
  split at h
  · cases h
  rename_i hdiffer
  rw [if_neg hdiffer] at hcolumns
  have hkey : (TableEdit.comparing before after).primaryKey? =
      KeyEdit.between before.primaryKey? after.primaryKey? := rfl
  have hname : (TableEdit.comparing before after).name = after.name := rfl
  unfold changeKey
  simp only [hcolumns, hkey, hname, Option.map_some, Option.getD_some, ite_not_and]
  cases hb : before.primaryKey? with
  | none =>
    rw [← dropFlaggedKey_eq hb]
    cases ha : after.primaryKey? with
    | none =>
      rw [← addFlaggedKey_eq ha]
      rfl
    | some key =>
      rw [trailingKey?_of_declared proper_after ha]
      rfl
  | some previous =>
    rw [trailingKey?_of_declared proper_before hb]
    cases ha : after.primaryKey? with
    | none =>
      rw [← addFlaggedKey_eq ha]
      rfl
    | some key =>
      have hne : some previous ≠ some key := by
        intro heq
        obtain rfl := Option.some.inj heq
        refine hdiffer ⟨?_, ?_⟩
        · rw [hb, ha]
          exact if_pos rfl
        · rw [Table.keyColumns_of_declared hb, Table.keyColumns_of_declared ha]
      rw [trailingKey?_of_declared proper_after ha, KeyEdit.between, if_neg hne]
      rfl

/-- Statements that drop one key and add another are accepted where the one key is there, or is gone
already and not dropped, and they lead to the other. -/
theorem execute_exchange (table : String) (old? new? : Option Sql.Key) (gone : Bool) :
    ((if gone then [] else old?.toList.map fun key => dropKey table key.name) ++
        new?.toList.map fun key => Sql.Statement.alterTable table (.addPrimaryKey key)).foldlM
      (KeyConstraint.execute table)
      ((old?.map (KeyConstraint.ofKey table)).filter fun _ => !gone) =
      some (new?.map (KeyConstraint.ofKey table)) := by
  have drops : ∀ key : Sql.Key, KeyConstraint.execute table (some (.ofKey table key))
      (dropKey table key.name) = some none := by
    intro key
    simp [dropKey, KeyConstraint.execute, KeyConstraint.alter, KeyConstraint.ofKey]
  have adds :
      (new?.toList.map fun key => Sql.Statement.alterTable table (.addPrimaryKey key)).foldlM
        (KeyConstraint.execute table) none = some (new?.map (KeyConstraint.ofKey table)) := by
    cases new? with
    | none => rfl
    | some key => simp [KeyConstraint.execute, KeyConstraint.alter]
  rw [List.foldlM_append]
  cases old? with
  | none =>
    rw [← adds]
    cases gone <;> rfl
  | some key =>
    rw [← adds]
    cases gone with
    | true => rfl
    | false =>
      show (KeyConstraint.execute table (some (.ofKey table key)) (dropKey table key.name)
        >>= pure) >>= _ = _
      rw [drops]
      rfl

/-- Where the key does not differ, the two states of a table are created with the same one. -/
theorem ofDefinition?_eq_of_unchanged {before after : Table} (hname : before.name = after.name)
    (hkey : KeyEdit.between before.primaryKey? after.primaryKey? = none)
    (hcolumns : before.keyColumns = after.keyColumns) :
    KeyConstraint.ofDefinition? (tableDefinition before) =
      KeyConstraint.ofDefinition? (tableDefinition after) := by
  have hdeclared := KeyEdit.replay_between before.primaryKey? after.primaryKey?
  rw [hkey] at hdeclared
  rw [ofDefinition?_tableDefinition, ofDefinition?_tableDefinition, hname, hcolumns,
    show before.primaryKey? = after.primaryKey? from hdeclared]

/-- The removals of columns and the change of the key are never refused, and compile to their
statements one after the other. -/
theorem sequence_removals (e : TableEdit) :
    sequence (e.columns.map (ifRemoved .postgres e.name) ++ [changeConstraints .postgres e]) =
      .ok (.ofStatements (e.columns.flatMap (removal e.name) ++ changeKey e)) := by
  have parts : e.columns.map (ifRemoved .postgres e.name) ++ [changeConstraints .postgres e] =
      (e.columns.map (removal e.name) ++ [changeKey e]).map statements := by
    rw [List.map_append, List.map_map]
    exact congrArg (· ++ _) (List.map_congr_left fun edit _ => ifRemoved_eq e.name edit)
  rw [parts, sequence_map_statements, List.flatten_append, List.flatten_singleton,
    ← List.flatMap_def]

theorem columns_of_trailingKey? {t : Table} {key : Sql.Key} (h : trailingKey? t = some key) :
    key.columns = t.keyColumns := by
  unfold trailingKey? at h
  split at h
  · cases h
  · obtain rfl := Option.some.inj h
    rfl

/-- The comparison of two states of a table, carried out for the key alone, leads from the
constraint of the one to that of the other. -/
theorem execute_comparing {before after : Table} (hbefore : before.WellKeyed)
    (hafter : after.WellKeyed) (hname : before.name = after.name) (proper_before : before.ProperKey)
    (proper_after : after.ProperKey) :
    ((TableEdit.comparing before after).columns.flatMap (removal after.name) ++
        changeKey (.comparing before after)).foldlM (KeyConstraint.execute after.name)
      (KeyConstraint.ofDefinition? (tableDefinition before)) =
        some (KeyConstraint.ofDefinition? (tableDefinition after)) := by
  have named : ∀ n c, .remove n c ∈ (TableEdit.comparing before after).columns → c.name = n :=
    fun n c hmem => hbefore.name_of_find? (ColumnEdit.of_remove_mem_between hafter hmem).1
  have removed : (TableEdit.comparing before after).columns.flatMap (removal after.name) =
      (TableEdit.comparing before after).removedColumns.map fun c =>
        Sql.Statement.alterTable after.name (.dropColumn c) := flatMap_removal named
  have hdefinition : KeyConstraint.ofDefinition? (tableDefinition before) =
      (trailingKey? before).map (KeyConstraint.ofKey after.name) := by
    rw [← hname]
    rfl
  -- the key goes with its columns, or stays as it is
  have survives : (KeyConstraint.ofDefinition? (tableDefinition before)).filter
        (fun key => !(TableEdit.comparing before after).removedColumns.any key.columns.contains) =
      ((trailingKey? before).map (KeyConstraint.ofKey after.name)).filter fun _ =>
        !(TableEdit.comparing before after).removedColumns.any before.keyColumns.contains := by
    rw [hdefinition]
    cases hkey : trailingKey? before with
    | none => rfl
    | some key =>
      rw [← columns_of_trailingKey? hkey]
      rfl
  rw [removed, List.foldlM_append, execute_dropColumns, survives]
  show (changeKey (.comparing before after)).foldlM _ _ = _
  cases hcolumns : (TableEdit.comparing before after).keyColumns? with
  | some _ =>
    rw [changeKey_comparing proper_before proper_after (Option.isSome_of_eq_some hcolumns)]
    exact execute_exchange ..
  | none =>
    have hsame := TableEdit.keyColumns?_comparing before after
    rw [hcolumns] at hsame
    split at hsame
    · rename_i unchanged
      have hgone : (TableEdit.comparing before after).removedColumns.any
          before.keyColumns.contains = false := by
        refine List.any_eq_false.mpr fun c hc => ?_
        rw [unchanged.2, List.contains_iff_mem]
        exact TableEdit.not_mem_keyColumns_of_removed hafter proper_after hc
      rw [changeKey_eq_nil unchanged.1 hcolumns, hgone, ← hdefinition,
        ofDefinition?_eq_of_unchanged hname unchanged.1 unchanged.2]
      cases KeyConstraint.ofDefinition? (tableDefinition after) <;> rfl
    · cases hsame

/-- **A change of a table leads from the primary key of its old state to that of the new one**: the
statements that remove columns and change the key are accepted one after the other, and leave the
constraint that the new state would be created with. -/
theorem execute_changeKey {before after : Table} (hbefore : before.WellKeyed)
    (hafter : after.WellKeyed) (hname : before.name = after.name) (proper_before : before.ProperKey)
    (proper_after : after.ProperKey) :
    (TableEdit.between before after = none →
      KeyConstraint.ofDefinition? (tableDefinition before) =
        KeyConstraint.ofDefinition? (tableDefinition after)) ∧
    ∀ e, TableEdit.between before after = some e → ∃ r,
      sequence (e.columns.map (ifRemoved .postgres e.name) ++ [changeConstraints .postgres e]) =
        .ok r ∧
      r.statements.foldlM (KeyConstraint.execute after.name)
          (KeyConstraint.ofDefinition? (tableDefinition before)) =
        some (KeyConstraint.ofDefinition? (tableDefinition after)) := by
  constructor
  · intro h
    obtain ⟨_, _, hkey, _, hcolumns⟩ := TableEdit.between_eq_none_iff.mp h
    exact ofDefinition?_eq_of_unchanged hname hkey hcolumns
  · intro e he
    obtain rfl := TableEdit.between_eq_some he
    exact ⟨_, sequence_removals _,
      execute_comparing hbefore hafter hname proper_before proper_after⟩

namespace Codes

/-- A column that holds a whole number. -/
def number (name : String) : Column :=
  .plain name .bigInt ⟨"BIGINT", "INT64"⟩

/-- A table that has a code for its rows, and the code as its key. -/
def coded : Table :=
  (((Table.empty "codes").withColumn (number "id")).withColumn (number "code")).withPrimaryKey
    ⟨some "codes_by_code", ["code"]⟩

/-- The table without the code, and with numbers flagged as its key. -/
def numbered : Table :=
  (Table.empty "codes").withColumn (number "id").inPrimaryKey

/-- A named key that goes with its column, and a flagged one in its place. -/
theorem execute_changeKey_codes :
    (coded.WellKeyed ∧ numbered.WellKeyed ∧ coded.name = numbered.name ∧ coded.ProperKey ∧
      numbered.ProperKey) ∧
    KeyConstraint.ofDefinition? (tableDefinition coded) = some ⟨"codes_by_code", ["code"]⟩ ∧
    ∃ e r, TableEdit.between coded numbered = some e ∧
      sequence (e.columns.map (ifRemoved .postgres e.name) ++ [changeConstraints .postgres e]) =
        .ok r ∧
      r.statements.foldlM (KeyConstraint.execute "codes") (some ⟨"codes_by_code", ["code"]⟩) =
        some (some ⟨"codes_pkey", ["id"]⟩) := by
  have keyed : coded.WellKeyed :=
    (((Table.WellKeyed.empty _).withColumn _).withColumn _).withPrimaryKey _
  have keyed' : numbered.WellKeyed := (Table.WellKeyed.empty _).withColumn _
  have run := (execute_changeKey keyed keyed' rfl (by decide) (by decide)).2
  obtain ⟨r, hr, hrun⟩ := run (.comparing coded numbered) rfl
  exact ⟨⟨keyed, keyed', rfl, by decide, by decide⟩, rfl, _, r, rfl, hr, hrun⟩

end Codes

end Postgres

end Ddl

end SchemaEvolution
