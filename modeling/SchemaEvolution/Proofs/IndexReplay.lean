import SchemaEvolution.Proofs.IndexNames
import Mathlib.Data.Finset.Basic

/-!
# The indexes of a table in Spanner

What the database keeps of indexes is the set of their names: an index is created under a name that
is free and dropped under one that is taken, and any other statement about an index is refused
(`IndexNames.execute`).

A name can be that of a declared index in one version of a table and keep a column unique in the
next one, or the other way round, so the statements of a change cannot be looked at part by part.
They can be looked at name by name: a run is legal if for each name its statements create and drop
in turn (`IndexNames.execute_of_settled`). Of one name a change has at most one statement in each of
three places: indexes that go, columns, indexes that come. In this order they lead from the names of
the one version to those of the other (`Ddl.Spanner.execute_lifetime`).
-/

namespace SchemaEvolution

/-- What comes of the elements of a list comes of those of one kind, if the others give nothing. -/
theorem flatMap_filter_of_eq_nil {α β : Type} {p : α → Bool} {f : α → List β} {l : List α}
    (h : ∀ a ∈ l, p a = false → f a = []) : (l.filter p).flatMap f = l.flatMap f := by
  induction l with
  | nil => rfl
  | cons a rest ih =>
    rw [List.forall_mem_cons] at h
    rw [List.flatMap_cons, ← ih h.2, List.filter_cons]
    cases hp : p a with
    | true => rw [if_pos rfl, List.flatMap_cons]
    | false => rw [h.1 hp, List.nil_append, if_neg Bool.false_ne_true]

/-! ## Names that are taken -/

/-- What a statement says of the index of a name: that it is there from now on, or that it is not
there any more. -/
def Sql.Statement.settles? (n : String) : Sql.Statement → Option Bool
  | .createIndex i => if i.name = n then some true else none
  | .dropIndex m => if m = n then some false else none
  | _ => none

namespace IndexNames

/-- What a statement makes of the names of indexes that are taken, or `none` if it is refused. -/
def execute (taken : Finset String) : Sql.Statement → Option (Finset String)
  | .createIndex i => if i.name ∈ taken then none else some (insert i.name taken)
  | .dropIndex n => if n ∈ taken then some (taken.erase n) else none
  | _ => some taken

/-- What statements say of the index of a name, in their order. -/
def settled (n : String) (l : List Sql.Statement) : List Bool :=
  l.filterMap (·.settles? n)

/-- What becomes of an index that comes and goes, or `none` if it comes when it is there or goes
when it is not. -/
def inTurn (present : Bool) (l : List Bool) : Option Bool :=
  l.foldlM (fun present now => if present = now then none else some now) present

theorem inTurn_cons (present now : Bool) (l : List Bool) :
    inTurn present (now :: l) = if present = now then none else inTurn now l := by
  rw [inTurn, List.foldlM_cons]
  split <;> rfl

@[simp] theorem settled_nil (n : String) : settled n [] = [] := rfl

theorem settled_cons (n : String) (s : Sql.Statement) (l : List Sql.Statement) :
    settled n (s :: l) = (s.settles? n).toList ++ settled n l := by
  rw [settled, List.filterMap_cons]
  cases s.settles? n <;> rfl

@[simp] theorem settled_append (n : String) (l l' : List Sql.Statement) :
    settled n (l ++ l') = settled n l ++ settled n l' :=
  List.filterMap_append

/-- No index comes or goes where a table is altered. -/
@[simp] theorem settled_map_alterTable {α : Type} (n table : String) (l : List α)
    (clause : α → Sql.AlterClause) :
    settled n (l.map fun x => .alterTable table (clause x)) = [] := by
  rw [settled, List.filterMap_map]
  exact List.filterMap_eq_nil_iff.mpr fun _ _ => rfl

/-- A statement is carried out if what it says of each name is new, and then it is as it says. -/
theorem exists_execute {s : Sql.Statement} {taken : Finset String}
    (fresh : ∀ n now, s.settles? n = some now → decide (n ∈ taken) ≠ now) :
    ∃ taken', execute taken s = some taken' ∧
      ∀ n, decide (n ∈ taken') = (s.settles? n).getD (decide (n ∈ taken)) := by
  cases s with
  | createIndex i =>
    have free : i.name ∉ taken := by simpa using fresh i.name true (if_pos rfl)
    refine ⟨insert i.name taken, if_neg free, fun n => ?_⟩
    by_cases hn : i.name = n
    · simp [Sql.Statement.settles?, hn]
    · simp [Sql.Statement.settles?, hn, Ne.symm hn]
  | dropIndex m =>
    have there : m ∈ taken := by simpa using fresh m false (if_pos rfl)
    refine ⟨taken.erase m, if_pos there, fun n => ?_⟩
    by_cases hn : m = n
    · simp [Sql.Statement.settles?, hn]
    · simp [Sql.Statement.settles?, hn, Ne.symm hn]
  | createTable _ => exact ⟨taken, rfl, fun _ => rfl⟩
  | dropTable _ => exact ⟨taken, rfl, fun _ => rfl⟩
  | alterTable _ _ => exact ⟨taken, rfl, fun _ => rfl⟩

/-- **Statements that create and drop each name in turn are legal**, and they end with the names
that are there last. -/
theorem execute_of_settled {l : List Sql.Statement} {taken taken' : Finset String}
    (h : ∀ n, inTurn (decide (n ∈ taken)) (settled n l) = some (decide (n ∈ taken'))) :
    l.foldlM execute taken = some taken' := by
  induction l generalizing taken with
  | nil =>
    refine congrArg some (Finset.ext fun n => ?_)
    exact decide_eq_decide.mp (Option.some.inj (h n))
  | cons s rest ih =>
    have hcons : ∀ n, (∀ now, s.settles? n = some now → decide (n ∈ taken) ≠ now) ∧
        inTurn ((s.settles? n).getD (decide (n ∈ taken))) (settled n rest) =
          some (decide (n ∈ taken')) := by
      intro n
      have hn := h n
      rw [settled, List.filterMap_cons] at hn
      cases hs : s.settles? n with
      | none =>
        rw [hs] at hn
        exact ⟨nofun, hn⟩
      | some now =>
        rw [hs, inTurn_cons] at hn
        split at hn
        · cases hn
        · rename_i hne
          exact ⟨fun _ heq => Option.some.inj heq ▸ hne, hn⟩
    obtain ⟨next, hexecute, hnext⟩ := exists_execute fun n => (hcons n).1
    rw [List.foldlM_cons, hexecute]
    refine ih fun n => ?_
    rw [hnext]
    exact (hcons n).2

/-- Statements that each settle a name of their own. -/
theorem settled_map {α : Type} {l : List α} {f : α → Sql.Statement} {name : α → String}
    {now : Bool} {n : String}
    (h : ∀ x, (f x).settles? n = if name x = n then some now else none)
    (nodup : (l.map name).Nodup) :
    settled n (l.map f) = if n ∈ l.map name then [now] else [] := by
  induction l with
  | nil => rfl
  | cons x rest ih =>
    rw [List.map_cons, List.nodup_cons] at nodup
    have hrest := ih nodup.2
    rw [settled, List.map_cons, List.filterMap_cons, h x, List.map_cons]
    by_cases hx : name x = n
    · subst hx
      rw [if_neg nodup.1] at hrest
      rw [if_pos rfl, if_pos List.mem_cons_self]
      exact congrArg _ hrest
    · simp only [if_neg hx, List.mem_cons, Ne.symm hx, false_or]
      exact hrest

theorem settled_flatMap {ε : Type} (n : String) (edits : List ε) (f : ε → List Sql.Statement) :
    settled n (edits.flatMap f) = edits.flatMap fun e => settled n (f e) :=
  List.filterMap_flatMap

/-- Of statements that are made edit by edit, those count that are made of the edits of one kind, if
the others say nothing. -/
theorem settled_flatMap_filter {ε : Type} {edits : List ε} {f : ε → List Sql.Statement}
    {p : ε → Bool} {n : String} (h : ∀ e ∈ edits, p e = false → settled n (f e) = []) :
    settled n (edits.flatMap f) = settled n ((edits.filter p).flatMap f) := by
  rw [settled_flatMap, settled_flatMap, flatMap_filter_of_eq_nil h]

end IndexNames

/-- The names of the indexes that the database is to have for a table: those of its indexes, and
those that keep its columns unique. -/
def Table.takenNames (t : Table) : Finset String :=
  (t.indexNames ++ t.uniqueNames).toFinset

theorem Table.mem_takenNames {t : Table} {n : String} :
    n ∈ t.takenNames ↔ n ∈ t.indexNames ∨ n ∈ t.uniqueNames := by
  rw [takenNames, List.mem_toFinset, List.mem_append]

/-! ## Columns that become unique -/

/-- The uniqueness that the edit of a property gives to a column, if it is about that. -/
def FieldEdit.uniqueness? : FieldEdit → Option Bool
  | .unique b => some b
  | _ => none

/-- The edits between two columns say that the column becomes unique or ceases to be, if it does. -/
theorem FieldEdit.filterMap_uniqueness?_between (c d : Column) :
    (between c d).filterMap uniqueness? = if c.unique = d.unique then [] else [d.unique] := by
  simp only [between, List.filterMap_append, apply_ite (List.filterMap uniqueness?),
    List.filterMap_cons, List.filterMap_nil, uniqueness?, ite_self, List.nil_append,
    List.append_nil, ne_eq, ite_not]

namespace ColumnEdit

/-- The column as statements about its edit have it. -/
def column : ColumnEdit → Column
  | .add c => c
  | .change _ c _ _ => c
  | .remove _ c => c

/-- What the edit of a column says of its uniqueness. -/
def uniqueness : ColumnEdit → List Bool
  | .add c => if c.unique then [true] else []
  | .change _ _ _ edits => edits.filterMap FieldEdit.uniqueness?
  | .remove _ c => if c.unique then [false] else []

variable {before after : Table}

theorem name_column_of_under (hbefore : before.WellKeyed) (hafter : after.WellKeyed)
    {edit : ColumnEdit} {n : String} (h : under before after n = some edit) :
    edit.column.name = n := by
  unfold under at h
  split at h
  · cases h
  · rename_i ha
    cases h
    exact hafter.name_of_find? ha
  · rename_i hb _
    cases h
    exact hbefore.name_of_find? hb
  · rename_i ha
    split at h <;> cases h
    exact hafter.name_of_find? ha

/-- Under each name, the edit of the column says that it becomes unique or ceases to be, if it
does. -/
theorem uniqueness_under (before after : Table) (n : String) :
    (under before after n).toList.flatMap uniqueness =
      if before.isUnique n = after.isUnique n then [] else [after.isUnique n] := by
  unfold under Table.isUnique
  cases before.columns.find? n with
  | none =>
    cases after.columns.find? n with
    | none => rfl
    | some column => cases hu : column.unique <;> simp [uniqueness, hu]
  | some previous =>
    cases after.columns.find? n with
    | none => cases hu : previous.unique <;> simp [uniqueness, hu]
    | some column =>
      have edits := FieldEdit.filterMap_uniqueness?_between previous column
      dsimp only
      split
      · rename_i h
        rw [List.isEmpty_iff.mp h] at edits
        simpa using edits
      · simpa [uniqueness] using edits

end ColumnEdit

namespace Ddl

/-- The statements that lead from one version of a table to another; none if there is no edit. -/
def alteration (d : Dialect) (before after : Table) : Ddl :=
  match TableEdit.between before after with
  | some e => alterTable d e
  | none => statements []

namespace Spanner

open IndexNames

theorem settled_createIndexes {table n : String} {l : List Index}
    (nodup : (l.map (·.nameIn table)).Nodup) : settled n (l.map (createIndex table)) =
      if n ∈ l.map (·.nameIn table) then [true] else [] :=
  settled_map (fun _ => rfl) nodup

theorem settled_dropIndexes {table n : String} {l : List Index}
    (nodup : (l.map (·.nameIn table)).Nodup) : settled n (l.map (dropIndex table)) =
      if n ∈ l.map (·.nameIn table) then [false] else [] :=
  settled_map (fun _ => rfl) nodup

/-! ## Creating and dropping a table -/

section

variable {t : Table} (keyed : t.WellKeyed) (checked : t.checkIndexNames .spanner = .ok ())

include keyed checked

theorem settled_creates (n : String) :
    settled n ((uniqueColumns t).map (createUnique t.name) ++
      t.indexes.map (createIndex t.name)) = if n ∈ t.takenNames then [true] else [] := by
  obtain ⟨nodup, apart⟩ := Table.checkIndexNames_eq_ok_iff.mp checked
  have uniques : settled n ((uniqueColumns t).map (createUnique t.name)) =
      if n ∈ t.uniqueNames then [true] else [] :=
    settled_map (fun _ => rfl) (Table.nodup_uniqueNames keyed)
  have indexes : settled n (t.indexes.map (createIndex t.name)) =
      if n ∈ t.indexNames then [true] else [] := settled_createIndexes nodup
  rw [settled_append, uniques, indexes]
  by_cases hi : n ∈ t.indexNames
  · simp only [Table.mem_takenNames, hi, apart n hi, if_true, if_false, List.nil_append, true_or]
  · simp only [Table.mem_takenNames, hi, if_false, List.append_nil, false_or]

theorem settled_drops (n : String) :
    settled n (t.indexes.map (dropIndex t.name) ++
      (uniqueColumns t).map (dropUnique t.name)) = if n ∈ t.takenNames then [false] else [] := by
  obtain ⟨nodup, apart⟩ := Table.checkIndexNames_eq_ok_iff.mp checked
  have uniques : settled n ((uniqueColumns t).map (dropUnique t.name)) =
      if n ∈ t.uniqueNames then [false] else [] :=
    settled_map (fun _ => rfl) (Table.nodup_uniqueNames keyed)
  have indexes : settled n (t.indexes.map (dropIndex t.name)) =
      if n ∈ t.indexNames then [false] else [] := settled_dropIndexes nodup
  rw [settled_append, uniques, indexes]
  by_cases hi : n ∈ t.indexNames
  · simp only [Table.mem_takenNames, hi, apart n hi, if_true, if_false, List.append_nil, true_or]
  · simp only [Table.mem_takenNames, hi, if_false, List.nil_append, false_or]

/-- **A table whose index names pass the check is created**, and then its names are taken. -/
theorem execute_createTable :
    ∃ created, createTable t = .ok created ∧
      created.statements.foldlM execute ∅ = some t.takenNames := by
  have hcreated : createTable t = .ok ⟨.createTable (tableDefinition t)
      :: ((uniqueColumns t).map (createUnique t.name) ++ t.indexes.map (createIndex t.name)),
      (references t).flatMap fun r => remarks t.name r.1 r.2⟩ := by
    rw [createTable, checked]
    rfl
  refine ⟨_, hcreated, execute_of_settled fun n => ?_⟩
  rw [settled_cons, settled_creates keyed checked]
  by_cases hn : n ∈ t.takenNames <;> simp [Sql.Statement.settles?, hn, inTurn]

/-- **A table is dropped after its names are given up.** -/
theorem execute_dropTable : (dropTable t).foldlM execute t.takenNames = some ∅ := by
  have references : ∀ n, settled n
      ((references t).map fun r => dropForeignKey t.name r.1 r.2) = [] :=
    fun n => settled_map_alterTable n t.name _ _
  refine execute_of_settled fun n => ?_
  rw [dropTable, settled_append, settled_append, settled_drops keyed checked, references]
  by_cases hn : n ∈ t.takenNames <;> simp [settled_cons, Sql.Statement.settles?, hn, inTurn]

end

/-! ## Changing columns -/

@[simp] theorem settled_createUnique (n table c : String) :
    settled n [createUnique table c] = if uniqueName table c = n then [true] else [] := by
  rw [settled_cons, createUnique, Sql.Statement.settles?]
  split <;> rfl

@[simp] theorem settled_dropUnique (n table c : String) :
    settled n [dropUnique table c] = if uniqueName table c = n then [false] else [] := by
  rw [settled_cons, dropUnique, Sql.Statement.settles?]
  split <;> rfl

/-- The edit of one property says something of one name at most, the one that keeps the column
unique. -/
theorem settled_editField (table n : String) (c : Column) (keyColumn nullable : Bool)
    (edit : FieldEdit) :
    settled n (statementsOf (editField table c keyColumn nullable edit)) =
      if uniqueName table c.name = n then edit.uniqueness?.toList else [] := by
  cases edit with
  | type _ _ => exact (ite_self []).symm
  | nullable _ => exact (ite_self []).symm
  | default x y =>
    refine Eq.trans ?_ (ite_self []).symm
    dsimp only [editField, changeDefault]
    split <;> rfl
  | primaryKey _ => exact (ite_self []).symm
  | unique b =>
    cases b
    · exact settled_dropUnique n table c.name
    · exact settled_createUnique n table c.name
  | reference x y =>
    refine Eq.trans ?_ (ite_self []).symm
    cases x <;> cases y <;> rfl

/-- The statements that add a column, unless it is to be part of the primary key. -/
theorem statementsOf_addColumn {table : String} {c : Column} (h : c.primaryKey = false) :
    statementsOf (addColumn table c) =
      [.alterTable table (.addColumn (columnDefinition c !c.nullable))] ++
        (if c.unique then [createUnique table c.name] else []) ++
        c.reference?.toList.map fun r =>
          .alterTable table (.addForeignKey (foreignKey table c.name r)) := by
  rw [addColumn, if_neg (h ▸ Bool.false_ne_true)]
  cases c.reference? with
  | none => exact (List.append_nil _).symm
  | some r => rfl

theorem settled_addColumn {table n : String} {c : Column} {r : Emission}
    (h : addColumn table c = .ok r) :
    settled n (statementsOf (addColumn table c)) =
      if uniqueName table c.name = n then (if c.unique then [true] else []) else [] := by
  have hkey : c.primaryKey = false := by
    unfold addColumn at h
    split at h
    · cases h
    · rename_i hkey
      rwa [Bool.not_eq_true] at hkey
  rw [statementsOf_addColumn hkey, settled_append, settled_append, settled_map_alterTable,
    List.append_nil]
  cases c.unique with
  | false => exact (ite_self []).symm
  | true => exact settled_createUnique n table c.name

theorem settled_dropColumn {table n : String} {c : Column} {r : Emission}
    (h : dropColumn table c = .ok r) :
    settled n (statementsOf (dropColumn table c)) =
      if uniqueName table c.name = n then (if c.unique then [false] else []) else [] := by
  unfold dropColumn at h ⊢
  split at h
  · cases h
  · rename_i hkey
    rw [if_neg hkey, statementsOf_statements, settled_append, settled_append]
    unfold dropForeignKey
    rw [settled_map_alterTable, List.append_nil]
    cases c.unique with
    | false => exact (ite_self []).symm
    | true => exact (List.append_nil _).trans (settled_dropUnique n table c.name)

/-- The statements about one column, of whatever kind its edit is. -/
def editStatements (table : String) (edit : ColumnEdit) : List Sql.Statement :=
  statementsOf (ifAdded .spanner table edit) ++
    (partsIfChanged .spanner table edit).flatMap statementsOf ++
    statementsOf (ifRemoved .spanner table edit)

theorem settled_editStatements {table n : String} {edit : ColumnEdit}
    (added : ∃ r, ifAdded .spanner table edit = .ok r)
    (removed : ∃ r, ifRemoved .spanner table edit = .ok r) :
    settled n (editStatements table edit) =
      if uniqueName table edit.column.name = n then edit.uniqueness else [] := by
  unfold editStatements
  rw [settled_append, settled_append]
  cases edit with
  | add c =>
    obtain ⟨r, h⟩ := added
    exact (List.append_nil _).trans ((List.append_nil _).trans (settled_addColumn h))
  | change _ c keyColumn edits =>
    refine (List.append_nil _).trans ?_
    show settled n (List.flatMap statementsOf (edits.map _)) =
      if uniqueName table c.name = n then edits.filterMap FieldEdit.uniqueness? else []
    rw [List.flatMap_map, settled_flatMap]
    simp only [settled_editField]
    split
    · exact (List.filterMap_eq_flatMap_toList ..).symm
    · exact List.flatMap_eq_nil_iff.mpr fun _ _ => rfl
  | remove _ c =>
    obtain ⟨r, h⟩ := removed
    exact settled_dropColumn h

variable {before after : Table}

/-- The statements about the columns of a table, in three passes. -/
def columnStatements (table : String) (edits : List ColumnEdit) : List Sql.Statement :=
  edits.flatMap (fun edit => statementsOf (ifAdded .spanner table edit)) ++
    edits.flatMap (fun edit => (partsIfChanged .spanner table edit).flatMap statementsOf) ++
    edits.flatMap (fun edit => statementsOf (ifRemoved .spanner table edit))

/-- Edits about which a name has nothing to learn can be left out of all passes. -/
theorem settled_columnStatements_filter {table n : String} {edits : List ColumnEdit}
    {p : ColumnEdit → Bool}
    (h : ∀ edit ∈ edits, p edit = false → settled n (editStatements table edit) = []) :
    settled n (columnStatements table edits) =
      settled n (columnStatements table (edits.filter p)) := by
  simp only [editStatements, settled_append, List.append_eq_nil_iff] at h
  simp only [columnStatements, settled_append]
  rw [settled_flatMap_filter fun edit hedit hp => (h edit hedit hp).1.1,
    settled_flatMap_filter fun edit hedit hp => (h edit hedit hp).1.2,
    settled_flatMap_filter fun edit hedit hp => (h edit hedit hp).2]

theorem columnStatements_toList (table : String) (edit? : Option ColumnEdit) :
    columnStatements table edit?.toList = edit?.toList.flatMap (editStatements table) := by
  cases edit? with
  | none => rfl
  | some edit =>
    simp only [columnStatements, editStatements, Option.toList_some, List.flatMap_singleton]

/-- **The statements about columns bring the names of columns that become unique and take away those
of columns that cease to be**, and say nothing of any other name. -/
theorem settled_columnStatements (hbefore : before.WellKeyed) (hafter : after.WellKeyed)
    (hname : before.name = after.name)
    (compiled : ∀ edit ∈ ColumnEdit.between before after,
      (∃ r, ifAdded .spanner after.name edit = .ok r) ∧
        ∃ r, ifRemoved .spanner after.name edit = .ok r) (n : String) :
    settled n (columnStatements after.name (ColumnEdit.between before after)) =
      if n ∈ before.uniqueNames ↔ n ∈ after.uniqueNames then []
      else [decide (n ∈ after.uniqueNames)] := by
  have settled_edit : ∀ edit ∈ ColumnEdit.between before after,
      settled n (editStatements after.name edit) =
        if uniqueName after.name edit.name = n then edit.uniqueness else [] := by
    intro edit hedit
    obtain ⟨added, removed⟩ := compiled edit hedit
    rw [settled_editStatements added removed,
      ColumnEdit.name_column_of_under hbefore hafter
        ((ColumnEdit.mem_between_iff hafter).mp hedit)]
  by_cases hn : ∃ c, uniqueName after.name c = n
  · obtain ⟨c, rfl⟩ := hn
    have others : ∀ edit ∈ ColumnEdit.between before after, decide (edit.name = c) = false →
        settled (uniqueName after.name c) (editStatements after.name edit) = [] := by
      intro edit hedit hne
      rw [settled_edit edit hedit, if_neg]
      rw [uniqueName_inj]
      exact of_decide_eq_false hne
    have same : ∀ edit ∈ (ColumnEdit.under before after c).toList,
        settled (uniqueName after.name c) (editStatements after.name edit) = edit.uniqueness := by
      intro edit hedit
      rw [← ColumnEdit.filter_between hafter, List.mem_filter, decide_eq_true_eq] at hedit
      rw [settled_edit edit hedit.1, if_pos (congrArg _ hedit.2)]
    have hbefore_unique := hname ▸ Table.uniqueName_mem_uniqueNames hbefore (c := c)
    rw [settled_columnStatements_filter others, ColumnEdit.filter_between hafter,
      columnStatements_toList, settled_flatMap, List.flatMap_congr same,
      ColumnEdit.uniqueness_under]
    simp only [hbefore_unique, Table.uniqueName_mem_uniqueNames hafter, ← Bool.eq_iff_iff,
      Bool.decide_eq_true]
  · have nothing : ∀ edit ∈ ColumnEdit.between before after, false = false →
        settled n (editStatements after.name edit) = [] := by
      intro edit hedit _
      rw [settled_edit edit hedit, if_neg fun heq => hn ⟨_, heq⟩]
    have hbefore_unique : n ∉ before.uniqueNames := by
      intro h
      obtain ⟨c, _, rfl⟩ := List.mem_map.mp h
      exact hn ⟨c, hname ▸ rfl⟩
    have hafter_unique : n ∉ after.uniqueNames := by
      intro h
      obtain ⟨c, _, rfl⟩ := List.mem_map.mp h
      exact hn ⟨c, rfl⟩
    rw [settled_columnStatements_filter nothing, List.filter_false,
      if_pos (iff_of_false hbefore_unique hafter_unique)]
    rfl

/-! ## Changing a table -/

/-- No index comes or goes with a change of the primary key or of the interleaving. -/
theorem settled_changeConstraints (n : String) (e : TableEdit) :
    settled n (statementsOf (changeConstraints e)) = [] := by
  unfold changeConstraints
  split
  · rfl
  · cases e.interleave? with
    | none => rfl
    | some edit =>
      dsimp only
      unfold changeInterleave
      split
      · split <;> rfl
      · rfl
      · rfl

/-- What the statements of a change of a table say of a name: first indexes go, then columns become
unique or cease to be, then indexes come. -/
theorem settled_alterTable {e : TableEdit} {r : Emission} (h : alterTable .spanner e = .ok r)
    (n : String) :
    settled n r.statements =
      settled n ((e.indexes.filterMap leaving?).map (dropIndex e.name)) ++
        settled n (columnStatements e.name e.columns) ++
        settled n ((e.indexes.filterMap arriving?).map (createIndex e.name)) := by
  rw [(sequence_eq_ok h).2]
  unfold alterParts columnStatements
  simp only [List.flatMap_append, List.flatMap_cons, List.flatMap_nil, List.flatMap_map,
    List.flatMap_assoc, statementsOf_statements, settled_append, List.append_nil, List.append_assoc]
  rw [Ddl.changeConstraints, settled_changeConstraints, List.append_nil]

/-- One name over a change: an index goes, or a column ceases to be unique; a column becomes unique,
or an index comes. -/
private theorem inTurn_change {indexBefore indexAfter uniqueBefore uniqueAfter goes comes : Prop}
    [Decidable indexBefore] [Decidable indexAfter] [Decidable uniqueBefore] [Decidable uniqueAfter]
    [Decidable goes] [Decidable comes] (apartBefore : indexBefore → ¬ uniqueBefore)
    (apartAfter : indexAfter → ¬ uniqueAfter) (hgoes : goes → indexBefore)
    (hcomes : comes → indexAfter) (kept : indexBefore ∧ ¬ goes ↔ indexAfter ∧ ¬ comes) :
    inTurn (decide (indexBefore ∨ uniqueBefore)) ((if goes then [false] else []) ++
        (if uniqueBefore ↔ uniqueAfter then [] else [decide uniqueAfter]) ++
        (if comes then [true] else [])) =
      some (decide (indexAfter ∨ uniqueAfter)) := by
  by_cases indexBefore <;> by_cases uniqueBefore <;> by_cases indexAfter <;>
    by_cases uniqueAfter <;> by_cases goes <;> by_cases comes <;> simp_all [inTurn]

/-- **The statements of a change lead from the names of the one version to those of the other.** -/
theorem execute_comparing (hbefore : before.WellKeyed) (hafter : after.WellKeyed)
    (hname : before.name = after.name) (checkedBefore : before.checkIndexNames .spanner = .ok ())
    (checkedAfter : after.checkIndexNames .spanner = .ok ())
    (distinctBefore : before.DistinctIdentities) (distinctAfter : after.DistinctIdentities)
    (apart : before.NamedApart after) {r : Emission}
    (h : alterTable .spanner (TableEdit.comparing before after) = .ok r) :
    r.statements.foldlM execute before.takenNames = some after.takenNames := by
  obtain ⟨nodupBefore, apartBefore⟩ := Table.checkIndexNames_eq_ok_iff.mp checkedBefore
  obtain ⟨nodupAfter, apartAfter⟩ := Table.checkIndexNames_eq_ok_iff.mp checkedAfter
  refine execute_of_settled fun n => ?_
  have goes : settled n (((IndexEdit.between before after).filterMap leaving?).map
      (dropIndex after.name)) =
      if n ∈ before.indexNamesMissingFrom after then [false] else [] := by
    have perm := (IndexEdit.leaving_perm distinctBefore distinctAfter apart).map
      (·.nameIn after.name)
    rw [← hname] at perm ⊢
    rw [settled_dropIndexes (perm.nodup_iff.mpr
      (nodupBefore.sublist (before.indexNamesMissingFrom_sublist after)))]
    simp only [perm.mem_iff]
    rfl
  have comes : settled n (((IndexEdit.between before after).filterMap arriving?).map
      (createIndex after.name)) =
      if n ∈ after.indexNamesMissingFrom before then [true] else [] := by
    have perm := (IndexEdit.arriving_perm distinctBefore distinctAfter apart).map
      (·.nameIn after.name)
    rw [settled_createIndexes (perm.nodup_iff.mpr
      (nodupAfter.sublist (after.indexNamesMissingFrom_sublist before)))]
    simp only [perm.mem_iff]
    rfl
  have compiled : ∀ edit ∈ ColumnEdit.between before after,
      (∃ r, ifAdded .spanner after.name edit = .ok r) ∧
        ∃ r, ifRemoved .spanner after.name edit = .ok r := by
    intro edit hedit
    have parts := (sequence_eq_ok h).1
    simp only [alterParts, List.forall_mem_append, List.forall_mem_map] at parts
    exact ⟨parts.1.1.1.2 edit hedit, parts.1.2 edit hedit⟩
  have columns := settled_columnStatements hbefore hafter hname compiled n
  rw [settled_alterTable h]
  dsimp only [TableEdit.comparing]
  rw [goes, columns, comes]
  simp only [Table.mem_takenNames]
  refine inTurn_change (apartBefore n) (apartAfter n)
    (fun hn => (before.indexNamesMissingFrom_sublist after).subset hn)
    (fun hn => (after.indexNamesMissingFrom_sublist before).subset hn) ⟨fun hn => ?_, fun hn => ?_⟩
  · exact Table.kept_of_not_missing hname nodupAfter hn.1 hn.2
  · exact Table.kept_of_not_missing hname.symm nodupBefore hn.1 hn.2

/-- What leads from one version of a table to another is compiled from the comparison of the two,
also where that finds nothing. -/
theorem alteration_eq_ok {r : Emission} (h : alteration .spanner before after = .ok r) :
    alterTable .spanner (TableEdit.comparing before after) = .ok r := by
  unfold alteration at h
  split at h
  · rename_i e he
    rwa [TableEdit.between_eq_some he] at h
  · rename_i hnone
    obtain ⟨columns, indexes, key, interleave, _⟩ := TableEdit.between_eq_none_iff.mp hnone
    rw [← h]
    simp [alterTable, alterParts, TableEdit.comparing, columns, indexes, key, interleave]
    rfl

/-- **The indexes of a table over its lifetime.** Let two versions of a table pass the check of
their index names and be named apart. Created in the first version, changed into the second one if
that compiles, and dropped, the table only ever creates indexes under names that are free and drops
those that are there, and after each step the indexes are those of the version that it is in. -/
theorem execute_lifetime (hbefore : before.WellKeyed) (hafter : after.WellKeyed)
    (hname : before.name = after.name) (checkedBefore : before.checkIndexNames .spanner = .ok ())
    (checkedAfter : after.checkIndexNames .spanner = .ok ())
    (distinctBefore : before.DistinctIdentities) (distinctAfter : after.DistinctIdentities)
    (apart : before.NamedApart after) :
    (∃ created, createTable before = .ok created ∧
      created.statements.foldlM execute ∅ = some before.takenNames) ∧
    (∀ altered, alteration .spanner before after = .ok altered →
      altered.statements.foldlM execute before.takenNames = some after.takenNames) ∧
    (dropTable after).foldlM execute after.takenNames = some ∅ :=
  ⟨execute_createTable hbefore checkedBefore,
    fun _ h => execute_comparing hbefore hafter hname checkedBefore checkedAfter distinctBefore
      distinctAfter apart (alteration_eq_ok h),
    execute_dropTable hafter checkedAfter⟩

end Spanner

end Ddl

namespace Shop

/-- Articles with a unique code, and an index on the shelf that bears the name which would keep the
shelf unique. -/
def articlesBefore : Table :=
  ((((numbered "articles").withColumn (number "code").withUnique).withColumn
    (number "shelf")).withIndex ⟨none, ["shelf"], false⟩).withIndex
      ⟨some "articles_shelf_key", ["shelf"], true⟩

/-- Articles with a unique shelf, and an index on the code that bears the name which kept the code
unique. -/
def articlesAfter : Table :=
  ((((numbered "articles").withColumn (number "code")).withColumn
    (number "shelf").withUnique).withIndex ⟨none, ["shelf"], false⟩).withIndex
      ⟨none, ["code"], true⟩

theorem wellKeyed_articlesBefore : articlesBefore.WellKeyed :=
  ((((wellKeyed_numbered _).withColumn _).withColumn _).withIndex _).withIndex _

theorem wellKeyed_articlesAfter : articlesAfter.WellKeyed :=
  ((((wellKeyed_numbered _).withColumn _).withColumn _).withIndex _).withIndex _

/-- Two names change their roles in one change: first both indexes are dropped, and then both are
created. -/
theorem execute_lifetime_articles :
    (articlesBefore.WellKeyed ∧ articlesAfter.WellKeyed ∧
      articlesBefore.name = articlesAfter.name ∧
      articlesBefore.checkIndexNames .spanner = .ok () ∧
      articlesAfter.checkIndexNames .spanner = .ok () ∧ articlesBefore.DistinctIdentities ∧
      articlesAfter.DistinctIdentities ∧ articlesBefore.NamedApart articlesAfter) ∧
    (∃ created, Ddl.Spanner.createTable articlesBefore = .ok created ∧
      created.statements.foldlM IndexNames.execute ∅ =
        some {"articles_code_key", "articles_shelf_idx", "articles_shelf_key"}) ∧
    (∃ altered, Ddl.alteration .spanner articlesBefore articlesAfter = .ok altered ∧
      altered.statements =
        [.dropIndex "articles_shelf_key", .dropIndex "articles_code_key",
          .createIndex ⟨"articles_shelf_key", "articles", ["shelf"], true⟩,
          .createIndex ⟨"articles_code_key", "articles", ["code"], true⟩] ∧
      altered.statements.foldlM IndexNames.execute articlesBefore.takenNames =
        some articlesAfter.takenNames) ∧
    (Ddl.Spanner.dropTable articlesAfter).foldlM IndexNames.execute articlesAfter.takenNames =
      some ∅ := by
  have taken : articlesBefore.takenNames =
      {"articles_code_key", "articles_shelf_idx", "articles_shelf_key"} := by decide
  obtain ⟨created, altered, dropped⟩ := Ddl.Spanner.execute_lifetime wellKeyed_articlesBefore
    wellKeyed_articlesAfter rfl (by decide) (by decide) (by decide) (by decide) (by decide)
  rw [taken] at created
  exact ⟨⟨wellKeyed_articlesBefore, wellKeyed_articlesAfter, rfl, by decide, by decide, by decide,
    by decide, by decide⟩, created, ⟨_, rfl, by decide, altered _ rfl⟩, dropped⟩

end Shop

end SchemaEvolution
