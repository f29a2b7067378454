import Mathlib.Data.List.Sort
import SchemaEvolution.Proofs.IndexNames
import SchemaEvolution.Proofs.Minimal

/-!
# Which patches compile

A patch between two schemas compiles or is refused as a whole, and which of the two is known before
from the schemas (`SchemaPatch.compiles_iff_expressible`): a table that is added takes no name for
two indexes, and for Spanner a table that stays keeps its key and its parent (`Table.SameKey`).

Nothing looks at the key as such. Spanner's refusals are made edit by edit: of a flagged column that
comes or goes, of a flag that changes, of a declared key, of a parent. That together they leave no
gap is `Ddl.Spanner.exists_alterTable_eq_ok`. Since to have the same key and the same parent is
symmetric, a patch can be compiled exactly if the way back can (`SchemaPatch.compile_back_iff`).
-/

namespace SchemaEvolution

/-! ## What compiles -/

/-- Steps on the elements of a list succeed exactly if the step on each of them does. -/
theorem exists_mapM_eq_ok {ε α β : Type} {f : α → Except ε β} {l : List α} :
    (∃ r, l.mapM f = .ok r) ↔ ∀ a ∈ l, ∃ b, f a = .ok b := by
  induction l with
  | nil => exact ⟨fun _ => nofun, fun _ => ⟨[], rfl⟩⟩
  | cons a rest ih =>
    rw [List.forall_mem_cons, ← ih, List.mapM_cons]
    constructor
    · rintro ⟨r, h⟩
      obtain ⟨b, hb, h⟩ := bind_eq_ok.mp h
      obtain ⟨bs, hbs, -⟩ := bind_eq_ok.mp h
      exact ⟨⟨b, hb⟩, bs, hbs⟩
    · rintro ⟨⟨b, hb⟩, bs, hbs⟩
      exact ⟨b :: bs, by rw [hb, hbs]; rfl⟩

namespace Ddl

theorem exists_statements_eq_ok (l : List Sql.Statement) : ∃ r, statements l = .ok r :=
  ⟨_, rfl⟩

theorem exists_sequence_eq_ok {parts : List Ddl} :
    (∃ e, sequence parts = .ok e) ↔ ∀ part ∈ parts, ∃ r, part = .ok r := by
  refine ⟨fun ⟨e, h⟩ => (sequence_eq_ok h).1, fun h => ?_⟩
  induction parts with
  | nil => exact ⟨_, rfl⟩
  | cons part rest ih =>
    obtain ⟨⟨a, ha⟩, hrest⟩ := List.forall_mem_cons.mp h
    obtain ⟨b, hb⟩ := ih hrest
    exact ⟨a ++ b, by rw [sequence, ha, hb]; rfl⟩

end Ddl

/-! ## Keys and parents -/

namespace Table

variable {t u : Table}

/-- Whether a column of a table is flagged as part of the primary key. -/
def isFlagged (t : Table) (n : String) : Bool :=
  (t.columns.find? n).any (·.primaryKey)

/-- Two states of a table flag the same columns and declare the same key, and have the same parent,
if they have any. -/
structure SameKey (t u : Table) : Prop where
  flagged : ∀ n, t.isFlagged n = u.isFlagged n
  declared : t.primaryKey? = u.primaryKey?
  parent : t.interleave?.map (·.parent) = u.interleave?.map (·.parent)

theorem SameKey.symm (h : t.SameKey u) : u.SameKey t :=
  ⟨fun n => (h.flagged n).symm, h.declared.symm, h.parent.symm⟩

theorem pairwise_names_flaggedColumns (keyed : t.WellKeyed) :
    (t.flaggedColumns.map (·.name)).Pairwise (· < ·) := by
  have ascending : (t.columns.values.map (·.name)).Pairwise (· < ·) := by
    rw [keyed.map_name_values]
    exact t.columns.ascending
  exact ascending.sublist (List.filter_sublist.map _)

/-- The flags decide the flagged columns with their order, which is that of names. -/
theorem SameKey.keyColumns_eq (h : t.SameKey u) (ht : t.WellKeyed) (hu : u.WellKeyed) :
    t.keyColumns = u.keyColumns := by
  have flagged : t.flaggedColumns.map (·.name) = u.flaggedColumns.map (·.name) := by
    refine List.Pairwise.eq_of_mem_iff (pairwise_names_flaggedColumns ht)
      (pairwise_names_flaggedColumns hu) fun n => ?_
    rw [flaggedColumns, flaggedColumns, mem_map_name_filter ht, mem_map_name_filter hu]
    exact Bool.eq_iff_iff.mp (h.flagged n)
  rw [keyColumns, keyColumns, h.declared, flagged]

end Table

/-! ## Changes of a table for Spanner -/

/-- Whether an edit is that of the flag which makes a column part of the primary key. -/
def FieldEdit.isKeyFlag : FieldEdit → Bool
  | .primaryKey _ => true
  | _ => false

/-- The flag is among the edits between two columns exactly if it differs. -/
theorem FieldEdit.any_isKeyFlag_between {before after : Column} :
    (between before after).any isKeyFlag = false ↔ before.primaryKey = after.primaryKey := by
  unfold between
  simp only [List.any_append, apply_ite (List.any · isKeyFlag), List.any_cons, List.any_nil,
    isKeyFlag, Bool.or_false, ite_self, Bool.false_or, ne_eq, ite_not, Bool.if_false_left,
    Bool.and_true, Bool.not_eq_false', decide_eq_true_eq]

namespace ColumnEdit

/-- Whether an edit adds or removes a flagged column, or changes the flag of a column. -/
def touchesKey : ColumnEdit → Bool
  | .add column => column.primaryKey
  | .remove _ previous => previous.primaryKey
  | .change _ _ _ edits => edits.any FieldEdit.isKeyFlag

/-- The edit of a name leaves the key alone exactly if the flag under the name stays. -/
theorem touchesKey_under {before after : Table} {n : String} :
    (∀ e, under before after n = some e → e.touchesKey = false) ↔
      before.isFlagged n = after.isFlagged n := by
  unfold under Table.isFlagged
  cases before.columns.find? n with
  | none =>
    cases after.columns.find? n with
    | none => simp
    | some column =>
      simp only [Option.some.injEq, forall_eq', touchesKey, Option.any_none, Option.any_some]
      exact eq_comm
  | some previous =>
    cases after.columns.find? n with
    | none => simp [touchesKey]
    | some column =>
      rw [Option.any_some, Option.any_some, ← FieldEdit.any_isKeyFlag_between]
      by_cases hempty : FieldEdit.between previous column = []
      · simp [hempty]
      · simp [hempty, touchesKey]

theorem touchesKey_between {before after : Table} (keyed : after.WellKeyed) :
    (∀ e ∈ between before after, e.touchesKey = false) ↔
      ∀ n, before.isFlagged n = after.isFlagged n := by
  rw [NameMap.forall_mem_iff_of_filter (filter_between keyed)]
  exact forall_congr' fun _ => touchesKey_under

end ColumnEdit

/-- Where a comparison finds nothing, the key and the parent are the same. -/
theorem Table.SameKey.of_between_eq_none {t u : Table} (keyed : u.WellKeyed)
    (h : TableEdit.between t u = none) : t.SameKey u := by
  obtain ⟨columns, -, key, interleave, -⟩ := TableEdit.between_eq_none_iff.mp h
  refine ⟨(ColumnEdit.touchesKey_between keyed).mp ?_, KeyEdit.between_eq_none_iff.mp key, ?_⟩
  · rw [columns]
    exact List.forall_mem_nil _
  · rw [InterleaveEdit.between_eq_none_iff.mp interleave]

namespace Ddl

/-- A table can be changed exactly if each of its columns can, and then its key and interleaving. -/
theorem exists_alterTable_eq_ok {d : Dialect} {e : TableEdit} :
    (∃ r, alterTable d e = .ok r) ↔
      (∀ c ∈ e.columns, (∃ r, ifAdded d e.name c = .ok r) ∧
        (∀ part ∈ partsIfChanged d e.name c, ∃ r, part = .ok r) ∧
        ∃ r, ifRemoved d e.name c = .ok r) ∧
      ∃ r, changeConstraints d e = .ok r := by
  rw [alterTable, exists_sequence_eq_ok, alterParts]
  simp only [List.forall_mem_append, List.forall_mem_map, List.forall_mem_flatMap,
    List.forall_mem_cons, List.mem_nil_iff, false_implies, implies_true, exists_statements_eq_ok,
    true_and, and_true, forall_and, and_assoc]

namespace Spanner

variable {table : String}

theorem exists_addColumn_eq_ok {c : Column} :
    (∃ r, addColumn table c = .ok r) ↔ c.primaryKey = false := by
  unfold addColumn
  cases c.primaryKey with
  | true => exact ⟨nofun, nofun⟩
  | false => exact ⟨fun _ => rfl, fun _ => ⟨_, rfl⟩⟩

theorem exists_dropColumn_eq_ok {c : Column} :
    (∃ r, dropColumn table c = .ok r) ↔ c.primaryKey = false := by
  unfold dropColumn
  cases c.primaryKey with
  | true => exact ⟨nofun, nofun⟩
  | false => exact ⟨fun _ => rfl, fun _ => ⟨_, rfl⟩⟩

theorem exists_editField_eq_ok {c : Column} {keyColumn nullable : Bool} {e : FieldEdit} :
    (∃ r, editField table c keyColumn nullable e = .ok r) ↔ e.isKeyFlag = false := by
  cases e with
  | primaryKey _ => exact ⟨nofun, nofun⟩
  | unique unique => cases unique <;> exact ⟨fun _ => rfl, fun _ => ⟨_, rfl⟩⟩
  | _ => exact ⟨fun _ => rfl, fun _ => ⟨_, rfl⟩⟩

/-- **Spanner does with a column whatever leaves the key alone**, and nothing else. -/
theorem exists_columnParts_eq_ok {e : ColumnEdit} :
    ((∃ r, ifAdded .spanner table e = .ok r) ∧
      (∀ part ∈ partsIfChanged .spanner table e, ∃ r, part = .ok r) ∧
      ∃ r, ifRemoved .spanner table e = .ok r) ↔ e.touchesKey = false := by
  have nothing : ∃ r, statements [] = .ok r := exists_statements_eq_ok []
  cases e with
  | add column =>
    refine Iff.trans ⟨And.left, fun h => ⟨h, nofun, nothing⟩⟩ exists_addColumn_eq_ok
  | remove n previous =>
    refine Iff.trans ⟨fun h => h.2.2, fun h => ⟨nothing, nofun, h⟩⟩ exists_dropColumn_eq_ok
  | change n column keyColumn edits =>
    refine Iff.trans ⟨fun h => h.2.1, fun h => ⟨nothing, h, nothing⟩⟩ ?_
    rw [ColumnEdit.touchesKey, List.any_eq_false]
    refine List.forall_mem_map.trans (forall₂_congr fun edit _ => ?_)
    rw [exists_editField_eq_ok, Bool.not_eq_true]

/-- Of the interleaving Spanner changes the fate of the rows, but not the parent. -/
theorem exists_changeInterleave_eq_ok {before after : Option Interleave} :
    (∀ edit, InterleaveEdit.between before after = some edit →
      ∃ r, changeInterleave table edit = .ok r) ↔ before.map (·.parent) = after.map (·.parent) := by
  cases after with
  | none =>
    cases before with
    | none => exact ⟨fun _ => rfl, fun _ => nofun⟩
    | some previous =>
      refine ⟨fun h => ?_, nofun⟩
      obtain ⟨r, hr⟩ := h _ rfl
      cases hr
  | some arrival =>
    by_cases same : before = some arrival
    · have nothing : InterleaveEdit.between before (some arrival) = none :=
        InterleaveEdit.between_eq_none_iff.mpr same
      rw [nothing, same]
      exact ⟨fun _ => rfl, fun _ => nofun⟩
    · have set : InterleaveEdit.between before (some arrival) = some (.set before arrival) := by
        cases before with
        | none => rfl
        | some previous => exact if_neg same
      rw [set]
      simp only [Option.some.injEq, forall_eq']
      cases before with
      | none => exact ⟨nofun, nofun⟩
      | some previous =>
        rw [changeInterleave, Option.map_some, Option.map_some, Option.some.injEq]
        by_cases parent : previous.parent = arrival.parent
        · rw [if_pos parent]
          exact ⟨fun _ => parent, fun _ => ⟨_, rfl⟩⟩
        · rw [if_neg parent]
          exact ⟨nofun, fun h => absurd h parent⟩

/-- A declared key is never changed. -/
theorem exists_changeConstraints_eq_ok {t u : Table} :
    (∃ r, changeConstraints (TableEdit.comparing t u) = .ok r) ↔
      t.primaryKey? = u.primaryKey? ∧
        t.interleave?.map (·.parent) = u.interleave?.map (·.parent) := by
  unfold changeConstraints TableEdit.comparing
  dsimp only
  cases hkey : KeyEdit.between t.primaryKey? u.primaryKey? with
  | some edit =>
    have differ : t.primaryKey? ≠ u.primaryKey? := fun h => by
      rw [KeyEdit.between_eq_none_iff.mpr h] at hkey
      cases hkey
    exact ⟨nofun, fun h => absurd h.1 differ⟩
  | none =>
    rw [and_iff_right (KeyEdit.between_eq_none_iff.mp hkey), ← exists_changeInterleave_eq_ok]
    cases InterleaveEdit.between t.interleave? u.interleave? with
    | none => exact ⟨fun _ => nofun, fun _ => ⟨_, rfl⟩⟩
    | some edit =>
      simp only [Option.some.injEq, forall_eq']
      exact Iff.rfl

/-- **Spanner changes a table exactly if its key and its parent stay.** -/
theorem exists_alterTable_eq_ok {t u : Table} (keyed : u.WellKeyed) :
    (∃ r, alterTable .spanner (TableEdit.comparing t u) = .ok r) ↔ t.SameKey u := by
  have flagged : (∀ c ∈ ColumnEdit.between t u, c.touchesKey = false) ↔
      ∀ n, t.isFlagged n = u.isFlagged n := ColumnEdit.touchesKey_between keyed
  have constraints := exists_changeConstraints_eq_ok (t := t) (u := u)
  rw [Ddl.exists_alterTable_eq_ok]
  simp only [exists_columnParts_eq_ok]
  refine (and_congr flagged constraints).trans ?_
  exact ⟨fun ⟨flagged, declared, parent⟩ => ⟨flagged, declared, parent⟩,
    fun h => ⟨h.flagged, h.declared, h.parent⟩⟩

end Spanner

/-- PostgreSQL changes any table. -/
theorem Postgres.exists_alterTable_eq_ok (e : TableEdit) : ∃ r, alterTable .postgres e = .ok r := by
  have nothing : ∃ r, statements [] = .ok r := exists_statements_eq_ok []
  rw [Ddl.exists_alterTable_eq_ok]
  refine ⟨fun c _ => ?_, ⟨_, rfl⟩⟩
  cases c with
  | add column => exact ⟨⟨_, rfl⟩, nofun, nothing⟩
  | remove n previous => exact ⟨nothing, nofun, ⟨_, rfl⟩⟩
  | change n column keyColumn edits =>
    refine ⟨nothing, fun part hpart => ?_, nothing⟩
    cases List.mem_singleton.mp hpart
    exact ⟨_, rfl⟩

theorem exists_createTable_eq_ok {d : Dialect} {t : Table} :
    (∃ e, createTable d t = .ok e) ↔ t.checkIndexNames d = .ok () := by
  constructor
  · rintro ⟨e, h⟩
    cases d with
    | postgres => exact (bind_eq_ok.mp h).elim fun _ h => h.1
    | spanner => exact (bind_eq_ok.mp h).elim fun _ h => h.1
  · intro h
    cases d with
    | postgres => exact ⟨_, bind_eq_ok.mpr ⟨(), h, rfl⟩⟩
    | spanner => exact ⟨_, bind_eq_ok.mpr ⟨(), h, rfl⟩⟩

end Ddl

/-! ## Patches -/

/-- A dialect can lead from one schema to another: each new table takes no name twice, and for
Spanner each table that both schemas have keeps its key and its parent. -/
structure Schema.Expressible (d : Dialect) (before after : Schema) : Prop where
  added : ∀ n u, before.tables.find? n = none → after.tables.find? n = some u →
    u.checkIndexNames d = .ok ()
  kept : d = .spanner → ∀ n t u, before.tables.find? n = some t → after.tables.find? n = some u →
    t.SameKey u

namespace SchemaPatch

variable {before after : Schema} {d : Dialect}

theorem exists_compile_eq_ok {p : SchemaPatch} :
    (∃ c, p.compile d = .ok c) ↔ ∀ a ∈ p.actions, ∃ e, Ddl.act d a = .ok e := by
  rw [← exists_mapM_eq_ok]
  constructor
  · rintro ⟨c, h⟩
    obtain ⟨emissions, hemissions, -⟩ := bind_eq_ok.mp h
    exact ⟨emissions, hemissions⟩
  · rintro ⟨emissions, h⟩
    exact ⟨_, bind_eq_ok.mpr ⟨emissions, h, rfl⟩⟩

/-- **A patch between two schemas compiles exactly if the dialect can lead from the one to the
other.** -/
theorem compiles_iff_expressible (hbefore : before.WellKeyed) (hafter : after.WellKeyed) :
    (∃ c, (between before after).compile d = .ok c) ↔ Schema.Expressible d before after := by
  rw [exists_compile_eq_ok, NameMap.forall_mem_iff_of_filter (filter_actions hbefore hafter)]
  constructor
  · intro h
    refine ⟨fun n u hb ha => ?_, ?_⟩
    · have hunder : TableAction.under before after n = some (.add u) := by
        rw [TableAction.under, hb, ha]
      exact Ddl.exists_createTable_eq_ok.mp (h n _ hunder)
    · rintro rfl n t u hb ha
      have keyed := hafter.of_find? ha
      cases hbetween : TableEdit.between t u with
      | none => exact .of_between_eq_none keyed hbetween
      | some e =>
        have hunder : TableAction.under before after n = some (.change e) := by
          simp only [TableAction.under, hb, ha, hbetween, Option.map_some]
        refine (Ddl.Spanner.exists_alterTable_eq_ok keyed).mp ?_
        rw [← TableEdit.between_eq_some hbetween]
        exact h n _ hunder
  · intro h n a hunder
    unfold TableAction.under at hunder
    split at hunder
    · cases hunder
    · rename_i u hb ha
      cases hunder
      exact Ddl.exists_createTable_eq_ok.mpr (h.added n u hb ha)
    · cases hunder
      exact ⟨_, rfl⟩
    · rename_i t u hb ha
      obtain ⟨e, he, rfl⟩ := Option.map_eq_some_iff.mp hunder
      obtain rfl := TableEdit.between_eq_some he
      cases d with
      | postgres => exact Ddl.Postgres.exists_alterTable_eq_ok _
      | spanner =>
        have keyed := hafter.of_find? ha
        exact (Ddl.Spanner.exists_alterTable_eq_ok keyed).mpr (h.kept rfl n t u hb ha)

/-- **A patch that compiles for Spanner changes neither a key nor a parent**: the tables that both
schemas have keep the columns of their keys with their order, the keys they declare, and the tables
in which they are interleaved. -/
theorem keys_kept_of_compile (hbefore : before.WellKeyed) (hafter : after.WellKeyed)
    {c : Compilation} (h : (between before after).compile .spanner = .ok c) {n : String}
    {t u : Table} (ht : before.tables.find? n = some t) (hu : after.tables.find? n = some u) :
    t.keyColumns = u.keyColumns ∧ t.primaryKey? = u.primaryKey? ∧
      t.interleave?.map (·.parent) = u.interleave?.map (·.parent) := by
  have expressible := (compiles_iff_expressible hbefore hafter).mp ⟨c, h⟩
  have same : t.SameKey u := expressible.kept rfl n t u ht hu
  exact ⟨same.keyColumns_eq (hbefore.of_find? ht) (hafter.of_find? hu), same.declared, same.parent⟩

end SchemaPatch

namespace Shop

/-- The lines of invoices, which are stored with them. -/
def lines (onDelete : ParentDelete) : Table :=
  ((((Table.empty "lines").withColumn (number "invoice")).withColumn (number "line")).withPrimaryKey
    ⟨none, ["invoice", "line"]⟩).interleavedIn "invoices" onDelete

/-- Invoices with their lines. -/
def billing (lines : Table) : Schema :=
  (Schema.empty.withTable (numbered "invoices")).withTable lines

theorem wellKeyed_lines (onDelete : ParentDelete) : (lines onDelete).WellKeyed :=
  ((Table.WellKeyed.empty "lines").withColumn _).withColumn _

theorem wellKeyed_billing {t : Table} (h : t.WellKeyed) : (billing t).WellKeyed :=
  (Schema.WellKeyed.empty.withTable (wellKeyed_numbered _)).withTable h

/-- Lines get an amount, and stay when their invoice goes. -/
theorem keys_kept_of_compile_billing :
    let before := billing (lines .cascade)
    let after := billing ((lines .noAction).withColumn (number "amount"))
    ∃ c t u, (SchemaPatch.between before after).compile .spanner = .ok c ∧
      before.WellKeyed ∧ after.WellKeyed ∧
      before.tables.find? "lines" = some t ∧ after.tables.find? "lines" = some u ∧
      t.interleave? ≠ u.interleave? ∧
      t.keyColumns = u.keyColumns ∧ t.primaryKey? = u.primaryKey? ∧
      t.interleave?.map (·.parent) = u.interleave?.map (·.parent) := by
  intro before after
  have compiles : ∃ c, (SchemaPatch.between before after).compile .spanner = .ok c := ⟨_, rfl⟩
  obtain ⟨c, hc⟩ := compiles
  have hbefore : before.WellKeyed := wellKeyed_billing (wellKeyed_lines _)
  have hafter : after.WellKeyed := wellKeyed_billing ((wellKeyed_lines _).withColumn _)
  exact ⟨c, _, _, hc, hbefore, hafter, rfl, rfl, by decide,
    SchemaPatch.keys_kept_of_compile (n := "lines") hbefore hafter hc rfl rfl⟩

end Shop

/-! ## There and back -/

namespace Schema

/-- No table of a schema takes a name for two indexes. -/
def IndexNamesChecked (s : Schema) : Prop :=
  ∀ t ∈ s.tables.values, ∀ d, t.checkIndexNames d = .ok ()

/-- Between schemas whose tables could all be created, a dialect can lead back where it can lead. -/
theorem Expressible.symm {d : Dialect} {before after : Schema} (h : Expressible d before after)
    (checked : before.IndexNamesChecked) : Expressible d after before where
  added n u _ hu := checked u (NameMap.mem_values.mpr ⟨n, hu⟩) d
  kept hd n t u ht hu := (h.kept hd n u t hu ht).symm

theorem expressible_postgres {before after : Schema} (checked : after.IndexNamesChecked) :
    Expressible .postgres before after where
  added n u _ hu := checked u (NameMap.mem_values.mpr ⟨n, hu⟩) .postgres
  kept := nofun

end Schema

theorem SchemaPatch.compile_of_isEmpty {p : SchemaPatch} (h : p.isEmpty = true) (d : Dialect) :
    ∃ c, p.compile d = .ok c := by
  rw [exists_compile_eq_ok, List.isEmpty_iff.mp h]
  exact List.forall_mem_nil _

/-- Where PostgreSQL takes both patches, and Spanner takes the patch back if it takes the other,
there is nothing to refuse but the patch forth for Spanner. -/
theorem Migration.between?_eq_error_iff {before after : Schema}
    (postgres : (∃ c, (SchemaPatch.between before after).compile .postgres = .ok c) ∧
      ∃ c, (SchemaPatch.between after before).compile .postgres = .ok c)
    (back : (∃ c, (SchemaPatch.between before after).compile .spanner = .ok c) →
      ∃ c, (SchemaPatch.between after before).compile .spanner = .ok c)
    (name : String) (u : Unsupported) :
    between? name before after = .error u ↔
      (SchemaPatch.between before after).compile .spanner = .error u := by
  obtain ⟨⟨c, hc⟩, c', hc'⟩ := postgres
  unfold between? compileBoth
  dsimp only
  rw [hc, hc']
  cases hforth : (SchemaPatch.between before after).compile .spanner with
  | ok e =>
    obtain ⟨e', he'⟩ := back ⟨e, hforth⟩
    rw [he']
    split
    · exact ⟨nofun, nofun⟩
    · exact ⟨nofun, nofun⟩
  | error v =>
    have something : (SchemaPatch.between before after).isEmpty = false := by
      cases hempty : (SchemaPatch.between before after).isEmpty with
      | false => rfl
      | true =>
        obtain ⟨e, he⟩ := SchemaPatch.compile_of_isEmpty hempty .spanner
        rw [hforth] at he
        cases he
    rw [something, Bool.false_and, if_neg Bool.false_ne_true]
    change Except.error v = Except.error u ↔ _
    rw [Except.error.injEq, Except.error.injEq]

namespace SchemaPatch

/-- **What can be compiled one way can be compiled back.** Between schemas whose tables take no name
for two indexes, a dialect refuses the patch of one direction exactly if it refuses the other.
PostgreSQL refuses neither, and a migration is refused exactly if Spanner refuses the patch forth,
and for that reason. -/
theorem compile_back_iff {a b : Schema} (ha : a.WellKeyed) (hb : b.WellKeyed)
    (checked_a : a.IndexNamesChecked) (checked_b : b.IndexNamesChecked) :
    (∀ d, (∃ c, (between a b).compile d = .ok c) ↔ ∃ c, (between b a).compile d = .ok c) ∧
      ((∃ c, (between a b).compile .postgres = .ok c) ∧
        ∃ c, (between b a).compile .postgres = .ok c) ∧
      ∀ name u, Migration.between? name a b = .error u ↔
        (between a b).compile .spanner = .error u := by
  have both (d : Dialect) :
      (∃ c, (between a b).compile d = .ok c) ↔ ∃ c, (between b a).compile d = .ok c := by
    rw [compiles_iff_expressible ha hb, compiles_iff_expressible hb ha]
    exact ⟨fun h => h.symm checked_a, fun h => h.symm checked_b⟩
  have forth : ∃ c, (between a b).compile .postgres = .ok c :=
    (compiles_iff_expressible ha hb).mpr (Schema.expressible_postgres checked_b)
  have postgres := And.intro forth ((both .postgres).mp forth)
  exact ⟨both, postgres, Migration.between?_eq_error_iff postgres (both .spanner).mp⟩

end SchemaPatch

namespace Shop

theorem indexNamesChecked_before : before.IndexNamesChecked := by
  intro t ht d
  rw [Table.checkIndexNames_eq_ok_iff]
  revert t
  decide

theorem indexNamesChecked_after : after.IndexNamesChecked := by
  intro t ht d
  rw [Table.checkIndexNames_eq_ok_iff]
  revert t
  decide

/-- The way from one shop to the other compiles for Spanner, and so does the way back. -/
theorem compile_back_iff_shop :
    (before.WellKeyed ∧ after.WellKeyed) ∧
      (before.IndexNamesChecked ∧ after.IndexNamesChecked) ∧
      ∃ c, (SchemaPatch.between after before).compile .spanner = .ok c := by
  have forth : ∃ c, (SchemaPatch.between before after).compile .spanner = .ok c := ⟨_, rfl⟩
  exact ⟨⟨wellKeyed_before, wellKeyed_after⟩,
    ⟨indexNamesChecked_before, indexNamesChecked_after⟩,
    ((SchemaPatch.compile_back_iff wellKeyed_before wellKeyed_after indexNamesChecked_before
      indexNamesChecked_after).1 .spanner).mp forth⟩

end Shop

end SchemaEvolution
