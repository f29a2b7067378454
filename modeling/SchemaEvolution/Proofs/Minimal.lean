import SchemaEvolution.Proofs.Compiling
import SchemaEvolution.Proofs.SchemaReplay
import SchemaEvolution.Migration.Basic

/-!
# Nothing but the differences

A comparison finds no edit of a column, an index, a table or a schema exactly where the two states
match. At each level this is one lemma that ends in `between_eq_nil_iff`, `under_eq_none_iff` or
`between_eq_none_iff_matches`; the levels are put together name by name, as the edits of a name are
known (`filter_between`).

So a patch is empty exactly between schemas that match, and since to match is an equivalence, it
does not matter which of the two comes first. What it says of schemas that do not match is said
once, and only of what differs (`SchemaPatch.differences_between`).
-/

namespace SchemaEvolution

/-! ## Columns -/

/-- There is no edit between two columns of one name exactly if they match. -/
theorem FieldEdit.between_eq_nil_iff {c d : Column} (h : c.name = d.name) :
    between c d = [] ↔ c.Matches d := by
  unfold between
  simp only [List.append_eq_nil_iff, ite_eq_right_iff, ite_eq_left_iff, reduceCtorEq, imp_false,
    Decidable.not_not, not_or]
  constructor
  · rintro ⟨⟨⟨⟨⟨⟨type, physical⟩, nullable⟩, default⟩, primaryKey⟩, unique⟩, reference⟩
    exact ⟨h, type, physical, nullable, default, primaryKey, unique, reference⟩
  · intro m
    exact ⟨⟨⟨⟨⟨⟨m.type, m.physical⟩, m.nullable⟩, m.default⟩, m.primaryKey⟩, m.unique⟩,
      m.reference⟩

/-- What is made name by name is nothing at all exactly if it is nothing under each name. -/
theorem NameMap.eq_nil_iff_of_filter {ε : Type} {l : List ε} {name : ε → String}
    {under : String → Option ε} (h : ∀ n, l.filter (name · = n) = (under n).toList) :
    l = [] ↔ ∀ n, under n = none := by
  constructor
  · rintro rfl n
    exact Option.toList_eq_nil_iff.mp (h n).symm
  · intro hnone
    refine List.eq_nil_iff_forall_not_mem.mpr fun x hx => ?_
    have hmem := (mem_iff_of_filter_eq (h (name x))).mp hx
    rw [hnone] at hmem
    cases hmem

namespace ColumnEdit

variable {before after : Table}

/-- A column is not edited exactly if its two states match. -/
theorem under_eq_none_iff (hbefore : before.WellKeyed) (hafter : after.WellKeyed) {n : String} :
    under before after n = none ↔
      Option.Rel Column.Matches (before.columns.find? n) (after.columns.find? n) := by
  unfold under
  cases hb : before.columns.find? n with
  | none =>
    cases ha : after.columns.find? n with
    | none => exact ⟨fun _ => .none, fun _ => rfl⟩
    | some column => exact ⟨nofun, nofun⟩
  | some previous =>
    cases ha : after.columns.find? n with
    | none => exact ⟨nofun, nofun⟩
    | some column =>
      have hname : previous.name = column.name :=
        (hbefore.name_of_find? hb).trans (hafter.name_of_find? ha).symm
      simp only [ite_eq_left_iff, reduceCtorEq, imp_false, not_not, List.isEmpty_iff,
        FieldEdit.between_eq_nil_iff hname, Option.rel_some_some]

theorem between_eq_nil_iff (hbefore : before.WellKeyed) (hafter : after.WellKeyed) :
    between before after = [] ↔
      ∀ n, Option.Rel Column.Matches (before.columns.find? n) (after.columns.find? n) := by
  rw [NameMap.eq_nil_iff_of_filter (filter_between hafter)]
  simp only [under_eq_none_iff hbefore hafter]

end ColumnEdit

/-! ## Indexes, keys and interleaving -/

namespace IndexEdit

variable {before after : Table}

/-- What an index is known by calls for no edit exactly if it stands for the same content. -/
theorem under_eq_none_iff {n : String} :
    under before after n = none ↔ (before.indexesByIdentity.find? n).map Index.content =
      (after.indexesByIdentity.find? n).map Index.content := by
  unfold under
  cases before.indexesByIdentity.find? n with
  | none => cases after.indexesByIdentity.find? n <;> simp
  | some previous => cases after.indexesByIdentity.find? n <;> simp

theorem between_eq_nil_iff :
    between before after = [] ↔ ∀ n, (before.indexesByIdentity.find? n).map Index.content =
      (after.indexesByIdentity.find? n).map Index.content := by
  rw [NameMap.eq_nil_iff_of_filter (filter_between before after)]
  simp only [under_eq_none_iff]

end IndexEdit

theorem KeyEdit.between_eq_none_iff {before after : Option CompositeKey} :
    between before after = none ↔ before = after := by
  cases after <;> cases before <;> simp [between]

theorem InterleaveEdit.between_eq_none_iff {before after : Option Interleave} :
    between before after = none ↔ before = after := by
  cases after <;> cases before <;> simp [between]

/-! ## Tables -/

/-- Lists that correspond have the same image where what corresponds has. -/
theorem map_eq_of_forall₂ {α β γ : Type} {R : α → β → Prop} {f : α → γ} {g : β → γ} {l : List α}
    {l' : List β} (h : List.Forall₂ R l l') (hfg : ∀ x y, R x y → f x = g y) :
    l.map f = l'.map g := by
  rw [← List.forall₂_eq_eq_eq, List.forall₂_map_left_iff, List.forall₂_map_right_iff]
  exact h.imp hfg

/-- Of tables that match, the columns picked by a property have the same names. -/
theorem Table.Matches.map_name_filter {t u : Table} (h : t.Matches u) {p : Column → Bool}
    (hp : ∀ c d, c.Matches d → p c = p d) :
    (t.columns.values.filter p).map (·.name) = (u.columns.values.filter p).map (·.name) := by
  have picked : List.Forall₂ Column.Matches (t.columns.values.filter p)
      (u.columns.values.filter p) :=
    List.rel_filter (fun _ _ hc => iff_of_eq (congrArg (· = true) (hp _ _ hc)))
      (NameMap.forall₂_values h.columns)
  exact map_eq_of_forall₂ picked fun _ _ hc => hc.name

theorem Table.Matches.map_name_flaggedColumns {t u : Table} (h : t.Matches u) :
    t.flaggedColumns.map (·.name) = u.flaggedColumns.map (·.name) :=
  h.map_name_filter fun _ _ hc => hc.primaryKey

/-- Tables that match have the same columns in their keys. -/
theorem Table.Matches.keyColumns_eq {t u : Table} (h : t.Matches u) :
    t.keyColumns = u.keyColumns := by
  unfold keyColumns
  rw [h.primaryKey, h.map_name_flaggedColumns]

/-- **There is no edit between two states of a table exactly if they match.** -/
theorem TableEdit.between_eq_none_iff_matches {before after : Table} (hbefore : before.WellKeyed)
    (hafter : after.WellKeyed) (hname : before.name = after.name) :
    between before after = none ↔ before.Matches after := by
  refine ⟨matches_of_between_eq_none hbefore hafter hname, fun h => ?_⟩
  exact between_eq_none_iff.mpr ⟨(ColumnEdit.between_eq_nil_iff hbefore hafter).mpr h.columns,
    IndexEdit.between_eq_nil_iff.mpr h.indexes, KeyEdit.between_eq_none_iff.mpr h.primaryKey,
    InterleaveEdit.between_eq_none_iff.mpr h.interleave, h.keyColumns_eq⟩

/-! ## Schemas -/

/-- There is no action on a table exactly if its two states match. -/
theorem TableAction.under_eq_none_iff {before after : Schema} (hbefore : before.WellKeyed)
    (hafter : after.WellKeyed) {n : String} :
    under before after n = none ↔ before.MatchesAt after n := by
  unfold under Schema.MatchesAt
  cases hb : before.tables.find? n with
  | none =>
    cases ha : after.tables.find? n with
    | none => exact ⟨fun _ => .none, fun _ => rfl⟩
    | some u => exact ⟨nofun, nofun⟩
  | some t =>
    cases ha : after.tables.find? n with
    | none => exact ⟨nofun, nofun⟩
    | some u =>
      have hname : t.name = u.name :=
        (hbefore.name_of_find? hb).trans (hafter.name_of_find? ha).symm
      rw [Option.map_eq_none_iff, Option.rel_some_some,
        TableEdit.between_eq_none_iff_matches (hbefore.of_find? hb) (hafter.of_find? ha) hname]

/-- There is no migration exactly if neither direction has anything to do. -/
theorem Migration.between?_eq_none_iff {name : String} {baseline current : Schema} :
    between? name baseline current = .ok none ↔
      (SchemaPatch.between baseline current).isEmpty = true ∧
        (SchemaPatch.between current baseline).isEmpty = true := by
  rw [← Bool.and_eq_true]
  unfold between?
  dsimp only
  split
  · rename_i hempty
    exact ⟨fun _ => hempty, fun _ => rfl⟩
  · rename_i hempty
    refine ⟨fun h => ?_, fun h => absurd h hempty⟩
    obtain ⟨postgres, _, h⟩ := bind_eq_ok.mp h
    obtain ⟨spanner, _, h⟩ := bind_eq_ok.mp h
    cases h

/-! ## Nothing to itself -/

theorem ColumnEdit.between_self (t : Table) : between t t = [] := by
  simp only [between, List.append_eq_nil_iff, List.filterMap_eq_nil_iff]
  have there : ∀ e ∈ t.columns.entries, t.columns.find? e.1 = some e.2 :=
    fun e he => NameMap.find?_of_mem he
  refine ⟨⟨fun e he => ?_, fun e he => ?_⟩, fun e he => ?_⟩
  · rw [if_pos (NameMap.contains_iff.mpr ⟨_, there e he⟩)]
  · have same : FieldEdit.between e.2 e.2 = [] :=
      (FieldEdit.between_eq_nil_iff rfl).mpr (Column.Matches.refl e.2)
    rw [there e he]
    simp only [same, List.isEmpty_nil, if_true]
  · rw [if_pos (NameMap.contains_iff.mpr ⟨_, there e he⟩)]

theorem TableEdit.between_self (t : Table) : between t t = none :=
  between_eq_none_iff.mpr ⟨ColumnEdit.between_self t, IndexEdit.between_eq_nil_iff.mpr fun _ => rfl,
    KeyEdit.between_eq_none_iff.mpr rfl, InterleaveEdit.between_eq_none_iff.mpr rfl, rfl⟩

/-- **A schema is no patch away from itself**, under whatever names it holds its tables. -/
theorem SchemaPatch.isEmpty_between_self (s : Schema) : (between s s).isEmpty = true := by
  have there : ∀ e ∈ s.tables.entries, s.tables.find? e.1 = some e.2 :=
    fun e he => NameMap.find?_of_mem he
  have missing : s.tablesMissingFrom s = [] := by
    rw [Schema.tablesMissingFrom, List.map_eq_nil_iff, List.filter_eq_nil_iff]
    intro e he
    rw [NameMap.contains_iff.mpr ⟨_, there e he⟩]
    exact Bool.false_ne_true
  rw [isEmpty, List.isEmpty_iff, between, missing]
  refine List.append_eq_nil_iff.mpr ⟨List.append_eq_nil_iff.mpr ⟨rfl, ?_⟩, rfl⟩
  refine List.filterMap_eq_nil_iff.mpr fun e he => ?_
  rw [there e he]
  exact Option.map_eq_none_iff.mpr (TableEdit.between_self e.2)

/-! ## Each difference once -/

/-- A list has one element if something holds, and none if it does not. -/
def OneIf {α : Type} (p : Prop) (l : List α) : Prop :=
  (p → l.length = 1) ∧ (¬ p → l = [])

theorem oneIf_toList {α : Type} {p : Prop} {a? : Option α} (h : a? = none ↔ ¬ p) :
    OneIf p a?.toList := by
  cases a? with
  | none => exact ⟨fun hp => absurd hp (h.mp rfl), fun _ => rfl⟩
  | some a => exact ⟨fun _ => rfl, fun hp => absurd (h.mpr hp) (Option.some_ne_none a)⟩

/-- An edit holds something, and it holds one thing for each column that differs between two states
of a table, one for whatever an index is known by that stands for another content, and no more. -/
structure TableEdit.Differences (before after : Table) (e : TableEdit) : Prop where
  nonempty : e.isEmpty = false
  columns : ∀ n,
    OneIf (¬ Option.Rel Column.Matches (before.columns.find? n) (after.columns.find? n))
      (e.columns.filter (·.name = n))
  indexes : ∀ n,
    OneIf ((before.indexesByIdentity.find? n).map Index.content ≠
      (after.indexesByIdentity.find? n).map Index.content) (e.indexes.filter (·.identity = n))

/-- A patch holds one action for each table that differs between two schemas and no more, and each
of its changes holds the differences between the two states of its table. -/
structure SchemaPatch.Differences (before after : Schema) (p : SchemaPatch) : Prop where
  actions : ∀ n, OneIf (¬ before.MatchesAt after n) (p.actions.filter (·.tableName = n))
  changes : ∀ e, .change e ∈ p.actions → ∃ t u, before.tables.find? e.name = some t ∧
    after.tables.find? e.name = some u ∧ e.Differences t u

theorem TableEdit.differences_of_between {before after : Table} (hbefore : before.WellKeyed)
    (hafter : after.WellKeyed) {e : TableEdit} (h : between before after = some e) :
    e.Differences before after := by
  have nonempty : e.isEmpty = false := by
    obtain rfl := between_eq_some h
    rw [between_eq] at h
    split at h
    · cases h
    · rename_i hempty
      rwa [Bool.not_eq_true] at hempty
  obtain rfl := between_eq_some h
  refine ⟨nonempty, fun n => ?_, fun n => ?_⟩
  · rw [show (comparing before after).columns = ColumnEdit.between before after from rfl,
      ColumnEdit.filter_between hafter]
    exact oneIf_toList ((ColumnEdit.under_eq_none_iff hbefore hafter).trans not_not.symm)
  · rw [show (comparing before after).indexes = IndexEdit.between before after from rfl,
      IndexEdit.filter_between]
    exact oneIf_toList (IndexEdit.under_eq_none_iff.trans not_not.symm)

namespace SchemaPatch

variable {before after : Schema}

theorem differences_between (hbefore : before.WellKeyed) (hafter : after.WellKeyed) :
    (between before after).Differences before after := by
  refine ⟨fun n => ?_, fun e he => ?_⟩
  · rw [filter_actions hbefore hafter]
    exact oneIf_toList ((TableAction.under_eq_none_iff hbefore hafter).trans not_not.symm)
  · have hunder := (mem_actions_iff hbefore hafter).mp he
    unfold TableAction.under at hunder
    split at hunder
    · cases hunder
    · cases hunder
    · cases hunder
    · rename_i t u ht hu
      obtain ⟨f, hf, heq⟩ := Option.map_eq_some_iff.mp hunder
      cases heq
      exact ⟨t, u, ht, hu, TableEdit.differences_of_between (hbefore.of_find? ht)
        (hafter.of_find? hu) hf⟩

theorem isEmpty_iff_matches (hbefore : before.WellKeyed) (hafter : after.WellKeyed) :
    (between before after).isEmpty = true ↔ before.Matches after := by
  rw [isEmpty, List.isEmpty_iff, NameMap.eq_nil_iff_of_filter (filter_actions hbefore hafter)]
  exact forall_congr' fun _ => TableAction.under_eq_none_iff hbefore hafter

/-- **A patch says what differs between two schemas, and nothing else.** To match is an equivalence
of schemas. Between two that match the patch is empty in either direction and there is no migration,
and between no other two; the patch between any two holds each of their differences once. -/
theorem between_says_differences :
    Equivalence Schema.Matches ∧
      ∀ before after : Schema, before.WellKeyed → after.WellKeyed →
        ((between before after).isEmpty = true ↔ before.Matches after) ∧
        ((between after before).isEmpty = true ↔ before.Matches after) ∧
        (∀ name, Migration.between? name before after = .ok none ↔ before.Matches after) ∧
        (between before after).Differences before after := by
  refine ⟨Schema.matches_equivalence, fun before after hbefore hafter => ?_⟩
  have forth := isEmpty_iff_matches hbefore hafter
  have back : (between after before).isEmpty = true ↔ before.Matches after :=
    (isEmpty_iff_matches hafter hbefore).trans
      ⟨Schema.matches_equivalence.symm, Schema.matches_equivalence.symm⟩
  refine ⟨forth, back, fun name => ?_, differences_between hbefore hafter⟩
  rw [Migration.between?_eq_none_iff, forth, back, and_self]

end SchemaPatch

namespace Shop

/-- The two shops do not match in either direction: between them tables come, change and go, and of
the users only the columns that differ are edited. -/
theorem between_says_differences_shop :
    (before.WellKeyed ∧ after.WellKeyed) ∧ ¬ before.Matches after ∧
      Migration.between? "shop" before after ≠ .ok none ∧
      (SchemaPatch.between before after).Differences before after := by
  obtain ⟨forth, _, migration, differences⟩ :=
    SchemaPatch.between_says_differences.2 before after wellKeyed_before wellKeyed_after
  have differ : ¬ before.Matches after := fun h => absurd (forth.mpr h) (by decide)
  exact ⟨⟨wellKeyed_before, wellKeyed_after⟩, differ, fun h => differ ((migration _).mp h),
    differences⟩

end Shop

end SchemaEvolution
