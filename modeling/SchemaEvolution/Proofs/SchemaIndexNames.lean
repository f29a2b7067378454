import Mathlib.Data.List.Pairwise
import SchemaEvolution.Proofs.Creation
import SchemaEvolution.Proofs.NewNames

/-!
# Names of indexes across a schema

An index that has no name of its own is given one that is made of its table and its columns, and so
is the index that keeps a column unique. A table is checked to give no name twice, but not against
other tables, and the parts of a name are joined by an underscore, which may stand in the parts too:
a table `user` with a unique column `role_name` and a table `user_role` with a unique column `name`
both give the name `user_role_name_key`.

That is the only way in which a schema can give a name twice (`Schema.nodup_createdNames_iff`). One
of the two tables has to be called like the other one with an underscore and more behind it, and the
columns of an index of the other one have to begin with what is more.
-/

namespace SchemaEvolution

/-! ## Names that are given -/

/-- What a name that is given to an index says besides its table. -/
structure IndexLabel where
  columns : String
  unique : Bool

namespace IndexLabel

/-- The name that is given to an index of a table. -/
def nameIn (l : IndexLabel) (table : String) : String :=
  table ++ "_" ++ l.columns ++ "_" ++ (if l.unique then "key" else "idx")

/-- The label of an index on the same columns with some text before them. -/
def behind (l : IndexLabel) (text : String) : IndexLabel :=
  ⟨text ++ "_" ++ l.columns, l.unique⟩

theorem nameIn_unique (column table : String) :
    nameIn ⟨column, true⟩ table = uniqueName table column := by
  rw [nameIn, String.append_assoc]
  rfl

theorem nameIn_behind (l : IndexLabel) (table text : String) :
    (l.behind text).nameIn table = l.nameIn (table ++ "_" ++ text) := by
  simp only [nameIn, behind, String.append_assoc]

end IndexLabel

/-- Where a joined text begins with a part of another one, the two parts are the same or the part
goes on behind an underscore. -/
private theorem joined_of_append {a b x y : String} {more : List Char}
    (hb : b.toList = a.toList ++ more) (hx : '_' :: x.toList = more ++ '_' :: y.toList) :
    (a = b ∧ x = y) ∨ ∃ rest, b = a ++ "_" ++ rest ∧ x = rest ++ "_" ++ y := by
  cases more with
  | nil =>
    rw [List.append_nil] at hb
    exact .inl ⟨String.toList_inj.mp hb.symm, String.toList_inj.mp (List.cons.inj hx).2⟩
  | cons c rest =>
    obtain ⟨rfl, hx⟩ := List.cons.inj hx
    refine .inr ⟨.ofList rest, String.toList_inj.mp ?_, String.toList_inj.mp ?_⟩
    · simpa [String.toList_append] using hb
    · simpa [String.toList_append] using hx

/-- Texts that are joined to one text are the same, or one of the first parts goes on where the
other one ends. -/
theorem joined_eq_iff {a b x y : String} :
    a ++ "_" ++ x = b ++ "_" ++ y ↔ (a = b ∧ x = y) ∨
      (∃ rest, b = a ++ "_" ++ rest ∧ x = rest ++ "_" ++ y) ∨
      ∃ rest, a = b ++ "_" ++ rest ∧ y = rest ++ "_" ++ x := by
  constructor
  · intro h
    have parts : a.toList ++ '_' :: x.toList = b.toList ++ '_' :: y.toList := by
      simpa [String.toList_append] using congrArg String.toList h
    obtain ⟨more, hb, hx⟩ | ⟨more, ha, hy⟩ := List.append_eq_append_iff.mp parts
    · exact (joined_of_append hb hx).imp_right .inl
    · obtain ⟨rfl, rfl⟩ | further := joined_of_append ha hy
      · exact .inl ⟨rfl, rfl⟩
      · exact .inr (.inr further)
  · rintro (⟨rfl, rfl⟩ | ⟨rest, rfl, rfl⟩ | ⟨rest, rfl, rfl⟩)
    · rfl
    · simp only [String.append_assoc]
    · simp only [String.append_assoc]

/-- Of two names that end in texts of one length, the endings and what is before them are compared
apart. -/
private theorem ending_eq_iff {a b e f : String} (length : e.length = f.length) :
    a ++ e = b ++ f ↔ a = b ∧ e = f := by
  refine ⟨fun h => ?_, fun ⟨ha, he⟩ => ha ▸ he ▸ rfl⟩
  have parts : a.toList ++ e.toList = b.toList ++ f.toList := by
    rw [← String.toList_append, h, String.toList_append]
  obtain ⟨ha, he⟩ := List.append_inj' parts length
  exact ⟨String.toList_inj.mp ha, String.toList_inj.mp he⟩

theorem IndexLabel.nameIn_eq_iff {a b : String} {l m : IndexLabel} :
    l.nameIn a = m.nameIn b ↔ (a = b ∧ l = m) ∨
      (∃ rest, b = a ++ "_" ++ rest ∧ l = m.behind rest) ∨
      ∃ rest, a = b ++ "_" ++ rest ∧ m = l.behind rest := by
  obtain ⟨x, u⟩ := l
  obtain ⟨y, v⟩ := m
  have kind : (if u then "key" else "idx") = (if v then "key" else "idx") ↔ u = v := by
    cases u <;> cases v <;> decide
  have parts : (IndexLabel.mk x u).nameIn a = (IndexLabel.mk y v).nameIn b ↔
      a ++ "_" ++ x = b ++ "_" ++ y ∧ u = v := by
    have length : (if u then "key" else "idx").length = (if v then "key" else "idx").length := by
      cases u <;> cases v <;> decide
    rw [nameIn, nameIn, ending_eq_iff length, String.append_left_inj, kind]
  rw [parts, joined_eq_iff]
  constructor
  · rintro ⟨⟨rfl, rfl⟩ | ⟨rest, rfl, rfl⟩ | ⟨rest, rfl, rfl⟩, rfl⟩
    · exact .inl ⟨rfl, rfl⟩
    · exact .inr (.inl ⟨rest, rfl, rfl⟩)
    · exact .inr (.inr ⟨rest, rfl, rfl⟩)
  · rintro (⟨rfl, same⟩ | ⟨rest, rfl, same⟩ | ⟨rest, rfl, same⟩) <;> cases same
    · exact ⟨.inl ⟨rfl, rfl⟩, rfl⟩
    · exact ⟨.inr (.inl ⟨rest, rfl, rfl⟩), rfl⟩
    · exact ⟨.inr (.inr ⟨rest, rfl, rfl⟩), rfl⟩

namespace Table

variable {t : Table}

/-- The labels of the indexes that a table is created with, those of unique columns first. -/
def indexLabels (t : Table) : List IndexLabel :=
  (Ddl.Spanner.uniqueColumns t).map (⟨·, true⟩) ++
    t.indexes.map fun i => ⟨"_".intercalate i.columns, i.unique⟩

/-- The names that are given to the indexes of a table. -/
def givenNames (t : Table) : List String :=
  t.indexLabels.map (·.nameIn t.name)

/-- One table gives the name of an index to one of its own that another table gives too: the other
table is called like it with an underscore and more behind it, and its own columns begin with
that. -/
def SharesName (t u : Table) : Prop :=
  ∃ rest, u.name = t.name ++ "_" ++ rest ∧ ∃ l ∈ u.indexLabels, l.behind rest ∈ t.indexLabels

theorem uniqueNames_append_indexNames (unnamed : ∀ i ∈ t.indexes, i.name = none) :
    t.uniqueNames ++ t.indexNames = t.givenNames := by
  have indexes : t.indexNames = t.indexes.map fun i =>
      IndexLabel.nameIn ⟨"_".intercalate i.columns, i.unique⟩ t.name := by
    refine List.map_congr_left fun i hi => ?_
    rw [Index.nameIn, unnamed i hi]
    rfl
  have uniques : t.uniqueNames =
      (Ddl.Spanner.uniqueColumns t).map fun n => IndexLabel.nameIn ⟨n, true⟩ t.name :=
    List.map_congr_left fun n _ => (IndexLabel.nameIn_unique n t.name).symm
  rw [givenNames, indexLabels, List.map_append, List.map_map, List.map_map, indexes, uniques]
  rfl

end Table

/-! ## The names that a schema gives -/

namespace Ddl

/-- A table that can be created gives no name twice. -/
theorem nodup_names_of_createTable {t : Table} (keyed : t.WellKeyed) {e : Emission}
    (h : createTable .spanner t = .ok e) :
    createdNames e.statements = t.uniqueNames ++ t.indexNames ∧
      (t.uniqueNames ++ t.indexNames).Nodup := by
  obtain ⟨checked, hstatements⟩ := createTable_eq_ok h
  obtain ⟨distinct, apart⟩ := Table.checkIndexNames_eq_ok_iff.mp checked
  constructor
  · have uniques : createdNames (createUniques .spanner t) = t.uniqueNames := by
      rw [createUniques, createdNames, List.filterMap_map, Table.uniqueNames,
        ← List.filterMap_eq_map]
      rfl
    rw [hstatements, ← uniques, ← createdNames_map_createIndex, ← createdNames_append]
    rfl
  · exact List.nodup_append'.mpr ⟨Table.nodup_uniqueNames keyed, distinct,
      fun n hunique hindex => apart n hindex hunique⟩

end Ddl

namespace Schema

variable {s : Schema}

theorem tablesMissingFrom_empty (s : Schema) (version : String) :
    s.tablesMissingFrom ⟨version, .empty⟩ = s.tables.values :=
  congrArg (List.map Prod.snd) (List.filter_eq_self.mpr fun _ _ => rfl)

theorem nodup_names_values (keyed : s.WellKeyed) : (s.tables.values.map (·.name)).Nodup := by
  rw [← s.tablesMissingFrom_empty s.version]
  exact nodup_names_tablesMissingFrom keyed _

theorem actions_creation (s : Schema) :
    s.creation.actions = (creationOrder s.tables.values).map .add := by
  rw [creation, SchemaPatch.between, tablesMissingFrom_empty]
  exact (List.append_nil _).trans (List.append_nil _)

/-- A schema whose indexes have no names of their own is created with the indexes of its tables,
under the names that are given to them. No table gives a name twice. -/
theorem createdNames_perm (keyed : s.WellKeyed)
    (unnamed : ∀ t ∈ s.tables.values, ∀ i ∈ t.indexes, i.name = none) {c : Compilation}
    (h : s.compile .spanner = .ok c) :
    (createdNames c.statements).Perm (s.tables.values.flatMap Table.givenNames) ∧
      ∀ t ∈ s.tables.values, t.givenNames.Nodup := by
  have order := creationOrder_perm (nodup_names_values keyed)
  have created : ∀ t ∈ s.tables.values, ∃ e, Ddl.createTable .spanner t = .ok e := by
    intro t ht
    refine SchemaPatch.exists_compile_eq_ok.mp ⟨c, h⟩ (.add t) ?_
    rw [actions_creation]
    exact List.mem_map_of_mem (order.mem_iff.mpr ht)
  have names : ∀ t ∈ s.tables.values,
      createdNames (Ddl.statementsOf (Ddl.createTable .spanner t)) = t.givenNames ∧
        t.givenNames.Nodup := by
    intro t ht
    obtain ⟨e, he⟩ := created t ht
    obtain ⟨n, hn⟩ := NameMap.mem_values.mp ht
    rw [← Table.uniqueNames_append_indexNames (unnamed t ht), he]
    exact Ddl.nodup_names_of_createTable (keyed.of_find? hn) he
  refine ⟨?_, fun t ht => (names t ht).2⟩
  rw [SchemaPatch.statements_of_compile h, actions_creation, List.flatMap_map, createdNames,
    List.filterMap_flatMap]
  refine (order.flatMap_right _).trans (.of_eq ?_)
  exact List.flatMap_congr fun t ht => (names t ht).1

/-- **A schema gives the name of an index twice exactly if two of its tables share one.** -/
theorem nodup_createdNames_iff (keyed : s.WellKeyed)
    (unnamed : ∀ t ∈ s.tables.values, ∀ i ∈ t.indexes, i.name = none) {c : Compilation}
    (h : s.compile .spanner = .ok c) :
    (createdNames c.statements).Nodup ↔
      ∀ t ∈ s.tables.values, ∀ u ∈ s.tables.values, ¬ t.SharesName u := by
  obtain ⟨names, once⟩ := createdNames_perm keyed unnamed h
  have distinct := nodup_names_values keyed
  rw [names.nodup_iff, List.nodup_flatMap]
  constructor
  · rintro ⟨-, apart⟩ t ht u hu ⟨rest, hname, l, hl, hbehind⟩
    have symmetric : Std.Symm (Function.onFun List.Disjoint Table.givenNames) :=
      ⟨fun _ _ => List.Disjoint.symm⟩
    have other : t ≠ u := by
      rintro rfl
      have length := congrArg String.length hname
      rw [String.length_append, String.length_append] at length
      have : "_".length = 1 := rfl
      omega
    refine apart.forall ht hu other (List.mem_map_of_mem hbehind) ?_
    rw [IndexLabel.nameIn_behind, ← hname]
    exact List.mem_map_of_mem hl
  · intro apart
    refine ⟨once, (List.Nodup.of_map _ distinct).pairwise_of_forall_ne ?_⟩
    intro t ht u hu other n hn hn'
    obtain ⟨l, hl, rfl⟩ := List.mem_map.mp hn
    obtain ⟨m, hm, same⟩ := List.mem_map.mp hn'
    obtain ⟨hname, -⟩ | ⟨rest, hname, rfl⟩ | ⟨rest, hname, rfl⟩ := IndexLabel.nameIn_eq_iff.mp same
    · exact other (List.inj_on_of_nodup_map distinct ht hu hname.symm)
    · exact apart u hu t ht ⟨rest, hname, l, hl, hm⟩
    · exact apart t ht u hu ⟨rest, hname, m, hm, hl⟩

end Schema

namespace Shop

/-- Users that are listed by the names of their roles. -/
def listedByRole : Table :=
  ((numbered "user").withColumn (number "role_name")).withIndex ⟨none, ["role_name"], false⟩

/-- Users of whom no two have a role of one name. -/
def uniqueByRole : Table :=
  (numbered "user").withColumn (number "role_name").withUnique

/-- The roles of users, of which no two have one name. -/
def userRoles : Table :=
  (numbered "user_role").withColumn (number "name").withUnique

theorem wellKeyed_withRoles {t : Table} (h : t.WellKeyed) :
    ((registry t).withTable userRoles).WellKeyed :=
  (wellKeyed_registry h).withTable ((wellKeyed_numbered _).withColumn _)

/-- The two names differ in what they end in, so no two tables share one. -/
theorem nodup_createdNames_listedByRole :
    let s := (registry listedByRole).withTable userRoles
    (s.WellKeyed ∧ ∀ t ∈ s.tables.values, ∀ i ∈ t.indexes, i.name = none) ∧
      ∃ c, s.compile .spanner = .ok c ∧
        createdNames c.statements = ["user_role_name_idx", "user_role_name_key"] ∧
        ∀ t ∈ s.tables.values, ∀ u ∈ s.tables.values, ¬ t.SharesName u := by
  intro s
  have keyed : s.WellKeyed :=
    wellKeyed_withRoles (((wellKeyed_numbered _).withColumn _).withIndex _)
  have unnamed : ∀ t ∈ s.tables.values, ∀ i ∈ t.indexes, i.name = none := by decide
  exact ⟨⟨keyed, unnamed⟩, _, rfl, by decide,
    (Schema.nodup_createdNames_iff keyed unnamed rfl).mp (by decide)⟩

/-- **Two tables that share a name.** Each of them passes the check of its index names, and the
schema is created with one name for two indexes. -/
theorem uniqueByRole_sharesName :
    let s := (registry uniqueByRole).withTable userRoles
    (s.WellKeyed ∧ (∀ t ∈ s.tables.values, t.name ≠ "" ∧ ∀ c ∈ t.columns.values, c.name ≠ "") ∧
        ∀ t ∈ s.tables.values, ∀ i ∈ t.indexes, i.name = none) ∧
      ∃ c, s.compile .spanner = .ok c ∧
        createdNames c.statements = ["user_role_name_key", "user_role_name_key"] ∧
        ¬ (createdNames c.statements).Nodup := by
  intro s
  have keyed : s.WellKeyed := wellKeyed_withRoles ((wellKeyed_numbered _).withColumn _)
  exact ⟨⟨keyed, by decide, by decide⟩, _, rfl, by decide, by decide⟩

end Shop

end SchemaEvolution
