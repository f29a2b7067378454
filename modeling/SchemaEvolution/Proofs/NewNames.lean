import SchemaEvolution.Proofs.Expressible

/-!
# Names that a change brings

Whether two indexes of a table have one name is looked at when the table is created, and not when it
is changed. So a change that compiles can lead to a table that could not have been created
(`Shop.not_createable_doubled`).

In a table that passes the check, what stays does not clash with what stays. A clash in the changed
table is therefore one with something that the change brings: an index that the table did not have
as it is, a column that was not unique, or an index listed once more. Where no new name is taken
twice (`Table.NewNamesApart`), and only there, the changed table passes the check as well, and what
a patch leads to can be created from nothing (`SchemaPatch.createable_after_iff`).
-/

namespace SchemaEvolution

namespace Table

variable {t u : Table}

/-- Nothing that a table has and an earlier version of it had not takes a name that is taken there
by something else. -/
structure NewNamesApart (t u : Table) : Prop where
  /-- No index is listed twice. -/
  listedOnce : u.indexes.Nodup
  /-- An index that is new has a name that no other index has. -/
  indexes : ∀ i ∈ u.indexes, i ∉ t.indexes → ∀ j ∈ u.indexes, i ≠ j →
    i.nameIn u.name ≠ j.nameIn u.name
  /-- An index has the name that keeps a column unique only if both were so before. -/
  uniques : ∀ i ∈ u.indexes, ∀ c, u.isUnique c = true →
    i ∉ t.indexes ∨ t.isUnique c = false → i.nameIn u.name ≠ uniqueName u.name c

/-- No index of a well-keyed table has a name that keeps a column unique, said column by column. -/
theorem forall_not_mem_uniqueNames_iff (keyed : t.WellKeyed) :
    (∀ n ∈ t.indexNames, n ∉ t.uniqueNames) ↔
      ∀ i ∈ t.indexes, ∀ c, t.isUnique c = true → i.nameIn t.name ≠ uniqueName t.name c := by
  rw [indexNames, List.forall_mem_map]
  refine forall₂_congr fun i _ => ?_
  simp only [uniqueNames, List.mem_map, mem_uniqueColumns keyed, not_exists, not_and, ne_eq,
    eq_comm (a := i.nameIn t.name)]

/-- In the new version of a table whose names were apart, the names are apart if the new ones
are. -/
theorem checkIndexNames_iff_newNamesApart {d : Dialect} (ht : t.WellKeyed) (hu : u.WellKeyed)
    (hname : t.name = u.name) (checked : t.checkIndexNames d = .ok ()) :
    u.checkIndexNames d = .ok () ↔ t.NewNamesApart u := by
  obtain ⟨nodup, apart⟩ := checkIndexNames_eq_ok_iff.mp checked
  rw [forall_not_mem_uniqueNames_iff ht, hname] at apart
  rw [indexNames, hname] at nodup
  rw [checkIndexNames_eq_ok_iff, forall_not_mem_uniqueNames_iff hu, indexNames]
  constructor
  · rintro ⟨nodup', apart'⟩
    exact {
      listedOnce := nodup'.of_map
      indexes := fun i hi _ j hj hne heq => hne (List.inj_on_of_nodup_map nodup' hi hj heq)
      uniques := fun i hi c hc _ => apart' i hi c hc }
  · intro h
    refine ⟨List.Nodup.map_on (fun i hi j hj heq => ?_) h.listedOnce, fun i hi c hc => ?_⟩
    · by_contra hne
      by_cases hit : i ∈ t.indexes
      · by_cases hjt : j ∈ t.indexes
        · exact hne (List.inj_on_of_nodup_map nodup hit hjt heq)
        · exact h.indexes j hj hjt i hi (Ne.symm hne) heq.symm
      · exact h.indexes i hi hit j hj hne heq
    · by_cases hold : i ∈ t.indexes ∧ t.isUnique c = true
      · exact apart i hold.1 c hold.2
      · rw [not_and_or, Bool.not_eq_true] at hold
        exact h.uniques i hi c hc hold

end Table

/-- A schema can be created from nothing exactly if each of its tables passes the check of its index
names. -/
theorem Schema.exists_compile_eq_ok {s : Schema} {d : Dialect} (keyed : s.WellKeyed) :
    (∃ c, s.compile d = .ok c) ↔
      ∀ n t, s.tables.find? n = some t → t.checkIndexNames d = .ok () := by
  have nothing : Schema.WellKeyed ⟨s.version, .empty⟩ := by
    intro e he
    cases he
  rw [compile, creation, SchemaPatch.compiles_iff_expressible nothing keyed]
  exact ⟨fun h n t => h.added n t rfl, fun h => ⟨fun n t _ => h n t, fun _ _ _ _ => nofun⟩⟩

/-- **What a patch leads to can be created exactly if no table that stays takes a new name twice.**
Let a schema compile, and the patch that leads from it to another. Then the other compiles if and
only if, in each table that both have, what is new takes no name that is taken. -/
theorem SchemaPatch.createable_after_iff {before after : Schema} {d : Dialect}
    (hbefore : before.WellKeyed) (hafter : after.WellKeyed) {c c' : Compilation}
    (created : before.compile d = .ok c) (changed : (between before after).compile d = .ok c') :
    (∃ r, after.compile d = .ok r) ↔
      ∀ n t u, before.tables.find? n = some t → after.tables.find? n = some u →
        t.NewNamesApart u := by
  have checked := (Schema.exists_compile_eq_ok hbefore).mp ⟨c, created⟩
  have expressible := (compiles_iff_expressible hbefore hafter).mp ⟨c', changed⟩
  have kept : ∀ n t u, before.tables.find? n = some t → after.tables.find? n = some u →
      (u.checkIndexNames d = .ok () ↔ t.NewNamesApart u) := by
    intro n t u ht hu
    have hname : t.name = u.name := (hbefore.name_of_find? ht).trans (hafter.name_of_find? hu).symm
    exact Table.checkIndexNames_iff_newNamesApart (hbefore.of_find? ht) (hafter.of_find? hu) hname
      (checked n t ht)
  rw [Schema.exists_compile_eq_ok hafter]
  constructor
  · exact fun h n t u ht hu => (kept n t u ht hu).mp (h n u hu)
  · intro h n u hu
    cases ht : before.tables.find? n with
    | none => exact expressible.added n u ht hu
    | some t => exact (kept n t u ht hu).mpr (h n t u ht hu)

namespace Shop

/-- Users, each with a code of their own. -/
def members : Table :=
  (numbered "users").withColumn (number "code").withUnique

/-- A schema of one table. -/
def registry (t : Table) : Schema :=
  Schema.empty.withTable t

theorem wellKeyed_members : members.WellKeyed :=
  (wellKeyed_numbered _).withColumn _

theorem wellKeyed_registry {t : Table} (h : t.WellKeyed) : (registry t).WellKeyed :=
  Schema.WellKeyed.empty.withTable h

/-- An index that bears a name of its own is new and clashes with nothing. -/
theorem createable_after_listed :
    let listed := members.withIndex ⟨some "users_by_code", ["code"], false⟩
    ((registry members).WellKeyed ∧ (registry listed).WellKeyed) ∧
      (∃ c c', (registry members).compile .spanner = .ok c ∧
        (SchemaPatch.between (registry members) (registry listed)).compile .spanner = .ok c') ∧
      members.NewNamesApart listed := by
  intro listed
  have created : ∃ c, (registry members).compile .spanner = .ok c := ⟨_, rfl⟩
  have changed : ∃ c, (SchemaPatch.between (registry members) (registry listed)).compile .spanner =
      .ok c := ⟨_, rfl⟩
  have createable : ∃ r, (registry listed).compile .spanner = .ok r := ⟨_, rfl⟩
  obtain ⟨c, hc⟩ := created
  obtain ⟨c', hc'⟩ := changed
  have keyed : (registry members).WellKeyed := wellKeyed_registry wellKeyed_members
  have keyed' : (registry listed).WellKeyed := wellKeyed_registry (wellKeyed_members.withIndex _)
  exact ⟨⟨keyed, keyed'⟩, ⟨c, c', hc, hc'⟩,
    (SchemaPatch.createable_after_iff keyed keyed' hc hc').mp createable "users" _ _ rfl rfl⟩

/-- Each dialect adds an index under the name that keeps the codes unique, and then refuses to
create the table with it. -/
theorem not_createable_doubled :
    let doubled := members.withIndex ⟨none, ["code"], true⟩
    ((registry members).WellKeyed ∧ (registry doubled).WellKeyed) ∧
      ∀ d, (∃ c, (registry members).compile d = .ok c) ∧
        (SchemaPatch.between (registry members) (registry doubled)).compile d =
          .ok ⟨d, [[.createIndex ⟨"users_code_key", "users", ["code"], true⟩]], []⟩ ∧
        (registry doubled).compile d =
          .error ⟨d, "users", .indexNamedAsUnique "users_code_key" "code"⟩ := by
  refine ⟨⟨wellKeyed_registry wellKeyed_members,
    wellKeyed_registry (wellKeyed_members.withIndex _)⟩, fun d => ?_⟩
  cases d <;> exact ⟨⟨_, rfl⟩, rfl, rfl⟩

end Shop

end SchemaEvolution
