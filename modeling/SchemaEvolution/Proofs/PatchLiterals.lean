import SchemaEvolution.Proofs.Compiling
import SchemaEvolution.Proofs.Documents
import SchemaEvolution.Proofs.SchemaReplay

/-!
# What patches hold literally

A patch holds no value literally that neither of its schemas holds (`SchemaPatch.literals_between`),
and so neither does the migration between them (`Migration.literals_of_between?`): what is true of
the values in the schemas is true of those in the migration.
-/

namespace SchemaEvolution

/-- What all parts of a list hold holds what the list holds. -/
theorem flatMap_subset {α β : Type} {l : List α} {f : α → List β} {r : List β}
    (h : ∀ a ∈ l, f a ⊆ r) : l.flatMap f ⊆ r := fun _ hb =>
  have ⟨a, ha, hb⟩ := List.mem_flatMap.mp hb
  h a ha hb

/-! ## Columns -/

theorem FieldEdit.of_default_mem_between {c d : Column} {before after : Option ColumnDefault}
    (h : .default before after ∈ between c d) : before = c.default? ∧ after = d.default? := by
  unfold between at h
  simp only [List.mem_append, List.mem_ite_nil_left, List.mem_ite_nil_right,
    List.mem_singleton, reduceCtorEq, and_false, or_false, false_or] at h
  cases h.2
  exact ⟨rfl, rfl⟩

/-- Only the edit of a default holds something, and that is what the columns hold. -/
theorem FieldEdit.literals_between {c d : Column} {e : FieldEdit} (he : e ∈ between c d) :
    e.literals ⊆ c.literals ++ d.literals := by
  cases e with
  | default before after =>
    obtain ⟨rfl, rfl⟩ := of_default_mem_between he
    exact List.Subset.refl _
  | _ => exact List.nil_subset _

theorem Table.literals_of_find? {t : Table} {n : String} {c : Column}
    (h : t.columns.find? n = some c) : c.literals ⊆ t.literals :=
  fun _ hv => List.mem_flatMap.mpr ⟨_, NameMap.find?_eq_some_iff.mp h, hv⟩

theorem ColumnEdit.literals_between {t u : Table} (keyed : u.WellKeyed) {e : ColumnEdit}
    (he : e ∈ between t u) : e.literals ⊆ t.literals ++ u.literals := by
  have hunder := (mem_between_iff keyed).mp he
  generalize e.name = n at hunder
  unfold under at hunder
  split at hunder
  next => cases hunder
  next column _ after =>
    cases hunder
    exact List.subset_append_of_subset_right _ (Table.literals_of_find? after)
  next previous before _ =>
    cases hunder
    exact List.subset_append_of_subset_left _ (Table.literals_of_find? before)
  next previous column before after =>
    split at hunder <;> cases hunder
    have old := Table.literals_of_find? before
    have new := Table.literals_of_find? after
    refine List.append_subset.mpr ⟨List.subset_append_of_subset_right _ new, ?_⟩
    refine flatMap_subset fun edit hedit => ?_
    exact List.Subset.trans (FieldEdit.literals_between hedit) (List.append_subset.mpr
      ⟨List.subset_append_of_subset_left _ old, List.subset_append_of_subset_right _ new⟩)

/-! ## Schemas -/

theorem Schema.literals_of_find? {s : Schema} {n : String} {t : Table}
    (h : s.tables.find? n = some t) : t.literals ⊆ s.literals :=
  fun _ hv => List.mem_flatMap.mpr ⟨_, NameMap.find?_eq_some_iff.mp h, hv⟩

/-- **A patch holds what its schemas hold, and nothing else.** -/
theorem SchemaPatch.literals_between {before after : Schema} (hbefore : before.WellKeyed)
    (hafter : after.WellKeyed) :
    (between before after).literals ⊆ before.literals ++ after.literals := by
  refine flatMap_subset fun a ha => ?_
  have hunder := (mem_actions_iff hbefore hafter).mp ha
  unfold TableAction.under at hunder
  split at hunder
  next => cases hunder
  next t _ new =>
    cases hunder
    exact List.subset_append_of_subset_right _ (Schema.literals_of_find? new)
  next t old _ =>
    cases hunder
    exact List.subset_append_of_subset_left _ (Schema.literals_of_find? old)
  next t u old new =>
    obtain ⟨e, he, rfl⟩ := Option.map_eq_some_iff.mp hunder
    obtain rfl := TableEdit.between_eq_some he
    refine flatMap_subset fun edit hedit => ?_
    have held := ColumnEdit.literals_between (hafter.of_find? new) hedit
    exact List.Subset.trans held (List.append_subset.mpr
      ⟨List.subset_append_of_subset_left _ (Schema.literals_of_find? old),
        List.subset_append_of_subset_right _ (Schema.literals_of_find? new)⟩)

/-! ## Migrations -/

/-- What the migration between two schemas consists of, but for its statements. -/
theorem Migration.of_between?_eq_some {name : String} {baseline current : Schema} {m : Migration}
    (h : between? name baseline current = .ok (some m)) :
    m.format = currentFormat ∧ m.up = .between baseline current ∧
      m.down = .between current baseline := by
  unfold between? at h
  dsimp only at h
  split at h
  next => cases h
  next =>
    obtain ⟨_, _, h⟩ := bind_eq_ok.mp h
    obtain ⟨_, _, h⟩ := bind_eq_ok.mp h
    cases h
    exact ⟨rfl, rfl, rfl⟩

theorem Migration.literals_of_between? {name : String} {baseline current : Schema}
    (hbaseline : baseline.WellKeyed) (hcurrent : current.WellKeyed) {m : Migration}
    (h : between? name baseline current = .ok (some m)) :
    m.literals ⊆ baseline.literals ++ current.literals := by
  obtain ⟨-, up, down⟩ := of_between?_eq_some h
  rw [literals, up, down]
  refine List.append_subset.mpr ⟨SchemaPatch.literals_between hbaseline hcurrent, ?_⟩
  refine List.Subset.trans (SchemaPatch.literals_between hcurrent hbaseline) ?_
  exact List.append_subset.mpr ⟨List.subset_append_right _ _, List.subset_append_left _ _⟩

end SchemaEvolution
