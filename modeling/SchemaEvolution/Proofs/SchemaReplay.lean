import SchemaEvolution.Proofs.CreationOrder
import SchemaEvolution.Proofs.TableReplay

/-!
# Where a patch leads

The patch between two schemas has at most one action on the table of each name, the one that the
two tables of that name call for (`TableAction.under`, `SchemaPatch.filter_actions`), and its
actions stand in the order that `TableAction.MayPrecede` describes (`SchemaPatch.pairwise_actions`).
Carried out on the first schema, it gives one that matches the second
(`SchemaPatch.replay_matches`).
-/

namespace SchemaEvolution

/-! ## Tables that only one schema has -/

namespace Schema

variable {s : Schema}

theorem find?_of_mem_tablesMissingFrom (keyed : s.WellKeyed) (other : Schema) {t : Table}
    (h : t ∈ s.tablesMissingFrom other) : s.tables.find? t.name = some t := by
  obtain ⟨e, he, rfl⟩ := List.mem_map.mp h
  have hmem := (List.mem_filter.mp he).1
  rw [(keyed e hmem).1]
  exact NameMap.find?_of_mem hmem

theorem nodup_names_tablesMissingFrom (keyed : s.WellKeyed) (other : Schema) :
    ((s.tablesMissingFrom other).map (·.name)).Nodup := by
  have names : (s.tablesMissingFrom other).map (·.name) =
      (s.tables.entries.filter fun e => !other.tables.contains e.1).map Prod.fst := by
    rw [tablesMissingFrom, List.map_map]
    exact List.map_congr_left fun e he => (keyed e (List.mem_filter.mp he).1).1
  rw [names]
  exact s.tables.nodup_names.sublist (List.filter_sublist.map _)

/-- Of the tables that another schema has not, at most one has a given name. -/
theorem filter_creationOrder_tablesMissingFrom (keyed : s.WellKeyed) (other : Schema)
    (n : String) :
    (creationOrder (s.tablesMissingFrom other)).filter (·.name = n) =
      ((s.tables.find? n).bind fun t =>
        if other.tables.contains n then none else some t).toList := by
  have missing : s.tablesMissingFrom other =
      s.tables.entries.filterMap fun e =>
        if other.tables.contains e.1 then none else some e.2 := by
    rw [tablesMissingFrom, ← List.filterMap_eq_map, ← List.filterMap_eq_filter,
      List.filterMap_filterMap]
    refine List.filterMap_congr fun e _ => ?_
    cases hc : other.tables.contains e.1 <;> simp [Option.guard, hc]
  have perm := (creationOrder_perm (nodup_names_tablesMissingFrom keyed other)).filter
    (·.name = n)
  have filtered : (s.tablesMissingFrom other).filter (·.name = n) =
      ((s.tables.find? n).bind fun t =>
        if other.tables.contains n then none else some t).toList := by
    rw [missing, NameMap.filter_filterMap_entries Table.name]
    intro e he t ht
    split at ht <;> cases ht
    exact (keyed e he).1
  rw [filtered] at perm
  cases h : (s.tables.find? n).bind fun t =>
      if other.tables.contains n then none else some t with
  | none =>
    rw [h] at perm
    exact perm.eq_nil
  | some t =>
    rw [h] at perm
    exact List.perm_singleton.mp perm

end Schema

/-! ## One action for each name -/

namespace TableAction

/-- The action on the table of one name, if there is one. -/
def under (before after : Schema) (n : String) : Option TableAction :=
  match before.tables.find? n, after.tables.find? n with
  | none, none => none
  | none, some t => some (.add t)
  | some t, none => some (.remove t.name t)
  | some t, some u => (TableEdit.between t u).map .change

/-- What the action on the table of a name can be, and which of the schemas then have the table. -/
theorem under_cases {before after : Schema} (hafter : after.WellKeyed) {n : String}
    {a : TableAction} (h : under before after n = some a) :
    (∃ t, a = .add t ∧ before.tables.find? n = none ∧ after.tables.find? n = some t) ∨
    (∃ e t u, a = .change e ∧ e.name = n ∧
      before.tables.find? n = some t ∧ after.tables.find? n = some u) ∨
    (∃ t, a = .remove t.name t ∧
      before.tables.find? n = some t ∧ after.tables.find? n = none) := by
  unfold under at h
  split at h
  · cases h
  · rename_i t hb ha
    exact .inl ⟨t, (Option.some.inj h).symm, hb, ha⟩
  · rename_i t hb ha
    exact .inr (.inr ⟨t, (Option.some.inj h).symm, hb, ha⟩)
  · rename_i t u hb ha
    obtain ⟨e, he, rfl⟩ := Option.map_eq_some_iff.mp h
    have hname := (TableEdit.name_of_between he).trans (hafter.name_of_find? ha)
    exact .inr (.inl ⟨e, t, u, rfl, hname, hb, ha⟩)

theorem tableName_of_under {before after : Schema} (hbefore : before.WellKeyed)
    (hafter : after.WellKeyed) {n : String} {a : TableAction}
    (h : under before after n = some a) : a.tableName = n := by
  rcases under_cases hafter h with ⟨t, rfl, _, ht⟩ | ⟨e, _, _, rfl, he, _⟩ | ⟨t, rfl, ht, _⟩
  · exact hafter.name_of_find? ht
  · exact he
  · exact hbefore.name_of_find? ht

/-- **The action on a table makes of it one that matches the table it leads to.** -/
theorem effect_under_matches {before after : Schema} (hbefore : before.WellKeyed)
    (hafter : after.WellKeyed) (n : String) :
    Option.Rel Table.Matches
      ((under before after n).toList.foldl (fun t a => a.effect t) (before.tables.find? n))
      (after.tables.find? n) := by
  unfold under
  cases hb : before.tables.find? n with
  | none =>
    cases ha : after.tables.find? n with
    | none => exact .none
    | some u => exact .some (.refl u)
  | some t =>
    cases ha : after.tables.find? n with
    | none => exact .none
    | some u =>
      have hname : t.name = u.name :=
        (hbefore.name_of_find? hb).trans (hafter.name_of_find? ha).symm
      have ht := hbefore.of_find? hb
      have hu := hafter.of_find? ha
      dsimp only
      cases he : TableEdit.between t u with
      | none => exact .some (TableEdit.matches_of_between_eq_none ht hu hname he)
      | some e => exact .some (TableEdit.apply_matches ht hu hname he)

end TableAction

namespace SchemaPatch

variable {before after : Schema}

/-- **The actions of a patch, name by name**: on each table there is the one that the two tables of
its name call for. -/
theorem filter_actions (hbefore : before.WellKeyed) (hafter : after.WellKeyed) (n : String) :
    (between before after).actions.filter (·.tableName = n) =
      (TableAction.under before after n).toList := by
  have added : ∀ l : List Table, (l.map TableAction.add).filter (·.tableName = n) =
      (l.filter (·.name = n)).map TableAction.add := fun l => List.filter_map
  have removed : ∀ l : List Table, (l.map fun t => TableAction.remove t.name t).filter
      (·.tableName = n) = (l.filter (·.name = n)).map fun t => TableAction.remove t.name t :=
    fun l => List.filter_map
  unfold between
  simp only [List.filter_append]
  rw [added, removed, List.filter_reverse,
    Schema.filter_creationOrder_tablesMissingFrom hafter,
    Schema.filter_creationOrder_tablesMissingFrom hbefore,
    NameMap.filter_filterMap_entries TableAction.tableName]
  · cases hb : before.tables.find? n <;> cases ha : after.tables.find? n <;>
      simp only [TableAction.under, NameMap.contains, hb, ha, Option.isSome_none,
        Option.isSome_some, Option.bind_none, Option.bind_some, Option.toList_none,
        Option.toList_some, if_true, Bool.false_eq_true, if_false, List.nil_append,
        List.append_nil, List.map_nil, List.map_cons, List.reverse_nil, List.reverse_singleton]
  · intro e he x hx
    split at hx
    · cases hx
    · rename_i hn
      obtain ⟨edit, hedit, rfl⟩ := Option.map_eq_some_iff.mp hx
      exact (TableEdit.name_of_between hedit).trans (hafter.name_of_find? hn)

theorem mem_actions_iff (hbefore : before.WellKeyed) (hafter : after.WellKeyed)
    {a : TableAction} :
    a ∈ (between before after).actions ↔ TableAction.under before after a.tableName = some a :=
  NameMap.mem_iff_of_filter_eq (filter_actions hbefore hafter a.tableName)

/-- **The patch between two schemas leads from the first to the second**: carried out action by
action, it gives the tables of the second under their names, and each of them has the columns,
indexes, key and interleaving of the second, with equivalent defaults. -/
theorem replay_matches (hbefore : before.WellKeyed) (hafter : after.WellKeyed) :
    (before.replay (between before after).actions).Matches after := by
  intro n
  unfold Schema.MatchesAt
  rw [Schema.find?_replay, filter_actions hbefore hafter]
  exact TableAction.effect_under_matches hbefore hafter n

end SchemaPatch

namespace Shop

/-- A column that holds a whole number. -/
def number (name : String) : Column :=
  .plain name .bigInt ⟨"BIGINT", "INT64"⟩

/-- A table of numbered rows. -/
def numbered (name : String) : Table :=
  (Table.empty name).withColumn (number "id").inPrimaryKey

/-- The table with a column that refers to a user. -/
def ofUser (t : Table) (column : String) : Table :=
  t.withColumn ((number column).withReference ⟨"users", "id", none, some .cascade⟩)

/-- Users with a rank, and their carts. -/
def before : Schema :=
  (Schema.empty.withTable ((numbered "users").withColumn (number "rank"))).withTable
    (ofUser (numbered "carts") "owner")

/-- Users with a score that is unique, and their orders. -/
def after : Schema :=
  (Schema.empty.withTable ((numbered "users").withColumn (number "score").withUnique)).withTable
    ((ofUser (numbered "orders") "buyer").withIndex ⟨none, ["buyer"], false⟩)

theorem wellKeyed_numbered (name : String) : (numbered name).WellKeyed :=
  (Table.WellKeyed.empty name).withColumn _

theorem wellKeyed_before : before.WellKeyed :=
  (Schema.WellKeyed.empty.withTable ((wellKeyed_numbered _).withColumn _)).withTable
    ((wellKeyed_numbered _).withColumn _)

theorem wellKeyed_after : after.WellKeyed :=
  (Schema.WellKeyed.empty.withTable ((wellKeyed_numbered _).withColumn _)).withTable
    (((wellKeyed_numbered _).withColumn _).withIndex _)

/-- A patch that adds a table, changes one and removes one. -/
theorem replay_matches_shop :
    before.WellKeyed ∧ after.WellKeyed ∧
      (SchemaPatch.between before after).actions.map (·.tableName) = ["orders", "users", "carts"] ∧
      (before.replay (SchemaPatch.between before after).actions).Matches after :=
  ⟨wellKeyed_before, wellKeyed_after, by decide,
    SchemaPatch.replay_matches wellKeyed_before wellKeyed_after⟩

end Shop

/-! ## The order of actions -/

/-- One action may stand before another: tables are added before any is changed, and changed before
any is removed; none is added before one that it depends on, changed before one of lesser name, or
removed before one that depends on it. -/
def TableAction.MayPrecede : TableAction → TableAction → Prop
  | .add t, .add u => u.name ∉ t.dependencies
  | .change e, .change f => e.name < f.name
  | .remove _ t, .remove _ u => t.name ∉ u.dependencies
  | .add _, .change _ | .add _, .remove _ _ | .change _, .remove _ _ => True
  | .change _, .add _ | .remove _ _, .add _ | .remove _ _, .change _ => False

namespace SchemaPatch

variable {before after : Schema}

private theorem pairwise_changed (hafter : after.WellKeyed) :
    (before.tables.entries.filterMap fun e =>
      match after.tables.find? e.1 with
      | none => none
      | some table => (TableEdit.between e.2 table).map TableAction.change).Pairwise
      TableAction.MayPrecede := by
  refine List.Pairwise.filterMap _ (fun e e' hlt x hx x' hx' => ?_)
    (List.pairwise_map.mp before.tables.ascending)
  have named : ∀ (e : String × Table) (x : TableAction), (match after.tables.find? e.1 with
      | none => none
      | some table => (TableEdit.between e.2 table).map TableAction.change) = some x →
      ∃ edit, x = .change edit ∧ edit.name = e.1 := by
    intro e x hx
    split at hx
    · cases hx
    · rename_i hn
      obtain ⟨edit, hedit, rfl⟩ := Option.map_eq_some_iff.mp hx
      exact ⟨edit, rfl, (TableEdit.name_of_between hedit).trans (hafter.name_of_find? hn)⟩
  obtain ⟨edit, rfl, hname⟩ := named e x hx
  obtain ⟨edit', rfl, hname'⟩ := named e' x' hx'
  show edit.name < edit'.name
  rw [hname, hname']
  exact hlt

/-- **The actions of a patch stand in order**, where no table of either schema depends on itself. -/
theorem pairwise_actions (hbefore : before.WellKeyed) (hafter : after.WellKeyed)
    (acyclic_before : before.Acyclic) (acyclic_after : after.Acyclic) :
    (between before after).actions.Pairwise TableAction.MayPrecede := by
  have added := creationOrder_dependenciesFirst acyclic_after
    fun t ht => Schema.find?_of_mem_tablesMissingFrom hafter before ht
  have removed := creationOrder_dependenciesFirst acyclic_before
    fun t ht => Schema.find?_of_mem_tablesMissingFrom hbefore after ht
  unfold between
  refine List.pairwise_append.mpr ⟨List.pairwise_append.mpr
    ⟨List.pairwise_map.mpr added, pairwise_changed hafter, ?_⟩,
    List.pairwise_map.mpr (List.pairwise_reverse.mpr removed), ?_⟩
  · intro x hx y hy
    obtain ⟨t, _, rfl⟩ := List.mem_map.mp hx
    obtain ⟨e, _, hy⟩ := List.mem_filterMap.mp hy
    split at hy
    · cases hy
    · obtain ⟨edit, _, rfl⟩ := Option.map_eq_some_iff.mp hy
      exact trivial
  · intro x hx y hy
    obtain ⟨u, _, rfl⟩ := List.mem_map.mp hy
    rcases List.mem_append.mp hx with hx | hx
    · obtain ⟨t, _, rfl⟩ := List.mem_map.mp hx
      exact trivial
    · obtain ⟨e, _, hx⟩ := List.mem_filterMap.mp hx
      split at hx
      · cases hx
      · obtain ⟨edit, _, rfl⟩ := Option.map_eq_some_iff.mp hx
        exact trivial

end SchemaPatch

end SchemaEvolution
