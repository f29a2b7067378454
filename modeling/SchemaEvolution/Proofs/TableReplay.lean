import SchemaEvolution.Proofs.Replay

/-!
# Where the edit of a table leads

The edit between two states of a table, carried out on the first, gives a table that matches the
second (`TableEdit.apply_matches`); where there is no edit, the two match as they are
(`TableEdit.matches_of_between_eq_none`).

Columns and indexes are compared in three passes over two maps. For the proofs the passes are put
together again name by name: `ColumnEdit.under` and `IndexEdit.under` say what the edit of one name
is, in one look at both maps, and `filter_between` says that the passes find that edit and no other.
-/

namespace SchemaEvolution

/-! ## Properties of a column -/

namespace FieldEdit

private theorem foldl_ite {p : Prop} [Decidable p] {e : FieldEdit} {c d : Column}
    (edited : p → e.apply c = d) (kept : ¬ p → c = d) :
    (if p then [e] else []).foldl apply c = d := by
  split
  · rename_i h
    exact edited h
  · rename_i h
    exact kept h

/-- **The edits between two columns give the second one**, but for a default that is equivalent to
the one before. -/
theorem foldl_between (before after : Column) :
    (between before after).foldl apply before =
      { after with
        name := before.name
        default? :=
          if ColumnDefault.equivalent? before.default? after.default? then before.default?
          else after.default? } := by
  obtain ⟨name, type, physical, nullable, default?, primaryKey, unique, reference?⟩ := before
  obtain ⟨_, type', physical', nullable', default?', primaryKey', unique', reference?'⟩ := after
  -- one property after the other takes its new value
  have type_step : (if type ≠ type' ∨ physical ≠ physical' then [FieldEdit.type type' physical']
        else []).foldl apply
        ⟨name, type, physical, nullable, default?, primaryKey, unique, reference?⟩ =
      ⟨name, type', physical', nullable, default?, primaryKey, unique, reference?⟩ := by
    refine foldl_ite (fun _ => rfl) fun h => ?_
    rw [not_or, Decidable.not_not, Decidable.not_not] at h
    rw [h.1, h.2]
  have nullable_step : (if nullable ≠ nullable' then [FieldEdit.nullable nullable'] else []).foldl
        apply ⟨name, type', physical', nullable, default?, primaryKey, unique, reference?⟩ =
      ⟨name, type', physical', nullable', default?, primaryKey, unique, reference?⟩ :=
    foldl_ite (fun _ => rfl) fun h => by rw [Decidable.not_not.mp h]
  have default_step : (if ColumnDefault.equivalent? default? default?' then []
        else [FieldEdit.default default? default?']).foldl apply
        ⟨name, type', physical', nullable', default?, primaryKey, unique, reference?⟩ =
      ⟨name, type', physical', nullable',
        if ColumnDefault.equivalent? default? default?' then default? else default?', primaryKey,
        unique, reference?⟩ := by
    split <;> rfl
  generalize (if ColumnDefault.equivalent? default? default?' then default? else default?') =
    d? at *
  have key_step : (if primaryKey ≠ primaryKey' then [FieldEdit.primaryKey primaryKey']
        else []).foldl apply
        ⟨name, type', physical', nullable', d?, primaryKey, unique, reference?⟩ =
      ⟨name, type', physical', nullable', d?, primaryKey', unique, reference?⟩ :=
    foldl_ite (fun _ => rfl) fun h => by rw [Decidable.not_not.mp h]
  have unique_step : (if unique ≠ unique' then [FieldEdit.unique unique'] else []).foldl apply
        ⟨name, type', physical', nullable', d?, primaryKey', unique, reference?⟩ =
      ⟨name, type', physical', nullable', d?, primaryKey', unique', reference?⟩ :=
    foldl_ite (fun _ => rfl) fun h => by rw [Decidable.not_not.mp h]
  have reference_step : (if reference? ≠ reference?' then
        [FieldEdit.reference reference? reference?'] else []).foldl apply
        ⟨name, type', physical', nullable', d?, primaryKey', unique', reference?⟩ =
      ⟨name, type', physical', nullable', d?, primaryKey', unique', reference?'⟩ :=
    foldl_ite (fun _ => rfl) fun h => by rw [Decidable.not_not.mp h]
  simp only [between, List.foldl_append]
  rw [type_step, nullable_step, default_step, key_step, unique_step, reference_step]

/-- The edits between two columns of one name lead to a column that matches the second. -/
theorem foldl_between_matches {before after : Column} (h : before.name = after.name) :
    ((between before after).foldl apply before).Matches after := by
  rw [foldl_between]
  refine ⟨h, rfl, rfl, rfl, ?_, rfl, rfl, rfl⟩
  show ColumnDefault.equivalent? (if _ then _ else _) _ = true
  split
  · rename_i hequiv
    exact hequiv
  · exact ColumnDefault.equivalent?_refl _

end FieldEdit

/-! ## Columns -/

namespace ColumnEdit

/-- The edit of the column of one name, if there is one. -/
def under (before after : Table) (n : String) : Option ColumnEdit :=
  match before.columns.find? n, after.columns.find? n with
  | none, none => none
  | none, some column => some (.add column)
  | some previous, none => some (.remove n previous)
  | some previous, some column =>
    if (FieldEdit.between previous column).isEmpty then none
    else some (.change n column (after.keyColumns.contains n) (FieldEdit.between previous column))

/-- **The edits of the columns of a table, name by name**: under each name there is the one that
the two columns of that name call for. -/
theorem filter_between {before after : Table} (keyed : after.WellKeyed) (n : String) :
    (between before after).filter (·.name = n) = (under before after n).toList := by
  unfold between
  simp only [List.filter_append]
  rw [NameMap.filter_filterMap_entries name, NameMap.filter_filterMap_entries name,
    NameMap.filter_filterMap_entries name]
  · cases hb : before.columns.find? n <;> cases ha : after.columns.find? n <;>
      simp only [under, NameMap.contains, hb, ha, Option.isSome_none, Option.isSome_some,
        Option.bind_none, Option.bind_some, Option.toList_none, Option.toList_some, if_true,
        Bool.false_eq_true, if_false, List.nil_append, List.append_nil]
  · intro e _ x hx
    split at hx <;> cases hx
    rfl
  · intro e _ x hx
    split at hx
    · cases hx
    · split at hx <;> cases hx
      rfl
  · intro e he x hx
    split at hx <;> cases hx
    exact keyed e he

theorem mem_between_iff {before after : Table} (keyed : after.WellKeyed) {e : ColumnEdit} :
    e ∈ between before after ↔ under before after e.name = some e :=
  NameMap.mem_iff_of_filter_eq (filter_between keyed e.name)

/-- A column that is removed was there, and is not in the second state of the table. -/
theorem of_remove_mem_between {before after : Table} (keyed : after.WellKeyed) {n : String}
    {c : Column} (h : .remove n c ∈ between before after) :
    before.columns.find? n = some c ∧ after.columns.find? n = none := by
  have hunder : under before after n = some (.remove n c) := (mem_between_iff keyed).mp h
  unfold under at hunder
  split at hunder
  · cases hunder
  · cases hunder
  · rename_i hb ha
    cases hunder
    exact ⟨hb, ha⟩
  · split at hunder <;> cases hunder

/-- The edits of the columns of a table lead to columns that match the second ones. -/
theorem find?_replay_between {before after : Table} (hbefore : before.WellKeyed)
    (hafter : after.WellKeyed) (n : String) :
    Option.Rel Column.Matches ((replay before.columns (between before after)).find? n)
      (after.columns.find? n) := by
  rw [replay, NameMap.find?_foldl_alter, filter_between hafter]
  unfold under
  cases hb : before.columns.find? n with
  | none =>
    cases ha : after.columns.find? n with
    | none => exact .none
    | some column => exact .some (.refl column)
  | some previous =>
    cases ha : after.columns.find? n with
    | none => exact .none
    | some column =>
      have hname : previous.name = column.name :=
        (hbefore.name_of_find? hb).trans (hafter.name_of_find? ha).symm
      have hmatches := FieldEdit.foldl_between_matches hname
      dsimp only
      split
      · rename_i hempty
        rw [List.isEmpty_iff.mp hempty] at hmatches
        exact .some hmatches
      · exact .some hmatches

end ColumnEdit

/-! ## Indexes -/

/-- What is held under an identity is known by it. -/
theorem Table.identity_of_find? {t : Table} {n : String} {i : Index}
    (h : t.indexesByIdentity.find? n = some i) : i.identity = n := by
  have hmem := NameMap.mem_of_mem_ofList (NameMap.find?_eq_some_iff.mp h)
  obtain ⟨j, _, heq⟩ := List.mem_map.mp hmem
  cases heq
  rfl

namespace IndexEdit

/-- The edit of the index known by one identity, if there is one. -/
def under (before after : Table) (n : String) : Option IndexEdit :=
  match before.indexesByIdentity.find? n, after.indexesByIdentity.find? n with
  | none, none => none
  | none, some index => some (.add index)
  | some previous, none => some (.remove previous)
  | some previous, some index =>
    if previous.content = index.content then none else some (.change previous index)

private theorem differ_iff {i j : Index} :
    (i.unique ≠ j.unique ∨ i.columns ≠ j.columns) ↔ i.content ≠ j.content := by
  rw [Index.content, Index.content, ne_eq, ne_eq, ne_eq, Prod.mk.injEq,
    Decidable.not_and_iff_not_or_not, or_comm]

/-- **The edits of the indexes of a table, identity by identity**: under each one there is the one
that the two indexes known by it call for. -/
theorem filter_between (before after : Table) (n : String) :
    (between before after).filter (·.identity = n) = (under before after n).toList := by
  unfold between
  simp only [List.filter_append]
  rw [NameMap.filter_filterMap_entries identity,
    NameMap.filter_filterMap_entries identity,
    NameMap.filter_filterMap_entries identity]
  · cases hb : before.indexesByIdentity.find? n <;> cases ha : after.indexesByIdentity.find? n <;>
      simp only [under, NameMap.contains, hb, ha, Option.isSome_none, Option.isSome_some,
        Option.bind_none, Option.bind_some, Option.toList_none, Option.toList_some, if_true,
        Bool.false_eq_true, if_false, List.nil_append, List.append_nil, differ_iff, ite_not]
  · intro e he x hx
    split at hx <;> cases hx
    exact Table.identity_of_find? (NameMap.find?_of_mem he)
  · intro e he x hx
    split at hx
    · cases hx
    · split at hx <;> cases hx
      exact Table.identity_of_find? (NameMap.find?_of_mem he)
  · intro e he x hx
    split at hx <;> cases hx
    exact Table.identity_of_find? (NameMap.find?_of_mem he)

/-- The edits of the indexes of a table lead to indexes of the same content as the second ones. -/
theorem find?_replay_between (before after : Table) (n : String) :
    ((replay before.indexesByIdentity (between before after)).find? n).map Index.content =
      (after.indexesByIdentity.find? n).map Index.content := by
  rw [replay, NameMap.find?_foldl_alter, filter_between]
  unfold under
  cases hb : before.indexesByIdentity.find? n with
  | none => cases ha : after.indexesByIdentity.find? n <;> rfl
  | some previous =>
    cases ha : after.indexesByIdentity.find? n with
    | none => rfl
    | some index =>
      dsimp only
      split
      · rename_i hsame
        exact congrArg some hsame
      · rfl

/-- After the edits of the indexes of a table, what is held under an identity is known by it. -/
theorem identity_of_find?_replay {before after : Table} {n : String} {i : Index}
    (h : (replay before.indexesByIdentity (between before after)).find? n = some i) :
    i.identity = n := by
  rw [replay, NameMap.find?_foldl_alter, filter_between] at h
  unfold under at h
  cases hb : before.indexesByIdentity.find? n with
  | none =>
    cases ha : after.indexesByIdentity.find? n with
    | none => simp [hb, ha] at h
    | some index =>
      simp only [hb, ha, Option.toList_some, List.foldl_cons, List.foldl_nil, effect] at h
      exact Option.some.inj h ▸ Table.identity_of_find? ha
  | some previous =>
    cases ha : after.indexesByIdentity.find? n with
    | none => simp [hb, ha, effect] at h
    | some index =>
      simp only [hb, ha] at h
      split at h
      · exact Option.some.inj h ▸ Table.identity_of_find? hb
      · exact Option.some.inj h ▸ Table.identity_of_find? ha

end IndexEdit

/-! ## Keys and interleaving -/

theorem KeyEdit.replay_between (before after : Option CompositeKey) :
    replay before (between before after) = after := by
  cases after with
  | none => cases before <;> rfl
  | some key =>
    have hset : between before (some key) =
        if before = some key then none else some (.set before key) := by
      cases before <;> rfl
    rw [hset]
    split
    · rename_i h
      exact h
    · rfl

theorem InterleaveEdit.replay_between (before after : Option Interleave) :
    replay before (between before after) = after := by
  cases after with
  | none => cases before <;> rfl
  | some interleave =>
    have hset : between before (some interleave) =
        if before = some interleave then none else some (.set before interleave) := by
      cases before <;> rfl
    rw [hset]
    split
    · rename_i h
      exact h
    · rfl

/-! ## Tables -/

namespace TableEdit

/-- The comparison of two states of a table, whether they differ or not. -/
def comparing (before after : Table) : TableEdit where
  name := after.name
  columns := ColumnEdit.between before after
  indexes := IndexEdit.between before after
  primaryKey? := KeyEdit.between before.primaryKey? after.primaryKey?
  interleave? := InterleaveEdit.between before.interleave? after.interleave?
  keyColumns? :=
    if (KeyEdit.between before.primaryKey? after.primaryKey?).isSome ∨
        before.keyColumns ≠ after.keyColumns then
      some ⟨before.keyColumns, after.keyColumns⟩ else none

theorem between_eq (before after : Table) :
    between before after =
      if (comparing before after).isEmpty then none else some (comparing before after) :=
  rfl

theorem between_eq_some {before after : Table} {e : TableEdit} (h : between before after = some e) :
    e = comparing before after := by
  rw [between_eq] at h
  split at h
  · cases h
  · exact (Option.some.inj h).symm

/-- The columns of the key are listed where the key differs, by its declaration or its columns. -/
theorem keyColumns?_comparing (before after : Table) :
    (comparing before after).keyColumns? =
      if KeyEdit.between before.primaryKey? after.primaryKey? = none ∧
          before.keyColumns = after.keyColumns then none
      else some ⟨before.keyColumns, after.keyColumns⟩ := by
  unfold comparing
  cases KeyEdit.between before.primaryKey? after.primaryKey? with
  | none => simp only [Option.isSome_none, Bool.false_eq_true, false_or, true_and, ne_eq, ite_not]
  | some _ => simp only [Option.isSome_some, true_or, if_true, reduceCtorEq, false_and, if_false]

/-- Where two states of a table call for no edit, the comparison finds nothing. -/
theorem between_eq_none_iff {before after : Table} :
    between before after = none ↔
      ColumnEdit.between before after = [] ∧ IndexEdit.between before after = [] ∧
        KeyEdit.between before.primaryKey? after.primaryKey? = none ∧
        InterleaveEdit.between before.interleave? after.interleave? = none ∧
        before.keyColumns = after.keyColumns := by
  rw [between_eq, ite_eq_left_iff]
  simp only [reduceCtorEq, imp_false, Decidable.not_not, isEmpty, Bool.and_eq_true,
    List.isEmpty_iff, Option.isNone_iff_eq_none, keyColumns?_comparing, ite_eq_left_iff]
  exact ⟨fun ⟨⟨⟨⟨columns, indexes⟩, key⟩, interleave⟩, _, keyColumns⟩ =>
      ⟨columns, indexes, key, interleave, keyColumns⟩,
    fun ⟨columns, indexes, key, interleave, keyColumns⟩ =>
      ⟨⟨⟨⟨columns, indexes⟩, key⟩, interleave⟩, key, keyColumns⟩⟩

theorem name_of_between {before after : Table} {e : TableEdit} (h : between before after = some e) :
    e.name = after.name := by
  rw [between_eq_some h]
  rfl

/-- The indexes of an edited table, by what they are known by, are the edited indexes. -/
theorem indexesByIdentity_apply (before after : Table) :
    ((comparing before after).apply before).indexesByIdentity =
      IndexEdit.replay before.indexesByIdentity (IndexEdit.between before after) :=
  NameMap.ofList_values fun _ _ => IndexEdit.identity_of_find?_replay

/-- **The edit between two states of a table leads from the first to the second.** -/
theorem apply_matches {before after : Table} (hbefore : before.WellKeyed)
    (hafter : after.WellKeyed) (hname : before.name = after.name) {e : TableEdit}
    (h : between before after = some e) : (e.apply before).Matches after := by
  rw [between_eq_some h]
  exact {
    name := hname
    columns := ColumnEdit.find?_replay_between hbefore hafter
    indexes := fun n => by
      rw [indexesByIdentity_apply]
      exact IndexEdit.find?_replay_between before after n
    primaryKey := KeyEdit.replay_between _ _
    interleave := InterleaveEdit.replay_between _ _ }

/-- **Two states of a table between which there is no edit match.** -/
theorem matches_of_between_eq_none {before after : Table} (hbefore : before.WellKeyed)
    (hafter : after.WellKeyed) (hname : before.name = after.name)
    (h : between before after = none) : before.Matches after := by
  obtain ⟨columns, indexes, key, interleave, _⟩ := between_eq_none_iff.mp h
  have hcolumns := ColumnEdit.find?_replay_between hbefore hafter
  have hindexes := IndexEdit.find?_replay_between before after
  rw [columns] at hcolumns
  rw [indexes] at hindexes
  have hkey := KeyEdit.replay_between before.primaryKey? after.primaryKey?
  have hinterleave := InterleaveEdit.replay_between before.interleave? after.interleave?
  rw [key] at hkey
  rw [interleave] at hinterleave
  exact ⟨hname, hcolumns, hindexes, hkey, hinterleave⟩

end TableEdit

end SchemaEvolution
