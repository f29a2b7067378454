import SchemaEvolution.Proofs.Mirror
import Mathlib.Data.List.Nodup

/-!
# What indexes are known by

An index is known by one thing across the versions of its table, its identity, and by another in
statements, its name there. The names that a table takes are those of its indexes and those that
keep its columns unique; `checkIndexNames_eq_ok_iff` says that what passes the check takes no name
twice.

The identity of an index without a name is made from its columns, and can be the name of another
index. Where that does not happen between two versions of a table (`Table.NamedApart`), a comparison
is about the same indexes as the statements: it drops and creates exactly the indexes that only one
of the versions has (`IndexEdit.leaving_perm`, `IndexEdit.arriving_perm`).
-/

namespace SchemaEvolution

/-! ## The names that a table takes -/

theorem uniqueName_inj {table c d : String} : uniqueName table c = uniqueName table d ↔ c = d := by
  rw [uniqueName, uniqueName, String.append_left_inj, String.append_right_inj]

namespace Table

variable {t : Table}

/-- The names of the indexes of a table. -/
def indexNames (t : Table) : List String :=
  t.indexes.map (·.nameIn t.name)

/-- The names that keep the unique columns of a table unique, where that takes an index. -/
def uniqueNames (t : Table) : List String :=
  (Ddl.Spanner.uniqueColumns t).map (uniqueName t.name)

/-- Whether a column of a table is unique. -/
def isUnique (t : Table) (n : String) : Bool :=
  (t.columns.find? n).any (·.unique)

/-- The columns picked by a property have the names under which columns with it are found. -/
theorem mem_map_name_filter (keyed : t.WellKeyed) (p : Column → Bool) {n : String} :
    n ∈ (t.columns.values.filter p).map (·.name) ↔ (t.columns.find? n).any p = true := by
  rw [List.mem_map]
  constructor
  · rintro ⟨c, hc, rfl⟩
    obtain ⟨hc, picked⟩ := List.mem_filter.mp hc
    obtain ⟨n, hn⟩ := NameMap.mem_values.mp hc
    rw [keyed.name_of_find? hn, hn]
    exact picked
  · intro h
    cases hc : t.columns.find? n with
    | none => simp [hc] at h
    | some c =>
      rw [hc] at h
      exact ⟨c, List.mem_filter.mpr ⟨NameMap.mem_values.mpr ⟨n, hc⟩, h⟩, keyed.name_of_find? hc⟩

theorem mem_uniqueColumns (keyed : t.WellKeyed) {n : String} :
    n ∈ Ddl.Spanner.uniqueColumns t ↔ t.isUnique n = true :=
  mem_map_name_filter keyed (·.unique)

theorem WellKeyed.map_name_values (keyed : t.WellKeyed) :
    t.columns.values.map (·.name) = t.columns.names := by
  rw [NameMap.values, NameMap.names, List.map_map]
  exact List.map_congr_left fun e he => keyed e he

theorem nodup_uniqueNames (keyed : t.WellKeyed) : t.uniqueNames.Nodup := by
  have nodup : (Ddl.Spanner.uniqueColumns t).Nodup := by
    refine List.Nodup.sublist (List.filter_sublist.map _) ?_
    rw [keyed.map_name_values]
    exact t.columns.nodup_names
  exact nodup.map fun _ _ h => uniqueName_inj.mp h

theorem uniqueName_mem_uniqueNames (keyed : t.WellKeyed) {c : String} :
    uniqueName t.name c ∈ t.uniqueNames ↔ t.isUnique c = true := by
  rw [uniqueNames, List.mem_map_of_injective fun _ _ h => uniqueName_inj.mp h,
    mem_uniqueColumns keyed]

theorem find?_unique_eq_none_iff {n : String} :
    (t.columns.values.find? fun c => c.unique && uniqueName t.name c.name == n) = none ↔
      n ∉ t.uniqueNames := by
  simp only [List.find?_eq_none, uniqueNames, Ddl.Spanner.uniqueColumns, List.map_map, List.mem_map,
    List.mem_filter, Bool.and_eq_true, beq_iff_eq, Function.comp_apply, not_exists, not_and,
    and_imp]

private theorem clash?_eq_none_iff {seen : List String} {l : List Index} :
    t.clash? seen l = none ↔ (l.map (·.nameIn t.name)).Nodup ∧
      ∀ i ∈ l, i.nameIn t.name ∉ seen ∧ i.nameIn t.name ∉ t.uniqueNames := by
  induction l generalizing seen with
  | nil => simp [clash?]
  | cons i rest ih =>
    have hunique := find?_unique_eq_none_iff (t := t) (n := i.nameIn t.name)
    rw [List.map_cons, List.nodup_cons, List.forall_mem_cons, clash?]
    split
    · rename_i hseen
      exact ⟨nofun, fun h => absurd hseen h.2.1.1⟩
    · rename_i hseen
      split
      · rename_i c hc
        rw [hc] at hunique
        exact ⟨nofun, fun h => nomatch hunique.mpr h.2.1.2⟩
      · rename_i hc
        rw [ih]
        have hfree := hunique.mp hc
        simp only [List.mem_cons, not_or, List.mem_map, not_exists, not_and]
        constructor
        · rintro ⟨nodup, hrest⟩
          exact ⟨⟨fun j hj => (hrest j hj).1.1, nodup⟩, ⟨hseen, hfree⟩,
            fun j hj => ⟨(hrest j hj).1.2, (hrest j hj).2⟩⟩
        · rintro ⟨⟨hne, nodup⟩, _, hrest⟩
          exact ⟨nodup, fun j hj => ⟨⟨hne j hj, (hrest j hj).1⟩, (hrest j hj).2⟩⟩

/-- **A table passes the check of its index names exactly if no two indexes have one name and none
has the name that keeps a column unique.** -/
theorem checkIndexNames_eq_ok_iff {d : Dialect} :
    t.checkIndexNames d = .ok () ↔ t.indexNames.Nodup ∧ ∀ n ∈ t.indexNames, n ∉ t.uniqueNames := by
  have hclash : t.clash? [] t.indexes = none ↔ t.indexNames.Nodup ∧
      ∀ i ∈ t.indexes, i.nameIn t.name ∉ t.uniqueNames := by
    simp only [clash?_eq_none_iff, List.not_mem_nil, not_false_eq_true, true_and, indexNames]
  unfold checkIndexNames
  rw [indexNames, List.forall_mem_map, ← indexNames, ← hclash]
  cases t.clash? [] t.indexes with
  | none => exact ⟨fun _ => rfl, fun _ => rfl⟩
  | some _ => exact ⟨nofun, nofun⟩

end Table

/-! ## Two versions of the indexes of a table -/

namespace Table

variable {t : Table}

/-- The names of the indexes that another version of a table does not have as they are. -/
def indexNamesMissingFrom (t other : Table) : List String :=
  (t.indexes.filter (· ∉ other.indexes)).map (·.nameIn t.name)

theorem indexNamesMissingFrom_sublist (t other : Table) :
    (t.indexNamesMissingFrom other).Sublist t.indexNames :=
  List.filter_sublist.map _

/-- A name that is not missing is that of an index which both versions have, so it is not missing
from the first one either. -/
theorem kept_of_not_missing {u : Table} (hname : t.name = u.name) (nodup : u.indexNames.Nodup)
    {n : String} (ht : n ∈ t.indexNames) (hkept : n ∉ t.indexNamesMissingFrom u) :
    n ∈ u.indexNames ∧ n ∉ u.indexNamesMissingFrom t := by
  obtain ⟨i, hi, rfl⟩ := List.mem_map.mp ht
  have hiu : i ∈ u.indexes := by
    by_contra hiu
    exact hkept (List.mem_map.mpr ⟨i, List.mem_filter.mpr ⟨hi, decide_eq_true hiu⟩, rfl⟩)
  refine ⟨List.mem_map.mpr ⟨i, hiu, hname ▸ rfl⟩, fun hmissing => ?_⟩
  obtain ⟨j, hj, heq⟩ := List.mem_map.mp hmissing
  obtain ⟨hju, hjt⟩ := List.mem_filter.mp hj
  obtain rfl := List.inj_on_of_nodup_map nodup hju hiu (hname ▸ heq)
  exact of_decide_eq_true hjt hi

/-- No two indexes of a table are known by the same. -/
def DistinctIdentities (t : Table) : Prop :=
  (t.indexes.map Index.identity).Nodup

/-- No index of one table has for its name the columns of an index of another table that has no
name of its own. -/
def NamedApart (t u : Table) : Prop :=
  (∀ i ∈ t.indexes, ∀ j ∈ u.indexes, j.name = none → i.name ≠ some (",".intercalate j.columns)) ∧
    ∀ i ∈ u.indexes, ∀ j ∈ t.indexes, j.name = none → i.name ≠ some (",".intercalate j.columns)

instance : Decidable t.DistinctIdentities :=
  inferInstanceAs (Decidable (List.Nodup _))

instance (t u : Table) : Decidable (t.NamedApart u) :=
  inferInstanceAs (Decidable ((∀ i ∈ t.indexes, ∀ j ∈ u.indexes, _ → _) ∧ _))

theorem NamedApart.symm {u : Table} (h : t.NamedApart u) : u.NamedApart t :=
  ⟨h.2, h.1⟩

/-- Where indexes are known by different things, each is found under what it is known by. -/
theorem find?_indexesByIdentity (distinct : t.DistinctIdentities) {n : String} {i : Index} :
    t.indexesByIdentity.find? n = some i ↔ i ∈ t.indexes ∧ i.identity = n := by
  have keys : (t.indexes.map fun i => (i.identity, i)).map Prod.fst =
      t.indexes.map Index.identity := by
    rw [List.map_map]
    rfl
  rw [indexesByIdentity, NameMap.find?_ofList_eq_some_iff (keys ▸ distinct), List.mem_map]
  constructor
  · rintro ⟨j, hj, heq⟩
    cases heq
    exact ⟨hj, rfl⟩
  · rintro ⟨hi, rfl⟩
    exact ⟨i, hi, rfl⟩

/-- Indexes of two versions that are known by the same and have the same content are the same. -/
theorem NamedApart.eq_of_content {u : Table} (apart : t.NamedApart u) {i j : Index}
    (hi : i ∈ t.indexes) (hj : j ∈ u.indexes) (hid : i.identity = j.identity)
    (hcontent : i.content = j.content) : i = j := by
  obtain ⟨name, columns, unique⟩ := i
  obtain ⟨name', columns', unique'⟩ := j
  cases hcontent
  have hname : name = name' := by
    cases name with
    | none =>
      cases name' with
      | none => rfl
      | some m => exact absurd (congrArg some hid.symm) (apart.2 _ hj _ hi rfl)
    | some n =>
      cases name' with
      | none => exact absurd (congrArg some hid) (apart.1 _ hi _ hj rfl)
      | some m => exact congrArg some hid
  rw [hname]

end Table

namespace IndexEdit

variable {before after : Table}

theorem reverse_reverse (e : IndexEdit) : e.reverse.reverse = e := by
  cases e <;> rfl

theorem leaving?_reverse (e : IndexEdit) : Ddl.leaving? e.reverse = Ddl.arriving? e := by
  cases e <;> rfl

theorem identity_of_under {n : String} {e : IndexEdit} (h : under before after n = some e) :
    e.identity = n := by
  unfold under at h
  split at h
  · cases h
  · rename_i ha
    cases h
    exact Table.identity_of_find? ha
  · rename_i hb _
    cases h
    exact Table.identity_of_find? hb
  · rename_i hb _
    split at h <;> cases h
    exact Table.identity_of_find? hb

/-- The edits of the indexes of a table are those that are called for under some identity. -/
theorem mem_between_iff {e : IndexEdit} :
    e ∈ between before after ↔ ∃ n, under before after n = some e := by
  have hmem := NameMap.mem_iff_of_filter_eq (filter_between before after e.identity)
  rw [hmem]
  refine ⟨fun h => ⟨_, h⟩, ?_⟩
  rintro ⟨n, h⟩
  rwa [identity_of_under h]

theorem reverse_mem_between_iff {e : IndexEdit} :
    e.reverse ∈ between after before ↔ e ∈ between before after := by
  simp only [mem_between_iff, under_reverse before after, Option.map_eq_some_iff]
  constructor
  · rintro ⟨n, f, hf, heq⟩
    rw [← reverse_reverse e, ← heq, reverse_reverse]
    exact ⟨n, hf⟩
  · rintro ⟨n, h⟩
    exact ⟨n, e, h, rfl⟩

/-- An edit and the one back are about one thing. -/
theorem identity_reverse {e : IndexEdit} (h : e ∈ between before after) :
    e.reverse.identity = e.identity := by
  obtain ⟨n, hn⟩ := mem_between_iff.mp h
  have hback : under after before n = some e.reverse := by
    rw [under_reverse before after, hn, Option.map_some]
  rw [identity_of_under hn, identity_of_under hback]

/-- Indexes that edits pick, each one that is known by what the edit is about, are picked once. -/
theorem nodup_filterMap {pick : IndexEdit → Option Index}
    (h : ∀ e ∈ between before after, ∀ i, pick e = some i → i.identity = e.identity) :
    ((between before after).filterMap pick).Nodup := by
  have distinct := List.pairwise_map.mp
    (NameMap.nodup_names_of_filter (filter_between before after))
  refine List.Pairwise.filterMap pick (fun e e' ⟨he, he', hne⟩ i hi i' hi' heq => hne ?_)
    (List.Pairwise.and_mem.mp distinct)
  rw [← h e he i hi, ← h e' he' i' hi', heq]

theorem identity_of_leaving? {e : IndexEdit} {i : Index} (h : Ddl.leaving? e = some i) :
    i.identity = e.identity := by
  cases e <;> cases h <;> rfl

/-- An index is to go if the second version has no index that is known by the same and has the same
content. -/
theorem bind_leaving?_under {n : String} {i : Index} :
    (under before after n).bind Ddl.leaving? = some i ↔
      before.indexesByIdentity.find? n = some i ∧
        ∀ j, after.indexesByIdentity.find? n = some j → i.content ≠ j.content := by
  unfold under
  cases hb : before.indexesByIdentity.find? n with
  | none => cases ha : after.indexesByIdentity.find? n <;> simp [Ddl.leaving?]
  | some previous =>
    cases ha : after.indexesByIdentity.find? n with
    | none => simp [Ddl.leaving?]
    | some index =>
      by_cases hsame : previous.content = index.content
      · simp [hsame]
        rintro rfl
        exact hsame
      · simp [hsame, Ddl.leaving?]
        rintro rfl
        exact hsame

/-- The indexes that are to go are those that only the first version has. -/
theorem mem_leaving_iff (hbefore : before.DistinctIdentities) (hafter : after.DistinctIdentities)
    (apart : before.NamedApart after) {i : Index} :
    i ∈ (between before after).filterMap Ddl.leaving? ↔ i ∈ before.indexes ∧ i ∉ after.indexes := by
  have hunder : i ∈ (between before after).filterMap Ddl.leaving? ↔
      ∃ n, (under before after n).bind Ddl.leaving? = some i := by
    simp only [List.mem_filterMap, mem_between_iff, Option.bind_eq_some_iff]
    exact ⟨fun ⟨e, ⟨n, hn⟩, he⟩ => ⟨n, e, hn, he⟩, fun ⟨n, e, hn, he⟩ => ⟨e, ⟨n, hn⟩, he⟩⟩
  simp only [hunder, bind_leaving?_under, Table.find?_indexesByIdentity hbefore,
    Table.find?_indexesByIdentity hafter]
  constructor
  · rintro ⟨n, ⟨hi, rfl⟩, hdiffer⟩
    exact ⟨hi, fun hj => hdiffer i ⟨hj, rfl⟩ rfl⟩
  · rintro ⟨hi, hnot⟩
    refine ⟨i.identity, ⟨hi, rfl⟩, fun j ⟨hj, hid⟩ hcontent => hnot ?_⟩
    rwa [apart.eq_of_content hi hj hid.symm hcontent]

/-- **Between two versions that are named apart, the indexes that are dropped are those that only
the first one has.** -/
theorem leaving_perm (hbefore : before.DistinctIdentities) (hafter : after.DistinctIdentities)
    (apart : before.NamedApart after) :
    ((between before after).filterMap Ddl.leaving?).Perm
      (before.indexes.filter (· ∉ after.indexes)) := by
  have nodup : ((between before after).filterMap Ddl.leaving?).Nodup :=
    nodup_filterMap fun _ _ _ h => identity_of_leaving? h
  refine (List.perm_ext_iff_of_nodup nodup ((List.Nodup.of_map _ hbefore).filter _)).mpr fun i => ?_
  rw [mem_leaving_iff hbefore hafter apart, List.mem_filter, decide_eq_true_eq]

/-- **Between two versions that are named apart, the indexes that are created are those that only
the second one has.** -/
theorem arriving_perm (hbefore : before.DistinctIdentities) (hafter : after.DistinctIdentities)
    (apart : before.NamedApart after) :
    ((between before after).filterMap Ddl.arriving?).Perm
      (after.indexes.filter (· ∉ before.indexes)) := by
  have nodup : ((between before after).filterMap Ddl.arriving?).Nodup := by
    refine nodup_filterMap fun e he i hi => ?_
    rw [← identity_reverse he]
    exact identity_of_leaving? (leaving?_reverse e ▸ hi)
  refine (List.perm_ext_iff_of_nodup nodup ((List.Nodup.of_map _ hafter).filter _)).mpr fun i => ?_
  -- what arrives on the way there leaves on the way back
  have hback : i ∈ (between before after).filterMap Ddl.arriving? ↔
      i ∈ (between after before).filterMap Ddl.leaving? := by
    simp only [List.mem_filterMap]
    constructor
    · rintro ⟨e, he, hi⟩
      exact ⟨e.reverse, reverse_mem_between_iff.mpr he, leaving?_reverse e ▸ hi⟩
    · rintro ⟨e, he, hi⟩
      rw [← reverse_reverse e] at he hi
      exact ⟨e.reverse, reverse_mem_between_iff.mp he, leaving?_reverse e.reverse ▸ hi⟩
  rw [hback, mem_leaving_iff hafter hbefore apart.symm, List.mem_filter, decide_eq_true_eq]

end IndexEdit

end SchemaEvolution
