import SchemaEvolution.Proofs.SchemaIndexNames

/-!
# Clashes of the names of indexes

The check of a table's index names goes through its indexes in their order. It looks at each for the
names of those before it and for the names that keep columns unique, but it never compares the
latter with each other. That is enough (`Table.checkIndexNames_decides`): the name that keeps a
column unique tells which column it is, so in a table whose columns are held under their own names
no two of them are the same.

What is refused is the first index with which there is a clash. Of the two ways in which an index
can clash the repeated name would be told first, but the first index that clashes never does so in
both: the one before it that has its name would have clashed already
(`Table.FirstClash.not_repeated`).
-/

namespace SchemaEvolution

namespace Table

variable {t : Table} {before : List Index} {i : Index}

/-- An index has a name that one of those before it has, or one that keeps a column unique. -/
def Clashes (t : Table) (before : List Index) (i : Index) : Prop :=
  i.nameIn t.name ∈ before.map (·.nameIn t.name) ∨ i.nameIn t.name ∈ t.uniqueNames

instance : Decidable (t.Clashes before i) :=
  inferInstanceAs (Decidable (_ ∨ _))

/-- An index of a table clashes, and none before it does. -/
structure FirstClash (t : Table) (before : List Index) (i : Index) : Prop where
  listed : ∃ behind, t.indexes = before ++ i :: behind
  clashes : t.Clashes before i
  first : ∀ front j between, before = front ++ j :: between → ¬ t.Clashes front j

/-- What is refused of an index that clashes: its name, if that is repeated, and else its name with
the column that this name keeps unique. -/
inductive Refuses (t : Table) (before : List Index) (i : Index) : Construct → Prop
  | repeated (taken : i.nameIn t.name ∈ before.map (·.nameIn t.name)) :
    Refuses t before i (.duplicateIndex (i.nameIn t.name))
  | unique {column : String} (free : i.nameIn t.name ∉ before.map (·.nameIn t.name))
    (unique : t.isUnique column = true) (keeps : uniqueName t.name column = i.nameIn t.name) :
    Refuses t before i (.indexNamedAsUnique (i.nameIn t.name) column)

theorem Refuses.clashes (keyed : t.WellKeyed) {construct : Construct}
    (h : t.Refuses before i construct) : t.Clashes before i := by
  cases h with
  | repeated taken => exact .inl taken
  | unique _ unique keeps => exact .inr (keeps ▸ (uniqueName_mem_uniqueNames keyed).mpr unique)

/-- The first index that clashes, if it has the name that keeps a column unique, repeats no name. -/
theorem FirstClash.not_repeated (h : t.FirstClash before i)
    (unique : i.nameIn t.name ∈ t.uniqueNames) :
    i.nameIn t.name ∉ before.map (·.nameIn t.name) := by
  intro taken
  obtain ⟨j, hj, same⟩ := List.mem_map.mp taken
  obtain ⟨front, between, split⟩ := List.append_of_mem hj
  exact h.first front j between split (.inr (same ▸ unique))

/-! ## The search for a clash -/

/-- The column whose constraint has a name is known by that name. -/
theorem find?_unique_eq_some_iff (keyed : t.WellKeyed) {n : String} {c : Column}
    (h : (t.columns.values.find? fun c => c.unique && uniqueName t.name c.name == n) = some c)
    {column : String} :
    c.name = column ↔ t.isUnique column = true ∧ uniqueName t.name column = n := by
  have found := List.find?_some h
  rw [Bool.and_eq_true, beq_iff_eq] at found
  constructor
  · rintro rfl
    refine ⟨(mem_uniqueColumns keyed).mp (List.mem_map_of_mem ?_), found.2⟩
    exact List.mem_filter.mpr ⟨List.mem_of_find?_eq_some h, found.1⟩
  · rintro ⟨-, keeps⟩
    exact uniqueName_inj.mp (found.2.trans keeps.symm)

/-- One step of the search, with the names that were seen those of the indexes before. -/
theorem clash?_cons_eq_some_iff (keyed : t.WellKeyed) {seen : List String}
    (same : ∀ n, n ∈ seen ↔ n ∈ before.map (·.nameIn t.name)) {rest : List Index}
    {construct : Construct} :
    t.clash? seen (i :: rest) = some construct ↔
      t.Refuses before i construct ∨
        ¬ t.Clashes before i ∧ t.clash? (i.nameIn t.name :: seen) rest = some construct := by
  rw [clash?]
  split
  next taken =>
    have taken := (same _).mp taken
    constructor
    · intro h
      cases h
      exact .inl (.repeated taken)
    · rintro (refused | ⟨free, -⟩)
      · cases refused with
        | repeated => rfl
        | unique free => exact absurd taken free
      · exact absurd (.inl taken) free
  next free =>
    have free := mt (same _).mpr free
    split
    next c hc =>
      obtain ⟨unique, keeps⟩ := (find?_unique_eq_some_iff keyed hc).mp rfl
      have refused := Refuses.unique free unique keeps
      constructor
      · intro h
        cases h
        exact .inl refused
      · rintro (other | ⟨apart, -⟩)
        · cases other with
          | repeated taken => exact absurd taken free
          | unique _ unique' keeps' =>
            rw [(find?_unique_eq_some_iff keyed hc).mpr ⟨unique', keeps'⟩]
        · exact absurd (refused.clashes keyed) apart
    next none =>
      have apart : ¬ t.Clashes before i :=
        fun h => h.elim free (find?_unique_eq_none_iff.mp none)
      constructor
      · exact fun h => .inr ⟨apart, h⟩
      · rintro (refused | ⟨-, h⟩)
        · exact absurd (refused.clashes keyed) apart
        · exact h

/-- The search from some index on, with those before it gone through, comes to the first one there
that clashes. The induction is along the search, which takes each index that does not clash to those
that are done. -/
theorem clash?_eq_some_iff (keyed : t.WellKeyed) {seen : List String} {done l : List Index}
    (same : ∀ n, n ∈ seen ↔ n ∈ done.map (·.nameIn t.name)) {construct : Construct} :
    t.clash? seen l = some construct ↔
      ∃ before i, (∃ behind, l = before ++ i :: behind) ∧
        t.Refuses (done ++ before) i construct ∧
        ∀ front j between, before = front ++ j :: between → ¬ t.Clashes (done ++ front) j := by
  induction l generalizing seen done with
  | nil =>
    constructor
    · exact nofun
    · rintro ⟨before, i, ⟨behind, h⟩, -⟩
      exact nomatch (List.nil_eq_append_iff.mp h).2
  | cons i rest ih =>
    have same' : ∀ n, n ∈ i.nameIn t.name :: seen ↔ n ∈ (done ++ [i]).map (·.nameIn t.name) := by
      intro n
      rw [List.map_append, List.mem_append, ← same n, List.mem_cons, or_comm]
      exact or_congr_right List.mem_singleton.symm
    rw [clash?_cons_eq_some_iff keyed same, ih same']
    constructor
    · rintro (refused | ⟨apart, before, j, ⟨behind, rfl⟩, refused, first⟩)
      · refine ⟨[], i, ⟨rest, rfl⟩, by rwa [List.append_nil], fun front j between h => ?_⟩
        exact nomatch (List.nil_eq_append_iff.mp h).2
      · refine ⟨i :: before, j, ⟨behind, rfl⟩, by rwa [List.append_cons], ?_⟩
        intro front k between split
        cases front with
        | nil =>
          obtain ⟨rfl, -⟩ := List.cons.inj split
          rwa [List.append_nil]
        | cons f front =>
          obtain ⟨rfl, within⟩ := List.cons.inj split
          rw [List.append_cons]
          exact first front k between within
    · rintro ⟨before, j, ⟨behind, split⟩, refused, first⟩
      cases before with
      | nil =>
        obtain ⟨rfl, -⟩ := List.cons.inj split
        rw [List.append_nil] at refused
        exact .inl refused
      | cons b before =>
        obtain ⟨rfl, within⟩ := List.cons.inj split
        have apart := first [] i before rfl
        rw [List.append_nil] at apart
        refine .inr ⟨apart, before, j, ⟨behind, within⟩, by rwa [← List.append_cons], ?_⟩
        intro front k between split
        rw [← List.append_cons]
        exact first (i :: front) k between (congrArg (i :: ·) split)

/-- What is refused is what the first clash is about. -/
theorem checkIndexNames_eq_error_iff (keyed : t.WellKeyed) {d : Dialect} {u : Unsupported} :
    t.checkIndexNames d = .error u ↔
      ∃ before i construct, t.FirstClash before i ∧ t.Refuses before i construct ∧
        u = ⟨d, t.name, construct⟩ := by
  have search : ∀ construct, t.clash? [] t.indexes = some construct ↔
      ∃ before i, t.FirstClash before i ∧ t.Refuses before i construct := by
    intro construct
    have nothing : ∀ n, n ∈ [] ↔ n ∈ ([] : List Index).map (·.nameIn t.name) := fun _ => Iff.rfl
    refine (clash?_eq_some_iff keyed nothing).trans ?_
    constructor
    · rintro ⟨before, i, listed, refused, first⟩
      exact ⟨before, i, ⟨listed, refused.clashes keyed, first⟩, refused⟩
    · rintro ⟨before, i, clash, refused⟩
      exact ⟨before, i, clash.listed, refused, clash.first⟩
  rw [checkIndexNames]
  cases found : t.clash? [] t.indexes with
  | none =>
    constructor
    · exact nofun
    · rintro ⟨before, i, construct, clash, refused, -⟩
      rw [(search construct).mpr ⟨before, i, clash, refused⟩] at found
      cases found
  | some construct =>
    constructor
    · intro h
      cases h
      obtain ⟨before, i, clash, refused⟩ := (search construct).mp found
      exact ⟨before, i, construct, clash, refused, rfl⟩
    · rintro ⟨before, i, construct', clash, refused, rfl⟩
      rw [(search construct').mpr ⟨before, i, clash, refused⟩] at found
      cases found
      rfl

/-- **The check of index names decides whether a table takes a name twice.** The names are those of
its indexes and those that keep its unique columns unique: in Spanner, all indexes that the table is
created with. A table that takes a name twice is refused for the first index that clashes. -/
theorem checkIndexNames_decides (keyed : t.WellKeyed) (d : Dialect) :
    (t.checkIndexNames d = .ok () ↔ (t.indexNames ++ t.uniqueNames).Nodup) ∧
      (∀ u, t.checkIndexNames d = .error u ↔
        ∃ before i construct, t.FirstClash before i ∧ t.Refuses before i construct ∧
          u = ⟨d, t.name, construct⟩) ∧
      ∀ e, Ddl.createTable .spanner t = .ok e →
        (createdNames e.statements).Perm (t.indexNames ++ t.uniqueNames) := by
  refine ⟨?_, fun u => checkIndexNames_eq_error_iff keyed, fun e created => ?_⟩
  · rw [checkIndexNames_eq_ok_iff, List.nodup_append']
    constructor
    · exact fun ⟨nodup, apart⟩ => ⟨nodup, nodup_uniqueNames keyed, fun n hn => apart n hn⟩
    · exact fun ⟨nodup, _, apart⟩ => ⟨nodup, fun n hn => apart hn⟩
  · rw [(Ddl.nodup_names_of_createTable keyed created).1]
    exact List.perm_append_comm

end Table

namespace Shop

/-- The second of two indexes has the name that keeps the codes unique, and is refused. -/
theorem checkIndexNames_decides_members :
    let byCode : Index := ⟨some "users_by_code", ["code"], false⟩
    let doubled := (members.withIndex byCode).withIndex ⟨none, ["code"], true⟩
    doubled.WellKeyed ∧ ¬ (doubled.indexNames ++ doubled.uniqueNames).Nodup ∧
      doubled.FirstClash [byCode] ⟨none, ["code"], true⟩ ∧
      ∀ d, doubled.checkIndexNames d =
        .error ⟨d, "users", .indexNamedAsUnique "users_code_key" "code"⟩ := by
  intro byCode doubled
  have keyed : doubled.WellKeyed := (wellKeyed_members.withIndex _).withIndex _
  have clash : doubled.FirstClash [byCode] ⟨none, ["code"], true⟩ := by
    refine ⟨⟨[], rfl⟩, .inr (by decide), fun front j between h => ?_⟩
    obtain ⟨rfl, here⟩ | ⟨-, none⟩ := List.singleton_eq_append_iff.mp h
    · obtain ⟨rfl, -⟩ := List.cons.inj here
      decide
    · cases none
  have decided := Table.checkIndexNames_decides keyed
  refine ⟨keyed, mt (decided .spanner).1.mpr (by decide), clash, fun d => ?_⟩
  exact ((decided d).2.1 _).mpr ⟨_, _, _, clash, .unique (by decide) (by decide) rfl, rfl⟩

end Shop

end SchemaEvolution
