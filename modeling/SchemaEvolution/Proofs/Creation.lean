import SchemaEvolution.Proofs.IndexNames

/-!
# Tables that are created alike

Between two versions of a table that match there is no edit, and so they should be created by the
same statements. They are but for three things. The indexes may be created in another order, since
their order does not count. The texts of defaults may differ where the defaults count as the same
(`WrittenAlike`). And one version may have an index under a name that it is known by in the other
one without bearing it: an index on column `a` that has no name, and one that has the name `a`.

The last is a difference that a comparison does not see, and it is the only one
(`Ddl.createsAlike_iff`).
-/

namespace SchemaEvolution

/-! ## Defaults -/

/-- The texts of two defaults are the same in a dialect, but for what expressions say and for the
signs of zeros in constants. -/
inductive WrittenAlike (d : Dialect) : Option ColumnDefault → Option ColumnDefault → Prop
  | expressions (sql sql' : String) :
    WrittenAlike d (some (.expression sql)) (some (.expression sql'))
  | literals {v w : JsonData}
    (h : Sql.literal d v.val.unsignedZeros = Sql.literal d w.val.unsignedZeros) :
    WrittenAlike d (some (.literal v)) (some (.literal w))
  | same {x y : Option ColumnDefault} (h : Sql.defaultText? d x = Sql.defaultText? d y) :
    WrittenAlike d x y

theorem WrittenAlike.of_equivalent (d : Dialect) {x y : Option ColumnDefault}
    (h : ColumnDefault.equivalent? x y = true) : WrittenAlike d x y := by
  cases x with
  | none =>
    cases y with
    | none => exact .same rfl
    | some _ => cases h
  | some x =>
    cases y with
    | none => cases h
    | some y =>
      cases x <;> cases y <;> first | cases h; done | skip
      · exact .literals (congrArg _ (Json.agrees_iff .. |>.mp h))
      · exact .expressions ..
      · exact .same rfl

/-- Of two defaults that count as the same, both are put into statements or neither is. -/
theorem defaultText?_map_eq (d : Dialect) {x y : Option ColumnDefault}
    (h : ColumnDefault.equivalent? x y = true) (text : String) :
    (Sql.defaultText? d x).map (fun _ => text) = (Sql.defaultText? d y).map (fun _ => text) := by
  cases x with
  | none =>
    cases y with
    | none => rfl
    | some _ => cases h
  | some x =>
    cases y with
    | none => cases h
    | some y => cases x <;> cases y <;> first | rfl | cases h

/-! ## Statements without the texts of defaults -/

namespace Sql

/-- The definition with an empty text in place of the default, if it has one. -/
def ColumnDefinition.withoutDefault (c : ColumnDefinition) : ColumnDefinition :=
  { c with default? := c.default?.map fun _ => "" }

/-- The statement with an empty text in place of each default of a new table. -/
def Statement.withoutDefaults : Statement → Statement
  | .createTable t => .createTable { t with columns := t.columns.map (·.withoutDefault) }
  | s => s

end Sql

/-- The names of the indexes that statements create. -/
def createdNames (l : List Sql.Statement) : List String :=
  l.filterMap fun
    | .createIndex i => some i.name
    | _ => none

/-- The texts of the defaults in the definition of a table that statements begin with. -/
def definedDefaults : List Sql.Statement → List (Option String)
  | .createTable t :: _ => t.columns.map (·.default?)
  | _ => []

/-- Two tables are created alike: by statements that first define the same table, but for the texts
of defaults, and then create the same indexes, in whatever order. The texts are those of the
defaults of the columns, column by column, and these are written alike. -/
structure Ddl.CreatesAlike (d : Dialect) (before after : Table) (l l' : List Sql.Statement) :
    Prop where
  definition : l.head?.map (·.withoutDefaults) = l'.head?.map (·.withoutDefaults)
  indexes : l.tail.Perm l'.tail
  texts : definedDefaults l = before.columns.values.map fun c => Sql.defaultText? d c.default?
  texts' : definedDefaults l' = after.columns.values.map fun c => Sql.defaultText? d c.default?
  defaults : List.Forall₂ (fun c c' => WrittenAlike d c.default? c'.default?)
    before.columns.values after.columns.values

/-! ## Definitions of tables -/

variable {before after : Table}

namespace Ddl

namespace Postgres

theorem columnDefinition_withoutDefault {c c' : Column} (h : c.Matches c') (inlineKey : Bool) :
    (columnDefinition c inlineKey).withoutDefault =
      (columnDefinition c' inlineKey).withoutDefault := by
  simp only [columnDefinition, Sql.ColumnDefinition.withoutDefault, h.name, h.physical, h.nullable,
    h.unique, h.reference, defaultText?_map_eq .postgres h.default]

/-- The column that is declared as primary key, from the names of the flagged columns. -/
private theorem inlineKey?_eq_match (t : Table) :
    inlineKey? t = match t.primaryKey?, t.flaggedColumns.map (·.name) with
      | none, [n] => some n
      | _, _ => none := by
  unfold inlineKey?
  cases t.primaryKey? with
  | some _ => rfl
  | none =>
    cases t.flaggedColumns with
    | nil => rfl
    | cons c rest => cases rest <;> rfl

theorem inlineKey?_eq (h : before.Matches after) : inlineKey? before = inlineKey? after := by
  rw [inlineKey?_eq_match, inlineKey?_eq_match, h.primaryKey, h.map_name_flaggedColumns]

theorem tableDefinition_withoutDefaults (h : before.Matches after) :
    (Sql.Statement.createTable (tableDefinition before)).withoutDefaults =
      (Sql.Statement.createTable (tableDefinition after)).withoutDefaults := by
  have columns : ∀ key : Option String,
      (before.columns.values.map fun c => columnDefinition c (key == some c.name)).map
        (·.withoutDefault) =
      (after.columns.values.map fun c => columnDefinition c (key == some c.name)).map
        (·.withoutDefault) := by
    intro key
    rw [List.map_map, List.map_map]
    refine map_eq_of_forall₂ (NameMap.forall₂_values h.columns) fun c c' hc => ?_
    dsimp only [Function.comp_apply]
    rw [columnDefinition_withoutDefault hc, hc.name]
  simp only [Sql.Statement.withoutDefaults, tableDefinition, inlineKey?_eq h, columns, trailingKey?,
    h.keyColumns_eq, h.primaryKey, h.name]

end Postgres

namespace Spanner

theorem columnDefinition_withoutDefault {c c' : Column} (h : c.Matches c') (notNull : Bool) :
    (columnDefinition c notNull).withoutDefault = (columnDefinition c' notNull).withoutDefault := by
  simp only [columnDefinition, Sql.ColumnDefinition.withoutDefault, h.name, h.physical,
    defaultText?_map_eq .spanner h.default]

theorem uniqueColumns_eq (h : before.Matches after) : uniqueColumns before = uniqueColumns after :=
  h.map_name_filter fun _ _ hc => hc.unique

theorem references_eq (h : before.Matches after) : references before = references after := by
  have columns : (before.columns.values.map fun c => c.reference?.map (c.name, ·)) =
      after.columns.values.map fun c => c.reference?.map (c.name, ·) :=
    map_eq_of_forall₂ (NameMap.forall₂_values h.columns) fun c c' hc => by
      rw [hc.reference, hc.name]
  have picked := congrArg (List.filterMap id) columns
  rwa [List.filterMap_map, List.filterMap_map] at picked

theorem tableDefinition_withoutDefaults (h : before.Matches after) :
    (Sql.Statement.createTable (tableDefinition before)).withoutDefaults =
      (Sql.Statement.createTable (tableDefinition after)).withoutDefaults := by
  have columns : (before.columns.values.map fun c => columnDefinition c (isNotNull before c)).map
        (·.withoutDefault) =
      (after.columns.values.map fun c => columnDefinition c (isNotNull after c)).map
        (·.withoutDefault) := by
    rw [List.map_map, List.map_map]
    refine map_eq_of_forall₂ (NameMap.forall₂_values h.columns) fun c c' hc => ?_
    dsimp only [Function.comp_apply, isNotNull]
    rw [columnDefinition_withoutDefault hc, hc.nullable, hc.primaryKey, hc.name, h.keyColumns_eq]
  simp only [Sql.Statement.withoutDefaults, tableDefinition, columns, references_eq h,
    h.keyColumns_eq, h.interleave, h.name]

end Spanner

/-- The definition that a table is created with. -/
def tableDefinition : Dialect → Table → Sql.TableDefinition
  | .postgres => Postgres.tableDefinition
  | .spanner => Spanner.tableDefinition

/-- The statements that keep columns unique, where that takes an index. -/
def createUniques : Dialect → Table → List Sql.Statement
  | .postgres, _ => []
  | .spanner, t => (Spanner.uniqueColumns t).map (Spanner.createUnique t.name)

/-- A table that is created passes the check of its index names, and is defined before its indexes
are created. -/
theorem createTable_eq_ok {d : Dialect} {t : Table} {e : Emission} (h : createTable d t = .ok e) :
    t.checkIndexNames d = .ok () ∧
      e.statements = .createTable (tableDefinition d t) ::
        (createUniques d t ++ t.indexes.map (createIndex t.name)) := by
  cases d <;>
  · obtain ⟨_, checked, hstatements⟩ := bind_eq_ok.mp h
    cases hstatements
    exact ⟨checked, rfl⟩

theorem tableDefinition_withoutDefaults (d : Dialect) (h : before.Matches after) :
    (Sql.Statement.createTable (tableDefinition d before)).withoutDefaults =
      (Sql.Statement.createTable (tableDefinition d after)).withoutDefaults := by
  cases d
  · exact Postgres.tableDefinition_withoutDefaults h
  · exact Spanner.tableDefinition_withoutDefaults h

theorem defaults_tableDefinition (d : Dialect) (t : Table) :
    (tableDefinition d t).columns.map (·.default?) =
      t.columns.values.map fun c => Sql.defaultText? d c.default? := by
  cases d <;> exact List.map_map

theorem createUniques_eq (d : Dialect) (h : before.Matches after) :
    createUniques d before = createUniques d after := by
  cases d with
  | postgres => rfl
  | spanner => rw [createUniques, createUniques, Spanner.uniqueColumns_eq h, h.name]

end Ddl

/-! ## Names of indexes -/

theorem length_intercalate_congr {s s' : String} (h : s.length = s'.length) (l : List String) :
    (s.intercalate l).length = (s'.intercalate l).length := by
  induction l with
  | nil => rw [String.intercalate_nil, String.intercalate_nil]
  | cons x rest ih =>
    cases rest with
    | nil => rw [String.intercalate_singleton, String.intercalate_singleton]
    | cons y rest =>
      rw [String.intercalate_cons_cons, String.intercalate_cons_cons, String.length_append,
        String.length_append, String.length_append, String.length_append, h, ih]

/-- What an index without a name is known by is shorter than the name that is made for it. -/
theorem Index.length_identity_lt {i : Index} (h : i.name = none) (table : String) :
    i.identity.length < (i.nameIn table).length := by
  have hseparator : ",".length = "_".length := rfl
  have hlength := length_intercalate_congr hseparator i.columns
  unfold identity nameIn
  simp only [h, Option.getD_none, String.length_append]
  have : "_".length = 1 := rfl
  omega

/-- An index that has a name is known by it and bears it. -/
theorem Index.nameIn_eq_identity {i : Index} (h : i.name ≠ none) (table : String) :
    i.nameIn table = i.identity := by
  obtain ⟨n, hn⟩ := Option.ne_none_iff_exists'.mp h
  rw [nameIn, identity, hn, Option.getD_some, Option.getD_some]

/-- The name that is made for an index is made from its content. -/
theorem Index.nameIn_eq_of_content {i j : Index} (hi : i.name = none) (hj : j.name = none)
    (h : i.content = j.content) (table : String) : i.nameIn table = j.nameIn table := by
  obtain ⟨hcolumns, hunique⟩ := Prod.mk.inj h
  rw [nameIn, nameIn, hi, hj, hcolumns, hunique]

namespace Table

/-- An index of a table that matches another one has a counterpart there. -/
theorem Matches.exists_counterpart (h : before.Matches after)
    (distinctBefore : before.DistinctIdentities) (distinctAfter : after.DistinctIdentities)
    {j : Index} (hj : j ∈ after.indexes) :
    ∃ i ∈ before.indexes, i.identity = j.identity ∧ i.content = j.content := by
  have hfind := (find?_indexesByIdentity distinctAfter).mpr ⟨hj, rfl⟩
  have hcontent := h.indexes j.identity
  rw [hfind, Option.map_some] at hcontent
  obtain ⟨i, hi, heq⟩ := Option.map_eq_some_iff.mp hcontent
  obtain ⟨hi, hid⟩ := (find?_indexesByIdentity distinctBefore).mp hi
  exact ⟨i, hi, hid, heq⟩

theorem eq_of_identity (distinct : after.DistinctIdentities) {i j : Index} (hi : i ∈ after.indexes)
    (hj : j ∈ after.indexes) (h : i.identity = j.identity) : i = j :=
  List.inj_on_of_nodup_map distinct hi hj h

/-- Where every name of one table is a name of a table that it matches, no index with a name
corresponds to one without. -/
theorem Matches.named_of_named (h : before.Matches after)
    (distinctBefore : before.DistinctIdentities) (distinctAfter : after.DistinctIdentities)
    (nodup : before.indexNames.Nodup) (names : before.indexNames ⊆ after.indexNames) {i j : Index}
    (hi : i ∈ before.indexes) (hj : j ∈ after.indexes) (hid : i.identity = j.identity)
    (hnamed : i.name ≠ none) : j.name ≠ none := by
  intro hunnamed
  -- The name could only be made for another index. What that is known by is the name of an index of
  -- the first table again, and it is shorter.
  induction hlength : i.identity.length using Nat.strong_induction_on generalizing i j with
  | _ length ih =>
    subst hlength
    obtain ⟨l, hl, hlname⟩ := List.mem_map.mp (names (List.mem_map_of_mem hi))
    have hname := Index.nameIn_eq_identity hnamed before.name
    by_cases hmade : l.name = none
    · obtain ⟨m, hm, hid', hcontent⟩ := h.exists_counterpart distinctBefore distinctAfter hl
      by_cases hmade' : m.name = none
      · have hsame : m.nameIn before.name = i.nameIn before.name := by
          rw [Index.nameIn_eq_of_content hmade' hmade hcontent, h.name, hlname, h.name]
        obtain rfl := List.inj_on_of_nodup_map nodup hm hi hsame
        exact hnamed hmade'
      · have hshorter : m.identity.length < i.identity.length := by
          have hlt := Index.length_identity_lt hmade after.name
          rwa [hlname, hname, ← hid'] at hlt
        exact ih _ hshorter hm hl hid' hmade' hmade rfl
    · have hlid : l.identity = j.identity := by
        rw [← Index.nameIn_eq_identity hmade after.name, hlname, hname, hid]
      exact hmade (eq_of_identity distinctAfter hl hj hlid ▸ hunnamed)

/-- Tables that match and have the same index names are named apart. -/
theorem Matches.namedApart_of_perm (h : before.Matches after)
    (distinctBefore : before.DistinctIdentities) (distinctAfter : after.DistinctIdentities)
    (nodup : before.indexNames.Nodup) (names : before.indexNames.Perm after.indexNames) :
    before.NamedApart after := by
  constructor
  · intro i hi j hj hnone hsome
    refine h.named_of_named distinctBefore distinctAfter nodup names.subset hi hj ?_ ?_ hnone
    · rw [Index.identity, Index.identity, hsome, hnone]
      rfl
    · rw [hsome]
      exact Option.some_ne_none _
  · intro i hi j hj hnone hsome
    refine (Table.matches_equivalence.symm h).named_of_named distinctAfter distinctBefore
      (names.nodup_iff.mp nodup) names.symm.subset hi hj ?_ ?_ hnone
    · rw [Index.identity, Index.identity, hsome, hnone]
      rfl
    · rw [hsome]
      exact Option.some_ne_none _

/-- Tables that are named apart and between whose indexes there is no edit have the same indexes. -/
theorem NamedApart.perm_indexes (apart : before.NamedApart after)
    (distinctBefore : before.DistinctIdentities) (distinctAfter : after.DistinctIdentities)
    (h : IndexEdit.between before after = []) : before.indexes.Perm after.indexes := by
  have leaving := IndexEdit.leaving_perm distinctBefore distinctAfter apart
  have arriving := IndexEdit.arriving_perm distinctBefore distinctAfter apart
  rw [h, List.filterMap_nil, List.nil_perm, List.filter_eq_nil_iff] at leaving arriving
  refine (List.perm_ext_iff_of_nodup (List.Nodup.of_map _ distinctBefore)
    (List.Nodup.of_map _ distinctAfter)).mpr fun i => ⟨fun hi => ?_, fun hi => ?_⟩
  · simpa using leaving i hi
  · simpa using arriving i hi

end Table

/-! ## Statements -/

theorem createdNames_append (l l' : List Sql.Statement) :
    createdNames (l ++ l') = createdNames l ++ createdNames l' :=
  List.filterMap_append

theorem createdNames_map_createIndex (t : Table) :
    createdNames (t.indexes.map (Ddl.createIndex t.name)) = t.indexNames := by
  rw [createdNames, List.filterMap_map, Table.indexNames, ← List.filterMap_eq_map]
  rfl

namespace Ddl

/-- **Two versions of a table between which there is no edit are created alike exactly if they are
named apart**, and exactly then they create indexes of the same names. -/
theorem createsAlike_iff (hbefore : before.WellKeyed) (hafter : after.WellKeyed)
    (hname : before.name = after.name) (distinctBefore : before.DistinctIdentities)
    (distinctAfter : after.DistinctIdentities) (same : TableEdit.between before after = none)
    {d : Dialect} {e e' : Emission} (created : createTable d before = .ok e)
    (created' : createTable d after = .ok e') :
    (CreatesAlike d before after e.statements e'.statements ↔ before.NamedApart after) ∧
      ((createdNames e.statements).Perm (createdNames e'.statements) ↔
        before.NamedApart after) := by
  have hmatches := (TableEdit.between_eq_none_iff_matches hbefore hafter hname).mp same
  obtain ⟨checked, hstatements⟩ := createTable_eq_ok created
  obtain ⟨checked', hstatements'⟩ := createTable_eq_ok created'
  have alike_of_apart : before.NamedApart after →
      CreatesAlike d before after e.statements e'.statements := by
    intro apart
    have indexes := apart.perm_indexes distinctBefore distinctAfter
      (TableEdit.between_eq_none_iff.mp same).2.1
    rw [hstatements, hstatements']
    exact {
      definition := congrArg some (tableDefinition_withoutDefaults d hmatches)
      indexes := by
        rw [List.tail_cons, List.tail_cons, createUniques_eq d hmatches, hname]
        exact (indexes.map _).append_left _
      texts := defaults_tableDefinition d before
      texts' := defaults_tableDefinition d after
      defaults := (NameMap.forall₂_values hmatches.columns).imp fun _ _ hc =>
        .of_equivalent d hc.default }
  have names_of_alike : CreatesAlike d before after e.statements e'.statements →
      (createdNames e.statements).Perm (createdNames e'.statements) := by
    intro alike
    have tails := alike.indexes.filterMap (fun
      | Sql.Statement.createIndex i => some i.name
      | _ => none)
    rw [hstatements, hstatements'] at tails ⊢
    exact tails
  have apart_of_names : (createdNames e.statements).Perm (createdNames e'.statements) →
      before.NamedApart after := by
    intro names
    have hcons : ∀ (definition : Sql.TableDefinition) (l : List Sql.Statement),
        createdNames (.createTable definition :: l) = createdNames l := fun _ _ => rfl
    rw [hstatements, hstatements', hcons, hcons, createdNames_append, createdNames_append,
      createUniques_eq d hmatches, List.perm_append_left_iff, createdNames_map_createIndex,
      createdNames_map_createIndex] at names
    exact hmatches.namedApart_of_perm distinctBefore distinctAfter
      (Table.checkIndexNames_eq_ok_iff.mp checked).1 names
  exact ⟨⟨fun h => apart_of_names (names_of_alike h), alike_of_apart⟩,
    ⟨apart_of_names, fun h => names_of_alike (alike_of_apart h)⟩⟩

end Ddl

namespace Shop

/-- Shelves with their place and the time since when they are there, which is given by an
expression. -/
def shelves (indexes : List Index) (sql : String) : Table :=
  { ((numbered "shelves").withColumn (number "place")).withColumn
      ((number "since").withDefault (.expression sql)) with indexes }

theorem wellKeyed_shelves (indexes : List Index) (sql : String) :
    (shelves indexes sql).WellKeyed :=
  ((wellKeyed_numbered _).withColumn _).withColumn _

/-- An index that has no name, and one that has. -/
def byPlaceAndTime : List Index :=
  [⟨none, ["place"], false⟩, ⟨some "by_time", ["since"], false⟩]

/-- Versions that have their indexes in different orders, and different expressions. -/
theorem createsAlike_shelves :
    ((shelves byPlaceAndTime "now()").WellKeyed ∧
      (shelves byPlaceAndTime.reverse "localtime").WellKeyed ∧
      (shelves byPlaceAndTime "now()").DistinctIdentities ∧
      (shelves byPlaceAndTime.reverse "localtime").DistinctIdentities ∧
      TableEdit.between (shelves byPlaceAndTime "now()")
        (shelves byPlaceAndTime.reverse "localtime") = none ∧
      (shelves byPlaceAndTime "now()").NamedApart (shelves byPlaceAndTime.reverse "localtime")) ∧
    ∃ e e', Ddl.createTable .spanner (shelves byPlaceAndTime "now()") = .ok e ∧
      Ddl.createTable .spanner (shelves byPlaceAndTime.reverse "localtime") = .ok e' ∧
      createdNames e.statements = ["shelves_place_idx", "by_time"] ∧
      createdNames e'.statements = ["by_time", "shelves_place_idx"] ∧
      Ddl.CreatesAlike .spanner (shelves byPlaceAndTime "now()")
        (shelves byPlaceAndTime.reverse "localtime") e.statements e'.statements ∧
      (createdNames e.statements).Perm (createdNames e'.statements) := by
  have apart : (shelves byPlaceAndTime "now()").NamedApart
      (shelves byPlaceAndTime.reverse "localtime") := by decide
  have alike := Ddl.createsAlike_iff (wellKeyed_shelves byPlaceAndTime "now()")
    (wellKeyed_shelves byPlaceAndTime.reverse "localtime") rfl (by decide) (by decide) (by decide)
    (d := .spanner) rfl rfl
  exact ⟨⟨wellKeyed_shelves _ _, wellKeyed_shelves _ _, by decide, by decide, by decide, apart⟩,
    _, _, rfl, rfl, by decide, by decide, alike.1.mpr apart, alike.2.mpr apart⟩

/-- Weights with a mass that is zero unless another is given. -/
def weights (negative : Bool) : Table :=
  (numbered "weights").withColumn ((number "mass").withDefault
    (.literal ⟨.number (.double (.zero negative)), by simp [Json.Ordered]⟩))

/-- **Versions without an edit between them that are not created alike.** An index has the name that
it is known by without one: it is created under another name. A default is the one zero or the
other: they are written differently, and there is neither an index nor an expression. -/
theorem created_differently :
    (((shelves [⟨some "place", ["place"], false⟩] "now()").WellKeyed ∧
        (shelves [⟨none, ["place"], false⟩] "now()").WellKeyed) ∧
      ((shelves [⟨some "place", ["place"], false⟩] "now()").DistinctIdentities ∧
        (shelves [⟨none, ["place"], false⟩] "now()").DistinctIdentities) ∧
      TableEdit.between (shelves [⟨some "place", ["place"], false⟩] "now()")
        (shelves [⟨none, ["place"], false⟩] "now()") = none ∧
      ∀ d, ∃ e e', Ddl.createTable d (shelves [⟨some "place", ["place"], false⟩] "now()") = .ok e ∧
        Ddl.createTable d (shelves [⟨none, ["place"], false⟩] "now()") = .ok e' ∧
        createdNames e.statements = ["place"] ∧
        createdNames e'.statements = ["shelves_place_idx"]) ∧
    (((weights false).WellKeyed ∧ (weights true).WellKeyed) ∧
      ((weights false).indexes = [] ∧ (weights true).indexes = []) ∧
      TableEdit.between (weights false) (weights true) = none ∧
      ∀ d, ∃ e e', Ddl.createTable d (weights false) = .ok e ∧
        Ddl.createTable d (weights true) = .ok e' ∧
        (e.statements.tail = [] ∧ e'.statements.tail = []) ∧
        definedDefaults e.statements = [none, some "0.0"] ∧
        definedDefaults e'.statements = [none, some "-0.0"]) := by
  refine ⟨⟨⟨wellKeyed_shelves _ _, wellKeyed_shelves _ _⟩, ⟨by decide, by decide⟩, by decide,
    fun d => ?_⟩, ⟨(wellKeyed_numbered _).withColumn _, (wellKeyed_numbered _).withColumn _⟩,
    ⟨rfl, rfl⟩, by decide, fun d => ?_⟩
  · cases d <;> exact ⟨_, _, rfl, rfl, by decide, by decide⟩
  · cases d <;> exact ⟨_, _, rfl, rfl, ⟨rfl, rfl⟩, by decide, by decide⟩

end Shop

end SchemaEvolution
