import SchemaEvolution.Proofs.Alterations

/-!
# The foreign keys of a table

What the database keeps of foreign keys are constraints, each with its column and what it refers to,
under names of which no two are equal. `ForeignKeys.execute` says what a statement makes of them and
what the database refuses: to use a name that is in use, to drop a constraint that is not there, and
for Spanner to drop a column that has a foreign key.

A change of a table deals with one column after the other, and while it runs some columns have the
foreign keys of the new version and the others those of the old one (`ColumnEdit.midway`). A name
can pass from one column to another, and is free for the second only if the first was dealt with
before. That is the one thing that can go wrong (`ForeignKeys.replay_alteration`): the statements
are accepted exactly if each name that passes on does so in the order of the edits, which is from a
column to one of a greater name, both of them in both versions (`Table.HandsOnInTurn`).
-/

namespace SchemaEvolution

/-! ## Entries of a map that are kept -/

namespace NameMap

variable {α : Type}

/-- The entries of a map whose values have a property. -/
def keep (m : NameMap α) (p : α → Bool) : NameMap α where
  entries := m.entries.filter (p ·.2)
  ascending := m.ascending.sublist (List.filter_sublist.map Prod.fst)

theorem find?_keep {m : NameMap α} {p : α → Bool} {n : String} {v : α} :
    (m.keep p).find? n = some v ↔ m.find? n = some v ∧ p v = true := by
  rw [find?_eq_some_iff, find?_eq_some_iff]
  exact List.mem_filter

end NameMap

/-! ## Names that pass from one column to another -/

namespace Table

variable {t u : Table}

/-- Each name of a foreign key that passes from one column to another does so in the order of the
columns, and both columns are there before and after. -/
def HandsOnInTurn (t u : Table) : Prop :=
  ∀ p ∈ Ddl.Spanner.references t, ∀ q ∈ Ddl.Spanner.references u, p.1 ≠ q.1 →
    p.2.nameFor t.name p.1 = q.2.nameFor u.name q.1 →
      t.columns.contains q.1 = true ∧ u.columns.contains p.1 = true ∧ p.1 < q.1

instance : Decidable (t.HandsOnInTurn u) :=
  inferInstanceAs (Decidable (∀ p ∈ _, ∀ q ∈ _, _))

/-- The name of a foreign key passes from one column to another: the one had a foreign key under it,
and the other is to have one. -/
def HandsOn (t u : Table) (b c : String) : Prop :=
  ∃ x ∈ t.referenceAt b, ∃ y ∈ u.referenceAt c, x.nameFor t.name b = y.nameFor u.name c

theorem handsOnInTurn_iff (ht : t.WellKeyed) (hu : u.WellKeyed) :
    t.HandsOnInTurn u ↔ ∀ b c, b ≠ c → t.HandsOn u b c →
      t.columns.contains c = true ∧ u.columns.contains b = true ∧ b < c := by
  simp only [HandsOnInTurn, HandsOn, Prod.forall, mem_referencePairs ht, mem_referencePairs hu,
    Option.mem_def]
  exact ⟨fun h b c hne ⟨x, hx, y, hy, heq⟩ => h b x hx c y hy hne heq,
    fun h b x hx c y hy hne heq => h b c hne ⟨x, hx, y, hy, heq⟩⟩

end Table

/-! ## What the database keeps of foreign keys -/

/-- A foreign key, as the database keeps it under the name of its constraint. -/
structure KeptReference where
  column : String
  target : Sql.Target
deriving DecidableEq

/-- What a foreign key refers to in a dialect. -/
def Ddl.target : Dialect → Reference → Sql.Target
  | .postgres, r => Postgres.target r
  | .spanner, r => ⟨r.table, r.column, r.onDelete.map Spanner.deleteAction⟩

namespace ForeignKeys

open Function (update)
open ColumnEdit (midway)

/-- Keeps a foreign key under a name, unless that is in use. -/
def declare (kept : NameMap KeptReference) (name : String) (r : KeptReference) :
    Option (NameMap KeptReference) :=
  if kept.contains name then none else some (kept.insert name r)

/-- What a change of a table makes of its foreign keys, or `none` if it is refused. `others` are the
names of the constraints that are no foreign keys; to drop one of them leaves the foreign keys as
they are. -/
def alter (d : Dialect) (table : String) (others : List String) (kept : NameMap KeptReference) :
    Sql.AlterClause → Option (NameMap KeptReference)
  | .addColumn c =>
    match c.reference? with
    | some r => declare kept (r.name.getD (table ++ "_" ++ c.name ++ "_fkey")) ⟨c.name, r.target⟩
    | none => some kept
  | .addForeignKey key => declare kept key.name ⟨key.column, key.target⟩
  | .dropConstraint name =>
    if kept.contains name then some (kept.erase name)
    else if name ∈ others then some kept else none
  | .dropColumn c =>
    match d with
    | .postgres => some (kept.keep (·.column ≠ c))
    | .spanner => if kept.values.any (·.column = c) then none else some kept
  | _ => some kept

/-- What a statement makes of the foreign keys of a table, or `none` if it is refused. -/
def execute (d : Dialect) (table : String) (others : List String)
    (kept : NameMap KeptReference) : Sql.Statement → Option (NameMap KeptReference)
  | .alterTable name clause => if name = table then alter d table others kept clause else some kept
  | _ => some kept

/-- The foreign keys that the database is to have for a table. -/
def ofTable (d : Dialect) (t : Table) : NameMap KeptReference :=
  .ofList ((Ddl.Spanner.references t).map fun r =>
    (r.2.nameFor t.name r.1, ⟨r.1, Ddl.target d r.2⟩))

/-- The names of the constraints of a table that are no foreign keys: in PostgreSQL those of unique
columns and of the primary key, which Spanner does not keep as constraints. -/
def otherNames : Dialect → Table → List String
  | .postgres, t => t.uniqueNames ++ t.keyNames
  | .spanner, _ => []

/-- What statements make of the foreign keys of one version of a table where they lead to another,
or `none` if one of them is refused. -/
def replay (d : Dialect) (before after : Table) (statements : List Sql.Statement) :
    Option (NameMap KeptReference) :=
  statements.foldlM (execute d after.name (otherNames d before)) (ofTable d before)

/-- What is kept are the foreign keys of columns. -/
def Keeps (d : Dialect) (table : String) (reference : String → Option Reference)
    (kept : NameMap KeptReference) : Prop :=
  ∀ n k, kept.find? n = some k ↔
    ∃ r, reference k.column = some r ∧ r.nameFor table k.column = n ∧ Ddl.target d r = k.target

section

variable {d : Dialect} {table : String} {reference : String → Option Reference}
  {kept kept' : NameMap KeptReference}

theorem Keeps.unique (h : Keeps d table reference kept) (h' : Keeps d table reference kept') :
    kept = kept' := by
  refine NameMap.ext_find? fun n => Option.ext fun k => ?_
  rw [h n k, h' n k]

theorem Keeps.contains_iff (h : Keeps d table reference kept) {n : String} :
    kept.contains n = true ↔ ∃ c r, reference c = some r ∧ r.nameFor table c = n := by
  rw [NameMap.contains_iff]
  constructor
  · rintro ⟨k, hk⟩
    obtain ⟨r, hr, hn, -⟩ := (h n k).mp hk
    exact ⟨k.column, r, hr, hn⟩
  · rintro ⟨c, r, hr, hn⟩
    exact ⟨⟨c, Ddl.target d r⟩, (h n _).mpr ⟨r, hr, hn, rfl⟩⟩

/-- No two columns have a foreign key under one name. -/
theorem Keeps.column_eq (h : Keeps d table reference kept) {b c : String} {x y : Reference}
    (hx : reference b = some x) (hy : reference c = some y)
    (heq : x.nameFor table b = y.nameFor table c) : b = c := by
  have hb := (h _ ⟨b, Ddl.target d x⟩).mpr ⟨x, hx, rfl, rfl⟩
  have hc := (h _ ⟨c, Ddl.target d y⟩).mpr ⟨y, hy, heq.symm, rfl⟩
  exact congrArg KeptReference.column (Option.some.inj (hb.symm.trans hc))

/-- The foreign keys of a table are kept, each under a name of its own. -/
theorem keeps_ofTable (d : Dialect) {t : Table} (keyed : t.WellKeyed)
    (distinct : t.referenceNames.Nodup) : Keeps d t.name t.referenceAt (ofTable d t) := by
  intro n k
  have names : ((Ddl.Spanner.references t).map fun r =>
      (r.2.nameFor t.name r.1, (⟨r.1, Ddl.target d r.2⟩ : KeptReference))).map Prod.fst =
        t.referenceNames := by
    rw [List.map_map]
    rfl
  rw [ofTable, NameMap.find?_ofList_eq_some_iff (names ▸ distinct), List.mem_map]
  constructor
  · rintro ⟨⟨c, r⟩, hr, heq⟩
    cases heq
    exact ⟨r, (Table.mem_referencePairs keyed).mp hr, rfl, rfl⟩
  · rintro ⟨r, hr, rfl, htarget⟩
    exact ⟨(k.column, r), (Table.mem_referencePairs keyed).mpr hr, by rw [htarget]⟩

/-! ## One column -/

/-- No other column has a foreign key under the name of that of a column. -/
def Free (table : String) (reference : String → Option Reference) (c : String) (r : Reference) :
    Prop :=
  ∀ b x, reference b = some x → x.nameFor table b = r.nameFor table c → b = c

theorem free_update (y? : Option Reference) {c : String} {r : Reference} :
    Free table (update reference c y?) c r ↔ Free table reference c r := by
  refine forall_congr' fun b => ?_
  by_cases hb : b = c
  · simp only [hb, implies_true]
  · rw [Function.update_of_ne hb]

/-- What is kept of the other columns is kept as before. -/
theorem Keeps.of_ne (h : Keeps d table reference kept) {c n : String} {k : KeptReference}
    {y? : Option Reference} (hne : k.column ≠ c) : kept.find? n = some k ↔
      ∃ r, update reference c y? k.column = some r ∧ r.nameFor table k.column = n ∧
        Ddl.target d r = k.target := by
  rw [Function.update_of_ne hne]
  exact h n k

/-- A column has no foreign key after that was dropped. -/
theorem Keeps.erase (h : Keeps d table reference kept) {c : String} {r : Reference}
    (hr : reference c = some r) :
    Keeps d table (update reference c none) (kept.erase (r.nameFor table c)) := by
  intro n k
  rw [NameMap.find?_erase]
  by_cases hc : k.column = c
  · rw [hc, Function.update_self]
    refine iff_of_false (fun hk => ?_) nofun
    split at hk
    · cases hk
    · rename_i hn
      obtain ⟨x, hx, rfl, -⟩ := (h n k).mp hk
      rw [hc] at hx hn
      exact hn (Option.some.inj (hr.symm.trans hx) ▸ rfl)
  · rw [← h.of_ne hc]
    refine ⟨fun hk => ?_, fun hk => ?_⟩
    · split at hk
      · cases hk
      · exact hk
    · obtain ⟨x, hx, hname, -⟩ := (h n k).mp hk
      rw [if_neg fun hn => hc (h.column_eq hx hr (hname.trans hn.symm))]
      exact hk

/-- A column has no foreign key after those of the column were given up. -/
theorem Keeps.keep (h : Keeps d table reference kept) (c : String) :
    Keeps d table (update reference c none) (kept.keep (·.column ≠ c)) := by
  intro n k
  rw [NameMap.find?_keep, decide_eq_true_eq]
  by_cases hc : k.column = c
  · rw [hc, Function.update_self]
    exact iff_of_false (fun hk => hk.2 rfl) nofun
  · rw [← h.of_ne hc]
    exact and_iff_left hc

/-- A foreign key is declared if its name is free. -/
theorem Keeps.declared (h : Keeps d table reference kept) {c : String} (hc : reference c = none)
    (r : Reference) :
    Leads (declare kept (r.nameFor table c) ⟨c, Ddl.target d r⟩)
      (Free table reference c r) (Keeps d table (update reference c (some r))) := by
  have free : Free table reference c r ↔ ¬ kept.contains (r.nameFor table c) = true := by
    rw [h.contains_iff]
    constructor
    · rintro free ⟨b, x, hx, hname⟩
      rw [free b x hx hname, hc] at hx
      cases hx
    · exact fun unused b x hx hname => absurd ⟨b, x, hx, hname⟩ unused
  refine ⟨fun hfree => ⟨_, if_neg (free.mp hfree), fun n k => ?_⟩,
    fun taken => if_pos (Decidable.not_not.mp fun unused => taken (free.mpr unused))⟩
  rw [NameMap.find?_insert]
  by_cases hk : k.column = c
  · obtain ⟨column, target⟩ := k
    obtain rfl : column = c := hk
    rw [Function.update_self]
    simp only [Option.some.injEq, exists_eq_left']
    split
    · rename_i hn
      simp only [hn, true_and, Option.some.injEq, KeptReference.mk.injEq]
    · rename_i hn
      refine iff_of_false (fun hkept => ?_) fun hr => hn hr.1
      obtain ⟨x, hx, -⟩ := (h n _).mp hkept
      rw [hc] at hx
      cases hx
  · rw [← h.of_ne hk]
    split
    · rename_i hn
      refine iff_of_false (fun heq => hk ?_) fun hkept => hk ?_
      · exact congrArg KeptReference.column (Option.some.inj heq).symm
      · obtain ⟨x, hx, hname, -⟩ := (h n k).mp hkept
        exact hfree _ x hx (hname.trans hn.symm)
    · exact Iff.rfl

/-! ## Statements -/

variable {others : List String}

theorem execute_alterTable (kept : NameMap KeptReference) (clause : Sql.AlterClause) :
    execute d table others kept (.alterTable table clause) = alter d table others kept clause :=
  if_pos rfl

/-- The statements that put a foreign key of a column, or none, in the place of another. -/
def exchange (d : Dialect) (table column : String) (x? y? : Option Reference) :
    List Sql.Statement :=
  x?.toList.map (fun r => .alterTable table (.dropConstraint (r.nameFor table column))) ++
    y?.toList.map fun r =>
      .alterTable table (.addForeignKey ⟨r.nameFor table column, column, Ddl.target d r⟩)

theorem Keeps.exchanged (h : Keeps d table reference kept) (others : List String) (c : String)
    (y? : Option Reference) :
    Leads ((exchange d table c (reference c) y?).foldlM
        (execute d table others) kept)
      (∀ r ∈ y?, Free table reference c r) (Keeps d table (update reference c y?)) := by
  -- first the old foreign key goes, and then the column has none
  obtain ⟨dropped, hrun, hdropped⟩ : ∃ dropped,
      ((reference c).toList.map fun r => Sql.Statement.alterTable table
        (.dropConstraint (r.nameFor table c))).foldlM (execute d table others) kept = some dropped ∧
      Keeps d table (update reference c none) dropped := by
    cases hr : reference c with
    | none =>
      refine ⟨kept, rfl, ?_⟩
      rwa [← hr, Function.update_eq_self]
    | some r =>
      have there : kept.contains (r.nameFor table c) = true := h.contains_iff.mpr ⟨c, r, hr, rfl⟩
      refine ⟨_, ?_, h.erase hr⟩
      rw [Option.toList_some, List.map_singleton, List.foldlM_cons, execute_alterTable, alter,
        if_pos there]
      rfl
  rw [exchange, List.foldlM_append, hrun]
  cases y? with
  | none => exact (Leads.some hdropped).congr (iff_of_true trivial nofun)
  | some r =>
    have declared := hdropped.declared (Function.update_self ..) r
    rw [Function.update_idem, free_update] at declared
    have run : ([r].map fun r => Sql.Statement.alterTable table (.addForeignKey
        ⟨r.nameFor table c, c, Ddl.target d r⟩)).foldlM (execute d table others) dropped =
          declare dropped (r.nameFor table c) ⟨c, Ddl.target d r⟩ := by
      rw [List.map_singleton, List.foldlM_cons, execute_alterTable]
      exact bind_pure _
    rw [Option.toList_some, Option.bind_eq_bind, Option.bind_some, run]
    simpa only [Option.mem_def, Option.some.injEq, forall_eq'] using declared

/-! ## Properties of a column -/

/-- The edit of any other property leaves the foreign keys as they are. -/
theorem execute_fieldStatements {c : Column} {keyColumn : Bool} {edits : List FieldEdit}
    {edit : FieldEdit} (other : ∀ x y, edit ≠ .reference x y)
    (unique : d = .postgres → edit = .unique false →
      uniqueName table c.name ∈ others ∧ kept.contains (uniqueName table c.name) = false) :
    ∀ s ∈ Ddl.fieldStatements d table c keyColumn edits edit,
      execute d table others kept s = some kept := by
  have default : ∀ x y, ∀ s ∈ Ddl.changeDefault d table c.name x y,
      execute d table others kept s = some kept := by
    intro x y
    unfold Ddl.changeDefault
    split <;> simp [execute_alterTable, alter]
  cases edit with
  | reference x y => exact absurd rfl (other x y)
  | default x y => cases d <;> exact default x y
  | unique b =>
    cases d with
    | spanner =>
      cases b <;> exact fun s hs => List.mem_singleton.mp hs ▸ rfl
    | postgres =>
      cases b with
      | true => simp [Ddl.fieldStatements, Ddl.Postgres.editField, execute_alterTable, alter]
      | false =>
        obtain ⟨known, apart⟩ := unique rfl rfl
        simp [Ddl.fieldStatements, Ddl.Postgres.editField, execute_alterTable, alter, known, apart]
  | type _ _ =>
    cases d <;> simp [Ddl.fieldStatements, Ddl.Postgres.editField, Ddl.Spanner.editField,
      Ddl.Spanner.restate, execute_alterTable, alter]
  | nullable b =>
    cases d <;> cases b <;> simp [Ddl.fieldStatements, Ddl.Postgres.editField,
      Ddl.Spanner.editField, Ddl.Spanner.restate, execute_alterTable, alter]
  | primaryKey _ => cases d <;> exact List.forall_mem_nil _

theorem fieldStatements_reference (d : Dialect) (table : String) (c : Column) (keyColumn : Bool)
    (edits : List FieldEdit) (x? y? : Option Reference) :
    Ddl.fieldStatements d table c keyColumn edits (.reference x? y?) =
      exchange d table c.name x? y? := by
  cases d with
  | postgres => rfl
  | spanner => cases x? <;> cases y? <;> rfl

/-- The name of a foreign key that is kept is free for its column. -/
theorem Keeps.free (h : Keeps d table reference kept) {c : String} {r : Reference}
    (hr : reference c = some r) : Free table reference c r :=
  fun _ _ hx hname => h.column_eq hx hr hname

/-- The foreign key of a column is changed if the name of the new one is free. -/
theorem Keeps.change (h : Keeps d table reference kept) (others : List String) {c c' : Column}
    (hname : c.name = c'.name) (hc : reference c.name = c.reference?)
    (unique : d = .postgres → c.unique = true →
      uniqueName table c.name ∈ others ∧ kept.contains (uniqueName table c.name) = false)
    (n : String) (keyColumn : Bool) :
    Leads ((Ddl.editStatements d table
        (.change n c' keyColumn (FieldEdit.between c c'))).foldlM (execute d table others) kept)
      (∀ r ∈ c'.reference?, Free table reference c'.name r)
      (Keeps d table (update reference c'.name c'.reference?)) := by
  obtain ⟨rest, hbetween, hrest⟩ := FieldEdit.exists_between_eq c c'
  have unmoved : ∀ s ∈ rest.flatMap
      (Ddl.fieldStatements d table c' keyColumn (FieldEdit.between c c')),
      execute d table others kept s = some kept := by
    refine List.forall_mem_flatMap.mpr fun edit hedit => ?_
    refine execute_fieldStatements (hrest edit hedit) fun hd heq => ?_
    have mem : edit ∈ FieldEdit.between c c' := hbetween ▸ List.mem_append_left _ hedit
    exact hname ▸ unique hd (FieldEdit.unique_of_mem_between (heq ▸ mem))
  have last := fieldStatements_reference d table c' keyColumn (FieldEdit.between c c')
    c.reference? c'.reference?
  rw [Ddl.editStatements_change]
  -- the list of edits is taken apart, but not where the statements depend on it
  generalize Ddl.fieldStatements d table c' keyColumn (FieldEdit.between c c') = statements at *
  rw [hbetween, List.flatMap_append, List.foldlM_append, foldlM_eq_some_self unmoved,
    Option.bind_eq_bind, Option.bind_some]
  rw [hname] at hc
  by_cases same : c.reference? = c'.reference?
  · rw [if_neg (not_not.mpr same), ← same, ← hc, Function.update_eq_self]
    exact (Leads.some h).congr (iff_of_true trivial fun r hr => h.free hr)
  · rw [if_pos same, List.flatMap_singleton, last, ← hc]
    exact h.exchanged others c'.name c'.reference?

/-- A column is added if the name of its foreign key is free. -/
theorem Keeps.add (h : Keeps d table reference kept) (others : List String) {c : Column}
    (hc : reference c.name = none) (plain : d = .spanner → c.primaryKey = false) :
    Leads ((Ddl.editStatements d table (.add c)).foldlM (execute d table others) kept)
      (∀ r ∈ c.reference?, Free table reference c.name r)
      (Keeps d table (update reference c.name c.reference?)) := by
  have statements : Ddl.editStatements d table (.add c) =
      Ddl.statementsOf (Ddl.addColumn d table c) :=
    (List.append_nil _).trans (List.append_nil _)
  have run : (Ddl.statementsOf (Ddl.addColumn d table c)).foldlM (execute d table others) kept =
      (exchange d table c.name (reference c.name) c.reference?).foldlM
        (execute d table others) kept := by
    rw [hc]
    cases d with
    | postgres =>
      rw [Ddl.addColumn, Ddl.Postgres.addColumn, Ddl.statementsOf_statements, List.foldlM_cons,
        execute_alterTable]
      cases hr : c.reference? with
      | none => simp [alter, Ddl.Postgres.columnDefinition, exchange, hr]
      | some r =>
        simp [alter, Ddl.Postgres.columnDefinition, exchange, hr, execute_alterTable,
          Reference.nameFor, Ddl.target]
    | spanner =>
      have skipped : ∀ s ∈ [Sql.Statement.alterTable table
          (.addColumn (Ddl.Spanner.columnDefinition c !c.nullable))] ++
            (if c.unique then [Ddl.Spanner.createUnique table c.name] else []),
          execute .spanner table others kept s = some kept := by
        refine List.forall_mem_append.mpr ⟨fun s hs => ?_, fun s hs => ?_⟩
        · rw [List.mem_singleton.mp hs, execute_alterTable]
          rfl
        · rw [List.mem_singleton.mp (List.mem_ite_nil_right.mp hs).2]
          rfl
      rw [Ddl.addColumn, Ddl.Spanner.statementsOf_addColumn (plain rfl), List.foldlM_append,
        foldlM_eq_some_self skipped]
      rfl
  rw [statements, run]
  exact h.exchanged others c.name c.reference?

theorem Keeps.column_ne (h : Keeps d table reference kept) {c : String} (hc : reference c = none) :
    ∀ k ∈ kept.values, k.column ≠ c := by
  rintro k hk rfl
  obtain ⟨n, hn⟩ := NameMap.mem_values.mp hk
  obtain ⟨r, hr, -⟩ := (h n k).mp hn
  rw [hc] at hr
  cases hr

/-- A column is always dropped, with its foreign key or after it. -/
theorem Keeps.remove (h : Keeps d table reference kept) (others : List String) {c : Column}
    (hc : reference c.name = c.reference?) (plain : d = .spanner → c.primaryKey = false)
    (n : String) :
    Leads ((Ddl.editStatements d table (.remove n c)).foldlM (execute d table others) kept)
      True (Keeps d table (update reference c.name none)) := by
  cases d with
  | postgres =>
    have run : (Ddl.editStatements .postgres table (.remove n c)).foldlM
        (execute .postgres table others) kept = some (kept.keep (·.column ≠ c.name)) := by
      simp [Ddl.editStatements, Ddl.ifAdded, Ddl.partsIfChanged, Ddl.ifRemoved, Ddl.dropColumn,
        Ddl.Postgres.dropColumn, execute_alterTable, alter]
    rw [run]
    exact .some (h.keep c.name)
  | spanner =>
    have statements : Ddl.editStatements .spanner table (.remove n c) =
        (if c.unique then [Ddl.Spanner.dropUnique table c.name] else []) ++
          (exchange .spanner table c.name (reference c.name) none ++
            [.alterTable table (.dropColumn c.name)]) := by
      have unflagged : ¬ c.primaryKey = true := plain rfl ▸ Bool.false_ne_true
      rw [hc]
      cases hr : c.reference? <;>
        simp [Ddl.editStatements, Ddl.ifAdded, Ddl.partsIfChanged, Ddl.ifRemoved, Ddl.dropColumn,
          Ddl.Spanner.dropColumn, unflagged, exchange, Ddl.Spanner.dropForeignKey, hr]
    have skipped : ∀ s ∈ if c.unique then [Ddl.Spanner.dropUnique table c.name] else [],
        execute .spanner table others kept s = some kept := by
      intro s hs
      rw [List.mem_singleton.mp (List.mem_ite_nil_right.mp hs).2]
      rfl
    obtain ⟨dropped, hrun, hdropped⟩ := (h.exchanged others c.name none).1 nofun
    have apart := hdropped.column_ne (Function.update_self ..)
    have run : (Ddl.editStatements .spanner table (.remove n c)).foldlM
        (execute .spanner table others) kept = some dropped := by
      rw [statements, List.foldlM_append, foldlM_eq_some_self skipped, Option.bind_eq_bind,
        Option.bind_some, List.foldlM_append, hrun]
      simpa [execute_alterTable, alter] using apart
    rw [run]
    exact .some hdropped

/-! ## All columns -/

variable {before after : Table} {edit : ColumnEdit}

/-- **An edit of a column gives it the foreign key of the new version**, if the name is free. -/
theorem Keeps.edited (h : Keeps d after.name reference kept) (hbefore : before.WellKeyed)
    (hafter : after.WellKeyed) (hname : before.name = after.name)
    (hedit : edit ∈ ColumnEdit.between before after)
    (hc : reference edit.name = before.referenceAt edit.name)
    (plain : d = .spanner → edit.touchesKey = false)
    (apart : ∀ n ∈ otherNames d before, kept.contains n = false) :
    Leads ((Ddl.editStatements d after.name edit).foldlM
        (execute d after.name (otherNames d before)) kept)
      (∀ r ∈ after.referenceAt edit.name, Free after.name reference edit.name r)
      (Keeps d after.name (update reference edit.name (after.referenceAt edit.name))) := by
  have explained := ColumnEdit.explained_of_mem hbefore hafter hedit
  cases explained with
  | @add n c named new there =>
    subst named
    have now := Table.referenceAt_of_find? there
    have accepted := h.add (otherNames d before)
      (hc.trans (Table.referenceAt_of_missing new)) plain
    rwa [← now] at accepted
  | @change n c c' named was there =>
    have same : c.name = c'.name := (hbefore.name_of_find? was).trans named.symm
    subst named
    have now := Table.referenceAt_of_find? there
    have accepted := h.change (otherNames d before) same
      (same ▸ hc.trans (Table.referenceAt_of_find? was))
      (fun hd hu => ?_) c'.name (after.keyColumns.contains c'.name)
    · rwa [← now] at accepted
    · have known : uniqueName after.name c.name ∈ otherNames d before := by
        subst hd
        refine List.mem_append_left _ ?_
        rw [← hname, Table.uniqueName_mem_uniqueNames hbefore, Table.isUnique, same, was]
        exact hu
      exact ⟨known, apart _ known⟩
  | @remove n c named was gone =>
    subst named
    have now := Table.referenceAt_of_missing gone
    have accepted := h.remove (otherNames d before)
      (hc.trans (Table.referenceAt_of_find? was)) plain c.name
    rw [← now] at accepted
    refine accepted.congr (iff_of_true trivial fun r hr => ?_)
    cases (hr : after.referenceAt c.name = some r).symm.trans now

/-- A column that is not edited keeps its foreign key. -/
theorem referenceAt_eq_of_not_edited (hbefore : before.WellKeyed) (hafter : after.WellKeyed)
    {c : String} (h : c ∉ (ColumnEdit.between before after).map (·.name)) :
    before.referenceAt c = after.referenceAt c := by
  have same := ColumnEdit.matches_of_not_edited hbefore hafter h
  unfold Table.referenceAt
  generalize before.columns.find? c = b? at same ⊢
  generalize after.columns.find? c = a? at same ⊢
  cases same with
  | none => rfl
  | some same => exact same.reference

end

section

variable {d : Dialect} {before after : Table} {kept : NameMap KeptReference}
  (hbefore : before.WellKeyed) (hafter : after.WellKeyed) (hname : before.name = after.name)
  (distinct : after.referenceNames.Nodup)

include hafter hname distinct in
/-- The name of a foreign key is free if no column has it of which the edit is left. -/
theorem free_midway_iff {edit : ColumnEdit} {rest : List ColumnEdit}
    (once : edit.name ∉ rest.map (·.name)) :
    (∀ r ∈ after.referenceAt edit.name,
        Free after.name (midway (edit :: rest) before.referenceAt after.referenceAt) edit.name r) ↔
      ∀ later ∈ rest, ¬ before.HandsOn after later.name edit.name := by
  constructor
  · rintro free later hlater ⟨x, hx, r, hr, heq⟩
    have left : later.name ∈ (edit :: rest).map (·.name) :=
      List.mem_map_of_mem (List.mem_cons_of_mem _ hlater)
    have same := free r hr later.name x ((if_pos left).trans hx) (hname ▸ heq)
    exact once (same ▸ List.mem_map_of_mem hlater)
  · intro apart r hr b x hx heq
    unfold midway at hx
    split at hx
    · rename_i left
      obtain ⟨later, hlater, rfl⟩ := List.mem_map.mp left
      rcases List.mem_cons.mp hlater with rfl | hlater
      · rfl
      · exact absurd ⟨x, hx, r, hr, hname ▸ heq⟩ (apart later hlater)
    · exact Table.column_of_nameFor_eq hafter distinct hx hr heq

variable (apart : ∀ n ∈ otherNames d before, n ∉ before.referenceNames ∧ n ∉ after.referenceNames)

include hbefore hafter hname apart in
/-- No other constraint has the name of a foreign key, also while the table is changed. -/
theorem Keeps.contains_other {left : List ColumnEdit}
    (h : Keeps d after.name (midway left before.referenceAt after.referenceAt) kept) :
    ∀ n ∈ otherNames d before, kept.contains n = false := by
  intro n hn
  refine Bool.eq_false_iff.mpr fun taken => ?_
  obtain ⟨c, r, hr, named⟩ := h.contains_iff.mp taken
  unfold midway at hr
  split at hr
  · exact (apart n hn).1 ((Table.mem_referenceNames hbefore).mpr ⟨c, r, hr, hname ▸ named⟩)
  · exact (apart n hn).2 ((Table.mem_referenceNames hafter).mpr ⟨c, r, hr, named⟩)

include hbefore hafter hname distinct apart

/-- **The edits lead from the foreign keys of the first version to those of the second**, if each
name is given up before it is taken. -/
theorem Keeps.run {edits : List ColumnEdit}
    (sub : ∀ edit ∈ edits, edit ∈ ColumnEdit.between before after)
    (nodup : (edits.map (·.name)).Nodup)
    (plain : ∀ edit ∈ edits, d = .spanner → edit.touchesKey = false)
    (h : Keeps d after.name (midway edits before.referenceAt after.referenceAt) kept) :
    Leads ((edits.flatMap (Ddl.editStatements d after.name)).foldlM
        (execute d after.name (otherNames d before)) kept)
      (edits.Pairwise fun edit later => ¬ before.HandsOn after later.name edit.name)
      (Keeps d after.name after.referenceAt) := by
  induction edits generalizing kept with
  | nil =>
    rw [ColumnEdit.midway_nil] at h
    exact (Leads.some h).congr (iff_of_true trivial .nil)
  | cons edit rest ih =>
    rw [List.forall_mem_cons] at sub plain
    rw [List.map_cons, List.nodup_cons] at nodup
    have free := h.contains_other hbefore hafter hname apart
    have step := h.edited hbefore hafter hname sub.1 ColumnEdit.midway_cons_self plain.1 free
    rw [ColumnEdit.update_midway nodup.1, free_midway_iff hafter hname distinct nodup.1] at step
    rw [List.flatMap_cons, List.foldlM_append, List.pairwise_cons]
    exact step.bind fun _ hnext => ih sub.2 nodup.2 plain.2 hnext

omit apart in
/-- The edits give up each name before it is taken exactly if names are handed on in the order of
the columns. -/
theorem pairwise_not_handsOn_iff (distinctBefore : before.referenceNames.Nodup) :
    (ColumnEdit.between before after).Pairwise
        (fun edit later => ¬ before.HandsOn after later.name edit.name) ↔
      before.HandsOnInTurn after := by
  rw [Table.handsOnInTurn_iff hbefore hafter]
  have ordered := ColumnEdit.pairwise_precedes_between before hafter
  have explained : ∀ edit ∈ ColumnEdit.between before after,
      ColumnEdit.Explained before after edit :=
    fun _ => ColumnEdit.explained_of_mem hbefore hafter
  constructor
  · rintro apart b c hne ⟨x, hx, y, hy, heq⟩
    have edited : ∀ n, (before.referenceAt n = after.referenceAt n → b = c) →
        ∃ edit ∈ ColumnEdit.between before after, edit.name = n := by
      intro n different
      by_contra none
      refine hne (different (referenceAt_eq_of_not_edited hbefore hafter fun mem => none ?_))
      exact List.mem_map.mp mem
    obtain ⟨edit, hedit, rfl⟩ := edited b fun same =>
      Table.column_of_nameFor_eq hafter distinct (same.symm.trans hx) hy (hname ▸ heq)
    obtain ⟨later, hlater, rfl⟩ := edited c fun same =>
      Table.column_of_nameFor_eq hbefore distinctBefore hx (same.trans hy) (hname.symm ▸ heq)
    have was := (explained edit hedit).one_le_pass_iff.mpr (Table.contains_of_referenceAt hx)
    have there := (explained later hlater).pass_le_one_iff.mpr (Table.contains_of_referenceAt hy)
    -- one of the two edits is carried out before the other, and it is not that of the second column
    have either := rel_or_rel_of_pairwise (ordered.and apart) hedit hlater (ne_of_apply_ne _ hne)
    obtain ⟨precedes, -⟩ := either.resolve_right fun wrong => wrong.2 ⟨x, hx, y, hy, heq⟩
    rcases precedes with earlier | ⟨same, less⟩
    · omega
    · rw [same] at was
      rw [← same] at there
      exact ⟨(explained later hlater).one_le_pass_iff.mp was,
        (explained edit hedit).pass_le_one_iff.mp there, less⟩
  · intro inTurn
    have nodup := List.pairwise_map.mp (ColumnEdit.nodup_names_between before hafter)
    refine (ordered.and nodup).imp_of_mem fun {edit later} hedit hlater ⟨precedes, hne⟩ hands => ?_
    obtain ⟨inBefore, inAfter, hlt⟩ := inTurn later.name edit.name hne.symm hands
    obtain ⟨x, hx, y, hy, -⟩ := hands
    have first := (explained edit hedit).one_le_pass_iff.mpr inBefore
    have second := (explained later hlater).pass_le_one_iff.mpr inAfter
    have first' := (explained edit hedit).pass_le_one_iff.mpr (Table.contains_of_referenceAt hy)
    rcases precedes with earlier | ⟨-, less⟩
    · omega
    · exact String.lt_asymm less hlt

/-! ## The change of a table -/

omit hbefore hafter distinct apart in
/-- The foreign keys stay as they are where the key and the interleaving are changed. -/
theorem execute_changeConstraints (free : ∀ n ∈ otherNames d before, kept.contains n = false) :
    ∀ s ∈ Ddl.statementsOf (Ddl.changeConstraints d (.comparing before after)),
      execute d after.name (otherNames d before) kept s = some kept := by
  intro s hs
  cases d with
  | postgres =>
    rcases Ddl.Postgres.of_mem_changeKey hname hs with ⟨n, hn, rfl⟩ | ⟨key, rfl⟩
    · have known : n ∈ otherNames .postgres before := List.mem_append_right _ hn
      rw [execute_alterTable, alter, free n known, if_neg Bool.false_ne_true, if_pos known]
    · exact execute_alterTable ..
  | spanner =>
    obtain ⟨action, rfl⟩ := Ddl.Spanner.of_mem_changeConstraints hs
    exact execute_alterTable ..

/-- **The foreign keys of a table over a change.** Let the names of the foreign keys be distinct in
each of two versions of a table, and no other constraint of the first version have one of them. If
the change compiles, its statements are legal exactly if names are handed on in the order of the
columns, and then they end with the foreign keys of the second version. -/
theorem replay_alteration (distinctBefore : before.referenceNames.Nodup) {r : Emission}
    (h : Ddl.alteration d before after = .ok r) :
    replay d before after r.statements =
      if before.HandsOnInTurn after then some (ofTable d after) else none := by
  have plain : ∀ edit ∈ ColumnEdit.between before after, d = .spanner →
      edit.touchesKey = false := by
    rintro edit hedit rfl
    rw [Ddl.alteration_eq] at h
    exact Ddl.Spanner.exists_columnParts_eq_ok.mp
      ((Ddl.exists_alterTable_eq_ok.mp ⟨r, h⟩).1 edit hedit)
  have start : Keeps d after.name (midway (ColumnEdit.between before after) before.referenceAt
      after.referenceAt) (ofTable d before) := by
    rw [ColumnEdit.midway_of_unedited fun _ => referenceAt_eq_of_not_edited hbefore hafter, ← hname]
    exact keeps_ofTable d hbefore distinctBefore
  have columns := start.run hbefore hafter hname distinct apart (fun _ => id)
    (ColumnEdit.nodup_names_between before hafter) plain
  rw [pairwise_not_handsOn_iff hbefore hafter hname distinct distinctBefore] at columns
  have run : Leads (replay d before after r.statements) (before.HandsOnInTurn after)
      (Keeps d after.name after.referenceAt) := by
    refine Ddl.leads_alteration h (fun _ _ => rfl) (fun _ _ => rfl) columns fun kept hkept => ?_
    refine execute_changeConstraints hname ?_
    have done : Keeps d after.name (midway [] before.referenceAt after.referenceAt) kept := by
      rwa [ColumnEdit.midway_nil]
    exact done.contains_other hbefore hafter hname apart
  split
  · rename_i inTurn
    obtain ⟨kept, hrun, hkept⟩ := run.1 inTurn
    rw [hrun, hkept.unique (keeps_ofTable d hafter distinct)]
  · rename_i early
    exact run.2 early

end

end ForeignKeys

namespace Shop

/-- Posts with a column that refers to a user by a foreign key of the given name. -/
def posts (column key : String) : Table :=
  (numbered "posts").withColumn
    ((number column).withReference ⟨"users", "id", some key, none⟩)

theorem wellKeyed_posts (column key : String) : (posts column key).WellKeyed :=
  (wellKeyed_numbered _).withColumn _

/-- The author hands the name of the foreign key on to the editor, while the slug ceases to be
unique. -/
theorem replay_alteration_posts :
    let before := ((posts "author" "posts_user").withColumn (number "editor")).withColumn
      (number "slug").withUnique
    let after := ((posts "editor" "posts_user").withColumn (number "author")).withColumn
      (number "slug")
    (before.WellKeyed ∧ after.WellKeyed ∧ before.name = after.name ∧
      before.referenceNames.Nodup ∧ after.referenceNames.Nodup ∧
      ∀ n ∈ ForeignKeys.otherNames .postgres before,
        n ∉ before.referenceNames ∧ n ∉ after.referenceNames) ∧
    ∃ r, Ddl.alteration .postgres before after = .ok r ∧
      r.statements = [.alterTable "posts" (.dropConstraint "posts_user"),
        .alterTable "posts" (.addForeignKey ⟨"posts_user", "editor", "users", "id", none⟩),
        .alterTable "posts" (.dropConstraint "posts_slug_key")] ∧
      ForeignKeys.replay .postgres before after r.statements =
        some (ForeignKeys.ofTable .postgres after) := by
  intro before after
  have keyed : before.WellKeyed := ((wellKeyed_posts _ _).withColumn _).withColumn _
  have keyed' : after.WellKeyed := ((wellKeyed_posts _ _).withColumn _).withColumn _
  have same : before.name = after.name := by decide
  have distinct : before.referenceNames.Nodup := by decide
  have distinct' : after.referenceNames.Nodup := by decide
  have apart : ∀ n ∈ ForeignKeys.otherNames .postgres before,
      n ∉ before.referenceNames ∧ n ∉ after.referenceNames := by decide
  have compiled : Ddl.alteration .postgres before after = .ok
      ⟨[.alterTable "posts" (.dropConstraint "posts_user"),
        .alterTable "posts" (.addForeignKey ⟨"posts_user", "editor", "users", "id", none⟩),
        .alterTable "posts" (.dropConstraint "posts_slug_key")], []⟩ := by decide +kernel
  have replayed := ForeignKeys.replay_alteration keyed keyed' same distinct' apart distinct compiled
  have inTurn : before.HandsOnInTurn after := by decide
  rw [if_pos inTurn] at replayed
  exact ⟨⟨keyed, keyed', same, distinct, distinct', apart⟩, _, compiled, rfl, replayed⟩

/-- In three ways the foreign keys do not become those of the new version. A name that passes from
one column to another may be taken before it is given up, which is refused; and a foreign key that
is named like the primary key, or like what kept a column unique, is dropped where that is meant. -/
theorem not_replayed_posts :
    let written := posts "writer" "posts_user"
    let authored := posts "author" "posts_user"
    let keyed := posts "author" "posts_pkey"
    let rekeyed := keyed.withPrimaryKey ⟨none, ["author"]⟩
    let slugged := ((numbered "posts").withColumn (number "author")).withColumn
      (number "slug").withUnique
    let unslugged := (posts "author" "posts_slug_key").withColumn (number "slug")
    (∀ t ∈ [written, authored, keyed, rekeyed, slugged, unslugged],
      t.WellKeyed ∧ t.name = "posts" ∧ t.referenceNames.Nodup) ∧
    (∀ d, ∃ r, Ddl.alteration d written authored = .ok r ∧
      ForeignKeys.replay d written authored r.statements = none) ∧
    (∃ r, Ddl.alteration .postgres keyed rekeyed = .ok r ∧
      ForeignKeys.replay .postgres keyed rekeyed r.statements ≠
        some (ForeignKeys.ofTable .postgres rekeyed)) ∧
    ∃ r, Ddl.alteration .postgres slugged unslugged = .ok r ∧
      ForeignKeys.replay .postgres slugged unslugged r.statements ≠
        some (ForeignKeys.ofTable .postgres unslugged) := by
  intro written authored keyed rekeyed slugged unslugged
  let user : Sql.Target := ⟨"users", "id", none⟩
  let writer : Sql.ColumnDefinition :=
    ⟨"author", "BIGINT", false, false, false, none, some ⟨some "posts_user", user⟩⟩
  let plain : Sql.ColumnDefinition := ⟨"author", "INT64", false, false, false, none, none⟩
  refine ⟨?_, fun d => ?_, ?_, ?_⟩
  · simp only [List.forall_mem_cons]
    exact ⟨⟨wellKeyed_posts _ _, rfl, by decide⟩, ⟨wellKeyed_posts _ _, rfl, by decide⟩,
      ⟨wellKeyed_posts _ _, rfl, by decide⟩,
      ⟨(wellKeyed_posts _ _).withPrimaryKey _, rfl, by decide⟩,
      ⟨((wellKeyed_numbered _).withColumn _).withColumn _, rfl, by decide⟩,
      ⟨(wellKeyed_posts _ _).withColumn _, rfl, by decide⟩, List.forall_mem_nil _⟩
  · cases d with
    | postgres =>
      exact ⟨⟨[.alterTable "posts" (.addColumn writer),
        .alterTable "posts" (.dropColumn "writer")], []⟩, by decide +kernel, by decide +kernel⟩
    | spanner =>
      exact ⟨⟨[.alterTable "posts" (.addColumn plain),
        .alterTable "posts" (.addForeignKey ⟨"posts_user", "author", user⟩),
        .alterTable "posts" (.dropConstraint "posts_user"),
        .alterTable "posts" (.dropColumn "writer")], []⟩, by decide +kernel, by decide +kernel⟩
  · exact ⟨⟨[.alterTable "posts" (.dropConstraint "posts_pkey"),
      .alterTable "posts" (.addPrimaryKey ⟨none, ["author"]⟩)], []⟩,
      by decide +kernel, by decide +kernel⟩
  · exact ⟨⟨[.alterTable "posts" (.addForeignKey ⟨"posts_slug_key", "author", user⟩),
      .alterTable "posts" (.dropConstraint "posts_slug_key")], []⟩,
      by decide +kernel, by decide +kernel⟩

end Shop

end SchemaEvolution
