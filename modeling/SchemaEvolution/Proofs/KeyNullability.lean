import SchemaEvolution.Proofs.Alterations

/-!
# Null in the columns of a key

PostgreSQL lets no column of a primary key be null, so a column can be freed of its NOT NULL only
after the key was removed, by its constraint or with one of its columns. The statements of a change
fall into two parts (`Ddl.Postgres.exists_alteration_parts`): in the first one, columns come and
are changed, and nothing of the key is removed; in the second one, columns go and the key is
changed, and nothing is said of null any more. Hence the columns of a key are freed in time only
where none of them is freed at all (`Ddl.Postgres.freesAfterKey_iff`).
-/

namespace SchemaEvolution

namespace Table

/-- A column is in both versions of a table, and may be null only in the second one. -/
def becomesNullable (t u : Table) (n : String) : Bool :=
  (t.columns.find? n).any (!·.nullable) && (u.columns.find? n).any (·.nullable)

/-- A statement removes the primary key of a table: it drops the constraint, or a column of the
key. -/
def RemovesKey (t : Table) (s : Sql.Statement) : Prop :=
  (∃ n ∈ t.keyNames, s = .alterTable t.name (.dropConstraint n)) ∨
    ∃ c ∈ t.keyColumns, s = .alterTable t.name (.dropColumn c)

/-- Where statements free a column of the key of a table of its NOT NULL, an earlier one removes the
key. -/
def FreesAfterKey (t : Table) (l : List Sql.Statement) : Prop :=
  ∀ first last c, c ∈ t.keyColumns → l = first ++ .alterTable t.name (.dropNotNull c) :: last →
    ∃ s ∈ first, t.RemovesKey s

end Table

namespace Ddl.Postgres

variable {before after : Table} {table n : String}

/-! ## Statements about one column -/

theorem dropNotNull_mem_editField_iff {c : String} {edit : FieldEdit} :
    .alterTable table (.dropNotNull n) ∈ editField table c edit ↔
      edit = .nullable true ∧ n = c := by
  cases edit with
  | nullable b => cases b <;> simp [editField]
  | unique b => cases b <;> simp [editField]
  | default x y =>
    simp only [editField, changeDefault]
    split <;> simp
  | _ => simp [editField]

theorem dropConstraint_mem_editField {c : String} {edit : FieldEdit}
    (h : .alterTable table (.dropConstraint n) ∈ editField table c edit) :
    edit = .unique false ∧ n = uniqueName table c ∨
      ∃ x y?, edit = .reference (some x) y? ∧ n = x.nameFor table c := by
  cases edit with
  | nullable b => cases b <;> simp [editField] at h
  | unique b => cases b <;> simp_all [editField]
  | default x y =>
    simp only [editField, changeDefault] at h
    split at h <;> simp at h
  | reference x? y? => cases x? <;> simp_all [editField]
  | _ => simp [editField] at h

theorem dropColumn_not_mem_editField {c : String} {edit : FieldEdit} :
    .alterTable table (.dropColumn n) ∉ editField table c edit := by
  cases edit with
  | nullable b => cases b <;> simp [editField]
  | unique b => cases b <;> simp [editField]
  | default x y =>
    simp only [editField, changeDefault]
    split <;> simp
  | _ => simp [editField]

/-- The edit of a column frees it of its NOT NULL exactly if it becomes nullable. -/
theorem dropNotNull_mem_editStatements_iff {e : ColumnEdit}
    (h : ColumnEdit.Explained before after e) :
    .alterTable table (.dropNotNull n) ∈ editStatements .postgres table e ↔
      e.name = n ∧ before.becomesNullable after n = true := by
  cases h with
  | @add m c named new there =>
    subst named
    rw [editStatements_add]
    refine iff_of_false (by simp) ?_
    rintro ⟨rfl, nullable⟩
    rw [Table.becomesNullable, ColumnEdit.name, new] at nullable
    cases nullable
  | @change m c c' named was there =>
    subst named
    have nullable_iff : before.becomesNullable after c'.name = true ↔
        c.nullable = false ∧ c'.nullable = true := by
      rw [Table.becomesNullable, was, there, Option.any_some, Option.any_some,
        Bool.and_eq_true_iff, Bool.not_eq_true']
    constructor
    · intro hs
      obtain ⟨edit, hedit, hs⟩ := mem_editStatements_change.mp hs
      obtain ⟨rfl, rfl⟩ := dropNotNull_mem_editField_iff.mp hs
      obtain ⟨differ, now⟩ := FieldEdit.mem_between_iff.mp hedit
      exact ⟨rfl, nullable_iff.mpr ⟨Bool.eq_false_iff.mpr fun h => differ (h.trans now), now.symm⟩⟩
    · rintro ⟨rfl, nullable⟩
      obtain ⟨was, now⟩ := nullable_iff.mp nullable
      refine mem_editStatements_change.mpr ⟨.nullable true, FieldEdit.mem_between_iff.mpr ?_,
        dropNotNull_mem_editField_iff.mpr ⟨rfl, rfl⟩⟩
      exact ⟨fun h => Bool.false_ne_true (was.symm.trans (h.trans now)), now.symm⟩
  | @remove m c named was gone =>
    subst named
    rw [editStatements_remove]
    refine iff_of_false (by simp) ?_
    rintro ⟨rfl, nullable⟩
    rw [Table.becomesNullable, ColumnEdit.name, gone, Option.any_none, Bool.and_false] at nullable
    cases nullable

/-- A column that is changed loses no constraint but those of its uniqueness and its foreign key. -/
theorem not_removesKey_of_change {e : ColumnEdit} (h : ColumnEdit.Explained before after e)
    (keyed : before.WellKeyed) (apart : ∀ n ∈ before.keyNames,
      n ∉ before.uniqueNames ∧ n ∉ before.referenceNames) (hkind : e.kind = .change)
    {s : Sql.Statement} (hs : s ∈ editStatements .postgres before.name e) :
    ¬ before.RemovesKey s := by
  cases h with
  | add => cases hkind
  | remove => cases hkind
  | @change m c c' named was there =>
    subst named
    obtain ⟨edit, hedit, hs⟩ := mem_editStatements_change.mp hs
    rintro (⟨n, hn, rfl⟩ | ⟨n, -, rfl⟩)
    · rcases dropConstraint_mem_editField hs with ⟨rfl, rfl⟩ | ⟨x, y?, rfl, rfl⟩
      · refine (apart _ hn).1 ((Table.uniqueName_mem_uniqueNames keyed).mpr ?_)
        rw [Table.isUnique, was]
        exact FieldEdit.unique_of_mem_between hedit
      · refine (apart _ hn).2 ((Table.mem_referenceNames keyed).mpr ⟨_, x, ?_, rfl⟩)
        rw [Table.referenceAt_of_find? was]
        exact (FieldEdit.mem_between_iff.mp hedit).2.1.symm
    · exact dropColumn_not_mem_editField hs

/-! ## The two parts of a change -/

theorem dropNotNull_not_mem_changeConstraints (hname : before.name = after.name) :
    .alterTable after.name (.dropNotNull n) ∉
      statementsOf (changeConstraints .postgres (.comparing before after)) := by
  intro hs
  rcases of_mem_changeKey hname hs with ⟨_, -, heq⟩ | ⟨_, heq⟩ <;> cases heq

theorem mem_names_of_becomesNullable (hbefore : before.WellKeyed) (hafter : after.WellKeyed)
    (h : before.becomesNullable after n = true) :
    n ∈ (ColumnEdit.between before after).map (·.name) := by
  by_contra unedited
  have same := ColumnEdit.matches_of_not_edited hbefore hafter unedited
  unfold Table.becomesNullable at h
  generalize before.columns.find? n = b? at same h
  generalize after.columns.find? n = a? at same h
  cases same with
  | none => cases h
  | some same => simp [same.nullable] at h

/-- **A change frees exactly those columns of their NOT NULL that become nullable.** -/
theorem dropNotNull_mem_alteration_iff (hbefore : before.WellKeyed) (hafter : after.WellKeyed)
    (hname : before.name = after.name) {r : Emission}
    (h : alteration .postgres before after = .ok r) :
    .alterTable after.name (.dropNotNull n) ∈ r.statements ↔
      before.becomesNullable after n = true := by
  have elsewhere := dropNotNull_not_mem_changeConstraints (n := n) hname
  have edits : .alterTable after.name (.dropNotNull n) ∈
      (ColumnEdit.between before after).flatMap (editStatements .postgres after.name) ↔
        before.becomesNullable after n = true := by
    rw [List.mem_flatMap]
    constructor
    · rintro ⟨e, he, hs⟩
      exact ((dropNotNull_mem_editStatements_iff
        (ColumnEdit.explained_of_mem hbefore hafter he)).mp hs).2
    · intro nullable
      obtain ⟨e, he, rfl⟩ := List.mem_map.mp (mem_names_of_becomesNullable hbefore hafter nullable)
      exact ⟨e, he, (dropNotNull_mem_editStatements_iff
        (ColumnEdit.explained_of_mem hbefore hafter he)).mpr ⟨rfl, nullable⟩⟩
  rw [statements_alteration h]
  simp only [List.mem_append, edits, elsewhere, or_false, List.mem_map, dropIndex, createIndex,
    reduceCtorEq, and_false, exists_false, false_or]

/-- The statements of a change remove nothing of the key, until columns go; and from then on they
say nothing of null. -/
theorem exists_alteration_parts (hbefore : before.WellKeyed) (hafter : after.WellKeyed)
    (hname : before.name = after.name) (apart : ∀ n ∈ before.keyNames,
      n ∉ before.uniqueNames ∧ n ∉ before.referenceNames) {r : Emission}
    (h : alteration .postgres before after = .ok r) :
    ∃ first last, r.statements = first ++ last ∧ (∀ s ∈ first, ¬ before.RemovesKey s) ∧
      ∀ c, .alterTable after.name (.dropNotNull c) ∉ last := by
  obtain ⟨added, changed, removed, hbetween, hadded, hchanged, hremoved⟩ :=
    ColumnEdit.exists_passes before after
  have explained : ∀ e ∈ ColumnEdit.between before after,
      ColumnEdit.Explained before after e :=
    fun _ => ColumnEdit.explained_of_mem hbefore hafter
  simp only [hbetween, List.forall_mem_append] at explained
  have hstatements := statements_alteration h
  simp only [hbetween, List.flatMap_append, ← List.append_assoc] at hstatements
  simp only [List.append_assoc (_ ++ changed.flatMap _)] at hstatements
  refine ⟨_, _, hstatements, ?_, fun c => ?_⟩
  · simp only [List.forall_mem_append, List.forall_mem_map, List.forall_mem_flatMap]
    refine ⟨⟨fun i _ => ?_, fun e he s hs => ?_⟩, fun e he s hs => ?_⟩
    · rintro (⟨n, -, heq⟩ | ⟨n, -, heq⟩) <;> cases heq
    · cases explained.1.1 e he with
      | add =>
        rw [editStatements_add, List.mem_singleton] at hs
        rintro (⟨n, -, rfl⟩ | ⟨n, -, rfl⟩) <;> simp at hs
      | change => cases hadded _ he
      | remove => cases hadded _ he
    · rw [← hname] at hs
      exact not_removesKey_of_change (explained.1.2 e he) hbefore apart (hchanged e he) hs
  · simp only [List.mem_append, List.mem_flatMap, List.mem_map, not_or, not_exists, not_and]
    refine ⟨⟨fun e he hs => ?_, fun i _ => nofun⟩, dropNotNull_not_mem_changeConstraints hname⟩
    cases explained.2 e he with
    | add => cases hremoved _ he
    | change => cases hremoved _ he
    | remove =>
      rw [editStatements_remove, List.mem_singleton] at hs
      cases hs

/-- **When the columns of a key are freed in time.** Let no other constraint of the first version of
a table have the name of its primary key. Then the change compiles, and frees columns of the key
only after the key was removed exactly if it makes none of them nullable, whatever else becomes of
the key. -/
theorem freesAfterKey_iff (hbefore : before.WellKeyed) (hafter : after.WellKeyed)
    (hname : before.name = after.name) (apart : ∀ n ∈ before.keyNames,
      n ∉ before.uniqueNames ∧ n ∉ before.referenceNames) :
    ∃ r, alteration .postgres before after = .ok r ∧
      (before.FreesAfterKey r.statements ↔
        ∀ c ∈ before.keyColumns, before.becomesNullable after c = false) := by
  obtain ⟨r, h⟩ := exists_alteration_eq_ok before after
  refine ⟨r, h, ?_⟩
  simp only [← Bool.not_eq_true, ← dropNotNull_mem_alteration_iff hbefore hafter hname h]
  constructor
  · intro frees c hc hs
    obtain ⟨first, last, hparts, keeps, silent⟩ :=
      exists_alteration_parts hbefore hafter hname apart h
    rw [hparts, List.mem_append, or_iff_left (silent c)] at hs
    obtain ⟨earlier, later, hfirst⟩ := List.append_of_mem hs
    obtain ⟨s, hs, removes⟩ := frees earlier (later ++ last) c hc (by
      rw [hparts, hfirst, hname, List.append_assoc, List.cons_append])
    exact keeps s (hfirst ▸ List.mem_append_left _ hs) removes
  · rintro stays first last c hc hsplit
    refine absurd ?_ (stays c hc)
    rw [hsplit, hname]
    exact List.mem_append_right _ List.mem_cons_self

end Ddl.Postgres

namespace Shop

/-- Seats with a number and a row, of halls with a number. -/
def seats (row : Column) : Table :=
  (((Table.empty "seats").withColumn (number "hall").notNull).withColumn
    (number "seat").notNull).withColumn row

theorem wellKeyed_seats (row : Column) : (seats row).WellKeyed :=
  (((Table.WellKeyed.empty _).withColumn _).withColumn _).withColumn _

/-- The row is freed of its NOT NULL while the key changes, and was not in it. -/
theorem freesAfterKey_seats :
    let before := (seats (number "row").notNull).withPrimaryKey ⟨none, ["hall", "seat"]⟩
    let after := (seats (number "row")).withPrimaryKey ⟨none, ["seat"]⟩
    (before.WellKeyed ∧ after.WellKeyed ∧ before.name = after.name ∧
      ∀ n ∈ before.keyNames, n ∉ before.uniqueNames ∧ n ∉ before.referenceNames) ∧
    ∃ r, Ddl.alteration .postgres before after = .ok r ∧
      r.statements = [.alterTable "seats" (.dropNotNull "row"),
        .alterTable "seats" (.dropConstraint "seats_pkey"),
        .alterTable "seats" (.addPrimaryKey ⟨none, ["seat"]⟩)] ∧
      before.FreesAfterKey r.statements := by
  intro before after
  have keyed : before.WellKeyed := (wellKeyed_seats _).withPrimaryKey _
  have keyed' : after.WellKeyed := (wellKeyed_seats _).withPrimaryKey _
  have same : before.name = after.name := by decide
  have apart : ∀ n ∈ before.keyNames, n ∉ before.uniqueNames ∧ n ∉ before.referenceNames := by
    decide
  have compiled : Ddl.alteration .postgres before after = .ok
      ⟨[.alterTable "seats" (.dropNotNull "row"),
        .alterTable "seats" (.dropConstraint "seats_pkey"),
        .alterTable "seats" (.addPrimaryKey ⟨none, ["seat"]⟩)], []⟩ := by decide +kernel
  have stays : ∀ c ∈ before.keyColumns, before.becomesNullable after c = false := by decide
  obtain ⟨r, hr, hiff⟩ := Ddl.Postgres.freesAfterKey_iff keyed keyed' same apart
  obtain rfl := Except.ok.inj (hr.symm.trans compiled)
  exact ⟨⟨keyed, keyed', same, apart⟩, _, compiled, rfl, hiff.mpr stays⟩

/-- A column that becomes nullable is freed of its NOT NULL though it stays in the key, and if it
leaves the key, before that is dropped. -/
theorem not_freesAfterKey_seats :
    let before := (seats (number "row").notNull).withPrimaryKey ⟨none, ["hall", "row"]⟩
    let both := (seats (number "row")).withPrimaryKey ⟨none, ["hall", "row"]⟩
    let halls := (seats (number "row")).withPrimaryKey ⟨none, ["hall"]⟩
    (before.WellKeyed ∧ both.WellKeyed ∧ halls.WellKeyed ∧ "row" ∈ before.keyColumns) ∧
    (∃ r, Ddl.alteration .postgres before both = .ok r ∧
      r.statements = [.alterTable "seats" (.dropNotNull "row")] ∧
      ¬ before.FreesAfterKey r.statements) ∧
    ∃ r, Ddl.alteration .postgres before halls = .ok r ∧
      r.statements = [.alterTable "seats" (.dropNotNull "row"),
        .alterTable "seats" (.dropConstraint "seats_pkey"),
        .alterTable "seats" (.addPrimaryKey ⟨none, ["hall"]⟩)] ∧
      ¬ before.FreesAfterKey r.statements := by
  intro before both halls
  have first : ∀ l, ¬ before.FreesAfterKey (.alterTable "seats" (.dropNotNull "row") :: l) := by
    intro l frees
    obtain ⟨s, hs, -⟩ := frees [] l "row" (by decide) rfl
    cases hs
  exact ⟨⟨(wellKeyed_seats _).withPrimaryKey _, (wellKeyed_seats _).withPrimaryKey _,
      (wellKeyed_seats _).withPrimaryKey _, by decide⟩,
    ⟨⟨[.alterTable "seats" (.dropNotNull "row")], []⟩, by decide +kernel, rfl, first _⟩,
    ⟨⟨[.alterTable "seats" (.dropNotNull "row"),
        .alterTable "seats" (.dropConstraint "seats_pkey"),
        .alterTable "seats" (.addPrimaryKey ⟨none, ["hall"]⟩)], []⟩, by decide +kernel, rfl,
      first _⟩⟩

end Shop

end SchemaEvolution
