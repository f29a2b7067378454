import SchemaEvolution.Proofs.Alterations
import SchemaEvolution.Proofs.KeyNullability

/-!
# Columns stated anew

Spanner has no statement that changes the type of a column alone, or its NOT NULL alone: either way
the column is stated anew, with both. A change of the type comes first, when the column may still be
null as before. What is stated is known from the two versions of the table
(`Ddl.Spanner.restatements_alteration`).

A table is created with NOT NULL for the columns of its key, and for flagged ones. A restatement
looks at the key alone. The two differ for a flagged column that may be null and that a declared key
leaves out (`Table.nullableOutsideKey`), and for no other one
(`Ddl.Spanner.restatements_as_created_iff`).
-/

namespace SchemaEvolution

namespace Table

variable {t : Table} {n : String} {c : Column}

/-- Whether a table is created for Spanner with NOT NULL for the column of a name. -/
def createsNotNull (t : Table) (n : String) : Bool :=
  (Ddl.Spanner.tableDefinition t).columns.any fun c => c.name == n && c.notNull

/-- A column is flagged and may be null, and a declared key leaves it out. -/
def nullableOutsideKey (t : Table) (n : String) : Bool :=
  (t.columns.find? n).any fun c => c.primaryKey && c.nullable && !t.keyColumns.contains n

theorem createsNotNull_eq (keyed : t.WellKeyed) (h : t.columns.find? n = some c) :
    t.createsNotNull n = Ddl.Spanner.isNotNull t c := by
  rw [Bool.eq_iff_iff, createsNotNull, List.any_eq_true]
  simp only [Ddl.Spanner.tableDefinition, List.mem_map, Ddl.Spanner.columnDefinition,
    Bool.and_eq_true, beq_iff_eq]
  constructor
  · rintro ⟨_, ⟨d, hd, rfl⟩, named, notNull⟩
    obtain ⟨m, hm⟩ := NameMap.mem_values.mp hd
    obtain rfl : m = n := (keyed.name_of_find? hm).symm.trans named
    obtain rfl := Option.some.inj (hm.symm.trans h)
    exact notNull
  · intro notNull
    exact ⟨_, ⟨c, NameMap.mem_values.mpr ⟨n, h⟩, rfl⟩, keyed.name_of_find? h, notNull⟩

/-- To look at the key alone is right for a column, unless it is flagged and may be null, and the
key leaves it out. -/
theorem notNull_eq_createsNotNull_iff (keyed : t.WellKeyed) (h : t.columns.find? n = some c) :
    (!c.nullable || t.keyColumns.contains n) = t.createsNotNull n ↔
      t.nullableOutsideKey n = false := by
  rw [createsNotNull_eq keyed h, Ddl.Spanner.isNotNull, keyed.name_of_find? h,
    nullableOutsideKey, h, Option.any_some]
  cases c.nullable <;> cases c.primaryKey <;> cases t.keyColumns.contains n <;> decide

end Table

namespace Ddl.Spanner

variable {before after : Table} {table n : String} {c c' : Column}

/-- What is stated anew of a column. -/
structure Restatement where
  type : String
  notNull : Bool
deriving DecidableEq

/-- What statements state anew of a column of a table, in their order. -/
def restatements (table n : String) (l : List Sql.Statement) : List Restatement :=
  l.filterMap fun
    | .alterTable table' (.restate n' type notNull) =>
      if table' = table ∧ n' = n then some ⟨type, notNull⟩ else none
    | _ => none

theorem restatements_append (table n : String) (l l' : List Sql.Statement) :
    restatements table n (l ++ l') = restatements table n l ++ restatements table n l' :=
  List.filterMap_append ..

theorem restatements_flatMap {α : Type} (table n : String) (l : List α)
    (f : α → List Sql.Statement) :
    restatements table n (l.flatMap f) = l.flatMap fun a => restatements table n (f a) :=
  List.filterMap_flatMap ..

/-! ## Single edits -/

/-- What the edit of a property states anew of a column. -/
def restatement? (c : Column) (keyColumn nullable : Bool) : FieldEdit → Option Restatement
  | .type _ _ => some ⟨c.physical.spanner, !nullable || keyColumn⟩
  | .nullable flag => some ⟨c.physical.spanner, !flag || keyColumn⟩
  | _ => none

theorem restatements_restate (keyColumn nullable : Bool) :
    restatements table n [restate table c keyColumn nullable] =
      if c.name = n then [⟨c.physical.spanner, !nullable || keyColumn⟩] else [] := by
  by_cases named : c.name = n <;> simp [restatements, restate, named]

theorem restatements_editField (keyColumn nullable : Bool) (edit : FieldEdit) :
    restatements table n (statementsOf (editField table c keyColumn nullable edit)) =
      if c.name = n then (restatement? c keyColumn nullable edit).toList else [] := by
  cases edit with
  | type type physical => exact restatements_restate keyColumn nullable
  | nullable flag => exact restatements_restate keyColumn flag
  | default x? y? =>
    refine Eq.trans ?_ (ite_self _).symm
    rw [editField, statementsOf_statements, changeDefault]
    split <;> rfl
  | primaryKey flag => exact (ite_self _).symm
  | unique flag => cases flag <;> exact (ite_self _).symm
  | reference x? y? => cases x? <;> cases y? <;> exact (ite_self _).symm

/-- While a change of null is still to come, the column may be null as before. -/
theorem nullable_before (c c' : Column) :
    (if editsNullable (FieldEdit.between c c') then !c'.nullable else c'.nullable) =
      c.nullable := by
  have edits : editsNullable (FieldEdit.between c c') = true ↔ c.nullable ≠ c'.nullable := by
    rw [editsNullable, List.any_eq_true]
    constructor
    · rintro ⟨edit, hedit, is⟩
      have called := FieldEdit.mem_between_iff.mp hedit
      cases edit <;> first | exact called.1 | cases is
    · intro differ
      exact ⟨.nullable c'.nullable, FieldEdit.mem_between_iff.mpr ⟨differ, rfl⟩, rfl⟩
  by_cases differ : c.nullable = c'.nullable
  · rw [if_neg (edits.not.mpr (not_not.mpr differ)), differ]
  · rw [if_pos (edits.mpr differ)]
    exact (Bool.eq_not_of_ne differ).symm

theorem filterMap_restatement?_between (c c' : Column) (keyColumn : Bool) :
    (FieldEdit.between c c').filterMap (restatement? c' keyColumn c.nullable) =
      (if c.type ≠ c'.type ∨ c.physical ≠ c'.physical then
        [⟨c'.physical.spanner, !c.nullable || keyColumn⟩] else []) ++
      if c.nullable ≠ c'.nullable then [⟨c'.physical.spanner, !c'.nullable || keyColumn⟩]
      else [] := by
  unfold FieldEdit.between
  simp only [List.filterMap_append, apply_ite (List.filterMap _), List.filterMap_cons,
    List.filterMap_nil, restatement?, ite_self, List.append_nil]

/-! ## Whole changes -/

theorem restatements_addColumn :
    restatements table n (statementsOf (addColumn table c)) = [] := by
  unfold addColumn
  split
  · rfl
  · cases c.unique <;> cases c.reference? <;> rfl

theorem restatements_dropColumn :
    restatements table n (statementsOf (dropColumn table c)) = [] := by
  unfold dropColumn
  split
  · rfl
  · cases c.unique <;> cases c.reference? <;> rfl

theorem restatements_change (m : String) (keyColumn : Bool) (edits : List FieldEdit) :
    restatements table n (Ddl.editStatements .spanner table (.change m c keyColumn edits)) =
      if c.name = n then edits.filterMap (restatement? c keyColumn
        (if editsNullable edits then !c.nullable else c.nullable)) else [] := by
  rw [editStatements_change, restatements_flatMap]
  simp only [fieldStatements, restatements_editField]
  split
  · rw [List.filterMap_eq_flatMap_toList]
  · exact List.flatMap_eq_nil_iff.mpr fun _ _ => rfl

/-- The edit of a column states no other column anew. -/
theorem restatements_of_name_ne {e : ColumnEdit} (h : ColumnEdit.Explained before after e)
    (other : e.name ≠ n) : restatements table n (Ddl.editStatements .spanner table e) = [] := by
  cases h with
  | @add _ c =>
    have added : Ddl.editStatements .spanner table (.add c) = statementsOf (addColumn table c) :=
      (List.append_nil _).trans (List.append_nil _)
    rw [added, restatements_addColumn]
  | remove => exact restatements_dropColumn
  | @change m c c' named was there =>
    subst named
    rw [restatements_change]
    exact if_neg other

/-- A change states a column anew where it edits the column, and nowhere else. -/
theorem restatements_eq_flatMap_under (hbefore : before.WellKeyed) (hafter : after.WellKeyed)
    {r : Emission} (h : alteration .spanner before after = .ok r) :
    restatements after.name n r.statements =
      (ColumnEdit.under before after n).toList.flatMap fun e =>
        restatements after.name n (Ddl.editStatements .spanner after.name e) := by
  have drops : ∀ l : List Index, restatements after.name n (l.map (dropIndex after.name)) = [] :=
    fun l => List.filterMap_eq_nil_iff.mpr (List.forall_mem_map.mpr fun _ _ => rfl)
  have creates : ∀ l : List Index,
      restatements after.name n (l.map (createIndex after.name)) = [] :=
    fun l => List.filterMap_eq_nil_iff.mpr (List.forall_mem_map.mpr fun _ _ => rfl)
  have constraints : restatements after.name n
      (statementsOf (Ddl.changeConstraints .spanner (.comparing before after))) = [] := by
    refine List.filterMap_eq_nil_iff.mpr fun s hs => ?_
    obtain ⟨action, rfl⟩ := of_mem_changeConstraints hs
    rfl
  have others : ∀ e ∈ ColumnEdit.between before after, decide (e.name = n) = false →
      restatements after.name n (Ddl.editStatements .spanner after.name e) = [] := fun e he other =>
    restatements_of_name_ne (ColumnEdit.explained_of_mem hbefore hafter he)
      (of_decide_eq_false other)
  rw [statements_alteration h]
  simp only [restatements_append, drops, creates, constraints, List.nil_append, List.append_nil]
  rw [restatements_flatMap, ← flatMap_filter_of_eq_nil others, ColumnEdit.filter_between hafter]

/-- **What a change states anew of a column.** If its type changes, that comes first, with the NOT
NULL that it has so far or that the key gives it; then, if its NOT NULL changes, both come anew. -/
theorem restatements_alteration (hbefore : before.WellKeyed) (hafter : after.WellKeyed)
    {r : Emission} (h : alteration .spanner before after = .ok r)
    (was : before.columns.find? n = some c) (there : after.columns.find? n = some c') :
    restatements after.name n r.statements =
      (if c.type ≠ c'.type ∨ c.physical ≠ c'.physical then
        [⟨c'.physical.spanner, !c.nullable || after.keyColumns.contains n⟩] else []) ++
      if c.nullable ≠ c'.nullable then
        [⟨c'.physical.spanner, !c'.nullable || after.keyColumns.contains n⟩] else [] := by
  have named : c'.name = n := hafter.name_of_find? there
  rw [restatements_eq_flatMap_under hbefore hafter h, ← filterMap_restatement?_between,
    ColumnEdit.under, was, there]
  by_cases same : (FieldEdit.between c c').isEmpty
  · simp only [List.isEmpty_iff.mp same]
    rfl
  · simp only [if_neg same, Option.toList_some, List.flatMap_singleton]
    rw [restatements_change, if_pos named, nullable_before]

/-- **When a column is stated anew as it would be created.** It is stated anew if its type or its
NOT NULL changes, and the last time with its new type. Then it has the NOT NULL with which the new
version of the table would be created, and before that, where its NOT NULL is still to change, the
one with which the old version would be created; unless it is a flagged column that may be null in
that version and is left out by the declared key, for then it never has. -/
theorem restatements_as_created_iff (hbefore : before.WellKeyed) (hafter : after.WellKeyed)
    {r : Emission} (h : alteration .spanner before after = .ok r)
    (was : before.columns.find? n = some c) (there : after.columns.find? n = some c') :
    (restatements after.name n r.statements ≠ [] ↔
      c.type ≠ c'.type ∨ c.physical ≠ c'.physical ∨ c.nullable ≠ c'.nullable) ∧
    (∀ s, (restatements after.name n r.statements).getLast? = some s →
      s.type = c'.physical.spanner ∧
        (s.notNull = after.createsNotNull n ↔ after.nullableOutsideKey n = false)) ∧
    ∀ s ∈ (restatements after.name n r.statements).dropLast,
      c.nullable ≠ c'.nullable ∧ s.type = c'.physical.spanner ∧
        (s.notNull = before.createsNotNull n ↔ before.nullableOutsideKey n = false) := by
  have key : before.keyColumns = after.keyColumns := by
    have same : before.SameKey after :=
      (exists_alterTable_eq_ok hafter).mp ⟨r, alteration_eq .spanner before after ▸ h⟩
    exact same.keyColumns_eq hbefore hafter
  have old := Table.notNull_eq_createsNotNull_iff hbefore was
  have new := Table.notNull_eq_createsNotNull_iff hafter there
  rw [key] at old
  rw [restatements_alteration hbefore hafter h was there]
  by_cases typed : c.type ≠ c'.type ∨ c.physical ≠ c'.physical
  · rw [if_pos typed, ← or_assoc]
    by_cases same : c.nullable = c'.nullable
    · rw [if_neg (not_not.mpr same), List.append_nil, same]
      refine ⟨iff_of_true (List.cons_ne_nil _ _) (.inl typed), ?_, nofun⟩
      rintro s ⟨⟩
      exact ⟨rfl, new⟩
    · rw [if_pos same]
      refine ⟨iff_of_true (List.cons_ne_nil _ _) (.inl typed), ?_, ?_⟩
      · rintro s ⟨⟩
        exact ⟨rfl, new⟩
      · rintro s hs
        obtain rfl := List.mem_singleton.mp hs
        exact ⟨same, rfl, old⟩
  · rw [if_neg typed, ← or_assoc, or_iff_right typed, List.nil_append]
    by_cases same : c.nullable = c'.nullable
    · rw [if_neg (not_not.mpr same)]
      exact ⟨iff_of_false (not_not.mpr rfl) (not_not.mpr same), nofun, nofun⟩
    · rw [if_pos same]
      refine ⟨iff_of_true (List.cons_ne_nil _ _) same, ?_, nofun⟩
      rintro s ⟨⟩
      exact ⟨rfl, new⟩

end Ddl.Spanner

namespace Shop

/-- The column as a decimal number. -/
def asDecimal (c : Column) : Column :=
  { c with type := .decimal, physical := ⟨"NUMERIC", "NUMERIC"⟩ }

/-- The row is in the key. It becomes a decimal number that may be null, and each time it is stated
anew with NOT NULL, as it was and would be created. -/
theorem restatements_as_created_seats :
    let before := (seats (number "row").notNull).withPrimaryKey ⟨none, ["hall", "row"]⟩
    let after := (seats (asDecimal (number "row"))).withPrimaryKey ⟨none, ["hall", "row"]⟩
    (before.WellKeyed ∧ after.WellKeyed ∧
      before.columns.find? "row" = some (number "row").notNull ∧
      after.columns.find? "row" = some (asDecimal (number "row"))) ∧
    ∃ r, Ddl.alteration .spanner before after = .ok r ∧
      Ddl.Spanner.restatements "seats" "row" r.statements =
        [⟨"NUMERIC", before.createsNotNull "row"⟩, ⟨"NUMERIC", after.createsNotNull "row"⟩] := by
  intro before after
  have keyed : before.WellKeyed := (wellKeyed_seats _).withPrimaryKey _
  have keyed' : after.WellKeyed := (wellKeyed_seats _).withPrimaryKey _
  have was : before.columns.find? "row" = some (number "row").notNull := rfl
  have there : after.columns.find? "row" = some (asDecimal (number "row")) := rfl
  have compiled : Ddl.alteration .spanner before after = .ok
      ⟨[.alterTable "seats" (.restate "row" "NUMERIC" true),
        .alterTable "seats" (.restate "row" "NUMERIC" true)], []⟩ := by decide +kernel
  obtain ⟨-, last, earlier⟩ :=
    Ddl.Spanner.restatements_as_created_iff keyed keyed' compiled was there
  have new := (last ⟨"NUMERIC", true⟩ (by decide)).2.mpr (by decide)
  have old := (earlier ⟨"NUMERIC", true⟩ (by decide)).2.2.mpr (by decide)
  refine ⟨⟨keyed, keyed', was, there⟩, _, compiled, ?_⟩
  rw [← old, ← new]
  decide

/-- The row is flagged and may be null, and the key leaves it out. It is created with NOT NULL, and
stated anew without when it becomes a decimal number. -/
theorem not_restated_as_created_seats :
    let row := { number "row" with primaryKey := true }
    let before := (seats row).withPrimaryKey ⟨none, ["hall", "seat"]⟩
    let after := (seats (asDecimal row)).withPrimaryKey ⟨none, ["hall", "seat"]⟩
    (before.WellKeyed ∧ after.WellKeyed) ∧
    before.createsNotNull "row" = true ∧ after.createsNotNull "row" = true ∧
    ∃ r, Ddl.alteration .spanner before after = .ok r ∧
      Ddl.Spanner.restatements "seats" "row" r.statements = [⟨"NUMERIC", false⟩] := by
  intro row before after
  have compiled : Ddl.alteration .spanner before after = .ok
      ⟨[.alterTable "seats" (.restate "row" "NUMERIC" false)], []⟩ := by decide +kernel
  exact ⟨⟨(wellKeyed_seats _).withPrimaryKey _, (wellKeyed_seats _).withPrimaryKey _⟩, by decide,
    by decide, _, compiled, by decide⟩

end Shop

end SchemaEvolution
