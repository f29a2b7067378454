import SchemaEvolution.Proofs.Alterations
import SchemaEvolution.Proofs.Creation

/-!
# The unique constraints of a table in PostgreSQL

What the database keeps of the uniqueness of single columns is a set of constraints, of which only
the names matter here. `UniqueConstraints.execute` says what a statement makes of them and what the
database refuses: to add a constraint under a name that is in use, or to drop one that is not there.

A column that is declared as primary key is unique by that, and a table is created without a
constraint for it (`Table.uniqueByKey`). A change of the table does not look at the key: it adds a
constraint where a column becomes unique, and drops one where a column ceases to be. So a table that
is changed has the constraints that it would be created with exactly if each column is unique by its
key before and after, or neither (`UniqueConstraints.lifetime_iff`).
-/

namespace SchemaEvolution

/-! ## Columns that are unique by their key -/

namespace Table

/-- A column is unique and has a constraint of its own for that. -/
def hasConstraint (t : Table) (n : String) : Bool :=
  t.isUnique n && !(Ddl.Postgres.inlineKey? t == some n)

/-- A column is unique, and declared as primary key, for which reason it has no other constraint. -/
def uniqueByKey (t : Table) (n : String) : Bool :=
  t.isUnique n && (Ddl.Postgres.inlineKey? t == some n)

/-- A column that stays and ceases to be unique had a constraint. -/
def ConstraintIfDropped (t u : Table) (n : String) : Prop :=
  u.columns.contains n = true → t.isUnique n = true → u.isUnique n = false →
    t.hasConstraint n = true

/-- Whether a column has a constraint for its uniqueness after a change: it keeps what it had,
unless it becomes unique or ceases to be. -/
def constraintAfter (t u : Table) (n : String) : Bool :=
  if t.isUnique n = u.isUnique n then t.hasConstraint n else u.isUnique n

theorem isUnique_of_find? {t : Table} {n : String} {c : Column} (h : t.columns.find? n = some c) :
    t.isUnique n = c.unique := by
  rw [isUnique, h, Option.any_some]

theorem isUnique_of_missing {t : Table} {n : String} (h : t.columns.find? n = none) :
    t.isUnique n = false := by
  rw [isUnique, h, Option.any_none]

theorem hasConstraint_of_not_unique {t : Table} {n : String} (h : t.isUnique n = false) :
    t.hasConstraint n = false := by
  rw [hasConstraint, h, Bool.false_and]

theorem isUnique_of_constraintAfter {t u : Table} {n : String}
    (h : t.constraintAfter u n = true) : t.isUnique n = true ∨ u.isUnique n = true := by
  unfold constraintAfter at h
  split at h
  · exact .inl (Bool.and_eq_true_iff.mp h).1
  · exact .inr h

theorem contains_of_isUnique {t : Table} {n : String} (h : t.isUnique n = true) :
    t.columns.contains n = true := by
  cases hc : t.columns.find? n with
  | none => exact absurd (isUnique_of_missing hc ▸ h) Bool.false_ne_true
  | some c => exact NameMap.contains_iff.mpr ⟨c, hc⟩

/-- A column that comes has a constraint if it is unique. -/
theorem constraintAfter_of_new {t u : Table} {n : String} {c : Column}
    (new : t.columns.find? n = none) (there : u.columns.find? n = some c) :
    t.ConstraintIfDropped u n ∧ t.constraintAfter u n = c.unique := by
  have was := isUnique_of_missing new
  refine ⟨fun _ h => absurd (was.symm.trans h) Bool.false_ne_true, ?_⟩
  rw [constraintAfter, hasConstraint_of_not_unique was, was, isUnique_of_find? there]
  cases c.unique <;> rfl

/-- A column that stays keeps what it had, unless it becomes unique or ceases to be. -/
theorem constraintAfter_of_kept {t u : Table} {n : String} {c c' : Column}
    (was : t.columns.find? n = some c) (there : u.columns.find? n = some c') :
    (t.ConstraintIfDropped u n ↔ (c.unique ≠ c'.unique → t.hasConstraint n ≠ c'.unique)) ∧
      t.constraintAfter u n = if c.unique = c'.unique then t.hasConstraint n else c'.unique := by
  have kept : u.columns.contains n = true := NameMap.contains_iff.mpr ⟨c', there⟩
  rw [ConstraintIfDropped, constraintAfter, hasConstraint, isUnique_of_find? was,
    isUnique_of_find? there, kept]
  refine ⟨?_, rfl⟩
  generalize (Ddl.Postgres.inlineKey? t == some n) = inline
  cases c.unique <;> cases c'.unique <;> cases inline <;> decide

/-- A column that goes has no constraint any more. -/
theorem constraintAfter_of_gone {t u : Table} {n : String} (gone : u.columns.find? n = none) :
    t.ConstraintIfDropped u n ∧ t.constraintAfter u n = false := by
  constructor
  · intro there
    rw [NameMap.contains_eq_false_iff.mpr gone] at there
    cases there
  · rw [constraintAfter, isUnique_of_missing gone]
    split
    · rename_i same
      exact hasConstraint_of_not_unique same
    · rfl

/-- A change leaves a column with the constraint that it is to have exactly if the column is unique
by its key before and after, or neither. -/
theorem constraintAfter_eq_iff {t u : Table} {n : String} :
    t.ConstraintIfDropped u n ∧ t.constraintAfter u n = u.hasConstraint n ↔
      (u.columns.contains n = true → t.uniqueByKey n = u.uniqueByKey n) := by
  have there : u.isUnique n = true → u.columns.contains n = true := contains_of_isUnique
  unfold ConstraintIfDropped constraintAfter hasConstraint uniqueByKey
  generalize t.isUnique n = unique at *
  generalize u.isUnique n = unique' at *
  generalize u.columns.contains n = contains at *
  generalize (Ddl.Postgres.inlineKey? t == some n) = inline
  generalize (Ddl.Postgres.inlineKey? u == some n) = inline'
  revert there
  revert unique unique' contains inline inline'
  decide

end Table

namespace UniqueConstraints

open Function (update)
open ColumnEdit (midway)
open Ddl.Postgres (editField editStatements_add editStatements_remove)

/-! ## What the database keeps -/

/-- The names of the constraints of the columns of a table that is created. -/
def created (d : Sql.TableDefinition) : Finset String :=
  ((d.columns.filter (·.unique)).map fun c => uniqueName d.name c.name).toFinset

/-- What a change of a table makes of the names of its unique constraints, or `none` if it is
refused. `others` are the names of the constraints of the table that are not about uniqueness; to
drop one of them leaves the unique constraints as they are. -/
def alter (table : String) (others : List String) (taken : Finset String) :
    Sql.AlterClause → Option (Finset String)
  | .addColumn c => some (if c.unique then insert (uniqueName table c.name) taken else taken)
  | .dropColumn c => some (taken.erase (uniqueName table c))
  | .addUnique n _ => if n ∈ taken then none else some (insert n taken)
  | .dropConstraint n =>
    if n ∈ taken then some (taken.erase n) else if n ∈ others then some taken else none
  | _ => some taken

/-- What a statement makes of the names of the unique constraints of a table, or `none` if it is
refused. -/
def execute (table : String) (others : List String) (taken : Finset String) :
    Sql.Statement → Option (Finset String)
  | .createTable d => some (if d.name = table then created d else taken)
  | .alterTable name clause =>
    if name = table then alter table others taken clause else some taken
  | _ => some taken

/-- The names of the constraints of a table that are not about uniqueness. -/
def otherNames (t : Table) : List String :=
  t.referenceNames ++ t.keyNames

/-- The names that are taken are those of the constraints of certain columns. -/
def Has (table : String) (present : String → Bool) (taken : Finset String) : Prop :=
  ∀ n, n ∈ taken ↔ ∃ c, present c = true ∧ uniqueName table c = n

section

variable {table c : String} {others : List String} {present : String → Bool}
  {taken taken' : Finset String}

theorem execute_alterTable (taken : Finset String) (clause : Sql.AlterClause) :
    execute table others taken (.alterTable table clause) = alter table others taken clause :=
  if_pos rfl

theorem Has.unique (h : Has table present taken) (h' : Has table present taken') :
    taken = taken' :=
  Finset.ext fun n => (h n).trans (h' n).symm

theorem Has.mem_iff (h : Has table present taken) :
    uniqueName table c ∈ taken ↔ present c = true := by
  rw [h]
  constructor
  · rintro ⟨b, hb, heq⟩
    rwa [← uniqueName_inj.mp heq]
  · exact fun hc => ⟨c, hc, rfl⟩

/-- The constraint of a column is there after it was added. -/
theorem Has.inserted (h : Has table present taken) (c : String) :
    Has table (update present c true) (insert (uniqueName table c) taken) := by
  intro n
  rw [Finset.mem_insert, h]
  constructor
  · rintro (rfl | ⟨b, hb, rfl⟩)
    · exact ⟨c, Function.update_self .., rfl⟩
    · refine ⟨b, ?_, rfl⟩
      rw [Function.update_apply, hb, ite_self]
  · rintro ⟨b, hb, rfl⟩
    rw [uniqueName_inj]
    by_cases hbc : b = c
    · exact .inl hbc
    · exact .inr ⟨b, (Function.update_of_ne hbc ..).symm.trans hb, rfl⟩

/-- The constraint of a column is gone after it was dropped. -/
theorem Has.erased (h : Has table present taken) (c : String) :
    Has table (update present c false) (taken.erase (uniqueName table c)) := by
  intro n
  rw [Finset.mem_erase, h]
  constructor
  · rintro ⟨hne, b, hb, rfl⟩
    have hbc : b ≠ c := fun heq => hne (congrArg _ heq)
    exact ⟨b, (Function.update_of_ne hbc ..).trans hb, rfl⟩
  · rintro ⟨b, hb, rfl⟩
    by_cases hbc : b = c
    · rw [hbc, Function.update_self] at hb
      cases hb
    · rw [Function.update_of_ne hbc] at hb
      exact ⟨fun heq => hbc (uniqueName_inj.mp heq), b, hb, rfl⟩

/-! ## Statements about one column -/

/-- The edit of any other property leaves the constraints as they are. -/
theorem execute_editField {edit : FieldEdit} (other : ∀ b, edit ≠ .unique b)
    (known : ∀ x y?, edit = .reference (some x) y? → x.nameFor table c ∈ others)
    (free : ∀ n ∈ others, n ∉ taken) :
    ∀ s ∈ editField table c edit, execute table others taken s = some taken := by
  cases edit with
  | unique b => exact absurd rfl (other b)
  | type _ _ => simp [editField, execute_alterTable, alter]
  | nullable b => cases b <;> simp [editField, execute_alterTable, alter]
  | primaryKey _ => exact List.forall_mem_nil _
  | default x? y? =>
    simp only [editField, Ddl.changeDefault]
    split <;> simp [execute_alterTable, alter]
  | reference x? y? =>
    have added : ∀ r ∈ y?.toList, execute table others taken (.alterTable table
        (.addForeignKey ⟨r.nameFor table c, c, Ddl.Postgres.target r⟩)) = some taken :=
      fun _ _ => execute_alterTable ..
    refine List.forall_mem_append.mpr ⟨List.forall_mem_map.mpr fun x hx => ?_,
      List.forall_mem_map.mpr added⟩
    obtain rfl := Option.mem_toList.mp hx
    have hx := known x y? rfl
    rw [execute_alterTable, alter, if_neg (free _ hx), if_pos hx]

/-- A constraint comes or goes if it was not there, or was. -/
theorem Has.settled (h : Has table present taken) (apart : uniqueName table c ∉ others)
    (now : Bool) :
    Leads ((editField table c (.unique now)).foldlM (execute table others) taken)
      (present c ≠ now) (Has table (update present c now)) := by
  cases now with
  | true =>
    have run : (editField table c (.unique true)).foldlM (execute table others) taken =
        if uniqueName table c ∈ taken then none
        else some (insert (uniqueName table c) taken) := by
      simp [editField, execute_alterTable, alter]
    rw [run, ne_eq, ← h.mem_iff]
    exact ⟨fun absent => ⟨_, if_neg absent, h.inserted c⟩, fun there => if_pos (not_not.mp there)⟩
  | false =>
    have run : (editField table c (.unique false)).foldlM (execute table others) taken =
        if uniqueName table c ∈ taken then some (taken.erase (uniqueName table c)) else none := by
      simp [editField, execute_alterTable, alter, apart]
    rw [run, ne_eq, Bool.not_eq_false, ← h.mem_iff]
    exact ⟨fun there => ⟨_, if_pos there, h.erased c⟩, fun absent => if_neg absent⟩

/-- No constraint of another kind has the name of one that is there. -/
theorem Has.not_mem_of_apart (h : Has table present taken)
    (apart : ∀ b, present b = true → uniqueName table b ∉ others) : ∀ n ∈ others, n ∉ taken := by
  rintro n hn there
  obtain ⟨b, hb, rfl⟩ := (h n).mp there
  exact apart b hb hn

variable (others) in
/-- A column that comes has a constraint if it is unique. -/
theorem Has.added (h : Has table present taken) {c : Column} (absent : present c.name = false) :
    Leads ((Ddl.editStatements .postgres table (.add c)).foldlM (execute table others) taken) True
      (Has table (update present c.name c.unique)) := by
  have run : (Ddl.editStatements .postgres table (.add c)).foldlM (execute table others) taken =
      some (if c.unique then insert (uniqueName table c.name) taken else taken) := by
    simp [editStatements_add, execute_alterTable, alter, Ddl.Postgres.columnDefinition]
  rw [run]
  refine .some ?_
  cases c.unique with
  | true => exact h.inserted c.name
  | false =>
    have same : update present c.name false = present := by
      rw [← absent, Function.update_eq_self]
    rw [if_neg Bool.false_ne_true, same]
    exact h

variable (others) in
/-- A column that goes takes its constraint with it. -/
theorem Has.removed (h : Has table present taken) (c : Column) :
    Leads ((Ddl.editStatements .postgres table (.remove c.name c)).foldlM
      (execute table others) taken) True (Has table (update present c.name false)) := by
  have run : (Ddl.editStatements .postgres table (.remove c.name c)).foldlM
      (execute table others) taken = some (taken.erase (uniqueName table c.name)) := by
    simp [editStatements_remove, execute_alterTable, alter]
  rw [run]
  exact .some (h.erased c.name)

/-- What else is changed of a column leaves the constraints as they are. -/
theorem Has.unmoved (h : Has table present taken) {c c' : Column} {edits : List FieldEdit}
    (known : ∀ x ∈ c.reference?, x.nameFor table c'.name ∈ others)
    (apart : ∀ b, present b = true → uniqueName table b ∉ others)
    (sub : ∀ edit ∈ edits, edit ∈ FieldEdit.between c c')
    (other : ∀ edit ∈ edits, ∀ b, edit ≠ .unique b) :
    (edits.flatMap (editField table c'.name)).foldlM (execute table others) taken =
      some taken := by
  refine foldlM_eq_some_self (List.forall_mem_flatMap.mpr fun edit hedit => ?_)
  refine execute_editField (other edit hedit) ?_ (h.not_mem_of_apart apart)
  rintro x y? rfl
  exact known x (FieldEdit.mem_between_iff.mp (sub _ hedit)).2.1.symm

/-- A column that becomes unique, or ceases to be, gets its constraint or loses it. -/
theorem Has.settled_if (h : Has table present taken) {was now : Bool}
    (apart : was ≠ now → uniqueName table c ∉ others) :
    Leads ((if was ≠ now then editField table c (.unique now) else []).foldlM
        (execute table others) taken)
      (was ≠ now → present c ≠ now)
      (Has table (update present c (if was = now then present c else now))) := by
  by_cases same : was = now
  · rw [if_neg (not_not.mpr same), if_pos same, Function.update_eq_self]
    exact (Leads.some h).congr (iff_of_true trivial (absurd same))
  · rw [if_pos same, if_neg same]
    exact (h.settled (apart same) _).congr ⟨fun hne _ => hne, fun hne => hne same⟩

/-- A column that is changed gets a constraint if it becomes unique and loses it if it ceases to
be. -/
theorem Has.changed (h : Has table present taken) {c c' : Column}
    (known : ∀ x ∈ c.reference?, x.nameFor table c'.name ∈ others)
    (apart : ∀ b, present b = true → uniqueName table b ∉ others)
    (apart' : c.unique ≠ c'.unique → uniqueName table c'.name ∉ others)
    (n : String) (keyColumn : Bool) :
    Leads ((Ddl.editStatements .postgres table
        (.change n c' keyColumn (FieldEdit.between c c'))).foldlM (execute table others) taken)
      (c.unique ≠ c'.unique → present c'.name ≠ c'.unique)
      (Has table (update present c'.name
        (if c.unique = c'.unique then present c'.name else c'.unique))) := by
  obtain ⟨front, back, hbetween, hfront, hback⟩ := FieldEdit.exists_between_eq_unique c c'
  have statements : Ddl.editStatements .postgres table
      (.change n c' keyColumn (FieldEdit.between c c')) =
        (front.flatMap (editField table c'.name) ++
          (if c.unique ≠ c'.unique then editField table c'.name (.unique c'.unique) else [])) ++
          back.flatMap (editField table c'.name) := by
    rw [Ddl.editStatements_change]
    change (FieldEdit.between c c').flatMap (editField table c'.name) = _
    rw [hbetween, List.flatMap_append, List.flatMap_append, apply_ite (List.flatMap _),
      List.flatMap_singleton, List.flatMap_nil]
  have first := h.unmoved known apart (fun edit hedit => hbetween ▸ List.mem_append_left back
    (List.mem_append_left _ hedit)) hfront
  have apart_after : ∀ b, update present c'.name
      (if c.unique = c'.unique then present c'.name else c'.unique) b = true →
        uniqueName table b ∉ others := by
    intro b hb
    by_cases hbc : b = c'.name
    · subst hbc
      rw [Function.update_self] at hb
      split at hb
      · exact apart _ hb
      · rename_i differ
        exact apart' differ
    · exact apart b ((Function.update_of_ne hbc ..).symm.trans hb)
  rw [statements, List.foldlM_append, List.foldlM_append, first, Option.bind_eq_bind,
    Option.bind_some]
  refine (h.settled_if apart').bind_some fun next hnext => ⟨next, ?_, hnext⟩
  exact hnext.unmoved known apart_after
    (fun edit hedit => hbetween ▸ List.mem_append_right _ hedit) hback

end

/-! ## All columns -/

section

variable {before after : Table} {taken : Finset String} (hbefore : before.WellKeyed)
  (hafter : after.WellKeyed) (hname : before.name = after.name)
  (apart : ∀ c, before.isUnique c = true ∨ after.isUnique c = true →
    uniqueName after.name c ∉ otherNames before)

include hbefore hafter hname apart

/-- **The edit of a column** settles its constraint, and that is refused only where one is to go
that is not there. -/
theorem Has.edited {present : String → Bool} {edit : ColumnEdit}
    (h : Has after.name present taken) (hedit : edit ∈ ColumnEdit.between before after)
    (hpresent : present edit.name = before.hasConstraint edit.name)
    (within : ∀ b, present b = true → before.isUnique b = true ∨ after.isUnique b = true) :
    Leads ((Ddl.editStatements .postgres after.name edit).foldlM
        (execute after.name (otherNames before)) taken)
      (before.ConstraintIfDropped after edit.name)
      (Has after.name (update present edit.name (before.constraintAfter after edit.name))) := by
  cases ColumnEdit.explained_of_mem hbefore hafter hedit with
  | @add n c named new there =>
    subst named
    have absent : present c.name = false :=
      hpresent.trans (Table.hasConstraint_of_not_unique (Table.isUnique_of_missing new))
    have added := h.added (otherNames before) absent
    obtain ⟨accepted, left⟩ := Table.constraintAfter_of_new new there
    rw [← left] at added
    exact added.congr (iff_of_true trivial accepted)
  | @change n c c' named was there =>
    subst named
    have known : ∀ x ∈ c.reference?, x.nameFor after.name c'.name ∈ otherNames before := by
      intro x hx
      refine List.mem_append_left _ ((Table.mem_referenceNames hbefore).mpr ⟨c'.name, x, ?_, ?_⟩)
      · exact (Table.referenceAt_of_find? was).trans hx
      · rw [hname]
    have differ : c.unique ≠ c'.unique → uniqueName after.name c'.name ∉ otherNames before := by
      intro differ
      refine apart c'.name ?_
      rw [Table.isUnique_of_find? was, Table.isUnique_of_find? there]
      revert differ
      cases c.unique <;> cases c'.unique <;> decide
    have changed := h.changed known (fun b hb => apart b (within b hb)) differ c'.name
      (after.keyColumns.contains c'.name)
    have first : present c'.name = before.hasConstraint c'.name := hpresent
    obtain ⟨accepted, left⟩ := Table.constraintAfter_of_kept was there
    rw [first, ← left] at changed
    exact changed.congr accepted.symm
  | @remove n c named was gone =>
    subst named
    have removed := h.removed (otherNames before) c
    obtain ⟨accepted, left⟩ := Table.constraintAfter_of_gone (t := before) gone
    rw [← left] at removed
    exact removed.congr (iff_of_true trivial accepted)

/-- **The edits lead from the constraints of the first version to those that they leave.** -/
theorem Has.run {edits : List ColumnEdit}
    (sub : ∀ edit ∈ edits, edit ∈ ColumnEdit.between before after)
    (nodup : (edits.map (·.name)).Nodup)
    (h : Has after.name (midway edits before.hasConstraint (before.constraintAfter after)) taken) :
    Leads ((edits.flatMap (Ddl.editStatements .postgres after.name)).foldlM
        (execute after.name (otherNames before)) taken)
      (∀ edit ∈ edits, before.ConstraintIfDropped after edit.name)
      (Has after.name (before.constraintAfter after)) := by
  induction edits generalizing taken with
  | nil =>
    rw [ColumnEdit.midway_nil] at h
    exact (Leads.some h).congr (iff_of_true trivial (List.forall_mem_nil _))
  | cons edit rest ih =>
    rw [List.forall_mem_cons] at sub
    rw [List.map_cons, List.nodup_cons] at nodup
    have within : ∀ b, midway (edit :: rest) before.hasConstraint
        (before.constraintAfter after) b = true →
          before.isUnique b = true ∨ after.isUnique b = true := by
      intro b hb
      unfold midway at hb
      split at hb
      · exact .inl (Bool.and_eq_true_iff.mp hb).1
      · exact Table.isUnique_of_constraintAfter hb
    have step := h.edited hbefore hafter hname apart sub.1 ColumnEdit.midway_cons_self within
    rw [ColumnEdit.update_midway nodup.1] at step
    rw [List.flatMap_cons, List.foldlM_append, List.forall_mem_cons]
    exact step.bind fun _ hnext => ih sub.2 nodup.2 hnext

end

/-! ## Creating and changing a table -/

/-- A column that is not edited is as unique as it was. -/
theorem isUnique_eq_of_not_edited {before after : Table} (hbefore : before.WellKeyed)
    (hafter : after.WellKeyed) {n : String}
    (h : n ∉ (ColumnEdit.between before after).map (·.name)) :
    before.isUnique n = after.isUnique n := by
  have same := ColumnEdit.matches_of_not_edited hbefore hafter h
  unfold Table.isUnique
  generalize before.columns.find? n = b? at same ⊢
  generalize after.columns.find? n = a? at same ⊢
  cases same with
  | none => rfl
  | some same => exact same.unique

/-- What a table is created with are the constraints of its unique columns, but that of the column
that is declared as primary key. -/
theorem has_created {t : Table} (keyed : t.WellKeyed) :
    Has t.name t.hasConstraint (created (Ddl.Postgres.tableDefinition t)) := by
  have hasConstraint : ∀ {n c}, t.columns.find? n = some c →
      t.hasConstraint n = (!(Ddl.Postgres.inlineKey? t == some c.name) && c.unique) := by
    intro n c hc
    rw [Table.hasConstraint, Table.isUnique_of_find? hc, keyed.name_of_find? hc, Bool.and_comm]
  intro n
  simp only [created, Ddl.Postgres.tableDefinition, List.mem_toFinset, List.mem_map,
    List.mem_filter, exists_exists_and_eq_and, and_assoc]
  constructor
  · rintro ⟨c, hc, unique, named⟩
    obtain ⟨m, hm⟩ := NameMap.mem_values.mp hc
    refine ⟨m, (hasConstraint hm).trans unique, ?_⟩
    rw [← keyed.name_of_find? hm]
    exact named
  · rintro ⟨n, has, rfl⟩
    have unique : t.isUnique n = true := (Bool.and_eq_true_iff.mp has).1
    obtain ⟨c, hc⟩ := NameMap.contains_iff.mp (Table.contains_of_isUnique unique)
    refine ⟨c, NameMap.mem_values.mpr ⟨n, hc⟩, (hasConstraint hc).symm.trans has, ?_⟩
    exact congrArg _ (keyed.name_of_find? hc)

theorem run_createTable {t : Table} {e : Emission} (h : Ddl.createTable .postgres t = .ok e)
    (others : List String) : e.statements.foldlM (execute t.name others) ∅ =
      some (created (Ddl.Postgres.tableDefinition t)) := by
  rw [(Ddl.createTable_eq_ok h).2, List.foldlM_cons]
  have first : execute t.name others ∅ (.createTable (Ddl.tableDefinition .postgres t)) =
      some (created (Ddl.Postgres.tableDefinition t)) :=
    congrArg some (if_pos rfl)
  rw [first]
  exact foldlM_eq_some_self (List.forall_mem_map.mpr fun _ _ => rfl)

section

variable {before after : Table} (hbefore : before.WellKeyed)
  (hafter : after.WellKeyed) (hname : before.name = after.name)
  (apart : ∀ c, before.isUnique c = true ∨ after.isUnique c = true →
    uniqueName after.name c ∉ otherNames before)

include hbefore hafter hname apart

theorem leads_alteration {r : Emission} (h : Ddl.alteration .postgres before after = .ok r) :
    Leads (r.statements.foldlM (execute after.name (otherNames before))
        (created (Ddl.Postgres.tableDefinition before)))
      (∀ n, before.ConstraintIfDropped after n)
      (Has after.name (before.constraintAfter after)) := by
  have start : Has after.name (midway (ColumnEdit.between before after) before.hasConstraint
      (before.constraintAfter after)) (created (Ddl.Postgres.tableDefinition before)) := by
    have kept : ∀ n, n ∉ (ColumnEdit.between before after).map (·.name) →
        before.hasConstraint n = before.constraintAfter after n :=
      fun n hn => (if_pos (isUnique_eq_of_not_edited hbefore hafter hn)).symm
    rw [ColumnEdit.midway_of_unedited kept, ← hname]
    exact has_created hbefore
  have columns := start.run hbefore hafter hname apart (fun _ => id)
    (ColumnEdit.nodup_names_between before hafter)
  have accepted : (∀ edit ∈ ColumnEdit.between before after,
      before.ConstraintIfDropped after edit.name) ↔ ∀ n, before.ConstraintIfDropped after n := by
    refine ⟨fun h n => ?_, fun h edit _ => h edit.name⟩
    by_cases hn : n ∈ (ColumnEdit.between before after).map (·.name)
    · obtain ⟨edit, hedit, rfl⟩ := List.mem_map.mp hn
      exact h edit hedit
    · intro _ was gone
      rw [isUnique_eq_of_not_edited hbefore hafter hn, gone] at was
      cases was
  rw [accepted] at columns
  refine Ddl.leads_alteration h (fun _ _ => rfl) (fun _ _ => rfl) columns ?_
  intro taken htaken s hs
  have free := htaken.not_mem_of_apart fun c hc => apart c (Table.isUnique_of_constraintAfter hc)
  rcases Ddl.Postgres.of_mem_changeKey hname hs with ⟨n, hn, rfl⟩ | ⟨_, rfl⟩
  · have known : n ∈ otherNames before := List.mem_append_right _ hn
    rw [execute_alterTable, alter, if_neg (free n known), if_pos known]
  · exact execute_alterTable ..

end

/-- **The unique constraints of a table over a change.** Let two versions of a table pass the check
of their index names, and no constraint of another kind have the name of a unique constraint of
theirs. Then the first version can be created and changed into the second one. After that, the table
has the constraints that it would be created with in the second version, and no statement is
refused, exactly if no column that it then has comes to be unique by its key, or ceases to be. -/
theorem lifetime_iff {before after : Table} (hbefore : before.WellKeyed)
    (hafter : after.WellKeyed) (hname : before.name = after.name)
    (apart : ∀ n ∈ otherNames before, n ∉ before.uniqueNames ∧ n ∉ after.uniqueNames)
    (checked : before.checkIndexNames .postgres = .ok ())
    (checked' : after.checkIndexNames .postgres = .ok ()) :
    ∃ first change second, Ddl.createTable .postgres before = .ok first ∧
      Ddl.alteration .postgres before after = .ok change ∧
      Ddl.createTable .postgres after = .ok second ∧
      ∃ names, second.statements.foldlM (execute after.name (otherNames before)) ∅ = some names ∧
        ((first.statements ++ change.statements).foldlM
            (execute after.name (otherNames before)) ∅ = some names ↔
          ∀ c ∈ after.columns.names, before.uniqueByKey c = after.uniqueByKey c) := by
  obtain ⟨first, hfirst⟩ := Ddl.exists_createTable_eq_ok.mpr checked
  obtain ⟨second, hsecond⟩ := Ddl.exists_createTable_eq_ok.mpr checked'
  obtain ⟨change, hchange⟩ := Ddl.Postgres.exists_alteration_eq_ok before after
  have named : ∀ c, before.isUnique c = true ∨ after.isUnique c = true →
      uniqueName after.name c ∉ otherNames before := by
    rintro c (was | now) hc
    · refine (apart _ hc).1 ?_
      rw [← hname]
      exact (Table.uniqueName_mem_uniqueNames hbefore).mpr was
    · exact (apart _ hc).2 ((Table.uniqueName_mem_uniqueNames hafter).mpr now)
  have start := run_createTable hfirst (otherNames before)
  rw [hname] at start
  have run := leads_alteration hbefore hafter hname named hchange
  have final := has_created hafter
  refine ⟨first, change, second, hfirst, hchange, hsecond, _, run_createTable hsecond _, ?_⟩
  simp only [NameMap.mem_names, ← Table.constraintAfter_eq_iff, forall_and]
  rw [List.foldlM_append, start, Option.bind_eq_bind, Option.bind_some]
  constructor
  · intro hrun
    have accepted : ∀ n, before.ConstraintIfDropped after n := by
      by_contra refused
      rw [run.2 refused] at hrun
      cases hrun
    obtain ⟨names, hnames, has⟩ := run.1 accepted
    obtain rfl := Option.some.inj (hrun.symm.trans hnames)
    refine ⟨accepted, fun n => Bool.eq_iff_iff.mpr ?_⟩
    rw [← has.mem_iff, ← final.mem_iff]
  · rintro ⟨accepted, same⟩
    obtain ⟨names, hnames, has⟩ := run.1 accepted
    have has' : Has after.name after.hasConstraint names := funext same ▸ has
    rw [hnames, has'.unique final]

end UniqueConstraints

namespace Shop

/-- Numbered users with one more column. The flag says whether the number is declared unique, which
it is in any case. -/
def usersWith (unique : Bool) (c : Column) : Table :=
  ((Table.empty "users").withColumn { (number "id").inPrimaryKey with unique }).withColumn c

theorem wellKeyed_usersWith (unique : Bool) (c : Column) : (usersWith unique c).WellKeyed :=
  ((Table.WellKeyed.empty _).withColumn _).withColumn _

/-- A code ceases to be unique and a badge comes that is, while the number is unique by its key. -/
theorem lifetime_users :
    let before := usersWith true (number "code").withUnique
    let after := (usersWith true (number "code")).withColumn (number "badge").withUnique
    let others := UniqueConstraints.otherNames before
    (before.WellKeyed ∧ after.WellKeyed ∧ before.name = after.name ∧
      (∀ n ∈ others, n ∉ before.uniqueNames ∧ n ∉ after.uniqueNames) ∧
      before.checkIndexNames .postgres = .ok () ∧ after.checkIndexNames .postgres = .ok ()) ∧
    ∃ first change second, Ddl.createTable .postgres before = .ok first ∧
      Ddl.alteration .postgres before after = .ok change ∧
      Ddl.createTable .postgres after = .ok second ∧
      change.statements =
        [.alterTable "users" (.addColumn ⟨"badge", "BIGINT", false, false, true, none, none⟩),
          .alterTable "users" (.dropConstraint "users_code_key")] ∧
      (first.statements ++ change.statements).foldlM
          (UniqueConstraints.execute "users" others) ∅ =
        second.statements.foldlM (UniqueConstraints.execute "users" others) ∅ := by
  intro before after others
  have keyed : before.WellKeyed := wellKeyed_usersWith _ _
  have keyed' : after.WellKeyed := (wellKeyed_usersWith _ _).withColumn _
  have same : before.name = after.name := by decide
  have apart : ∀ n ∈ others, n ∉ before.uniqueNames ∧ n ∉ after.uniqueNames := by decide
  have checked : before.checkIndexNames .postgres = .ok () := by decide
  have checked' : after.checkIndexNames .postgres = .ok () := by decide
  have computed : Ddl.alteration .postgres before after = .ok
      ⟨[.alterTable "users" (.addColumn ⟨"badge", "BIGINT", false, false, true, none, none⟩),
        .alterTable "users" (.dropConstraint "users_code_key")], []⟩ := by decide +kernel
  have stays : ∀ c ∈ after.columns.names, before.uniqueByKey c = after.uniqueByKey c := by decide
  obtain ⟨first, change, second, hfirst, hchange, hsecond, names, hnames, hiff⟩ :=
    UniqueConstraints.lifetime_iff keyed keyed' same apart checked checked'
  obtain rfl := Except.ok.inj (hchange.symm.trans computed)
  exact ⟨⟨keyed, keyed', same, apart, checked, checked'⟩, first, _, second, hfirst, hchange,
    hsecond, rfl, (hiff.mpr stays).trans hnames.symm⟩

/-- A number that ceases to be declared unique has no constraint to lose, and one that is not the
whole key any more would be created with a constraint that it does not get. -/
theorem not_lifetime_users :
    let unique := usersWith true (number "code")
    let plain := usersWith false (number "code")
    let pairs := usersWith true (number "code").inPrimaryKey
    let others := UniqueConstraints.otherNames unique
    (∀ t ∈ [unique, plain, pairs], t.WellKeyed ∧ t.checkIndexNames .postgres = .ok ()) ∧
    (∃ first change, Ddl.createTable .postgres unique = .ok first ∧
      Ddl.alteration .postgres unique plain = .ok change ∧
      change.statements = [.alterTable "users" (.dropConstraint "users_id_key")] ∧
      (first.statements ++ change.statements).foldlM
        (UniqueConstraints.execute "users" others) ∅ = none) ∧
    ∃ first change second, Ddl.createTable .postgres unique = .ok first ∧
      Ddl.alteration .postgres unique pairs = .ok change ∧
      Ddl.createTable .postgres pairs = .ok second ∧
      (first.statements ++ change.statements).foldlM
        (UniqueConstraints.execute "users" others) ∅ = some ∅ ∧
      second.statements.foldlM (UniqueConstraints.execute "users" others) ∅ =
        some {"users_id_key"} := by
  intro unique plain pairs others
  have keyed : ∀ t ∈ [unique, plain, pairs],
      t.WellKeyed ∧ t.checkIndexNames .postgres = .ok () := by
    simp only [List.forall_mem_cons]
    exact ⟨⟨wellKeyed_usersWith _ _, by decide⟩, ⟨wellKeyed_usersWith _ _, by decide⟩,
      ⟨wellKeyed_usersWith _ _, by decide⟩, List.forall_mem_nil _⟩
  have created : Ddl.createTable .postgres unique =
        .ok ⟨[.createTable (Ddl.Postgres.tableDefinition unique)], []⟩ ∧
      Ddl.createTable .postgres pairs =
        .ok ⟨[.createTable (Ddl.Postgres.tableDefinition pairs)], []⟩ := by decide +kernel
  refine ⟨keyed, ⟨_, ⟨[.alterTable "users" (.dropConstraint "users_id_key")], []⟩, created.1,
    by decide +kernel, rfl, by decide +kernel⟩, ?_⟩
  exact ⟨_, ⟨[.alterTable "users" (.setNotNull "code"),
    .alterTable "users" (.dropConstraint "users_pkey"),
    .alterTable "users" (.addPrimaryKey ⟨none, ["code", "id"]⟩)], []⟩, _, created.1,
    by decide +kernel, created.2, by decide +kernel, by decide +kernel⟩

end Shop

end SchemaEvolution
