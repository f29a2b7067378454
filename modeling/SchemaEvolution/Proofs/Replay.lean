import SchemaEvolution.Proofs.Defaults
import SchemaEvolution.Proofs.WellKeyed
import SchemaEvolution.Patch.Between

/-!
# Carrying out a patch

What the edits of a patch do to a description. An edit has a name that it is about, and an effect on
what is held under that name; carrying out a list of edits lets one effect after the other act on a
map. An edit of a column acts on the column that is there: only what it lists is changed. Indexes
are held by what they are known by.

`Matches` says when two descriptions count as the same: whatever the database is told agrees, and
defaults are equivalent. It is what a patch is to bring about, and no more than that can be asked of
one, as two expressions are never told apart.
-/

namespace SchemaEvolution

/-! ## Columns -/

/-- The column with one of its properties edited. -/
def FieldEdit.apply (c : Column) : FieldEdit → Column
  | .type t p => { c with type := t, physical := p }
  | .nullable b => { c with nullable := b }
  | .default _ after => { c with default? := after }
  | .primaryKey b => { c with primaryKey := b }
  | .unique b => { c with unique := b }
  | .reference _ after => { c with reference? := after }

namespace ColumnEdit

/-- The name of the column that an edit is about. -/
def name : ColumnEdit → String
  | .add column => column.name
  | .remove name _ => name
  | .change name _ _ _ => name

/-- What an edit makes of the column of its name. A change starts from the column that is there. -/
def effect : ColumnEdit → Option Column → Option Column
  | .add column, _ => some column
  | .remove _ _, _ => none
  | .change _ _ _ edits, c? => c?.map (edits.foldl FieldEdit.apply)

/-- The columns of a table after edits. -/
def replay (columns : NameMap Column) (edits : List ColumnEdit) : NameMap Column :=
  edits.foldl (fun m e => m.alter e.name e.effect) columns

end ColumnEdit

/-! ## Indexes, keys and interleaving -/

namespace IndexEdit

/-- What the index that an edit is about is known by. -/
def identity : IndexEdit → String
  | .add index => index.identity
  | .remove index => index.identity
  | .change before _ => before.identity

/-- What an edit makes of the index known by its identity. -/
def effect : IndexEdit → Option Index → Option Index
  | .add index, _ => some index
  | .remove _, _ => none
  | .change _ after, i? => i?.map fun _ => after

/-- The indexes of a table, by what they are known by, after edits. -/
def replay (indexes : NameMap Index) (edits : List IndexEdit) : NameMap Index :=
  edits.foldl (fun m e => m.alter e.identity e.effect) indexes

end IndexEdit

/-- The declared primary key after an edit, if there is one. -/
def KeyEdit.replay (key? : Option CompositeKey) : Option KeyEdit → Option CompositeKey
  | none => key?
  | some (.set _ after) => some after
  | some (.remove _) => none

/-- The interleaving after an edit, if there is one. -/
def InterleaveEdit.replay (interleave? : Option Interleave) :
    Option InterleaveEdit → Option Interleave
  | none => interleave?
  | some (.set _ after) => some after
  | some (.remove _) => none

/-! ## Tables and schemas -/

/-- The table after an edit. -/
def TableEdit.apply (e : TableEdit) (t : Table) : Table where
  name := t.name
  columns := ColumnEdit.replay t.columns e.columns
  indexes := (IndexEdit.replay t.indexesByIdentity e.indexes).values
  primaryKey? := KeyEdit.replay t.primaryKey? e.primaryKey?
  interleave? := InterleaveEdit.replay t.interleave? e.interleave?

/-- What an action makes of the table of its name. -/
def TableAction.effect : TableAction → Option Table → Option Table
  | .add table, _ => some table
  | .remove _ _, _ => none
  | .change edit, t? => t?.map edit.apply

/-- The schema after actions, carried out one after the other. -/
def Schema.replay (s : Schema) (actions : List TableAction) : Schema :=
  { s with tables := actions.foldl (fun m a => m.alter a.tableName a.effect) s.tables }

/-- **Actions on different tables do not meet**: a table is what the actions of its name have made
of it. -/
theorem Schema.find?_replay (s : Schema) (actions : List TableAction) (n : String) :
    (s.replay actions).tables.find? n =
      (actions.filter (·.tableName = n)).foldl (fun t a => a.effect t) (s.tables.find? n) :=
  NameMap.find?_foldl_alter ..

/-! ## What counts as the same -/

/-- Two columns differ at most in which of two equivalent defaults they have. -/
structure Column.Matches (c d : Column) : Prop where
  name : c.name = d.name
  type : c.type = d.type
  physical : c.physical = d.physical
  nullable : c.nullable = d.nullable
  default : ColumnDefault.equivalent? c.default? d.default? = true
  primaryKey : c.primaryKey = d.primaryKey
  unique : c.unique = d.unique
  reference : c.reference? = d.reference?

/-- What an index is, apart from its name. -/
def Index.content (i : Index) : List String × Bool :=
  (i.columns, i.unique)

/-- Two tables of one name with matching columns, the same key and interleaving, and the same
content of the index known by any identity. -/
structure Table.Matches (t u : Table) : Prop where
  name : t.name = u.name
  columns : ∀ n, Option.Rel Column.Matches (t.columns.find? n) (u.columns.find? n)
  indexes : ∀ n, (t.indexesByIdentity.find? n).map Index.content =
    (u.indexesByIdentity.find? n).map Index.content
  primaryKey : t.primaryKey? = u.primaryKey?
  interleave : t.interleave? = u.interleave?

/-- Under one name, two schemas hold matching tables, or neither holds one. -/
def Schema.MatchesAt (s s' : Schema) (n : String) : Prop :=
  Option.Rel Table.Matches (s.tables.find? n) (s'.tables.find? n)

/-- Two schemas hold matching tables under the same names. -/
def Schema.Matches (s s' : Schema) : Prop :=
  ∀ n, s.MatchesAt s' n

/-- What matches something is there. -/
theorem exists_of_rel_some {α β : Type} {r : α → β → Prop} {a? : Option α} {b : β}
    (h : Option.Rel r a? (some b)) : ∃ a, a? = some a ∧ r a b := by
  cases h with
  | some h => exact ⟨_, rfl, h⟩

/-- What something matches is there. -/
theorem exists_of_some_rel {α β : Type} {r : α → β → Prop} {a : α} {b? : Option β}
    (h : Option.Rel r (some a) b?) : ∃ b, b? = some b ∧ r a b := by
  cases h with
  | some h => exact ⟨_, rfl, h⟩

/-- Where two maps hold what matches, or nothing, both hold something or neither does. -/
theorem NameMap.contains_eq_of_rel {α β : Type} {r : α → β → Prop} {m : NameMap α}
    {m' : NameMap β} {n : String} (h : Option.Rel r (m.find? n) (m'.find? n)) :
    m.contains n = m'.contains n := by
  unfold contains
  generalize m.find? n = a? at h ⊢
  generalize m'.find? n = b? at h ⊢
  cases h with
  | none => rfl
  | some _ => rfl

namespace Schema.MatchesAt

variable {s s' : Schema} {n : String}

/-- What matches a table is there. -/
theorem left (h : s.MatchesAt s' n) {u : Table} (hu : s'.tables.find? n = some u) :
    ∃ t, s.tables.find? n = some t ∧ t.Matches u := by
  unfold MatchesAt at h
  rw [hu] at h
  exact exists_of_rel_some h

/-- What a table matches is there. -/
theorem right (h : s.MatchesAt s' n) {t : Table} (ht : s.tables.find? n = some t) :
    ∃ u, s'.tables.find? n = some u ∧ t.Matches u := by
  unfold MatchesAt at h
  rw [ht] at h
  exact exists_of_some_rel h

end Schema.MatchesAt

/-! ## To match is an equivalence -/

theorem Column.Matches.refl (c : Column) : c.Matches c :=
  ⟨rfl, rfl, rfl, rfl, ColumnDefault.equivalent?_refl _, rfl, rfl, rfl⟩

theorem Column.matches_equivalence : Equivalence Column.Matches where
  refl := .refl
  symm h := ⟨h.name.symm, h.type.symm, h.physical.symm, h.nullable.symm,
    ColumnDefault.equivalent?_symm h.default, h.primaryKey.symm, h.unique.symm, h.reference.symm⟩
  trans h k := ⟨h.name.trans k.name, h.type.trans k.type, h.physical.trans k.physical,
    h.nullable.trans k.nullable, ColumnDefault.equivalent?_trans h.default k.default,
    h.primaryKey.trans k.primaryKey, h.unique.trans k.unique, h.reference.trans k.reference⟩

/-- What may be absent is related as an equivalence relates what is there. -/
theorem equivalence_rel {α : Type} {r : α → α → Prop} (h : Equivalence r) :
    Equivalence (Option.Rel r) where
  refl a? := by
    cases a? with
    | none => exact .none
    | some a => exact .some (h.refl a)
  symm hab := by
    cases hab with
    | none => exact .none
    | some hab => exact .some (h.symm hab)
  trans hab hbc := by
    cases hab with
    | none => exact hbc
    | some hab =>
      cases hbc with
      | some hbc => exact .some (h.trans hab hbc)

theorem Table.Matches.refl (t : Table) : t.Matches t where
  name := rfl
  columns _ := (equivalence_rel Column.matches_equivalence).refl _
  indexes _ := rfl
  primaryKey := rfl
  interleave := rfl

theorem Table.matches_equivalence : Equivalence Table.Matches where
  refl := .refl
  symm h := ⟨h.name.symm, fun n => (equivalence_rel Column.matches_equivalence).symm (h.columns n),
    fun n => (h.indexes n).symm, h.primaryKey.symm, h.interleave.symm⟩
  trans h k := ⟨h.name.trans k.name,
    fun n => (equivalence_rel Column.matches_equivalence).trans (h.columns n) (k.columns n),
    fun n => (h.indexes n).trans (k.indexes n), h.primaryKey.trans k.primaryKey,
    h.interleave.trans k.interleave⟩

theorem Schema.matches_equivalence : Equivalence Schema.Matches where
  refl s n := (equivalence_rel Table.matches_equivalence).refl (s.tables.find? n)
  symm h n := (equivalence_rel Table.matches_equivalence).symm (h n)
  trans h k n := (equivalence_rel Table.matches_equivalence).trans (h n) (k n)

end SchemaEvolution
