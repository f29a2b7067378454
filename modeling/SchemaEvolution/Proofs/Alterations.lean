import Mathlib.Data.List.Pairwise
import Mathlib.Logic.Function.Basic
import SchemaEvolution.Proofs.Expressible
import SchemaEvolution.Proofs.IndexReplay
import SchemaEvolution.Proofs.PrimaryKey

/-!
# The statements of a change

A table is altered in passes over the edits of its columns, one pass for each kind of edit. The
edits between two versions of a table are listed kind by kind, and those of one kind in the order of
names (`ColumnEdit.Precedes`). So the passes together go through the list once, edit by edit,
between the indexes that go and those that come, and the key comes last
(`Ddl.statements_alteration`).

What is proved of a whole change is proved along this list: a step lemma says what the statements of
one edit do, and when the database refuses them, and `Leads` puts the steps together.
-/

namespace SchemaEvolution

/-! ## Runs that may be refused -/

/-- A run is accepted exactly if something is the case, and then it ends in a state of which
something holds. -/
def Leads {σ : Type} (run : Option σ) (accepted : Prop) (final : σ → Prop) : Prop :=
  (accepted → ∃ s, run = some s ∧ final s) ∧ (¬ accepted → run = none)

section

variable {σ α : Type} {run : Option σ} {accepted accepted' : Prop} {mid final : σ → Prop}

theorem Leads.some {s : σ} (h : final s) : Leads (.some s) True final :=
  ⟨fun _ => ⟨s, rfl, h⟩, fun h => absurd trivial h⟩

theorem Leads.congr (h : Leads run accepted final) (hiff : accepted ↔ accepted') :
    Leads run accepted' final :=
  propext hiff ▸ h

/-- One run after another is accepted if both are. -/
theorem Leads.bind {next : σ → Option σ} (h : Leads run accepted mid)
    (hnext : ∀ s, mid s → Leads (next s) accepted' final) :
    Leads (run >>= next) (accepted ∧ accepted') final := by
  by_cases first : accepted
  · obtain ⟨s, hrun, hmid⟩ := h.1 first
    have rest := hnext s hmid
    rw [hrun]
    exact ⟨fun both => rest.1 both.2, fun not => rest.2 fun second => not ⟨first, second⟩⟩
  · rw [h.2 first]
    exact ⟨fun both => absurd both.1 first, fun _ => rfl⟩

/-- What never fails after a run can be left out of account. -/
theorem Leads.bind_some {next : σ → Option σ} (h : Leads run accepted mid)
    (hnext : ∀ s, mid s → ∃ s', next s = .some s' ∧ final s') :
    Leads (run >>= next) accepted final := by
  refine ⟨fun yes => ?_, fun no => by rw [h.2 no]; rfl⟩
  obtain ⟨s, hrun, hmid⟩ := h.1 yes
  rw [hrun]
  exact hnext s hmid

/-- Steps that each leave a state as it is leave it so together. -/
theorem foldlM_eq_some_self {step : σ → α → Option σ} {s : σ} {l : List α}
    (h : ∀ a ∈ l, step s a = .some s) : l.foldlM step s = .some s := by
  induction l with
  | nil => rfl
  | cons a rest ih =>
    rw [List.forall_mem_cons] at h
    rw [List.foldlM_cons, h.1]
    exact ih h.2

/-- Of two elements of a list one stands before the other. -/
theorem rel_or_rel_of_pairwise {R : α → α → Prop} {l : List α} (h : l.Pairwise R) {a b : α}
    (ha : a ∈ l) (hb : b ∈ l) (hne : a ≠ b) : R a b ∨ R b a := by
  have : Std.Symm fun a b => R a b ∨ R b a := ⟨fun _ _ => Or.symm⟩
  exact (h.imp Or.inl : l.Pairwise fun a b => R a b ∨ R b a).forall ha hb hne

end

/-! ## The order of the edits -/

/-- The place of a kind of edit among the passes. -/
def EditKind.pass : EditKind → Nat
  | .add => 0
  | .change => 1
  | .remove => 2

namespace ColumnEdit

variable {before after : Table}

/-- One edit is carried out before another: its kind has an earlier pass, or the same one and its
column a lesser name. -/
def Precedes (e e' : ColumnEdit) : Prop :=
  e.kind.pass < e'.kind.pass ∨ e.kind = e'.kind ∧ e.name < e'.name

/-- The edits of a comparison are listed kind by kind. -/
theorem exists_passes (before after : Table) :
    ∃ added changed removed, between before after = added ++ changed ++ removed ∧
      (∀ e ∈ added, e.kind = .add) ∧ (∀ e ∈ changed, e.kind = .change) ∧
      ∀ e ∈ removed, e.kind = .remove := by
  refine ⟨_, _, _, rfl, fun x hx => ?_, fun x hx => ?_, fun x hx => ?_⟩
  · obtain ⟨e, -, he⟩ := List.mem_filterMap.mp hx
    split at he <;> cases he
    rfl
  · obtain ⟨e, -, he⟩ := List.mem_filterMap.mp hx
    split at he
    · cases he
    · dsimp only at he
      split at he <;> cases he
      rfl
  · obtain ⟨e, -, he⟩ := List.mem_filterMap.mp hx
    split at he <;> cases he
    rfl

/-- The passes find all edits, in the order of the list. -/
theorem filter_kinds (before after : Table) :
    (between before after).filter (·.kind = .add) ++
        (between before after).filter (·.kind = .change) ++
        (between before after).filter (·.kind = .remove) = between before after := by
  obtain ⟨added, changed, removed, hbetween, hadded, hchanged, hremoved⟩ :=
    exists_passes before after
  have pass : ∀ {k : EditKind} {l : List ColumnEdit}, (∀ e ∈ l, e.kind = k) →
      ∀ k', l.filter (·.kind = k') = if k = k' then l else [] := by
    intro k l hk k'
    split
    · rename_i heq
      exact List.filter_eq_self.mpr fun e he => decide_eq_true (heq ▸ hk e he)
    · rename_i hne
      refine List.filter_eq_nil_iff.mpr fun e he => ?_
      rw [hk e he, decide_eq_true_eq]
      exact hne
  simp only [hbetween, List.filter_append, pass hadded, pass hchanged, pass hremoved, reduceCtorEq,
    if_true, if_false, List.nil_append, List.append_nil]

/-- The edits of a comparison are listed in the order in which they are carried out. -/
theorem pairwise_precedes_between (before : Table) (keyed : after.WellKeyed) :
    (between before after).Pairwise Precedes := by
  have ordered : OrderedByKind kind name (between before after) := orderedByKind_between keyed
  -- within a pass the names decide, between passes the kinds
  have within : ∀ k, ((between before after).filter (·.kind = k)).Pairwise Precedes := by
    refine fun k => (ordered k).imp_of_mem fun he he' hlt => .inr ⟨?_, hlt⟩
    exact (of_decide_eq_true (List.mem_filter.mp he).2).trans
      (of_decide_eq_true (List.mem_filter.mp he').2).symm
  have across : ∀ {k k' : EditKind}, k.pass < k'.pass →
      ∀ e ∈ (between before after).filter (·.kind = k),
        ∀ e' ∈ (between before after).filter (·.kind = k'), e.Precedes e' := by
    intro k k' hlt e he e' he'
    refine .inl ?_
    rw [of_decide_eq_true (List.mem_filter.mp he).2, of_decide_eq_true (List.mem_filter.mp he').2]
    exact hlt
  rw [← filter_kinds]
  refine List.pairwise_append.mpr ⟨List.pairwise_append.mpr ⟨within .add, within .change,
    across (by decide)⟩, within .remove, List.forall_mem_append.mpr ⟨?_, ?_⟩⟩
  · exact across (by decide)
  · exact across (by decide)

theorem nodup_names_between (before : Table) (keyed : after.WellKeyed) :
    ((between before after).map name).Nodup :=
  NameMap.nodup_names_of_filter (filter_between keyed)

/-- What an edit of a comparison says: the column is in the second version only, in both of them, or
in the first one only. -/
inductive Explained (before after : Table) : ColumnEdit → Prop where
  | add {n : String} {c : Column} (named : c.name = n) (new : before.columns.find? n = none)
    (there : after.columns.find? n = some c) : Explained before after (.add c)
  | change {n : String} {c c' : Column} (named : c'.name = n)
    (was : before.columns.find? n = some c) (there : after.columns.find? n = some c') :
    Explained before after
      (.change n c' (after.keyColumns.contains n) (FieldEdit.between c c'))
  | remove {n : String} {c : Column} (named : c.name = n) (was : before.columns.find? n = some c)
    (gone : after.columns.find? n = none) : Explained before after (.remove n c)

theorem explained_of_mem (hbefore : before.WellKeyed) (hafter : after.WellKeyed) {e : ColumnEdit}
    (h : e ∈ between before after) : Explained before after e := by
  have hunder := (mem_between_iff hafter).mp h
  generalize e.name = n at hunder
  unfold under at hunder
  split at hunder
  · cases hunder
  · rename_i hb ha
    cases hunder
    exact .add (hafter.name_of_find? ha) hb ha
  · rename_i hb ha
    cases hunder
    exact .remove (hbefore.name_of_find? hb) hb ha
  · rename_i hb ha
    split at hunder <;> cases hunder
    exact .change (hafter.name_of_find? ha) hb ha

/-- What is not added was there. -/
theorem Explained.one_le_pass_iff {e : ColumnEdit} (h : Explained before after e) :
    1 ≤ e.kind.pass ↔ before.columns.contains e.name = true := by
  cases h with
  | add named new there =>
    subst named
    exact iff_of_false (Nat.not_succ_le_zero 0)
      (Bool.eq_false_iff.mp (NameMap.contains_eq_false_iff.mpr new))
  | change named was there => exact iff_of_true le_rfl (NameMap.contains_iff.mpr ⟨_, was⟩)
  | remove named was gone => exact iff_of_true (Nat.le_succ 1) (NameMap.contains_iff.mpr ⟨_, was⟩)

/-- What is not removed is there. -/
theorem Explained.pass_le_one_iff {e : ColumnEdit} (h : Explained before after e) :
    e.kind.pass ≤ 1 ↔ after.columns.contains e.name = true := by
  cases h with
  | add named new there =>
    subst named
    exact iff_of_true (Nat.zero_le 1) (NameMap.contains_iff.mpr ⟨_, there⟩)
  | change named was there => exact iff_of_true le_rfl (NameMap.contains_iff.mpr ⟨_, there⟩)
  | remove named was gone =>
    exact iff_of_false (Nat.not_succ_le_self 1)
      (Bool.eq_false_iff.mp (NameMap.contains_eq_false_iff.mpr gone))

/-- A column that is not edited is the same in both versions, or in neither. -/
theorem matches_of_not_edited (hbefore : before.WellKeyed) (hafter : after.WellKeyed) {n : String}
    (h : n ∉ (between before after).map name) :
    Option.Rel Column.Matches (before.columns.find? n) (after.columns.find? n) := by
  have none : (between before after).filter (·.name = n) = [] := by
    refine List.filter_eq_nil_iff.mpr fun e he heq => h ?_
    exact List.mem_map.mpr ⟨e, he, of_decide_eq_true heq⟩
  rw [filter_between hafter, Option.toList_eq_nil_iff] at none
  exact (under_eq_none_iff hbefore hafter).mp none

open Function (update)

/-- What is known of columns while a table is changed: what was so before where edits are left, else
what is so now. -/
def midway {β : Type} (left : List ColumnEdit) (was now : String → β) (n : String) : β :=
  if n ∈ left.map name then was n else now n

section

variable {β : Type} {was now : String → β} {edit : ColumnEdit} {edits : List ColumnEdit}

theorem midway_nil (was now : String → β) : midway [] was now = now :=
  funext fun _ => if_neg List.not_mem_nil

theorem midway_cons_self : midway (edit :: edits) was now edit.name = was edit.name :=
  if_pos List.mem_cons_self

theorem update_midway (once : edit.name ∉ edits.map name) :
    update (midway (edit :: edits) was now) edit.name (now edit.name) = midway edits was now := by
  funext n
  by_cases hn : n = edit.name
  · subst hn
    rw [Function.update_self, midway, if_neg once]
  · rw [Function.update_of_ne hn]
    simp only [midway, List.map_cons, List.mem_cons, hn, false_or]

/-- At first everything is as it was. -/
theorem midway_of_unedited (h : ∀ n, n ∉ edits.map name → was n = now n) :
    midway edits was now = was := by
  funext n
  unfold midway
  split
  · rfl
  · rename_i unedited
    exact (h n unedited).symm

end

end ColumnEdit

/-! ## The edits of a column -/

namespace FieldEdit

variable {c c' : Column}

/-- An edit is called for where two columns differ in its property, and it leads to the second. -/
def CalledFor (c c' : Column) : FieldEdit → Prop
  | .type t p => (c.type ≠ c'.type ∨ c.physical ≠ c'.physical) ∧ t = c'.type ∧ p = c'.physical
  | .nullable b => c.nullable ≠ c'.nullable ∧ b = c'.nullable
  | .default x y => ColumnDefault.equivalent? c.default? c'.default? = false ∧
      x = c.default? ∧ y = c'.default?
  | .primaryKey b => c.primaryKey ≠ c'.primaryKey ∧ b = c'.primaryKey
  | .unique b => c.unique ≠ c'.unique ∧ b = c'.unique
  | .reference x y => c.reference? ≠ c'.reference? ∧ x = c.reference? ∧ y = c'.reference?

theorem mem_between_iff {edit : FieldEdit} : edit ∈ between c c' ↔ edit.CalledFor c c' := by
  simp only [between, List.mem_append, List.mem_ite_nil_right, List.mem_ite_nil_left,
    List.mem_singleton]
  cases edit <;> simp [CalledFor]

theorem unique_of_mem_between (h : .unique false ∈ between c c') : c.unique = true := by
  obtain ⟨differ, now⟩ := mem_between_iff.mp h
  cases hu : c.unique
  · exact absurd now (hu ▸ differ)
  · rfl

/-- The edit of the foreign key, if there is one, is the last. -/
theorem exists_between_eq (c c' : Column) :
    ∃ rest, between c c' = rest ++
        (if c.reference? ≠ c'.reference? then [.reference c.reference? c'.reference?] else []) ∧
      ∀ edit ∈ rest, ∀ x y, edit ≠ .reference x y := by
  refine ⟨_, rfl, ?_⟩
  simp only [List.mem_append, List.mem_ite_nil_right, List.mem_ite_nil_left, List.mem_singleton]
  rintro edit ((((⟨-, rfl⟩ | ⟨-, rfl⟩) | ⟨-, rfl⟩) | ⟨-, rfl⟩) | ⟨-, rfl⟩) <;> simp

/-- There is at most one edit of the uniqueness. -/
theorem exists_between_eq_unique (c c' : Column) :
    ∃ front back, between c c' =
        front ++ (if c.unique ≠ c'.unique then [.unique c'.unique] else []) ++ back ∧
      (∀ edit ∈ front, ∀ b, edit ≠ .unique b) ∧ ∀ edit ∈ back, ∀ b, edit ≠ .unique b := by
  refine ⟨_, _, rfl, ?_, ?_⟩
  · simp only [List.mem_append, List.mem_ite_nil_right, List.mem_ite_nil_left, List.mem_singleton]
    rintro edit (((⟨-, rfl⟩ | ⟨-, rfl⟩) | ⟨-, rfl⟩) | ⟨-, rfl⟩) <;> simp
  · simp only [List.mem_ite_nil_right, List.mem_singleton]
    rintro edit ⟨-, rfl⟩
    simp

end FieldEdit

/-! ## The statements of the edits -/

namespace Ddl

/-- The statements about one column, of whatever kind its edit is. -/
def editStatements (d : Dialect) (table : String) (edit : ColumnEdit) : List Sql.Statement :=
  statementsOf (ifAdded d table edit) ++ (partsIfChanged d table edit).flatMap statementsOf ++
    statementsOf (ifRemoved d table edit)

variable {before after : Table} {d : Dialect}

/-- A pass has the statements of the edits of its kind, and no others. -/
theorem flatMap_pass {pass : ColumnEdit → List Sql.Statement} {k : EditKind} {table : String}
    (h : ∀ e, pass e = if e.kind = k then editStatements d table e else [])
    (edits : List ColumnEdit) :
    edits.flatMap pass = (edits.filter (·.kind = k)).flatMap (editStatements d table) := by
  induction edits with
  | nil => rfl
  | cons e rest ih =>
    rw [List.flatMap_cons, ih, h, List.filter_cons]
    by_cases hk : e.kind = k
    · rw [if_pos hk, if_pos (decide_eq_true hk), List.flatMap_cons]
    · rw [if_neg hk, if_neg (by rwa [decide_eq_true_eq]), List.nil_append]

/-- **The passes over the edits of a comparison go through its list once, edit by edit.** -/
theorem flatMap_passes (d : Dialect) (table : String) (before after : Table) :
    (ColumnEdit.between before after).flatMap (fun e => statementsOf (ifAdded d table e)) ++
        (ColumnEdit.between before after).flatMap
          (fun e => (partsIfChanged d table e).flatMap statementsOf) ++
        (ColumnEdit.between before after).flatMap (fun e => statementsOf (ifRemoved d table e)) =
      (ColumnEdit.between before after).flatMap (editStatements d table) := by
  have added : ∀ e, statementsOf (ifAdded d table e) =
      if e.kind = .add then editStatements d table e else [] := by
    intro e
    cases e with
    | add c => exact ((List.append_nil _).trans (List.append_nil _)).symm
    | change _ _ _ _ => rfl
    | remove _ _ => rfl
  have changed : ∀ e, (partsIfChanged d table e).flatMap statementsOf =
      if e.kind = .change then editStatements d table e else [] := by
    intro e
    cases e with
    | add _ => rfl
    | change _ _ _ _ => exact (List.append_nil _).symm
    | remove _ _ => rfl
  have removed : ∀ e, statementsOf (ifRemoved d table e) =
      if e.kind = .remove then editStatements d table e else [] := by
    intro e
    cases e <;> rfl
  rw [flatMap_pass added, flatMap_pass changed, flatMap_pass removed, ← List.flatMap_append,
    ← List.flatMap_append, ColumnEdit.filter_kinds]

/-- The statements about one property of a column. `edits` are all edits of the column. -/
def fieldStatements (d : Dialect) (table : String) (c : Column) (keyColumn : Bool)
    (edits : List FieldEdit) (edit : FieldEdit) : List Sql.Statement :=
  match d with
  | .postgres => Postgres.editField table c.name edit
  | .spanner => statementsOf (Spanner.editField table c keyColumn
      (if Spanner.editsNullable edits then !c.nullable else c.nullable) edit)

/-- A column is changed property by property. -/
theorem editStatements_change (d : Dialect) (table n : String) (c : Column) (keyColumn : Bool)
    (edits : List FieldEdit) : editStatements d table (.change n c keyColumn edits) =
      edits.flatMap (fieldStatements d table c keyColumn edits) := by
  refine (List.append_nil _).trans ?_
  cases d with
  | postgres => exact List.append_nil _
  | spanner => exact List.flatMap_map ..

namespace Postgres

variable {table n : String}

theorem mem_editStatements_change {c : Column} {keyColumn : Bool} {edits : List FieldEdit}
    {s : Sql.Statement} : s ∈ editStatements .postgres table (.change n c keyColumn edits) ↔
      ∃ edit ∈ edits, s ∈ editField table c.name edit := by
  rw [editStatements_change, List.mem_flatMap]
  rfl

theorem editStatements_add (table : String) (c : Column) :
    editStatements .postgres table (.add c) =
      [.alterTable table (.addColumn (columnDefinition c false))] := rfl

theorem editStatements_remove (table n : String) (c : Column) :
    editStatements .postgres table (.remove n c) = [.alterTable table (.dropColumn c.name)] := rfl

end Postgres

/-- What leads from one version of a table to another is compiled from the comparison of the two,
also where that finds nothing. -/
theorem alteration_eq (d : Dialect) (before after : Table) :
    alteration d before after = alterTable d (TableEdit.comparing before after) := by
  unfold alteration
  cases h : TableEdit.between before after with
  | some e => rw [TableEdit.between_eq_some h]
  | none =>
    obtain ⟨columns, indexes, key, interleave, keyColumns⟩ := TableEdit.between_eq_none_iff.mp h
    have hkey : (TableEdit.comparing before after).keyColumns? = none := by
      rw [TableEdit.keyColumns?_comparing, if_pos ⟨key, keyColumns⟩]
    have constraints : changeConstraints d (TableEdit.comparing before after) = statements [] := by
      cases d with
      | postgres => exact congrArg statements (Postgres.changeKey_eq_nil key hkey)
      | spanner =>
        simp only [changeConstraints, Spanner.changeConstraints, TableEdit.comparing, key,
          interleave, Option.isSome_none, Bool.false_eq_true, if_false]
    rw [alterTable, alterParts, constraints]
    simp only [TableEdit.comparing, columns, indexes, List.map_nil, List.flatMap_nil,
      List.filterMap_nil, List.append_nil]
    rfl

/-- **The statements of a change**: indexes go, the columns are edited one by one, indexes come, and
last the key and the interleaving change. -/
theorem statements_alteration {r : Emission} (h : alteration d before after = .ok r) :
    r.statements =
      ((IndexEdit.between before after).filterMap leaving?).map (dropIndex after.name) ++
        (ColumnEdit.between before after).flatMap (editStatements d after.name) ++
        ((IndexEdit.between before after).filterMap arriving?).map (createIndex after.name) ++
        statementsOf (changeConstraints d (TableEdit.comparing before after)) := by
  rw [alteration_eq] at h
  rw [(sequence_eq_ok h).2, ← flatMap_passes]
  simp only [alterParts, TableEdit.comparing, List.flatMap_append, List.flatMap_cons,
    List.flatMap_nil, List.flatMap_map, List.flatMap_assoc, statementsOf_statements,
    List.append_nil, List.append_assoc]

/-- **A change runs as the edits of its columns do**, where nothing comes of statements about
indexes, nor of the change of the key in the end. -/
theorem leads_alteration {σ : Type} {step : σ → Sql.Statement → Option σ} {s : σ}
    {accepted : Prop} {final : σ → Prop} {r : Emission} (h : alteration d before after = .ok r)
    (dropped : ∀ s i, step s (dropIndex after.name i) = some s)
    (created : ∀ s i, step s (createIndex after.name i) = some s)
    (columns : Leads (((ColumnEdit.between before after).flatMap
      (editStatements d after.name)).foldlM step s) accepted final)
    (key : ∀ s, final s → ∀ statement ∈ statementsOf
      (changeConstraints d (.comparing before after)), step s statement = some s) :
    Leads (r.statements.foldlM step s) accepted final := by
  have drops : ∀ (l : List Index) s, (l.map (dropIndex after.name)).foldlM step s = some s :=
    fun _ s => foldlM_eq_some_self (List.forall_mem_map.mpr fun i _ => dropped s i)
  have creates : ∀ (l : List Index) s, (l.map (createIndex after.name)).foldlM step s = some s :=
    fun _ s => foldlM_eq_some_self (List.forall_mem_map.mpr fun i _ => created s i)
  rw [statements_alteration h, List.foldlM_append, List.foldlM_append, List.foldlM_append, drops,
    bind_assoc]
  refine columns.bind_some fun t ht => ⟨t, ?_, ht⟩
  rw [creates, Option.bind_eq_bind, Option.bind_some, foldlM_eq_some_self (key t ht)]

/-- PostgreSQL refuses no change. -/
theorem Postgres.exists_alteration_eq_ok (before after : Table) :
    ∃ r, alteration .postgres before after = .ok r := by
  rw [alteration_eq]
  exact Postgres.exists_alterTable_eq_ok _

end Ddl

/-! ## The names of constraints -/

namespace Table

variable {t : Table}

/-- The foreign key of the column of a name, if there is one. -/
def referenceAt (t : Table) (n : String) : Option Reference :=
  (t.columns.find? n).bind (·.reference?)

theorem referenceAt_of_find? {n : String} {c : Column} (h : t.columns.find? n = some c) :
    t.referenceAt n = c.reference? := by
  rw [referenceAt, h, Option.bind_some]

theorem referenceAt_of_missing {n : String} (h : t.columns.find? n = none) :
    t.referenceAt n = none := by
  rw [referenceAt, h, Option.bind_none]

theorem contains_of_referenceAt {n : String} {r : Reference} (h : t.referenceAt n = some r) :
    t.columns.contains n = true := by
  obtain ⟨c, hc, -⟩ := Option.bind_eq_some_iff.mp h
  exact NameMap.contains_iff.mpr ⟨c, hc⟩

/-- The names of the foreign key constraints of a table. -/
def referenceNames (t : Table) : List String :=
  (Ddl.Spanner.references t).map fun r => r.2.nameFor t.name r.1

/-- The name of the constraint of the primary key of a table, if one is declared or a column is
flagged. -/
def keyNames (t : Table) : List String :=
  if t.primaryKey?.isSome || !t.keyColumns.isEmpty then
    [Ddl.Postgres.keyName t.name (t.primaryKey?.bind (·.name))]
  else []

theorem mem_referencePairs (keyed : t.WellKeyed) {c : String} {r : Reference} :
    (c, r) ∈ Ddl.Spanner.references t ↔ t.referenceAt c = some r := by
  simp only [Ddl.Spanner.references, List.mem_filterMap, Option.map_eq_some_iff, Prod.mk.injEq,
    referenceAt, Option.bind_eq_some_iff]
  constructor
  · rintro ⟨column, hcolumn, _, hr, rfl, rfl⟩
    obtain ⟨n, hn⟩ := NameMap.mem_values.mp hcolumn
    obtain rfl := keyed.name_of_find? hn
    exact ⟨column, hn, hr⟩
  · rintro ⟨column, hn, hr⟩
    exact ⟨column, NameMap.mem_values.mpr ⟨c, hn⟩, r, hr, keyed.name_of_find? hn, rfl⟩

theorem mem_referenceNames (keyed : t.WellKeyed) {n : String} :
    n ∈ t.referenceNames ↔ ∃ c r, t.referenceAt c = some r ∧ r.nameFor t.name c = n := by
  simp only [referenceNames, List.mem_map, Prod.exists, mem_referencePairs keyed]

/-- Where no two foreign key constraints have one name, the name tells the column. -/
theorem column_of_nameFor_eq (keyed : t.WellKeyed) (distinct : t.referenceNames.Nodup)
    {b c : String} {x y : Reference} (hx : t.referenceAt b = some x) (hy : t.referenceAt c = some y)
    (heq : x.nameFor t.name b = y.nameFor t.name c) : b = c := by
  have same : (b, x) = (c, y) := List.inj_on_of_nodup_map distinct
    ((mem_referencePairs keyed).mpr hx) ((mem_referencePairs keyed).mpr hy) heq
  exact congrArg Prod.fst same

end Table

namespace KeyEdit

variable {before after : Option CompositeKey}

theorem between_some {key : CompositeKey} :
    between before (some key) = if before = some key then none else some (.set before key) := by
  cases before <;> rfl

theorem before_of_set {previous : Option CompositeKey} {key : CompositeKey}
    (h : between before after = some (.set previous key)) : before = previous := by
  cases after with
  | none => cases before <;> cases h
  | some arrival =>
    rw [between_some] at h
    split at h <;> cases h
    rfl

theorem before_of_remove {name : Option String} (h : between before after = some (.remove name)) :
    ∃ key, before = some key ∧ key.name = name := by
  cases after with
  | none =>
    cases before with
    | none => cases h
    | some key =>
      cases h
      exact ⟨key, rfl, rfl⟩
  | some arrival =>
    rw [between_some] at h
    split at h <;> cases h

end KeyEdit

/-- Where the old key is dropped, its table has one. -/
private theorem Ddl.Postgres.of_mem_dropKey {before : Table} {table : String} {gone needed : Bool}
    {s : Sql.Statement} (hname : before.name = table)
    (hneeded : needed = true → (before.primaryKey?.isSome || !before.keyColumns.isEmpty) = true)
    (h : s ∈ if !gone && needed then [dropKey table (before.primaryKey?.bind (·.name))] else []) :
    ∃ n ∈ before.keyNames, s = .alterTable table (.dropConstraint n) := by
  split at h
  · rename_i holds
    have there : before.keyNames = [keyName before.name (before.primaryKey?.bind (·.name))] :=
      if_pos (hneeded (Bool.and_eq_true_iff.mp holds).2)
    refine ⟨_, there ▸ List.mem_singleton_self _, ?_⟩
    rw [hname]
    exact List.mem_singleton.mp h
  · cases h

private theorem Ddl.Postgres.of_mem_addFlaggedKey {table : String} {columns : List String}
    {s : Sql.Statement} (h : s ∈ addFlaggedKey table columns) :
    ∃ key, s = .alterTable table (.addPrimaryKey key) := by
  unfold addFlaggedKey at h
  split at h
  · cases h
  · exact ⟨_, List.mem_singleton.mp h⟩

/-- **A change of the primary key drops the constraint of the old key and adds a new one**, and does
nothing else. -/
theorem Ddl.Postgres.of_mem_changeKey {before after : Table} (hname : before.name = after.name)
    {s : Sql.Statement} (h : s ∈ changeKey (.comparing before after)) :
    (∃ n ∈ before.keyNames, s = .alterTable after.name (.dropConstraint n)) ∨
      ∃ key, s = .alterTable after.name (.addPrimaryKey key) := by
  have hcolumns := TableEdit.keyColumns?_comparing before after
  split at hcolumns
  · rename_i same
    rw [changeKey_eq_nil same.1 hcolumns] at h
    cases h
  rename_i differ
  have hkey : (TableEdit.comparing before after).primaryKey? =
      KeyEdit.between before.primaryKey? after.primaryKey? := rfl
  have htable : (TableEdit.comparing before after).name = after.name := rfl
  unfold changeKey at h
  simp only [hcolumns, hkey, htable, Option.map_some, Option.getD_some] at h
  cases hbetween : KeyEdit.between before.primaryKey? after.primaryKey? with
  | none =>
    -- a declared key that stays has the columns that it had
    have flagged : before.primaryKey? = none := by
      have same := KeyEdit.between_eq_none_iff.mp hbetween
      cases hb : before.primaryKey? with
      | none => rfl
      | some key =>
        rw [hb] at same
        refine absurd ⟨hbetween, ?_⟩ differ
        rw [Table.keyColumns_of_declared hb, Table.keyColumns_of_declared same.symm]
    rw [hbetween] at h
    rcases List.mem_append.mp h with h | h
    · have name : before.primaryKey?.bind (·.name) = none := by rw [flagged]; rfl
      rw [← name] at h
      exact .inl (of_mem_dropKey hname (fun needed => by rw [needed, Bool.or_true]) h)
    · exact .inr (of_mem_addFlaggedKey h)
  | some edit =>
    rw [hbetween] at h
    cases edit with
    | set previous key =>
      obtain rfl : before.primaryKey? = previous := KeyEdit.before_of_set hbetween
      rcases List.mem_append.mp h with h | h
      · exact .inl (of_mem_dropKey hname id h)
      · exact .inr ⟨_, List.mem_singleton.mp h⟩
    | remove name =>
      obtain ⟨key, hb, rfl⟩ := KeyEdit.before_of_remove hbetween
      rcases List.mem_append.mp h with h | h
      · have name : key.name = before.primaryKey?.bind (·.name) := by rw [hb]; rfl
        rw [name] at h
        exact .inl (of_mem_dropKey hname (fun _ => by rw [hb]; rfl) h)
      · exact .inr (of_mem_addFlaggedKey h)

/-- Of the key and the interleaving Spanner changes only what becomes of interleaved rows. -/
theorem Ddl.Spanner.of_mem_changeConstraints {e : TableEdit} {s : Sql.Statement}
    (h : s ∈ statementsOf (changeConstraints e)) :
    ∃ action, s = .alterTable e.name (.setOnDelete action) := by
  unfold changeConstraints at h
  split at h
  · cases h
  · cases hedit : e.interleave? with
    | none =>
      rw [hedit] at h
      cases h
    | some edit =>
      rw [hedit] at h
      dsimp only at h
      unfold changeInterleave at h
      split at h
      · split at h
        · exact ⟨_, List.mem_singleton.mp h⟩
        · cases h
      · cases h
      · cases h

end SchemaEvolution
