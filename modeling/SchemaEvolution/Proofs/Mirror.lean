import SchemaEvolution.Proofs.Minimal

/-!
# There and back

The patch from one schema to another and the patch back are mirror images
(`SchemaPatch.between_mirror_images`). What one adds the other removes, and tables that are added
one after the other are removed in the opposite order; what one changes the other changes, at the
same place. Where an edit keeps what was there before, the edit back keeps what is there after; an
edit that keeps only the new value is mirrored by one of its kind.

The edits of a table are mirrored kind by kind (`Mirrored`), and the edits of one kind stand in the
order of names. So it is enough to look at one name at a time, where `under` says what the edit is.
-/

namespace SchemaEvolution

/-! ## Kinds of edits -/

/-- What an edit does to the thing that it is about. -/
inductive EditKind where
  | add | change | remove
deriving DecidableEq

/-- What the edit back does. -/
def EditKind.opposite : EditKind → EditKind
  | .add => .remove
  | .change => .change
  | .remove => .add

def ColumnEdit.kind : ColumnEdit → EditKind
  | .add _ => .add
  | .change _ _ _ _ => .change
  | .remove _ _ => .remove

def IndexEdit.kind : IndexEdit → EditKind
  | .add _ => .add
  | .change _ _ => .change
  | .remove _ => .remove

section

variable {ε : Type} {kind : ε → EditKind} {name : ε → String}

/-- Two lists of edits mirror each other: the edits of each kind in the one correspond, in their
order, to the edits of the opposite kind in the other. -/
def Mirrored (kind : ε → EditKind) (mirrors : ε → ε → Prop) (l l' : List ε) : Prop :=
  ∀ k, List.Forall₂ mirrors (l.filter (kind · = k)) (l'.filter (kind · = k.opposite))

/-- The edits of each kind are in the order of names. -/
def OrderedByKind (kind : ε → EditKind) (name : ε → String) (l : List ε) : Prop :=
  ∀ k, (l.filter (kind · = k)).Pairwise (name · < name ·)

/-- A pass over a map finds edits of one kind, each under the name of its entry. -/
def Pass {α : Type} (kind : ε → EditKind) (name : ε → String) (m : NameMap α)
    (f : String × α → Option ε) (k : EditKind) : Prop :=
  ∀ e ∈ m.entries, ∀ x, f e = some x → kind x = k ∧ name x = e.1

/-- One pass for each kind of edit finds them in the order of names. -/
theorem orderedByKind_passes {α : Type} {m₁ m₂ m₃ : NameMap α} {f₁ f₂ f₃ : String × α → Option ε}
    (k₁ k₂ k₃ : EditKind) (kinds : [k₁, k₂, k₃].Nodup) (h₁ : Pass kind name m₁ f₁ k₁)
    (h₂ : Pass kind name m₂ f₂ k₂) (h₃ : Pass kind name m₃ f₃ k₃) :
    OrderedByKind kind name
      (m₁.entries.filterMap f₁ ++ m₂.entries.filterMap f₂ ++ m₃.entries.filterMap f₃) := by
  have filter_pass : ∀ {m : NameMap α} {f : String × α → Option ε} {k : EditKind},
      Pass kind name m f k → ∀ k', (m.entries.filterMap f).filter (kind · = k') =
        if k = k' then m.entries.filterMap f else [] := by
    intro m f k h k'
    have hk : ∀ x ∈ m.entries.filterMap f, kind x = k := by
      intro x hx
      obtain ⟨e, he, hfe⟩ := List.mem_filterMap.mp hx
      exact (h e he x hfe).1
    split
    · rename_i heq
      exact List.filter_eq_self.mpr fun x hx => decide_eq_true (heq ▸ hk x hx)
    · rename_i hne
      refine List.filter_eq_nil_iff.mpr fun x hx => ?_
      rw [hk x hx, decide_eq_true_eq]
      exact hne
  have ordered : ∀ {m : NameMap α} {f : String × α → Option ε} {k : EditKind},
      Pass kind name m f k → (m.entries.filterMap f).Pairwise (name · < name ·) :=
    fun h => NameMap.pairwise_filterMap_entries name fun e he x hx => (h e he x hx).2
  have order₁ := ordered h₁
  have order₂ := ordered h₂
  have order₃ := ordered h₃
  intro k
  rw [List.filter_append, List.filter_append, filter_pass h₁, filter_pass h₂, filter_pass h₃]
  -- at most one of the three passes is about this kind
  grind

/-- Edits that are mirrored name by name are mirrored, where those of one kind are in the order of
names. -/
theorem mirrored_of_under {mirrors : ε → ε → Prop} {l l' : List ε}
    {under under' : String → Option ε} (order : OrderedByKind kind name l)
    (order' : OrderedByKind kind name l')
    (named : ∀ n, l.filter (name · = n) = (under n).toList)
    (named' : ∀ n, l'.filter (name · = n) = (under' n).toList)
    (h : ∀ n k, Option.Rel mirrors ((under n).filter (kind · = k))
      ((under' n).filter (kind · = k.opposite))) : Mirrored kind mirrors l l' := by
  have swap : ∀ (l : List ε) (k : EditKind) (n : String),
      (l.filter (kind · = k)).filter (name · = n) =
        (l.filter (name · = n)).filter (kind · = k) := by
    intro l k n
    rw [List.filter_filter, List.filter_filter]
    exact List.filter_congr fun x _ => Bool.and_comm _ _
  intro k
  refine NameMap.forall₂_of_filter (order k) (order' _) fun n => ?_
  rw [swap, swap, named, named', ← Option.toList_filter, ← Option.toList_filter]
  have hn := h n k
  generalize (under n).filter (kind · = k) = x? at hn ⊢
  generalize (under' n).filter (kind · = k.opposite) = y? at hn ⊢
  cases hn with
  | none => exact .nil
  | some hxy => exact .cons hxy .nil

end

/-! ## Properties of a column -/

/-- Edits of one property, there and back. -/
inductive FieldEdit.Mirrors : FieldEdit → FieldEdit → Prop
  | type (t t' : ColumnType) (p p' : PhysicalType) : Mirrors (.type t p) (.type t' p')
  | nullable (b : Bool) : Mirrors (.nullable b) (.nullable !b)
  | default (x y : Option ColumnDefault) : Mirrors (.default x y) (.default y x)
  | primaryKey (b : Bool) : Mirrors (.primaryKey b) (.primaryKey !b)
  | unique (b : Bool) : Mirrors (.unique b) (.unique !b)
  | reference (x y : Option Reference) : Mirrors (.reference x y) (.reference y x)

/-- The same properties of a column are edited there and back, in the same order. -/
theorem FieldEdit.between_mirrors (c d : Column) :
    List.Forall₂ Mirrors (between c d) (between d c) := by
  have one : ∀ {p q : Prop} [Decidable p] [Decidable q] {e f : FieldEdit}, (p ↔ q) →
      (p → e.Mirrors f) →
      List.Forall₂ Mirrors (if p then [e] else []) (if q then [f] else []) := by
    intro p q _ _ e f hpq h
    by_cases hp : p
    · rw [if_pos hp, if_pos (hpq.mp hp)]
      exact .cons (h hp) .nil
    · rw [if_neg hp, if_neg (mt hpq.mpr hp)]
      exact .nil
  have flag : ∀ {a b : Bool}, a ≠ b → a = !b := Bool.eq_not.mpr
  unfold between
  refine List.rel_append (List.rel_append (List.rel_append (List.rel_append (List.rel_append
    (one (or_congr ne_comm ne_comm) fun _ => .type ..) ?_) ?_) ?_) ?_)
    (one ne_comm fun _ => .reference ..)
  · exact one ne_comm fun h => flag h ▸ .nullable _
  · have symmetric : ColumnDefault.equivalent? c.default? d.default? =
        ColumnDefault.equivalent? d.default? c.default? :=
      Bool.eq_iff_iff.mpr ⟨ColumnDefault.equivalent?_symm, ColumnDefault.equivalent?_symm⟩
    rw [symmetric]
    split
    · exact .nil
    · exact .cons (.default ..) .nil
  · exact one ne_comm fun h => flag h ▸ .primaryKey _
  · exact one ne_comm fun h => flag h ▸ .unique _

/-! ## Columns -/

namespace ColumnEdit

/-- Edits of one column, there and back. -/
inductive Mirrors : ColumnEdit → ColumnEdit → Prop
  | added (c : Column) : Mirrors (.add c) (.remove c.name c)
  | removed (c : Column) : Mirrors (.remove c.name c) (.add c)
  | changed {name : String} {c d : Column} {keyColumn keyColumn' : Bool}
      {edits edits' : List FieldEdit} (h : List.Forall₂ FieldEdit.Mirrors edits edits') :
      Mirrors (.change name c keyColumn edits) (.change name d keyColumn' edits')

variable {before after : Table}

theorem orderedByKind_between (keyed : after.WellKeyed) :
    OrderedByKind kind name (between before after) := by
  refine orderedByKind_passes .add .change .remove (by decide)
    (fun e he x hx => ?_) (fun e he x hx => ?_) (fun e he x hx => ?_)
  · split at hx <;> cases hx
    exact ⟨rfl, keyed e he⟩
  · split at hx
    · cases hx
    · dsimp only at hx
      split at hx <;> cases hx
      exact ⟨rfl, rfl⟩
  · split at hx <;> cases hx
    exact ⟨rfl, rfl⟩

/-- Under each name the edits there and back are mirrored. -/
theorem under_mirrors (hbefore : before.WellKeyed) (hafter : after.WellKeyed) (n : String)
    (k : EditKind) :
    Option.Rel Mirrors ((under before after n).filter (·.kind = k))
      ((under after before n).filter (·.kind = k.opposite)) := by
  unfold under
  cases hb : before.columns.find? n with
  | none =>
    cases ha : after.columns.find? n with
    | none => exact .none
    | some column =>
      obtain rfl := hafter.name_of_find? ha
      cases k <;> first | exact .none | exact .some (.added column)
  | some previous =>
    cases ha : after.columns.find? n with
    | none =>
      obtain rfl := hbefore.name_of_find? hb
      cases k <;> first | exact .none | exact .some (.removed previous)
    | some column =>
      have edits := FieldEdit.between_mirrors previous column
      have nothing : (FieldEdit.between previous column).isEmpty =
          (FieldEdit.between column previous).isEmpty := by
        rw [Bool.eq_iff_iff, List.isEmpty_iff, List.isEmpty_iff, ← List.length_eq_zero_iff,
          ← List.length_eq_zero_iff, edits.length_eq]
      dsimp only
      rw [nothing]
      split
      · exact .none
      · cases k <;> first | exact .none | exact .some (.changed edits)

theorem between_mirrored (hbefore : before.WellKeyed) (hafter : after.WellKeyed) :
    Mirrored kind Mirrors (between before after) (between after before) :=
  mirrored_of_under (orderedByKind_between hafter) (orderedByKind_between hbefore)
    (filter_between hafter) (filter_between hbefore) (under_mirrors hbefore hafter)

end ColumnEdit

/-! ## Indexes, keys and interleaving -/

namespace IndexEdit

/-- The edit back. -/
def reverse : IndexEdit → IndexEdit
  | .add index => .remove index
  | .remove index => .add index
  | .change before after => .change after before

variable {before after : Table}

theorem orderedByKind_between : OrderedByKind kind identity (between before after) := by
  refine orderedByKind_passes .remove .change .add (by decide)
    (fun e he x hx => ?_) (fun e he x hx => ?_) (fun e he x hx => ?_)
  · split at hx <;> cases hx
    exact ⟨rfl, Table.identity_of_find? (NameMap.find?_of_mem he)⟩
  · split at hx
    · cases hx
    · split at hx <;> cases hx
      exact ⟨rfl, Table.identity_of_find? (NameMap.find?_of_mem he)⟩
  · split at hx <;> cases hx
    exact ⟨rfl, Table.identity_of_find? (NameMap.find?_of_mem he)⟩

/-- What an index is known by calls for the reverse edit on the way back. -/
theorem under_reverse (before after : Table) (n : String) :
    under after before n = (under before after n).map reverse := by
  unfold under
  cases hb : before.indexesByIdentity.find? n with
  | none => cases ha : after.indexesByIdentity.find? n <;> rfl
  | some previous =>
    cases ha : after.indexesByIdentity.find? n with
    | none => rfl
    | some index =>
      dsimp only
      simp only [eq_comm (a := index.content)]
      split <;> rfl

theorem kind_reverse (e : IndexEdit) : e.reverse.kind = e.kind.opposite := by
  cases e <;> rfl

theorem between_mirrored :
    Mirrored kind (fun e f => f = e.reverse) (between before after) (between after before) := by
  refine mirrored_of_under orderedByKind_between orderedByKind_between (filter_between before after)
    (filter_between after before) fun n k => ?_
  rw [under_reverse before after]
  cases under before after n with
  | none => exact .none
  | some e =>
    have hkind : (e.reverse.kind = k.opposite) ↔ e.kind = k := by
      rw [kind_reverse]
      cases e.kind <;> cases k <;> decide
    simp only [Option.map_some, Option.filter, decide_eq_true_eq, hkind]
    split
    · exact .some rfl
    · exact .none

end IndexEdit

/-- Edits of the declared primary key, there and back. An edit that withdraws a key keeps nothing of
it but the name of its constraint. -/
inductive KeyEdit.Mirrors : KeyEdit → KeyEdit → Prop
  | replaced (x y : CompositeKey) : Mirrors (.set (some x) y) (.set (some y) x)
  | declared (y : CompositeKey) : Mirrors (.set none y) (.remove y.name)
  | withdrawn (x : CompositeKey) : Mirrors (.remove x.name) (.set none x)

theorem KeyEdit.between_mirrors (before after : Option CompositeKey) :
    Option.Rel Mirrors (between before after) (between after before) := by
  cases before with
  | none =>
    cases after with
    | none => exact .none
    | some y => exact .some (.declared y)
  | some x =>
    cases after with
    | none => exact .some (.withdrawn x)
    | some y =>
      simp only [between, Option.some.injEq, eq_comm (a := y)]
      split
      · exact .none
      · exact .some (.replaced x y)

/-- The edit back. -/
def InterleaveEdit.reverse : InterleaveEdit → InterleaveEdit
  | .set (some before) after => .set (some after) before
  | .set none after => .remove after
  | .remove previous => .set none previous

theorem InterleaveEdit.between_reverse (before after : Option Interleave) :
    between after before = (between before after).map reverse := by
  cases before with
  | none => cases after <;> rfl
  | some x =>
    cases after with
    | none => rfl
    | some y =>
      simp only [between, Option.some.injEq, eq_comm (a := y)]
      split <;> rfl

/-! ## Tables -/

/-- The columns of the key on the way back. -/
def KeyColumns.swap (k : KeyColumns) : KeyColumns :=
  ⟨k.after, k.before⟩

/-- Edits of one table, there and back. -/
structure TableEdit.Mirrors (e f : TableEdit) : Prop where
  name : f.name = e.name
  columns : Mirrored ColumnEdit.kind ColumnEdit.Mirrors e.columns f.columns
  indexes : Mirrored IndexEdit.kind (fun x y => y = x.reverse) e.indexes f.indexes
  primaryKey : Option.Rel KeyEdit.Mirrors e.primaryKey? f.primaryKey?
  interleave : f.interleave? = e.interleave?.map InterleaveEdit.reverse
  keyColumns : f.keyColumns? = e.keyColumns?.map KeyColumns.swap

namespace TableEdit

variable {before after : Table}

theorem comparing_mirrors (hbefore : before.WellKeyed) (hafter : after.WellKeyed)
    (hname : before.name = after.name) :
    (comparing before after).Mirrors (comparing after before) where
  name := hname
  columns := ColumnEdit.between_mirrored hbefore hafter
  indexes := IndexEdit.between_mirrored
  primaryKey := KeyEdit.between_mirrors _ _
  interleave := InterleaveEdit.between_reverse _ _
  keyColumns := by
    have same : (KeyEdit.between after.primaryKey? before.primaryKey? = none ∧
          after.keyColumns = before.keyColumns) ↔
        (KeyEdit.between before.primaryKey? after.primaryKey? = none ∧
          before.keyColumns = after.keyColumns) := by
      rw [KeyEdit.between_eq_none_iff, KeyEdit.between_eq_none_iff, eq_comm,
        eq_comm (a := after.keyColumns)]
    rw [keyColumns?_comparing, keyColumns?_comparing]
    simp only [same]
    split <;> rfl

/-- A table is edited on the way back exactly if it is edited on the way there, and then in the
mirrored way. -/
theorem between_mirrors (hbefore : before.WellKeyed) (hafter : after.WellKeyed)
    (hname : before.name = after.name) :
    Option.Rel Mirrors (between before after) (between after before) := by
  have nothing : between before after = none ↔ between after before = none := by
    rw [between_eq_none_iff_matches hbefore hafter hname,
      between_eq_none_iff_matches hafter hbefore hname.symm]
    exact ⟨Table.matches_equivalence.symm, Table.matches_equivalence.symm⟩
  cases there : between before after with
  | none =>
    rw [nothing.mp there]
    exact .none
  | some e =>
    cases back : between after before with
    | none => exact nomatch there.symm.trans (nothing.mpr back)
    | some f =>
      rw [between_eq_some there, between_eq_some back]
      exact .some (comparing_mirrors hbefore hafter hname)

end TableEdit

/-! ## Schemas -/

namespace SchemaPatch

/-- The tables that a patch adds, in the order in which it adds them. -/
def added (p : SchemaPatch) : List Table :=
  p.actions.filterMap fun
    | .add t => some t
    | _ => none

/-- The tables that a patch removes, in the order in which it removes them, with the names under
which it does. -/
def removed (p : SchemaPatch) : List (String × Table) :=
  p.actions.filterMap fun
    | .remove n t => some (n, t)
    | _ => none

/-- The edits of the tables that a patch changes. -/
def changed (p : SchemaPatch) : List TableEdit :=
  p.actions.filterMap fun
    | .change e => some e
    | _ => none

/-- Two patches are mirror images: what the one adds the other removes, in the opposite order, and
what the one changes the other changes, in the same order and in the mirrored way. -/
structure Mirrors (p q : SchemaPatch) : Prop where
  fromVersion : q.fromVersion = p.toVersion
  toVersion : q.toVersion = p.fromVersion
  added : q.added.map (fun t => (t.name, t)) = p.removed.reverse
  removed : q.removed = (p.added.map fun t => (t.name, t)).reverse
  changed : List.Forall₂ TableEdit.Mirrors p.changed q.changed

variable {before after : Schema}

/-- What is picked from the actions of a patch, pass by pass. -/
theorem filterMap_actions {β : Type} (pick : TableAction → Option β) (before after : Schema) :
    (between before after).actions.filterMap pick =
      (creationOrder (after.tablesMissingFrom before)).filterMap (fun t => pick (.add t)) ++
      (before.tables.entries.filterMap fun e =>
        ((after.tables.find? e.1).bind (TableEdit.between e.2)).bind fun x => pick (.change x)) ++
      (creationOrder (before.tablesMissingFrom after)).reverse.filterMap
        (fun t => pick (.remove t.name t)) := by
  unfold between
  rw [List.filterMap_append, List.filterMap_append, List.filterMap_map, List.filterMap_map,
    List.filterMap_filterMap]
  congr 2
  refine List.filterMap_congr fun e _ => ?_
  cases after.tables.find? e.1 with
  | none => rfl
  | some u => exact Option.bind_map ..

theorem added_between (before after : Schema) :
    (between before after).added = creationOrder (after.tablesMissingFrom before) := by
  simp [added, filterMap_actions]

theorem removed_between (before after : Schema) :
    (between before after).removed =
      ((creationOrder (before.tablesMissingFrom after)).map fun t => (t.name, t)).reverse := by
  simp [removed, filterMap_actions]

theorem changed_between (before after : Schema) :
    (between before after).changed = before.tables.entries.filterMap fun e =>
      (after.tables.find? e.1).bind (TableEdit.between e.2) := by
  simp [changed, filterMap_actions]

/-- **The patch back is the mirror image of the patch there.** -/
theorem between_mirror_images (hbefore : before.WellKeyed) (hafter : after.WellKeyed) :
    (between before after).Mirrors (between after before) where
  fromVersion := rfl
  toVersion := rfl
  added := by rw [added_between, removed_between, List.reverse_reverse]
  removed := by rw [added_between, removed_between]
  changed := by
    rw [changed_between, changed_between]
    have named : ∀ {s s' : Schema}, s'.WellKeyed → ∀ e ∈ s.tables.entries, ∀ x,
        (s'.tables.find? e.1).bind (TableEdit.between e.2) = some x → x.name = e.1 := by
      intro s s' keyed e he x hx
      obtain ⟨u, hu, hedit⟩ := Option.bind_eq_some_iff.mp hx
      exact (TableEdit.name_of_between hedit).trans (keyed.name_of_find? hu)
    refine NameMap.forall₂_of_filter (NameMap.pairwise_filterMap_entries _ (named hafter))
      (NameMap.pairwise_filterMap_entries _ (named hbefore)) fun n => ?_
    rw [NameMap.filter_filterMap_entries _ (named hafter),
      NameMap.filter_filterMap_entries _ (named hbefore)]
    cases hb : before.tables.find? n with
    | none =>
      cases ha : after.tables.find? n with
      | none => exact .nil
      | some u =>
        simp only [Option.bind_none, Option.bind_some, hb]
        exact .nil
    | some t =>
      cases ha : after.tables.find? n with
      | none =>
        simp only [Option.bind_none, Option.bind_some, ha]
        exact .nil
      | some u =>
        have hname : t.name = u.name :=
          (hbefore.name_of_find? hb).trans (hafter.name_of_find? ha).symm
        have edits := TableEdit.between_mirrors (hbefore.of_find? hb) (hafter.of_find? ha) hname
        simp only [Option.bind_some, hb, ha]
        generalize TableEdit.between t u = e? at edits ⊢
        generalize TableEdit.between u t = f? at edits ⊢
        cases edits with
        | none => exact .nil
        | some hef => exact .cons hef .nil

end SchemaPatch

namespace Shop

/-- On the way back carts are added and orders are removed, and the users get back their rank. -/
theorem between_mirror_images_shop :
    before.WellKeyed ∧ after.WellKeyed ∧
      ((SchemaPatch.between after before).added.map (·.name) = ["carts"] ∧
        (SchemaPatch.between after before).changed.map (·.name) = ["users"] ∧
        (SchemaPatch.between after before).removed.map (·.1) = ["orders"]) ∧
      (SchemaPatch.between before after).Mirrors (SchemaPatch.between after before) :=
  ⟨wellKeyed_before, wellKeyed_after, by decide,
    SchemaPatch.between_mirror_images wellKeyed_before wellKeyed_after⟩

end Shop

end SchemaEvolution
