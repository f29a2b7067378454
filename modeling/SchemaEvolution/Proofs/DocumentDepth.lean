import SchemaEvolution.Proofs.Documents

/-!
# How deep documents are

A document is not much deeper than the values that it holds literally: in a schema they lie within
six lists and objects (`Schema.depth_toJson_le`), in a migration within nine
(`Migration.depth_toJson_le`). So what holds none that are too deep is read again from the file that
it was written to (`Schema.ofText_line_of_storable`, `Migration.ofText_line`).
-/

namespace SchemaEvolution

variable {n : Nat}

namespace Json

/-- The values of members are not deeper than a number of levels. -/
def MembersWithin (n : Nat) (members : List (String × Json)) : Prop :=
  ∀ m ∈ members, m.2.depth ≤ n

@[simp] theorem depth_list_le_iff {items : List Json} :
    (list items).depth ≤ n + 1 ↔ ∀ item ∈ items, item.depth ≤ n := by
  constructor
  · intro h item hitem
    exact Nat.le_of_succ_le_succ (Nat.le_trans (depth_item_le hitem) h)
  · intro h
    refine Nat.succ_le_succ ?_
    induction items with
    | nil => exact Nat.zero_le _
    | cons item rest ih =>
      have ⟨first, others⟩ := List.forall_mem_cons.mp h
      exact Nat.max_le.mpr ⟨first, ih others⟩

@[simp] theorem depth_object_le_iff {members : List (String × Json)} :
    (object members).depth ≤ n + 1 ↔ MembersWithin n members := by
  constructor
  · intro h m hm
    exact Nat.le_of_succ_le_succ (Nat.le_trans (depth_member_le hm) h)
  · intro h
    refine Nat.succ_le_succ ?_
    induction members with
    | nil => exact Nat.zero_le _
    | cons m rest ih =>
      have ⟨first, others⟩ := List.forall_mem_cons.mp h
      exact Nat.max_le.mpr ⟨first, ih others⟩

@[simp] theorem depth_text (s : String) : (text s).depth = 0 := rfl

@[simp] theorem depth_bool (b : Bool) : (bool b).depth = 0 := rfl

@[simp] theorem depth_texts_le (items : List String) : (texts items).depth ≤ n + 1 := by
  simp [texts]

@[simp] theorem depth_orNull_le_iff {value : Option Json} :
    (orNull value).depth ≤ n ↔ ∀ j ∈ value, j.depth ≤ n := by
  cases value with
  | none => exact ⟨nofun, fun _ => Nat.zero_le n⟩
  | some j => exact ⟨fun h _ hj => Option.some.inj hj ▸ h, fun h => h j rfl⟩

@[simp] theorem membersWithin_nil : MembersWithin n [] := nofun

@[simp] theorem membersWithin_cons {m : String × Json} {members : List (String × Json)} :
    MembersWithin n (m :: members) ↔ m.2.depth ≤ n ∧ MembersWithin n members :=
  List.forall_mem_cons

@[simp] theorem membersWithin_append {members others : List (String × Json)} :
    MembersWithin n (members ++ others) ↔ MembersWithin n members ∧ MembersWithin n others :=
  List.forall_mem_append

@[simp] theorem membersWithin_map {α : Type} {write : α → Json} {entries : List (String × α)} :
    MembersWithin n (entries.map fun e => (e.1, write e.2)) ↔
      ∀ e ∈ entries, (write e.2).depth ≤ n :=
  List.forall_mem_map

@[simp] theorem membersWithin_memberIfSome {name : String} {value : Option Json} :
    MembersWithin n (memberIfSome name value) ↔ ∀ j ∈ value, j.depth ≤ n := by
  cases value <;> simp [memberIfSome]

@[simp] theorem membersWithin_memberIfAny {name : String} {items : List Json} :
    MembersWithin (n + 1) (memberIfAny name items) ↔ ∀ item ∈ items, item.depth ≤ n := by
  cases items <;> simp [memberIfAny]

end Json

/-! ## Tables and schemas -/

@[simp] theorem ColumnType.depth_toJson (t : ColumnType) : t.toJson.depth = 0 := rfl

@[simp] theorem DeleteAction.depth_toJson (a : DeleteAction) : a.toJson.depth = 0 := rfl

@[simp] theorem ParentDelete.depth_toJson (a : ParentDelete) : a.toJson.depth = 0 := rfl

@[simp] theorem PhysicalType.depth_toJson_le (t : PhysicalType) : t.toJson.depth ≤ n + 1 := by
  simp [toJson]

theorem ColumnDefault.depth_toJson_le {x : ColumnDefault} (h : ∀ v ∈ x.literals, v.depth ≤ n) :
    x.toJson.depth ≤ n + 1 := by
  cases x <;> simp_all [toJson, literals]

@[simp] theorem Reference.depth_toJson_le (r : Reference) : r.toJson.depth ≤ n + 1 := by
  simp [toJson]

theorem Column.depth_toJson_le {c : Column} (h : ∀ v ∈ c.literals, v.depth ≤ n) :
    c.toJson.depth ≤ n + 2 := by
  have default : ∀ x ∈ c.default?, x.toJson.depth ≤ n + 1 := fun x hx =>
    x.depth_toJson_le fun v hv => h v (List.mem_flatMap.mpr ⟨x, Option.mem_toList.mpr hx, hv⟩)
  simpa [toJson] using default

@[simp] theorem Index.depth_toJson_le (i : Index) : i.toJson.depth ≤ n + 2 := by
  simp [toJson]

@[simp] theorem CompositeKey.depth_toJson_le (key : CompositeKey) : key.toJson.depth ≤ n + 2 := by
  simp [toJson]

@[simp] theorem Interleave.depth_toJson_le (i : Interleave) : i.toJson.depth ≤ n + 1 := by
  simp [toJson]

theorem Table.depth_toJson_le {t : Table} (h : ∀ v ∈ t.literals, v.depth ≤ n) :
    t.toJson.depth ≤ n + 4 := by
  have columns : ∀ e ∈ t.columns.entries, e.2.toJson.depth ≤ n + 2 := fun e he =>
    Column.depth_toJson_le fun v hv => h v (List.mem_flatMap.mpr ⟨e, he, hv⟩)
  simpa [toJson] using columns

theorem Schema.depth_toJson_le {s : Schema} (h : ∀ v ∈ s.literals, v.depth ≤ n) :
    s.toJson.depth ≤ n + 6 := by
  have tables : ∀ e ∈ s.tables.entries, e.2.toJson.depth ≤ n + 4 := fun e he =>
    Table.depth_toJson_le fun v hv => h v (List.mem_flatMap.mpr ⟨e, he, hv⟩)
  simpa [toJson] using tables

/-! ## Patches -/

theorem FieldEdit.depth_toJson_le {e : FieldEdit} (h : ∀ v ∈ e.literals, v.depth ≤ n) :
    e.toJson.depth ≤ n + 2 := by
  cases e with
  | default before after =>
    have defaults : ∀ x : ColumnDefault, before = some x ∨ after = some x →
        x.toJson.depth ≤ n + 1 := fun x hx =>
      x.depth_toJson_le fun v hv => h v <| by
        simpa [literals] using hx.imp (fun hb => ⟨x, hb, hv⟩) (fun ha => ⟨x, ha, hv⟩)
    simpa [toJson, or_imp, forall_and] using defaults
  | _ => simp [toJson]

theorem ColumnEdit.depth_toJson_le {e : ColumnEdit} (h : ∀ v ∈ e.literals, v.depth ≤ n) :
    e.toJson.depth ≤ n + 4 := by
  cases e with
  | add column =>
    simpa [toJson] using Nat.le_succ_of_le (Column.depth_toJson_le h)
  | remove name previous =>
    simpa [toJson] using Nat.le_succ_of_le (Column.depth_toJson_le h)
  | change name column keyColumn edits =>
    have ⟨column_literals, edit_literals⟩ := List.forall_mem_append.mp h
    have depth := Nat.le_succ_of_le (Column.depth_toJson_le column_literals)
    have edits_depth : ∀ e ∈ edits, e.toJson.depth ≤ n + 2 := fun e he =>
      FieldEdit.depth_toJson_le fun v hv => edit_literals v (List.mem_flatMap.mpr ⟨e, he, hv⟩)
    cases keyColumn <;> simpa [toJson] using ⟨depth, edits_depth⟩

@[simp] theorem IndexEdit.depth_toJson_le (e : IndexEdit) : e.toJson.depth ≤ n + 3 := by
  cases e <;> simp [toJson]

@[simp] theorem KeyEdit.depth_toJson_le (e : KeyEdit) : e.toJson.depth ≤ n + 3 := by
  cases e <;> simp [toJson]

@[simp] theorem InterleaveEdit.depth_toJson_le (e : InterleaveEdit) : e.toJson.depth ≤ n + 2 := by
  cases e <;> simp [toJson]

@[simp] theorem KeyColumns.depth_toJson_le (k : KeyColumns) : k.toJson.depth ≤ n + 2 := by
  simp [toJson]

theorem TableEdit.membersWithin {e : TableEdit} (h : ∀ v ∈ e.literals, v.depth ≤ n) :
    Json.MembersWithin (n + 5) e.members := by
  have columns : ∀ c ∈ e.columns, c.toJson.depth ≤ n + 4 := fun c hc =>
    ColumnEdit.depth_toJson_le fun v hv => h v (List.mem_flatMap.mpr ⟨c, hc, hv⟩)
  simpa [members] using columns

theorem TableAction.depth_toJson_le {a : TableAction} (h : ∀ v ∈ a.literals, v.depth ≤ n) :
    a.toJson.depth ≤ n + 6 := by
  cases a with
  | add table => simpa [toJson] using Nat.le_succ_of_le (Table.depth_toJson_le h)
  | remove name previous => simpa [toJson] using Nat.le_succ_of_le (Table.depth_toJson_le h)
  | change edit => simpa [toJson] using TableEdit.membersWithin h

theorem SchemaPatch.depth_toJson_le {p : SchemaPatch} (h : ∀ v ∈ p.literals, v.depth ≤ n) :
    p.toJson.depth ≤ n + 8 := by
  have actions : ∀ a ∈ p.actions, a.toJson.depth ≤ n + 6 := fun a ha =>
    TableAction.depth_toJson_le fun v hv => h v (List.mem_flatMap.mpr ⟨a, ha, hv⟩)
  simpa [toJson] using actions

/-! ## Migrations -/

@[simp] theorem Dialect.depth_toJson (d : Dialect) : d.toJson.depth = 0 := rfl

@[simp] theorem Diagnostic.depth_toJson_le (d : Diagnostic) : d.toJson.depth ≤ n + 1 := by
  simp [toJson]

@[simp] theorem Routine.depth_toJson_le (r : Routine) : r.toJson.depth ≤ n + 3 := by
  cases r <;> simp [toJson]

@[simp] theorem RoutinePair.depth_toJson_le (p : RoutinePair) : p.toJson.depth ≤ n + 4 := by
  simp [toJson]

theorem Migration.depth_toJson_le {m : Migration} (h : ∀ v ∈ m.literals, v.depth ≤ n) :
    m.toJson.depth ≤ n + 9 := by
  have ⟨up_literals, down_literals⟩ := List.forall_mem_append.mp h
  have up := SchemaPatch.depth_toJson_le up_literals
  have down := SchemaPatch.depth_toJson_le down_literals
  simpa [toJson] using ⟨up, down⟩

/-! ## Documents in files -/

/-- A value can be part of a file: a document restores it, and it does not take up more levels than
documents have for it. -/
def Json.Storable (v : Json) : Prop :=
  v.Restorable ∧ v.depth ≤ 100

instance : DecidablePred Json.Storable :=
  fun _ => inferInstanceAs (Decidable (_ ∧ _))

/-- A schema is read from the file that it was written to. -/
theorem Schema.ofText_line {s : Schema} (literals : ∀ v ∈ s.literals, v.Restorable)
    (shallow : s.toJson.depth ≤ JsonAccess.maxLevels) : ofText (s.toText ++ "\n") = .ok s := by
  have restores := s.restores literals
  rw [ofText, toText, JsonReader.readText_line restores.whole]
  exact restores.reads _ shallow

theorem Schema.ofText_line_of_storable {s : Schema} (literals : ∀ v ∈ s.literals, v.Storable) :
    ofText (s.toText ++ "\n") = .ok s :=
  ofText_line (fun v hv => (literals v hv).1)
    (Nat.le_trans (depth_toJson_le fun v hv => (literals v hv).2) (by decide))

/-- A migration is read from the file that it was written to. -/
theorem Migration.ofText_line {m : Migration} (literals : ∀ v ∈ m.literals, v.Storable) :
    ofText (m.toText ++ "\n") = .ok m := by
  have restores := m.restores fun v hv => (literals v hv).1
  have depth : m.toJson.depth ≤ JsonAccess.maxLevels :=
    Nat.le_trans (depth_toJson_le fun v hv => (literals v hv).2) (by decide)
  rw [ofText, toText, JsonReader.readText_line restores.whole]
  exact restores.reads _ depth

end SchemaEvolution
