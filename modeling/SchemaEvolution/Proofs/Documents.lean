import SchemaEvolution.Migration.Document
import SchemaEvolution.Proofs.JsonReading

/-!
# Documents are read as they were written

Each kind of record in the documents of schemas and migrations is restored from what it is written
as, given that the values it holds literally are (`literals`); for every record that is one lemma,
`restores`, which goes through the fields in the order in which they are written. A whole document
follows (`documents_restored`): all that can be lost are doubles, and data that announces an
embedded text.
-/

namespace SchemaEvolution

open JsonForm (Fills)
open JsonReader (restores_string restores_bool restores_list restores_texts restores_choice)

theorem Json.memberIfAny_eq (name : String) (items : List Json) :
    memberIfAny name items =
      memberIfSome name (if items.isEmpty then none else some (.list items)) := by
  unfold memberIfAny
  cases items.isEmpty <;> rfl

theorem JsonForm.members_cons {α : Type} (field : JsonField α) (fields : List (JsonField α))
    (value : Option Json) (values : List (Option Json)) :
    members (field :: fields) (value :: values) =
      Json.memberIfSome field.name value ++ members fields values := by
  cases value <;> rfl

theorem JsonForm.members_nil {α : Type} : members ([] : List (JsonField α)) [] = [] :=
  rfl

/-! ## Names -/

theorem ColumnType.restores (t : ColumnType) : reader.Restores t.toJson t :=
  restores_choice (by cases t <;> rfl)

theorem DeleteAction.restores (a : DeleteAction) : reader.Restores a.toJson a :=
  restores_choice (by cases a <;> rfl)

theorem ParentDelete.restores (a : ParentDelete) : reader.Restores a.toJson a :=
  restores_choice (by cases a <;> rfl)

theorem Dialect.restores (d : Dialect) : reader.Restores d.toJson d :=
  restores_choice (by cases d <;> rfl)

/-! ## Columns -/

theorem PhysicalType.restores (t : PhysicalType) : reader.Restores t.toJson t :=
  JsonForm.restores form [some (.text t.postgres), some (.text t.spanner)]
    (.required (restores_string _) <| .required (restores_string _) .done) (by decide)

/-- The values that a default holds literally. -/
def ColumnDefault.literals : ColumnDefault → List Json
  | .literal value => [value.val]
  | .expression _ | .supplied => []

theorem ColumnDefault.restores (x : ColumnDefault) (h : ∀ v ∈ x.literals, v.Restorable) :
    reader.Restores x.toJson x := by
  cases x with
  | literal value =>
    exact JsonVariant.restores_beside (by decide) rfl
      ((JsonReader.restores_data (h _ List.mem_cons_self)).map _)
  | expression sql =>
    exact JsonVariant.restores_beside (by decide) rfl ((restores_string sql).map _)
  | supplied => exact JsonVariant.restores_beside_none rfl

theorem ColumnDefault.toJson_ne_null (x : ColumnDefault) : x.toJson ≠ .null := by
  cases x <;> exact nofun

namespace Reference

theorem restores (r : Reference) : reader.Restores r.toJson r := by
  have written : r.toJson = .object (JsonForm.members form.fields
      [some (.text r.table), some (.text r.column), r.name.map .text,
        r.onDelete.map DeleteAction.toJson]) := by
    obtain ⟨table, column, name, onDelete⟩ := r
    cases name <;> cases onDelete <;> rfl
  rw [written]
  exact JsonForm.restores _ _
    (.required (restores_string _) <| .required (restores_string _) <|
      .optional (fun s _ => restores_string s) nofun rfl <|
      .optional (fun a _ => a.restores) nofun rfl .done) (by decide)

end Reference

namespace Column

/-- The values that a column holds literally. -/
def literals (c : Column) : List Json :=
  c.default?.toList.flatMap ColumnDefault.literals

theorem restores (c : Column) (h : ∀ v ∈ c.literals, v.Restorable) :
    reader.Restores c.toJson c := by
  have written : c.toJson = .object (JsonForm.members form.fields
      [some (.text c.name), some c.type.toJson, some c.physical.toJson, some (.bool c.nullable),
        c.default?.map ColumnDefault.toJson, some (.bool c.primaryKey), some (.bool c.unique),
        c.reference?.map Reference.toJson]) := by
    obtain ⟨name, type, physical, nullable, default?, primaryKey, unique, reference?⟩ := c
    cases default? <;> cases reference? <;> rfl
  have default_restores : ∀ x ∈ c.default?, ColumnDefault.reader.Restores x.toJson x :=
    fun x hx => x.restores fun v hv =>
      h v (List.mem_flatMap.mpr ⟨x, Option.mem_toList.mpr hx, hv⟩)
  rw [written]
  exact JsonForm.restores _ _
    (.required (restores_string _) <| .required c.type.restores <|
      .required c.physical.restores <| .defaulted (restores_bool _) <|
      .optional default_restores ColumnDefault.toJson_ne_null rfl <|
      .defaulted (restores_bool _) <| .defaulted (restores_bool _) <|
      .optional (fun r _ => r.restores) nofun rfl .done) (by decide)

end Column

/-! ## Tables and schemas -/

theorem Index.restores (i : Index) : reader.Restores i.toJson i := by
  have written : i.toJson = .object (JsonForm.members form.fields
      [i.name.map .text, some (Json.texts i.columns), some (.bool i.unique)]) := by
    obtain ⟨name, columns, unique⟩ := i
    cases name <;> rfl
  rw [written]
  exact JsonForm.restores _ _
    (.optional (fun s _ => restores_string s) nofun rfl <| .required (restores_texts _) <|
      .defaulted (restores_bool _) .done) (by decide)

theorem CompositeKey.restores (key : CompositeKey) : reader.Restores key.toJson key := by
  have written : key.toJson = .object (JsonForm.members form.fields
      [key.name.map .text, some (Json.texts key.columns)]) := by
    obtain ⟨name, columns⟩ := key
    cases name <;> rfl
  rw [written]
  exact JsonForm.restores _ _
    (.optional (fun s _ => restores_string s) nofun rfl <| .required (restores_texts _) .done)
    (by decide)

theorem Interleave.restores (i : Interleave) : reader.Restores i.toJson i :=
  JsonForm.restores form [some (.text i.parent), some i.onDelete.toJson]
    (.required (restores_string _) <| .required i.onDelete.restores .done) (by decide)

namespace Table

/-- The values that a table holds literally. -/
def literals (t : Table) : List Json :=
  t.columns.entries.flatMap fun e => e.2.literals

theorem restores (t : Table) (h : ∀ v ∈ t.literals, v.Restorable) :
    reader.Restores t.toJson t := by
  have written : t.toJson = .object (JsonForm.members form.fields
      [some (.text t.name), some (.object (t.columns.entries.map fun e => (e.1, e.2.toJson))),
        if (t.indexes.map Index.toJson).isEmpty then none
          else some (.list (t.indexes.map Index.toJson)),
        t.primaryKey?.map CompositeKey.toJson, t.interleave?.map Interleave.toJson]) := by
    obtain ⟨name, columns, indexes, primaryKey?, interleave?⟩ := t
    cases indexes <;> cases primaryKey? <;> cases interleave? <;> rfl
  rw [written]
  exact JsonForm.restores _ _
    (.required (restores_string _) <|
      .required (JsonReader.restores_nameMap Column.toJson t.columns fun e he =>
        e.2.restores fun v hv => h v (List.mem_flatMap.mpr ⟨e, he, hv⟩)) <|
      .listed (fun i _ => i.restores) rfl <|
      .optional (fun key _ => key.restores) nofun rfl <|
      .optional (fun i _ => i.restores) nofun rfl .done) (by decide)

end Table

namespace Schema

/-- The values that a schema holds literally. -/
def literals (s : Schema) : List Json :=
  s.tables.entries.flatMap fun e => e.2.literals

theorem restores (s : Schema) (h : ∀ v ∈ s.literals, v.Restorable) :
    reader.Restores s.toJson s := by
  have tables_restore := JsonReader.restores_nameMap (r := Table.reader) Table.toJson s.tables
    fun e he => e.2.restores fun v hv => h v (List.mem_flatMap.mpr ⟨e, he, hv⟩)
  exact JsonForm.restores form [some (.text s.version),
      some (.object (s.tables.entries.map fun e => (e.1, e.2.toJson)))]
    (.required (restores_string _) <| .defaulted tables_restore .done) (by decide)

end Schema

/-! ## Patches -/

namespace FieldEdit

/-- The values that the edit of a property holds literally. -/
def literals : FieldEdit → List Json
  | .default before after =>
    before.toList.flatMap ColumnDefault.literals ++ after.toList.flatMap ColumnDefault.literals
  | _ => []

theorem restores (e : FieldEdit) (h : ∀ v ∈ e.literals, v.Restorable) :
    reader.Restores e.toJson e := by
  cases e with
  | type abstract physical =>
    exact JsonVariant.restores_within_form typeForm
      [some abstract.toJson, some physical.toJson] (abstract, physical) rfl rfl
      (.required abstract.restores <| .required physical.restores .done) (by decide) (by decide)
  | nullable flag =>
    exact JsonVariant.restores_within_form (flagForm "nullable")
      [some (.bool flag)] flag rfl rfl (.required (restores_bool flag) .done) (by decide)
      (by decide)
  | default before after =>
    have restored (value : Option ColumnDefault)
        (hv : ∀ v ∈ value.toList.flatMap ColumnDefault.literals, v.Restorable) :
        ∀ x ∈ value, ColumnDefault.reader.Restores x.toJson x := fun x hx =>
      x.restores fun v hx' => hv v (List.mem_flatMap.mpr ⟨x, Option.mem_toList.mpr hx, hx'⟩)
    exact JsonVariant.restores_within_form (replacementForm ColumnDefault.reader)
      [some (Json.orNull (before.map ColumnDefault.toJson)),
        some (Json.orNull (after.map ColumnDefault.toJson))] (before, after) rfl rfl
      (.nullable (restored before fun v hv => h v (List.mem_append_left _ hv))
          ColumnDefault.toJson_ne_null <|
        .nullable (restored after fun v hv => h v (List.mem_append_right _ hv))
          ColumnDefault.toJson_ne_null .done) (by decide) (by decide)
  | primaryKey flag =>
    exact JsonVariant.restores_within_form (flagForm "primaryKey")
      [some (.bool flag)] flag rfl rfl (.required (restores_bool flag) .done) (by decide)
      (by decide)
  | unique flag =>
    exact JsonVariant.restores_within_form (flagForm "unique")
      [some (.bool flag)] flag rfl rfl (.required (restores_bool flag) .done) (by decide)
      (by decide)
  | reference before after =>
    exact JsonVariant.restores_within_form (replacementForm Reference.reader)
      [some (Json.orNull (before.map Reference.toJson)),
        some (Json.orNull (after.map Reference.toJson))] (before, after) rfl rfl
      (.nullable (fun r _ => r.restores) nofun <| .nullable (fun r _ => r.restores) nofun .done)
      (by decide) (by decide)

end FieldEdit

namespace ColumnEdit

/-- The values that the edit of a column holds literally. -/
def literals : ColumnEdit → List Json
  | .add column | .remove _ column => column.literals
  | .change _ column _ edits => column.literals ++ edits.flatMap FieldEdit.literals

theorem restores (e : ColumnEdit) (h : ∀ v ∈ e.literals, v.Restorable) :
    reader.Restores e.toJson e := by
  cases e with
  | add column =>
    exact JsonVariant.restores_within_form addForm [some column.toJson] column rfl rfl
      (.required (column.restores h) .done) (by decide) (by decide)
  | remove name previous =>
    exact JsonVariant.restores_within_form removeForm
      [some (.text name), some previous.toJson] (name, previous) rfl rfl
      (.required (restores_string name) <| .required (previous.restores h) .done) (by decide)
      (by decide)
  | change name column keyColumn edits =>
    have written : (ColumnEdit.change name column keyColumn edits).toJson =
        .object (("action", .text "change") :: JsonForm.members changeForm.fields
          [some (.text name), some column.toJson, if keyColumn then some (.bool true) else none,
            some (.list (edits.map FieldEdit.toJson))]) := by
      cases keyColumn <;> rfl
    have column_restores := column.restores fun v hv => h v (List.mem_append_left _ hv)
    have edits_restore := restores_list FieldEdit.toJson edits fun e he =>
      e.restores fun v hv => h v (List.mem_append_right _ (List.mem_flatMap.mpr ⟨e, he, hv⟩))
    rw [written]
    refine JsonVariant.restores_within_form _ _ ⟨name, column, keyColumn, edits⟩ rfl rfl ?_
      (by decide) (by decide)
    refine .required (restores_string name) (.required column_restores ?_)
    cases keyColumn with
    | true => exact .defaulted (restores_bool true) (.required edits_restore .done)
    | false => exact .absent (.required edits_restore .done)

end ColumnEdit

theorem IndexEdit.restores (e : IndexEdit) : reader.Restores e.toJson e := by
  cases e with
  | add index =>
    exact JsonVariant.restores_within_form indexForm [some index.toJson] index rfl rfl
      (.required index.restores .done) (by decide) (by decide)
  | remove index =>
    exact JsonVariant.restores_within_form indexForm [some index.toJson] index rfl rfl
      (.required index.restores .done) (by decide) (by decide)
  | change before after =>
    exact JsonVariant.restores_within_form changeForm
      [some before.toJson, some after.toJson] (before, after) rfl rfl
      (.required before.restores <| .required after.restores .done) (by decide) (by decide)

theorem KeyEdit.restores (e : KeyEdit) : reader.Restores e.toJson e := by
  cases e with
  | set before after =>
    exact JsonVariant.restores_within_form setForm
      [some (Json.orNull (before.map CompositeKey.toJson)), some after.toJson] (before, after)
      rfl rfl
      (.nullable (fun key _ => key.restores) nofun <| .required after.restores .done) (by decide)
      (by decide)
  | remove name =>
    exact JsonVariant.restores_within_form removeForm
      [some (Json.orNull (name.map .text))] name rfl rfl
      (.nullable (fun s _ => restores_string s) nofun .done) (by decide) (by decide)

theorem InterleaveEdit.restores (e : InterleaveEdit) : reader.Restores e.toJson e := by
  cases e with
  | set before after =>
    exact JsonVariant.restores_within_form setForm
      [some (Json.orNull (before.map Interleave.toJson)), some after.toJson] (before, after) rfl rfl
      (.nullable (fun i _ => i.restores) nofun <| .required after.restores .done) (by decide)
      (by decide)
  | remove previous =>
    exact JsonVariant.restores_within_form removeForm [some previous.toJson] previous rfl rfl
      (.required previous.restores .done) (by decide) (by decide)

theorem KeyColumns.restores (k : KeyColumns) : reader.Restores k.toJson k :=
  JsonForm.restores form [some (Json.texts k.before), some (Json.texts k.after)]
    (.required (restores_texts _) <| .required (restores_texts _) .done) (by decide)

namespace TableEdit

/-- The values that the changes of a table hold literally. -/
def literals (e : TableEdit) : List Json :=
  e.columns.flatMap ColumnEdit.literals

/-- What the fields of the changes of a table are written as. -/
def values (e : TableEdit) : List (Option Json) :=
  [some (.text e.name),
    if (e.columns.map ColumnEdit.toJson).isEmpty then none
      else some (.list (e.columns.map ColumnEdit.toJson)),
    if (e.indexes.map IndexEdit.toJson).isEmpty then none
      else some (.list (e.indexes.map IndexEdit.toJson)),
    e.primaryKey?.map KeyEdit.toJson, e.interleave?.map InterleaveEdit.toJson,
    e.keyColumns?.map KeyColumns.toJson]

theorem members_eq (e : TableEdit) : e.members = JsonForm.members form.fields e.values := by
  simp only [members, values, form, JsonForm.members_cons, Json.memberIfAny_eq, List.append_assoc]
  rw [JsonForm.members_nil, List.append_nil]
  rfl

theorem fills (e : TableEdit) (h : ∀ v ∈ e.literals, v.Restorable) :
    Fills form.fields e.values form.blank e :=
  .required (restores_string _) <|
    .listed (fun c hc => c.restores fun v hv => h v (List.mem_flatMap.mpr ⟨c, hc, hv⟩)) rfl <|
    .listed (fun i _ => i.restores) rfl <|
    .optional (fun k _ => k.restores) (by rintro ⟨⟩ <;> exact nofun) rfl <|
    .optional (fun i _ => i.restores) (by rintro ⟨⟩ <;> exact nofun) rfl <|
    .optional (fun k _ => k.restores) nofun rfl .done

end TableEdit

namespace TableAction

/-- The values that an action holds literally. -/
def literals : TableAction → List Json
  | .add table | .remove _ table => table.literals
  | .change edit => edit.literals

theorem restores (a : TableAction) (h : ∀ v ∈ a.literals, v.Restorable) :
    reader.Restores a.toJson a := by
  cases a with
  | add table =>
    exact JsonVariant.restores_within_form addForm [some table.toJson] table rfl rfl
      (.required (table.restores h) .done) (by decide) (by decide)
  | remove name previous =>
    exact JsonVariant.restores_within_form removeForm
      [some (.text name), some previous.toJson] (name, previous) rfl rfl
      (.required (restores_string name) <| .required (previous.restores h) .done) (by decide)
      (by decide)
  | change edit =>
    rw [toJson, edit.members_eq]
    exact JsonVariant.restores_within_form _ _ edit rfl rfl (edit.fills h) (by decide) (by decide)

end TableAction

namespace SchemaPatch

/-- The values that a patch holds literally. -/
def literals (p : SchemaPatch) : List Json :=
  p.actions.flatMap TableAction.literals

theorem restores (p : SchemaPatch) (h : ∀ v ∈ p.literals, v.Restorable) :
    reader.Restores p.toJson p := by
  have actions_restore := restores_list TableAction.toJson p.actions
    fun a ha => a.restores fun v hv => h v (List.mem_flatMap.mpr ⟨a, ha, hv⟩)
  exact JsonForm.restores form [some (.text p.fromVersion), some (.text p.toVersion),
      some (.list (p.actions.map TableAction.toJson))]
    (.required (restores_string _) <| .required (restores_string _) <|
      .required actions_restore .done) (by decide)

end SchemaPatch

/-! ## Migrations -/

theorem Diagnostic.restores (d : Diagnostic) : reader.Restores d.toJson d :=
  JsonForm.restores form [some d.dialect.toJson, some (.text d.table), some (.text d.message)]
    (.required d.dialect.restores <| .required (restores_string _) <|
      .required (restores_string _) .done) (by decide)

theorem Routine.restores (r : Routine) : reader.Restores r.toJson r := by
  cases r with
  | statements sqls =>
    exact JsonVariant.restores_beside (by decide) rfl ((restores_texts sqls).map _)
  | batches groups =>
    exact JsonVariant.restores_beside (by decide) rfl
      ((restores_list Json.texts groups fun sqls _ => restores_texts sqls).map _)

theorem RoutinePair.restores (p : RoutinePair) : reader.Restores p.toJson p :=
  JsonForm.restores form [some p.up.toJson, some p.down.toJson]
    (.required p.up.restores <| .required p.down.restores .done) (by decide)

namespace Migration

/-- The values that a migration holds literally. -/
def literals (m : Migration) : List Json :=
  m.up.literals ++ m.down.literals

theorem restores (m : Migration) (h : ∀ v ∈ m.literals, v.Restorable) :
    reader.Restores m.toJson m := by
  have written : m.toJson = .object (JsonForm.members form.fields
      [some (.text m.format), some (.text m.name), some m.up.toJson, some m.down.toJson,
        some m.postgres.toJson, some m.spanner.toJson,
        if (m.diagnostics.map Diagnostic.toJson).isEmpty then none
          else some (.list (m.diagnostics.map Diagnostic.toJson))]) := by
    obtain ⟨format, name, up, down, postgres, spanner, diagnostics⟩ := m
    cases diagnostics <;> rfl
  have up_restores := m.up.restores fun v hv => h v (List.mem_append_left _ hv)
  have down_restores := m.down.restores fun v hv => h v (List.mem_append_right _ hv)
  rw [written]
  exact JsonForm.restores _ _
    (.required (restores_string _) <| .required (restores_string _) <| .required up_restores <|
      .required down_restores <| .required m.postgres.restores <| .required m.spanner.restores <|
      .listed (fun d _ => d.restores) rfl .done) (by decide)

end Migration

/-! ## Whole texts -/

/-- **Documents are read as they were written**, laid out over lines or not: those of migrations and
of schemas. -/
theorem documents_restored :
    (∀ m : Migration, (∀ v ∈ m.literals, v.Restorable) →
      m.toJson.depth ≤ JsonAccess.maxLevels →
        Migration.ofText m.toText = .ok m ∧ Migration.ofText m.toJson.compact = .ok m) ∧
      ∀ s : Schema, (∀ v ∈ s.literals, v.Restorable) →
        s.toJson.depth ≤ JsonAccess.maxLevels →
          Schema.ofText s.toText = .ok s ∧ Schema.ofText s.toJson.compact = .ok s :=
  ⟨fun m plain shallow => (m.restores plain).readText shallow,
    fun s plain shallow => (s.restores plain).readText shallow⟩

namespace Shop

/-- Goods with a key made by SQL, a note that is `null` at first and a label of nested data. -/
def goods : Schema :=
  .withTable .empty <| (Table.empty "goods")
    |>.withColumn (((Column.plain "id" .uuid ⟨"uuid", "STRING(36)"⟩).withDefault
        (.expression "gen_random_uuid()")).inPrimaryKey)
    |>.withColumn ((Column.plain "note" .json ⟨"jsonb", "JSON"⟩).withDefault
        (.literal (.of .null)))
    |>.withColumn ((Column.plain "label" .json ⟨"jsonb", "JSON"⟩).withDefault
        (.literal (.of (.object [("tags", .list [.text "\"new\"\n", .bool true]),
          (embeddingName, .null), ("", .list [])]))))

/-- A migration that makes the goods. -/
def stocking : Migration where
  format := Migration.currentFormat
  name := "goods"
  up := .between .empty goods
  down := .between goods .empty
  postgres := ⟨.statements ["CREATE TABLE goods ();"], .statements []⟩
  spanner := ⟨.batches [["CREATE TABLE goods () PRIMARY KEY ()"], []], .batches []⟩
  diagnostics := [⟨.spanner, "goods", "\u001f"⟩]

/-- A default that is `null` is not lost, and one that names an embedded text, but not first, is
kept as it is. -/
theorem documents_restored_goods :
    (∀ v ∈ stocking.literals, v.Restorable) ∧ stocking.toJson.depth ≤ JsonAccess.maxLevels ∧
      (∀ v ∈ goods.literals, v.Restorable) ∧ goods.toJson.depth ≤ JsonAccess.maxLevels ∧
      Migration.ofText stocking.toText = .ok stocking ∧
      Migration.ofText stocking.toJson.compact = .ok stocking ∧
      Schema.ofText goods.toText = .ok goods ∧ Schema.ofText goods.toJson.compact = .ok goods := by
  have plain : ∀ v ∈ stocking.literals, v.Restorable := by decide
  have shallow : stocking.toJson.depth ≤ JsonAccess.maxLevels := by decide
  have goods_plain : ∀ v ∈ goods.literals, v.Restorable := by decide
  have goods_shallow : goods.toJson.depth ≤ JsonAccess.maxLevels := by decide
  have restored := documents_restored.1 stocking plain shallow
  have goods_restored := documents_restored.2 goods goods_plain goods_shallow
  exact ⟨plain, shallow, goods_plain, goods_shallow, restored.1, restored.2, goods_restored.1,
    goods_restored.2⟩

/-- A schema with a default whose first member names an embedded text. -/
def announced : Schema :=
  .withTable .empty <| (Table.empty "a").withColumn <|
    (Column.plain "b" .json ⟨"jsonb", "JSON"⟩).withDefault <|
      .literal (.of (.object [(embeddingName, .text "1"), ("a", .bool true)]))

theorem whole_announced : announced.toJson.Whole := by
  decide

theorem reader_announced :
    Schema.reader (.streamed JsonAccess.maxLevels) (.ofJson announced.toJson) =
      .error .malformed :=
  rfl

/-- Such a default is read as the embedded text, which nothing may follow: the document of the
schema is not read at all. -/
theorem not_restored_announced :
    (∀ v ∈ announced.literals, v.Whole) ∧ announced.toJson.depth ≤ JsonAccess.maxLevels ∧
      Schema.ofText announced.toText ≠ .ok announced := by
  refine ⟨by decide, by decide, ?_⟩
  rw [Schema.ofText, Schema.toText, JsonReader.readText_pretty whole_announced, reader_announced]
  exact nofun

end Shop

end SchemaEvolution
