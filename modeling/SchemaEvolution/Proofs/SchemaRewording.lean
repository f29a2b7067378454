import SchemaEvolution.Proofs.ContentRewording
import SchemaEvolution.Proofs.Documents
import SchemaEvolution.Proofs.Minimal
import SchemaEvolution.Proofs.RecordRewording

/-!
# Schemas in other words

Each kind of record in the document of a schema has its layout, which describes its reader; the
lemmas go through the fields in their order. So the text of a schema and a text that says it in
other words (`Schema.Rewords`) are read as one schema, and nothing leads from a schema to itself.

The value of a default is data, so the order of its members is not quite free.
-/

namespace SchemaEvolution

open JsonReader (readsScalars_string readsScalars_bool describes_choice)

/-- A text is read exactly if its value is, and nothing stands behind it. -/
theorem JsonReader.readText_eq_ok {α : Type} {r : JsonReader α} {text : String} {x : α} :
    r.readText text = .ok x ↔ (JsonNode.ofText text).2 = true ∧
      r (.streamed JsonAccess.maxLevels) (JsonNode.ofText text).1 = .ok x := by
  rw [readText, bind_eq_ok]
  cases (JsonNode.ofText text).2 <;> simp [pure, Except.pure]

/-! ## Columns -/

namespace PhysicalType

/-- What stands where in the types of a column. -/
def layout : Layout :=
  .record [("postgres", false, .plain), ("spanner", false, .plain)]

theorem describes : layout.Describes reader :=
  JsonForm.Laid.describes
    ⟨.cons (.required (readsScalars_string.describes _)) <|
      .cons (.required (readsScalars_string.describes _)) .nil,
    by decide, by simp [form, JsonField.required]⟩

end PhysicalType

namespace ColumnDefault

/-- What stands where in a default. -/
def layout : Layout :=
  .beside "kind" "value" .data

theorem describes : layout.Describes reader := by
  refine JsonVariant.describes_beside (by decide) ?_ ?_
  · rw [List.forall_mem_cons, List.forall_mem_cons, List.forall_mem_singleton]
    exact ⟨JsonReader.holdsBack_data.map _, JsonReader.holdsBack_string.map _,
      JsonVariant.Content.holdsBack_none _⟩
  · rw [List.forall_mem_cons, List.forall_mem_cons, List.forall_mem_singleton]
    exact ⟨Layout.describes_data.map _, (readsScalars_string.describes _).map _,
      (JsonVariant.Content.readsScalars_none _).describes _⟩

end ColumnDefault

namespace Reference

/-- What stands where in a foreign key. -/
def layout : Layout :=
  .record [("table", false, .plain), ("column", false, .plain), ("name", true, .plain),
    ("onDelete", true, .plain)]

theorem describes : layout.Describes reader :=
  JsonForm.Laid.describes
    ⟨.cons (.required (readsScalars_string.describes _)) <|
      .cons (.required (readsScalars_string.describes _)) <|
      .cons (.optional (readsScalars_string.describes _) rfl) <|
      .cons (.optional (describes_choice _) rfl) .nil,
    by decide, by simp [form, JsonField.required, JsonField.optional]⟩

end Reference

namespace Column

/-- What stands where in a column. -/
def layout : Layout :=
  .record [("name", false, .plain), ("columnType", false, .plain),
    ("dialectTypes", false, PhysicalType.layout), ("nullable", false, .plain),
    ("default", true, ColumnDefault.layout), ("primaryKey", false, .plain),
    ("unique", false, .plain), ("foreignKey", true, Reference.layout)]

theorem describes : layout.Describes reader :=
  JsonForm.Laid.describes
    ⟨.cons (.required (readsScalars_string.describes _)) <|
      .cons (.required (describes_choice _)) <| .cons (.required PhysicalType.describes) <|
      .cons (.defaulted (readsScalars_bool.describes _)) <|
      .cons (.optional ColumnDefault.describes rfl) <|
      .cons (.defaulted (readsScalars_bool.describes _)) <|
      .cons (.defaulted (readsScalars_bool.describes _)) <|
      .cons (.optional Reference.describes rfl) .nil,
    by decide, by simp [form, JsonField.required, JsonField.defaulted, JsonField.optional]⟩

end Column

/-! ## Tables and schemas -/

namespace Index

/-- What stands where in an index. -/
def layout : Layout :=
  .record [("name", true, .plain), ("columns", false, .list .plain), ("unique", false, .plain)]

theorem describes : layout.Describes reader :=
  JsonForm.Laid.describes
    ⟨.cons (.optional (readsScalars_string.describes _) rfl) <|
      .cons (.required (readsScalars_string.describes _).list) <|
      .cons (.defaulted (readsScalars_bool.describes _)) .nil,
    by decide, by simp [form, JsonField.required, JsonField.defaulted, JsonField.optional]⟩

end Index

namespace CompositeKey

/-- What stands where in a declared primary key. -/
def layout : Layout :=
  .record [("name", true, .plain), ("columns", false, .list .plain)]

theorem describes : layout.Describes reader :=
  JsonForm.Laid.describes
    ⟨.cons (.optional (readsScalars_string.describes _) rfl) <|
      .cons (.required (readsScalars_string.describes _).list) .nil,
    by decide, by simp [form, JsonField.required, JsonField.optional]⟩

end CompositeKey

namespace Interleave

/-- What stands where in an interleaving. -/
def layout : Layout :=
  .record [("parent", false, .plain), ("onDelete", false, .plain)]

theorem describes : layout.Describes reader :=
  JsonForm.Laid.describes
    ⟨.cons (.required (readsScalars_string.describes _)) <|
      .cons (.required (describes_choice _)) .nil,
    by decide, by simp [form, JsonField.required]⟩

end Interleave

namespace Table

/-- What stands where in a table. -/
def layout : Layout :=
  .record [("name", false, .plain), ("columns", false, .map Column.layout),
    ("indexes", false, .list Index.layout), ("primaryKey", true, CompositeKey.layout),
    ("interleave", true, Interleave.layout)]

theorem describes : layout.Describes reader :=
  JsonForm.Laid.describes
    ⟨.cons (.required (readsScalars_string.describes _)) <|
      .cons (.required Column.describes.nameMap) <| .cons (.defaulted Index.describes.list) <|
      .cons (.optional CompositeKey.describes rfl) <|
      .cons (.optional Interleave.describes rfl) .nil,
    by decide, by simp [form, JsonField.required, JsonField.defaulted, JsonField.optional]⟩

end Table

namespace Schema

/-- What stands where in a schema. -/
def layout : Layout :=
  .record [("version", false, .plain), ("tables", false, .map Table.layout)]

theorem describes : layout.Describes reader :=
  JsonForm.Laid.describes
    ⟨.cons (.required (readsScalars_string.describes _)) <|
      .cons (.defaulted Table.describes.nameMap) .nil,
    by decide, by simp [form, JsonField.required, JsonField.defaulted]⟩

/-- A text says in other words what another text of a schema says: nothing stands behind its value,
and this is that of the other, put in other ways time and again. -/
def Rewords (text text' : String) : Prop :=
  (JsonNode.ofText text').2 = true ∧
    Relation.ReflTransGen (Reworded layout) (JsonNode.ofText text).1 (JsonNode.ofText text').1

/-- **Schemas are read the same in other words**, and so there is nothing to do between them. -/
theorem ofText_rewords {text text' : String} (rewords : Rewords text text') {s : Schema}
    (read : ofText text = .ok s) :
    ∃ s', ofText text' = .ok s' ∧ s' = s ∧ (SchemaPatch.between s s').isEmpty = true ∧
      (SchemaPatch.between s' s).isEmpty = true := by
  have nothing := SchemaPatch.isEmpty_between_self s
  have tree := (JsonReader.readText_eq_ok.mp read).2
  exact ⟨s, JsonReader.readText_eq_ok.mpr ⟨rewords.1, describes.many rewords.2 tree⟩, rfl, nothing,
    nothing⟩

end Schema

namespace Shop

/-- The document of a column with a default, behind more members. -/
def labelColumn (more : List (String × Json)) (default : Json) : Json :=
  .object (more ++ [("name", .text "b"), ("columnType", .text "json"),
    ("dialectTypes", PhysicalType.toJson ⟨"jsonb", "JSON"⟩), ("default", default)])

/-- The document of a schema with one column in one table. -/
def labelDocument (column : Json) : Json :=
  .object [("version", .text "1"), ("tables", .object [("a", .object [("name", .text "a"),
    ("columns", .object [("b", column)])])])]

/-- The document of an object that is a default. -/
def labelDefault (members : List (String × Json)) : Json :=
  .object [("kind", .text "literal"), ("value", .object members)]

theorem reworded_labelDocument {column column' : Json}
    (h : Reworded Column.layout (.ofJson column) (.ofJson column')) :
    Reworded Schema.layout (.ofJson (labelDocument column)) (.ofJson (labelDocument column')) :=
  @Reworded.member _ _ [(some "version", .text (some "1"))] [] "tables" _ _ rfl <|
    @Reworded.member _ _ [] [] "a" _ _ rfl <|
    @Reworded.member _ _ [(some "name", .text (some "a"))] [] "columns" _ _ rfl <|
    @Reworded.member _ _ [] [] "b" _ _ rfl h

/-- A schema with an object as a default. -/
def labelled : Schema :=
  .withTable .empty <| (Table.empty "a").withColumn <|
    (Column.plain "b" .json ⟨"jsonb", "JSON"⟩).withDefault <|
      .literal (.of (.object [("a", .bool true), ("b", .null)]))

/-- The default with its content before its tag, and the members of its object in another order. -/
def turnedDefault : Json :=
  .object [("value", .object [("b", .null), ("a", .bool true)]), ("kind", .text "literal")]

/-- The document of `labelled` in other words: it begins with its tables, its default is turned
around, and its column has a member of no meaning and no foreign key. -/
def turnedDocument : Json :=
  .object [("tables", .object [("a", .object [("name", .text "a"),
    ("columns", .object [("b", labelColumn
      [("foreignKey", .null), ("comment", .list [.text "new"])] turnedDefault)])])]),
    ("version", .text "1")]

theorem rewords_turned : Schema.Rewords
    (labelDocument (labelColumn [] (labelDefault [("a", .bool true), ("b", .null)]))).pretty
      turnedDocument.compact := by
  rw [Schema.Rewords, JsonNode.ofText_pretty (by decide), JsonNode.ofText_compact (by decide)]
  refine ⟨rfl, ?_⟩
  have inColumn {d d' : Json} (h : Reworded ColumnDefault.layout (.ofJson d) (.ofJson d')) :
      Reworded Schema.layout (.ofJson (labelDocument (labelColumn [] d)))
        (.ofJson (labelDocument (labelColumn [] d'))) :=
    reworded_labelDocument <| @Reworded.member _ _ [(some "name", .text (some "b")),
      (some "columnType", .text (some "json")),
      (some "dialectTypes", .ofJson (PhysicalType.toJson ⟨"jsonb", "JSON"⟩))] [] "default" _ _ rfl h
  have members : Reworded ColumnDefault.layout
      (.ofJson (labelDefault [("a", .bool true), ("b", .null)]))
      (.ofJson (labelDefault [("b", .null), ("a", .bool true)])) :=
    @Reworded.member _ _ [(some "kind", .text (some "literal"))] [] "value" _ _ rfl <|
      .permuted (.swap _ _ _) (by decide) fun _ => rfl
  have content : Reworded ColumnDefault.layout
      (.ofJson (labelDefault [("b", .null), ("a", .bool true)])) (.ofJson turnedDefault) :=
    .permuted (.swap _ _ _) (by decide) nofun
  have comment : Reworded Column.layout (.ofJson (labelColumn [] turnedDefault))
      (.ofJson (labelColumn [("comment", .list [.text "new"])] turnedDefault)) :=
    @Reworded.added _ [] _ "comment" _ rfl rfl
  have foreignKey : Reworded Column.layout
      (.ofJson (labelColumn [("comment", .list [.text "new"])] turnedDefault))
      (.ofJson (labelColumn [("foreignKey", .null), ("comment", .list [.text "new"])]
        turnedDefault)) :=
    @Reworded.nullAdded _ [] _ "foreignKey" rfl (by decide)
  have turned : Reworded Schema.layout (.ofJson (labelDocument (labelColumn
      [("foreignKey", .null), ("comment", .list [.text "new"])] turnedDefault)))
      (.ofJson turnedDocument) :=
    .permuted (.swap _ _ _) (by decide) nofun
  exact .tail (.tail (.tail (.tail (.single (inColumn members)) (inColumn content))
    (reworded_labelDocument comment)) (reworded_labelDocument foreignKey)) turned

/-- `labelled` is read from its document in the usual words, so it is read from `turnedDocument`. -/
theorem ofText_rewords_turned :
    Schema.ofText
        (labelDocument (labelColumn [] (labelDefault [("a", .bool true), ("b", .null)]))).pretty =
      .ok labelled ∧ ∃ s, Schema.ofText turnedDocument.compact = .ok s ∧ s = labelled ∧
        (SchemaPatch.between labelled s).isEmpty = true ∧
        (SchemaPatch.between s labelled).isEmpty = true := by
  have read : Schema.ofText
      (labelDocument (labelColumn [] (labelDefault [("a", .bool true), ("b", .null)]))).pretty =
        .ok labelled := by
    rw [Schema.ofText, JsonReader.readText_pretty (by decide)]
    rfl
  exact ⟨read, Schema.ofText_rewords rewords_turned read⟩

/-- The members of a default with one of the name that announces an embedded text. -/
def announcing : List (String × Json) :=
  [("a", .bool true), (embeddingName, .text "1")]

/-- The members of a default may not stand in any order: the schema is read where the name that
announces an embedded text stands second, and refused where it stands first. -/
theorem embedding_order :
    announcing.Perm announcing.reverse ∧ (announcing.map Prod.fst).Nodup ∧
      Schema.ofText (labelDocument (labelColumn [] (labelDefault announcing))).pretty =
        .ok announced ∧
      Schema.ofText (labelDocument (labelColumn [] (labelDefault announcing.reverse))).pretty =
        .error .malformed := by
  refine ⟨(List.reverse_perm _).symm, by decide, ?_, ?_⟩
  · rw [Schema.ofText, JsonReader.readText_pretty (by decide)]
    rfl
  · rw [Schema.ofText, JsonReader.readText_pretty (by decide)]
    rfl

end Shop

end SchemaEvolution
