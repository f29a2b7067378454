import SchemaEvolution.Proofs.JsonTree
import SchemaEvolution.Proofs.NameMap
import SchemaEvolution.Schema.Document

/-!
# Readers that restore what was written

A reader restores a value from a JSON value (`JsonReader.Restores`) if it reads the one from the
other however the tree is accessed: straight from a text, as deep as that allows, or from what was
held back. One lemma for each way to put readers together says what the whole restores when its
parts do. A record is restored from an object that has its fields in order, less those that may be
left out (`JsonForm.Fills`).

Data is restored unless an object in it begins with the name that announces an embedded text
(`Json.Restorable`): such an object is read for what its text says.
-/

namespace SchemaEvolution

/-! ## Access -/

/-- Whether a value is not too deep to be read. -/
def JsonAccess.Allows : JsonAccess → Json → Prop
  | .streamed levels, j => j.depth ≤ levels
  | .held, _ => True

namespace JsonAccess

variable {a : JsonAccess}

theorem holds_of_allows {j : Json} (h : a.Allows j) : a.holds (.ofJson j) = true := by
  cases a with
  | streamed levels =>
    rw [holds, JsonNode.value?_ofJson]
    exact decide_eq_true h
  | held => rfl

/-- What lies within a list that is not too deep is not too deep itself. -/
theorem enter_list {items : List Json} (h : a.Allows (.list items)) :
    ∃ inner, a.enter = .ok inner ∧ ∀ item ∈ items, inner.Allows item := by
  cases a with
  | streamed levels =>
    cases levels with
    | zero => exact absurd h (Nat.not_succ_le_zero _)
    | succ levels =>
      exact ⟨.streamed levels, rfl, fun item hitem =>
        Nat.le_of_succ_le_succ (Nat.le_trans (Json.depth_item_le hitem) h)⟩
  | held => exact ⟨.held, rfl, fun _ _ => trivial⟩

theorem enter_object {members : List (String × Json)} (h : a.Allows (.object members)) :
    ∃ inner, a.enter = .ok inner ∧ ∀ m ∈ members, inner.Allows m.2 := by
  cases a with
  | streamed levels =>
    cases levels with
    | zero => exact absurd h (Nat.not_succ_le_zero _)
    | succ levels =>
      exact ⟨.streamed levels, rfl, fun m hm =>
        Nat.le_of_succ_le_succ (Nat.le_trans (Json.depth_member_le hm) h)⟩
  | held => exact ⟨.held, rfl, fun _ _ => trivial⟩

end JsonAccess

namespace Json

theorem itemsWhole_iff {items : List Json} : ItemsWhole items ↔ ∀ item ∈ items, item.Whole := by
  induction items with
  | nil => simp [ItemsWhole]
  | cons item rest ih => simp [ItemsWhole, ih]

theorem membersWhole_iff {members : List (String × Json)} :
    MembersWhole members ↔ ∀ m ∈ members, m.2.Whole := by
  induction members with
  | nil => simp [MembersWhole]
  | cons m rest ih => simp [MembersWhole, ih]

end Json

namespace JsonReader

variable {α β : Type}

/-- A reader restores a value from a JSON value without doubles: it reads the one from the other if
that is not too deep. -/
structure Restores (r : JsonReader α) (j : Json) (x : α) : Prop where
  whole : j.Whole
  reads : ∀ a, a.Allows j → r a (.ofJson j) = .ok x

variable {r : JsonReader α} {j : Json} {x : α}

theorem Restores.readText (h : r.Restores j x) (shallow : j.depth ≤ JsonAccess.maxLevels) :
    r.readText j.pretty = .ok x ∧ r.readText j.compact = .ok x := by
  rw [readText_pretty h.whole, readText_compact h.whole]
  exact ⟨h.reads _ shallow, h.reads _ shallow⟩

/-! ## Strings, flags and lists -/

theorem restores_string (s : String) : string.Restores (.text s) s :=
  ⟨trivial, fun _ _ => rfl⟩

theorem restores_bool (b : Bool) : bool.Restores (.bool b) b :=
  ⟨trivial, fun _ _ => rfl⟩

theorem Restores.map (h : r.Restores j x) (f : α → β) : (r.map f).Restores j (f x) where
  whole := h.whole
  reads a ha := by
    rw [JsonReader.map, h.reads a ha]
    rfl

theorem restores_null : r.optional.Restores .null none :=
  ⟨trivial, fun _ _ => rfl⟩

theorem Restores.optional (h : r.Restores j x) (something : j ≠ .null) :
    r.optional.Restores j (some x) where
  whole := h.whole
  reads a ha := by
    have read := h.reads a ha
    cases j with
    | null => exact absurd rfl something
    | _ => exact congrArg (Except.map some) read

/-- A value that is `null` when there is none. -/
theorem restores_orNull {write : α → Json} {value : Option α}
    (h : ∀ x ∈ value, r.Restores (write x) x) (something : ∀ x, write x ≠ .null) :
    r.optional.Restores (Json.orNull (value.map write)) value := by
  cases value with
  | none => exact restores_null
  | some x => exact (h x rfl).optional (something x)

theorem readItems_ok {write : α → Json} {xs : List α} {a : JsonAccess}
    (h : ∀ x ∈ xs, r.Restores (write x) x) (allows : ∀ item ∈ xs.map write, a.Allows item) :
    readItems r a (JsonNode.ofItems (xs.map write)) = .ok xs := by
  induction xs with
  | nil => rfl
  | cons x rest ih =>
    have first := (h x List.mem_cons_self).reads a (allows _ List.mem_cons_self)
    have others := ih (fun x hx => h x (List.mem_cons_of_mem _ hx))
      fun item hitem => allows item (List.mem_cons_of_mem _ hitem)
    rw [List.map_cons, JsonNode.ofItems, readItems, first, others]
    rfl

theorem restores_list (write : α → Json) (xs : List α) (h : ∀ x ∈ xs, r.Restores (write x) x) :
    (list r).Restores (.list (xs.map write)) xs where
  whole := Json.itemsWhole_iff.mpr fun item hitem => by
    obtain ⟨x, hx, rfl⟩ := List.mem_map.mp hitem
    exact (h x hx).whole
  reads a ha := by
    obtain ⟨inner, entered, allows⟩ := JsonAccess.enter_list ha
    rw [JsonNode.ofJson, list, entered]
    change (readItems r inner _ >>= _) = _
    rw [readItems_ok h allows]
    rfl

theorem restores_texts (items : List String) : (list string).Restores (Json.texts items) items :=
  restores_list .text items fun s _ => restores_string s

/-! ## Maps -/

theorem readMembers_ok {write : α → Json} {entries : List (String × α)} {a : JsonAccess}
    (h : ∀ e ∈ entries, r.Restores (write e.2) e.2)
    (allows : ∀ m ∈ entries.map fun e => (e.1, write e.2), a.Allows m.2) :
    readMembers r a (JsonNode.ofMembers (entries.map fun e => (e.1, write e.2))) =
      .ok entries := by
  induction entries with
  | nil => rfl
  | cons e rest ih =>
    have first := (h e List.mem_cons_self).reads a (allows _ List.mem_cons_self)
    have others := ih (fun e he => h e (List.mem_cons_of_mem _ he))
      fun m hm => allows m (List.mem_cons_of_mem _ hm)
    rw [List.map_cons, JsonNode.ofMembers, readMembers, first, others]
    rfl

/-- A map is restored from its entries in their order. -/
theorem restores_nameMap (write : α → Json) (m : NameMap α)
    (h : ∀ e ∈ m.entries, r.Restores (write e.2) e.2) :
    (nameMap r).Restores (.object (m.entries.map fun e => (e.1, write e.2))) m where
  whole := Json.membersWhole_iff.mpr fun member hmember => by
    obtain ⟨e, he, rfl⟩ := List.mem_map.mp hmember
    exact (h e he).whole
  reads a ha := by
    obtain ⟨inner, entered, allows⟩ := JsonAccess.enter_object ha
    rw [JsonNode.ofJson, nameMap, entered]
    change (readMembers r inner _ >>= _) = _
    rw [readMembers_ok h allows]
    change Except.ok (NameMap.ofList m.entries) = _
    rw [NameMap.ofList_entries]

/-! ## Choices -/

theorem restores_choice {choices : List (String × α)} {name : String}
    (h : choices.lookup name = some x) : (choice choices).Restores (.text name) x where
  whole := trivial
  reads a _ := by
    change choose choices name = _
    rw [choose, h]

end JsonReader

/-! ## Records -/

namespace JsonForm

variable {α β : Type}

/-- The members of an object with the given values of fields, less those that are left out. -/
def members : List (JsonField α) → List (Option Json) → List (String × Json)
  | field :: fields, some j :: values => (field.name, j) :: members fields values
  | _ :: fields, none :: values => members fields values
  | _, _ => []

/-- What is restored field by field, from a record on. A field that is left out leaves the record
alone. -/
inductive Fills : List (JsonField α) → List (Option Json) → α → α → Prop where
  | done {x : α} : Fills [] [] x x
  | given {field : JsonField α} {fields : List (JsonField α)} {j : Json}
    {values : List (Option Json)} {update : α → α} {record x : α}
    (restores : field.fill.Restores j update) (others : Fills fields values (update record) x) :
    Fills (field :: fields) (some j :: values) record x
  | omitted {field : JsonField α} {fields : List (JsonField α)} {values : List (Option Json)}
    {record x : α} (presence : field.presence ≠ .required) (others : Fills fields values record x) :
    Fills (field :: fields) (none :: values) record x

theorem mem_members {fields : List (JsonField α)} {values : List (Option Json)}
    {m : String × Json} (h : m ∈ members fields values) : m.1 ∈ fields.map (·.name) := by
  induction fields generalizing values with
  | nil => cases h
  | cons field fields ih =>
    rcases values with _ | ⟨_ | j, values⟩
    · cases h
    · exact List.mem_cons_of_mem _ (ih h)
    · obtain rfl | h := List.mem_cons.mp h
      · exact List.mem_cons_self
      · exact List.mem_cons_of_mem _ (ih h)

namespace Fills

variable {fields : List (JsonField α)} {values : List (Option Json)} {record x : α} {name : String}
  {r : JsonReader β}

theorem whole (h : Fills fields values record x) : Json.MembersWhole (members fields values) := by
  induction h with
  | done => trivial
  | given restores _ ih => exact ⟨restores.whole, ih⟩
  | omitted _ _ ih => exact ih

/-! ### The kinds of fields -/

theorem required {j : Json} {v : β} {set : β → α → α} (h : r.Restores j v)
    (others : Fills fields values (set v record) x) :
    Fills (.required name r set :: fields) (some j :: values) record x :=
  .given (h.map set) others

/-- A field that could be left out, but is not. -/
theorem defaulted {j : Json} {v : β} {set : β → α → α} (h : r.Restores j v)
    (others : Fills fields values (set v record) x) :
    Fills (.defaulted name r set :: fields) (some j :: values) record x :=
  .given (h.map set) others

/-- A field that is left out when it says what the record says anyway. -/
theorem absent {set : β → α → α} (others : Fills fields values record x) :
    Fills (.defaulted name r set :: fields) (none :: values) record x :=
  .omitted nofun others

/-- A field that is left out when there is nothing to write. -/
theorem optional {write : β → Json} {value : Option β} {set : Option β → α → α}
    (h : ∀ v ∈ value, r.Restores (write v) v) (something : ∀ v, write v ≠ .null)
    (blank : set none record = record) (others : Fills fields values (set value record) x) :
    Fills (.optional name r set :: fields) (value.map write :: values) record x := by
  cases value with
  | none => exact .omitted nofun (blank ▸ others)
  | some v => exact .given (((h v rfl).optional (something v)).map set) others

/-- A field that is `null` when there is nothing to write. -/
theorem nullable {write : β → Json} {value : Option β} {set : Option β → α → α}
    (h : ∀ v ∈ value, r.Restores (write v) v) (something : ∀ v, write v ≠ .null)
    (others : Fills fields values (set value record) x) :
    Fills (.nullable name r set :: fields) (some (Json.orNull (value.map write)) :: values) record
      x :=
  .given ((JsonReader.restores_orNull h something).map set) others

/-- A list that is left out when it is empty. -/
theorem listed {write : β → Json} {items : List β} {set : List β → α → α}
    (h : ∀ v ∈ items, r.Restores (write v) v) (blank : set [] record = record)
    (others : Fills fields values (set items record) x) :
    Fills (.defaulted name (.list r) set :: fields)
      ((if (items.map write).isEmpty then none else some (.list (items.map write))) :: values)
      record x := by
  cases items with
  | nil => exact .omitted nofun (blank ▸ others)
  | cons v rest => exact .given ((JsonReader.restores_list write _ h).map set) others

end Fills

/-! ### The whole record -/

/-- A field is found under its name. -/
theorem find?_field {fields : List (JsonField α)} (distinct : (fields.map (·.name)).Nodup)
    {field : JsonField α} (h : field ∈ fields) :
    fields.find? (·.name == field.name) = some field := by
  induction fields with
  | nil => cases h
  | cons first rest ih =>
    obtain ⟨notLater, distinct⟩ := List.nodup_cons.mp distinct
    obtain rfl | h := List.mem_cons.mp h
    · exact List.find?_cons_of_pos (beq_self_eq_true _)
    · rw [List.find?_cons_of_neg, ih distinct h]
      rw [beq_iff_eq]
      exact fun same => notLater (List.mem_map.mpr ⟨field, h, same.symm⟩)

/-- Fields whose names are new are filled in, and then all required ones are there. -/
theorem readMembers_ok {form : JsonForm α} (distinct : (form.fields.map (·.name)).Nodup)
    {fields : List (JsonField α)} {values : List (Option Json)} {record x : α}
    (h : Fills fields values record x) {a : JsonAccess} (seen : List String)
    (known : ∀ field ∈ fields, field ∈ form.fields) (apart : (fields.map (·.name)).Nodup)
    (new : ∀ field ∈ fields, field.name ∉ seen)
    (allows : ∀ m ∈ members fields values, a.Allows m.2) :
    ∃ seen', form.readMembers a (JsonNode.ofMembers (members fields values)) seen record =
        .ok (seen', x) ∧ (∀ name ∈ seen, name ∈ seen') ∧
      ∀ field ∈ fields, field.presence = .required → field.name ∈ seen' := by
  induction h generalizing seen with
  | done => exact ⟨seen, rfl, fun _ h => h, nofun⟩
  | @given field fields j values update record x restores _ ih =>
    obtain ⟨notLater, apart⟩ := List.nodup_cons.mp apart
    have newer : ∀ other ∈ fields, other.name ∉ field.name :: seen := fun other hother hin => by
      obtain same | hin := List.mem_cons.mp hin
      · exact notLater (List.mem_map.mpr ⟨other, hother, same⟩)
      · exact new other (List.mem_cons_of_mem _ hother) hin
    obtain ⟨seen', read, kept, there⟩ := ih (field.name :: seen)
      (fun f hf => known f (List.mem_cons_of_mem _ hf)) apart newer
      fun m hm => allows m (List.mem_cons_of_mem _ hm)
    refine ⟨seen', ?_, fun name hname => kept name (List.mem_cons_of_mem _ hname), ?_⟩
    · rw [members, JsonNode.ofMembers, readMembers,
        find?_field distinct (known field List.mem_cons_self)]
      dsimp only
      rw [if_neg (new field List.mem_cons_self),
        restores.reads a (allows (field.name, j) List.mem_cons_self)]
      exact read
    · intro other hother presence
      obtain rfl | hother := List.mem_cons.mp hother
      · exact kept _ List.mem_cons_self
      · exact there other hother presence
  | @omitted field fields values record x presence _ ih =>
    obtain ⟨seen', read, kept, there⟩ := ih seen
      (fun f hf => known f (List.mem_cons_of_mem _ hf)) (List.nodup_cons.mp apart).2
      (fun f hf => new f (List.mem_cons_of_mem _ hf)) allows
    refine ⟨seen', read, kept, fun other hother required => ?_⟩
    obtain rfl | hother := List.mem_cons.mp hother
    · exact absurd required presence
    · exact there other hother required

/-- **A record is restored from an object with its fields**, in their order. -/
theorem restores (form : JsonForm α) (values : List (Option Json)) {x : α}
    (h : Fills form.fields values form.blank x) (distinct : (form.fields.map (·.name)).Nodup) :
    form.read.Restores (.object (members form.fields values)) x where
  whole := h.whole
  reads a ha := by
    obtain ⟨inner, entered, allows⟩ := JsonAccess.enter_object ha
    obtain ⟨seen, read, -, there⟩ := readMembers_ok distinct h [] (fun _ hf => hf) distinct
      (fun _ _ => nofun) allows
    have complete : form.missing? seen = none := by
      rw [missing?, Option.map_eq_none_iff, List.find?_eq_none]
      intro field hfield missing
      rw [decide_eq_true_eq] at missing
      exact missing.2 (there field hfield missing.1)
    rw [JsonNode.ofJson, JsonForm.read, entered]
    change (form.readMembers inner _ [] form.blank >>= _) = _
    rw [read]
    simp only [bind, Except.bind, complete]
    rfl

end JsonForm

/-! ## Alternatives -/

namespace JsonVariant

variable {α : Type}

/-- Members behind the tag are held back as they are. -/
theorem splitTag_ok {tag : String} {variants : List (String × JsonReader α)} {a : JsonAccess}
    {found : Option (JsonReader α)} {members : List (String × Json)}
    (others : ∀ m ∈ members, m.1 ≠ tag) (allows : ∀ m ∈ members, a.Allows m.2) :
    splitTag tag variants a (JsonNode.ofMembers members) found =
      .ok (found, JsonNode.ofMembers members) := by
  induction members with
  | nil => rfl
  | cons m rest ih =>
    have behind := ih (fun m hm => others m (List.mem_cons_of_mem _ hm))
      fun m hm => allows m (List.mem_cons_of_mem _ hm)
    obtain ⟨name, value⟩ := m
    rw [JsonNode.ofMembers]
    unfold splitTag
    rw [if_neg (others _ List.mem_cons_self),
      if_pos (JsonAccess.holds_of_allows (allows _ List.mem_cons_self)), behind]
    rfl

/-- A value is restored from an object with its tag before its fields. -/
theorem restores_within {tag name : String} {variants : List (String × JsonReader α)}
    {r : JsonReader α} {members : List (String × Json)} {x : α}
    (lookup : variants.lookup name = some r) (h : r.Restores (.object members) x)
    (others : ∀ m ∈ members, m.1 ≠ tag) :
    (within tag variants).Restores (.object ((tag, .text name) :: members)) x where
  whole := ⟨trivial, h.whole⟩
  reads a ha := by
    obtain ⟨inner, entered, allows⟩ := JsonAccess.enter_object ha
    have split : splitTag tag variants inner
        (JsonNode.ofMembers ((tag, .text name) :: members)) none =
          .ok (some r, JsonNode.ofMembers members) := by
      rw [JsonNode.ofMembers, splitTag, if_pos rfl]
      change (JsonReader.choose variants name >>= _) = _
      rw [JsonReader.choose, lookup]
      exact splitTag_ok others fun m hm => allows m (List.mem_cons_of_mem _ hm)
    rw [JsonNode.ofJson, within, entered]
    change (splitTag tag variants inner _ none >>= _) = _
    rw [split]
    exact h.reads .held trivial

/-- A record is restored from an object with a tag before its fields. -/
theorem restores_within_form {β : Type} {tag name : String}
    {variants : List (String × JsonReader α)} (form : JsonForm β) (values : List (Option Json))
    {f : β → α} {x : α} (y : β)
    (lookup : variants.lookup name = some (form.read.map f)) (of_record : f y = x)
    (h : JsonForm.Fills form.fields values form.blank y)
    (distinct : (form.fields.map (·.name)).Nodup) (others : tag ∉ form.fields.map (·.name)) :
    (within tag variants).Restores
      (.object ((tag, .text name) :: JsonForm.members form.fields values)) x :=
  of_record ▸ restores_within lookup ((JsonForm.restores form values h distinct).map f)
    fun _ hm same => others (same ▸ JsonForm.mem_members hm)

/-- A value is restored from an object with its tag before its content. -/
theorem restores_beside {tag content name : String} {variants : List (String × Content α)}
    {r : JsonReader α} {j : Json} {x : α} (differ : content ≠ tag)
    (lookup : variants.lookup name = some (.some r)) (h : r.Restores j x) :
    (beside tag content variants).Restores (.object [(tag, .text name), (content, j)]) x where
  whole := ⟨trivial, h.whole, trivial⟩
  reads a ha := by
    obtain ⟨inner, entered, allows⟩ := JsonAccess.enter_object ha
    have first : relevant tag content inner true
        (JsonNode.ofMembers [(tag, .text name), (content, j)]) =
          .ok (.tag (.text (some name)) (JsonNode.ofMembers [(content, j)])) :=
      if_pos rfl
    have second : relevant tag content inner true (JsonNode.ofMembers [(content, j)]) =
        .ok (.content (.ofJson j) []) :=
      (if_neg differ).trans (if_pos rfl)
    rw [JsonNode.ofJson, beside, entered]
    change (relevant tag content inner true _ >>= _) = _
    rw [first]
    change (JsonReader.choose variants name >>= _) = _
    rw [JsonReader.choose, lookup]
    change (relevant tag content inner true _ >>= _) = _
    rw [second]
    change (r inner (.ofJson j) >>= _) = _
    rw [h.reads inner (allows (content, j) (List.mem_cons_of_mem _ List.mem_cons_self))]
    rfl

/-- A value without content is restored from an object with its tag alone. -/
theorem restores_beside_none {tag content name : String} {variants : List (String × Content α)}
    {x : α} (lookup : variants.lookup name = some (.none x)) :
    (beside tag content variants).Restores (.object [(tag, .text name)]) x where
  whole := ⟨trivial, trivial⟩
  reads a ha := by
    obtain ⟨inner, entered, -⟩ := JsonAccess.enter_object ha
    have first : relevant tag content inner true (JsonNode.ofMembers [(tag, .text name)]) =
        .ok (.tag (.text (some name)) []) :=
      if_pos rfl
    rw [JsonNode.ofJson, beside, entered]
    change (relevant tag content inner true _ >>= _) = _
    rw [first]
    change (JsonReader.choose variants name >>= _) = _
    rw [JsonReader.choose, lookup]
    rfl

end JsonVariant

/-! ## Data -/

namespace Json

mutual

/-- A value can be written and read as it is: its numbers are whole, and none of its objects begins
with the name that announces an embedded text. -/
def Restorable : Json → Prop
  | .null | .bool _ | .text _ => True
  | .number n => n.IsWhole
  | .list items => ItemsRestorable items
  | .object members =>
    members.head?.map Prod.fst ≠ some embeddingName ∧ MembersRestorable members

/-- All items can be written and read as they are. -/
def ItemsRestorable : List Json → Prop
  | [] => True
  | item :: rest => item.Restorable ∧ ItemsRestorable rest

/-- The values of all members can be written and read as they are. -/
def MembersRestorable : List (String × Json) → Prop
  | [] => True
  | (_, value) :: rest => value.Restorable ∧ MembersRestorable rest

end

mutual

instance decidableRestorable : (j : Json) → Decidable j.Restorable
  | .null | .bool _ | .text _ => .isTrue trivial
  | .number n => inferInstanceAs (Decidable n.IsWhole)
  | .list items => decidableItemsRestorable items
  | .object members =>
    have := decidableMembersRestorable members
    inferInstanceAs (Decidable
      (members.head?.map Prod.fst ≠ some embeddingName ∧ MembersRestorable members))

instance decidableItemsRestorable : (items : List Json) → Decidable (ItemsRestorable items)
  | [] => .isTrue trivial
  | item :: rest =>
    have := decidableRestorable item
    have := decidableItemsRestorable rest
    inferInstanceAs (Decidable (item.Restorable ∧ ItemsRestorable rest))

instance decidableMembersRestorable :
    (members : List (String × Json)) → Decidable (MembersRestorable members)
  | [] => .isTrue trivial
  | (_, value) :: rest =>
    have := decidableRestorable value
    have := decidableMembersRestorable rest
    inferInstanceAs (Decidable (value.Restorable ∧ MembersRestorable rest))

end

mutual

theorem Restorable.whole : ∀ {j : Json}, j.Restorable → j.Whole
  | .null, _ | .bool _, _ | .text _, _ => trivial
  | .number _, h => h
  | .list _, h => ItemsRestorable.whole h
  | .object _, h => MembersRestorable.whole h.2

theorem ItemsRestorable.whole : ∀ {items : List Json}, ItemsRestorable items → ItemsWhole items
  | [], _ => trivial
  | _ :: _, h => ⟨Restorable.whole h.1, ItemsRestorable.whole h.2⟩

theorem MembersRestorable.whole : ∀ {members : List (String × Json)},
    MembersRestorable members → MembersWhole members
  | [], _ => trivial
  | _ :: _, h => ⟨Restorable.whole h.1, MembersRestorable.whole h.2⟩

end

mutual

/-- Data is in normal form already. -/
theorem Ordered.normal : ∀ {j : Json}, j.Ordered → j.normal = j
  | .null, _ | .bool _, _ | .number _, _ | .text _, _ => rfl
  | .list _, h => by rw [Json.normal, ItemsOrdered.normal h]
  | .object members, h => by
    rw [Json.normal, MembersOrdered.normal h.2]
    exact congrArg (fun m : NameMap Json => Json.object m.entries)
      (NameMap.ofList_entries ⟨members, h.1⟩)

theorem ItemsOrdered.normal : ∀ {items : List Json}, ItemsOrdered items → normalItems items = items
  | [], _ => rfl
  | _ :: _, h => by rw [normalItems, Ordered.normal h.1, ItemsOrdered.normal h.2]

theorem MembersOrdered.normal : ∀ {members : List (String × Json)}, MembersOrdered members →
    normalMembers members = members
  | [], _ => rfl
  | _ :: _, h => by rw [normalMembers, Ordered.normal h.1, MembersOrdered.normal h.2]

end

end Json

namespace JsonReader

variable {embedded : String → Except ReadError Json} {a : JsonAccess}

/-- An object stands for itself unless it begins with the name of an embedded text. -/
theorem embeddedText?_ofMembers {members : List (String × Json)}
    (h : members.head?.map Prod.fst ≠ some embeddingName) :
    embeddedText? (JsonNode.ofMembers members) = none := by
  cases members with
  | nil => rfl
  | cons m rest => exact if_neg fun same => h (congrArg some same)

mutual

theorem readValue_ofJson : ∀ {j : Json} {a : JsonAccess}, j.Restorable → a.Allows j →
    readValue embedded a (.ofJson j) = .ok j
  | .null, _, _, _ => by rw [JsonNode.ofJson, readValue]
  | .bool _, _, _, _ => by rw [JsonNode.ofJson, readValue]
  | .number _, _, _, _ => by rw [JsonNode.ofJson, readValue]
  | .text _, _, _, _ => by rw [JsonNode.ofJson, readValue]
  | .list items, a, h, allowed => by
    obtain ⟨inner, entered, allows⟩ := JsonAccess.enter_list allowed
    rw [JsonNode.ofJson, readValue, entered]
    change (readValues embedded inner _ >>= _) = _
    rw [readValues_ofItems h allows]
    rfl
  | .object members, a, h, allowed => by
    obtain ⟨inner, entered, allows⟩ := JsonAccess.enter_object allowed
    rw [JsonNode.ofJson, readValue, entered, embeddedText?_ofMembers h.1]
    change (readNamedValues embedded inner _ >>= _) = _
    rw [readNamedValues_ofMembers h.2 allows]
    rfl

theorem readValues_ofItems : ∀ {items : List Json} {a : JsonAccess}, Json.ItemsRestorable items →
    (∀ item ∈ items, a.Allows item) →
      readValues embedded a (JsonNode.ofItems items) = .ok items
  | [], _, _, _ => by rw [JsonNode.ofItems, readValues]
  | item :: rest, a, h, allows => by
    rw [JsonNode.ofItems, readValues, readValue_ofJson h.1 (allows item List.mem_cons_self),
      readValues_ofItems h.2 fun other hother => allows other (List.mem_cons_of_mem _ hother)]
    rfl

theorem readNamedValues_ofMembers : ∀ {members : List (String × Json)} {a : JsonAccess},
    Json.MembersRestorable members → (∀ m ∈ members, a.Allows m.2) →
      readNamedValues embedded a (JsonNode.ofMembers members) = .ok members
  | [], _, _, _ => by rw [JsonNode.ofMembers, readNamedValues]
  | (name, value) :: rest, a, h, allows => by
    rw [JsonNode.ofMembers, readNamedValues,
      readValue_ofJson h.1 (allows (name, value) List.mem_cons_self),
      readNamedValues_ofMembers h.2 fun m hm => allows m (List.mem_cons_of_mem _ hm)]
    rfl

end

/-- **Data is restored as it is**, unless an object of it stands for something else. -/
theorem restores_data {d : JsonData} (h : d.val.Restorable) : data.Restores d.val d where
  whole := h.whole
  reads a ha := by
    rw [data, readValue_ofJson h ha]
    exact congrArg Except.ok (Subtype.ext d.property.normal)

end JsonReader

end SchemaEvolution
