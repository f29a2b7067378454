import Mathlib.Data.List.Perm.Basic
import Mathlib.Logic.Relation
import SchemaEvolution.Json.Data
import SchemaEvolution.Proofs.NameMap
import SchemaEvolution.Proofs.Outcomes

/-!
# Documents in other words

A document says the same when the members of its objects stand in another order, when a record has a
member more or less that nothing looks for, and when `null` comes or goes where it stands for
nothing. `Reworded` is one such change, anywhere in the tree of a text. What may change depends on
what a place holds: records, maps, tags with their contents and data have rules of their own. A
`Layout` says what stands where.

A layout describes a reader (`Layout.Describes`) if no such change makes a difference to the reader.
For each way to put readers together one lemma says which layout describes the whole when layouts
describe the parts; here for lists and maps, elsewhere for records and for tags with their contents.
Only what is read has to be followed: what is passed over may be anything, so a member that is
passed over is changed by leaving it out and adding another.

One order is not free. Data whose first member bears the name that announces an embedded text is
read for that text, so no such member may be brought there.
-/

namespace SchemaEvolution

/-! ## Layouts -/

/-- What stands where in a value. -/
inductive Layout where
  /-- A string, a flag or a choice. -/
  | plain
  | list (item : Layout)
  | map (value : Layout)
  /-- The fields of a record in their order, each with its name, whether `null` stands for nothing
  in it, and what it holds. -/
  | record (fields : List (String × Bool × Layout))
  /-- A tag and its content, under these names. -/
  | beside (tag content : String) (inside : Layout)
  /-- Any data. -/
  | data

namespace Layout

/-- What the item of a list at some place holds. -/
def item? : Layout → Nat → Option Layout
  | .list item, _ => some item
  | .record fields, i => fields[i]?.map (·.2.2)
  | .beside _ _ inside, i => if i = 1 then some inside else none
  | .data, _ => some .data
  | .plain, _ | .map _, _ => none

/-- What the member of a name holds. -/
def member? : Layout → String → Option Layout
  | .map value, _ => some value
  | .record fields, name => (fields.lookup name).map (·.2)
  | .beside _ content inside, name => if name = content then some inside else none
  | .data, _ => some .data
  | .plain, _ | .list _, _ => none

/-- Whether a member of this name is passed over. -/
def passesOver : Layout → String → Bool
  | .record fields, name => (fields.lookup name).isNone
  | .beside tag content _, name => name ≠ tag && name ≠ content
  | _, _ => false

/-- Whether a member of this name says no more with `null` than by being left out. -/
def nullable : Layout → String → Bool
  | .record fields, name => (fields.lookup name).any (·.1)
  | _, _ => false

end Layout

/-! ## Changes -/

/-- One thing in a value is put in another way. -/
inductive Reworded : Layout → JsonNode → JsonNode → Prop
  /-- Within an item of a list. -/
  | item {layout inside : Layout} {before after : List JsonNode} {node node' : JsonNode}
      (place : layout.item? before.length = some inside) (inner : Reworded inside node node') :
      Reworded layout (.list (before ++ node :: after) true) (.list (before ++ node' :: after) true)
  /-- Within a member of an object. -/
  | member {layout inside : Layout} {before after : List (Option String × JsonNode)}
      {name : String} {node node' : JsonNode}
      (place : layout.member? name = some inside) (inner : Reworded inside node node') :
      Reworded layout (.object (before ++ (some name, node) :: after) true)
        (.object (before ++ (some name, node') :: after) true)
  /-- The members of an object stand in another order. In data none may come first that would make
  the object stand for a text. -/
  | permuted {layout : Layout} {members members' : List (Option String × JsonNode)}
      (same : members.Perm members') (distinct : (members.map Prod.fst).Nodup)
      (unembedded : layout = .data → JsonReader.embeddedText? members' = none) :
      Reworded layout (.object members true) (.object members' true)
  /-- One more member is passed over. -/
  | added {layout : Layout} {before after : List (Option String × JsonNode)} {name : String}
      {node : JsonNode} (passed : layout.passesOver name = true)
      (readable : node.wellFormed = true) :
      Reworded layout (.object (before ++ after) true)
        (.object (before ++ (some name, node) :: after) true)
  /-- A member that is passed over is left out. -/
  | removed {layout : Layout} {before after : List (Option String × JsonNode)} {name : String}
      {node : JsonNode} (passed : layout.passesOver name = true) :
      Reworded layout (.object (before ++ (some name, node) :: after) true)
        (.object (before ++ after) true)
  /-- A member that was left out is `null`. -/
  | nullAdded {layout : Layout} {before after : List (Option String × JsonNode)} {name : String}
      (nullable : layout.nullable name = true)
      (absent : some name ∉ (before ++ after).map Prod.fst) :
      Reworded layout (.object (before ++ after) true)
        (.object (before ++ (some name, .null) :: after) true)
  /-- A member that was `null` is left out. -/
  | nullRemoved {layout : Layout} {before after : List (Option String × JsonNode)} {name : String}
      (nullable : layout.nullable name = true) :
      Reworded layout (.object (before ++ (some name, .null) :: after) true)
        (.object (before ++ after) true)

/-- A reader reads the same from a value that is put in another way. -/
def Layout.Describes {α : Type} (layout : Layout) (r : JsonReader α) : Prop :=
  ∀ ⦃node node' : JsonNode⦄, Reworded layout node node' →
    ∀ (a : JsonAccess) (x : α), r a node = .ok x → r a node' = .ok x

/-- Neither a list nor an object. -/
def JsonNode.isScalar : JsonNode → Bool
  | .list _ _ | .object _ _ => false
  | _ => true

/-- Only lists and objects are put in other ways. -/
theorem Reworded.not_isScalar {layout : Layout} {node node' : JsonNode}
    (h : Reworded layout node node') : node.isScalar = false ∧ node'.isScalar = false := by
  cases h <;> exact ⟨rfl, rfl⟩

/-- A value may be put in other ways time and again. -/
theorem Layout.Describes.many {α : Type} {layout : Layout} {r : JsonReader α}
    (h : layout.Describes r) {node node' : JsonNode}
    (reworded : Relation.ReflTransGen (Reworded layout) node node') {a : JsonAccess} {x : α}
    (read : r a node = .ok x) : r a node' = .ok x := by
  induction reworded with
  | refl => exact read
  | tail _ step ih => exact h step a x ih

/-- A value that has the form of JSON can be passed over wherever it stands. -/
theorem JsonAccess.passes_of_wellFormed {node : JsonNode} (h : node.wellFormed = true)
    (a : JsonAccess) : a.passes node = true := by
  cases a with
  | streamed _ => exact h
  | held => rfl

namespace JsonReader

variable {α β : Type} {r : JsonReader α} {layout : Layout}

/-! ## Values without parts -/

/-- A reader that reads neither lists nor objects. -/
def ReadsScalars (r : JsonReader α) : Prop :=
  ∀ ⦃a : JsonAccess⦄ ⦃node : JsonNode⦄ ⦃x : α⦄, r a node = .ok x → node.isScalar = true

theorem ReadsScalars.describes (h : r.ReadsScalars) (layout : Layout) : layout.Describes r :=
  fun _ _ reworded _ _ read =>
    absurd (h read) (Bool.eq_false_iff.mp reworded.not_isScalar.1)

theorem readsScalars_string : string.ReadsScalars := by
  intro a node x read
  cases node with
  | list | object => cases read
  | _ => rfl

theorem readsScalars_bool : bool.ReadsScalars := by
  intro a node x read
  cases node with
  | list | object => cases read
  | _ => rfl

/-- A name chosen by an object is its one member. -/
theorem length_of_choice {choices : List (String × α)} {a : JsonAccess}
    {members : List (Option String × JsonNode)} {closed : Bool} {x : α}
    (h : choice choices a (.object members closed) = .ok x) : members.length = 1 := by
  cases a with
  | held =>
    rcases members with _ | ⟨⟨_ | name, node⟩, _ | ⟨next, rest⟩⟩
    case cons.none.nil | cons.some.nil => rfl
    all_goals cases h
  | streamed levels =>
    rw [choice] at h
    obtain ⟨inner, _, h⟩ := bind_eq_ok.mp h
    rcases members with _ | ⟨⟨_ | name, node⟩, _ | ⟨next, rest⟩⟩
    case cons.none.nil | cons.some.nil => rfl
    case cons.some.cons =>
      obtain ⟨_, _, h⟩ := bind_eq_ok.mp h
      obtain ⟨_, _, h⟩ := bind_eq_ok.mp h
      cases h
    all_goals cases h

theorem describes_choice (choices : List (String × α)) :
    Layout.plain.Describes (choice choices) := by
  intro node node' reworded a x read
  cases reworded with
  | permuted same distinct unembedded =>
    obtain ⟨m, rfl⟩ := List.length_eq_one_iff.mp (length_of_choice read)
    rwa [List.singleton_perm.mp same] at read
  | item place | member place => cases place
  | added passed | removed passed => cases passed
  | nullAdded nullable | nullRemoved nullable => cases nullable

end JsonReader

namespace Layout.Describes

open JsonReader

variable {α β : Type} {r : JsonReader α} {layout : Layout}

theorem map (h : layout.Describes r) (f : α → β) : layout.Describes (r.map f) := by
  intro node node' reworded a y read
  obtain ⟨x, inside, rfl⟩ := map_eq_ok.mp read
  exact map_eq_ok.mpr ⟨x, h reworded a x inside, rfl⟩

/-- What is put in another way is something before and after. -/
theorem optional (h : layout.Describes r) : layout.Describes r.optional := by
  have something : ∀ {a : JsonAccess} {node : JsonNode}, node.isScalar = false →
      r.optional a node = (r.map some) a node := by
    intro a node compound
    cases node with
    | null => cases compound
    | _ => rfl
  intro node node' reworded a x read
  obtain ⟨compound, compound'⟩ := reworded.not_isScalar
  rw [something compound] at read
  rw [something compound']
  exact h.map some reworded a x read

end Layout.Describes

/-! ## Lists and maps -/

/-- What corresponds to two lists, one behind the other, is made of what corresponds to each. -/
theorem exists_of_forall₂_append {α β : Type} {R : α → β → Prop} {l l' : List α} {bs : List β}
    (h : List.Forall₂ R (l ++ l') bs) :
    ∃ cs ds, bs = cs ++ ds ∧ List.Forall₂ R l cs ∧ List.Forall₂ R l' ds := by
  refine ⟨bs.take l.length, bs.drop l.length, (List.take_append_drop _ _).symm, ?_, ?_⟩
  · simpa using List.forall₂_take l.length h
  · simpa using List.forall₂_drop l.length h

/-- What corresponds to a list with something in it, corresponds to it. -/
theorem exists_of_forall₂_append_cons {α β : Type} {R : α → β → Prop} {l l' : List α} {a : α}
    {bs : List β} (h : List.Forall₂ R (l ++ a :: l') bs) :
    ∃ cs b ds, bs = cs ++ b :: ds ∧ List.Forall₂ R l cs ∧ R a b ∧ List.Forall₂ R l' ds := by
  obtain ⟨cs, ds, rfl, before, after⟩ := exists_of_forall₂_append h
  cases after with
  | cons here after => exact ⟨cs, _, _, rfl, before, here, after⟩

/-- A member of a list may give way to another with the same counterpart. -/
theorem forall₂_replace {α β : Type} {R : α → β → Prop} {l l' : List α} {a a' : α} {bs : List β}
    (h : List.Forall₂ R (l ++ a :: l') bs) (same : ∀ b, R a b → R a' b) :
    List.Forall₂ R (l ++ a' :: l') bs := by
  obtain ⟨cs, b, ds, rfl, before, here, after⟩ := exists_of_forall₂_append_cons h
  exact List.rel_append before (.cons (same b here) after)

namespace JsonReader

variable {α : Type} {r : JsonReader α} {a : JsonAccess}

theorem readItems_eq_ok {items : List JsonNode} {xs : List α} :
    readItems r a items = .ok xs ↔ List.Forall₂ (fun item x => r a item = .ok x) items xs := by
  induction items generalizing xs with
  | nil =>
    rw [readItems, List.forall₂_nil_left_iff]
    exact ⟨fun h => (Except.ok.inj h).symm, fun h => congrArg _ h.symm⟩
  | cons item rest ih =>
    rw [readItems, bind_eq_ok, List.forall₂_cons_left_iff]
    simp only [bind_eq_ok, ih]
    constructor
    · rintro ⟨x, first, xs, others, h⟩
      cases h
      exact ⟨x, xs, first, others, rfl⟩
    · rintro ⟨x, xs, first, others, rfl⟩
      exact ⟨x, first, xs, others, rfl⟩

theorem readMembers_eq_ok {members : List (Option String × JsonNode)}
    {entries : List (String × α)} :
    readMembers r a members = .ok entries ↔
      List.Forall₂ (fun m e => m.1 = some e.1 ∧ r a m.2 = .ok e.2) members entries := by
  induction members generalizing entries with
  | nil =>
    rw [readMembers, List.forall₂_nil_left_iff]
    exact ⟨fun h => (Except.ok.inj h).symm, fun h => congrArg _ h.symm⟩
  | cons m rest ih =>
    obtain ⟨_ | name, node⟩ := m
    · rw [readMembers, List.forall₂_cons_left_iff]
      exact ⟨nofun, fun ⟨_, _, first, _⟩ => nomatch first.1⟩
    · rw [readMembers, bind_eq_ok, List.forall₂_cons_left_iff]
      simp only [bind_eq_ok, ih]
      constructor
      · rintro ⟨x, first, entries, others, h⟩
        cases h
        exact ⟨(name, x), entries, ⟨rfl, first⟩, others, rfl⟩
      · rintro ⟨⟨_, x⟩, entries, ⟨⟨⟩, first⟩, others, rfl⟩
        exact ⟨x, first, entries, others, rfl⟩

/-- What is read from the members of an object has their names. -/
theorem names_of_readMembers {members : List (Option String × JsonNode)}
    {entries : List (String × α)} (h : readMembers r a members = .ok entries) :
    members.map Prod.fst = (entries.map Prod.fst).map some := by
  have read := readMembers_eq_ok.mp h
  clear h
  induction read with
  | nil => rfl
  | cons first _ ih => rw [List.map_cons, List.map_cons, List.map_cons, ih, first.1]

theorem list_eq_ok {items : List JsonNode} {xs : List α} :
    list r a (.list items true) = .ok xs ↔
      ∃ inner, a.enter = .ok inner ∧ readItems r inner items = .ok xs := by
  simp only [list, if_true, bind_pure, bind_eq_ok]

theorem nameMap_eq_ok {members : List (Option String × JsonNode)} {x : NameMap α} :
    nameMap r a (.object members true) = .ok x ↔ ∃ inner, a.enter = .ok inner ∧
      ∃ entries, readMembers r inner members = .ok entries ∧ NameMap.ofList entries = x := by
  simp only [nameMap, if_true, bind_eq_ok, pure, Except.pure, Except.ok.injEq]

end JsonReader

namespace Layout.Describes

open JsonReader

variable {α β : Type} {r : JsonReader α} {layout : Layout}

theorem list (h : layout.Describes r) : (Layout.list layout).Describes (JsonReader.list r) := by
  intro node node' reworded a x read
  cases reworded with
  | item place within =>
    cases place
    obtain ⟨inner, entered, items⟩ := list_eq_ok.mp read
    refine list_eq_ok.mpr ⟨inner, entered, readItems_eq_ok.mpr ?_⟩
    exact forall₂_replace (readItems_eq_ok.mp items) fun x item => h within inner x item
  | member | permuted | added | removed | nullAdded | nullRemoved => cases read

theorem nameMap (h : layout.Describes r) :
    (Layout.map layout).Describes (JsonReader.nameMap r) := by
  intro node node' reworded a x read
  cases reworded with
  | item place => cases place
  | member place within =>
    cases place
    obtain ⟨inner, entered, entries, members, rfl⟩ := nameMap_eq_ok.mp read
    refine nameMap_eq_ok.mpr ⟨inner, entered, entries, readMembers_eq_ok.mpr ?_, rfl⟩
    exact forall₂_replace (readMembers_eq_ok.mp members) fun e member =>
      ⟨member.1, h within inner e.2 member.2⟩
  | permuted same distinct =>
    obtain ⟨inner, entered, entries, members, rfl⟩ := nameMap_eq_ok.mp read
    obtain ⟨entries', members', same'⟩ :=
      List.perm_comp_forall₂ same.symm (readMembers_eq_ok.mp members)
    rw [names_of_readMembers members] at distinct
    exact nameMap_eq_ok.mpr ⟨inner, entered, entries', readMembers_eq_ok.mpr members',
      (NameMap.ofList_perm (distinct.of_map _) same'.symm).symm⟩
  | added passed | removed passed => cases passed
  | nullAdded nullable | nullRemoved nullable => cases nullable

end Layout.Describes

end SchemaEvolution
