import Mathlib.Data.List.Perm.Basic
import SchemaEvolution.Json.Variant
import SchemaEvolution.Proofs.Rewording

/-!
# Data in other words

Data in other words is the same data, since data is kept in a normal form in which each object has
its names in order (`JsonReader.readValue_reworded`). An object that stands for a text has no other
member that could change places with it.

Data may also come before the tag that says it is data. It is held back then, and read when the tag
is known; a value that can be held back is read the same as straight from the text
(`JsonReader.HoldsBack`).
-/

namespace SchemaEvolution

/-! ## Values that are held back -/

namespace JsonNode

theorem isSome_itemValues?_cons (item : JsonNode) (rest : List JsonNode) :
    (itemValues? (item :: rest)).isSome = (item.value?.isSome && (itemValues? rest).isSome) := by
  rw [itemValues?]
  cases item.value? <;> cases itemValues? rest <;> rfl

theorem isSome_memberValues?_cons (name : String) (node : JsonNode)
    (rest : List (Option String × JsonNode)) :
    (memberValues? ((some name, node) :: rest)).isSome =
      (node.value?.isSome && (memberValues? rest).isSome) := by
  simp only [memberValues?]
  cases node.value? <;> cases memberValues? rest <;> rfl

end JsonNode

namespace JsonReader

variable {α β : Type} {r : JsonReader α}

/-- A reader reads a value straight from a text exactly if the value can be held back and is read
the same then. -/
def HoldsBack (r : JsonReader α) : Prop :=
  ∀ (levels : Nat) (node : JsonNode) (x : α), r (.streamed levels) node = .ok x ↔
    (JsonAccess.streamed levels).holds node = true ∧ r .held node = .ok x

theorem HoldsBack.map (h : r.HoldsBack) (f : α → β) : (r.map f).HoldsBack := by
  intro levels node y
  simp only [JsonReader.map, map_eq_ok, h levels node, and_assoc, exists_and_left]

/-- It makes no difference whether a value is held back before it is read. -/
theorem HoldsBack.held_iff (h : r.HoldsBack) {a : JsonAccess} {node : JsonNode} {x : α} :
    a.holds node = true ∧ r .held node = .ok x ↔ r a node = .ok x := by
  cases a with
  | streamed levels => exact (h levels node x).symm
  | held => exact and_iff_right rfl

theorem string_eq_ok {a : JsonAccess} {node : JsonNode} {s : String} :
    string a node = .ok s ↔ node = .text (some s) := by
  cases node with
  | text value =>
    cases value with
    | some t => simp only [string, Except.ok.injEq, JsonNode.text.injEq, Option.some.injEq]
    | none => exact ⟨nofun, nofun⟩
  | _ => exact ⟨nofun, nofun⟩

theorem holdsBack_string : string.HoldsBack := by
  intro levels node s
  rw [string_eq_ok, string_eq_ok]
  refine (and_iff_right_of_imp ?_).symm
  rintro rfl
  exact decide_eq_true (Nat.zero_le levels)

variable {embedded : String → Except ReadError Json}

variable {a : JsonAccess} {closed : Bool} {members : List (Option String × JsonNode)} {x : Json}

theorem readValue_list {items : List JsonNode} :
    readValue embedded a (.list items closed) = .ok x ↔ ∃ inner, a.enter = .ok inner ∧
      ∃ values, readValues embedded inner items = .ok values ∧ closed = true ∧
        .list values = x := by
  rw [readValue, bind_eq_ok]
  simp only [bind_eq_ok]
  cases closed
  · simp
  · simp [pure, Except.pure]

theorem readValue_object (unembedded : embeddedText? members = none) :
    readValue embedded a (.object members closed) = .ok x ↔ ∃ inner, a.enter = .ok inner ∧
      ∃ entries, readNamedValues embedded inner members = .ok entries ∧ closed = true ∧
        .object entries = x := by
  rw [readValue, bind_eq_ok, unembedded]
  simp only [bind_eq_ok]
  cases closed
  · simp
  · simp [pure, Except.pure]

/-- A text that stands for a value is the one member of its object. -/
theorem readValue_embedded {node : JsonNode} (text : embeddedText? members = some node) :
    readValue embedded a (.object members closed) = .ok x ↔ ∃ inner, a.enter = .ok inner ∧
      ∃ s, members = [(some embeddingName, .text (some s))] ∧ embedded s = .ok x ∧
        closed = true := by
  obtain ⟨rest, rfl⟩ : ∃ rest, members = (some embeddingName, node) :: rest := by
    match members, text with
    | (some name, node') :: rest, text =>
      rw [embeddedText?] at text
      split at text
      · rename_i same
        cases text
        exact ⟨rest, same ▸ rfl⟩
      · cases text
  rw [readValue, bind_eq_ok, text]
  simp only [bind_eq_ok, string_eq_ok]
  cases rest with
  | nil => cases closed <;> simp [pure, Except.pure]
  | cons => simp

mutual

theorem readValue_streamed : ∀ (node : JsonNode) (levels : Nat) (x : Json),
    readValue embedded (.streamed levels) node = .ok x ↔
      (node.value?.isSome = true ∧ node.depth ≤ levels) ∧ readValue embedded .held node = .ok x
  | .null, _, _ | .bool _, _, _ | .broken, _, _ | .number none, _, _ | .number (some _), _, _
  | .text none, _, _ | .text (some _), _, _ => by
    simp [readValue, JsonNode.value?, JsonNode.depth]
  | .list items closed, levels, x => by
    rw [readValue_list, readValue_list]
    cases levels with
    | zero => simp [JsonAccess.enter, JsonNode.depth]
    | succ levels =>
      simp only [JsonAccess.enter, Except.ok.injEq, exists_eq_left', JsonNode.depth,
        readValues_streamed items levels]
      cases closed with
      | false => simp
      | true => simp [JsonNode.value?, and_assoc]
  | .object members closed, levels, x => by
    cases text : embeddedText? members with
    | none =>
      rw [readValue_object text, readValue_object text]
      cases levels with
      | zero => simp [JsonAccess.enter, JsonNode.depth]
      | succ levels =>
        simp only [JsonAccess.enter, Except.ok.injEq, exists_eq_left', JsonNode.depth,
          readNamedValues_streamed members levels]
        cases closed with
        | false => simp
        | true => simp [JsonNode.value?, and_assoc]
    | some node =>
      rw [readValue_embedded text, readValue_embedded text]
      cases levels with
      | zero => simp [JsonAccess.enter, JsonNode.depth]
      | succ levels =>
        simp only [JsonAccess.enter, Except.ok.injEq, exists_eq_left', JsonNode.depth]
        refine (and_iff_right_of_imp ?_).symm
        rintro ⟨s, rfl, -, rfl⟩
        exact ⟨rfl, Nat.succ_le_succ (Nat.zero_le levels)⟩

theorem readValues_streamed : ∀ (items : List JsonNode) (levels : Nat) (xs : List Json),
    readValues embedded (.streamed levels) items = .ok xs ↔
      ((JsonNode.itemValues? items).isSome = true ∧ JsonNode.itemsDepth items ≤ levels) ∧
        readValues embedded .held items = .ok xs
  | [], _, _ => by simp [readValues, JsonNode.itemValues?, JsonNode.itemsDepth]
  | item :: rest, levels, xs => by
    simp only [readValues, bind_eq_ok, readValue_streamed item levels,
      readValues_streamed rest levels, JsonNode.isSome_itemValues?_cons, JsonNode.itemsDepth,
      Bool.and_eq_true, Nat.max_le]
    constructor
    · rintro ⟨x, ⟨⟨readable, low⟩, first⟩, xs, ⟨⟨readable', low'⟩, others⟩, made⟩
      exact ⟨⟨⟨readable, readable'⟩, low, low'⟩, x, first, xs, others, made⟩
    · rintro ⟨⟨⟨readable, readable'⟩, low, low'⟩, x, first, xs, others, made⟩
      exact ⟨x, ⟨⟨readable, low⟩, first⟩, xs, ⟨⟨readable', low'⟩, others⟩, made⟩

theorem readNamedValues_streamed : ∀ (members : List (Option String × JsonNode)) (levels : Nat)
    (entries : List (String × Json)),
    readNamedValues embedded (.streamed levels) members = .ok entries ↔
      ((JsonNode.memberValues? members).isSome = true ∧ JsonNode.membersDepth members ≤ levels) ∧
        readNamedValues embedded .held members = .ok entries
  | [], _, _ => by simp [readNamedValues, JsonNode.memberValues?, JsonNode.membersDepth]
  | (none, _) :: _, _, _ => by simp [readNamedValues, JsonNode.memberValues?]
  | (some name, node) :: rest, levels, xs => by
    simp only [readNamedValues, bind_eq_ok, readValue_streamed node levels,
      readNamedValues_streamed rest levels, JsonNode.isSome_memberValues?_cons,
      JsonNode.membersDepth, Bool.and_eq_true, Nat.max_le]
    constructor
    · rintro ⟨x, ⟨⟨readable, low⟩, first⟩, xs, ⟨⟨readable', low'⟩, others⟩, made⟩
      exact ⟨⟨⟨readable, readable'⟩, low, low'⟩, x, first, xs, others, made⟩
    · rintro ⟨⟨⟨readable, readable'⟩, low, low'⟩, x, first, xs, others, made⟩
      exact ⟨x, ⟨⟨readable, low⟩, first⟩, xs, ⟨⟨readable', low'⟩, others⟩, made⟩

end

theorem holdsBack_data : data.HoldsBack := by
  intro levels node x
  simp only [data, map_eq_ok, readValue_streamed node levels, and_assoc, exists_and_left,
    JsonAccess.holds, Bool.and_eq_true, decide_eq_true_eq]

end JsonReader

/-! ## Data -/

namespace Json

theorem normalItems_eq_map (items : List Json) : normalItems items = items.map normal := by
  induction items with
  | nil => rfl
  | cons item rest ih => rw [normalItems, List.map_cons, ih]

theorem normalMembers_eq_map (members : List (String × Json)) :
    normalMembers members = members.map fun m => (m.1, m.2.normal) := by
  induction members with
  | nil => rfl
  | cons m rest ih => rw [normalMembers, List.map_cons, ih]

/-- The order of the members of an object plays no part in what it stands for. -/
theorem normal_object_perm {members members' : List (String × Json)}
    (distinct : (members.map Prod.fst).Nodup) (same : members.Perm members') :
    (object members).normal = (object members').normal := by
  rw [normal, normal, normalMembers_eq_map, normalMembers_eq_map,
    NameMap.ofList_perm ?_ (same.map _)]
  rwa [List.map_map]

end Json

namespace JsonReader

variable {embedded : String → Except ReadError Json} {a : JsonAccess}
  {members : List (Option String × JsonNode)} {x : Json}

theorem readValues_eq {items : List JsonNode} :
    readValues embedded a items = readItems (readValue embedded) a items := by
  induction items with
  | nil => rw [readValues, readItems]
  | cons item rest ih => rw [readValues, readItems, ih]

theorem readNamedValues_eq :
    readNamedValues embedded a members = readMembers (readValue embedded) a members := by
  induction members with
  | nil => rw [readNamedValues, readMembers]
  | cons m rest ih =>
    obtain ⟨_ | name, node⟩ := m
    · rw [readNamedValues, readMembers]
    · rw [readNamedValues, readMembers, ih]

/-- Whether an object stands for a text is told by its names. -/
theorem embeddedText?_eq_none_congr {members' : List (Option String × JsonNode)}
    (names : members.map Prod.fst = members'.map Prod.fst) :
    embeddedText? members = none ↔ embeddedText? members' = none := by
  match members, members', names with
  | [], [], _ => rfl
  | (none, _) :: _, (_, _) :: _, names =>
    cases (List.cons.inj names).1
    exact Iff.rfl
  | (some name, _) :: _, (_, _) :: _, names =>
    cases (List.cons.inj names).1
    simp only [embeddedText?, ite_eq_right_iff, reduceCtorEq]

/-- Data that is put in another way is the same data. -/
theorem readValue_reworded {layout : Layout} {node node' : JsonNode}
    (reworded : Reworded layout node node') (any : layout = .data)
    (read : readValue embedded a node = .ok x) :
    ∃ x', readValue embedded a node' = .ok x' ∧ x'.normal = x.normal := by
  induction reworded generalizing a x with
  | @item _ _ before after node node' place within ih =>
    subst any
    cases place
    obtain ⟨inner, entered, values, items, -, rfl⟩ := readValue_list.mp read
    rw [readValues_eq, readItems_eq_ok] at items
    obtain ⟨xs, y, ys, rfl, first, here, others⟩ := exists_of_forall₂_append_cons items
    obtain ⟨y', here', same⟩ := ih rfl here
    refine ⟨.list (xs ++ y' :: ys), readValue_list.mpr ⟨inner, entered, _, ?_, rfl, rfl⟩, ?_⟩
    · rw [readValues_eq, readItems_eq_ok]
      exact List.rel_append first (.cons here' others)
    · simp only [Json.normal, Json.normalItems_eq_map, List.map_append, List.map_cons, same]
  | @member _ _ before after name node node' place within ih =>
    subst any
    cases place
    cases text : embeddedText? (before ++ (some name, node) :: after) with
    | some t =>
      obtain ⟨_, _, s, alone, -⟩ := (readValue_embedded text).mp read
      have here : (some name, node) ∈ before ++ (some name, node) :: after :=
        List.mem_append_right _ List.mem_cons_self
      rw [alone, List.mem_singleton] at here
      cases here
      cases within.not_isScalar.1
    | none =>
      have text' : embeddedText? (before ++ (some name, node') :: after) = none :=
        (embeddedText?_eq_none_congr (by simp)).mp text
      obtain ⟨inner, entered, entries, members, -, rfl⟩ := (readValue_object text).mp read
      rw [readNamedValues_eq, readMembers_eq_ok] at members
      obtain ⟨xs, y, ys, rfl, first, here, others⟩ := exists_of_forall₂_append_cons members
      obtain ⟨y', here', same⟩ := ih rfl here.2
      refine ⟨.object (xs ++ (y.1, y') :: ys),
        (readValue_object text').mpr ⟨inner, entered, _, ?_, rfl, rfl⟩, ?_⟩
      · rw [readNamedValues_eq, readMembers_eq_ok]
        exact List.rel_append first (.cons ⟨here.1, here'⟩ others)
      · simp only [Json.normal, Json.normalMembers_eq_map, List.map_append, List.map_cons, same]
  | @permuted _ members members' same distinct unembedded =>
    have text' := unembedded any
    cases text : embeddedText? members with
    | some t =>
      obtain ⟨inner, entered, s, rfl, -⟩ := (readValue_embedded text).mp read
      rw [List.singleton_perm.mp same] at text
      cases text.symm.trans text'
    | none =>
      obtain ⟨inner, entered, entries, values, -, rfl⟩ := (readValue_object text).mp read
      rw [readNamedValues_eq] at values
      obtain ⟨entries', values', same'⟩ :=
        List.perm_comp_forall₂ same.symm (readMembers_eq_ok.mp values)
      rw [names_of_readMembers values] at distinct
      refine ⟨.object entries',
        (readValue_object text').mpr ⟨inner, entered, entries', ?_, rfl, rfl⟩, ?_⟩
      · rwa [readNamedValues_eq, readMembers_eq_ok]
      · exact (Json.normal_object_perm (distinct.of_map _) same'.symm).symm
  | added passed | removed passed =>
    subst any
    cases passed
  | nullAdded nullable | nullRemoved nullable =>
    subst any
    cases nullable

end JsonReader

theorem Layout.describes_data : Layout.data.Describes JsonReader.data := by
  intro node node' reworded a x read
  obtain ⟨j, value, rfl⟩ := map_eq_ok.mp read
  obtain ⟨j', value', same⟩ := JsonReader.readValue_reworded reworded rfl value
  exact map_eq_ok.mpr ⟨j', value', Subtype.ext same⟩

end SchemaEvolution
