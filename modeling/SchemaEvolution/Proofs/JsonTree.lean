import SchemaEvolution.Json.Reader
import SchemaEvolution.Proofs.JsonTokens

/-!
# The tree of what is written

The tokens of a value make up one tree, that of the value (`JsonNode.ofJson`), and leave nothing
behind. So a reader of a whole text gets to see the value that was written, on one line or over
many (`JsonReader.readText_compact`, `JsonReader.readText_pretty`).
-/

namespace SchemaEvolution

namespace JsonNode

mutual

/-- The tree of a value. -/
def ofJson : Json → JsonNode
  | .null => .null
  | .bool b => .bool b
  | .number n => .number (some n)
  | .text s => .text (some s)
  | .list items => .list (ofItems items) true
  | .object members => .object (ofMembers members) true

/-- The trees of items. -/
def ofItems : List Json → List JsonNode
  | [] => []
  | item :: rest => ofJson item :: ofItems rest

/-- The trees of members. -/
def ofMembers : List (String × Json) → List (Option String × JsonNode)
  | [] => []
  | (name, value) :: rest => (some name, ofJson value) :: ofMembers rest

end

/-! ## From tokens -/

/-- No value starts with a closing bracket. -/
theorem exists_tokens (j : Json) :
    ∃ t ts, j.tokens = t :: ts ∧ t ≠ .closeList ∧ t ≠ .closeObject := by
  cases j <;> exact ⟨_, _, rfl, nofun, nofun⟩

theorem exists_itemTokens (item : Json) (rest : List Json) :
    ∃ t ts, Json.itemTokens (item :: rest) = t :: ts ∧ t ≠ .closeList := by
  obtain ⟨t, ts, h, notClose, -⟩ := exists_tokens item
  cases rest with
  | nil => exact ⟨t, ts, h, notClose⟩
  | cons next rest =>
    refine ⟨t, ts ++ .comma :: Json.itemTokens (next :: rest), ?_, notClose⟩
    rw [Json.itemTokens, h, List.cons_append]
    exact List.cons_ne_nil _ _

theorem exists_memberTokens (member : String × Json) (rest : List (String × Json)) :
    ∃ name ts, Json.memberTokens (member :: rest) = .text name :: ts := by
  cases rest <;> exact ⟨_, _, rfl⟩

theorem ofTokens_openList {fuel : Nat} {t : JsonToken} (h : t ≠ .closeList)
    (ts : List JsonToken) :
    ofTokens (fuel + 1) (.openList :: t :: ts) =
      match itemsOfTokens fuel (t :: ts) with
      | (items, closed, rest) => (.list items closed, rest) := by
  rw [ofTokens]
  intro rest heq
  exact h (List.cons.inj heq).1

theorem ofTokens_openObject {fuel : Nat} {t : JsonToken} (h : t ≠ .closeObject)
    (ts : List JsonToken) :
    ofTokens (fuel + 1) (.openObject :: t :: ts) =
      match membersOfTokens fuel (t :: ts) with
      | (members, closed, rest) => (.object members closed, rest) := by
  rw [ofTokens]
  intro rest heq
  exact h (List.cons.inj heq).1

mutual

/-- **The tokens of a value make up its tree**, whatever stands behind them. -/
theorem ofTokens_tokens : ∀ (j : Json) (fuel : Nat) (rest : List JsonToken),
    j.tokens.length ≤ fuel → ofTokens fuel (j.tokens ++ rest) = (ofJson j, rest)
  | .null, _, _, _ => by rw [Json.tokens, List.singleton_append, ofTokens]; rfl
  | .bool _, _, _, _ => by rw [Json.tokens, List.singleton_append, ofTokens]; rfl
  | .number _, _, _, _ => by rw [Json.tokens, List.singleton_append, ofTokens]; rfl
  | .text _, _, _, _ => by rw [Json.tokens, List.singleton_append, ofTokens]; rfl
  | .list [], _, _, _ => by
    rw [Json.tokens, Json.itemTokens, List.nil_append, List.cons_append, List.singleton_append,
      ofTokens]
    rfl
  | .list (item :: more), fuel, rest, enough => by
    rw [Json.tokens, List.length_cons, List.length_append, List.length_singleton] at enough
    obtain ⟨fuel, rfl⟩ : ∃ n, fuel = n + 1 := ⟨fuel - 1, by omega⟩
    have items := itemsOfTokens_itemTokens item more fuel rest (by omega)
    obtain ⟨t, ts, htokens, notClose⟩ := exists_itemTokens item more
    rw [Json.tokens, List.cons_append, List.append_assoc, List.singleton_append]
    rw [htokens, List.cons_append] at items ⊢
    rw [ofTokens_openList notClose, items]
    rfl
  | .object [], _, _, _ => by
    rw [Json.tokens, Json.memberTokens, List.nil_append, List.cons_append, List.singleton_append,
      ofTokens]
    rfl
  | .object (member :: more), fuel, rest, enough => by
    rw [Json.tokens, List.length_cons, List.length_append, List.length_singleton] at enough
    obtain ⟨fuel, rfl⟩ : ∃ n, fuel = n + 1 := ⟨fuel - 1, by omega⟩
    have members := membersOfTokens_memberTokens member more fuel rest (by omega)
    obtain ⟨name, ts, htokens⟩ := exists_memberTokens member more
    rw [Json.tokens, List.cons_append, List.append_assoc, List.singleton_append]
    rw [htokens, List.cons_append] at members ⊢
    rw [ofTokens_openObject (t := .text name) nofun, members]
    rfl

theorem itemsOfTokens_itemTokens : ∀ (item : Json) (more : List Json) (fuel : Nat)
    (rest : List JsonToken), (Json.itemTokens (item :: more)).length < fuel →
      itemsOfTokens fuel (Json.itemTokens (item :: more) ++ .closeList :: rest) =
        (ofItems (item :: more), true, rest)
  | item, [], fuel, rest, enough => by
    obtain ⟨fuel, rfl⟩ : ∃ n, fuel = n + 1 := ⟨fuel - 1, by omega⟩
    rw [Json.itemTokens] at enough ⊢
    rw [itemsOfTokens, ofTokens_tokens item fuel (.closeList :: rest) (by omega)]
    rfl
  | item, next :: more, fuel, rest, enough => by
    obtain ⟨fuel, rfl⟩ : ∃ n, fuel = n + 1 := ⟨fuel - 1, by omega⟩
    rw [Json.itemTokens_cons, List.length_append, List.length_cons] at enough
    have others := itemsOfTokens_itemTokens next more fuel rest (by omega)
    rw [Json.itemTokens_cons, List.append_assoc, List.cons_append,
      itemsOfTokens, ofTokens_tokens item fuel _ (by omega)]
    dsimp only
    rw [others]
    rfl

theorem membersOfTokens_memberTokens : ∀ (member : String × Json) (more : List (String × Json))
    (fuel : Nat) (rest : List JsonToken), (Json.memberTokens (member :: more)).length < fuel →
      membersOfTokens fuel (Json.memberTokens (member :: more) ++ .closeObject :: rest) =
        (ofMembers (member :: more), true, rest)
  | (name, value), [], fuel, rest, enough => by
    obtain ⟨fuel, rfl⟩ : ∃ n, fuel = n + 1 := ⟨fuel - 1, by omega⟩
    rw [Json.memberTokens, List.length_cons, List.length_cons] at enough
    rw [Json.memberTokens, List.cons_append, List.cons_append, membersOfTokens,
      ofTokens_tokens value fuel (.closeObject :: rest) (by omega)]
    rfl
  | (name, value), next :: more, fuel, rest, enough => by
    obtain ⟨fuel, rfl⟩ : ∃ n, fuel = n + 1 := ⟨fuel - 1, by omega⟩
    rw [Json.memberTokens_cons, List.length_cons, List.length_cons,
      List.length_append, List.length_cons] at enough
    have others := membersOfTokens_memberTokens next more fuel rest (by omega)
    rw [Json.memberTokens_cons, List.cons_append, List.cons_append,
      List.append_assoc, List.cons_append, membersOfTokens, ofTokens_tokens value fuel _ (by omega)]
    dsimp only
    rw [others]
    rfl

end

theorem ofText_of_tokens {text : String} {j : Json}
    (h : JsonToken.tokens text.toList = j.tokens) : ofText text = (ofJson j, true) := by
  have tree := ofTokens_tokens j (2 * j.tokens.length + 2) [] (by omega)
  rw [List.append_nil] at tree
  unfold ofText
  dsimp only
  rw [h, tree]
  rfl

theorem ofText_compact {j : Json} (whole : j.Whole) : ofText j.compact = (ofJson j, true) := by
  refine ofText_of_tokens ?_
  have tokens := JsonToken.tokens_compactChars whole [] nofun
  rwa [List.append_nil, ← String.toList_ofList (l := j.compactChars)] at tokens

theorem ofText_pretty {j : Json} (whole : j.Whole) : ofText j.pretty = (ofJson j, true) := by
  refine ofText_of_tokens ?_
  have tokens := JsonToken.tokens_prettyChars whole 0 [] nofun
  rwa [List.append_nil, ← String.toList_ofList (l := j.prettyChars 0)] at tokens

/-- A line may end behind the text of a value. -/
theorem ofText_line {j : Json} (whole : j.Whole) :
    ofText (j.pretty ++ "\n") = (ofJson j, true) := by
  refine ofText_of_tokens ?_
  rw [Json.pretty, String.toList_append, String.toList_ofList]
  exact JsonToken.tokens_prettyChars whole 0 ['\n'] (List.forall_mem_singleton.mpr rfl)

/-! ## What the tree holds -/

mutual

theorem value?_ofJson : ∀ j : Json, (ofJson j).value? = some j
  | .null | .bool _ | .number _ | .text _ => rfl
  | .list items => by rw [ofJson, value?, itemValues?_ofItems]; rfl
  | .object members => by rw [ofJson, value?, memberValues?_ofMembers]; rfl

theorem itemValues?_ofItems : ∀ items : List Json, itemValues? (ofItems items) = some items
  | [] => rfl
  | item :: rest => by rw [ofItems, itemValues?, value?_ofJson item, itemValues?_ofItems rest]

theorem memberValues?_ofMembers : ∀ members : List (String × Json),
    memberValues? (ofMembers members) = some members
  | [] => rfl
  | (name, value) :: rest => by
    simp only [ofMembers, memberValues?, value?_ofJson value, memberValues?_ofMembers rest]

end

end JsonNode

/-- How many lists and objects lie within one another in a value. -/
def Json.depth (j : Json) : Nat :=
  (JsonNode.ofJson j).depth

theorem Json.depth_item_le {item : Json} {items : List Json} (h : item ∈ items) :
    item.depth + 1 ≤ (Json.list items).depth := by
  refine Nat.succ_le_succ ?_
  induction items with
  | nil => cases h
  | cons first rest ih =>
    rw [JsonNode.ofItems, JsonNode.itemsDepth]
    obtain rfl | h := List.mem_cons.mp h
    · exact Nat.le_max_left _ _
    · exact Nat.le_trans (ih h) (Nat.le_max_right _ _)

theorem Json.depth_member_le {name : String} {value : Json} {members : List (String × Json)}
    (h : (name, value) ∈ members) : value.depth + 1 ≤ (Json.object members).depth := by
  refine Nat.succ_le_succ ?_
  induction members with
  | nil => cases h
  | cons first rest ih =>
    rw [JsonNode.ofMembers, JsonNode.membersDepth]
    obtain rfl | h := List.mem_cons.mp h
    · exact Nat.le_max_left _ _
    · exact Nat.le_trans (ih h) (Nat.le_max_right _ _)

/-! ## Reading what was written -/

namespace JsonReader

variable {α : Type} {r : JsonReader α} {j : Json}

theorem readText_of_tree {text : String} (h : JsonNode.ofText text = (.ofJson j, true)) :
    r.readText text = r (.streamed JsonAccess.maxLevels) (.ofJson j) := by
  rw [readText, h]
  change (r _ _ >>= fun value => pure value) = _
  exact bind_pure _

/-- **A reader of the compact text sees the value**, and so does a reader of the text over lines. -/
theorem readText_compact (whole : j.Whole) :
    r.readText j.compact = r (.streamed JsonAccess.maxLevels) (.ofJson j) :=
  readText_of_tree (JsonNode.ofText_compact whole)

theorem readText_pretty (whole : j.Whole) :
    r.readText j.pretty = r (.streamed JsonAccess.maxLevels) (.ofJson j) :=
  readText_of_tree (JsonNode.ofText_pretty whole)

theorem readText_line (whole : j.Whole) :
    r.readText (j.pretty ++ "\n") = r (.streamed JsonAccess.maxLevels) (.ofJson j) :=
  readText_of_tree (JsonNode.ofText_line whole)

end JsonReader

end SchemaEvolution
