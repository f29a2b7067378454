import SchemaEvolution.Json.Token

/-!
# What a JSON text shows, as far as it can be read

A text is read from its start, and the first thing wrong with it decides how the
reading ends: a text whose second member has the wrong kind of value and whose
third is cut off fails for the second. So the tree of a text, `JsonNode`, also
exists for a text that stops being JSON somewhere. The place is then part of the
tree: a value that is `broken`, or a list or object that is not closed. A reader
that walks the tree in the order of the text meets its faults in that order.

For a text without fault the tree is a `Json` value (`JsonNode.value?`).
-/

namespace SchemaEvolution

/-- The tree of a text, up to the first place where the text is not JSON. -/
inductive JsonNode where
  | null
  | bool (value : Bool)
  /-- A number, or `none` for one beyond the range of doubles. -/
  | number (value : Option JsonNumber)
  /-- A string, or `none` for one with an unpaired surrogate. -/
  | text (value : Option String)
  | list (items : List JsonNode) (closed : Bool)
  | object (members : List (Option String × JsonNode)) (closed : Bool)
  /-- No value stands here. -/
  | broken

namespace JsonNode

instance : Inhabited JsonNode := ⟨.broken⟩

/-! ## From tokens -/

mutual

/-- The tree at the start of a list of tokens and the tokens behind it. Behind
a fault nothing is left. -/
def ofTokens : Nat → List JsonToken → JsonNode × List JsonToken
  | _, .null :: rest => (.null, rest)
  | _, .bool b :: rest => (.bool b, rest)
  | _, .number n :: rest => (.number n, rest)
  | _, .text s :: rest => (.text s, rest)
  | _, .openList :: .closeList :: rest => (.list [] true, rest)
  | fuel + 1, .openList :: rest =>
    match itemsOfTokens fuel rest with
    | (items, closed, rest) => (.list items closed, rest)
  | _, .openObject :: .closeObject :: rest => (.object [] true, rest)
  | fuel + 1, .openObject :: rest =>
    match membersOfTokens fuel rest with
    | (members, closed, rest) => (.object members closed, rest)
  | _, _ => (.broken, [])

/-- The items of a list from the first one on, and whether the list is closed. -/
def itemsOfTokens : Nat → List JsonToken → List JsonNode × Bool × List JsonToken
  | 0, _ => ([.broken], false, [])
  | fuel + 1, ts =>
    match ofTokens fuel ts with
    | (item, .comma :: rest) =>
      match itemsOfTokens fuel rest with
      | (items, closed, rest) => (item :: items, closed, rest)
    | (item, .closeList :: rest) => ([item], true, rest)
    | (item, _) => ([item], false, [])

/-- The members of an object from the first one on, and whether the object is
closed. -/
def membersOfTokens : Nat → List JsonToken →
    List (Option String × JsonNode) × Bool × List JsonToken
  | 0, _ => ([], false, [])
  | fuel + 1, .text name :: .colon :: ts =>
    match ofTokens fuel ts with
    | (value, .comma :: rest) =>
      match membersOfTokens fuel rest with
      | (members, closed, rest) => ((name, value) :: members, closed, rest)
    | (value, .closeObject :: rest) => ([(name, value)], true, rest)
    | (value, _) => ([(name, value)], false, [])
  | _, .text name :: _ => ([(name, .broken)], false, [])
  | _, _ => ([], false, [])

end

/-- The tree of a text, and whether the text ends behind it. Two steps a token
are enough: one for a value and one for its place in a list or object. -/
def ofText (text : String) : JsonNode × Bool :=
  let tokens := JsonToken.tokens text.toList
  match ofTokens (2 * tokens.length + 2) tokens with
  | (node, rest) => (node, rest.isEmpty)

/-! ## What a tree holds -/

mutual

/-- The JSON value of a tree without fault. -/
def value? : JsonNode → Option Json
  | .null => some .null
  | .bool b => some (.bool b)
  | .number n => n.map .number
  | .text s => s.map .text
  | .list items true => (itemValues? items).map .list
  | .list _ false => none
  | .object members true => (memberValues? members).map .object
  | .object _ false => none
  | .broken => none

/-- The JSON values of trees without fault. -/
def itemValues? : List JsonNode → Option (List Json)
  | [] => some []
  | item :: rest =>
    match item.value?, itemValues? rest with
    | some value, some values => some (value :: values)
    | _, _ => none

/-- The members of an object whose names and values are without fault. -/
def memberValues? : List (Option String × JsonNode) → Option (List (String × Json))
  | [] => some []
  | (name, node) :: rest =>
    match name, node.value?, memberValues? rest with
    | some name, some value, some values => some ((name, value) :: values)
    | _, _, _ => none

end

mutual

/-- Whether a tree has the form of JSON throughout. Numbers and strings that
denote nothing pass. -/
def wellFormed : JsonNode → Bool
  | .null | .bool _ | .number _ | .text _ => true
  | .list items closed => closed && itemsWellFormed items
  | .object members closed => closed && membersWellFormed members
  | .broken => false

/-- Whether all items have the form of JSON. -/
def itemsWellFormed : List JsonNode → Bool
  | [] => true
  | item :: rest => item.wellFormed && itemsWellFormed rest

/-- Whether the values of all members have the form of JSON. -/
def membersWellFormed : List (Option String × JsonNode) → Bool
  | [] => true
  | (_, value) :: rest => value.wellFormed && membersWellFormed rest

end

mutual

/-- How many lists and objects lie within one another. -/
def depth : JsonNode → Nat
  | .list items _ => itemsDepth items + 1
  | .object members _ => membersDepth members + 1
  | _ => 0

/-- The greatest depth of an item. -/
def itemsDepth : List JsonNode → Nat
  | [] => 0
  | item :: rest => max item.depth (itemsDepth rest)

/-- The greatest depth of the value of a member. -/
def membersDepth : List (Option String × JsonNode) → Nat
  | [] => 0
  | (_, value) :: rest => max value.depth (membersDepth rest)

end

end JsonNode

end SchemaEvolution
