import SchemaEvolution.Json.Form

/-!
# Alternatives in JSON

A value of several shapes names its shape by a tag, in one of two ways.

Tagged within: the tag is one more member of the object that holds the fields
(`JsonVariant.within`). The tag may stand anywhere among them, so the other
members are held back until the object has ended.

Tagged beside: the object has one member for the tag and one for the content
(`JsonVariant.beside`). A content that follows its tag is read straight from
the text; one that precedes it is held back.

Either may also be a list with the tag first.
-/

namespace SchemaEvolution

namespace JsonVariant

variable {α : Type}

/-! ## Tags within -/

/-- Reads the tag of an alternative. In a value that was held back the place of
the alternative is accepted for its name. -/
def readTag {β : Type} (variants : List (String × β)) : JsonReader β
  | _, .text (some name) => JsonReader.choose variants name
  | .held, .number (some (.whole n _)) =>
    if n < 0 then .error .wrongType
    else
      match variants[n.toNat]? with
      | some (_, value) => .ok value
      | none => .error .wrongValue
  | _, node => .error node.mismatch

/-- Looks for the tag among the members of an object, which are read to their
end: the alternative it names, if it is there, and the other members. -/
def splitTag (tag : String) (variants : List (String × JsonReader α)) (a : JsonAccess) :
    List (Option String × JsonNode) → Option (JsonReader α) →
    Except ReadError (Option (JsonReader α) × List (Option String × JsonNode))
  | [], found => .ok (found, [])
  | (none, _) :: _, _ => .error .malformed
  | (some name, node) :: rest, found =>
    if name = tag then
      match found with
      | some _ => .error (.duplicateField tag)
      | none => do
        let r ← readTag variants a node
        splitTag tag variants a rest (some r)
    else if a.holds node then do
      let (found, others) ← splitTag tag variants a rest found
      pure (found, (some name, node) :: others)
    else .error .malformed

/-- Reads a value whose tag is one of its members, or the first item of a
list. -/
def within (tag : String) (variants : List (String × JsonReader α)) : JsonReader α
  | a, .object members closed => do
    let a ← a.enter
    let (found, others) ← splitTag tag variants a members none
    if !closed then .error .malformed
    else
      match found with
      | some r => r .held (.object others true)
      | none => .error (.missingField tag)
  | a, .list items closed => do
    let a ← a.enter
    match items with
    | [] => .error (if closed then .missingField tag else .malformed)
    | first :: others =>
      let r ← readTag variants a first
      if closed ∧ others.all a.holds then r .held (.list others true) else .error .malformed
  | _, node => .error node.mismatch

/-! ## Tags beside -/

/-- What an alternative with a tag beside it holds. -/
inductive Content (α : Type) where
  /-- Nothing: the content is `null` or left out. -/
  | none (value : α)
  /-- What the reader reads. -/
  | some (r : JsonReader α)

/-- Reads the content of an alternative. -/
def Content.read : Content α → JsonReader α
  | .none value => fun a node =>
    match node with
    | .null => .ok value
    | .list _ _ | .object _ _ => do
      let _ ← a.enter
      .error .wrongType
    | node => .error node.mismatch
  | .some r => r

/-- The value of an alternative whose content is left out. -/
def Content.absent (content : String) : Content α → Except ReadError α
  | .none value => .ok value
  | .some _ => .error (.missingField content)

/-- A member that matters, and the members behind it. -/
inductive Relevant where
  | tag (node : JsonNode) (rest : List (Option String × JsonNode))
  | content (node : JsonNode) (rest : List (Option String × JsonNode))
  /-- The object has ended. -/
  | finished

/-- Passes over members up to the next one that is the tag or the content. -/
def relevant (tag content : String) (a : JsonAccess) (closed : Bool) :
    List (Option String × JsonNode) → Except ReadError Relevant
  | [] => if closed then .ok .finished else .error .malformed
  | (none, _) :: _ => .error .malformed
  | (some name, node) :: rest =>
    if name = tag then .ok (.tag node rest)
    else if name = content then .ok (.content node rest)
    else if a.passes node then relevant tag content a closed rest
    else .error .malformed

/-- Requires that neither the tag nor the content comes again. -/
def finish (tag content : String) (a : JsonAccess) (closed : Bool)
    (members : List (Option String × JsonNode)) (value : α) : Except ReadError α := do
  match ← relevant tag content a closed members with
  | .finished => pure value
  | .tag _ _ => .error (.duplicateField tag)
  | .content _ _ => .error (.duplicateField content)

/-- Reads a value whose tag and content are two members, or the two items of a
list. -/
def beside (tag content : String) (variants : List (String × Content α)) : JsonReader α
  | a, .object members closed => do
    let a ← a.enter
    match ← relevant tag content a closed members with
    | .finished => .error (.missingField tag)
    | .tag node rest =>
      let variant ← JsonReader.choice variants a node
      match ← relevant tag content a closed rest with
      | .finished => variant.absent content
      | .tag _ _ => .error (.duplicateField tag)
      | .content node rest =>
        let value ← variant.read a node
        finish tag content a closed rest value
    | .content held rest =>
      if !a.holds held then .error .malformed
      else
        match ← relevant tag content a closed rest with
        | .finished => .error (.missingField tag)
        | .content _ _ => .error (.duplicateField content)
        | .tag node rest =>
          let variant ← JsonReader.choice variants a node
          let value ← variant.read .held held
          finish tag content a closed rest value
  | a, .list items closed => do
    let a ← a.enter
    match items with
    | [] => .error (if closed then .wrongLength else .malformed)
    | first :: rest =>
      let variant ← readTag variants a first
      match rest with
      | [] => .error (if closed then .wrongLength else .malformed)
      | second :: rest =>
        let value ← variant.read a second
        if !rest.isEmpty then .error (if a = .held then .wrongLength else .malformed)
        else if closed then pure value
        else .error .malformed
  | _, node => .error node.mismatch

end JsonVariant

end SchemaEvolution
