import SchemaEvolution.Json.Reader

/-!
# Records in JSON

A `JsonForm` describes how a record is read: a blank record, and for each field
a name, a way to fill it in and when it may be left out. A record stands in a
text as an object, with its fields in any order and among members of other
names, or as a list of its fields in the order of the form.

Faults are reported in the order of the text. A repeated field is reported at
its name, before its second value is looked at; a missing one at the end of the
object, the first in the order of the form.
-/

namespace SchemaEvolution

/-- When a field may be left out. -/
inductive FieldPresence where
  /-- Never. -/
  | required
  /-- From an object. -/
  | nullable
  /-- From an object, and from the end of a list. -/
  | defaulted
deriving DecidableEq

/-- A field of a record. -/
structure JsonField (α : Type) where
  name : String
  presence : FieldPresence
  /-- Reads the value of the field and says how it enters the record. -/
  fill : JsonReader (α → α)

/-- The fields of a record and the record that they are filled into. -/
structure JsonForm (α : Type) where
  blank : α
  fields : List (JsonField α)

namespace JsonField

variable {α β : Type}

/-- A field that is always there. -/
def required (name : String) (r : JsonReader β) (set : β → α → α) : JsonField α :=
  ⟨name, .required, r.map set⟩

/-- A field that is nothing when it is `null` or left out of an object. -/
def nullable (name : String) (r : JsonReader β) (set : Option β → α → α) : JsonField α :=
  ⟨name, .nullable, r.optional.map set⟩

/-- A field that is nothing when it is `null` or left out. -/
def optional (name : String) (r : JsonReader β) (set : Option β → α → α) : JsonField α :=
  ⟨name, .defaulted, r.optional.map set⟩

/-- A field that keeps the value of the blank record when it is left out. -/
def defaulted (name : String) (r : JsonReader β) (set : β → α → α) : JsonField α :=
  ⟨name, .defaulted, r.map set⟩

end JsonField

namespace JsonForm

variable {α : Type}

/-- Fills in the members of an object one by one. `seen` are the names of the
fields filled in so far. -/
def readMembers (form : JsonForm α) (a : JsonAccess) :
    List (Option String × JsonNode) → List String → α → Except ReadError (List String × α)
  | [], seen, record => .ok (seen, record)
  | (none, _) :: _, _, _ => .error .malformed
  | (some name, node) :: rest, seen, record =>
    match form.fields.find? (·.name == name) with
    | some field =>
      if name ∈ seen then .error (.duplicateField name)
      else do
        let update ← field.fill a node
        readMembers form a rest (name :: seen) (update record)
    | none =>
      if a.passes node then readMembers form a rest seen record else .error .malformed

/-- Fills in fields from the items of a list one by one. -/
def readItems (a : JsonAccess) (closed : Bool) :
    List (JsonField α) → List JsonNode → α → Except ReadError α
  | [], [], record => if closed then .ok record else .error .malformed
  | [], _ :: _, _ => .error (if a = .held then .wrongLength else .malformed)
  | field :: fields, [], record =>
    if !closed then .error .malformed
    else if field.presence = .defaulted then readItems a closed fields [] record
    else .error .wrongLength
  | field :: fields, item :: items, record => do
    let update ← field.fill a item
    readItems a closed fields items (update record)

/-- The first field that is required and was not filled in. -/
def missing? (form : JsonForm α) (seen : List String) : Option String :=
  (form.fields.find? fun f => f.presence = .required ∧ f.name ∉ seen).map (·.name)

/-- Reads a record. -/
def read (form : JsonForm α) : JsonReader α
  | a, .object members closed => do
    let a ← a.enter
    let (seen, record) ← form.readMembers a members [] form.blank
    if !closed then .error .malformed
    else
      match form.missing? seen with
      | some name => .error (.missingField name)
      | none => pure record
  | a, .list items closed => do
    let a ← a.enter
    readItems a closed form.fields items form.blank
  | _, node => .error node.mismatch

end JsonForm

end SchemaEvolution
