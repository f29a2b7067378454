import SchemaEvolution.Json.Fault
import SchemaEvolution.Json.Node

/-!
# Reading values from JSON

A `JsonReader` turns the tree of a text into a value or into the first fault it
meets. How it treats the tree depends on its `JsonAccess`. A value read straight
from the text is read only as far as the reader asks, and its lists and objects
may lie 127 deep. A value that was held back, because what it is depends on a
tag elsewhere in its object, has been checked whole before.

The two differ in little else: which fault is reported for a choice that is no
string, and for a list that is too long.
-/

namespace SchemaEvolution

/-! ## Faults -/

/-- Why a text could not be read. -/
inductive ReadError where
  /-- The text is not JSON here, or not JSON that has a value. -/
  | malformed
  /-- A value of another kind was expected. -/
  | wrongType
  /-- A list is too short or too long. -/
  | wrongLength
  /-- A value of the right kind that is none of those expected. -/
  | wrongValue
  | missingField (name : String)
  | duplicateField (name : String)
  | unknownVariant (name : String)
  /-- A text that stands for a value is not JSON. -/
  | embedded (fault : JsonFault)
deriving DecidableEq

/-- The text of a fault. -/
def ReadError.message : ReadError → String
  | .malformed => "malformed JSON"
  | .wrongType => "invalid type"
  | .wrongLength => "invalid length"
  | .wrongValue => "invalid value"
  | .missingField name => "missing field `" ++ name ++ "`"
  | .duplicateField name => "duplicate field `" ++ name ++ "`"
  | .unknownVariant name => "unknown variant `" ++ name ++ "`"
  | .embedded fault => fault.message

/-- The fault of a value that is not of the kind asked for. A scalar is looked
at as a whole before it is refused, a list or an object only at its bracket. -/
def JsonNode.mismatch : JsonNode → ReadError
  | .broken | .number none | .text none => .malformed
  | _ => .wrongType

/-! ## Access -/

/-- Where a tree comes from. -/
inductive JsonAccess where
  /-- Straight from the text; so many lists and objects may still be opened
  within one another. -/
  | streamed (levels : Nat)
  /-- From a value that was held back and is known to be without fault. -/
  | held
deriving DecidableEq

namespace JsonAccess

/-- The number of lists and objects that may lie within one another. -/
def maxLevels : Nat := 127

/-- The access to the inside of a list or an object. -/
def enter : JsonAccess → Except ReadError JsonAccess
  | .streamed 0 => .error .malformed
  | .streamed (levels + 1) => .ok (.streamed levels)
  | .held => .ok .held

/-- Whether a value can be held back: it is without fault and not too deep. -/
def holds : JsonAccess → JsonNode → Bool
  | .streamed levels, node => node.value?.isSome && node.depth ≤ levels
  | .held, _ => true

/-- Whether a value can be passed over: it has the form of JSON. -/
def passes : JsonAccess → JsonNode → Bool
  | .streamed _, node => node.wellFormed
  | .held, _ => true

end JsonAccess

/-! ## Readers -/

/-- A way to read a value from the tree of a text. -/
abbrev JsonReader (α : Type) := JsonAccess → JsonNode → Except ReadError α

namespace JsonReader

variable {α β : Type}

/-- The reader followed by a function. -/
def map (f : α → β) (r : JsonReader α) : JsonReader β :=
  fun a node => (r a node).map f

/-- Reads a string. -/
def string : JsonReader String
  | _, .text (some s) => .ok s
  | _, node => .error node.mismatch

/-- Reads `true` or `false`. -/
def bool : JsonReader Bool
  | _, .bool b => .ok b
  | _, node => .error node.mismatch

/-- Reads `null` as nothing and any other value by the reader. -/
def optional (r : JsonReader α) : JsonReader (Option α)
  | _, .null => .ok none
  | a, node => (r a node).map some

/-- Reads the items of a list one by one. -/
def readItems (r : JsonReader α) (a : JsonAccess) : List JsonNode → Except ReadError (List α)
  | [] => .ok []
  | item :: rest => do
    let value ← r a item
    let values ← readItems r a rest
    pure (value :: values)

/-- Reads a list. -/
def list (r : JsonReader α) : JsonReader (List α)
  | a, .list items closed => do
    let a ← a.enter
    let values ← readItems r a items
    if closed then pure values else .error .malformed
  | _, node => .error node.mismatch

/-- Reads the members of an object one by one. -/
def readMembers (r : JsonReader α) (a : JsonAccess) :
    List (Option String × JsonNode) → Except ReadError (List (String × α))
  | [] => .ok []
  | (none, _) :: _ => .error .malformed
  | (some name, node) :: rest => do
    let value ← r a node
    let values ← readMembers r a rest
    pure ((name, value) :: values)

/-- Reads an object as a map; of two members with one name the later one
stays. -/
def nameMap (r : JsonReader α) : JsonReader (NameMap α)
  | a, .object members closed => do
    let a ← a.enter
    let entries ← readMembers r a members
    if closed then pure (NameMap.ofList entries) else .error .malformed
  | _, node => .error node.mismatch

/-- The choice of a name. -/
def choose (choices : List (String × α)) (name : String) : Except ReadError α :=
  match choices.lookup name with
  | some value => .ok value
  | none => .error (.unknownVariant name)

/-- Reads the empty content of a choice written as an object. -/
def emptyContent : JsonReader Unit
  | _, .null => .ok ()
  | .held, .object [] _ => .ok ()
  | _, node => .error node.mismatch

/-- Reads one of several names: as a string, or as an object whose one member
has that name and no content. -/
def choice (choices : List (String × α)) : JsonReader α
  | _, .text (some name) => choose choices name
  | .held, .object [(some name, node)] _ => do
    let value ← choose choices name
    emptyContent .held node
    pure value
  | .held, .object _ _ => .error .wrongValue
  | .held, node => .error node.mismatch
  | .streamed levels, .object members closed => do
    let a ← (JsonAccess.streamed levels).enter
    match members with
    | [] | (none, _) :: _ => .error .malformed
    | (some name, node) :: rest =>
      let value ← choose choices name
      emptyContent a node
      if rest.isEmpty && closed then pure value else .error .malformed
  | .streamed _, _ => .error .malformed

/-- Reads a whole text: one value with nothing but white space around it. -/
def readText (r : JsonReader α) (text : String) : Except ReadError α :=
  match JsonNode.ofText text with
  | (node, ended) => do
    let value ← r (.streamed JsonAccess.maxLevels) node
    if ended then pure value else .error .malformed

end JsonReader

end SchemaEvolution
