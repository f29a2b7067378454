import SchemaEvolution.Json.Reader

/-!
# Reading data from JSON

Any value can be read as data. Where an object stands for the value of a text
(`embeddingName`), that text is read in its place, as a text of its own: its
lists and objects may lie as deep as those of any other. A fault in it is a fault
of the value, and told in the words for it.
-/

namespace SchemaEvolution.JsonReader

/-- The value of the first member of an object, if that is to hold the text of a
value. -/
def embeddedText? : List (Option String × JsonNode) → Option JsonNode
  | (some name, node) :: _ => if name = embeddingName then some node else none
  | _ => none

mutual

/-- Reads any value. `embedded` reads the texts that stand for values. -/
def readValue (embedded : String → Except ReadError Json) :
    JsonAccess → JsonNode → Except ReadError Json
  | _, .null => .ok .null
  | _, .bool b => .ok (.bool b)
  | _, .number (some n) => .ok (.number n)
  | _, .text (some s) => .ok (.text s)
  | _, .number none | _, .text none | _, .broken => .error .malformed
  | a, .list items closed => do
    let a ← a.enter
    let values ← readValues embedded a items
    if closed then pure (.list values) else .error .malformed
  | a, .object members closed => do
    let a ← a.enter
    match embeddedText? members with
    | some node =>
      let value ← embedded (← string a node)
      if members.length = 1 && closed then pure value
      else .error (if a = .held then .wrongLength else .malformed)
    | none =>
      let members ← readNamedValues embedded a members
      if closed then pure (.object members) else .error .malformed

/-- Reads values one by one. -/
def readValues (embedded : String → Except ReadError Json) (a : JsonAccess) :
    List JsonNode → Except ReadError (List Json)
  | [] => .ok []
  | item :: rest => do
    let value ← readValue embedded a item
    let values ← readValues embedded a rest
    pure (value :: values)

/-- Reads the values of members one by one. -/
def readNamedValues (embedded : String → Except ReadError Json) (a : JsonAccess) :
    List (Option String × JsonNode) → Except ReadError (List (String × Json))
  | [] => .ok []
  | (none, _) :: _ => .error .malformed
  | (some name, node) :: rest => do
    let value ← readValue embedded a node
    let values ← readNamedValues embedded a rest
    pure ((name, value) :: values)

end

/-- Reads the value of an embedded text, with so many texts within one another. -/
def readEmbedded : Nat → String → Except ReadError Json
  | 0, _ => .error (.embedded .endInValue)
  | fuel + 1, text =>
    match JsonNode.ofText text with
    | (node, ended) =>
      match readValue (readEmbedded fuel) (.streamed JsonAccess.maxLevels) node with
      | .ok value => if ended then .ok value else .error (.embedded .textBehind)
      | .error .malformed =>
        .error (.embedded ((JsonFault.of? JsonAccess.maxLevels text).getD .textBehind))
      | .error e => .error e

/-- Reads any value as data. A text within a text is shorter, so the length of
the outermost bounds their number. -/
def data : JsonReader JsonData :=
  fun a node =>
    (readValue (fun text => readEmbedded text.length text) a node).map JsonData.of

end SchemaEvolution.JsonReader
