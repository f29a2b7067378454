import SchemaEvolution.Json.Basic
import SchemaEvolution.Decimal.Layout

/-!
# Writing JSON

A value has a compact text, without any white space, and a layout over several
lines, indented by two spaces a level, in which an empty list or object stays on
one line. In a string only the quotation mark, the backslash and the characters
below `U+0020` are escaped; everything else is written as it is.

Texts are built as lists of characters, so that what is read from them can be
followed character by character.
-/

namespace SchemaEvolution

/-! ## Numbers -/

/-- Doubles with a leading digit from the fifth place after the point to the
sixteenth before it are written in places, others with a signed exponent. -/
def JsonNumber.layout : DoubleLayout :=
  ⟨-5, 15, "+", .toEven⟩

/-- The digits of a natural number. -/
def decimalDigits (n : Nat) : List Char :=
  Nat.toDigits 10 n

/-- The text of a whole number. -/
def JsonNumber.wholeText (n : Int) : List Char :=
  if n < 0 then '-' :: decimalDigits n.natAbs else decimalDigits n.natAbs

/-- The text of a number. -/
def JsonNumber.text : JsonNumber → List Char
  | .whole n _ => wholeText n
  | .double x => (JsonNumber.layout.render x).toList

/-! ## Strings -/

/-- The digit of a value below sixteen, in lower case. -/
def hexDigit (n : Nat) : Char :=
  Nat.digitChar n

/-- A character as it stands between quotation marks. -/
def escapeChar (c : Char) : List Char :=
  if c = '"' then ['\\', '"']
  else if c = '\\' then ['\\', '\\']
  else if c = '\n' then ['\\', 'n']
  else if c = '\r' then ['\\', 'r']
  else if c = '\t' then ['\\', 't']
  else if c = '\x08' then ['\\', 'b']
  else if c = '\x0c' then ['\\', 'f']
  else if c.val < 0x20 then ['\\', 'u', '0', '0', hexDigit (c.toNat / 16), hexDigit (c.toNat % 16)]
  else [c]

/-- The text of a string. -/
def quotedText (s : String) : List Char :=
  '"' :: (s.toList.flatMap escapeChar ++ ['"'])

/-! ## Values -/

namespace Json

mutual

/-- The text of a value without white space. -/
def compactChars : Json → List Char
  | .null => "null".toList
  | .bool true => "true".toList
  | .bool false => "false".toList
  | .number n => n.text
  | .text s => quotedText s
  | .list items => '[' :: (compactItems items ++ [']'])
  | .object members => '\x7b' :: (compactMembers members ++ ['\x7d'])

/-- The items of a list, with commas between them. -/
def compactItems : List Json → List Char
  | [] => []
  | [item] => item.compactChars
  | item :: rest => item.compactChars ++ ',' :: compactItems rest

/-- The members of an object, with commas between them. -/
def compactMembers : List (String × Json) → List Char
  | [] => []
  | [(name, value)] => quotedText name ++ ':' :: value.compactChars
  | (name, value) :: rest =>
    quotedText name ++ ':' :: (value.compactChars ++ ',' :: compactMembers rest)

end

/-- The start of a line at a level of indentation. -/
def newLine (level : Nat) : List Char :=
  '\n' :: List.replicate (2 * level) ' '

mutual

/-- The text of a value laid out over lines, when it starts at a level of
indentation. -/
def prettyChars (level : Nat) : Json → List Char
  | .null => "null".toList
  | .bool true => "true".toList
  | .bool false => "false".toList
  | .number n => n.text
  | .text s => quotedText s
  | .list [] => ['[', ']']
  | .list (item :: rest) =>
    '[' :: (prettyItems (level + 1) (item :: rest) ++ (newLine level ++ [']']))
  | .object [] => ['\x7b', '\x7d']
  | .object (member :: rest) =>
    '\x7b' :: (prettyMembers (level + 1) (member :: rest) ++ (newLine level ++ ['\x7d']))

/-- The items of a list, each on a line of its own. -/
def prettyItems (level : Nat) : List Json → List Char
  | [] => []
  | [item] => newLine level ++ item.prettyChars level
  | item :: rest => newLine level ++ (item.prettyChars level ++ ',' :: prettyItems level rest)

/-- The members of an object, each on a line of its own. -/
def prettyMembers (level : Nat) : List (String × Json) → List Char
  | [] => []
  | [(name, value)] =>
    newLine level ++ (quotedText name ++ ':' :: ' ' :: value.prettyChars level)
  | (name, value) :: rest =>
    newLine level ++
      (quotedText name ++
        ':' :: ' ' :: (value.prettyChars level ++ ',' :: prettyMembers level rest))

end

/-- The compact text of a value. -/
def compact (j : Json) : String :=
  String.ofList j.compactChars

/-- The text of a value laid out over lines. -/
def pretty (j : Json) : String :=
  String.ofList (j.prettyChars 0)

end Json

end SchemaEvolution
