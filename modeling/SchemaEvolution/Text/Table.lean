import SchemaEvolution.Text.Hex

/-!
# Tables of characters

A property of characters is held in a table of ranges. A table is written in lines
of words with blanks between them, and characters in it by their hexadecimal
numbers: `300-36f` is a range, `ad` a single character, `300-314=e6` a range with
a value, and `132=69.6a` a character with two.
-/

namespace SchemaEvolution

/-- The character with a hexadecimal number. -/
def charOfHex (word : String) : Char :=
  Char.ofNat (hexNumber word.toList)

/-- The words of a table. -/
def wordsOf (lines : List String) : List String :=
  lines.flatMap (·.splitToList (· = ' '))

/-- A range of characters, by the numbers of the first and the last. -/
structure CharRange where
  first : Nat
  last : Nat
deriving DecidableEq

namespace CharRange

/-- Whether a character is in a range. -/
def has (r : CharRange) (c : Char) : Bool :=
  r.first ≤ c.toNat && c.toNat ≤ r.last

/-- Whether a character is in one of several ranges. -/
def anyHas (table : List CharRange) (c : Char) : Bool :=
  table.any (·.has c)

/-- The range that a word tells of. -/
def ofWord (word : String) : CharRange :=
  match (word.splitToList (· = '-')).map fun w => hexNumber w.toList with
  | [first, last] => ⟨first, last⟩
  | numbers => ⟨numbers.headD 0, numbers.headD 0⟩

/-- The ranges that the lines of a table tell of. -/
def table (lines : List String) : List CharRange :=
  (wordsOf lines).map ofWord

/-- The range with values that a word tells of. -/
def ofWordWithValues (word : String) : CharRange × List Nat :=
  let cs := word.toList
  let values := String.ofList ((cs.dropWhile (· ≠ '=')).drop 1)
  (ofWord (String.ofList (cs.takeWhile (· ≠ '='))),
    if values.isEmpty then []
    else (values.splitToList (· = '.')).map fun w => hexNumber w.toList)

/-- The ranges with values that the lines of a table tell of. -/
def tableOfValues (lines : List String) : List (CharRange × List Nat) :=
  (wordsOf lines).map ofWordWithValues

/-- The first range with values that has a character. -/
def entry? (table : List (CharRange × List Nat)) (c : Char) : Option (CharRange × List Nat) :=
  table.find? (·.1.has c)

end CharRange

end SchemaEvolution
