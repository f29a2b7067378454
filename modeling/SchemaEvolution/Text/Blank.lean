/-!
# Blank characters

The characters that Unicode counts as white space, and texts without them at
their ends.
-/

namespace SchemaEvolution

/-- Whether a character has the Unicode property of white space. -/
def isBlank (c : Char) : Bool :=
  let n := c.toNat
  (0x9 ≤ n && n ≤ 0xd) || n == 0x20 || n == 0x85 || n == 0xa0 || n == 0x1680 ||
    (0x2000 ≤ n && n ≤ 0x200a) || n == 0x2028 || n == 0x2029 || n == 0x202f || n == 0x205f ||
    n == 0x3000

/-- A text without the blanks at its ends. -/
def withoutBlankEnds (s : String) : String :=
  String.ofList ((s.toList.dropWhile isBlank).reverse.dropWhile isBlank).reverse

end SchemaEvolution
