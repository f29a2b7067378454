import SchemaEvolution.DomainName.Table

/-!
# What characters stand for in domain names

Domain names are the same in capital and in small letters and in letters of other
shapes, and some characters in them count for nothing. Each character stands for
others, mostly for itself alone.
-/

namespace SchemaEvolution.DomainName

/-- The characters that a character of the table stands for. -/
def replacement? (c : Char) : Option (List Char) :=
  match CharRange.entry? replaced c with
  | some (range, [n]) => some [Char.ofNat (n + (c.toNat - range.first))]
  | some (_, numbers) => some (numbers.map Char.ofNat)
  | none => none

/-- Whether a letter stands for the one behind it. -/
def isFirstOfPair (c : Char) : Bool :=
  paired.any fun r => r.has c && (c.toNat - r.first) % 2 = 0

/-- The characters that a character stands for; none if no domain name has it. -/
def meaning? (c : Char) : Option (List Char) :=
  if c.toNat < 0x80 then some [c.toLower]
  else if CharRange.anyHas refused c then none
  else if isFirstOfPair c then some [Char.ofNat (c.toNat + 1)]
  else some ((replacement? c).getD [c])

/-- The characters that a text stands for. -/
def meaningOf? (cs : List Char) : Option (List Char) :=
  (cs.mapM meaning?).map List.flatten

/-- Whether a character stands for itself. -/
def isLasting (c : Char) : Bool :=
  meaning? c == some [c]

/-- Whether a character of the first 128 has no place in a domain name: it does
not show, or it parts a URL. -/
def isReserved (c : Char) : Bool :=
  c ≤ ' ' || c = '\x7f' ||
    ['#', '%', '/', ':', '<', '>', '?', '@', '[', '\\', ']', '^', '|'].contains c

end SchemaEvolution.DomainName
