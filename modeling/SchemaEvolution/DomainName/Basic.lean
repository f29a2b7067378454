import SchemaEvolution.DomainName.Direction
import SchemaEvolution.DomainName.Joining
import SchemaEvolution.DomainName.Mapping
import SchemaEvolution.DomainName.Punycode
import SchemaEvolution.Text.Composition
import SchemaEvolution.Text.Search

/-!
# Domain names

A domain name is a text of labels with points between them, with characters of
any script. `DomainName.labels?` tells which labels a text stands for, if it is a
domain name, with the first 128 characters only: a label with others is written
by `Punycode`, behind `xn--`. A label that begins so is kept; what it stands for
has to keep the same rules, and could not be written in another way.
-/

namespace SchemaEvolution.DomainName

/-- Whether a label is too long to be written without characters beyond the first
128. -/
def isTooLong (label : List Char) : Bool :=
  1000 < label.length && label.any (0x80 ≤ ·.toNat)

/-- Whether the characters of a label fit together. -/
def isLabel (label : List Char) : Bool :=
  !(label.head?.any Marks.isMark) && joinersFit [] label && !isTooLong label

/-- Whether a text is too long, or not of the kind, to write a label behind
`xn--`. -/
def isUnreadable (cs : List Char) : Bool :=
  cs.isEmpty || cs.getLast? = some '-' || 2000 < cs.length || cs.any (0x80 ≤ ·.toNat)

/-- The label that is written so behind `xn--`. -/
def writtenLabel? (cs : List Char) : Option (List Char) := do
  if isUnreadable cs then none
  let label ← Punycode.label? cs
  if label.any fun c => isReserved c || c = '.' || !isLasting c then none
  if Composition.composed label = label then some label else none

/-- A label in the characters that it stands for. -/
def shownLabel? (label : List Char) : Option (List Char) :=
  match label with
  | 'x' :: 'n' :: '-' :: '-' :: rest => writtenLabel? rest
  | _ => some label

/-- A label in the first 128 characters. -/
def plainLabel (label : List Char) : List Char :=
  if label.all (·.toNat < 0x80) then label
  else ['x', 'n', '-', '-'] ++ Punycode.written label

/-- The labels of a domain name, in the first 128 characters. -/
def labels? (cs : List Char) : Option (List (List Char)) := do
  let name := Composition.composed (← meaningOf? cs)
  if name.any isReserved then none
  let labels := piecesAt '.' name
  let shown ← labels.mapM shownLabel?
  if shown.all isLabel && directionsFit shown then some (labels.map plainLabel) else none

end SchemaEvolution.DomainName
