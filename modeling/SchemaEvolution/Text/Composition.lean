import SchemaEvolution.Text.Composites
import SchemaEvolution.Text.Marks

/-!
# Canonical composition

A text can be written in several ways that count as the same: marks of different
ranks behind a letter in any order, and a letter with a mark as one character. In
the composed form the marks stand in the order of their ranks, and whatever can
be one character is one. Here no character counts as the same as another single
one; such characters do not come out of the mapping of domain names.

Syllables of Hangul are made of two or three parts by a rule; all other
composites are in a table.
-/

namespace SchemaEvolution.Composition

/-! ## Hangul -/

/-- The parts of a syllable. -/
def syllableParts (c : Char) : List Char :=
  let n := c.toNat - 0xac00
  let ending := n % 28
  [Char.ofNat (0x1100 + n / 588), Char.ofNat (0x1161 + n % 588 / 28)] ++
    if ending = 0 then [] else [Char.ofNat (0x11a7 + ending)]

/-- Whether a character is a syllable. -/
def isSyllable (c : Char) : Bool :=
  0xac00 ≤ c.toNat && c.toNat ≤ 0xd7a3

/-- The syllable that a character and the part behind it make. -/
def syllable? (a b : Char) : Option Char :=
  let m := a.toNat
  let n := b.toNat
  if 0x1100 ≤ m && m ≤ 0x1112 && 0x1161 ≤ n && n ≤ 0x1175 then
    some (Char.ofNat (0xac00 + ((m - 0x1100) * 21 + (n - 0x1161)) * 28))
  else if isSyllable a && (m - 0xac00) % 28 = 0 && 0x11a7 < n && n ≤ 0x11c2 then
    some (Char.ofNat (m + (n - 0x11a7)))
  else none

/-! ## Single characters -/

/-- The character that two others make. -/
def composite? (a b : Char) : Option Char :=
  (syllable? a b).or <|
    if b.toNat < 0x300 then none
    else (composites.find? fun x => x.first = a && x.second = b).map (·.whole)

/-- The parts of a character, of its first part and so on, at most `fuel` deep. -/
def partsWithin : Nat → Char → List Char
  | 0, c => [c]
  | fuel + 1, c =>
    match composites.find? (·.whole = c) with
    | some x => partsWithin fuel x.first ++ [x.second]
    | none => [c]

/-- The parts of a character. No composite has more than four. -/
def parts (c : Char) : List Char :=
  if c.toNat < 0xc0 then [c]
  else if isSyllable c then syllableParts c
  else partsWithin 3 c

/-! ## Texts -/

/-- Puts a mark on a text that is held backwards, before those of higher ranks. -/
def putMark (mark : Char) : List Char → List Char
  | [] => [mark]
  | c :: rest =>
    if Marks.rank mark < Marks.rank c then c :: putMark mark rest else mark :: c :: rest

/-- A text with its marks in the order of their ranks. -/
def ordered (cs : List Char) : List Char :=
  (cs.foldl (fun done c => if Marks.rank c = 0 then c :: done else putMark c done) []).reverse

/-- What is composed of a text. -/
structure Progress where
  /-- What does not change any more, backwards. -/
  done : List Char
  /-- The last character without a rank. -/
  base? : Option Char
  /-- The marks behind it that it has not taken in, backwards. -/
  marks : List Char

namespace Progress

/-- All that is composed, backwards. -/
def all (p : Progress) : List Char :=
  p.marks ++ p.base?.toList ++ p.done

/-- Adds a character as it is. -/
def add (p : Progress) (c : Char) : Progress :=
  if Marks.rank c = 0 then ⟨p.all, some c, []⟩ else { p with marks := c :: p.marks }

/-- Adds a character: to the last one without a rank, if they make one character
and no mark of the same rank or a higher one is between them. -/
def take (p : Progress) (c : Char) : Progress :=
  let isFree := p.marks.head?.all fun mark => Marks.rank mark < Marks.rank c
  match p.base?.bind fun base => if isFree then composite? base c else none with
  | some whole => { p with base? := some whole }
  | none => p.add c

end Progress

/-- The composed form of a text. -/
def composed (cs : List Char) : List Char :=
  ((ordered (cs.flatMap parts)).foldl Progress.take ⟨[], none, []⟩).all.reverse

end SchemaEvolution.Composition
