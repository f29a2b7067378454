import SchemaEvolution.Text.Marks

/-!
# Directions

Letters are written from left to right or from right to left, and digits and
marks take their place among them. If any label of a domain name has letters or
digits of the scripts from right to left, then all labels have to keep rules by
which each stays in one piece when it is shown. The tables are of the Unicode
standard (version 17), as far as domain names have the characters.
-/

namespace SchemaEvolution.DomainName

/-- What a character does to the direction of a text. -/
inductive Direction where
  | leftToRight
  | rightToLeft
  | arabicLetter
  | arabicNumber
  | europeanNumber
  | numberSeparator
  | numberEnd
  | commonSeparator
  | neutral
  | boundary
  | mark
deriving DecidableEq

/-- The characters of each direction but the first and the last, beyond the first
128 characters. -/
def directions : List (Direction × List CharRange) :=
  [(.rightToLeft, CharRange.table
    ["5be 5c0 5c3 5c6 5d0-5f4 7c0-7ea 7f4-7f5 7fa 7fe-815 81a 824 828 830-858 85e 10800-1091b",
    "10920-10a00 10a10-10a35 10a40-10ae4 10aeb-10b35 10b40-10cff 10d4a-10d4f 10d6f-10d8f",
    "10e80-10ea9 10ead-10eb1 10f00-10f27 10f70-10f81 10f86-10ff6 1e800-1e8cf 1e922-1e943",
    "1e94b-1e95f"]),
    (.arabicLetter, CharRange.table
    ["608 60b 60d 61b-64a 66d-66f 671-6d5 6e5-6e6 6ee-6ef 6fa-710 712-72f 74d-7a5 7b1 860-88f",
    "8a0-8c9 fbb2-fbc2 fe73 10d00-10d23 10ec2-10ec7 10f30-10f45 10f51-10f59 1ec71-1ed3d"]),
    (.arabicNumber, CharRange.table
    ["660-669 66b-66c 10d30-10d49 10e60-10e7e"]),
    (.europeanNumber, CharRange.table
    ["6f0-6f9 102e1-102fb"]),
    (.numberSeparator, CharRange.table
    ["2212"]),
    (.numberEnd, CharRange.table
    ["a2-a5 b0-b1 58f 609-60a 66a 9f2-9f3 9fb af1 bf9 e3f 17db 2030-2032 20a0-20c1 212e 2213",
    "a838-a839 11fdd-11fe0 1e2ff"]),
    (.commonSeparator, CharRange.table
    ["60c 2044"]),
    (.neutral, CharRange.table
    ["a1 a6-ae b6-d7 f7 2b9-2ba 2c2-2cf 2d2-2ed 2ef-2ff 375 3f6 58a-58e 606-607 60e-60f 6de 6e9",
    "7f6-7f9 bf3-bf8 bfa c78-c7e f3a-f3d 1390-1399 1400 169b-169c 17f0-180a 1940-1945 19de-19ff",
    "2010-2027 2035-2043 2045-205e 2104-2129 213a-214d 218a-2211 2214-2335 237b-2394 2396-26ab",
    "26ad-27ff 2900-2bff 2ce5-2cea 2cf9-2cff 2e00-3004 3008-3020 3030 3037 303d-303f 30a0 30fb",
    "31c0-31e5 4dc0-4dff a490-a4c6 a60d-a60f a673 a67e-a67f a700-a721 a788 a828-a82b a874-a877",
    "ab6a-ab6b fbc3-fdff fe45-fe46 10101 10140-1018c 10190-101a0 1091f 10b39-10b3f 10d6e",
    "10ed0-10ed8 11052-11065 11660-1166c 11fd5-11fdc 11fe1-11ff1 16fe2 1cc00-1cef0 1d1e9-1d241",
    "1d245 1d300-1d356 1eef0-1f12f 1f16d-1f16f 1f1ad 1f260-1fbfa"]),
    (.boundary, CharRange.table
    ["200c-200d"])]

/-- The marks that go from left to right, by their numbers. -/
def leftToRightMarks : List Nat :=
  [0xcbf, 0xcc6, 0x11a07, 0x11a08, 0x11c3f]

/-- The direction of a character of the first 128. -/
def plainDirection (c : Char) : Direction :=
  if c.isAlpha then .leftToRight
  else if c.isDigit then .europeanNumber
  else if c = '+' || c = '-' then .numberSeparator
  else if c = '$' then .numberEnd
  else if c = ',' || c = '.' then .commonSeparator
  else .neutral

/-- The direction of a character. -/
def direction (c : Char) : Direction :=
  if c.toNat < 0x80 then plainDirection c
  else
    match directions.find? fun d => CharRange.anyHas d.2 c with
    | some d => d.1
    | none =>
      if Marks.isNonspacing c && !leftToRightMarks.contains c.toNat then .mark else .leftToRight

namespace Direction

/-- Whether characters of a direction make a name one with two directions. -/
def turns : Direction → Bool
  | .rightToLeft | .arabicLetter | .arabicNumber => true
  | _ => false

/-- Whether characters of a direction are at home in labels of both kinds. -/
def isNeutral : Direction → Bool
  | .europeanNumber | .numberSeparator | .numberEnd | .commonSeparator | .neutral | .boundary
  | .mark => true
  | _ => false

/-- Whether a label whose first character has some direction keeps the rules with
the directions behind it, those of marks at its end left out. -/
def runsThrough (first : Direction) (rest : List Direction) : Bool :=
  match first with
  | .leftToRight =>
    rest.all (fun d => d = .leftToRight || d.isNeutral)
      && rest.getLast?.all fun d => d = .leftToRight || d = .europeanNumber
  | .rightToLeft | .arabicLetter =>
    rest.all (fun d => d.turns || d.isNeutral)
      && rest.getLast?.all (fun d => d.turns || d = .europeanNumber)
      && !(rest.contains .europeanNumber && rest.contains .arabicNumber)
  | _ => false

end Direction

/-- Whether a label keeps the rules for names with two directions. -/
def keepsDirection (label : List Char) : Bool :=
  match label.map direction with
  | [] => true
  | first :: rest => first.runsThrough (rest.reverse.dropWhile (· = .mark)).reverse

/-- Whether labels keep the rules for names with two directions, if they are
such. -/
def directionsFit (labels : List (List Char)) : Bool :=
  !(labels.any (·.any fun c => (direction c).turns)) || labels.all keepsDirection

end SchemaEvolution.DomainName
