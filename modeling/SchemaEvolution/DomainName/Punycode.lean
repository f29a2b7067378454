/-!
# Punycode

A label with characters beyond the first 128 can be written without them: its
other characters first, then behind a hyphen what has to be put in between. Each
of the characters to put in is told by a number, in the order of the characters
and, for equal ones, of their places: how many places to go on from the last one,
where behind the last place the first one follows, with the next character. The
digits of a number, lowest first, are letters and digits; a digit below a
threshold is the last of its number. The thresholds adapt to the numbers before.
-/

namespace SchemaEvolution.Punycode

/-- The value of a digit. -/
def digit? (c : Char) : Option Nat :=
  if 'a' ≤ c ∧ c ≤ 'z' then some (c.toNat - 'a'.toNat)
  else if 'A' ≤ c ∧ c ≤ 'Z' then some (c.toNat - 'A'.toNat)
  else if c.isDigit then some (c.toNat - '0'.toNat + 26)
  else none

/-- The digit with a value. -/
def digitOf (value : Nat) : Char :=
  if value < 26 then Char.ofNat ('a'.toNat + value) else Char.ofNat ('0'.toNat + value - 26)

/-- The threshold for a digit, where the first digit of a number is at 36, the
second at 72, and so on. -/
def threshold (bias place : Nat) : Nat :=
  if place ≤ bias then 1 else if bias + 26 ≤ place then 26 else place - bias

/-- The bias for numbers of about some size. -/
def biasOf (size : Nat) : Nat :=
  if 455 < size then biasOf (size / 35) + 36 else 36 * size / (size + 38)
termination_by size
decreasing_by omega

/-- The bias behind a number, with so many characters in the label. -/
def nextBias (number count : Nat) (isFirst : Bool) : Nat :=
  let size := if isFirst then number / 700 else number / 2
  biasOf (size + size / count)

theorem threshold_bounds (bias place : Nat) :
    1 ≤ threshold bias place ∧ threshold bias place ≤ 26 := by
  unfold threshold
  split
  · omega
  · split <;> omega

/-! ## Reading -/

/-- What is read of a label. -/
structure Progress where
  label : List Char
  /-- The number of the character that was put in last. -/
  char : Nat
  /-- The place behind it. -/
  place : Nat
  bias : Nat
  /-- What the number that is being read comes to so far. -/
  number : Nat
  /-- What the next digit of it counts; none between numbers. -/
  weight? : Option Nat
  /-- Where the next digit of it is. -/
  digitPlace : Nat

/-- The character with a number, if there is one. -/
def charAt? (n : Nat) : Option Char :=
  if n < 0xd800 || (0xdfff < n && n < 0x110000) then some (Char.ofNat n) else none

namespace Progress

/-- Puts in the character that a number tells of. -/
def putIn? (p : Progress) (number : Nat) : Option Progress := do
  let count := p.label.length + 1
  let char := p.char + (p.place + number) / count
  let place := (p.place + number) % count
  let c ← charAt? char
  pure {
    label := p.label.take place ++ c :: p.label.drop place
    char
    place := place + 1
    bias := nextBias number count (p.place = 0)
    number := 0
    weight? := none
    digitPlace := 36 }

/-- Reads a digit. -/
def read? (p : Progress) (c : Char) : Option Progress := do
  let digit ← digit? c
  let weight := p.weight?.getD 1
  let number := p.number + digit * weight
  let limit := threshold p.bias p.digitPlace
  if digit < limit then p.putIn? number
  else pure { p with
    number
    weight? := some (weight * (36 - limit))
    digitPlace := p.digitPlace + 36 }

end Progress

/-- The characters that are written as they are, and the digits. A hyphen at the
start is no mark between them. -/
def split (cs : List Char) : List Char × List Char :=
  let digits := (cs.reverse.takeWhile (· ≠ '-')).reverse
  let plain := cs.take (cs.length - digits.length - 1)
  if plain.isEmpty then ([], cs) else (plain, digits)

/-- The label that is written so. -/
def label? (cs : List Char) : Option (List Char) := do
  let (plain, digits) := split cs
  let p ← digits.foldlM Progress.read?
    { label := plain, char := 0x80, place := 0, bias := 72, number := 0, weight? := none,
      digitPlace := 36 }
  if p.weight?.isNone then some p.label else none

/-! ## Writing -/

/-- The digits of a number from some place on. -/
def digitsFrom (bias place number : Nat) : List Char :=
  let limit := threshold bias place
  if number < limit then [digitOf number]
  else
    digitOf (limit + (number - limit) % (36 - limit))
      :: digitsFrom bias (place + 36) ((number - limit) / (36 - limit))
termination_by number
decreasing_by
  have := threshold_bounds bias place
  calc (number - threshold bias place) / (36 - threshold bias place)
      ≤ number - threshold bias place := Nat.div_le_self _ _
    _ < number := by omega

/-- What is written of a label. -/
structure Written where
  /-- The digits, last number first. -/
  numbers : List (List Char)
  /-- The number of places since the last character that was written. -/
  number : Nat
  bias : Nat
  /-- How many characters of the label are written. -/
  count : Nat

namespace Written

/-- Goes on over a character of the label when some character is due. -/
def pass (plain : Nat) (due : Char) (w : Written) (c : Char) : Written :=
  if c < due then { w with number := w.number + 1 }
  else if c = due then {
    numbers := digitsFrom w.bias 36 w.number :: w.numbers
    number := 0
    bias := nextBias w.number (w.count + 1) (w.count = plain)
    count := w.count + 1 }
  else w

/-- Goes over a label for each of several characters, in order; all characters
before the one with the number `start` are done. -/
def passAll (label : List Char) (plain : Nat) : Nat → List Char → Written → Written
  | _, [], w => w
  | start, due :: rest, w =>
    let ready := { w with number := w.number + (due.toNat - start) * (w.count + 1) }
    let done := label.foldl (pass plain due) ready
    passAll label plain (due.toNat + 1) rest { done with number := done.number + 1 }

end Written

/-- A label written with the first 128 characters only. -/
def written (label : List Char) : List Char :=
  let plain := label.filter (·.toNat < 0x80)
  let others := ((label.filter (0x80 ≤ ·.toNat)).mergeSort (· ≤ ·)).eraseDups
  let w := Written.passAll label plain.length 0x80 others ⟨[], 0, 72, plain.length⟩
  plain ++ (if plain.isEmpty then [] else ['-']) ++ w.numbers.reverse.flatten

end SchemaEvolution.Punycode
