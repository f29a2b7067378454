import SchemaEvolution.Time.Instant

/-!
# Reading instants

An instant is read from a text with a full date, a full time and an offset from
universal time, as in `2025-01-31T23:59:00.5+02:00`. Between date and time there
is a `T` of either case or a space; the offset is a `Z` of either case or hours
and minutes with a sign. Of a fraction of a second nine digits count. The second
60 is a leap second, on any minute.
-/

namespace SchemaEvolution.Instant

/-- What is read at the start of a text, and the rest of the text. -/
abbrev Step (α : Type) := List Char → Option (α × List Char)

/-- A number of exactly so many digits. -/
def digits? (count : Nat) : Step Nat := fun cs =>
  let digits := cs.take count
  if digits.length = count ∧ digits.all Char.isDigit then
    some (digits.foldl (fun n c => 10 * n + (c.toNat - '0'.toNat)) 0, cs.drop count)
  else none

/-- One of several characters. -/
def oneOf? (choices : List Char) : Step Char
  | c :: rest => if c ∈ choices then some (c, rest) else none
  | [] => none

/-- The nanoseconds of a fraction, if one follows: a point and at least one
digit. -/
def fraction? : Step Nat
  | '.' :: rest =>
    let digits := rest.takeWhile Char.isDigit
    if digits.isEmpty then none
    else
      let kept := digits.take 9
      let n := kept.foldl (fun n c => 10 * n + (c.toNat - '0'.toNat)) 0
      some (n * Nat.pow 10 (9 - kept.length), rest.dropWhile Char.isDigit)
  | cs => some (0, cs)

/-- The minutes by which a time is ahead of universal time. -/
def offset? : Step Int := fun cs =>
  match oneOf? ['Z', 'z'] cs with
  | some (_, rest) => some (0, rest)
  | none => do
    let (sign, rest) ← oneOf? ['+', '-', '\u2212'] cs
    let (hours, rest) ← digits? 2 rest
    let (_, rest) ← oneOf? [':'] rest
    let (minutes, rest) ← digits? 2 rest
    if hours < 24 ∧ minutes < 60 then
      let ahead : Int := hours * 60 + minutes
      some (if sign = '+' then ahead else -ahead, rest)
    else none

/-- The day at the start of a text. -/
def date? : Step Date := fun cs => do
  let (year, rest) ← digits? 4 cs
  let (_, rest) ← oneOf? ['-'] rest
  let (month, rest) ← digits? 2 rest
  let (_, rest) ← oneOf? ['-'] rest
  let (day, rest) ← digits? 2 rest
  let date ← Date.of? year month day
  some (date, rest)

/-- The instant that a time of a day is when no offset is counted. A leap second
is kept as the second before it. -/
def of? (date : Date) (hour minute second nanosecond : Nat) : Option Instant :=
  let kept := min second 59
  let nano := nanosecond + (if second = 60 then 1000000000 else 0)
  if h : hour < 24 ∧ minute < 60 ∧ second ≤ 60 ∧ nanosecond < 1000000000 then
    some ⟨date, hour * 3600 + minute * 60 + kept, nano, by
      have h1 : kept ≤ 59 := Nat.min_le_right _ _
      have h2 : nano < 2000000000 := by simp only [nano]; split <;> omega
      omega⟩
  else none

/-- The instant that a whole text denotes. -/
def ofChars? (cs : List Char) : Option Instant := do
  let (date, rest) ← date? cs
  let (_, rest) ← oneOf? ['T', 't', ' '] rest
  let (hour, rest) ← digits? 2 rest
  let (_, rest) ← oneOf? [':'] rest
  let (minute, rest) ← digits? 2 rest
  let (_, rest) ← oneOf? [':'] rest
  let (second, rest) ← digits? 2 rest
  let (nanosecond, rest) ← fraction? rest
  let (ahead, rest) ← offset? rest
  if rest.isEmpty then
    let unshifted ← of? date hour minute second nanosecond
    some (unshifted.shift (-ahead))
  else none

/-- The instant that a text denotes. -/
def ofText? (text : String) : Option Instant :=
  ofChars? text.toList

end SchemaEvolution.Instant
