/-!
# Instants

An instant is a day of the calendar and a time of that day, in universal time,
to the nanosecond. It is held by its calendar fields, so it is written without
arithmetic, and comparing instants is comparing fields from the left.

A leap second is the last second of its minute going on for more than a second:
its nanoseconds reach beyond `10 ^ 9`.
-/

namespace SchemaEvolution

/-! ## Days -/

/-- Whether a year has a 29th of February. -/
def isLeapYear (year : Int) : Bool :=
  year % 4 == 0 && (year % 100 != 0 || year % 400 == 0)

/-- The number of days of a month. -/
def daysInMonth (year : Int) (month : Nat) : Nat :=
  match month with
  | 4 | 6 | 9 | 11 => 30
  | 2 => if isLeapYear year then 29 else 28
  | _ => 31

theorem daysInMonth_pos (year : Int) (month : Nat) : 1 ≤ daysInMonth year month := by
  unfold daysInMonth
  split <;> (try split) <;> decide

/-- A day of the calendar. -/
structure Date where
  year : Int
  month : Nat
  day : Nat
  valid : 1 ≤ month ∧ month ≤ 12 ∧ 1 ≤ day ∧ day ≤ daysInMonth year month
deriving DecidableEq

namespace Date

/-- The day with the given fields, if there is one. -/
def of? (year : Int) (month day : Nat) : Option Date :=
  if h : 1 ≤ month ∧ month ≤ 12 ∧ 1 ≤ day ∧ day ≤ daysInMonth year month then
    some ⟨year, month, day, h⟩
  else none

/-- The day after. -/
def next (d : Date) : Date :=
  if h : d.day < daysInMonth d.year d.month then
    ⟨d.year, d.month, d.day + 1, by have := d.valid; omega⟩
  else if h : d.month < 12 then
    ⟨d.year, d.month + 1, 1, by
      have := d.valid
      have := daysInMonth_pos d.year (d.month + 1)
      omega⟩
  else ⟨d.year + 1, 1, 1, by simp [daysInMonth]⟩

/-- The day before. -/
def previous (d : Date) : Date :=
  if h : 1 < d.day then
    ⟨d.year, d.month, d.day - 1, by have := d.valid; omega⟩
  else if h : 1 < d.month then
    ⟨d.year, d.month - 1, daysInMonth d.year (d.month - 1), by
      have := d.valid
      have := daysInMonth_pos d.year (d.month - 1)
      omega⟩
  else ⟨d.year - 1, 12, 31, by simp [daysInMonth]⟩

end Date

/-! ## Instants -/

/-- An instant in universal time. -/
structure Instant where
  date : Date
  /-- The seconds of the day that are over. -/
  second : Nat
  nanosecond : Nat
  valid : second < 86400 ∧ nanosecond < 2000000000
deriving DecidableEq

namespace Instant

/-- Midnight is a time of every day. -/
theorem valid_midnight : 0 < 86400 ∧ 0 < 2000000000 := by decide

/-- The fields of an instant in the order in which instants are compared. -/
def key (t : Instant) : List Int :=
  [t.date.year, t.date.month, t.date.day, t.second, t.nanosecond]

instance : LT Instant := ⟨fun a b => a.key < b.key⟩

instance (a b : Instant) : Decidable (a < b) :=
  inferInstanceAs (Decidable (a.key < b.key))

/-- The instant some minutes later, or earlier if their number is negative, when
they are less than a day. -/
def shift (t : Instant) (minutes : Int) : Instant :=
  let second := t.second + 60 * minutes
  let onDay (date : Date) : Instant :=
    ⟨date, (second % 86400).toNat, t.nanosecond, by have := t.valid; omega⟩
  if second < 0 then onDay t.date.previous
  else if 86400 ≤ second then onDay t.date.next
  else onDay t.date

/-! ## Texts -/

/-- A number with at least the given count of digits. -/
def padded (width n : Nat) : String :=
  let digits := Nat.toDigits 10 n
  String.ofList (List.replicate (width - digits.length) '0' ++ digits)

/-- A year: four digits, or a sign and at least four if it has not four. -/
def yearText (year : Int) : String :=
  if 0 ≤ year ∧ year ≤ 9999 then padded 4 year.toNat
  else (if year < 0 then "-" else "+") ++ padded 4 year.natAbs

/-- The second of the minute; within a leap second it is the sixtieth. -/
def secondOfMinute (t : Instant) : Nat :=
  t.second % 60 + t.nanosecond / 1000000000

/-- The fields of an instant down to the second, each with what stands before
it. -/
def fields (t : Instant) (dash gap colon : String) : String :=
  yearText t.date.year ++ dash ++ padded 2 t.date.month ++ dash ++ padded 2 t.date.day ++ gap ++
    padded 2 (t.second / 3600) ++ colon ++ padded 2 (t.second / 60 % 60) ++ colon ++
    padded 2 t.secondOfMinute

/-- The part of a second: nothing, or a point and as many of three, six or nine
digits as it takes. -/
def fractionText (t : Instant) : String :=
  let nano := t.nanosecond % 1000000000
  if nano = 0 then ""
  else if nano % 1000000 = 0 then "." ++ padded 3 (nano / 1000000)
  else if nano % 1000 = 0 then "." ++ padded 6 (nano / 1000)
  else "." ++ padded 9 nano

/-- The text of an instant, as in `2025-01-31T23:59:00.500Z`. -/
def text (t : Instant) : String :=
  t.fields "-" "T" ":" ++ t.fractionText ++ "Z"

/-- The text of an instant to the second, as in `2025-01-31 23:59:00`. -/
def plainText (t : Instant) : String :=
  t.fields "-" " " ":"

/-- The digits of an instant to the second, as in `20250131235900`. -/
def stamp (t : Instant) : String :=
  t.fields "" "" ""

end Instant

end SchemaEvolution
