import SchemaEvolution.Decimal.Binary64

/-!
# Decimals read in double precision

A decimal text can have more digits than a double. It is read in few steps, each
of which rounds: the leading digits, as many as a word of sixty-four bits holds,
are a whole number, which is rounded to a double; the double is then multiplied
or divided by a power of ten, which is rounded itself. The outcome may be a
neighbour of the double nearest to the text.

`Decimal.leading` takes the digits apart, `Binary64.scaled?` does the arithmetic.
-/

namespace SchemaEvolution

/-! ## Leading digits -/

/-- The digits that still fit into a word of sixty-four bits behind a number,
added to it, and the digits from the first that does not fit. The limit is
`2 ^ 64`. -/
def Decimal.takeFitting (n : Nat) : List Char → Nat × List Char
  | [] => (n, [])
  | c :: rest =>
    let next := 10 * n + (c.toNat - '0'.toNat)
    if next < 18446744073709551616 then Decimal.takeFitting next rest else (n, c :: rest)

/-- The whole number that stands for the digits before and after a point, and
the power of ten that it is to be multiplied by. Digits before the point that do
not fit count as zeros; digits after it that do not fit are left out. -/
def Decimal.leading (whole fraction : List Char) : Nat × Int :=
  let (n, dropped) := Decimal.takeFitting 0 whole
  let (n, left) := Decimal.takeFitting n fraction
  (n, (dropped.length : Int) - (fraction.length - left.length : Nat))

/-! ## Scaling -/

namespace Binary64

/-- A power of ten, rounded; none if it is too large. -/
def powerOfTen? (k : Nat) : Option Binary64 :=
  nearest? false (Nat.pow 10 k) 1

/-- A number scaled by a power of ten that has a double, in one step. -/
def scaledOnce? (x : Binary64) (exponent : Int) : Option Binary64 := do
  let power ← powerOfTen? exponent.natAbs
  if 0 ≤ exponent then x.times? power else x.over? power

/-- The whole number `n`, rounded and scaled by a power of ten, or `none` if that
is too large. The greatest power of ten that has a double is `10 ^ 308`; below
the reach of one step there is a second, and below the reach of two nothing but
zero is left. -/
def scaled? (negative : Bool) (n : Nat) (exponent : Int) : Option Binary64 := do
  let x ← nearest? negative n 1
  if n = 0 || exponent < -616 then pure (zero negative)
  else if 308 < exponent then none
  else if exponent < -308 then (← x.scaledOnce? (-308)).scaledOnce? (exponent + 308)
  else x.scaledOnce? exponent

end Binary64

end SchemaEvolution
