/-!
# Double-precision numbers

A finite number of the 64-bit binary format, as a sign and a magnitude
`significand · 2 ^ exponent`. The pair is held in the one form the format
stores: fifty-three significant bits unless the exponent is the least one. So
equal magnitudes have equal parts, and comparison never rounds.

`Binary64.nearest?` rounds an exact quotient to the nearest such number, a tie
going to the even significand, and refuses a quotient that rounds beyond the
largest one. All of it is arithmetic on natural numbers.
-/

namespace SchemaEvolution

/-- A finite number of the 64-bit binary format. -/
structure Binary64 where
  /-- Whether the sign is negative; zero has both signs. -/
  negative : Bool
  /-- The significant bits, as a natural number. -/
  significand : Nat
  /-- The power of two that the significand is multiplied by. -/
  exponent : Int
  /-- The stored form: fifty-three bits, or fewer at the least exponent. The two
  limits are `2 ^ 53` and `2 ^ 52`. -/
  stored : significand < 9007199254740992 ∧ -1074 ≤ exponent ∧ exponent ≤ 971 ∧
    (4503599627370496 ≤ significand ∨ exponent = -1074)
deriving DecidableEq

namespace Binary64

/-- Zero, with either sign. -/
def zero (negative : Bool) : Binary64 :=
  ⟨negative, 0, -1074, by decide⟩

instance : Inhabited Binary64 := ⟨zero false⟩

/-- The number with the given parts, if they are in the stored form. -/
def ofParts? (negative : Bool) (significand : Nat) (exponent : Int) : Option Binary64 :=
  if h : significand < 9007199254740992 ∧ -1074 ≤ exponent ∧ exponent ≤ 971 ∧
      (4503599627370496 ≤ significand ∨ exponent = -1074) then
    some ⟨negative, significand, exponent, h⟩
  else none

/-- Numerical equality: the two zeros are equal, all else by its parts. -/
def agrees (x y : Binary64) : Bool :=
  x.significand == y.significand && x.exponent == y.exponent &&
    (x.negative == y.negative || x.significand == 0)

/-! ## Rounding a quotient -/

/-- The natural number nearest to `n / d`; a half goes to the even neighbour. -/
def roundHalfEven (n d : Nat) : Nat :=
  let quotient := n / d
  let twice := 2 * (n % d)
  if d < twice ∨ (twice = d ∧ quotient % 2 = 1) then quotient + 1 else quotient

/-- The quotient `num / den` divided by `2 ^ q`, again as numerator and
denominator. -/
def scaleDown (num den : Nat) (q : Int) : Nat × Nat :=
  if 0 ≤ q then (num, den * Nat.pow 2 q.toNat) else (num * Nat.pow 2 (-q).toNat, den)

/-- The exponent at which the quotient `num / den` has fifty-three bits before
the point, or the least exponent if that is larger. -/
def exponentFor (num den : Nat) : Int :=
  let estimate : Int := max (-1074) ((num.log2 : Int) - den.log2 - 53)
  let (n, d) := scaleDown num den estimate
  if 9007199254740992 ≤ n / d then estimate + 1 else estimate

/-- The double nearest to `num / den`, or `none` if it is too large for one. -/
def nearest? (negative : Bool) (num den : Nat) : Option Binary64 :=
  if num = 0 then some (zero negative)
  else
    let q := exponentFor num den
    let (n, d) := scaleDown num den q
    let m := roundHalfEven n d
    if m = 9007199254740992 then ofParts? negative 4503599627370496 (q + 1)
    else ofParts? negative m q

/-! ## Arithmetic -/

/-- The magnitude of a number as a quotient. -/
def ratio (x : Binary64) : Nat × Nat :=
  if 0 ≤ x.exponent then (x.significand * Nat.pow 2 x.exponent.toNat, 1)
  else (x.significand, Nat.pow 2 (-x.exponent).toNat)

/-- The product with a magnitude, rounded, or `none` if it is too large. -/
def times? (x y : Binary64) : Option Binary64 :=
  nearest? x.negative (x.ratio.1 * y.ratio.1) (x.ratio.2 * y.ratio.2)

/-- The quotient by a magnitude that is not zero, rounded, or `none` if it is too
large. -/
def over? (x y : Binary64) : Option Binary64 :=
  nearest? x.negative (x.ratio.1 * y.ratio.2) (x.ratio.2 * y.ratio.1)

end Binary64

end SchemaEvolution
