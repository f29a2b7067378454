import SchemaEvolution.Decimal.Binary64

/-!
# The shortest decimal that reads back

The reals that round to a double form an interval around it, which contains its
ends exactly when the significand is even. `Binary64.shortest` looks for a
decimal in that interval with one significant digit, then with two, and so on:
on each decimal grid only the two neighbours of the double can be the nearest
point, so these two are tested. The first grid with a hit wins, and of two hits
the nearer one. When both are as near, a `TieRule` decides. Seventeen digits
always suffice.
-/

namespace SchemaEvolution

/-- A decimal magnitude `digits · 10 ^ exponent`. -/
structure Decimal where
  digits : Nat
  exponent : Int
deriving DecidableEq

/-- Which of two decimals stands for a double halfway between them. -/
inductive TieRule where
  /-- The one with the even last digit. -/
  | toEven
  /-- The greater one. -/
  | up
deriving DecidableEq

/-- Whether of two neighbours `c` and `c + 1` the second one stands for what lies
halfway between them. -/
def TieRule.takesUpper : TieRule → Nat → Bool
  | .toEven, c => c % 2 = 1
  | .up, _ => true

namespace Decimal

/-- The same magnitude without trailing zeros among the digits; `fuel` bounds
the number of zeros dropped. -/
def trimmed : Nat → Decimal → Decimal
  | 0, d => d
  | fuel + 1, d =>
    if d.digits ≠ 0 ∧ d.digits % 10 = 0 then trimmed fuel ⟨d.digits / 10, d.exponent + 1⟩ else d

end Decimal

namespace Binary64

/-- `b ^ e` as numerator and denominator. -/
private def powerRatio (b : Nat) (e : Int) : Nat × Nat :=
  if 0 ≤ e then (Nat.pow b e.toNat, 1) else (1, Nat.pow b (-e).toNat)

/-- The magnitude of a double and the ends of its interval, in quarters of the
weight of its last bit. Below a power of two, where the significand is the least
one of fifty-three bits, the doubles lie twice as close. -/
private def quarters (x : Binary64) : Nat × Nat × Nat :=
  let below := if x.significand = 4503599627370496 ∧ -1074 < x.exponent then 1 else 2
  (4 * x.significand - below, 4 * x.significand, 4 * x.significand + 2)

/-- The decimal with grid spacing `10 ^ k` that rounds to the double, if the
grid has one. -/
private def onGrid? (x : Binary64) (tie : TieRule) (k : Int) : Option Decimal :=
  let (low, middle, high) := x.quarters
  let (un, ud) := powerRatio 2 (x.exponent - 2)
  let (kn, kd) := powerRatio 10 k
  let a := un * kd
  let b := ud * kn
  let c := middle * a / b
  let inside (n : Nat) : Bool :=
    if x.significand % 2 = 0 then low * a ≤ n * b && n * b ≤ high * a
    else low * a < n * b && n * b < high * a
  let upperIsNearer : Bool :=
    (2 * c + 1) * b < 2 * middle * a || ((2 * c + 1) * b = 2 * middle * a && tie.takesUpper c)
  match inside c, inside (c + 1) with
  | true, true => some ⟨if upperIsNearer then c + 1 else c, k⟩
  | true, false => some ⟨c, k⟩
  | false, true => some ⟨c + 1, k⟩
  | false, false => none

/-- Whether the magnitude of a double is at least `10 ^ p`. -/
private def reaches (x : Binary64) (p : Int) : Bool :=
  let (un, ud) := powerRatio 2 x.exponent
  let (pn, pd) := powerRatio 10 p
  pn * ud ≤ x.significand * un * pd

/-- The power of ten of the leading digit of a double other than zero. -/
private def leadingPower (x : Binary64) : Int :=
  let estimate := ((x.significand.log2 : Int) + x.exponent) * 30103 / 100000
  if !x.reaches estimate then estimate - 1
  else if x.reaches (estimate + 1) then estimate + 1
  else estimate

/-- The decimal of the fewest digits that rounds to the double, without
trailing zeros; zero for the two zeros. -/
def shortest (x : Binary64) (tie : TieRule) : Decimal :=
  if x.significand = 0 then ⟨0, 0⟩
  else
    let p := x.leadingPower
    let found := (List.range 17).findSome? fun (n : Nat) => x.onGrid? tie (p - n)
    (found.getD ⟨x.significand, x.exponent⟩).trimmed 20

end Binary64

end SchemaEvolution
