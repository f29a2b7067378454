import SchemaEvolution.Decimal.Shortest

/-!
# Writing doubles

A `DoubleLayout` says how the digits chosen by `Binary64.shortest` are laid
out: for which powers of ten of the leading digit the number is written with
all its places, and what stands before a positive exponent otherwise. A number
written with its places always has a point and at least one digit after it. It
also says which digits are chosen where two choices are equally good.
-/

namespace SchemaEvolution

/-- A way of laying out the digits of a double. -/
structure DoubleLayout where
  /-- The least power of ten of the leading digit that is written in places. -/
  leastPlace : Int
  /-- The greatest power of ten of the leading digit that is written in places. -/
  greatestPlace : Int
  /-- What stands before an exponent that is not negative. -/
  exponentSign : String
  /-- What stands for a double halfway between two decimals. -/
  tie : TieRule

namespace DoubleLayout

/-- Some zeros. -/
private def zeros (n : Nat) : String :=
  String.ofList (List.replicate n '0')

/-- Digits whose leading one has weight `10 ^ power`, written in places. -/
private def inPlaces (digits : List Char) (power : Int) : String :=
  if power < 0 then "0." ++ zeros ((-power).toNat - 1) ++ String.ofList digits
  else
    let whole := power.toNat + 1
    if digits.length ≤ whole then
      String.ofList digits ++ zeros (whole - digits.length) ++ ".0"
    else String.ofList (digits.take whole) ++ "." ++ String.ofList (digits.drop whole)

/-- Digits whose leading one has weight `10 ^ power`, with an exponent. -/
private def withExponent (style : DoubleLayout) (digits : List Char) (power : Int) : String :=
  let lead := String.ofList (digits.take 1)
  let rest := digits.drop 1
  let significant := if rest.isEmpty then lead else lead ++ "." ++ String.ofList rest
  let exponent :=
    if power < 0 then "-" ++ toString (-power).toNat else style.exponentSign ++ toString power.toNat
  significant ++ "e" ++ exponent

/-- The text of a double. -/
def render (style : DoubleLayout) (x : Binary64) : String :=
  let sign := if x.negative then "-" else ""
  if x.significand = 0 then sign ++ "0.0"
  else
    let d := x.shortest style.tie
    let digits := Nat.toDigits 10 d.digits
    let power := d.exponent + digits.length - 1
    let body :=
      if style.leastPlace ≤ power ∧ power ≤ style.greatestPlace then inPlaces digits power
      else withExponent style digits power
    sign ++ body

end DoubleLayout

end SchemaEvolution
