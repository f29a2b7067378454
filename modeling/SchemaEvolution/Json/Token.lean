import SchemaEvolution.Decimal.Scaling
import SchemaEvolution.Json.Printer
import SchemaEvolution.Text.Hex

/-!
# The tokens of a JSON text

A text is cut into tokens up to the first place that cannot start one; that
place is marked by the token `broken`, and nothing after it is looked at.

Two tokens may be complete in form and yet denote nothing: a string with an
escaped surrogate that is not paired, and a number too large for a double. They
carry `none`. A reader refuses them, but may pass over them where a value is
ignored.
-/

namespace SchemaEvolution

/-- A token of a JSON text. -/
inductive JsonToken where
  | openList
  | closeList
  | openObject
  | closeObject
  | comma
  | colon
  | null
  | bool (value : Bool)
  /-- A number, or `none` for one beyond the range of doubles. -/
  | number (value : Option JsonNumber)
  /-- A string, or `none` for one with an unpaired surrogate. -/
  | text (value : Option String)
  /-- No token starts here. -/
  | broken

namespace JsonToken

/-! ## Numbers -/

/-- The natural number that a list of digits denotes. -/
def natOfDigits (digits : List Char) : Nat :=
  digits.foldl (fun n c => 10 * n + (c.toNat - '0'.toNat)) 0

/-- The leading digits of a text and what follows them. -/
def spanDigits (cs : List Char) : List Char × List Char :=
  (cs.takeWhile Char.isDigit, cs.dropWhile Char.isDigit)

/-- The digits before the point: a lone zero, or digits that start with none. -/
def wholePart? : List Char → Option (List Char × List Char)
  | '0' :: rest =>
    match rest with
    | c :: _ => if c.isDigit then none else some (['0'], rest)
    | [] => some (['0'], [])
  | cs =>
    let (digits, rest) := spanDigits cs
    if digits.isEmpty then none else some (digits, rest)

/-- The digits after a point, if one follows; at least one is required. -/
def fraction? : List Char → Option (Option (List Char) × List Char)
  | '.' :: cs =>
    let (digits, rest) := spanDigits cs
    if digits.isEmpty then none else some (some digits, rest)
  | cs => some (none, cs)

/-- The exponent, if one follows; at least one digit is required. -/
def exponent? : List Char → Option (Option Int × List Char)
  | c :: cs =>
    if c = 'e' ∨ c = 'E' then
      let (negative, cs) :=
        match cs with
        | '-' :: r => (true, r)
        | '+' :: r => (false, r)
        | r => (false, r)
      let (digits, rest) := spanDigits cs
      if digits.isEmpty then none
      else
        let n : Int := natOfDigits digits
        some (some (if negative then -n else n), rest)
    else some (none, c :: cs)
  | [] => some (none, [])

/-- The whole number `n` with a sign, if it is kept as one. Zero with a minus
sign is not. -/
def whole? (negative : Bool) (n : Nat) : Option JsonNumber :=
  if negative ∧ n = 0 then none
  else
    let value : Int := if negative then -n else n
    if h : -9223372036854775808 ≤ value ∧ value < 18446744073709551616 then some (.whole value h)
    else none

/-- The number written by a sign, the digits before and after the point and an
exponent. -/
def numberOf (negative : Bool) (whole : List Char) (fraction : Option (List Char))
    (exponent : Option Int) : Option JsonNumber :=
  let (n, shift) := Decimal.leading whole (fraction.getD [])
  let asDouble : Option JsonNumber :=
    (Binary64.scaled? negative n (exponent.getD 0 + shift)).map .double
  if fraction.isNone && exponent.isNone then
    match whole? negative (natOfDigits whole) with
    | some n => some n
    | none => asDouble
  else asDouble

/-- A number at the start of a text. -/
def scanNumber? (cs : List Char) : Option (JsonToken × List Char) :=
  let (negative, cs) :=
    match cs with
    | '-' :: r => (true, r)
    | r => (false, r)
  match wholePart? cs with
  | none => none
  | some (whole, cs) =>
    match fraction? cs with
    | none => none
    | some (fraction, cs) =>
      match exponent? cs with
      | none => none
      | some (exponent, cs) => some (.number (numberOf negative whole fraction exponent), cs)

/-! ## Strings -/

/-- The value of four hexadecimal digits. -/
def hexValue4? (a b c d : Char) : Option Nat := do
  let a ← hexValue? a
  let b ← hexValue? b
  let c ← hexValue? c
  let d ← hexValue? d
  pure (((a * 16 + b) * 16 + c) * 16 + d)

/-- The character that a one-letter escape stands for. -/
def simpleEscape? : Char → Option Char
  | '"' => some '"'
  | '\\' => some '\\'
  | '/' => some '/'
  | 'b' => some '\x08'
  | 'f' => some '\x0c'
  | 'n' => some '\n'
  | 'r' => some '\r'
  | 't' => some '\t'
  | _ => none

/-- A piece of a string: a character, or a code unit written as an escape of
four digits. -/
inductive StringPiece where
  | char (c : Char)
  | unit (value : Nat)

/-- The pieces of a string from behind its opening quotation mark, and the text
behind the closing one; `none` if the string is not well formed. -/
def scanString? : List Char → Option (List StringPiece × List Char)
  | [] => none
  | '"' :: rest => some ([], rest)
  | '\\' :: 'u' :: a :: b :: c :: d :: rest =>
    match hexValue4? a b c d, scanString? rest with
    | some u, some (pieces, rest) => some (.unit u :: pieces, rest)
    | _, _ => none
  | '\\' :: e :: rest =>
    match simpleEscape? e, scanString? rest with
    | some c, some (pieces, rest) => some (.char c :: pieces, rest)
    | _, _ => none
  | c :: rest =>
    if c.val < 0x20 ∨ c = '\\' then none
    else
      match scanString? rest with
      | some (pieces, rest) => some (.char c :: pieces, rest)
      | none => none

/-- Whether a code unit is the first half of a surrogate pair. -/
def isHighSurrogate (u : Nat) : Bool := 0xD800 ≤ u && u ≤ 0xDBFF

/-- Whether a code unit is the second half of a surrogate pair. -/
def isLowSurrogate (u : Nat) : Bool := 0xDC00 ≤ u && u ≤ 0xDFFF

/-- The characters of a string: escaped surrogates are taken in pairs, and one
without its partner right behind it denotes nothing. -/
def content? : List StringPiece → Option (List Char)
  | [] => some []
  | .char c :: rest => (content? rest).map (c :: ·)
  | .unit u :: .unit v :: rest =>
    if isHighSurrogate u then
      if isLowSurrogate v then
        (content? rest).map (Char.ofNat (0x10000 + (u - 0xD800) * 0x400 + (v - 0xDC00)) :: ·)
      else none
    else if isLowSurrogate u then none
    else (content? (.unit v :: rest)).map (Char.ofNat u :: ·)
  | .unit u :: rest =>
    if isHighSurrogate u || isLowSurrogate u then none
    else (content? rest).map (Char.ofNat u :: ·)

/-! ## The tokens of a text -/

/-- Space, tab, line feed and carriage return may stand between tokens. -/
def isBlank (c : Char) : Bool :=
  c = ' ' || c = '\t' || c = '\n' || c = '\r'

/-- The token at the start of a text and what follows it. -/
def next? : List Char → Option (JsonToken × List Char)
  | '[' :: rest => some (.openList, rest)
  | ']' :: rest => some (.closeList, rest)
  | '\x7b' :: rest => some (.openObject, rest)
  | '\x7d' :: rest => some (.closeObject, rest)
  | ',' :: rest => some (.comma, rest)
  | ':' :: rest => some (.colon, rest)
  | 'n' :: 'u' :: 'l' :: 'l' :: rest => some (.null, rest)
  | 't' :: 'r' :: 'u' :: 'e' :: rest => some (.bool true, rest)
  | 'f' :: 'a' :: 'l' :: 's' :: 'e' :: rest => some (.bool false, rest)
  | '"' :: rest => (scanString? rest).map fun (pieces, rest) =>
      (.text ((content? pieces).map String.ofList), rest)
  | cs => scanNumber? cs

/-- The tokens of a text, at most `fuel` steps far. -/
def tokensWithin : Nat → List Char → List JsonToken
  | _, [] => []
  | 0, _ :: _ => [.broken]
  | fuel + 1, c :: cs =>
    if isBlank c then tokensWithin fuel cs
    else
      match next? (c :: cs) with
      | none => [.broken]
      | some (token, rest) => token :: tokensWithin fuel rest

/-- The tokens of a text. Every step passes over a character, so the length of
the text bounds their number. -/
def tokens (cs : List Char) : List JsonToken :=
  tokensWithin cs.length cs

end JsonToken

end SchemaEvolution
