/-!
# UTF-8

Bytes read as characters. Bytes that are no character are taken together as far
as they could have become one, so a fault has a length, unless the bytes end
within it.
-/

namespace SchemaEvolution.Utf8

/-- What stands at some place among bytes. -/
inductive Piece where
  | char (c : Char)
  /-- No character, over so many bytes; `none` if the bytes end too early. -/
  | fault (length? : Option Nat)
deriving DecidableEq

/-- The ranges of the bytes that may follow the first byte of a character. -/
def following? (b : UInt8) : Option (List (UInt8 × UInt8)) :=
  let any := (0x80, 0xbf)
  if b < 0x80 then some []
  else if b < 0xc2 then none
  else if b < 0xe0 then some [any]
  else if b = 0xe0 then some [(0xa0, 0xbf), any]
  else if b = 0xed then some [(0x80, 0x9f), any]
  else if b < 0xf0 then some [any, any]
  else if b = 0xf0 then some [(0x90, 0xbf), any, any]
  else if b < 0xf4 then some [any, any, any]
  else if b = 0xf4 then some [(0x80, 0x8f), any, any]
  else none

/-- How many bytes from the first on are in their ranges. -/
def fitting : List (UInt8 × UInt8) → List UInt8 → Nat
  | (low, high) :: ranges, b :: rest =>
    if low ≤ b && b ≤ high then fitting ranges rest + 1 else 0
  | _, _ => 0

/-- The character that a first byte and those that follow it stand for. -/
def charOf (b : UInt8) (more : List UInt8) : Char :=
  let mark :=
    match more.length with
    | 0 => 0
    | 1 => 0xc0
    | 2 => 0xe0
    | _ => 0xf0
  Char.ofNat (more.foldl (fun n x => n * 64 + (x.toNat - 0x80)) (b.toNat - mark))

/-- What stands at a byte with others behind it, and how many of those belong to
it. -/
def firstPiece (b : UInt8) (rest : List UInt8) : Piece × Nat :=
  match following? b with
  | none => (.fault (some 1), 0)
  | some ranges =>
    let n := fitting ranges rest
    if n = ranges.length then (.char (charOf b (rest.take n)), n)
    else if n = rest.length then (.fault none, n)
    else (.fault (some (n + 1)), n)

/-- What stands among bytes, with lengths, at most `fuel` pieces far. -/
def piecesWithin : Nat → List UInt8 → List (Piece × Nat)
  | 0, _ | _, [] => []
  | fuel + 1, b :: rest =>
    let (piece, n) := firstPiece b rest
    (piece, n + 1) :: piecesWithin fuel (rest.drop n)

/-- What stands among bytes, with lengths. -/
def pieces (bytes : List UInt8) : List (Piece × Nat) :=
  piecesWithin bytes.length bytes

/-- The place of the first fault and its length, with the place of the first
piece given. -/
def faultFrom (place : Nat) : List (Piece × Nat) → Option (Nat × Option Nat)
  | [] => none
  | (.fault length?, _) :: _ => some (place, length?)
  | (.char _, n) :: rest => faultFrom (place + n) rest

/-- The place of the first fault among bytes and its length; none if all are
characters. -/
def fault? (bytes : List UInt8) : Option (Nat × Option Nat) :=
  faultFrom 0 (pieces bytes)

/-- The characters that bytes stand for, with a mark for each fault. -/
def decode (bytes : List UInt8) : String :=
  String.ofList <| (pieces bytes).map fun
    | (.char c, _) => c
    | (.fault _, _) => '\ufffd'

end SchemaEvolution.Utf8
