import SchemaEvolution.Database.UrlFault
import SchemaEvolution.DomainName.Basic
import SchemaEvolution.Text.Hex
import SchemaEvolution.Text.Utf8

/-!
# Hosts

A URL names a host by an address of four numbers or of eight groups, by a domain
name, or by any text that has no character that would end it.
-/

namespace SchemaEvolution.Host

/-! ## Addresses -/

/-- The natural number that decimal digits denote. -/
def numberOf (digits : List Char) : Nat :=
  digits.foldl (fun n c => 10 * n + (c.toNat - '0'.toNat)) 0

/-- Whether a text is an address of four numbers. -/
def isAddress4 (cs : List Char) : Bool :=
  let parts := piecesAt '.' cs
  parts.length = 4 && parts.all fun p =>
    !p.isEmpty && p.length ≤ 3 && p.all Char.isDigit && numberOf p ≤ 255
      && (p.length = 1 || p.head? ≠ some '0')

/-- How many groups of an address of eight groups stand in a text; none if there
is anything else. The last two may be written as an address of four numbers. -/
def groups? (lastIsFree : Bool) (cs : List Char) : Option Nat :=
  if cs.isEmpty then some 0
  else
    let parts := piecesAt ':' cs
    let isGroup (p : List Char) : Bool :=
      !p.isEmpty && p.length ≤ 4 && p.all fun c => (hexValue? c).isSome
    let last := parts.getLast?.getD []
    if parts.all isGroup then some parts.length
    else if lastIsFree && parts.dropLast.all isGroup && isAddress4 last then
      some (parts.length + 1)
    else none

/-- A text up to two colons in a row, and behind them. -/
def atColons : List Char → Option (List Char × List Char)
  | ':' :: ':' :: rest => some ([], rest)
  | c :: rest => (atColons rest).map fun (before, after) => (c :: before, after)
  | [] => none

/-- Whether a text is an address of eight groups. Two colons in a row stand for
one or more of them. -/
def isAddress6 (cs : List Char) : Bool :=
  match atColons cs with
  | none => groups? true cs == some 8
  | some (before, after) =>
    match groups? false before, groups? true after with
    | some m, some n => m + n ≤ 7
    | _, _ => false

/-- What a number is written with: digits to a base, behind a mark of the base. -/
def baseAndDigits : List Char → Nat × List Char
  | '0' :: 'x' :: digits | '0' :: 'X' :: digits => (16, digits)
  | '0' :: c :: digits => (8, c :: digits)
  | digits => (10, digits)

/-- The number that digits to a base denote. -/
def numberTo? (base : Nat) (digits : List Char) : Option Nat :=
  digits.foldlM (fun n c => do
    let v ← hexValue? c
    if v < base then pure (base * n + v) else none) 0

/-- The number that a part of a domain name denotes. No digits behind a mark are
zero. -/
def number? (part : List Char) : Option Nat :=
  if part.isEmpty then none
  else numberTo? (baseAndDigits part).1 (baseAndDigits part).2

/-- Whether numbers are an address: up to four of them, of which the last stands
for all bytes that are left. -/
def areAddress (numbers : List Nat) : Bool :=
  match [4294967295, 16777215, 65535, 255][numbers.length - 1]?, numbers.getLast? with
  | some limit, some last => numbers.dropLast.all (· ≤ 255) && last ≤ limit
  | _, _ => false

/-! ## Domains -/

/-- The bytes of a text in which percent signs with two digits stand for
bytes. -/
def bytes : List Char → List UInt8
  | '%' :: a :: b :: rest =>
    match hexValue? a, hexValue? b with
    | some m, some n => UInt8.ofNat (16 * m + n) :: bytes rest
    | _, _ => 0x25 :: bytes (a :: b :: rest)
  | c :: rest => (String.singleton c).toUTF8.toList ++ bytes rest
  | [] => []

/-- Requires a domain that ends in a number to be an address. -/
def checkNumbers (labels : List (List Char)) : Except UrlFault Unit :=
  let parts := if labels.getLast? = some [] then labels.dropLast else labels
  let last := parts.getLast?.getD []
  let endsInNumber := (number? last).isSome || (!last.isEmpty && last.all Char.isDigit)
  if !endsInNumber || (parts.mapM number?).any areAddress then .ok ()
  else .error .wrongNumberAddress

/-- The domain that a text with bytes names. -/
def domain (cs : List Char) : Except UrlFault (List Char) :=
  if (Utf8.fault? (bytes cs)).isSome then .error .wrongDomain
  else
    match DomainName.labels? (Utf8.decode (bytes cs)).toList with
    | none => .error .wrongDomain
    | some [[]] => .error .noHost
    | some labels => do
      checkNumbers labels
      pure (['.'].intercalate labels)

/-! ## All hosts -/

/-- Characters that a host cannot have. -/
def endingMarks : List Char :=
  ['\x00', ' ', '#', '/', ':', '<', '>', '?', '@', '[', '\\', ']', '^', '|']

/-- The host that a text names, given whether that is to be a domain. A host in
brackets is an address. -/
def read (isDomain : Bool) (cs : List Char) : Except UrlFault (List Char) :=
  match cs with
  | '[' :: rest =>
    if rest.getLast? = some ']' && isAddress6 rest.dropLast then .ok cs else .error .wrongAddress
  | _ =>
    if isDomain then domain cs
    else if cs.any endingMarks.contains then .error .wrongHost
    else .ok cs

end SchemaEvolution.Host
