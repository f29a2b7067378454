import SchemaEvolution.Database.Host

/-!
# Database URLs

A database is looked for under a URL: a scheme, who asks, a host and a port, the
name of the database, and parameters. `DatabaseUrl.read` takes a URL apart, up to
the first fault.

Blanks around a URL do not count, nor do tabs and line breaks in it. In a path,
dots stand for a directory or for the one above, but nothing is above a drive.
-/

namespace SchemaEvolution

/-- The parts of a URL. -/
structure DatabaseUrl where
  user : List Char
  password : List Char
  host : List Char
  /-- The port, if it is not the usual one of the scheme. -/
  port? : Option Nat
  /-- The name of the database: the path, without the slashes it begins with. -/
  database : List Char
  query : List Char

namespace DatabaseUrl

/-! ## Schemes -/

/-- The characters of a URL that count. -/
def counted (url : String) : List Char :=
  let cs := url.toList.dropWhile (· ≤ ' ')
  (cs.reverse.dropWhile (· ≤ ' ')).reverse.filter fun c => c ≠ '\t' ∧ c ≠ '\n' ∧ c ≠ '\r'

/-- The scheme of a URL and what follows its colon. A scheme is a letter, and
then letters, digits and a few marks. -/
def scheme? : List Char → Option (List Char × List Char)
  | [] => none
  | c :: rest =>
    let isMark (c : Char) : Bool := c.isAlphanum || c = '+' || c = '-' || c = '.'
    match rest.dropWhile isMark with
    | ':' :: after => if c.isAlpha then some (c :: rest.takeWhile isMark, after) else none
    | _ => none

/-- How URLs of a scheme name a host. -/
inductive HostRule where
  /-- They may have one. -/
  | free
  /-- They always have one, which is a domain, and have a usual port. -/
  | domain (usualPort : Nat)
  /-- They may have a domain, without anyone who asks and without a port. -/
  | file
deriving DecidableEq

namespace HostRule

/-- How URLs of a scheme name a host. -/
def ofScheme (scheme : List Char) : HostRule :=
  match String.ofList (scheme.map Char.toLower) with
  | "http" | "ws" => .domain 80
  | "https" | "wss" => .domain 443
  | "ftp" => .domain 21
  | "file" => .file
  | _ => .free

/-- Whether a host is a domain. -/
def isDomain : HostRule → Bool
  | .free => false
  | .domain _ | .file => true

/-- Whether a character is a slash. -/
def isSlash (r : HostRule) (c : Char) : Bool :=
  c = '/' || (r.isDomain && c = '\\')

/-- Whether a character ends the part of a URL that names the host. -/
def endsHost (r : HostRule) (c : Char) : Bool :=
  r.isSlash c || c = '?' || c = '#'

end HostRule

/-! ## Paths -/

/-- The path at the start of a text. -/
def pathPart (cs : List Char) : List Char :=
  cs.takeWhile fun c => c ≠ '?' ∧ c ≠ '#'

/-- The query behind the path at the start of a text. -/
def queryPart (cs : List Char) : List Char :=
  match cs.drop (pathPart cs).length with
  | '?' :: rest => rest.takeWhile (· ≠ '#')
  | _ => []

/-- Whether a piece of a path stands for the directory itself. -/
def isHere (piece : List Char) : Bool :=
  [".", "%2e"].contains (String.ofList (piece.map Char.toLower))

/-- Whether a piece of a path stands for the directory above. -/
def isAbove (piece : List Char) : Bool :=
  ["..", ".%2e", "%2e.", "%2e%2e"].contains (String.ofList (piece.map Char.toLower))

/-- Whether a text is the letter of a drive. -/
def isDrive (cs : List Char) : Bool :=
  match cs with
  | [c, mark] => c.isAlpha && (mark = ':' || mark = '|')
  | _ => false

/-- The pieces of the directory above some directory. Nothing is above a drive. -/
def above (pieces : List (List Char)) : List (List Char) :=
  if pieces.getLast?.any isDrive then pieces else pieces.dropLast

/-- The pieces of a path, without those that stand for directories, given the
pieces before them. -/
def resolved (done : List (List Char)) : List (List Char) → List (List Char)
  | [] => done
  | piece :: rest =>
    let ending := if rest.isEmpty then [[]] else []
    if isAbove piece then resolved (above done ++ ending) rest
    else if isHere piece then resolved (done ++ ending) rest
    else resolved (done ++ [piece]) rest

/-- The pieces of the path at the start of a text. -/
def pathPieces (r : HostRule) (cs : List Char) : List (List Char) :=
  let path := (pathPart cs).map fun c => if r.isSlash c then '/' else c
  resolved [] (piecesAt '/' (if path.head? = some '/' then path.drop 1 else path))

/-- A URL with a path and with the query behind the path at the start of a
text. -/
def withEnd (u : DatabaseUrl) (path cs : List Char) : DatabaseUrl :=
  { u with
    database := path.dropWhile (· = '/')
    query := queryPart cs }

/-- A URL with the path and the query at the start of a text. -/
def withPath (u : DatabaseUrl) (r : HostRule) (cs : List Char) : DatabaseUrl :=
  u.withEnd (['/'].intercalate (pathPieces r cs)) cs

/-! ## Parts -/

/-- The host at the start of a text: up to a colon that is in no bracket. -/
def hostPart (inBracket : Bool) : List Char → List Char
  | [] => []
  | c :: rest =>
    if c = ':' && !inBracket then []
    else c :: hostPart (c = '[' || (inBracket && c ≠ ']')) rest

/-- The port that the digits at the start of a text denote, and what follows
them. -/
def portPart (cs : List Char) : Except UrlFault (Option Nat × List Char) :=
  let digits := cs.takeWhile Char.isDigit
  let rest := cs.dropWhile Char.isDigit
  if 65535 < Host.numberOf digits then .error .wrongPort
  else if rest.isEmpty || rest.head? = some '\\' then
    .ok (if digits.isEmpty then none else some (Host.numberOf digits), rest)
  else .error .wrongPort

/-- A URL with nothing in it. -/
def empty : DatabaseUrl := ⟨[], [], [], none, [], []⟩

/-- The parts of a URL from behind the slashes before its host. -/
def ofHost (r : HostRule) (cs : List Char) : Except UrlFault DatabaseUrl := do
  let place := cs.takeWhile (!r.endsHost ·)
  let after := cs.dropWhile (!r.endsHost ·)
  let asker := ((place.reverse.dropWhile (· ≠ '@')).drop 1).reverse
  let server := (place.reverse.takeWhile (· ≠ '@')).reverse
  let user := asker.takeWhile (· ≠ ':')
  let password := (asker.dropWhile (· ≠ ':')).drop 1
  let isAsked := !user.isEmpty || !password.isEmpty
  if place = ['@'] && !after.isEmpty then .error .noHost
  let written := hostPart false server
  if r.isDomain && written.isEmpty then .error .noHost
  let host ← Host.read r.isDomain written
  let behind := server.drop written.length
  if host.isEmpty && !behind.isEmpty then .error .noHost
  let (port?, rest) ← portPart (behind.drop 1)
  if host.isEmpty && isAsked then .error .noHost
  let port? := port?.filter fun n => r ≠ .domain n
  pure ({ empty with user, password, host, port? }.withPath r (rest ++ after))

/-- The parts of a URL of a file from behind its scheme. This machine is no host,
and a drive is on this machine. -/
def ofFile (cs : List Char) : Except UrlFault DatabaseUrl :=
  let r : HostRule := .file
  let isPlace := (cs.take 2).length = 2 && (cs.take 2).all r.isSlash
  let written := (cs.drop 2).takeWhile (!r.endsHost ·)
  if !isPlace || written.isEmpty || isDrive written then .ok (empty.withPath r cs)
  else do
    let host ← Host.read true written
    let after := (cs.drop 2).drop written.length
    let isLocal := String.ofList host = "localhost" || (pathPieces r after).any isDrive
    pure ({ empty with host := if isLocal then [] else host }.withPath r after)

/-- Takes a URL apart. -/
def read (url : String) : Except UrlFault DatabaseUrl :=
  match scheme? (counted url) with
  | none => .error .noScheme
  | some (scheme, rest) =>
    let r := HostRule.ofScheme scheme
    match r, rest with
    | .domain _, _ => ofHost r (rest.dropWhile r.isSlash)
    | .file, _ => ofFile rest
    | .free, '/' :: '/' :: rest => ofHost r rest
    | .free, '/' :: _ => .ok (empty.withPath r rest)
    | .free, _ => .ok (empty.withEnd (pathPart rest) rest)

end DatabaseUrl

end SchemaEvolution
