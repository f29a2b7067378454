import SchemaEvolution.Database.Url
import SchemaEvolution.Files.Basic
import SchemaEvolution.Message
import SchemaEvolution.Text.Shown

/-!
# Connections

How a database is to be reached is told by the environment, then by a URL, and
then by its parameters. All of that is looked through before a connection is
tried, in the order in which it matters, and the first fault ends it.

Whoever has no password looks for it in a file, and tells what comes of it. A
file that others can read does not count; of the files here, others can read
all.

No database is on this machine, and no other machine is known.
-/

namespace SchemaEvolution

/-- What the environment tells about databases. -/
structure DatabaseDefaults where
  host? : Option String
  /-- The address of the host, which counts more than its name. -/
  address? : Option String
  port? : Option String
  hasPassword : Bool
  /-- The file to look for a password in. -/
  passwordFile? : Option String
  /-- The directory with the usual file for passwords. -/
  home? : Option String
deriving DecidableEq

/-- How a database is to be reached. -/
structure Connection where
  host : String
  /-- The directory of the socket, if there is to be one. -/
  socket? : Option String
  port : Nat
  hasPassword : Bool
deriving DecidableEq

namespace Connection

/-! ## Numbers -/

/-- The number that digits denote, if it is within some bound, given the number
before them. -/
def numberFrom (bound n : Nat) : List Char → Except UrlFault Nat
  | [] => .ok n
  | c :: rest =>
    let next := 10 * n + (c.toNat - '0'.toNat)
    if !c.isDigit then .error .wrongNumber
    else if bound < next then .error .numberTooLarge
    else numberFrom bound next rest

/-- The number that a text denotes, if it is within some bound. It may have a plus
sign. -/
def number (bound : Nat) (s : String) : Except UrlFault Nat :=
  match s.toList with
  | [] => .error .emptyNumber
  | '+' :: c :: rest => numberFrom bound 0 (c :: rest)
  | cs => numberFrom bound 0 cs

/-- The number of a port. -/
def portNumber (s : String) : Except UrlFault Nat :=
  number 65535 s

/-! ## Defaults -/

/-- How a database is to be reached, as far as the environment tells. -/
def ofDefaults (d : DatabaseDefaults) : Connection where
  host := (d.address?.or d.host?).getD "localhost"
  socket? := none
  port := ((d.port?.map portNumber).bind Except.toOption).getD 5432
  hasPassword := d.hasPassword

/-! ## The parts of a URL -/

/-- The text that a part with bytes stands for. -/
def textOf (cs : List Char) : Except UrlFault String :=
  match Utf8.fault? (Host.bytes cs) with
  | some (place, length?) => .error (.notText place length?)
  | none => .ok (Utf8.decode (Host.bytes cs))

/-- Goes to a host. One that begins with a slash is the directory of a socket. -/
def toHost (c : Connection) (host : List Char) : Except UrlFault Connection :=
  if host.isEmpty then .ok c
  else if (Host.bytes host).head? = some 0x2f then do
    pure { c with socket? := some (← textOf host) }
  else .ok { c with host := String.ofList host }

/-- Follows the parts of a URL before its parameters. -/
def follow (c : Connection) (u : DatabaseUrl) : Except UrlFault Connection := do
  let c ← c.toHost u.host
  let _ ← textOf u.user
  let _ ← textOf u.password
  let _ ← textOf u.database
  pure { c with
    port := u.port?.getD c.port
    hasPassword := c.hasPassword || !u.password.isEmpty }

/-! ## Parameters -/

/-- The parameters of a query by their names. -/
def parameters (query : List Char) : List (String × String) :=
  let decode (cs : List Char) : String :=
    Utf8.decode (Host.bytes (cs.map fun c => if c = '+' then ' ' else c))
  ((piecesAt '&' query).filter (!·.isEmpty)).map fun p =>
    (decode (p.takeWhile (· ≠ '=')), decode ((p.dropWhile (· ≠ '=')).drop 1))

/-- The ways to secure a connection. -/
def modes : List String :=
  ["disable", "allow", "prefer", "require", "verify-ca", "verify-full"]

/-- The names of parameters that can have any value and do not say where the
database is. -/
def freeParameters : List String :=
  ["sslrootcert", "ssl-root-cert", "ssl-ca", "sslcert", "ssl-cert", "sslkey", "ssl-key",
    "dbname", "user", "application_name", "options"]

/-- Whether a text is an address. -/
def isAddress (s : String) : Bool :=
  Host.isAddress4 s.toList || Host.isAddress6 s.toList

/-- Follows a parameter, and tells of one that is not known. -/
def followParameter (c : Connection) (name value : String) :
    Except UrlFault (Connection × List Message) :=
  match name with
  | "sslmode" | "ssl-mode" =>
    if modes.contains (value.map Char.toLower) then .ok (c, [])
    else .error (.unknownMode (inQuotes value))
  | "statement-cache-capacity" => do
    let _ ← number 18446744073709551615 value
    pure (c, [])
  | "host" =>
    .ok (if value.toList.head? = some '/' then { c with socket? := some value }
      else { c with host := value }, [])
  | "hostaddr" =>
    if isAddress value then .ok ({ c with host := value }, []) else .error .wrongHostAddress
  | "port" => do pure ({ c with port := ← portNumber value }, [])
  | "password" => .ok ({ c with hasPassword := true }, [])
  | name =>
    if freeParameters.contains name || "options[".isPrefixOf name then .ok (c, [])
    else .ok (c, [.warning "ignoring unrecognized connect parameter"
      [("key", name), ("value", value)]])

/-- Follows parameters up to the first with a fault, and says what is told of
them. -/
def followParameters (c : Connection) :
    List (String × String) → List Message × Except UrlFault Connection
  | [] => ([], .ok c)
  | (name, value) :: rest =>
    match c.followParameter name value with
    | .error e => ([], .error e)
    | .ok (c, messages) =>
      let (more, result) := c.followParameters rest
      (messages ++ more, result)

/-! ## Passwords -/

/-- What is told of a file that is looked into for a password. -/
def passwordFileMessage (fs : Files) (path : String) : Message :=
  let unfit (permissions : String) : Message :=
    .warning "Ignoring path. Permissions are not strict enough"
      [("path", path), ("permissions", inQuotes permissions)]
  match fs.find path with
  | .ok (_, some (.file _)) => unfit "100644"
  | .ok (_, some .directory) => unfit "40755"
  | .ok (_, none) | .error .notFound => .debug "`.pgpass` file not found" [("path", path)]
  | .error e => .warning ("Failed to open `.pgpass` file: " ++ e.message) [("path", path)]

/-- What is told while a password is looked for. -/
def passwordMessages (fs : Files) (d : DatabaseDefaults) : List Message :=
  let usual := d.home?.map fun home =>
    if home.isEmpty || home.endsWith "/" then home ++ ".pgpass" else home ++ "/.pgpass"
  (d.passwordFile?.toList ++ usual.toList).map (passwordFileMessage fs)

/-! ## Reaching -/

/-- The failure of a connection that breaks off. -/
def broken (message : String) : DatabaseError :=
  .other ("error communicating with database: " ++ message)

/-- The failure of a connection that does not come about in time. -/
def late : DatabaseError :=
  .other "pool timed out while waiting for an open connection"

/-- The failure to find a host by its name. -/
def unknownHost (message : String) : DatabaseError :=
  broken ("failed to lookup address information: " ++ message)

/-- Whether a label can stand in a name by which machines are found. -/
def isHostLabel (label : List Char) : Bool :=
  !label.isEmpty && label.length ≤ 63 && label.all fun c => c.isAlphanum || c = '-' || c = '_'

/-- Whether machines could be found by a name. It may have a point at its end. -/
def isHostName (name : List Char) : Bool :=
  let labels := piecesAt '.' name
  let labels := if labels.getLast? = some [] then labels.dropLast else labels
  name = ['.'] || (!labels.isEmpty && labels.all isHostLabel && name.head? ≠ some '-'
    && (['.'].intercalate labels).length ≤ 253)

/-- Whether a text stands for an address in a way that machines are found by:
numbers with any of the marks of a base count too. -/
def isNumericHost (name : List Char) : Bool :=
  let parts := piecesAt '.' name
  let hasDigits (p : List Char) : Bool := !(Host.baseAndDigits p).2.isEmpty
  parts.all hasDigits && (parts.mapM Host.number?).any Host.areAddress

/-- The text between brackets. -/
def withoutBrackets (name : List Char) : List Char :=
  let isBracket (c : Char) : Bool := c = '[' || c = ']'
  ((name.dropWhile isBracket).reverse.dropWhile isBracket).reverse

/-- The failure to reach a socket in a directory. -/
def socketFailure (c : Connection) (directory : String) : DatabaseError :=
  let path := directory ++ "/.s.PGSQL." ++ toString c.port
  if path.toList.contains '\x00' then broken "paths must not contain interior null bytes"
  else if 108 ≤ path.utf8ByteSize then broken "path must be shorter than SUN_LEN"
  else broken FileError.notFound.message

/-- The failure to reach a host. -/
def hostFailure (host : String) : DatabaseError :=
  let name := withoutBrackets host.toList
  if isAddress (String.ofList name) then late
  else if name.contains '\x00' then broken FileError.nullCharacter.message
  else if String.ofList (name.map Char.toLower) = "localhost" || isNumericHost name then late
  else if isHostName name then unknownHost "Temporary failure in name resolution"
  else unknownHost "Name or service not known"

/-- The failure to reach a database. -/
def failure (c : Connection) : DatabaseError :=
  match c.socket? with
  | some directory => c.socketFailure directory
  | none =>
    if c.host.toList.head? = some '/' then c.socketFailure c.host else hostFailure c.host

/-- What is told on the way to a database under a URL, and why it is not
reached. -/
def attempt (fs : Files) (d : DatabaseDefaults) (url : String) : List Message × DatabaseError :=
  let followed := do
    let u ← DatabaseUrl.read url
    pure (← (ofDefaults d).follow u, parameters u.query)
  match followed with
  | .error e => ([], .ofUrl e)
  | .ok (c, parameters) =>
    match c.followParameters parameters with
    | (messages, .error e) => (messages, .ofUrl e)
    | (messages, .ok c) =>
      (messages ++ (if c.hasPassword then [] else passwordMessages fs d), c.failure)

end Connection

end SchemaEvolution
