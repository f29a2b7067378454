import SchemaEvolution.Database.Session

/-!
# Faults of database URLs

What keeps a database from being looked for under a URL.
-/

namespace SchemaEvolution

/-- Why a database cannot be looked for under a URL. -/
inductive UrlFault where
  | noScheme
  | noHost
  | wrongHost
  | wrongDomain
  | wrongAddress
  | wrongNumberAddress
  | wrongPort
  /-- Bytes that are no text. -/
  | notText (place : Nat) (length? : Option Nat)
  /-- A way to secure the connection that is not known. -/
  | unknownMode (name : String)
  | emptyNumber
  | wrongNumber
  | numberTooLarge
  | wrongHostAddress
deriving DecidableEq

/-- The text of a fault. -/
def UrlFault.message : UrlFault → String
  | .noScheme => "relative URL without a base"
  | .noHost => "empty host"
  | .wrongHost => "invalid domain character"
  | .wrongDomain => "invalid international domain name"
  | .wrongAddress => "invalid IPv6 address"
  | .wrongNumberAddress => "invalid IPv4 address"
  | .wrongPort => "invalid port number"
  | .notText place (some n) =>
    "invalid utf-8 sequence of " ++ toString n ++ " bytes from index " ++ toString place
  | .notText place none => "incomplete utf-8 byte sequence from index " ++ toString place
  | .unknownMode name => "error with configuration: unknown value " ++ name ++ " for `ssl_mode`"
  | .emptyNumber => "cannot parse integer from empty string"
  | .wrongNumber => "invalid digit found in string"
  | .numberTooLarge => "number too large to fit in target type"
  | .wrongHostAddress => "invalid IP address syntax"

/-- The failure of a connection to a database under a URL with a fault. -/
def DatabaseError.ofUrl (f : UrlFault) : DatabaseError :=
  .other ("error with configuration: " ++ f.message)

end SchemaEvolution
