import SchemaEvolution.Sql.Reserved

/-!
# Identifiers in SQL

A name that is a plain identifier, and no key word, stands in a statement as it
is. Any other name is enclosed in delimiters, and a delimiter inside it is
marked: doubled in PostgreSQL, with a backslash before it in Spanner.

PostgreSQL reads a plain identifier in small letters, so there a name with a
capital letter is enclosed too.
-/

namespace SchemaEvolution.Sql

/-- Whether a character can begin a plain identifier: an ASCII letter or an
underscore. -/
def isIdentifierStart (c : Char) : Bool :=
  c.isAlpha || c == '_'

/-- Whether a character can be part of a plain identifier: an ASCII letter or
digit, or an underscore. -/
def isIdentifierPart (c : Char) : Bool :=
  c.isAlphanum || c == '_'

/-- Whether a name has the form of a plain identifier. -/
def isPlain (name : String) : Bool :=
  match name.toList with
  | [] => false
  | c :: rest => isIdentifierStart c && rest.all isIdentifierPart

/-- Whether a name is a key word, in letters of either case. -/
def isReserved (d : Dialect) (name : String) : Bool :=
  (reserved d).contains (name.map Char.toUpper)

/-- Whether a name has to be enclosed in delimiters. -/
def needsDelimiters : Dialect → String → Bool
  | .postgres, name =>
    !isPlain name || name.toList.any Char.isUpper || isReserved .postgres name
  | .spanner, name => !isPlain name || isReserved .spanner name

/-- The character around a name that needs it. -/
def delimiter : Dialect → Char
  | .postgres => '"'
  | .spanner => '\x60'

/-- What stands for the delimiter inside a name. -/
def markedDelimiter : Dialect → List Char
  | .postgres => ['"', '"']
  | .spanner => ['\\', '\x60']

/-- A name in delimiters. -/
def delimited (d : Dialect) (name : String) : String :=
  String.ofList (delimiter d ::
    (name.toList.flatMap (fun c => if c = delimiter d then markedDelimiter d else [c])
      ++ [delimiter d]))

/-- A name as it stands in a statement. -/
def identifier (d : Dialect) (name : String) : String :=
  if needsDelimiters d name then delimited d name else name

/-- The names of several columns as they stand in a statement. -/
def identifierList (d : Dialect) (names : List String) : String :=
  ", ".intercalate (names.map (identifier d))

end SchemaEvolution.Sql
