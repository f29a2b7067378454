/-!
# Paths

A path names a place among files by the directories that lead to it, with
slashes between them. It is kept as it was given, since it is shown so; where it
leads is told by its names alone, for empty names and single dots lead nowhere.
-/

namespace SchemaEvolution.Path

/-- The parts of a path between its slashes. -/
def parts (path : String) : List String :=
  path.splitToList (· == '/')

/-- Whether a path starts at the root of all files. -/
def isAbsolute (path : String) : Bool :=
  path.toList.head? == some '/'

/-- The names on the way that a path describes. The root of all files counts as
a name, since it is no place below the working directory. -/
def names (path : String) : List String :=
  (if isAbsolute path then ["/"] else []) ++ (parts path).filter fun p => p ≠ "" ∧ p ≠ "."

/-- Whether a path can only lead to a directory, as it ends in a slash. -/
def endsInSlash (path : String) : Bool :=
  (parts path).getLast? == some ""

/-- The last part of a path that is not empty. -/
def lastPart? (path : String) : Option String :=
  ((parts path).filter (· ≠ "")).getLast?

/-- Whether a path ends in a single dot, which stands for the directory before
it: that must be there. -/
def endsInDot (path : String) : Bool :=
  lastPart? path == some "."

/-- Whether a path ends in a dot or two, and so calls a directory by no name of
its own. -/
def endsInDots (path : String) : Bool :=
  endsInDot path || lastPart? path == some ".."

/-- The parts of a path up to its last name, or up to a dot that it starts
with. -/
def trimmed (parts : List String) : List String :=
  match parts with
  | [] => []
  | first :: rest => first :: (rest.reverse.dropWhile fun p => p = "" || p = ".").reverse

/-- The path of the directory that a path leads through last, as far as the path
spells it. -/
def parent (path : String) : String :=
  match trimmed (trimmed (parts path)).dropLast with
  | [""] => "/"
  | l => "/".intercalate l

/-- The path of a thing in a directory: one slash between them, none if the
directory is the empty path. An absolute path is kept. -/
def join (directory name : String) : String :=
  if isAbsolute name then name
  else if directory.isEmpty || directory.toList.getLast? == some '/' then directory ++ name
  else directory ++ "/" ++ name

end SchemaEvolution.Path

namespace SchemaEvolution

/-- A place, by the names that lead to it from the working directory: up from
there some times, or from the root of all files, and then down. -/
abbrev Place := List String

namespace Place

/-- Whether a place is the working directory, one above it or the root: those are
always there. -/
def isAround (place : Place) : Bool :=
  place == ["/"] || place.all (· == "..")

/-- Whether a place is below the working directory. -/
def isBelow (place : Place) : Bool :=
  match place.head? with
  | some name => name != "/" && name != ".."
  | none => false

/-- The directory that a place is in. -/
def up (place : Place) : Place :=
  if place = ["/"] then place
  else if place.all (· == "..") then place ++ [".."]
  else place.dropLast

/-- The shortest path to a place. -/
def path (place : Place) : String :=
  match place with
  | "/" :: rest => "/" ++ "/".intercalate rest
  | names => "/".intercalate names

end Place

end SchemaEvolution
