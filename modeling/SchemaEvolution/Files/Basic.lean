import SchemaEvolution.Files.Path

/-!
# Files

Files and directories, by the names that lead to them from a working directory.
Whoever changes files gets new ones, so that what a program does to files is a
function of the files it finds.

A place is reached by way of directories. On the way to it a missing directory
and a file in the place of one are different failures.

There are directories, and files with texts. Symbolic links are left out, and so
are permissions and contents that are not UTF-8: a name leads to the thing
itself, and every directory can be entered and every file read and written.

A program here finds, reads, makes and writes. Between two of its runs users
remove files and move them, and look at what it has left; the last two sections
say what that comes to.
-/

namespace SchemaEvolution

/-- A failure in dealing with files. -/
inductive FileError where
  | notFound | alreadyExists | notDirectory | isDirectory | busy
  /-- A name, or a path as a whole, is too long. -/
  | tooLong
  /-- A path with a null character in it. -/
  | nullCharacter
deriving DecidableEq

/-- The text of a failure. -/
def FileError.message : FileError → String
  | .notFound => "No such file or directory (os error 2)"
  | .alreadyExists => "File exists (os error 17)"
  | .notDirectory => "Not a directory (os error 20)"
  | .isDirectory => "Is a directory (os error 21)"
  | .busy => "Device or resource busy (os error 16)"
  | .tooLong => "File name too long (os error 36)"
  | .nullCharacter => "file name contained an unexpected NUL byte"

/-- What is found at a place. -/
inductive FileEntry where
  | directory
  | file (text : String)
deriving DecidableEq

/-- Files and directories around a working directory. -/
structure Files where
  entries : List (Place × FileEntry)
  /-- There is one thing at a place. -/
  distinct : (entries.map Prod.fst).Nodup

namespace Files

/-- A working directory with nothing in it. -/
def empty : Files := ⟨[], .nil⟩

/-- What is at a place. The working directory, those above it and the root are
always there. -/
def entry? (fs : Files) (place : Place) : Option FileEntry :=
  if place.isAround then some .directory else fs.entries.lookup place

/-- The files without what is at the places of a kind. -/
def eraseWhere (fs : Files) (p : Place → Bool) : Files where
  entries := fs.entries.filter fun e => !p e.1
  distinct := fs.distinct.sublist (List.filter_sublist.map Prod.fst)

/-- The files with something put at a place, instead of what was there. -/
def put (fs : Files) (place : Place) (entry : FileEntry) : Files where
  entries := (fs.eraseWhere (· == place)).entries ++ [(place, entry)]
  distinct := by
    rw [List.map_append, List.nodup_append]
    refine ⟨(fs.eraseWhere (· == place)).distinct, by simp, fun a ha b hb hab => ?_⟩
    obtain ⟨e, he, rfl⟩ := List.mem_map.1 ha
    simp only [eraseWhere, List.mem_filter] at he
    simp only [List.map_cons, List.map_nil, List.mem_singleton] at hb
    simp [hab, hb] at he

/-! ## Finding places -/

/-- Requires that a path can be followed at all: there is no null character in
it, and it has less than 4096 bytes, with all its slashes and dots. -/
def checkPath (path : String) : Except FileError Unit :=
  if path.toList.contains '\x00' then .error .nullCharacter
  else if 4096 ≤ path.utf8ByteSize then .error .tooLong
  else .ok ()

/-- The place with a name in a directory. The name can have 255 bytes. -/
def child (place : Place) (name : String) : Except FileError Place :=
  if 255 < name.utf8ByteSize then .error .tooLong else .ok (place ++ [name])

/-- Goes on from a place through directories. -/
def enter (fs : Files) (place : Place) : List String → Except FileError Place
  | [] => .ok place
  | name :: rest =>
    if name = ".." then enter fs place.up rest
    else do
      let next ← child place name
      match fs.entry? next with
      | some .directory => enter fs next rest
      | some (.file _) => .error .notDirectory
      | none => .error .notFound

/-- The place that a path leads to. The thing itself need not be there, but the
way to it. -/
def locate (fs : Files) (path : String) : Except FileError Place := do
  checkPath path
  let names := Path.names path
  match names.getLast? with
  | none => if path.isEmpty then .error .notFound else .ok []
  | some last =>
    if Path.endsInDot path then fs.enter [] names
    else
      let directory ← fs.enter [] names.dropLast
      if last = ".." then .ok directory.up else child directory last

/-- The place that a path leads to, and what is there. -/
def find (fs : Files) (path : String) : Except FileError (Place × Option FileEntry) := do
  let place ← fs.locate path
  match fs.entry? place with
  | some (.file text) =>
    if Path.endsInSlash path then .error .notDirectory else pure (place, some (.file text))
  | found => pure (place, found)

/-! ## Reading -/

/-- The text of a file. -/
def read (fs : Files) (path : String) : Except FileError String := do
  match (← fs.find path).2 with
  | some (.file text) => pure text
  | some .directory => .error .isDirectory
  | none => .error .notFound

/-- Whether there is anything at a path. That there is no way to it because of a
missing directory is an answer, because of a file is a failure. -/
def contains (fs : Files) (path : String) : Except FileError Bool :=
  match fs.find path with
  | .ok (_, found) => .ok found.isSome
  | .error .notFound => .ok false
  | .error e => .error e

/-- The name of something if it stands in a directory itself. -/
def nameIn? (directory : Place) (place : Place) : Option String :=
  match place.getLast? with
  | some name => if place = directory ++ [name] then some name else none
  | none => none

/-- The names of the files in a directory. -/
def filesIn (fs : Files) (path : String) : Except FileError (List String) := do
  match ← fs.find path with
  | (place, some .directory) =>
    pure <| fs.entries.filterMap fun e =>
      match e.2 with
      | .file _ => nameIn? place e.1
      | .directory => none
  | (_, some (.file _)) => .error .notDirectory
  | (_, none) => .error .notFound

/-! ## Writing -/

/-- Goes on from a place through directories, making those that are missing, as
far as a file in the way. That is met as a file at the end of the way or behind
a directory that was made, and else as no directory. What was made stays. -/
def enterMaking (fs : Files) (made : Bool) (place : Place) :
    List String → Except FileError Unit × Files
  | [] => (.ok (), fs)
  | name :: rest =>
    if name = ".." then enterMaking fs made place.up rest
    else
      match child place name with
      | .error e => (.error e, fs)
      | .ok next =>
        match fs.entry? next with
        | some .directory => enterMaking fs made next rest
        | some (.file _) =>
          (.error (if made || rest.isEmpty then .alreadyExists else .notDirectory), fs)
        | none => enterMaking (fs.put next .directory) true next rest

/-- Makes a directory and all that lead to it, unless they are there. One that is
called by a dot behind its name is not made, but those that lead to it are. -/
def makeDirectories (fs : Files) (path : String) : Except FileError Unit × Files :=
  let names := Path.names path
  match checkPath path with
  | .error e => (.error e, fs)
  | .ok () =>
    if Path.endsInDot path then
      match fs.enter [] names with
      | .error .notFound =>
        match fs.enterMaking false [] names.dropLast with
        | (.ok (), fs) => ((fs.enter [] names).map fun _ => (), fs)
        | failed => failed
      | result => (result.map fun _ => (), fs)
    else fs.enterMaking false [] names

/-- Makes the directories that lead to a path. -/
def makeWayTo (fs : Files) (path : String) : Except FileError Unit × Files :=
  match checkPath (Path.parent path) with
  | .error e => (.error e, fs)
  | .ok () => fs.enterMaking false [] (Path.names path).dropLast

/-- Puts a text into a file, which is made if it is not there. A name with a
slash behind it is never a file's, however long it is. -/
def write (fs : Files) (path text : String) : Except FileError Files := do
  if Path.endsInSlash path && !Path.endsInDots path then
    checkPath path
    let _ ← fs.enter [] (Path.names path).dropLast
    .error .isDirectory
  else
    let place ← fs.locate path
    if Path.endsInSlash path || fs.entry? place = some .directory then .error .isDirectory
    else pure (fs.put place (.file text))

/-! ## Removing and moving

What users do to files between the runs of a program, which itself does neither.
-/

/-- Whether a place is a directory's or below it. -/
def isWithin (directory : Place) (place : Place) : Bool :=
  directory.isPrefixOf place

/-- Removes a file. -/
def remove (fs : Files) (path : String) : Except FileError Files := do
  match ← fs.find path with
  | (place, some (.file _)) => pure (fs.eraseWhere (· == place))
  | (_, some .directory) => .error .isDirectory
  | (_, none) => .error .notFound

/-- The files with what is at or below a place put at or below another. -/
def relocate (fs : Files) (source place : Place) : Files :=
  let movers := fs.entries.filter fun e => isWithin source e.1
  let rest := (fs.eraseWhere (isWithin source)).eraseWhere (· == place)
  movers.foldl (fun fs e => fs.put (place ++ e.1.drop source.length) e.2) rest

/-- Whether something at a place can be moved to another, given what is there: a
file to no directory, a directory to none but an empty one that is not within
it. -/
def checkMove (fs : Files) (source place : Place) :
    FileEntry → Option FileEntry → Except FileError Unit
  | .file _, some .directory => .error .isDirectory
  | .directory, some (.file _) => .error .notDirectory
  | .file _, _ => .ok ()
  | .directory, _ =>
    if isWithin source place || fs.entries.any fun e => isWithin place e.1 && e.1 != place then
      .error .alreadyExists
    else .ok ()

/-- Moves a file, or a directory with all that is below it, to another place.
Both must be called by names of their own. -/
def move (fs : Files) (path target : String) : Except FileError Files := do
  if Path.endsInDots path || Path.endsInDots target then .error .busy
  match ← fs.find path with
  | (_, none) => .error .notFound
  | (source, some entry) =>
    let (place, there) ← fs.find target
    if place = source then pure fs
    else if entry ≠ .directory ∧ there.isNone ∧ Path.endsInSlash target then
      .error .notDirectory
    else
      fs.checkMove source place entry there
      pure (fs.relocate source place)

/-! ## Lists

How users see what a run has left.
-/

/-- What is below the working directory. -/
def below (fs : Files) : List (Place × FileEntry) :=
  fs.entries.filter (·.1.isBelow)

/-- The paths of all files and directories below the working directory, in the
order of their texts; that of a directory ends in a slash. -/
def listing (fs : Files) : List String :=
  (fs.below.map fun e =>
    Place.path e.1 ++ (if e.2 = .directory then "/" else "")).mergeSort

/-- The paths of all files below the working directory, with their texts. -/
def texts (fs : Files) : List (String × String) :=
  fs.below.filterMap fun e =>
    match e.2 with
    | .file text => some (Place.path e.1, text)
    | .directory => none

end Files

end SchemaEvolution
