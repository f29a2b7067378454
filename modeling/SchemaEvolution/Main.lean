import SchemaEvolution.Cli.Run
import Std.Time.DateTime

/-!
# The program

Gathers what a command line may be about, answers the command line, and puts
into effect what the answer says. What the answer is, is not decided here.
-/

namespace SchemaEvolution.Program

/-- What is found at a path. -/
def entryAt (path : String) : IO (Option FileEntry) := do
  let p := (← IO.currentDir) / path
  if ← p.isDir then pure (some .directory)
  else if ← p.pathExists then pure (some (.file (← IO.FS.readFile p)))
  else pure none

/-- The names of what is in a directory; none if it is not there. -/
def namesIn (path : String) : IO (List String) := do
  let p := (← IO.currentDir) / path
  if ← p.isDir then pure ((← p.readDir).toList.map (·.fileName)) else pure []

/-- Gathers what is on a way from a place. -/
def gatherWay (fs : Files) (place : Place) : List String → IO Files
  | [] => pure fs
  | name :: rest =>
    if name = ".." then gatherWay fs place.up rest
    else do
      let next := place ++ [name]
      match ← entryAt next.path with
      | some entry => gatherWay (fs.put next entry) next rest
      | none => pure fs

/-- Gathers what is on the way of a path. -/
def gather (fs : Files) (path : String) : IO Files :=
  gatherWay fs [] (Path.names path)

/-- Gathers a directory and the migrations in it. -/
def gatherMigrations (fs : Files) (directory : String) : IO Files := do
  let fs ← gather fs directory
  let names ← namesIn directory
  let migrations := names.filter fun name => (MigrationName.ofFileName? name).isSome
  migrations.foldlM (fun fs name => gather fs (Path.join directory name)) fs

/-- Gathers what a command may be about. -/
def gatherFor (i : Cli.Invocation) : IO Files := do
  let fs ← i.filesTouched.foldlM gather Files.empty
  i.directoryTouched?.toList.foldlM gatherMigrations fs

/-- Puts one thing at a place. -/
def putAt (place : Place) : FileEntry → IO Unit
  | .directory => IO.FS.createDirAll place.path
  | .file text => IO.FS.writeFile place.path text

/-- Puts all that is new or different where it belongs. -/
def scatter (before after : Files) : IO Unit :=
  after.entries.forM fun e =>
    if before.entry? e.1 = some e.2 then pure () else putAt e.1 e.2

/-- The environment, as far as the command line looks at it. -/
def environment : IO Cli.Environment :=
  Cli.environmentNames.filterMapM fun name => do
    pure ((← IO.getEnv name).map (name, ·))

/-- The time; at a loss, the beginning of the year 1970. -/
def now : IO Instant := do
  let t := Std.Time.PlainDateTime.ofWallTime ((← Std.Time.Timestamp.now).toWallTime .zero)
  let beginning : Instant := ⟨⟨1970, 1, 1, by decide⟩, 0, 0, by decide⟩
  let time := do
    let date ← Date.of? t.date.year t.date.month.val.toNat t.date.day.val.toNat
    Instant.of? date t.time.hour.val.toNat t.time.minute.val.toNat t.time.second.val.toNat
      t.time.nanosecond.val.toNat
  pure (time.getD beginning)

end SchemaEvolution.Program

open SchemaEvolution in
/-- Answers a command line. -/
def main (args : List String) : IO UInt32 := do
  let env ← Program.environment
  let files ←
    match Cli.Invocation.read env args with
    | .ok i => Program.gatherFor i
    | .error _ => pure Files.empty
  let r := Cli.respond env args files (← Program.now)
  IO.print r.stdout
  Program.scatter files r.files
  match r.failure? with
  | some e => IO.eprintln ("Error: " ++ e.message)
  | none => pure ()
  pure r.exit.toUInt32
