import SchemaEvolution.Cli.Help
import SchemaEvolution.Database.Connection
import SchemaEvolution.Database.DryRun
import SchemaEvolution.Project.Apply
import SchemaEvolution.Project.Create

/-!
# Carrying out commands

A command finds files and leaves files, prints a text, and ends well or with an
error. No database can be reached from here: without a dry run a command about a
target ends with the error of the connection.
-/

namespace SchemaEvolution.Cli

open Session (Fallible)

/-- Why a command has failed. -/
inductive Failure where
  | readingSchema (path : String) (cause : FileError)
  | parsingSchema (path : String) (fault : ReadError)
  | refused (reason : Unsupported)
  | files (cause : FileError)
  | migration (cause : MigrationError)
  | database (cause : DatabaseError)
  | noUrl
  | noConnector
deriving DecidableEq

/-- The text of a failure. -/
def Failure.message : Failure → String
  | .readingSchema path _ => "reading schema " ++ path
  | .parsingSchema path _ => "parsing schema " ++ path
  | .refused u => u.message
  | .files e => e.message
  | .migration e => e.message
  | .database e => e.message
  | .noUrl => "DATABASE_URL (or --database-url) is required"
  | .noConnector =>
    "no Spanner executor is bundled; use --dry-run or embed MigrationRunner with your own Executor"

/-- What a command leaves behind. -/
structure Outcome where
  /-- What it tells. -/
  messages : List Message
  /-- What it prints behind that. -/
  text : String
  /-- Why it has failed, if it has. -/
  failure? : Option Failure
  files : Files

namespace Outcome

/-- The outcome of a command that leaves files, when it has come to a text or has
failed. -/
def of (files : Files) (messages : List Message) : Except Failure String → Outcome
  | .ok text => ⟨messages, text, none, files⟩
  | .error e => ⟨messages, "", some e, files⟩

/-- Whether the command has ended well. -/
def isGood (o : Outcome) : Bool :=
  o.failure?.isNone

end Outcome

/-- Reads the schema in a file. -/
def readSchema (fs : Files) (path : String) : Except Failure Schema :=
  match fs.read path with
  | .error e => .error (.readingSchema path e)
  | .ok text => (Schema.ofText text).mapError (.parsingSchema path)

/-! ## Compiling -/

/-- Writes a script to a file. -/
def writeScript (fs : Files) (messages : List Message) (c : Compilation) (path : String) :
    Outcome :=
  match fs.write path c.script with
  | .error e => .of fs messages (.error (.files e))
  | .ok fs =>
    let message : Message := .info "Wrote DDL"
      [("path", path), ("statements", toString c.statements.length)]
    .of fs (messages ++ [message]) (.ok "")

/-- Prints the script for the schema in a file, or writes it to another. -/
def runDdl (fs : Files) (path : String) (d : Dialect) (output? : Option String) : Outcome :=
  match readSchema fs path with
  | .error e => .of fs [] (.error e)
  | .ok s =>
    let messages := s.creation.compileMessages d
    match s.compile d, output? with
    | .error u, _ => .of fs messages (.error (.refused u))
    | .ok c, none => .of fs messages (.ok c.script)
    | .ok c, some output => writeScript fs messages c output

/-! ## Making migrations -/

/-- The last word on a migration that was to be made. -/
def Creation.told : Creation → Message
  | .noChanges => .info "No changes detected." []
  | .created path actions remarks => .info "Created migration"
    [("path", path), ("actions", toString actions), ("diagnostics", toString remarks)]

/-- Makes a migration to the schema in a file. -/
def runCreate (fs : Files) (p : Project) (name path : String) (now : Instant) : Outcome :=
  match readSchema fs path with
  | .error e => .of fs [] (.error e)
  | .ok current =>
    match (p.create name current now).perform fs with
    | (.ok made, w) => .of w.files (w.messages ++ [Creation.told made]) (.ok "")
    | (.error e, w) => .of w.files w.messages (.error (.migration e))

/-! ## Targets -/

/-- A line of text. -/
def line (text : String) : String := text ++ "\n"

/-- The line about a migration. -/
def statusLine (s : MigrationStatus) : String :=
  let time :=
    match s.appliedAt? with
    | some t => " (" ++ t.plainText ++ ")"
    | none => ""
  line (" [" ++ (if s.appliedAt?.isSome then "X" else " ") ++ "] " ++ s.name ++ time ++
    (if s.onDisk then "" else " (file missing)"))

/-- The lines about the migrations of a target; none if there are none. -/
def statusText (d : Dialect) (statuses : List MigrationStatus) : String :=
  if statuses.isEmpty then ""
  else
    line "" ++ line ("Migrations (" ++ d.tag ++ "):") ++
      line (String.ofList (List.replicate 60 '-')) ++ String.join (statuses.map statusLine) ++
      line ""

/-- The session of a command about a target; it comes to what is printed. -/
def targetSession (fs : Files) (p : Project) (d : Dialect) :
    TargetAction → MigrationSession String
  | .latest => do
    let names ← p.applyPending fs d
    names.forM fun name => Fallible.tell (.info "Applied" [("name", name)])
    pure ""
  | .down => do
    match ← p.revertLast fs d with
    | some name => Fallible.tell (.info "Reverted" [("name", name)])
    | none => Fallible.tell (.info "Nothing to revert." [])
    pure ""
  | .status => do
    let statuses ← p.status fs d
    if statuses.isEmpty then Fallible.tell (.info "No migrations found." [])
    pure (statusText d statuses)

/-- The dry run of a command: what it comes to, and what was sent. -/
def rehearsal (fs : Files) (p : Project) (d : Dialect) (action : TargetAction) (now : Instant) :
    Except MigrationError String × DryRun :=
  (targetSession fs p d action).run.rehearse (fun _ => now) .start

/-- The text that a dry run of a command prints: its own, and the statements
that would have been run. -/
def dryRunText (fs : Files) (p : Project) (d : Dialect) (action : TargetAction) (now : Instant) :
    Except Failure String :=
  let (result, after) := rehearsal fs p d action now
  match result with
  | .error e => .error (.migration e)
  | .ok text => .ok (text ++ String.join (after.schemaStatements.map fun sql => line (sql ++ ";")))

/-- The outcome of a dry run of a command. -/
def dryRun (fs : Files) (p : Project) (d : Dialect) (action : TargetAction) (now : Instant) :
    Outcome :=
  let opening : Message := .info "Dry run against an empty target" [("dialect", d.tag)]
  .of fs (opening :: (rehearsal fs p d action now).2.messages) (dryRunText fs p d action now)

/-- The outcome of looking for a database under a URL. -/
def reach (fs : Files) (d : DatabaseDefaults) (url : String) : Outcome :=
  let (messages, e) := Connection.attempt fs d url
  .of fs messages (.error (.database e))

/-- Carries out a command about a target. -/
def runTarget (fs : Files) (p : Project) (action : TargetAction) (t : Target) (now : Instant) :
    Outcome :=
  if t.dryRun then dryRun fs p t.dialect action now
  else
    match t.url?, t.dialect with
    | none, _ => .of fs [] (.error .noUrl)
    | some _, .spanner => .of fs [] (.error .noConnector)
    | some url, .postgres => reach fs t.defaults url

/-- Carries out a command. -/
def Invocation.run (i : Invocation) (fs : Files) (now : Instant) : Outcome :=
  match i.command with
  | .ddl schema dialect output? => runDdl fs schema dialect output?
  | .create name schema => runCreate fs i.project name schema now
  | .migrate action target => runTarget fs i.project action target now

/-! ## What a command touches -/

/-- The files that a command may read or write by their names. -/
def Invocation.filesTouched (i : Invocation) : List String :=
  match i.command with
  | .ddl schema _ output? => schema :: output?.toList
  | .create _ schema => [schema, i.project.baseline]
  | .migrate _ target => target.defaults.passwordFile?.toList

/-- The directory whose migrations a command may read. -/
def Invocation.directoryTouched? (i : Invocation) : Option String :=
  match i.command with
  | .ddl _ _ _ => none
  | .create _ _ | .migrate _ _ => some i.project.directory

/-! ## Responses -/

/-- What the program answers a command line with. -/
structure Response where
  exit : Nat
  stdout : String
  failure? : Option Failure
  files : Files

/-- Answers a command line, given the environment, the files and the time. -/
def respond (env : Environment) (args : List String) (fs : Files) (now : Instant) : Response :=
  match Invocation.read env args with
  | .error .usage => ⟨2, "", none, fs⟩
  | .error .version => ⟨0, versionText, none, fs⟩
  | .error (.help path) => ⟨0, helpText path env, none, fs⟩
  | .ok i =>
    let o := i.run fs now
    let told := Message.lines i.verbose env.wantsColors o.messages
    ⟨if o.isGood then 0 else 1, told ++ o.text, o.failure?, o.files⟩

end SchemaEvolution.Cli
