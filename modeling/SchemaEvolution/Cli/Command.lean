import SchemaEvolution.Cli.Arguments
import SchemaEvolution.Database.Connection
import SchemaEvolution.Dialect
import SchemaEvolution.Project.Basic

/-!
# Commands

What the program can be asked to do, and how it is asked on a command line.
Options that say where a project is can be given on every level; the innermost
counts, then the environment.
-/

namespace SchemaEvolution.Cli

/-- What can be done with the migrations of a target. -/
inductive TargetAction where
  | latest | down | status
deriving DecidableEq

/-- The database that migrations are about. -/
structure Target where
  dialect : Dialect
  url? : Option String
  /-- Whether nothing is to be run, only shown. -/
  dryRun : Bool
  /-- What the environment tells about databases. -/
  defaults : DatabaseDefaults
deriving DecidableEq

/-- A command. -/
inductive Command where
  /-- Compiles the schema in a file to statements. -/
  | ddl (schema : String) (dialect : Dialect) (output? : Option String)
  /-- Makes a migration to the schema in a file. -/
  | create (name schema : String)
  | migrate (action : TargetAction) (target : Target)
deriving DecidableEq

/-- A command and the project it is about. -/
structure Invocation where
  project : Project
  /-- Whether more messages are asked for. -/
  verbose : Bool
  command : Command
deriving DecidableEq

/-! ## Options -/

/-- Says where the migrations are. -/
def directoryOption : OptionSpec :=
  ⟨"migrations-dir", none, .path, false, some "TWINDDL_MIGRATIONS_DIR",
    some Project.defaultDirectory, "Migrations directory"⟩

/-- Says where the baseline is. -/
def baselineOption : OptionSpec :=
  ⟨"baseline", none, .path, false, some "TWINDDL_BASELINE", none,
    "Baseline snapshot path [default: <migrations-dir>/schema.snapshot.json]"⟩

/-- Asks for more messages. -/
def verboseOption : OptionSpec :=
  ⟨"verbose", some 'v', .flag, false, none, none, "Enable verbose output"⟩

/-- Asks for an explanation. -/
def helpOption : OptionSpec :=
  ⟨"help", some 'h', .help, false, none, none, "Print help"⟩

/-- Asks for the version. -/
def versionOption : OptionSpec :=
  ⟨"version", some 'V', .version, false, none, none, "Print version"⟩

/-- Says where a schema is. -/
def schemaOption (about : String) : OptionSpec :=
  ⟨"schema", some 's', .path, true, none, none, about⟩

/-- Names a dialect. -/
def dialectOption : OptionSpec :=
  ⟨"dialect", some 'd', .dialect, true, some "TWINDDL_DIALECT", none,
    "Target dialect (postgres or spanner)"⟩

/-- Says where statements are to be written. -/
def outputOption : OptionSpec :=
  ⟨"output", some 'o', .path, false, none, none,
    "Write the statements to this file instead of stdout"⟩

/-- Says where a database is. -/
def urlOption : OptionSpec :=
  ⟨"database-url", none, .text, false, some "DATABASE_URL", none, "Database URL"⟩

/-- Asks for a dry run. -/
def dryRunOption : OptionSpec :=
  ⟨"dry-run", none, .flag, false, none, none,
    "Print the SQL against an empty target instead of executing it"⟩

/-! ## Levels -/

/-- A level of the command line. -/
structure LevelSpec where
  /-- What the commands of the level are for, in words for the user. -/
  about : String
  /-- The options of the level, in the order in which they are explained. -/
  options : List OptionSpec
  /-- The word that is expected, as usage shows it, and what it is for. -/
  word? : Option (String × String)
  /-- The commands that are expected, and what they are for. -/
  commands : List (String × String)

/-- The outermost level. -/
def programLevel : LevelSpec where
  about := "One schema, PostgreSQL and Spanner DDL, managed migrations"
  options := [directoryOption, baselineOption, verboseOption, helpOption, versionOption]
  word? := none
  commands := [("ddl", "Compile a schema snapshot into DDL"),
    ("migrate", "Create, apply and revert migrations")]

/-- The level of the command that compiles a schema. -/
def ddlLevel : LevelSpec where
  about := "Compile a schema snapshot into DDL"
  options := [directoryOption, schemaOption "Schema snapshot (JSON)", baselineOption,
    dialectOption, outputOption, verboseOption, helpOption]
  word? := none
  commands := []

/-- The level of the commands about migrations. -/
def migrateLevel : LevelSpec where
  about := "Create, apply and revert migrations"
  options := [directoryOption, baselineOption, verboseOption, helpOption]
  word? := none
  commands := [("create", "Generate a migration from schema changes"),
    ("latest", "Apply pending migrations"), ("down", "Revert the last applied migration"),
    ("status", "Show migration status")]

/-- The level of the command that makes a migration. -/
def createLevel : LevelSpec where
  about := "Generate a migration from schema changes"
  options := [directoryOption, schemaOption "Current schema snapshot (JSON)", baselineOption,
    verboseOption, helpOption]
  word? := some ("<NAME>", "Migration name")
  commands := []

/-- The level of a command about a target. -/
def targetLevel (about : String) : LevelSpec where
  about
  options := [dialectOption, directoryOption, baselineOption, urlOption, dryRunOption,
    verboseOption, helpOption]
  word? := none
  commands := []

/-- The level of the commands that explain others. -/
def helpLevel : LevelSpec where
  about := "Print this message or the help of the given subcommand(s)"
  options := []
  word? := some ("[COMMAND]...", "Print help for the subcommand(s)")
  commands := []

/-- The level that a line of commands leads to. -/
def LevelSpec.of? : List String → Option LevelSpec
  | [] => some programLevel
  | ["help"] | ["migrate", "help"] => some helpLevel
  | ["ddl"] => some ddlLevel
  | ["migrate"] => some migrateLevel
  | ["migrate", "create"] => some createLevel
  | ["migrate", "latest"] => some (targetLevel "Apply pending migrations")
  | ["migrate", "down"] => some (targetLevel "Revert the last applied migration")
  | ["migrate", "status"] => some (targetLevel "Show migration status")
  | _ => none

/-- The environment variables that matter: those that stand for options, and those
about colours and databases. -/
def environmentNames : List String :=
  ([directoryOption, baselineOption, dialectOption, urlOption] : List OptionSpec).filterMap
    (·.fallback?) ++ ["NO_COLOR", "CLICOLOR_FORCE", "PGHOST", "PGHOSTADDR", "PGPORT", "PGPASSWORD",
      "PGPASSFILE", "HOME"]

/-- What the environment tells about databases. -/
def Environment.database (env : Environment) : DatabaseDefaults where
  host? := env.lookup "PGHOST"
  address? := env.lookup "PGHOSTADDR"
  port? := env.lookup "PGPORT"
  hasPassword := (env.lookup "PGPASSWORD").isSome
  passwordFile? := env.lookup "PGPASSFILE"
  home? := env.lookup "HOME"

/-! ## Reading commands -/

/-- Whether an option is given on a level. -/
def Level.has (l : Level) (o : OptionSpec) : Bool :=
  (l.given.lookup o.long).isSome

/-- A level at which a command ends. -/
def readLast (spec : LevelSpec) (env : Environment) (args : List String) :
    Except Stop Level := do
  let (l, _) ← readLevel spec.options false spec.word?.toList.length .empty args
  let l ← l.settle
  l.check env spec.options
  pure l

/-- A level at which a command goes on, with the word that it goes on with and
the arguments behind it. The word may ask for an explanation of the commands
named behind it. What is pending on the level and what the environment has for
it are looked at only when the command is understood. -/
def readOuter (spec : LevelSpec) (path : List String) (args : List String) :
    Except Stop (Level × String × List String) := do
  let (l, rest) ← readLevel spec.options true 0 .empty args
  match rest with
  | "help" :: names =>
    .error (if (LevelSpec.of? (path ++ names)).isSome then .help names else .usage)
  | word :: rest => pure (l, word, rest)
  | [] => .error .usage

/-- Ends a level at which a command has gone on and is understood. -/
def endOuter (spec : LevelSpec) (env : Environment) (l : Level) : Except Stop Level := do
  let l ← l.settle
  l.check env spec.options
  pure l

/-- A value that has to be given. -/
def require {α : Type} : Option α → Except Stop α
  | some value => .ok value
  | none => .error .usage

/-- The value that a level has to have for an option. -/
def Level.require (l : Level) (env : Environment) (o : OptionSpec) : Except Stop String :=
  Cli.require (l.value? env o)

/-- The dialect that a level has to have. -/
def readDialect (l : Level) (env : Environment) : Except Stop Dialect := do
  match Dialect.ofName (← l.require env dialectOption) with
  | .ok d => pure d
  | .error _ => .error .usage

/-- Reads the command that compiles a schema. -/
def readDdl (env : Environment) (args : List String) : Except Stop (Level × Command) := do
  let l ← readLast ddlLevel env args
  let schema ← l.require env (schemaOption "")
  let dialect ← readDialect l env
  pure (l, .ddl schema dialect (l.value? env outputOption))

/-- Reads the command that makes a migration. -/
def readCreate (env : Environment) (args : List String) : Except Stop (Level × Command) := do
  let l ← readLast createLevel env args
  let schema ← l.require env (schemaOption "")
  match l.words with
  | [name] => pure (l, .create name schema)
  | _ => .error .usage

/-- Reads a command about a target. -/
def readTarget (action : TargetAction) (env : Environment) (args : List String) :
    Except Stop (Level × Command) := do
  let l ← readLast (targetLevel "") env args
  let dialect ← readDialect l env
  pure (l, .migrate action ⟨dialect, l.value? env urlOption, l.has dryRunOption,
    env.database⟩)

/-- Says for which command an explanation was asked for. -/
def withinCommand {α : Type} (name : String) (r : Except Stop α) : Except Stop α :=
  r.mapError fun
    | .help commands => .help (name :: commands)
    | stop => stop

/-- Reads a command about migrations, on the two levels that it has. -/
def readMigrate (env : Environment) (args : List String) :
    Except Stop (List Level × Command) := do
  let (l, word, rest) ← readOuter migrateLevel ["migrate"] args
  let (inner, command) ← withinCommand word <|
    match word with
    | "create" => readCreate env rest
    | "latest" => readTarget .latest env rest
    | "down" => readTarget .down env rest
    | "status" => readTarget .status env rest
    | _ => .error .usage
  pure ([← endOuter migrateLevel env l, inner], command)

/-- The value of an option that can be given on every level: the innermost one,
then the environment's. -/
def innermost? (levels : List Level) (env : Environment) (o : OptionSpec) : Option String :=
  (levels.reverse.findSome? (·.given.lookup o.long)).or (env.valueOf? o)

/-- Where the project is. -/
def projectOf (levels : List Level) (env : Environment) : Project :=
  let p := Project.within ((innermost? levels env directoryOption).getD Project.defaultDirectory)
  match innermost? levels env baselineOption with
  | some baseline => { p with baseline }
  | none => p

/-- Reads a command line. -/
def Invocation.read (env : Environment) (args : List String) : Except Stop Invocation := do
  let (l, word, rest) ← readOuter programLevel [] args
  let (levels, command) ← withinCommand word <|
    match word with
    | "ddl" => (readDdl env rest).map fun r => ([r.1], r.2)
    | "migrate" => readMigrate env rest
    | _ => .error .usage
  let levels := (← endOuter programLevel env l) :: levels
  pure ⟨projectOf levels env, levels.any (·.has verboseOption), command⟩

end SchemaEvolution.Cli
