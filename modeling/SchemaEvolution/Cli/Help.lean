import SchemaEvolution.Cli.Command
import SchemaEvolution.Text.Printable
import SchemaEvolution.Text.Styled

/-!
# Explanations

The text that explains a level of the command line: what it is for, how it is
used, and what each command, word and option of it means. Options are explained
on the line below them, commands and words behind them.
-/

namespace SchemaEvolution.Cli

/-- The name of the program. -/
def programName : String := "twinddl"

/-- The line that tells the version. -/
def versionText : String := programName ++ " 0.1.0\n"

/-- The name that an explanation has for the value of an option. -/
def OptionSpec.valueName (o : OptionSpec) : String :=
  "<" ++ o.long.map (fun c => if c = '-' then '_' else c.toUpper) ++ ">"

/-- A word that is to be written as it is. -/
def literal (text : String) : String :=
  styled [.bold] text

/-- A title. -/
def title (text : String) : String :=
  styled [.bold, .underline] text

/-- An option as it is used. -/
def OptionSpec.used (o : OptionSpec) : String :=
  literal ("--" ++ o.long) ++ (if o.kind.needsValue then " " ++ o.valueName else "")

/-- What is known of the value of an option that is not given. -/
def OptionSpec.remarks (o : OptionSpec) (env : Environment) : String :=
  let fallback :=
    match o.fallback? with
    | some name => " [env: " ++ name ++ "=" ++ (env.valueOf? o).getD "" ++ "]"
    | none => ""
  let value :=
    match o.default? with
    | some value => " [default: " ++ value ++ "]"
    | none => ""
  fallback ++ value

/-- The lines about an option. Those below its names are set in. -/
def OptionSpec.lines (o : OptionSpec) (env : Environment) : List String :=
  let lead :=
    match o.short? with
    | some c => "  " ++ literal ("-" ++ String.singleton c) ++ ", "
    | none => "      "
  (lead ++ o.used) :: ((o.about ++ o.remarks env).splitToList (· == '\n')).map ("          " ++ ·)

/-- Lines with a name and what it means, in two columns. -/
def columns (shown : String → String) (rows : List (String × String)) : List String :=
  let width := (rows.map fun r => r.1.length).foldl max 0
  rows.map fun r =>
    "  " ++ shown r.1 ++ String.ofList (List.replicate (width - r.1.length + 2) ' ') ++ r.2

/-- A part of an explanation, with a blank line before it, unless it is
empty. -/
def part (name : String) (lines : List String) : List String :=
  if lines.isEmpty then [] else "" :: title name :: lines

namespace LevelSpec

/-- The commands of a level, with the one that explains them. -/
def allCommands (l : LevelSpec) : List (String × String) :=
  if l.commands.isEmpty then []
  else l.commands ++ [("help", helpLevel.about)]

/-- How a level is used. -/
def usage (l : LevelSpec) (path : List String) : String :=
  " ".intercalate
    ([literal (" ".intercalate (programName :: path))]
      ++ (if l.options.isEmpty then [] else ["[OPTIONS]"])
      ++ (l.options.filter (·.required)).map (·.used)
      ++ l.word?.toList.map (·.1)
      ++ (if l.commands.isEmpty then [] else ["<COMMAND>"]))

/-- The explanation of a level, as it is written for a terminal. -/
def help (l : LevelSpec) (path : List String) (env : Environment) : String :=
  String.join <| List.map (· ++ "\n") <|
    [l.about, "", title "Usage:" ++ " " ++ l.usage path]
      ++ part "Commands:" (columns literal l.allCommands)
      ++ part "Arguments:" (columns id l.word?.toList)
      ++ part "Options:" (l.options.flatMap (·.lines env))

end LevelSpec

/-- The explanation of the commands that a path names, as it is printed. Unless
styles are forced it does not control a terminal, whatever the environment
holds. -/
def helpText (path : List String) (env : Environment) : String :=
  match LevelSpec.of? path with
  | some l => if env.forcesColors then l.help path env else printable (l.help path env)
  | none => ""

end SchemaEvolution.Cli
