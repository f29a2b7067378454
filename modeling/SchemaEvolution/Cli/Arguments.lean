import SchemaEvolution.Dialect

/-!
# Arguments of a command line

The arguments of a command line are options and words. An option has a long name
behind two dashes and may have a letter behind one; letters can share a dash. A
value stands behind its option, as the next argument or in the same one. Behind
two dashes alone there are only words.

A command line has levels: where commands are expected, the first word is one,
and what follows it belongs to the next level. An option whose value is an
argument of its own is taken up only when more is read on its level, or when the
levels behind it are read. So a value that is refused stands back behind a call
for help further on.
-/

namespace SchemaEvolution.Cli

/-- What an option is for. -/
inductive OptionKind where
  /-- It stands for itself. -/
  | flag
  /-- It has a value. -/
  | text
  /-- It has a path for its value, which must not be empty. -/
  | path
  /-- It has the name of a dialect for its value. -/
  | dialect
  /-- It asks for an explanation, whatever else is asked for. -/
  | help
  /-- It asks for the version, whatever else is asked for. -/
  | version
deriving DecidableEq

/-- An option. -/
structure OptionSpec where
  long : String
  short? : Option Char
  kind : OptionKind
  /-- Whether a command line is not understood without it. -/
  required : Bool
  /-- The environment variable that has the value if the option is not given. -/
  fallback? : Option String
  /-- The value if neither the option nor the variable is given. -/
  default? : Option String
  /-- What the option is for, in words for the user. -/
  about : String
deriving DecidableEq

/-- Why a command line is not carried out. -/
inductive Stop where
  /-- It is not understood. -/
  | usage
  /-- It asks for an explanation of the commands that it names. -/
  | help (commands : List String)
  | version
deriving DecidableEq

/-- What is given on one level: the values of options, by their long names, and
words. -/
structure Level where
  given : List (String × String)
  words : List String
  /-- The option that was read last, if its value is an argument of its own, and
  the value as far as it is read. It is taken up before the next one is, or when
  the level ends. -/
  pending? : Option (OptionSpec × Option String)

/-- Whether an option needs a value. -/
def OptionKind.needsValue : OptionKind → Bool
  | .text | .path | .dialect => true
  | .flag | .help | .version => false

/-- Whether an option can have a value. -/
def OptionKind.accepts : OptionKind → String → Bool
  | .path, value => value != ""
  | .dialect, value => (Dialect.ofName value).isOk
  | .text, _ | .flag, _ | .help, _ | .version, _ => true

namespace Level

/-- Nothing is given. -/
def empty : Level := ⟨[], [], none⟩

/-- The level with an option given, which must not be so already. -/
def give (l : Level) (o : OptionSpec) (value : String) : Except Stop Level :=
  if (l.given.lookup o.long).isSome || !o.kind.accepts value then .error .usage
  else .ok { l with given := l.given ++ [(o.long, value)] }

/-- Takes up the option that was read last. -/
def settle (l : Level) : Except Stop Level :=
  match l.pending? with
  | none => .ok l
  | some (_, none) => .error .usage
  | some (o, some value) => { l with pending? := none }.give o value

/-- Reads an option with its value. -/
def take (l : Level) (o : OptionSpec) (value : String) : Except Stop Level := do
  (← l.settle).give o value

/-- Reads an option whose value is the next argument. -/
def await (l : Level) (o : OptionSpec) : Except Stop Level := do
  let l ← l.settle
  pure { l with pending? := some (o, none) }

/-- Reads an option that has no value. -/
def takeAlone (l : Level) (o : OptionSpec) : Except Stop Level := do
  let l ← l.settle
  match o.kind with
  | .help => .error (.help [])
  | .version => .error .version
  | .flag | .text | .path | .dialect => l.give o ""

/-- Reads a word, if so many are expected. -/
def say (room : Nat) (l : Level) (word : String) : Except Stop Level := do
  let l ← l.settle
  if l.words.length < room then pure { l with words := l.words ++ [word] } else .error .usage

end Level

/-- Reads the letters behind one dash. -/
def readLetters (specs : List OptionSpec) (l : Level) : List Char → Except Stop Level
  | [] => .ok l
  | c :: rest =>
    match specs.find? (·.short? == some c) with
    | none => .error .usage
    | some o =>
      if o.kind.needsValue then
        match rest with
        | [] => l.await o
        | '=' :: value => l.take o (String.ofList value)
        | value => l.take o (String.ofList value)
      else do readLetters specs (← l.takeAlone o) rest

/-- Reads the name behind two dashes, and the value behind an equals sign. -/
def readLong (specs : List OptionSpec) (l : Level) (cs : List Char) : Except Stop Level :=
  let name := String.ofList (cs.takeWhile (· != '='))
  match specs.find? (·.long == name), cs.dropWhile (· != '=') with
  | none, _ => .error .usage
  | some o, [] => if o.kind.needsValue then l.await o else l.takeAlone o
  | some o, _ :: value =>
    if o.kind.needsValue then l.take o (String.ofList value) else .error .usage

/-- The arguments of one level, which has room for so many words. If commands are
expected, the level ends before the first word, and what is left begins with
it. -/
def readLevel (specs : List OptionSpec) (expectsCommand : Bool) (room : Nat) :
    Level → List String → Except Stop (Level × List String)
  | l, [] => .ok (l, [])
  | l, arg :: rest =>
    match l.pending?, arg.toList with
    | some (_, none), '-' :: _ :: _ => .error .usage
    | some (o, none), _ =>
      readLevel specs expectsCommand room { l with pending? := some (o, some arg) } rest
    | _, ['-', '-'] => do
      let l ← rest.foldlM (Level.say room) l
      pure (l, [])
    | _, '-' :: '-' :: name => do
      readLevel specs expectsCommand room (← readLong specs l name) rest
    | _, '-' :: c :: letters => do
      readLevel specs expectsCommand room (← readLetters specs l (c :: letters)) rest
    | _, _ =>
      if expectsCommand then .ok (l, arg :: rest)
      else do readLevel specs expectsCommand room (← l.say room arg) rest

/-! ## Values -/

/-- The values of environment variables. -/
abbrev Environment := List (String × String)

/-- The value that the environment has for an option. -/
def Environment.valueOf? (env : Environment) (o : OptionSpec) : Option String :=
  o.fallback?.bind fun name => env.lookup name

/-- Whether a variable has a value that is not empty. -/
def Environment.has (env : Environment) (name : String) : Bool :=
  (env.lookup name).any fun value => !value.isEmpty

/-- Whether messages are to have colours. -/
def Environment.wantsColors (env : Environment) : Bool :=
  !env.has "NO_COLOR"

/-- Whether explanations are to have styles although no terminal is known to show
them. -/
def Environment.forcesColors (env : Environment) : Bool :=
  env.wantsColors && env.has "CLICOLOR_FORCE"

/-- The value of an option on a level. -/
def Level.value? (l : Level) (env : Environment) (o : OptionSpec) : Option String :=
  (l.given.lookup o.long).or (env.valueOf? o)

/-- Requires that each option can have the value that the environment has for it,
unless it is given. -/
def Level.check (l : Level) (env : Environment) (specs : List OptionSpec) : Except Stop Unit :=
  if specs.all fun o => (l.value? env o).all o.kind.accepts then .ok () else .error .usage

end SchemaEvolution.Cli
