import SchemaEvolution.Text.Styled

/-!
# Messages

While something is done, whoever watches is told of it in messages: a text, and
details with names. A message is shown on a line of its own, beginning with how
much it matters; messages for debugging are shown only on request.

The text of a message cannot control a terminal. Its details are shown as they
are, so a detail with line breaks in it takes more than one line.
-/

namespace SchemaEvolution

/-- How much a message matters. -/
inductive Severity where
  | debug | info | warning
deriving DecidableEq

/-- What is told. -/
structure Message where
  severity : Severity
  text : String
  /-- Details by their names. -/
  details : List (String × String)
deriving DecidableEq

namespace Severity

/-- The word for a severity, at the width of the longest. -/
def label : Severity → String
  | .debug => "DEBUG"
  | .info => " INFO"
  | .warning => " WARN"

/-- The colour of a severity. -/
def color : Severity → TextStyle
  | .debug => .blue
  | .info => .green
  | .warning => .yellow

end Severity

namespace Message

/-- A message for debugging. -/
def debug (text : String) (details : List (String × String)) : Message :=
  ⟨.debug, text, details⟩

/-- A message about what is done. -/
def info (text : String) (details : List (String × String)) : Message :=
  ⟨.info, text, details⟩

/-- A message about what may be unexpected. -/
def warning (text : String) (details : List (String × String)) : Message :=
  ⟨.warning, text, details⟩

/-- A character of a text as it is shown. Those that can control a terminal are
shown by their numbers. -/
def shownChar (c : Char) : String :=
  let number := String.ofList (Nat.toDigits 16 c.toNat)
  if 0x80 ≤ c.val && c.val ≤ 0x9f then "\\u\x7b" ++ number ++ "\x7d"
  else if c = '\x1b' || c = '\x7f' then "\\x" ++ number
  else if c = '\x07' || c = '\x08' || c = '\x0c' then "\\x0" ++ number
  else String.singleton c

/-- A piece of a message in a style, if messages are to have colours. -/
def paint (colored : Bool) (style : TextStyle) (piece : String) : String :=
  if colored then styled [style] piece else piece

/-- A detail as it is shown behind the text. -/
def detail (colored : Bool) (d : String × String) : String :=
  " " ++ paint colored .italic d.1 ++ paint colored .dim "=" ++ d.2

/-- The line, or lines, that show a message. -/
def line (colored : Bool) (m : Message) : String :=
  paint colored m.severity.color m.severity.label ++ " "
    ++ String.join (m.text.toList.map shownChar)
    ++ String.join (m.details.map (detail colored)) ++ "\n"

/-- Whether a message is shown, given whether messages for debugging are. -/
def isShown (verbose : Bool) (m : Message) : Bool :=
  verbose || m.severity ≠ .debug

/-- The lines that show messages. -/
def lines (verbose colored : Bool) (l : List Message) : String :=
  String.join ((l.filter (·.isShown verbose)).map (·.line colored))

end Message

end SchemaEvolution
