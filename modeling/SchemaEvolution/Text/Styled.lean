/-!
# Styled text

A terminal shows a text in some style between a sequence that turns the style on
and one that turns all styles off.
-/

namespace SchemaEvolution

/-- A style in which a terminal can show a text. -/
inductive TextStyle where
  | bold | dim | italic | underline | green | yellow | blue
deriving DecidableEq

/-- The number of a style in the sequence that turns it on. -/
def TextStyle.code : TextStyle → String
  | .bold => "1"
  | .dim => "2"
  | .italic => "3"
  | .underline => "4"
  | .green => "32"
  | .yellow => "33"
  | .blue => "34"

/-- A text that a terminal shows in some styles. -/
def styled (styles : List TextStyle) (text : String) : String :=
  String.join (styles.map fun s => "\x1b[" ++ s.code ++ "m") ++ text ++ "\x1b[0m"

end SchemaEvolution
