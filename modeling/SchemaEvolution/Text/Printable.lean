/-!
# Text without terminal control

Characters that control a terminal print nothing: control characters other than
white space, and the sequences that an escape character begins. `printable`
leaves them out of a text.

A sequence is told by its form alone. Behind the escape character stands a final
character, perhaps with marks before it; or a bracket, parameters and a final
character; or an opener of a string, which goes on up to the next escape
character or, for some kinds, up to a character that ends them. White space
within a sequence interrupts it: what follows is printed, and the sequence goes
on behind the next control character.
-/

namespace SchemaEvolution

/-- What a terminal expects next. -/
inductive TerminalState where
  /-- Text. -/
  | text
  /-- What comes behind an escape character. -/
  | escape
  /-- The final character of a short sequence. -/
  | escapeMarked
  /-- The first parameter or the final character of a sequence with parameters. -/
  | parameters
  /-- More parameters or the final character. -/
  | moreParameters
  /-- The final character of a sequence with parameters. -/
  | parametersMarked
  /-- The final character of a sequence that has no meaning. -/
  | parametersVoid
  /-- The first parameter of a string for a device, or the string. -/
  | device
  /-- More parameters of a string for a device, or the string. -/
  | deviceParameters
  /-- A string for a device that marks announce. -/
  | deviceMarked
  /-- A string that a bell can end. -/
  | bellString
  /-- Any other string. -/
  | string
deriving DecidableEq

namespace TerminalState

/-- Whether a terminal is within something that white space does not
interrupt. -/
def isString : TerminalState → Bool
  | device | deviceParameters | deviceMarked | bellString | string => true
  | _ => false

/-- Whether a character ends a string: its bytes have the end mark of a string
among them. -/
def endsString (c : Char) : Bool :=
  (String.singleton c).toUTF8.toList.contains 0x9c

/-- What a terminal expects behind a character that is a part of a sequence. -/
def next (s : TerminalState) (c : Char) : TerminalState :=
  let isMark := 0x20 ≤ c.val && c.val ≤ 0x2f
  let isDigit := 0x30 ≤ c.val && c.val ≤ 0x3b
  let isSign := 0x3c ≤ c.val && c.val ≤ 0x3f
  let isFinal := 0x40 ≤ c.val && c.val ≤ 0x7e
  match s with
  | text => text
  | escape =>
    if c = '[' then parameters
    else if c = ']' then bellString
    else if c = 'P' then device
    else if c = 'X' || c = '^' || c = '_' then string
    else if isMark then escapeMarked
    else if isDigit || isSign || isFinal then text
    else escape
  | escapeMarked => if isDigit || isSign || isFinal then text else escapeMarked
  | parameters =>
    if isFinal then text
    else if isMark then parametersMarked
    else if isDigit || isSign then moreParameters
    else parameters
  | moreParameters =>
    if isFinal then text
    else if isMark then parametersMarked
    else if isSign then parametersVoid
    else moreParameters
  | parametersMarked =>
    if isFinal then text
    else if isDigit || isSign then parametersVoid
    else parametersMarked
  | parametersVoid => if isFinal then text else parametersVoid
  | device =>
    if isFinal then string
    else if isMark then deviceMarked
    else if isDigit || isSign then deviceParameters
    else device
  | deviceParameters =>
    if isFinal || isSign then string
    else if isMark then deviceMarked
    else deviceParameters
  | deviceMarked => if isDigit || isSign || isFinal then string else deviceMarked
  | bellString => if c = '\x07' then text else bellString
  | string => if endsString c then text else string

end TerminalState

/-- White space among the control characters. -/
def isControlBlank (c : Char) : Bool :=
  c = '\t' || c = '\n' || c = '\x0c' || c = '\r'

/-- A terminal that reads a text. -/
structure Terminal where
  /-- What it expects. -/
  state : TerminalState
  /-- Whether white space has interrupted what it expects. -/
  interrupted : Bool

namespace Terminal

/-- A terminal that reads a character, and whether it prints it. -/
def read (t : Terminal) (c : Char) : Terminal × Bool :=
  if c = '\x1b' then (⟨.escape, false⟩, false)
  else if c = '\x18' || c = '\x1a' then (⟨.text, false⟩, false)
  else if t.interrupted || t.state = .text then
    if 0x80 ≤ c.val then (⟨.text, false⟩, true)
    else if isControlBlank c || 0x20 ≤ c.val && c.val < 0x7f then (t, true)
    else (⟨t.state, false⟩, false)
  else if !t.state.isString && isControlBlank c then (⟨t.state, true⟩, true)
  else (⟨t.state.next c, false⟩, false)

end Terminal

/-- The characters of a text that a terminal prints. -/
def printableChars (t : Terminal) : List Char → List Char
  | [] => []
  | c :: rest =>
    let (t, isPrinted) := t.read c
    if isPrinted then c :: printableChars t rest else printableChars t rest

/-- A text without what controls a terminal. -/
def printable (s : String) : String :=
  String.ofList (printableChars ⟨.text, false⟩ s.toList)

end SchemaEvolution
