import SchemaEvolution.Json.Token

/-!
# Faults of JSON texts

What keeps a text from being JSON, in words: the first fault from the start of
the text. The text is gone through once, character by character; a value, a
string or a number that is without fault is passed over.

A text may hold other texts. An object whose first member is named
`embeddingName` stands for the value of the text that this member holds, and
must have no other member.
-/

namespace SchemaEvolution

/-- The name of the member that holds the text of a value, in place of the value
itself. It is part of the format. -/
def embeddingName : String := "$serde_json::private::RawValue"

/-- The first thing that keeps a text from being JSON. -/
inductive JsonFault where
  | endInList
  | endInObject
  | endInString
  | endInValue
  | noColon
  | noCommaInList
  | noCommaInObject
  /-- A word that begins like `null`, `true` or `false`. -/
  | wrongWord
  | noValue
  | wrongEscape
  | wrongNumber
  | numberTooLarge
  | controlCharacter
  | nameNoText
  /-- The second half of a surrogate pair without the first, or the first with
  another unit behind it. -/
  | loneSurrogate
  /-- The first half of a surrogate pair with no unit behind it. -/
  | openSurrogate
  | commaAtEnd
  | textBehind
  | tooDeep
deriving DecidableEq

namespace JsonFault

/-- The words for a fault. -/
def message : JsonFault → String
  | .endInList => "EOF while parsing a list"
  | .endInObject => "EOF while parsing an object"
  | .endInString => "EOF while parsing a string"
  | .endInValue => "EOF while parsing a value"
  | .noColon => "expected \x60:\x60"
  | .noCommaInList => "expected \x60,\x60 or \x60]\x60"
  | .noCommaInObject => "expected \x60,\x60 or \x60\x7d\x60"
  | .wrongWord => "expected ident"
  | .noValue => "expected value"
  | .wrongEscape => "invalid escape"
  | .wrongNumber => "invalid number"
  | .numberTooLarge => "number out of range"
  | .controlCharacter => "control character (\\u0000-\\u001F) found while parsing a string"
  | .nameNoText => "key must be a string"
  | .loneSurrogate => "lone leading surrogate in hex escape"
  | .openSurrogate => "unexpected end of hex escape"
  | .commaAtEnd => "trailing comma"
  | .textBehind => "trailing characters"
  | .tooDeep => "recursion limit exceeded"

/-- The text behind something that is without fault, or the fault in it. -/
abbrev Passed := Except JsonFault (List Char)

/-- A text from its first character that is not blank. -/
def skipBlank (cs : List Char) : List Char :=
  cs.dropWhile JsonToken.isBlank

/-! ## Words and numbers -/

/-- Passes over the rest of a word. -/
def word : List Char → List Char → Passed
  | [], cs => .ok cs
  | _ :: _, [] => .error .endInValue
  | w :: ws, c :: cs => if c = w then word ws cs else .error .wrongWord

/-- The fault of a number that lacks a digit before some text. -/
def noDigit (cs : List Char) : JsonFault :=
  if cs.isEmpty then .endInValue else .wrongNumber

/-- The fault of a number that is not well formed, from behind its minus sign. -/
def ofDigits (cs : List Char) : JsonFault :=
  match JsonToken.wholePart? cs with
  | none => noDigit cs
  | some (_, cs) =>
    match JsonToken.fraction? cs with
    | none => noDigit (cs.drop 1)
    | some (_, cs) =>
      match cs.drop 1 with
      | '+' :: rest | '-' :: rest => noDigit rest
      | rest => noDigit rest

/-- Passes over a number. -/
def number (cs : List Char) : Passed :=
  match JsonToken.scanNumber? cs with
  | some (.number none, _) => .error .numberTooLarge
  | some (_, rest) => .ok rest
  | none => .error (ofDigits (if cs.head? = some '-' then cs.drop 1 else cs))

/-! ## Strings -/

/-- The code unit that the next four digits denote. They are four bytes. -/
def unit (cs : List Char) : Except JsonFault (Nat × List Char) :=
  if (String.ofList cs).utf8ByteSize < 4 then .error .endInString
  else
    match cs with
    | a :: b :: c :: d :: rest =>
      match JsonToken.hexValue4? a b c d with
      | some u => .ok (u, rest)
      | none => .error .wrongEscape
    | _ => .error .wrongEscape

/-- Passes over the second half of a surrogate pair. -/
def secondHalf : List Char → Passed
  | [] | ['\\'] => .error .endInString
  | '\\' :: 'u' :: rest => do
    let (u, rest) ← unit rest
    if JsonToken.isLowSurrogate u then pure rest else .error .loneSurrogate
  | _ => .error .openSurrogate

/-- Passes over an escape, from behind its backslash. -/
def escape : List Char → Passed
  | [] => .error .endInString
  | 'u' :: rest => do
    let (u, rest) ← unit rest
    if JsonToken.isLowSurrogate u then .error .loneSurrogate
    else if JsonToken.isHighSurrogate u then secondHalf rest
    else pure rest
  | c :: rest => if (JsonToken.simpleEscape? c).isSome then .ok rest else .error .wrongEscape

/-- Passes over a string, from behind its opening quotation mark, at most `fuel`
steps far. -/
def stringWithin : Nat → List Char → Passed
  | 0, _ | _, [] => .error .endInString
  | _, '"' :: rest => .ok rest
  | fuel + 1, '\\' :: rest => do stringWithin fuel (← escape rest)
  | fuel + 1, c :: rest =>
    if c.val < 0x20 then .error .controlCharacter else stringWithin fuel rest

/-- Passes over a string, from behind its opening quotation mark. Every step
passes over a character. -/
def string (cs : List Char) : Passed :=
  stringWithin (cs.length + 1) cs

/-- Whether a string, from behind its opening quotation mark, is
`embeddingName`. -/
def isEmbeddingName (cs : List Char) : Bool :=
  match JsonToken.scanString? cs with
  | some (pieces, _) => JsonToken.content? pieces == some embeddingName.toList
  | none => false

/-! ## Values -/

/-- Passes over the colon between the name and the value of a member. -/
def colon (cs : List Char) : Passed :=
  match skipBlank cs with
  | ':' :: rest => .ok rest
  | [] => .error .endInObject
  | _ => .error .noColon

/-- Passes over the end of an object that holds the text of a value. -/
def embeddingEnd (cs : List Char) : Passed :=
  match skipBlank cs with
  | '\x7d' :: rest => .ok rest
  | ',' :: _ => .error .commaAtEnd
  | [] => .error .endInObject
  | _ => .error .textBehind

mutual

/-- Passes over a value in which so many lists and objects may be opened within
one another. -/
def value : Nat → Nat → List Char → Passed
  | 0, _, _ => .error .endInValue
  | fuel + 1, levels, cs =>
    match skipBlank cs with
    | [] => .error .endInValue
    | 'n' :: rest => word ['u', 'l', 'l'] rest
    | 't' :: rest => word ['r', 'u', 'e'] rest
    | 'f' :: rest => word ['a', 'l', 's', 'e'] rest
    | '"' :: rest => string rest
    | '[' :: rest => if levels = 0 then .error .tooDeep else items fuel (levels - 1) true rest
    | '\x7b' :: rest => if levels = 0 then .error .tooDeep else members fuel (levels - 1) true rest
    | c :: rest => if c = '-' || c.isDigit then number (c :: rest) else .error .noValue

/-- Passes over the items of a list, from the first one on or from behind one,
and over its end. -/
def items : Nat → Nat → Bool → List Char → Passed
  | 0, _, _, _ => .error .endInList
  | fuel + 1, levels, isFirst, cs =>
    match skipBlank cs with
    | [] => .error .endInList
    | ']' :: rest => .ok rest
    | c :: rest =>
      if isFirst then do items fuel levels false (← value fuel levels (c :: rest))
      else if c ≠ ',' then .error .noCommaInList
      else
        match skipBlank rest with
        | [] => .error .endInValue
        | ']' :: _ => .error .commaAtEnd
        | rest => do items fuel levels false (← value fuel levels rest)

/-- Passes over the members of an object, from the first one on or from behind
one, and over its end. -/
def members : Nat → Nat → Bool → List Char → Passed
  | 0, _, _, _ => .error .endInObject
  | fuel + 1, levels, isFirst, cs =>
    match skipBlank cs with
    | [] => .error .endInObject
    | '\x7d' :: rest => .ok rest
    | c :: rest =>
      if isFirst then
        if c = '"' then do
          let behind ← member fuel levels rest
          if isEmbeddingName rest then embeddingEnd behind else members fuel levels false behind
        else .error .nameNoText
      else if c ≠ ',' then .error .noCommaInObject
      else
        match skipBlank rest with
        | [] => .error .endInValue
        | '"' :: rest => do members fuel levels false (← member fuel levels rest)
        | '\x7d' :: _ => .error .commaAtEnd
        | _ => .error .nameNoText

/-- Passes over a member, from behind the opening quotation mark of its name. -/
def member : Nat → Nat → List Char → Passed
  | 0, _, _ => .error .endInObject
  | fuel + 1, levels, cs => do value fuel levels (← colon (← string cs))

end

/-- The first fault of a text in which lists and objects may lie so many levels
deep; none if the text is JSON. Four steps a character are enough. -/
def of? (levels : Nat) (text : String) : Option JsonFault :=
  match value (4 * text.length + 4) levels text.toList with
  | .error fault => some fault
  | .ok rest => if (skipBlank rest).isEmpty then none else some .textBehind

end JsonFault

end SchemaEvolution
