/-!
# Looking for texts in texts
-/

namespace SchemaEvolution

/-- Whether characters stand somewhere, side by side, in a list of characters. -/
def occursIn (part : List Char) : List Char → Bool
  | [] => part.isEmpty
  | c :: rest => part.isPrefixOf (c :: rest) || occursIn part rest

/-- Whether a text has another one in it. -/
def hasPart (text part : String) : Bool :=
  occursIn part.toList text.toList

/-- Whether a text begins with another one. -/
def beginsWith (text start : String) : Bool :=
  start.toList.isPrefixOf text.toList

/-- What is left of a text before an ending, if it ends so. -/
def withoutEnding? (text ending : String) : Option String :=
  let cs := text.toList
  let kept := cs.length - ending.toList.length
  if cs.drop kept = ending.toList then some (String.ofList (cs.take kept)) else none

/-- The pieces of a text between marks. -/
def piecesAt (mark : Char) : List Char → List (List Char)
  | [] => [[]]
  | c :: rest =>
    if c = mark then [] :: piecesAt mark rest
    else
      match piecesAt mark rest with
      | [] => [[c]]
      | piece :: pieces => (c :: piece) :: pieces

end SchemaEvolution
