import PostalAddress.Text.Ascii
import PostalAddress.Text.Blank

/-!
Connectors join the two streets of an intersection: the words AND and AT in any case, and the signs
"&" and "@". A text is split at its first connector; a word splits only between blanks. Two house
numbers on one street are joined by "&" or AND alone.
-/

namespace PostalAddress

def isConnectorSign (letter : Char) : Bool := letter = '&' || letter = '@'

def readConnectorWord? (text : Text) : Option (Text × Text) :=
  (Text.readWord? "and".toList text).or (Text.readWord? "at".toList text)

/-- The first connector of a text; a word is one where no word character touches it. -/
def findConnector? (afterWord : Bool) : Text → Option Text
  | [] => none
  | letter :: rest =>
      if isConnectorSign letter then some [letter]
      else match readConnectorWord? (letter :: rest) with
        | some (word, behind) =>
            if !afterWord && !behind.head?.any isWordCharacter then some word
            else findConnector? (isWordCharacter letter) rest
        | none => findConnector? (isWordCharacter letter) rest

def readConnector? (text : Text) : Option (Text × Text) :=
  match readConnectorWord? (Text.skipBlanks text) with
  | some (word, behind) =>
      if text.head?.any isBlank && behind.head?.any isBlank then
        some (word, Text.skipBlanks behind)
      else none
  | none =>
      match Text.skipBlanks text with
      | letter :: behind =>
          if isConnectorSign letter then some ([letter], Text.skipBlanks behind) else none
      | [] => none

/-- The blanks around the connector belong to neither side. -/
structure Crossing where
  before : Text
  connector : Text
  behind : Text
  deriving DecidableEq, Repr

def Crossing.ofText? : Text → Option Crossing
  | [] => none
  | letter :: rest =>
      match readConnector? (letter :: rest) with
      | some (connector, behind) => some ⟨[], connector, behind⟩
      | none => (Crossing.ofText? rest).map fun crossing =>
          ⟨letter :: crossing.before, crossing.connector, crossing.behind⟩

-- Comparing the two sides unfolds no connector: reading one is long, and not what is split here.
seal readConnector? in
theorem Crossing.of_text_cons (letter : Char) (rest : Text) :
    Crossing.ofText? (letter :: rest) =
      match readConnector? (letter :: rest) with
      | some (connector, behind) => some ⟨[], connector, behind⟩
      | none => (Crossing.ofText? rest).map fun crossing =>
          ⟨letter :: crossing.before, crossing.connector, crossing.behind⟩ :=
  rfl

/-- Two house numbers that share a street: the first number, the connector as it is written, and
the second number with the street. -/
structure DualNumber where
  number : Text
  connector : Text
  remainder : Text
  deriving DecidableEq, Repr

namespace DualNumber

/-- A number, at most one letter, blanks, and something that is not blank, all on one line from
there. -/
def startsNumberedStreet (text : Text) : Bool :=
  match Text.readDigits? text with
  | none => false
  | some (_, rest) =>
      let afterLetter := if rest.head?.any isLetter then rest.drop 1 else rest
      let street := Text.skipBlanks afterLetter
      afterLetter.head?.any isBlank && !street.isEmpty && !street.any isLineEnd

def ofNumber? (number rest : Text) : Option DualNumber := do
  let (connector, behind) ←
    (Text.readWord? ['&'] (Text.skipBlanks rest)).or
      (Text.readWord? "and".toList (Text.skipBlanks rest))
  let remainder := Text.skipBlanks behind
  if startsNumberedStreet remainder then some ⟨number, connector, remainder⟩ else none

/-- A letter behind the first number belongs to it, unless it begins the connector. -/
def ofText? (text : Text) : Option DualNumber := do
  let (digits, rest) ← Text.readDigits? (Text.skipBlanks text)
  match rest with
  | letter :: behind =>
      if isLetter letter then
        (ofNumber? (digits ++ [letter]) behind).or (ofNumber? digits rest)
      else ofNumber? digits rest
  | [] => none

end DualNumber

end PostalAddress
