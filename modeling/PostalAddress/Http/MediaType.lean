import PostalAddress.Text.Ascii
import PostalAddress.Text.Blank

/-!
Media types in headers. A content type is a type with parameters; one whose parameters are
malformed is no content type. An accept header lists ranges with weights, and of the ranges
that match JSON the most specific ones decide.
-/

namespace PostalAddress.Http

def isTokenCharacter (letter : Char) : Bool :=
  isLetter letter || isDigit letter || "!#$%&'*+-.^_`|~".toList.contains letter

def skipSpaces (text : Text) : Text := text.dropWhile (· = ' ')

def jsonType : Text := "application/json".toList

def isQuotable (letter : Char) : Bool :=
  let point := letter.toNat
  0x20 ≤ point && point < 0x7F || 0x80 ≤ point && point ≤ 0xFF

/-- The inside of a quoted string, read behind its opening quote, and the rest. -/
def readQuoted? : Text → Option (Text × Text)
  | [] => none
  | '"' :: rest => some ([], rest)
  | '\\' :: letter :: rest =>
      if 0x20 ≤ letter.toNat && letter.toNat < 0x7F then
        (readQuoted? rest).map fun (inside, behind) => (letter :: inside, behind)
      else none
  | letter :: rest =>
      if letter ≠ '\\' && isQuotable letter then
        (readQuoted? rest).map fun (inside, behind) => (letter :: inside, behind)
      else none

def readToken? (text : Text) : Option (Text × Text) :=
  match text.takeWhile isTokenCharacter with
  | [] => none
  | token => some (token, text.dropWhile isTokenCharacter)

def readParameterValue? : Text → Option (Text × Text)
  | '"' :: rest => readQuoted? rest
  | text => readToken? text

/-- Every parameter takes characters, so the length of the text is enough fuel. -/
def readParameters? : Nat → Text → Option (List (Text × Text))
  | _, [] => some []
  | fuel + 1, ';' :: rest =>
      match readToken? (skipSpaces rest) with
      | none => none
      | some (key, afterKey) =>
          match skipSpaces afterKey with
          | '=' :: afterSign =>
              match readParameterValue? (skipSpaces afterSign) with
              | none => none
              | some (value, behind) =>
                  (readParameters? fuel (skipSpaces behind)).map fun parameters =>
                    (Text.lower key, value) :: parameters
          | _ => none
  | _, _ => none

structure ContentType where
  mediaType : Text
  parameters : List (Text × Text)

namespace ContentType

def ofText? (text : Text) : Option ContentType :=
  let mediaType := text.takeWhile (· ≠ ';')
  (readParameters? text.length (text.dropWhile (· ≠ ';'))).map fun parameters =>
    ⟨Text.lower (Text.trimWhere (· = ' ') mediaType), parameters⟩

def isJson (contentType : ContentType) : Bool := contentType.mediaType = jsonType

/-- The last charset counts, and an empty one does not. -/
def charset (contentType : ContentType) : Text :=
  match contentType.parameters.reverse.lookup "charset".toList with
  | some (letter :: rest) => Text.lower (letter :: rest)
  | _ => "utf-8".toList

end ContentType

def splitUnquoted (separator : Char) (insideQuotes : Bool) : Text → List Text
  | [] => [[]]
  | letter :: rest =>
      if letter = separator && !insideQuotes then [] :: splitUnquoted separator false rest
      else match splitUnquoted separator (if letter = '"' then !insideQuotes else insideQuotes) rest
          with
        | [] => [[letter]]
        | piece :: pieces => (letter :: piece) :: pieces

def isPositiveWeight (text : Text) : Bool :=
  let unsigned := if text.head? = some '+' then text.drop 1 else text
  let whole := unsigned.takeWhile isDigit
  let fraction := match unsigned.dropWhile isDigit with
    | '.' :: rest => rest.takeWhile isDigit
    | _ => []
  (whole ++ fraction).any (· ≠ '0')

/-- A range of an accept header by how closely it fits JSON, and whether its weight accepts what
it fits. -/
structure AcceptedRange where
  fit : Nat
  accepted : Bool
  deriving DecidableEq, Repr

namespace AcceptedRange

def unquote (text : Text) : Text :=
  if text.head? = some '"' && text.getLast? = some '"' then (text.drop 1).dropLast else text

def ofParameter (parameter : Text) : Text × Text :=
  let (key, value) := (Text.cutAt? (· = '=') parameter.trim).getD (parameter.trim, [])
  (Text.lower key, unquote value)

/-- The very type is closer than a star for the subtype, and this than a star for the type. -/
def fitOfType? (range : Text) : Option Nat := do
  let (mainType, subtype) ← Text.cutAt? (· = '/') range
  let mainFit ←
    if Text.lower mainType = "application".toList then some 4
    else if mainType = ['*'] then some 0 else none
  let subtypeFit ←
    if Text.lower subtype = "json".toList then some 2
    else if subtype = ['*'] then some 0 else none
  some (mainFit + subtypeFit)

/-- JSON has no parameters, so those of a range must ask for nothing. What follows the weight is
none. -/
def fitOfParameters? (parameters : List (Text × Text)) : Option Nat :=
  let asked := parameters.takeWhile fun parameter => parameter.1 ≠ ['q']
  if asked.isEmpty then some 0
  else if asked.all fun parameter => parameter.2.isEmpty || parameter.2 = ['*'] then some 1
  else none

def ofText? (text : Text) : Option AcceptedRange :=
  match splitUnquoted ';' false text with
  | [] => none
  | range :: parameterTexts => do
      let parameters := parameterTexts.map ofParameter
      let typeFit ← fitOfType? range.trim
      let parameterFit ← fitOfParameters? parameters
      some ⟨typeFit + parameterFit,
        ((parameters.lookup ['q']).map isPositiveWeight).getD true⟩

end AcceptedRange

/-- A header that is missing or empty allows JSON. -/
def acceptsJson (accept : Text) : Bool :=
  accept.isEmpty ||
    let ranges := (splitUnquoted ',' false accept).filterMap AcceptedRange.ofText?
    ranges.any fun range => range.accepted && ranges.all fun other => other.fit ≤ range.fit

end PostalAddress.Http
