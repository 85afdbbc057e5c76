import PostalAddress.Connector
import PostalAddress.Token
import PostalAddress.ZipCode

/-!
An intersection that the locator could not read is labelled word by word. The text is split at its
first connector, what is behind it at the first comma: two streets, and a last line with city,
state and ZIP code.
-/

namespace PostalAddress

/-- Takes the first of several words off, if it is of a kind. -/
def takeFirst (kind : Text → Bool) (words : List Text) : Option Text × List Text :=
  match words with
  | first :: next :: rest => if kind first then (some first, next :: rest) else (none, words)
  | _ => (none, words)

def takeLast (kind : Text → Bool) (words : List Text) : Option Text × List Text :=
  let (last, rest) := takeFirst kind words.reverse
  (last, rest.reverse)

/-- Digits and at most one more word character. -/
def isHouseNumber (word : Text) : Bool :=
  match Text.readDigits? word with
  | none => false
  | some (_, rest) => rest.length ≤ 1 && rest.all isWordCharacter

structure StreetWords where
  number : Option Text
  predirectional : Option Text
  name : List Text
  posttype : Option Text
  postdirectional : Option Text

namespace StreetWords

/-- The name keeps at least one word: each part is taken only from several words. -/
def ofWords (words : List Text) : StreetWords :=
  let (number, afterNumber) := takeFirst isHouseNumber words
  let (postdirectional, beforeDirectional) := takeLast directionals.recognizes afterNumber
  let (posttype, beforeType) := takeLast suffixes.recognizes beforeDirectional
  let (predirectional, name) := takeFirst directionals.recognizes beforeType
  ⟨number, predirectional, name, posttype, postdirectional⟩

/-- A house number is one on either street; the other labels come from `label`. -/
def tokens (label : Component → Text) (street : StreetWords) : List Token :=
  (street.number.map (Token.ofComponent .number)).toList ++
    (street.predirectional.map (Token.mk (label .predirectional))).toList ++
    ((Text.present? (Text.unwords street.name)).map (Token.mk (label .streetName))).toList ++
    (street.posttype.map (Token.mk (label .posttype))).toList ++
    (street.postdirectional.map (Token.mk (label .postdirectional))).toList

end StreetWords

def tagStreet (label : Component → Text) (text : Text) : List Token :=
  (StreetWords.ofWords text.words).tokens label

/-- A word that is a ZIP code, and its extension, which may be empty. -/
def zipWord? (word : Text) : Option (Text × Text) :=
  match cutAtHyphen? word with
  | some (zone, addOn) => if isDigits 5 zone && isDigits 4 addOn then some (zone, addOn) else none
  | none => if isDigits 5 word then some (word, []) else none
where
  cutAtHyphen? (word : Text) : Option (Text × Text) := Text.cutAt? (· = '-') word

/-- The last words, so many of them, if they name a state, and the words before them. -/
def stateWords? (words : List Text) (count : Nat) : Option (Text × List Text) :=
  let name := Text.unwords (words.drop (words.length - count))
  if count ≤ words.length && states.recognizes name then
    some (name, words.take (words.length - count))
  else none

/-- A last line by its parts, each of which may be empty. -/
structure LastLine where
  city : Text
  state : Text
  zip : Text
  plus4 : Text
  deriving DecidableEq, Repr

namespace LastLine

/-- A state of two words is looked for before a state of one word. -/
def ofCityWords (words : List Text) (zip plus4 : Text) : LastLine :=
  match [2, 1].findSome? (stateWords? words) with
  | some (state, city) => ⟨Text.unwords city, state, zip, plus4⟩
  | none => ⟨Text.unwords words, [], zip, plus4⟩

def ofWords (words : List Text) : LastLine :=
  match words.getLast?.bind zipWord? with
  | some (zip, plus4) => ofCityWords words.dropLast zip plus4
  | none => ofCityWords words [] []

/-- Commas count as blanks. -/
def ofText (text : Text) : LastLine :=
  ofWords (Text.words (text.map fun letter => if letter = ',' then ' ' else letter))

def tokens (line : LastLine) : List Token :=
  [(Component.city, line.city), (.state, line.state), (.zipCode, line.zip),
      (.zipPlus4, line.plus4)].filterMap fun (component, value) =>
    (Text.present? value).map (Token.ofComponent component)

end LastLine

def Crossing.tokens (crossing : Crossing) : List Token :=
  let (street, lastLine) := (Text.cutAt? (· = ',') crossing.behind).getD (crossing.behind, [])
  tagStreet Component.label crossing.before ++
    .separator crossing.connector ::
      (tagStreet Label.ofSecondStreet street ++
        (LastLine.ofText lastLine).tokens)

def bareIntersectionTokens? (text : Text) : Option (List Token) :=
  (Crossing.ofText? text).map Crossing.tokens

end PostalAddress
