import PostalAddress.Json.Basic
import PostalAddress.Text.Ascii
import PostalAddress.Token

/-!
A locator reads an address text on its own terms and answers with a location, or with nothing. The
fields of a location are renamed to labels: those of a street address, or those of two streets.
A post office box comes as a unit and is told by its designator.
-/

namespace PostalAddress

inductive StreetSide where
  | only
  | first
  | second
  deriving DecidableEq, Repr

inductive StreetPart where
  | predirectional
  | name
  | streetType
  | postdirectional
  deriving DecidableEq, Repr

inductive LocationField where
  | number
  | street (side : StreetSide) (part : StreetPart)
  | unitType
  | unitNumber
  | city
  | state
  | zip
  | plus4
  deriving DecidableEq, Repr

namespace LocationField

/-- The name of a street field ends in the number of its street. -/
def sideMark : StreetSide → Text
  | .only => []
  | .first => ['1']
  | .second => ['2']

def partName : StreetPart → Text
  | .predirectional => "prefix".toList
  | .name => "street".toList
  | .streetType => "type".toList
  | .postdirectional => "suffix".toList

def name : LocationField → Text
  | number => "number".toList
  | street side part => partName part ++ sideMark side
  | unitType => "sec_unit_type".toList
  | unitNumber => "sec_unit_num".toList
  | city => "city".toList
  | state => "state".toList
  | zip => "zip".toList
  | plus4 => "plus4".toList

end LocationField

@[ext]
structure Location where
  get : LocationField → Option Text

abbrev Locator := Text → Option Location

abbrev FieldLabels := List (LocationField × Text)

namespace FieldLabels

def street (side : StreetSide) (label : Component → Text) : FieldLabels :=
  [(.street side .predirectional, label .predirectional),
    (.street side .name, label .streetName),
    (.street side .streetType, label .posttype),
    (.street side .postdirectional, label .postdirectional)]

def address (unitType unitNumber : Component) : FieldLabels :=
  (.number, Component.number.label) ::
    (street .only Component.label ++
      [(.unitType, unitType.label), (.unitNumber, unitNumber.label)])

def place : FieldLabels :=
  [(.city, Component.city.label), (.state, Component.state.label), (.zip, Component.zipCode.label),
    (.plus4, Component.zipPlus4.label)]

end FieldLabels

/-- A spelling of PO BOX, with or without periods and blanks. -/
def isBoxDesignator (text : Text) : Bool :=
  let skipPeriod : Text → Text := fun rest => if rest.head? = some '.' then rest.drop 1 else rest
  match Text.readWord? ['p'] text with
  | none => false
  | some (_, afterP) =>
      match Text.readWord? ['o'] (Text.skipBlanks (skipPeriod afterP)) with
      | none => false
      | some (_, afterO) => Text.lower (Text.skipBlanks (skipPeriod afterO)) = "box".toList

/-- A house number in front of a street name: digits and at most one more word character, then
blanks, then a name that is on one line. -/
def splitHouseNumber? (text : Text) : Option (Text × Text) := do
  let (digits, rest) ← Text.readDigits? text
  let mark := (rest.take 1).filter isWordCharacter
  let name := Text.skipBlanks (rest.drop mark.length)
  if (rest.drop mark.length).head?.any isBlank && !name.isEmpty && !name.any isLineEnd then
    some (digits ++ mark, name)
  else none

namespace Location

def ofFields (fields : List (Text × Json)) : Location :=
  ⟨fun field => (fields.lookup field.name).bind Json.text?⟩

def value (location : Location) (field : LocationField) : Text := (location.get field).getD []

def tokens (location : Location) (fields : FieldLabels) : List Token :=
  fields.filterMap fun (field, label) =>
    (Text.present? (location.value field).trim).map fun text => ⟨label, text⟩

/-- The house number that stands in front of the street name of an intersection, if the token is
a street name with one. -/
def houseNumber? (token : Token) : Option (Text × Text) :=
  if Component.streetName.label.isSuffixOf token.label then splitHouseNumber? token.text else none

/-- House numbers in front of the name come first, so that they cannot pass as part of the name. -/
def sideTokens (location : Location) (fields : FieldLabels) : List Token :=
  let tokens := location.tokens fields
  tokens.filterMap (fun token =>
      (houseNumber? token).map fun (number, _) => .ofComponent .number number) ++
    tokens.map fun token =>
      match houseNumber? token with
      | some (_, name) => ⟨token.label, name⟩
      | none => token

def isIntersection (location : Location) : Bool :=
  !(location.value (.street .first .name)).isEmpty ||
    !(location.value (.street .second .name)).isEmpty

def isBox (location : Location) : Bool := isBoxDesignator (location.value .unitType).trim

def addressTokens (location : Location) : List Token :=
  location.tokens
      (if location.isBox then .address .boxType .boxId
      else .address .occupancyType .occupancyIdentifier) ++
    location.tokens .place

def intersectionTokens (location : Location) (connector : Text) : List Token :=
  location.sideTokens (.street .first Component.label) ++
    .separator connector ::
      (location.sideTokens (.street .second Label.ofSecondStreet) ++
        location.tokens .place)

end Location

end PostalAddress
