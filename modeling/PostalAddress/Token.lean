import PostalAddress.Component
import PostalAddress.Text.Blank

/-!
A tagger answers with tokens: pieces of an address under labels. Labels are open vocabulary. Each
component has one label, the separator of an intersection has one, the labels of the second
street begin in the same way, and all others are ignored.
-/

namespace PostalAddress

structure Token where
  label : Text
  text : Text
  deriving DecidableEq, Repr

namespace Component

def label : Component → Text
  | numberPrefix => "AddressNumberPrefix".toList
  | number => "AddressNumber".toList
  | numberSuffix => "AddressNumberSuffix".toList
  | predirectional => "StreetNamePreDirectional".toList
  | premodifier => "StreetNamePreModifier".toList
  | pretype => "StreetNamePreType".toList
  | streetName => "StreetName".toList
  | posttype => "StreetNamePostType".toList
  | postdirectional => "StreetNamePostDirectional".toList
  | postmodifier => "StreetNamePostModifier".toList
  | subaddressType => "SubaddressType".toList
  | subaddressIdentifier => "SubaddressIdentifier".toList
  | occupancyType => "OccupancyType".toList
  | occupancyIdentifier => "OccupancyIdentifier".toList
  | boxType => "USPSBoxType".toList
  | boxId => "USPSBoxID".toList
  | buildingName => "BuildingName".toList
  | landmarkName => "LandmarkName".toList
  | city => "PlaceName".toList
  | state => "StateName".toList
  | zipCode => "ZipCode".toList
  | zipPlus4 => "ZipPlus4".toList

end Component

namespace Label

def separator : Text := "IntersectionSeparator".toList

def second : Text := "Second".toList

def isSecondStreet (label : Text) : Bool := "SecondStreet".toList.isPrefixOf label

def asFirstStreet (label : Text) : Text := label.drop second.length

def ofSecondStreet (component : Component) : Text := second ++ component.label

def component? (label : Text) : Option Component :=
  Component.all.find? fun component => component.label = label

theorem component_label (component : Component) : component? component.label = some component := by
  cases component <;> decide

theorem component_eq_some_iff (label : Text) (component : Component) :
    component? label = some component ↔ component.label = label := by
  constructor
  · intro found
    simpa using List.find?_some found
  · intro same
    rw [← same, component_label]

end Label

namespace Token

def ofComponent (component : Component) (text : Text) : Token := ⟨component.label, text⟩

def separator (text : Text) : Token := ⟨Label.separator, text⟩

def isSecondStreet (token : Token) : Bool := Label.isSecondStreet token.label

def isSeparator (token : Token) : Bool := token.label = Label.separator

def component? (token : Token) : Option Component := Label.component? token.label

end Token

/-- What a tagger takes the whole text for. -/
inductive Mode where
  | streetAddress
  | intersection
  deriving DecidableEq, Repr

/-- A tagger that cannot settle on one label for each field names the one that it had to repeat. -/
inductive Tagging where
  | parsed (mode : Mode) (tokens : List Token)
  | repeatedLabel (label : Text) (tokens : List Token)
  deriving DecidableEq, Repr

def Tagging.tokens : Tagging → List Token
  | parsed _ tokens => tokens
  | repeatedLabel _ tokens => tokens

end PostalAddress
