import PostalAddress.UnitPair
import PostalAddress.ZipCode

/-!
The standard form of an address: canonical values, units in their fields, one line for the street,
one for the units, the last line, and all of them on a single line. Standardizing is a function of
the canonical values alone.
-/

namespace PostalAddress

namespace Bag

def canonical (bag : Bag) (components : List Component) : Bag :=
  ofValues fun component =>
    if components.contains component then component.canonical (bag.value component) else []

def wholeZip (bag : Bag) : Text :=
  if bag.has .zipCode then
    writeZipCode
      (if bag.has .zipPlus4 then bag.value .zipCode ++ '-' :: bag.value .zipPlus4
      else bag.value .zipCode)
  else []

def streetText (bag : Bag) : Text :=
  Text.joinNonempty [' '] ((Component.numberFields ++ Component.streetFields).map bag.value)

def boxText (bag : Bag) : Text := Text.joinNonempty [' '] [bag.value .boxType, bag.value .boxId]

/-- Larger units come first. -/
def unitText (bag : Bag) : Text :=
  Text.joinNonempty [' '] ([Component.subaddressType, .subaddressIdentifier, .occupancyType,
    .occupancyIdentifier].map bag.value)

end Bag

structure Place where
  city : Text
  state : Text
  zipCode : Text
  deriving DecidableEq, Repr

namespace Place

def ofBag (bag : Bag) : Place := ⟨bag.value .city, bag.value .state, bag.value .zipCode⟩

def orElse (first second : Place) : Place :=
  ⟨if first.city.isEmpty then second.city else first.city,
    if first.state.isEmpty then second.state else first.state,
    if first.zipCode.isEmpty then second.zipCode else first.zipCode⟩

def line (place : Place) : Text :=
  Text.joinNonempty [' '] [Text.joinNonempty [',', ' '] [place.city, place.state], place.zipCode]

end Place

structure StandardAddress where
  addressLine1 : Text
  addressLine2 : Text
  city : Text
  state : Text
  zipCode : Text
  oneLine : Text
  components : Components
  deriving DecidableEq

namespace StandardAddress

def ofLines (line1 line2 : Text) (place : Place) (components : Components) : StandardAddress :=
  ⟨line1, line2, place.city, place.state, place.zipCode,
    Text.joinNonempty [' ', ' '] [line1, line2, place.line],
    components⟩

/-- Names of buildings and landmarks and the extension of the ZIP code are no components of it. -/
def singleComponents (bag : Bag) : Bag :=
  let canonical := bag.canonical Component.all
  let unitPair := UnitPair.settle canonical
  .ofValues fun component =>
    match component with
    | .subaddressType | .subaddressIdentifier | .occupancyType | .occupancyIdentifier =>
        unitPair.value component
    | .buildingName | .landmarkName | .zipPlus4 => []
    | .zipCode => canonical.wholeZip
    | other => canonical.value other

def sideComponents (bag : Bag) : Bag :=
  let canonical := bag.canonical (Component.streetFields ++ Component.locationFields)
  .ofValues fun component =>
    match component with
    | .zipPlus4 => []
    | .zipCode => canonical.wholeZip
    | other => canonical.value other

/-- Without a street the first line is that of the post office box. -/
def ofBag (bag : Bag) : StandardAddress :=
  let components := singleComponents bag
  ofLines
    (if components.streetText.isEmpty then components.boxText else components.streetText)
    components.unitText (.ofBag components) (.single components)

def ofStreets (first second : Bag) : StandardAddress :=
  let firstSide := sideComponents first
  let secondSide := sideComponents second
  ofLines (Text.joinNonempty [' ', '&', ' '] [firstSide.streetText, secondSide.streetText]) []
    ((Place.ofBag firstSide).orElse (.ofBag secondSide)) (.pair firstSide secondSide)

end StandardAddress

def standardize : Components → StandardAddress
  | .single bag => .ofBag bag
  | .pair first second => .ofStreets first second

namespace StandardAddress

def toJson (address : StandardAddress) : Json :=
  .ofFields
    [("address_line_1", .string address.addressLine1),
      ("address_line_2", .string address.addressLine2),
      ("city", .string address.city),
      ("state", .string address.state),
      ("zip_code", .string address.zipCode),
      ("standardized", .string address.oneLine),
      ("components", address.components.toJson)]

end StandardAddress

end PostalAddress
