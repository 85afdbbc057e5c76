import PostalAddress.Text.Basic
import PostalAddress.Abbreviation

/-!
The parts of a postal address, in the order in which they are written on a label, and the groups
in which they are used: the house number, the street, and the location that both streets of an
intersection share.
-/

namespace PostalAddress

inductive Component where
  | numberPrefix
  | number
  | numberSuffix
  | predirectional
  | premodifier
  | pretype
  | streetName
  | posttype
  | postdirectional
  | postmodifier
  | subaddressType
  | subaddressIdentifier
  | occupancyType
  | occupancyIdentifier
  | boxType
  | boxId
  | buildingName
  | landmarkName
  | city
  | state
  | zipCode
  | zipPlus4
  deriving DecidableEq, Repr

namespace Component

def all : List Component :=
  [numberPrefix, number, numberSuffix, predirectional, premodifier, pretype, streetName, posttype,
    postdirectional, postmodifier, subaddressType, subaddressIdentifier, occupancyType,
    occupancyIdentifier, boxType, boxId, buildingName, landmarkName, city, state, zipCode, zipPlus4]

theorem mem_all (component : Component) : component ∈ all := by
  cases component <;> decide

def name : Component → Text
  | numberPrefix => "address_number_prefix".toList
  | number => "address_number".toList
  | numberSuffix => "address_number_suffix".toList
  | predirectional => "street_predirectional".toList
  | premodifier => "street_pre_modifier".toList
  | pretype => "street_pre_type".toList
  | streetName => "street_name".toList
  | posttype => "street_post_type".toList
  | postdirectional => "street_postdirectional".toList
  | postmodifier => "street_post_modifier".toList
  | subaddressType => "subaddress_type".toList
  | subaddressIdentifier => "subaddress_identifier".toList
  | occupancyType => "occupancy_type".toList
  | occupancyIdentifier => "occupancy_identifier".toList
  | boxType => "usps_box_type".toList
  | boxId => "usps_box_id".toList
  | buildingName => "building_name".toList
  | landmarkName => "landmark_name".toList
  | city => "city".toList
  | state => "state".toList
  | zipCode => "zip_code".toList
  | zipPlus4 => "zip_plus4".toList

def ofName? (text : Text) : Option Component := all.find? fun component => component.name = text

theorem of_name_name (component : Component) : ofName? component.name = some component := by
  cases component <;> decide

def numberFields : List Component := [numberPrefix, number, numberSuffix]

def streetFields : List Component :=
  [predirectional, premodifier, pretype, streetName, posttype, postdirectional, postmodifier]

def locationFields : List Component := [city, state, zipCode, zipPlus4]

def table? : Component → Option AbbreviationTable
  | predirectional | postdirectional => some directionals
  | pretype | posttype => some suffixes
  | subaddressType | occupancyType => some units
  | state => some states
  | _ => none

/-- No table has the empty term, so an empty value stays empty. -/
def canonical (component : Component) : Text → Text
  | [] => []
  | value =>
      match component.table? with
      | some table => table.lookup value
      | none => normalize value

end Component

end PostalAddress
