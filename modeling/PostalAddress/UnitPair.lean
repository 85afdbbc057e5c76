import PostalAddress.Bag

/-!
Units in standard form. An address has at most two: the occupancy, and a larger unit around it. A
unit may be filed under the name of a building or a landmark, its designator may be folded into
its identifier, and an identifier alone is written behind a number sign.
-/

namespace PostalAddress

structure UnitText where
  designator : Text
  identifier : Text
  deriving DecidableEq, Repr

namespace UnitText

def empty : UnitText := ⟨[], []⟩

def isEmpty (unit : UnitText) : Bool := unit.designator.isEmpty && unit.identifier.isEmpty

/-- Splits the designator off a value that begins with one, as in STE 300. -/
def ofText? (value : Text) : Option UnitText :=
  let word := value.takeWhile (· ≠ ' ')
  (units.short? word).map fun designator => ⟨designator, (value.drop word.length).drop 1⟩

def dropNumberSign : Text → Text
  | '#' :: rest => Text.skipBlanks rest
  | value => value

/-- An identifier without a designator gets the one that is folded into it, or else a number
sign. -/
def designated (unit : UnitText) : UnitText :=
  if unit.designator.isEmpty && !unit.identifier.isEmpty then
    (ofText? (dropNumberSign unit.identifier)).getD ⟨['#'], dropNumberSign unit.identifier⟩
  else unit

end UnitText

/-- The two units of an address: the occupancy, and the larger unit around it. -/
structure UnitPair where
  occupancy : UnitText
  subaddress : UnitText
  deriving DecidableEq, Repr

namespace UnitPair

def ofBag (bag : Bag) : UnitPair :=
  ⟨⟨bag.value .occupancyType, bag.value .occupancyIdentifier⟩,
    ⟨bag.value .subaddressType, bag.value .subaddressIdentifier⟩⟩

/-- Without any unit, the name of a building or a landmark may be one, as in BLDG C. -/
def fillFromNames (pair : UnitPair) (names : List Text) : UnitPair :=
  if pair.occupancy.isEmpty && pair.subaddress.isEmpty then
    ⟨(names.findSome? UnitText.ofText?).getD .empty, .empty⟩
  else pair

/-- A larger unit alone is the occupancy. -/
def promote (pair : UnitPair) : UnitPair :=
  if pair.occupancy.isEmpty then ⟨pair.subaddress, .empty⟩ else pair

def settle (bag : Bag) : UnitPair :=
  let pair := ((ofBag bag).fillFromNames [bag.value .buildingName, bag.value .landmarkName]).promote
  ⟨pair.occupancy.designated, pair.subaddress⟩

def value (pair : UnitPair) : Component → Text
  | .occupancyType => pair.occupancy.designator
  | .occupancyIdentifier => pair.occupancy.identifier
  | .subaddressType => pair.subaddress.designator
  | .subaddressIdentifier => pair.subaddress.identifier
  | _ => []

end UnitPair

end PostalAddress
