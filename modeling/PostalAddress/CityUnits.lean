import PostalAddress.FieldStore
import PostalAddress.Text.Ascii

/-!
Unit designators that were filed under the city move back into the unit fields. Three things are
looked for in front of the city: segments that end in a comma, a designator that needs no
identifier, and a single letter, which is the tail of an identifier.
-/

namespace PostalAddress

structure UnitFields where
  designator : Component
  identifier : Component
  deriving DecidableEq, Repr

namespace UnitFields

def occupancy : UnitFields := ⟨.occupancyType, .occupancyIdentifier⟩

def subaddress : UnitFields := ⟨.subaddressType, .subaddressIdentifier⟩

def all : List UnitFields := [occupancy, subaddress]

def isFree {Store : Type} [FieldStore Store] (slot : UnitFields) (store : Store) : Bool :=
  !FieldStore.has store slot.designator && !FieldStore.has store slot.identifier

def free? {Store : Type} [FieldStore Store] (store : Store) : Option UnitFields :=
  all.find? fun slot => slot.isFree store

end UnitFields

/-- Without a free slot the unit is dropped. -/
def storeUnit {Store : Type} [FieldStore Store] (store : Store) (designator identifier : Text) :
    Store :=
  match UnitFields.free? store with
  | none => store
  | some slot =>
      let stored := FieldStore.set store slot.designator designator
      if identifier.isEmpty then stored else FieldStore.set stored slot.identifier identifier

/-- What a segment in front of the city is: a unit, wayfinding text, or part of the city's name. -/
inductive CitySegment where
  | unit (designator identifier : Text)
  | wayfinding
  | cityName
  deriving DecidableEq, Repr

/-- A word alone that is in no table is taken for wayfinding text. -/
def CitySegment.ofText (segment : Text) : CitySegment :=
  let (word, identifier) := Text.headWord segment
  if units.recognizes word then .unit word identifier
  else if identifier.isEmpty && !isPostalTerm word then .wayfinding
  else .cityName

def joinSegments (segments : List Text) : Text := [','].intercalate segments

/-- The last segment stays, and so does a blank one and one with only blanks behind its comma. -/
def takeSegments {Store : Type} [FieldStore Store] (store : Store) :
    List Text → Store × List Text
  | [] => (store, [])
  | [last] => (store, [last])
  | segment :: rest =>
      if segment.isAllBlank || Text.isAllBlank (joinSegments rest) then (store, segment :: rest)
      else match CitySegment.ofText segment with
        | .unit designator identifier => takeSegments (storeUnit store designator identifier) rest
        | .wayfinding => takeSegments store rest
        | .cityName => (store, segment :: rest)

structure CityRecovery (Store : Type) where
  store : Store
  city : Text

namespace CityRecovery

/-- A city from which nothing was taken keeps the blanks around it. -/
def ofSegments {Store : Type} [FieldStore Store] (store : Store) (city : Text) :
    CityRecovery Store :=
  let segments := city.splitOn ','
  let (filled, remaining) := takeSegments store segments
  ⟨filled, if remaining.length = segments.length then city else (joinSegments remaining).trim⟩

/-- Designators that take no identifier. Others, such as KEY, are more likely a part of the
city's name when they stand in front of it. -/
def loneDesignators : List Text :=
  ["BASEMENT", "BSMT", "FRONT", "FRNT", "LOBBY", "LBBY", "LOWER", "LOWR", "PENTHOUSE", "PH",
    "REAR", "SIDE", "UPPER", "UPPR"].map String.toList

/-- One that may have an identifier is dropped, but only when there is no slot for it. -/
def takeDesignator {Store : Type} [FieldStore Store] (recovery : CityRecovery Store) :
    CityRecovery Store :=
  let (word, rest) := Text.headWord recovery.city
  if rest.isEmpty then recovery
  else if loneDesignators.contains (normalize word) then ⟨storeUnit recovery.store word [], rest⟩
  else if units.recognizes word && (UnitFields.free? recovery.store).isNone then
    ⟨recovery.store, rest⟩
  else recovery

/-- A letter, one space, and a rest on the same line that is not blank. -/
def fragment? : Text → Option (Char × Text)
  | letter :: ' ' :: rest =>
      if isLetter letter && !rest.any isLineEnd && !Text.isAllBlank rest then some (letter, rest)
      else none
  | _ => none

/-- The identifier that a fragment belongs to. -/
def openIdentifier? {Store : Type} [FieldStore Store] (store : Store) : Option Component :=
  [Component.occupancyIdentifier, .subaddressIdentifier].find? (FieldStore.has store)

/-- Moves a fragment in front of the city to the identifier of the unit, if there is one. -/
def takeFragment {Store : Type} [FieldStore Store] (recovery : CityRecovery Store) :
    CityRecovery Store :=
  match fragment? recovery.city, openIdentifier? recovery.store with
  | some (letter, rest), some identifier =>
      let extended := FieldStore.text recovery.store identifier ++ [' ', letter]
      ⟨FieldStore.set recovery.store identifier extended, rest.trim⟩
  | _, _ => recovery

end CityRecovery

def recoverUnits {Store : Type} [FieldStore Store] (store : Store) : Store :=
  let city := FieldStore.city store
  if city.isEmpty then store
  else
    let recovery := (CityRecovery.ofSegments store city).takeDesignator.takeFragment
    FieldStore.set recovery.store .city recovery.city

end PostalAddress
