import PostalAddress.FieldStore
import PostalAddress.Json.Display

/-!
The fields of an address as they were sent: under any names, with any values. Only a value that is
set is replaced, so what belongs to no component stays as it came.
-/

namespace PostalAddress

structure Record where
  fields : List (Text × Json)

namespace Record

def value? (record : Record) (component : Component) : Option Json :=
  record.fields.lookup component.name

def has (record : Record) (component : Component) : Bool :=
  (record.value? component).any Json.isGiven

def text (record : Record) (component : Component) : Text :=
  ((record.value? component).map Json.plainText).getD []

def city (record : Record) : Text := ((record.value? .city).bind Json.text?).getD []

def set (record : Record) (component : Component) (value : Text) : Record :=
  ⟨Json.put component.name (.string value) record.fields⟩

def toJson (record : Record) : Json := .object record.fields

end Record

instance : FieldStore Record where
  has := Record.has
  text := Record.text
  city := Record.city
  set := Record.set

end PostalAddress
