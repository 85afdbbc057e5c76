import PostalAddress.Bag

/-!
What unit recovery asks of the fields of an address. Recovery decides by whether a field is given
and writes texts; how an address keeps its fields, and what else it keeps, is up to its type.
-/

namespace PostalAddress

class FieldStore (Store : Type) where
  /-- Whether the field has a value that counts. -/
  has : Store → Component → Bool
  /-- The value of a field as it reads inside a longer text. -/
  text : Store → Component → Text
  /-- The city, empty if there is no city that is a text. -/
  city : Store → Text
  set : Store → Component → Text → Store

instance : FieldStore Bag where
  has := Bag.has
  text := Bag.value
  city bag := bag.value .city
  set := Bag.set

end PostalAddress
