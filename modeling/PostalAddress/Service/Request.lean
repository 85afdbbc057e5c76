import PostalAddress.Bag
import PostalAddress.Service.Schema

/-!
The two kinds of request bodies and their schemas. What is read by a schema has its form: an address
is a text, and components are an object or two of them.
-/

namespace PostalAddress

/-- The most characters that an address may have, after trimming. -/
def addressLimit : Nat := 1000

def addressKey : Text := "address".toList

def componentsKey : Text := "components".toList

namespace Schema

def address : Schema := .text false (some addressLimit)

def bag : Schema :=
  .object ⟨[], some (Component.all.map Component.name), true⟩ (some (.text true none)) []

def components : Schema := .anyOf bag (.array 2 2 bag)

def parseRequest : Schema := .object ⟨[addressKey], none, false⟩ none [(addressKey, address)]

def standardizeRequest : Schema :=
  .object ⟨[], none, false⟩ none [(addressKey, address), (componentsKey, components)]

end Schema

def Bag.ofJson : Json → Bag
  | .object fields => .ofFields fields
  | _ => .empty

def Components.ofJson : Json → Components
  | .array [first, second] => .pair (.ofJson first) (.ofJson second)
  | value => .single (.ofJson value)

structure ParseRequest where
  address : Text
  deriving DecidableEq, Repr

namespace ParseRequest

def ofRead (value : Json) : ParseRequest :=
  ⟨((value.field? addressKey).bind Json.text?).getD []⟩

def ofJson (value : Json) : Except SchemaProblem ParseRequest :=
  (Schema.parseRequest.read [] value).map ofRead

def toJson (request : ParseRequest) : Json := .object [(addressKey, .string request.address)]

end ParseRequest

structure StandardizeRequest where
  address : Option Text
  components : Option Components
  deriving DecidableEq

namespace StandardizeRequest

def ofRead (value : Json) : StandardizeRequest :=
  ⟨(value.field? addressKey).bind Json.text?, (value.field? componentsKey).map Components.ofJson⟩

def ofJson (value : Json) : Except SchemaProblem StandardizeRequest :=
  (Schema.standardizeRequest.read [] value).map ofRead

def toJson (request : StandardizeRequest) : Json :=
  .object
    ((request.address.map fun address => (addressKey, Json.string address)).toList ++
      (request.components.map fun components => (componentsKey, components.toJson)).toList)

end StandardizeRequest

end PostalAddress
