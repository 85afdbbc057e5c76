import PostalAddress.Component
import PostalAddress.Text.Blank
import PostalAddress.Json.Basic

/-!
A bag holds the labelled parts of one street: each component has a value or is absent, and two
bags with the same values are the same bag. An empty value counts as no value wherever values are
used, but a bag may hold one. An intersection has two bags.
-/

namespace PostalAddress

@[ext]
structure Bag where
  get : Component → Option Text

namespace Bag

def empty : Bag := ⟨fun _ => none⟩

def set (bag : Bag) (component : Component) (value : Text) : Bag :=
  ⟨fun other => if other = component then some value else bag.get other⟩

def value (bag : Bag) (component : Component) : Text := (bag.get component).getD []

def has (bag : Bag) (component : Component) : Bool := !(bag.value component).isEmpty

def entries (bag : Bag) : List (Component × Text) :=
  Component.all.filterMap fun component =>
    (bag.get component).map fun value => (component, value)

def isEmpty (bag : Bag) : Bool := Component.all.all fun component => (bag.get component).isNone

def ofValues (values : Component → Text) : Bag :=
  ⟨fun component => Text.present? (values component)⟩

/-- The trimmed values that are not blank. -/
def trimmed (bag : Bag) : Bag := ofValues fun component => (bag.value component).trim

/-- Values that are no strings do not count. -/
def ofFields (fields : List (Text × Json)) : Bag :=
  ⟨fun component => (fields.lookup component.name).bind Json.text?⟩

def toJson (bag : Bag) : Json :=
  .object (bag.entries.map fun (component, value) => (component.name, .string value))

@[simp]
theorem get_set_self (bag : Bag) (component : Component) (value : Text) :
    (bag.set component value).get component = some value := by
  simp [set]

theorem get_set_other (bag : Bag) (component other : Component) (value : Text)
    (different : other ≠ component) : (bag.set component value).get other = bag.get other := by
  simp [set, different]

theorem get_of_values (values : Component → Text) (component : Component) :
    (ofValues values).get component = Text.present? (values component) := rfl

@[simp]
theorem value_of_values (values : Component → Text) (component : Component) :
    (ofValues values).value component = values component := by
  simp only [value, get_of_values]
  cases values component <;> rfl

theorem mem_entries_iff (bag : Bag) (component : Component) (value : Text) :
    (component, value) ∈ bag.entries ↔ bag.get component = some value := by
  constructor
  · intro listed
    obtain ⟨_, _, given⟩ := List.mem_filterMap.1 listed
    obtain ⟨_, found, same⟩ := Option.map_eq_some_iff.1 given
    cases same
    exact found
  · intro found
    exact List.mem_filterMap.2 ⟨component, component.mem_all, by rw [found, Option.map_some]⟩

instance : DecidableEq Bag := fun left right =>
  decidable_of_iff (∀ component ∈ Component.all, left.get component = right.get component)
    ⟨fun same => Bag.ext (funext fun component => same component component.mem_all),
      fun same _ _ => by rw [same]⟩

end Bag

inductive Components where
  | single (bag : Bag)
  | pair (first second : Bag)
  deriving DecidableEq

namespace Components

def bags : Components → List Bag
  | single bag => [bag]
  | pair first second => [first, second]

def isEmpty (components : Components) : Bool := components.bags.all Bag.isEmpty

def toJson : Components → Json
  | single bag => bag.toJson
  | pair first second => .array [first.toJson, second.toJson]

end Components

end PostalAddress
