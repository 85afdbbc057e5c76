import PostalAddress.Proofs.Canonical
import PostalAddress.Proofs.SchemaReading
import PostalAddress.Service.Endpoint

/-!
Requests read back from their JSON form. The components of a request come back trimmed, and this is
all that reading does to them. The standard form of trimmed components is the one of the components
themselves, since canonical values do not depend on the blanks around a value.
-/

namespace PostalAddress

theorem Component.name_injective : Function.Injective Component.name := by
  intro left right same
  have found := congrArg Component.ofName? same
  rw [Component.of_name_name, Component.of_name_name] at found
  exact Option.some.inj found

namespace Bag

def fields (bag : Bag) (components : List Component) : List (Text × Json) :=
  components.filterMap fun component =>
    (bag.get component).map fun value => (component.name, .string value)

theorem to_json_eq_fields (bag : Bag) : bag.toJson = .object (bag.fields Component.all) := by
  rw [toJson, entries, fields, List.map_filterMap]
  simp only [Option.map_map]
  rfl

theorem lookup_fields (bag : Bag) (components : List Component) (component : Component)
    (listed : component ∈ components) :
    (bag.fields components).lookup component.name = (bag.get component).map .string := by
  induction components with
  | nil => cases listed
  | cons head rest hypothesis =>
      by_cases same : component = head
      · subst same
        cases given : bag.get component with
        | none =>
            -- An absent component has no field further on either.
            have absent : ∀ field ∈ bag.fields (component :: rest), component.name ≠ field.1 := by
              intro field member equal
              simp only [fields, List.mem_filterMap, Option.map_eq_some_iff] at member
              obtain ⟨other, _, value, present, rfl⟩ := member
              rw [← Component.name_injective equal, given] at present
              cases present
            rw [List.lookup_eq_none_iff.2 fun field member => by simpa using absent field member]
            rfl
        | some value => simp [fields, given]
      · have later : component ∈ rest := by simpa [same] using listed
        have apart : (component.name == head.name) = false :=
          beq_false_of_ne fun equal => same (Component.name_injective equal)
        rw [← hypothesis later]
        cases given : bag.get head with
        | none => simp [fields, given]
        | some value => simp [fields, given, List.lookup_cons, apart]

theorem of_fields_fields (bag : Bag) : ofFields (bag.fields Component.all) = bag := by
  apply Bag.ext
  funext component
  simp only [ofFields, bag.lookup_fields _ component component.mem_all]
  cases bag.get component <;> rfl

theorem fields_named (bag : Bag) (components : List Component) :
    (bag.fields components).any (fun field => (Component.ofName? field.1).isNone) = false := by
  rw [List.any_eq_false]
  intro field member
  simp only [fields, List.mem_filterMap, Option.map_eq_some_iff] at member
  obtain ⟨component, _, value, _, rfl⟩ := member
  simp [Component.of_name_name]

theorem fields_text (bag : Bag) (components : List Component) :
    (bag.fields components).find? (fun field => !field.2.isTextOrNull) = none := by
  rw [List.find?_eq_none]
  intro field member
  simp only [fields, List.mem_filterMap, Option.map_eq_some_iff] at member
  obtain ⟨component, _, value, _, rfl⟩ := member
  simp [Json.isTextOrNull]

theorem value_trimmed (bag : Bag) (component : Component) :
    bag.trimmed.value component = (bag.value component).trim := by
  rw [trimmed, value_of_values]

theorem canonical_trimmed (bag : Bag) (components : List Component) :
    bag.trimmed.canonical components = bag.canonical components := by
  apply congrArg ofValues
  funext component
  rw [value_trimmed, component.canonical_trim]

end Bag

theorem read_bag_to_json (bag : Bag) : readBag bag.toJson = .ok bag.trimmed := by
  simp only [bag.to_json_eq_fields, read_bag_object, bag.fields_named, bag.fields_text,
    bag.of_fields_fields]
  rfl

namespace Components

def trimmed : Components → Components
  | single bag => .single bag.trimmed
  | pair first second => .pair first.trimmed second.trimmed

theorem read_to_json (components : Components) :
    readComponents components.toJson = .ok components.trimmed := by
  cases components with
  | single bag =>
      rw [toJson, Bag.toJson, read_components_object, ← Bag.toJson, read_bag_to_json]
      rfl
  | pair first second =>
      rw [toJson, read_components_array]
      simp only [read_bag_to_json, trimmed]

theorem standardize_trimmed (components : Components) :
    standardize components.trimmed = standardize components := by
  have single (bag : Bag) :
      StandardAddress.singleComponents bag.trimmed = StandardAddress.singleComponents bag := by
    simp only [StandardAddress.singleComponents, bag.canonical_trimmed]
  have side (bag : Bag) :
      StandardAddress.sideComponents bag.trimmed = StandardAddress.sideComponents bag := by
    simp only [StandardAddress.sideComponents, bag.canonical_trimmed]
  cases components with
  | single bag => simp only [standardize, trimmed, StandardAddress.ofBag, single]
  | pair first second => simp only [standardize, trimmed, StandardAddress.ofStreets, side]

end Components

theorem ParseRequest.of_json_to_json (request : ParseRequest) :
    ofJson request.toJson = (readAddress (.string request.address)).map ParseRequest.mk := by
  simp [of_json_object, toJson]

namespace StandardizeRequest

def fields (request : StandardizeRequest) : List (Text × Json) :=
  (request.address.map fun address => (addressKey, Json.string address)).toList ++
    (request.components.map fun components => (componentsKey, components.toJson)).toList

theorem fields_known (request : StandardizeRequest) :
    request.fields.any (fun field => field.1 ≠ addressKey && field.1 ≠ componentsKey) = false := by
  obtain ⟨address, components⟩ := request
  cases address <;> cases components <;> simp [fields]

theorem lookup_address (request : StandardizeRequest) :
    request.fields.lookup addressKey = request.address.map .string := by
  have apart : (addressKey == componentsKey) = false := by decide
  obtain ⟨address, components⟩ := request
  cases address <;> cases components <;> simp [fields, List.lookup_cons, apart]

theorem lookup_components (request : StandardizeRequest) :
    request.fields.lookup componentsKey = request.components.map Components.toJson := by
  have apart : (componentsKey == addressKey) = false := by decide
  obtain ⟨address, components⟩ := request
  cases address <;> cases components <;> simp [fields, List.lookup_cons, apart]

theorem of_json_to_json (request : StandardizeRequest) :
    ofJson request.toJson =
      (readField readAddress (request.address.map .string)).map fun address =>
        ⟨address, request.components.map Components.trimmed⟩ := by
  have read : readField readComponents (request.components.map Components.toJson) =
      .ok (request.components.map Components.trimmed) := by
    cases request.components with
    | none => rfl
    | some components =>
        rw [Option.map_some, readField, components.read_to_json]
        rfl
  have written : request.toJson = .object request.fields := rfl
  simp only [written, of_json_object, request.fields_known, request.lookup_address,
    request.lookup_components, read]
  cases readField readAddress (request.address.map .string) <;> rfl

theorem answer_components (tagger : Tagger) (address : Option Text) (components : Components)
    (given : components.isEmpty = false) :
    answer tagger ⟨address, some components⟩ = .ok (.unasked (standardize components)) := by
  have used : (some components).filter (fun given => !given.isEmpty) = some components := by
    simp [given]
  simp only [answer, used]

theorem answer_without_components (tagger : Tagger) (address : Option Text)
    (components : Components) (empty : components.isEmpty = true) :
    answer tagger ⟨address, some components⟩ = answer tagger ⟨address, none⟩ := by
  have unused : (some components).filter (fun given => !given.isEmpty) = none := by
    simp [empty]
  simp only [answer, unused, Option.filter_none]

theorem answer_address (tagger : Tagger) (address : Text) (given : address ≠ []) :
    answer tagger ⟨some address, none⟩ = .ok (standardizeText tagger address) := by
  have used : (some address).filter (fun text => !text.isEmpty) = some address := by
    simp [given]
  simp only [answer, Option.filter_none, used]

end StandardizeRequest

theorem read_address_eq_ok_iff (text address : Text) :
    readAddress (.string text) = .ok address ↔
      text.trim.pointCount ≤ addressLimit ∧ text.trim = address := by
  rw [read_address_string]
  split
  case isTrue short => simp [short]
  case isFalse long => simp [long]

end PostalAddress
