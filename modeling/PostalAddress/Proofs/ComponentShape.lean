import PostalAddress.Proofs.ListMark
import PostalAddress.Proofs.StandardForm

/-!
Which components a standard address has. They are read off the canonical values: a component is
there if its canonical value is not empty, but the names of buildings and landmarks and the
extension of the ZIP code are folded into others. The units are settled together, and wherever
there is any part of a unit there is the designator of the occupancy.
-/

namespace PostalAddress

namespace Component

def unitFields : List Component :=
  [subaddressType, subaddressIdentifier, occupancyType, occupancyIdentifier]

def standardFields : List Component :=
  all.filter fun component => component ∉ [buildingName, landmarkName, zipPlus4]

def standardSideFields : List Component := streetFields ++ [city, state, zipCode]

end Component

/-- An object with fields under the names of the listed components alone, all of them texts of one
kind. -/
def Json.HoldsOnly (json : Json) (components : List Component) (kind : Text → Prop) : Prop :=
  ∃ fields, json = .object fields ∧
    ∀ field ∈ fields, ∃ component ∈ components, ∃ text,
      field = (component.name, .string text) ∧ kind text

namespace Bag

theorem to_json_holds_only (bag : Bag) (components : List Component) (kind : Text → Prop)
    (held : ∀ component text, bag.get component = some text →
      component ∈ components ∧ kind text) : bag.toJson.HoldsOnly components kind := by
  refine ⟨_, rfl, fun field member => ?_⟩
  obtain ⟨⟨component, text⟩, listed, rfl⟩ := List.mem_map.1 member
  obtain ⟨allowed, ofKind⟩ := held component text ((bag.mem_entries_iff component text).1 listed)
  exact ⟨component, allowed, text, rfl, ofKind⟩

theorem get_of_values_eq_some_iff (values : Component → Text) (component : Component)
    (text : Text) :
    (ofValues values).get component = some text ↔ values component = text ∧ text ≠ [] := by
  rw [get_of_values]
  cases values component with
  | nil => simp +contextual [Text.present?, eq_comm]
  | cons letter rest => simp +contextual [Text.present?, eq_comm]

theorem of_values_holds_only (values : Component → Text) (components : List Component)
    (outside : ∀ component, component ∉ components → values component = []) :
    (ofValues values).toJson.HoldsOnly components (· ≠ []) := by
  apply to_json_holds_only
  intro component text found
  obtain ⟨rfl, filled⟩ := (get_of_values_eq_some_iff values component text).1 found
  refine ⟨?_, filled⟩
  by_contra absent
  exact filled (outside component absent)

theorem is_some_get_of_values (values : Component → Text) (component : Component) :
    ((ofValues values).get component).isSome = true ↔ values component ≠ [] := by
  rw [Option.isSome_iff_exists]
  constructor
  · rintro ⟨text, found⟩
    obtain ⟨rfl, filled⟩ := (get_of_values_eq_some_iff values component text).1 found
    exact filled
  · intro filled
    exact ⟨_, (get_of_values_eq_some_iff values component _).2 ⟨rfl, filled⟩⟩

end Bag

/-- Some part of a unit is given, in a field of its own or as the name of a building or a
landmark. -/
def Bag.GivesUnit (bag : Bag) : Prop :=
  (∃ field ∈ Component.unitFields, bag.value field ≠ []) ∨
    ∃ name ∈ [Component.buildingName, .landmarkName], (UnitText.ofText? (bag.value name)).isSome

namespace UnitPair

theorem in_use_ne_empty_iff (bag : Bag) :
    (ofBag bag).inUse ≠ .empty ↔ ∃ field ∈ Component.unitFields, bag.value field ≠ [] := by
  rw [ne_eq, in_use_empty_iff]
  simp only [ofBag, UnitText.isEmpty, Component.unitFields, Bool.and_eq_true, List.isEmpty_iff,
    List.mem_cons, List.not_mem_nil, or_false, exists_eq_or_imp, exists_eq_left, ne_eq]
  tauto

theorem designated_named (unit : UnitText) (given : unit ≠ .empty) :
    unit.designated.designator ≠ [] := fun lacking => given (unit.designated_complete lacking)

theorem settle_named_iff (bag : Bag) :
    (settle bag).occupancy.designator ≠ [] ↔ bag.GivesUnit := by
  rw [Bag.GivesUnit, ← in_use_ne_empty_iff]
  by_cases used : (ofBag bag).inUse = .empty
  · rw [settle_of_names bag used, List.findSome?_cons]
    cases building : UnitText.ofText? (bag.value .buildingName) with
    | some unit =>
        obtain ⟨word, short, _⟩ := UnitText.of_text_parts _ unit building
        have named := unit_short_ne_nil word _ short
        simp [designated_of_text _ unit building, named, building]
    | none =>
        rw [List.findSome?_cons]
        cases landmark : UnitText.ofText? (bag.value .landmarkName) with
        | some unit =>
            obtain ⟨word, short, _⟩ := UnitText.of_text_parts _ unit landmark
            have named := unit_short_ne_nil word _ short
            simp [designated_of_text _ unit landmark, named, landmark]
        | none =>
            have unnamed : UnitText.empty.designated.designator = [] := rfl
            simp [used, building, landmark, unnamed]
  · rw [settle_of_units bag used]
    simp [used, designated_named _ used]

end UnitPair

namespace StandardAddress

theorem single_present_iff (bag : Bag) (component : Component)
    (standard : component ∈ Component.standardFields)
    (noUnit : component ∉ Component.unitFields) :
    ((singleComponents bag).get component).isSome = true ↔
      component.canonical (bag.value component) ≠ [] := by
  have values := bag.value_canonical component
  rw [singleComponents, Bag.is_some_get_of_values, ← values]
  cases component
  case subaddressType => exact absurd (by decide) noUnit
  case subaddressIdentifier => exact absurd (by decide) noUnit
  case occupancyType => exact absurd (by decide) noUnit
  case occupancyIdentifier => exact absurd (by decide) noUnit
  case buildingName => exact absurd standard (by decide)
  case landmarkName => exact absurd standard (by decide)
  case zipPlus4 => exact absurd standard (by decide)
  case zipCode =>
    apply Bag.whole_zip_ne_nil_iff
    rw [values]
    exact Component.canonical_normal _ _
  all_goals rfl

theorem single_occupancy_iff (bag : Bag) :
    ((singleComponents bag).get .occupancyType).isSome = true ↔
      (bag.canonical Component.all).GivesUnit := by
  rw [singleComponents, Bag.is_some_get_of_values]
  exact UnitPair.settle_named_iff _

/-- No part of a unit is there without the designator of the occupancy. -/
theorem single_unit_designated (bag : Bag) (field : Component)
    (ofUnit : field ∈ Component.unitFields)
    (present : ((singleComponents bag).get field).isSome = true) :
    ((singleComponents bag).get .occupancyType).isSome = true := by
  have settled := UnitPair.settle_settled _ bag.canonical_all
  rw [singleComponents, Bag.is_some_get_of_values] at present ⊢
  intro lacking
  have empty := settled.complete lacking
  simp only [Component.unitFields, List.mem_cons, List.not_mem_nil, or_false] at ofUnit
  rcases ofUnit with rfl | rfl | rfl | rfl <;>
    exact present (by simp only [empty]; rfl)

theorem single_holds_only (bag : Bag) :
    (singleComponents bag).toJson.HoldsOnly Component.standardFields (· ≠ []) := by
  apply Bag.of_values_holds_only
  intro component absent
  cases component
  case buildingName => rfl
  case landmarkName => rfl
  case zipPlus4 => rfl
  all_goals exact absurd (by decide) absent

theorem side_value_absent (bag : Bag) (component : Component)
    (absent : component ∉ Component.standardSideFields) :
    (sideComponents bag).value component = [] := by
  by_cases isAddOn : component = .zipPlus4
  · rw [isAddOn, sideComponents, Bag.value_of_values]
  · have noZip : component ≠ .zipCode := by
      rintro rfl
      exact absent (by decide)
    rw [side_value bag component noZip isAddOn]
    apply Bag.canonical_absent
    revert absent isAddOn
    cases component <;> decide

theorem side_holds_only (bag : Bag) :
    (sideComponents bag).toJson.HoldsOnly Component.standardSideFields (· ≠ []) := by
  apply Bag.of_values_holds_only
  intro component absent
  have empty := side_value_absent bag component absent
  rwa [sideComponents, Bag.value_of_values] at empty

theorem side_present_iff (bag : Bag) (component : Component)
    (standard : component ∈ Component.standardSideFields) :
    ((sideComponents bag).get component).isSome = true ↔
      component.canonical (bag.value component) ≠ [] := by
  have listed (component : Component) (member : component ∈ Component.standardSideFields) :
      (bag.canonical sideFields).value component = component.canonical (bag.value component) := by
    have inFields : sideFields.contains component = true := by
      revert member
      cases component <;> decide
    rw [Bag.canonical, Bag.value_of_values, if_pos inFields]
  have present : ((sideComponents bag).get component).isSome = true ↔
      (sideComponents bag).value component ≠ [] := by
    rw [sideComponents, Bag.is_some_get_of_values, Bag.value_of_values]
  rw [present, ← listed component standard]
  by_cases isZip : component = .zipCode
  · rw [isZip, side_zip]
    apply Bag.whole_zip_ne_nil_iff
    rw [listed .zipCode (by decide)]
    exact Component.canonical_normal _ _
  · have noAddOn : component ≠ .zipPlus4 := by
      rintro rfl
      exact absurd standard (by decide)
    rw [side_value bag component isZip noAddOn]

end StandardAddress

/-- Objects with any fields are standardized to objects that hold the standard components alone. The
designator of the occupancy is there exactly if a unit is given. -/
theorem standardize_components_shape (fields left right : List (Text × Json)) :
    (∃ bag, (standardize (.single (.ofFields fields))).components = .single bag ∧
        bag.toJson.HoldsOnly Component.standardFields (· ≠ []) ∧
        ((∃ field ∈ Component.unitFields, (bag.get field).isSome) →
          (bag.get .occupancyType).isSome) ∧
        ((bag.get .occupancyType).isSome ↔
          ((Bag.ofFields fields).canonical Component.all).GivesUnit) ∧
        ∀ component ∈ Component.standardFields, component ∉ Component.unitFields →
          ((bag.get component).isSome ↔
            component.canonical ((Bag.ofFields fields).value component) ≠ [])) ∧
      ∃ first second,
        (standardize (.pair (.ofFields left) (.ofFields right))).components =
          .pair first second ∧
        ∀ side ∈ [(first, left), (second, right)],
          side.1.toJson.HoldsOnly Component.standardSideFields (· ≠ []) ∧
          ∀ component ∈ Component.standardSideFields,
            ((side.1.get component).isSome ↔
              component.canonical ((Bag.ofFields side.2).value component) ≠ []) := by
  refine ⟨⟨_, rfl, ?_, ?_, ?_, ?_⟩, _, _, rfl, ?_⟩
  · exact StandardAddress.single_holds_only _
  · rintro ⟨field, ofUnit, present⟩
    exact StandardAddress.single_unit_designated _ field ofUnit present
  · exact StandardAddress.single_occupancy_iff _
  · exact StandardAddress.single_present_iff _
  · intro side member
    rcases List.mem_pair.1 member with rfl | rfl
    · exact ⟨StandardAddress.side_holds_only _, StandardAddress.side_present_iff _⟩
    · exact ⟨StandardAddress.side_holds_only _, StandardAddress.side_present_iff _⟩

end PostalAddress
