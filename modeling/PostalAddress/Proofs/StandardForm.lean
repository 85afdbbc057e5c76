import PostalAddress.Proofs.UnitPair

/-!
The components that standardizing leaves, and what it does to components of this form. Those of a
single address are canonical but for the identifier of the unit and for letters in lower case, and
that is all that a second pass puts in order. Those of a street of an intersection have no unit.
-/

namespace PostalAddress

theorem Bag.of_values_value (values : Component → Text) :
    ofValues (ofValues values).value = ofValues values :=
  congrArg ofValues (funext (value_of_values values))

theorem Bag.value_canonical (bag : Bag) (component : Component) :
    (bag.canonical Component.all).value component = component.canonical (bag.value component) := by
  have listed : Component.all.contains component = true := by simpa using component.mem_all
  simp only [Bag.canonical, Bag.value_of_values, listed, if_true]

theorem Bag.canonical_all (bag : Bag) (component : Component) :
    component.IsCanonical ((bag.canonical Component.all).value component) := by
  rw [bag.value_canonical]
  exact component.canonical_canonical _

theorem Bag.whole_zip_written (bag : Bag) :
    IsNormal bag.wholeZip ∧ writeZipCode bag.wholeZip = bag.wholeZip.upper := by
  rw [Bag.wholeZip]
  split
  case isTrue => exact ⟨write_zip_code_normal _, write_zip_code_again _⟩
  case isFalse => exact ⟨UnitText.empty_normal, write_zip_code_nil⟩

theorem Bag.whole_zip_of_written (bag : Bag) (folded : bag.value .zipPlus4 = []) :
    bag.wholeZip = writeZipCode (bag.value .zipCode) := by
  have noAddOn : bag.has .zipPlus4 = false := by simp [Bag.has, folded]
  rw [Bag.wholeZip]
  split
  case isTrue => simp [noAddOn]
  case isFalse lacking =>
    have empty : bag.value .zipCode = [] := by simpa [Bag.has] using lacking
    rw [empty, write_zip_code_nil]

/-- The parts of a ZIP code have no marks left, so writing it puts all of it in uppercase. -/
theorem Bag.whole_zip_is_upper (bag : Bag) (zipNormal : IsNormal (bag.value .zipCode))
    (plus4Normal : IsNormal (bag.value .zipPlus4)) : bag.wholeZip.IsUpper := by
  rw [Bag.wholeZip]
  split
  case isFalse => exact UnitText.empty_is_upper.identifier
  case isTrue =>
    apply write_zip_code_is_upper
    apply unmarked_joins_none
    split
    case isFalse => exact zipNormal.unmarked
    case isTrue =>
      intro letter member
      rcases List.mem_append.1 member with inZip | behind
      · exact zipNormal.unmarked letter inZip
      · rcases List.mem_cons.1 behind with rfl | inPlus4
        · decide
        · exact plus4Normal.unmarked letter inPlus4

/-- A ZIP code stays one, whatever its extension is. -/
theorem Bag.whole_zip_ne_nil_iff (bag : Bag) (normal : IsNormal (bag.value .zipCode)) :
    bag.wholeZip ≠ [] ↔ bag.value .zipCode ≠ [] := by
  by_cases given : bag.value .zipCode = []
  · simp [Bag.wholeZip, Bag.has, given]
  · have whole : bag.wholeZip ≠ [] := by
      rw [Bag.wholeZip, if_pos (by simpa [Bag.has] using given)]
      apply write_zip_code_ne_nil
      split
      case isTrue => exact normal.normalize_append_ne_nil given _
      case isFalse => exact normal.normalize_ne_nil given
    simp [whole, given]

theorem UnitText.IsClean.canonical {unit : UnitText} (clean : unit.IsClean) {component : Component}
    (given : component.table? = some units) : component.IsCanonical unit.designator :=
  ⟨clean.normal, by rw [component.canonical_of_table units given, clean.designator]⟩

/-- What standardizing leaves of a single address: only the identifier of the unit may not be
canonical. -/
structure Bag.IsStandard (bag : Bag) : Prop where
  given : bag = .ofValues bag.value
  canonical : ∀ component : Component, component ≠ .occupancyIdentifier →
    component.IsCanonical (bag.value component)
  building : bag.value .buildingName = []
  landmark : bag.value .landmarkName = []
  folded : bag.value .zipPlus4 = []
  zip : writeZipCode (bag.value .zipCode) = (bag.value .zipCode).upper
  settled : (UnitPair.ofBag bag).IsSettled

namespace StandardAddress

theorem of_bag_single_components (bag : Bag) :
    UnitPair.ofBag (singleComponents bag) = UnitPair.settle (bag.canonical Component.all) := by
  simp only [UnitPair.ofBag, singleComponents, Bag.value_of_values]
  rfl

theorem single_components_standard (bag : Bag) : (singleComponents bag).IsStandard := by
  have settled := UnitPair.settle_settled _ bag.canonical_all
  have zip := (bag.canonical Component.all).whole_zip_written
  constructor
  case given => exact (Bag.of_values_value _).symm
  case settled => rwa [of_bag_single_components]
  case building => simp [singleComponents]
  case landmark => simp [singleComponents]
  case folded => simp [singleComponents]
  case zip => simpa [singleComponents] using zip.2
  case canonical =>
    intro component different
    have canonical := bag.canonical_all component
    cases component <;> simp only [singleComponents, Bag.value_of_values]
    case occupancyIdentifier => exact absurd rfl different
    case subaddressType => exact settled.subaddress.canonical rfl
    case occupancyType => exact settled.occupancy.canonical rfl
    case subaddressIdentifier => exact Component.canonical_of_normal _ _ settled.larger rfl
    case buildingName => exact Component.canonical_of_normal _ _ UnitText.empty_normal rfl
    case landmarkName => exact Component.canonical_of_normal _ _ UnitText.empty_normal rfl
    case zipPlus4 => exact Component.canonical_of_normal _ _ UnitText.empty_normal rfl
    case zipCode => exact Component.canonical_of_normal _ _ zip.1 rfl
    all_goals exact canonical

theorem single_is_upper (bag : Bag) (apart : ∀ component, ¬JoinsHalves (bag.value component))
    (component : Component) : ((singleComponents bag).value component).IsUpper := by
  have upper (other : Component) : ((bag.canonical Component.all).value other).IsUpper := by
    rw [bag.value_canonical]
    exact other.canonical_is_upper _ (apart other)
  obtain ⟨occupancy, subaddress⟩ := UnitPair.settle_is_upper _ upper
  have zip := (bag.canonical Component.all).whole_zip_is_upper (bag.canonical_all _).normal
    (bag.canonical_all _).normal
  rw [singleComponents, Bag.value_of_values]
  cases component
  case subaddressType => exact subaddress.designator
  case subaddressIdentifier => exact subaddress.identifier
  case occupancyType => exact occupancy.designator
  case occupancyIdentifier => exact occupancy.identifier
  case buildingName => exact UnitText.empty_is_upper.identifier
  case landmarkName => exact UnitText.empty_is_upper.identifier
  case zipPlus4 => exact UnitText.empty_is_upper.identifier
  case zipCode => exact zip
  all_goals exact upper _

end StandardAddress

namespace Bag

def tidied (bag : Bag) : Bag :=
  ofValues fun component =>
    if component = .occupancyIdentifier then normalize (bag.value component)
    else (bag.value component).upper

theorem of_bag_tidied (bag : Bag) : UnitPair.ofBag bag.tidied = (UnitPair.ofBag bag).tidied := by
  simp [UnitPair.ofBag, UnitPair.tidied, tidied]

namespace IsStandard

variable {bag : Bag} (standard : bag.IsStandard)

include standard

theorem value_canonical_again (component : Component) :
    (bag.canonical Component.all).value component = bag.tidied.value component := by
  rw [bag.value_canonical, tidied, value_of_values]
  split
  case isTrue same => rw [same, Component.canonical_of_no_table _ rfl]
  case isFalse different => exact (standard.canonical component different).again

theorem single_components : StandardAddress.singleComponents bag = bag.tidied := by
  have values := standard.value_canonical_again
  have other (component : Component) (different : component ≠ .occupancyIdentifier) :
      bag.tidied.value component = (bag.value component).upper := by
    simp [Bag.tidied, different]
  have pair : UnitPair.settle (bag.canonical Component.all) = UnitPair.ofBag bag.tidied := by
    have same : UnitPair.ofBag (bag.canonical Component.all) = UnitPair.ofBag bag.tidied := by
      simp only [UnitPair.ofBag, values]
    rw [← same]
    apply UnitPair.IsSettled.settle
    · rw [same, of_bag_tidied]
      exact UnitPair.IsSettled.tidied standard.settled
    · rw [values, other _ (by decide), standard.building]
      rfl
    · rw [values, other _ (by decide), standard.landmark]
      rfl
  have zip : (bag.canonical Component.all).wholeZip = (bag.value .zipCode).upper := by
    have written := whole_zip_of_written (bag.canonical Component.all)
    rw [values, values, other _ (by decide), other _ (by decide), standard.folded] at written
    rw [written rfl, write_zip_code_upper, standard.zip]
  apply congrArg ofValues
  funext component
  cases component <;> simp only [pair, zip, values]
  case buildingName => simp [standard.building, Text.upper]
  case landmarkName => simp [standard.landmark, Text.upper]
  case zipPlus4 => simp [standard.folded, Text.upper]
  case zipCode => rfl
  all_goals simp [UnitPair.value, UnitPair.ofBag, Bag.tidied]

/-- A second pass leaves what a third one would leave. -/
theorem tidied_standard : bag.tidied.IsStandard := by
  rw [← standard.single_components]
  exact StandardAddress.single_components_standard bag

end IsStandard

end Bag

theorem Bag.canonical_fields (bag : Bag) (fields : List Component) (component : Component) :
    component.IsCanonical ((bag.canonical fields).value component) := by
  simp only [Bag.canonical, Bag.value_of_values]
  split
  case isTrue => exact component.canonical_canonical _
  case isFalse => exact ⟨UnitText.empty_normal, component.canonical_nil⟩

theorem Bag.canonical_absent (bag : Bag) (fields : List Component) (component : Component)
    (absent : component ∉ fields) : (bag.canonical fields).value component = [] := by
  rw [Bag.canonical, Bag.value_of_values, if_neg (by simpa using absent)]

def Bag.upper (bag : Bag) : Bag := ofValues fun component => (bag.value component).upper

namespace StandardAddress

def sideFields : List Component := Component.streetFields ++ Component.locationFields

theorem side_zip (bag : Bag) :
    (sideComponents bag).value .zipCode = (bag.canonical sideFields).wholeZip := by
  rw [sideComponents, Bag.value_of_values]
  rfl

theorem side_value (bag : Bag) (component : Component) (noZip : component ≠ .zipCode)
    (noAddOn : component ≠ .zipPlus4) :
    (sideComponents bag).value component = (bag.canonical sideFields).value component := by
  rw [sideComponents, Bag.value_of_values]
  cases component
  case zipCode => exact absurd rfl noZip
  case zipPlus4 => exact absurd rfl noAddOn
  all_goals rfl

theorem side_canonical (bag : Bag) (component : Component) :
    component.IsCanonical ((sideComponents bag).value component) := by
  by_cases isZip : component = .zipCode
  · rw [isZip, side_zip]
    exact Component.canonical_of_normal _ _ (bag.canonical sideFields).whole_zip_written.1 rfl
  · by_cases isAddOn : component = .zipPlus4
    · rw [isAddOn, sideComponents, Bag.value_of_values]
      exact ⟨UnitText.empty_normal, Component.canonical_nil _⟩
    · rw [side_value bag component isZip isAddOn]
      exact bag.canonical_fields sideFields component

theorem side_is_upper (bag : Bag)
    (apart : ∀ component ∈ sideFields, ¬JoinsHalves (bag.value component))
    (component : Component) : ((sideComponents bag).value component).IsUpper := by
  by_cases isZip : component = .zipCode
  · rw [isZip, side_zip]
    exact Bag.whole_zip_is_upper _ (bag.canonical_fields _ _).normal (bag.canonical_fields _ _).normal
  · by_cases isAddOn : component = .zipPlus4
    · rw [isAddOn, sideComponents, Bag.value_of_values]
      exact UnitText.empty_is_upper.identifier
    · rw [side_value bag component isZip isAddOn, Bag.canonical, Bag.value_of_values]
      split
      case isTrue listed =>
        exact component.canonical_is_upper _ (apart component (by simpa using listed))
      case isFalse => exact UnitText.empty_is_upper.identifier

theorem side_canonical_again (bag : Bag) (component : Component) :
    ((sideComponents bag).canonical sideFields).value component =
      ((sideComponents bag).value component).upper := by
  by_cases listed : component ∈ sideFields
  · rw [Bag.canonical, Bag.value_of_values, if_pos (by simpa using listed),
      (side_canonical bag component).again]
  · rw [Bag.canonical_absent _ _ _ listed, side_value, Bag.canonical_absent _ _ _ listed]
    · rfl
    · rintro rfl
      exact listed (by decide)
    · rintro rfl
      exact listed (by decide)

theorem side_components_again (bag : Bag) :
    sideComponents (sideComponents bag) = (sideComponents bag).upper := by
  have values := side_canonical_again bag
  have noAddOn : (sideComponents bag).value .zipPlus4 = [] := by
    rw [sideComponents, Bag.value_of_values]
  have zip : ((sideComponents bag).canonical sideFields).wholeZip =
      ((sideComponents bag).value .zipCode).upper := by
    rw [Bag.whole_zip_of_written, values, write_zip_code_upper, side_zip]
    · exact (bag.canonical sideFields).whole_zip_written.2
    · rw [values, noAddOn]
      rfl
  have again (component : Component) : (sideComponents (sideComponents bag)).value component =
      ((sideComponents bag).value component).upper := by
    by_cases isZip : component = .zipCode
    · rw [isZip, side_zip, zip]
    · by_cases isAddOn : component = .zipPlus4
      · rw [isAddOn, noAddOn, sideComponents, Bag.value_of_values]
        rfl
      · rw [side_value _ component isZip isAddOn, values]
  rw [Bag.upper, ← funext again, sideComponents, Bag.of_values_value]

end StandardAddress

def Bag.IsUpper (bag : Bag) : Prop := ∀ component, (bag.value component).IsUpper

namespace Components

def IsUpper (components : Components) : Prop := ∀ bag ∈ components.bags, bag.IsUpper

/-- In no value do halves of a letter in lower case meet over a mark. -/
def JoinNoHalves (components : Components) : Prop :=
  ∀ bag ∈ components.bags, ∀ component, ¬JoinsHalves (bag.value component)

end Components

theorem standardize_is_upper (components : Components) (apart : components.JoinNoHalves) :
    (standardize components).components.IsUpper := by
  cases components with
  | single bag =>
      intro other member
      rw [List.mem_singleton.1 member]
      exact StandardAddress.single_is_upper bag (apart bag (.head _))
  | pair first second =>
      intro other member
      rcases List.mem_pair.1 member with rfl | rfl
      · apply StandardAddress.side_is_upper first
        exact fun component _ => apart first (by simp [Components.bags]) component
      · apply StandardAddress.side_is_upper second
        exact fun component _ => apart second (by simp [Components.bags]) component

end PostalAddress
