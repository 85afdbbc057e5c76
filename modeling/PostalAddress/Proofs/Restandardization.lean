import PostalAddress.Proofs.ListMark
import PostalAddress.Proofs.StandardForm

/-!
Standardizing the components of a standard address once more. Where they are in uppercase only the
identifier of the unit may change, by losing the list punctuation that it begins with, and else
they are put in uppercase besides. Either happens once at most: a third pass has nothing left to
do. Such an identifier comes from an address whose unit has list punctuation behind a number sign
or behind a designator that is not in a field of its own, and letters in lower case come from
values in which halves meet over a mark.
-/

namespace PostalAddress

namespace Components

def identifier? : Components → Option Text
  | single bag => bag.get .occupancyIdentifier
  | pair _ _ => none

def AgreesButForIdentifier : Components → Components → Prop
  | single left, single right =>
      ∀ component, component ≠ .occupancyIdentifier → left.get component = right.get component
  | left, right => left = right

end Components

theorem Text.present_eq_iff (left right : Text) :
    present? left = present? right ↔ left = right := by
  cases left <;> cases right <;> simp [present?]

theorem Bag.get_of_given {bag : Bag} (given : bag = .ofValues bag.value) (component : Component) :
    bag.get component = Text.present? (bag.value component) :=
  congrArg (fun other : Bag => other.get component) given

theorem Bag.eq_iff_values {left right : Bag} (leftGiven : left = .ofValues left.value)
    (rightGiven : right = .ofValues right.value) :
    left = right ↔ ∀ component, left.value component = right.value component := by
  constructor
  · intro same component
    rw [same]
  · intro same
    rw [leftGiven, rightGiven, funext same]

def Components.IsUpperButForIdentifier (components : Components) : Prop :=
  ∀ bag ∈ components.bags, ∀ component, component ≠ .occupancyIdentifier →
    (bag.value component).IsUpper

theorem Bag.upper_eq_iff {bag : Bag} (given : bag = .ofValues bag.value) :
    bag.upper = bag ↔ bag.IsUpper := by
  have upperGiven : bag.upper = .ofValues bag.upper.value := (Bag.of_values_value _).symm
  rw [Bag.eq_iff_values upperGiven given]
  simp only [Bag.upper, Bag.value_of_values, Text.upper_eq_self_iff]
  rfl

theorem Bag.upper_upper (bag : Bag) : bag.upper.upper = bag.upper := by
  simp only [Bag.upper, Bag.value_of_values, Text.upper_upper]

theorem Bag.identifier_begins_iff (bag : Bag) :
    BeginsWithListMark (bag.value .occupancyIdentifier) ↔
      ∃ identifier, bag.get .occupancyIdentifier = some identifier ∧
        BeginsWithListMark identifier := by
  rw [Bag.value]
  cases bag.get .occupancyIdentifier with
  | none => simp [not_begins_nil]
  | some identifier => simp

theorem Bag.tidied_not_begins (bag : Bag) :
    ¬BeginsWithListMark (bag.tidied.value .occupancyIdentifier) := by
  rw [tidied, value_of_values, if_pos rfl]
  exact (normalize_normal _).not_begins

namespace Bag.IsStandard

variable {bag : Bag} (standard : bag.IsStandard)

include standard

theorem tidied_value_eq_iff (component : Component) :
    bag.tidied.value component = bag.value component ↔
      (bag.value component).IsUpper ∧
        (component = .occupancyIdentifier → ¬BeginsWithListMark (bag.value component)) := by
  rw [tidied, value_of_values]
  split
  case isTrue same =>
    have remainder : IsRemainder (bag.value .occupancyIdentifier) :=
      standard.settled.occupancy.identifier
    rw [same, remainder.normalize_iff]
    simp
  case isFalse different => simp [Text.upper_eq_self_iff, different]

theorem tidied_eq_iff :
    bag.tidied = bag ↔ bag.IsUpper ∧ ¬BeginsWithListMark (bag.value .occupancyIdentifier) := by
  rw [eq_iff_values standard.tidied_standard.given standard.given]
  simp only [standard.tidied_value_eq_iff]
  constructor
  · intro fixed
    exact ⟨fun component => (fixed component).1, (fixed .occupancyIdentifier).2 rfl⟩
  · rintro ⟨upper, unmarked⟩ component
    exact ⟨upper component, fun same => same ▸ unmarked⟩

theorem tidied_get_eq_iff (component : Component) (different : component ≠ .occupancyIdentifier) :
    bag.tidied.get component = bag.get component ↔ (bag.value component).IsUpper := by
  rw [get_of_given standard.tidied_standard.given, get_of_given standard.given,
    Text.present_eq_iff, standard.tidied_value_eq_iff]
  simp [different]

/-- The identifier has no marks left that could part halves. -/
theorem tidied_upper : bag.tidied.IsUpper := by
  intro component
  rw [tidied, value_of_values]
  split
  case isTrue same =>
    have remainder : IsRemainder (bag.value .occupancyIdentifier) :=
      standard.settled.occupancy.identifier
    rw [same, normalize_is_upper_iff]
    exact unmarked_joins_none _ remainder.unmarked
  case isFalse => exact Text.upper_is_upper _

/-- A third pass has nothing to do. -/
theorem tidied_tidied : bag.tidied.tidied = bag.tidied :=
  standard.tidied_standard.tidied_eq_iff.2 ⟨standard.tidied_upper, tidied_not_begins bag⟩

end Bag.IsStandard

namespace StandardAddress

/-- The identifier of the unit is written in the second line and in the single line. -/
structure AgreesButForIdentifier (left right : StandardAddress) : Prop where
  addressLine1 : left.addressLine1 = right.addressLine1
  city : left.city = right.city
  state : left.state = right.state
  zipCode : left.zipCode = right.zipCode
  components : left.components.AgreesButForIdentifier right.components

theorem of_bag_eq_iff (left right : Bag) :
    ofBag left = ofBag right ↔ singleComponents left = singleComponents right := by
  constructor
  · intro same
    exact Components.single.inj (congrArg StandardAddress.components same)
  · intro same
    rw [ofBag, ofBag, same]

theorem of_bag_agrees (left right : Bag)
    (same : ∀ component, component ≠ .occupancyIdentifier →
      (singleComponents left).get component = (singleComponents right).get component) :
    (ofBag left).AgreesButForIdentifier (ofBag right) := by
  have values (component : Component) (different : component ≠ .occupancyIdentifier) :
      (singleComponents left).value component = (singleComponents right).value component := by
    rw [Bag.value, Bag.value, same component different]
  have written (fields : List Component) (apart : Component.occupancyIdentifier ∉ fields) :
      fields.map (singleComponents left).value = fields.map (singleComponents right).value :=
    List.map_congr_left fun component member => values component fun equal => apart (equal ▸ member)
  have street : (singleComponents left).streetText = (singleComponents right).streetText :=
    congrArg (Text.joinNonempty [' ']) (written _ (by decide))
  have box : (singleComponents left).boxText = (singleComponents right).boxText :=
    congrArg (Text.joinNonempty [' ']) (written [.boxType, .boxId] (by decide))
  constructor
  case addressLine1 => simp only [ofBag, ofLines, street, box]
  case city => exact values .city (by decide)
  case state => exact values .state (by decide)
  case zipCode => exact values .zipCode (by decide)
  case components => exact same

theorem side_given (bag : Bag) : sideComponents bag = .ofValues (sideComponents bag).value :=
  (Bag.of_values_value _).symm

theorem side_third_pass (bag : Bag) :
    sideComponents (sideComponents (sideComponents bag)) = sideComponents (sideComponents bag) := by
  rw [side_components_again (sideComponents bag), side_components_again bag, Bag.upper_upper]

/-- Two intersections are one exactly if their streets are. -/
theorem of_streets_eq_iff (first second otherFirst otherSecond : Bag) :
    ofStreets first second = ofStreets otherFirst otherSecond ↔
      sideComponents first = sideComponents otherFirst ∧
        sideComponents second = sideComponents otherSecond := by
  constructor
  · intro same
    have pairs := Components.pair.inj (congrArg StandardAddress.components same)
    exact pairs
  · rintro ⟨sameFirst, sameSecond⟩
    rw [ofStreets, ofStreets, sameFirst, sameSecond]

theorem of_streets_again_iff (first second : Bag) :
    ofStreets (sideComponents first) (sideComponents second) = ofStreets first second ↔
      (ofStreets first second).components.IsUpper := by
  rw [of_streets_eq_iff, side_components_again, side_components_again,
    Bag.upper_eq_iff (side_given first), Bag.upper_eq_iff (side_given second)]
  simp [ofStreets, ofLines, Components.IsUpper, Components.bags]

theorem occupancy_identifier_settled (bag : Bag) :
    (singleComponents bag).value .occupancyIdentifier =
      (UnitPair.settle (bag.canonical Component.all)).occupancy.identifier := by
  rw [← of_bag_single_components]
  rfl

end StandardAddress

/-- Standardizing again changes an address exactly if list punctuation comes to the front of the
unit's identifier or a component has letters in lower case. -/
theorem standardize_again_eq_iff (components : Components) :
    standardize (standardize components).components = standardize components ↔
      (standardize components).components.IsUpper ∧
        ∀ bag, components = .single bag → ¬(bag.canonical Component.all).LosesListMark := by
  cases components with
  | single bag =>
      have standard := StandardAddress.single_components_standard bag
      have normal (component : Component) :
          IsNormal ((bag.canonical Component.all).value component) :=
        (bag.canonical_all component).normal
      change StandardAddress.ofBag _ = StandardAddress.ofBag bag ↔ _
      rw [StandardAddress.of_bag_eq_iff, standard.single_components, standard.tidied_eq_iff,
        StandardAddress.occupancy_identifier_settled, settle_begins_iff _ normal]
      simp [standardize, StandardAddress.ofBag, StandardAddress.ofLines, Components.IsUpper,
        Components.bags]
  | pair first second =>
      rw [and_iff_left (fun bag impossible => by cases impossible)]
      exact StandardAddress.of_streets_again_iff first second

theorem standardize_comma_behind_sign :
    standardize (standardize (.single (Bag.empty.set .occupancyIdentifier "#, 5".toList))).components ≠
      standardize (.single (Bag.empty.set .occupancyIdentifier "#, 5".toList)) := by
  decide +kernel

namespace StandardAddress

theorem agrees_refl (address : StandardAddress) : address.AgreesButForIdentifier address := by
  refine ⟨rfl, rfl, rfl, rfl, ?_⟩
  cases address.components with
  | single bag => exact fun _ _ => rfl
  | pair first second => rfl

theorem of_bag_agrees_iff (bag : Bag) :
    (ofBag (singleComponents bag)).AgreesButForIdentifier (ofBag bag) ↔
      (ofBag bag).components.IsUpperButForIdentifier := by
  have standard := single_components_standard bag
  have agree (component : Component) (different : component ≠ .occupancyIdentifier) :=
    standard.tidied_get_eq_iff component different
  rw [← standard.single_components] at agree
  constructor
  · intro agrees other member component different
    rw [List.mem_singleton.1 member]
    exact (agree component different).1 (agrees.components component different)
  · intro upper
    apply of_bag_agrees
    intro component different
    exact (agree component different).2 (upper _ (.head _) component different)

theorem of_streets_agrees_iff (first second : Bag) :
    (ofStreets (sideComponents first) (sideComponents second)).AgreesButForIdentifier
        (ofStreets first second) ↔
      (ofStreets first second).components.IsUpperButForIdentifier := by
  have upper (bag : Bag) (others : ∀ component, component ≠ .occupancyIdentifier →
      ((sideComponents bag).value component).IsUpper) : (sideComponents bag).IsUpper := by
    intro component
    by_cases identifier : component = .occupancyIdentifier
    · rw [identifier, side_value bag _ (by decide) (by decide),
        Bag.canonical_absent _ _ _ (by decide)]
      exact UnitText.empty_is_upper.identifier
    · exact others component identifier
  constructor
  · intro agrees
    have sides := Components.pair.inj agrees.components
    have same := (of_streets_again_iff first second).1 ((of_streets_eq_iff _ _ _ _).2 sides)
    intro bag member component _
    exact same bag member component
  · intro others
    have same : (ofStreets first second).components.IsUpper := by
      intro bag member
      rcases List.mem_pair.1 member with rfl | rfl
      · exact upper first (others _ member)
      · exact upper second (others _ member)
    rw [(of_streets_again_iff first second).2 same]
    exact agrees_refl _

end StandardAddress

/-- The first, the second and the third pass over an address. -/
theorem standardize_three_passes (components : Components) :
    let first := standardize components
    let second := standardize first.components
    let third := standardize second.components
    (second.AgreesButForIdentifier first ↔ first.components.IsUpperButForIdentifier) ∧
      (second = first ↔ first.components.IsUpper ∧
        ¬∃ identifier, first.components.identifier? = some identifier ∧
          BeginsWithListMark identifier) ∧
      third = second ∧
      (components.JoinNoHalves → first.components.IsUpper) := by
  cases components with
  | single bag =>
      have standard := StandardAddress.single_components_standard bag
      have again := standard.single_components
      refine ⟨StandardAddress.of_bag_agrees_iff bag, ?same, ?third, standardize_is_upper _⟩
      case same =>
        change StandardAddress.ofBag _ = StandardAddress.ofBag bag ↔ _
        rw [StandardAddress.of_bag_eq_iff, again, standard.tidied_eq_iff, Bag.identifier_begins_iff]
        simp [standardize, StandardAddress.ofBag, StandardAddress.ofLines, Components.IsUpper,
          Components.bags, Components.identifier?]
      case third =>
        change StandardAddress.ofBag _ = StandardAddress.ofBag _
        rw [StandardAddress.of_bag_eq_iff, again, standard.tidied_standard.single_components,
          standard.tidied_tidied]
  | pair first second =>
      refine ⟨StandardAddress.of_streets_agrees_iff first second, ?same, ?third,
        standardize_is_upper _⟩
      case same =>
        rw [iff_comm, and_iff_left (by rintro ⟨identifier, impossible, _⟩; cases impossible)]
        exact (StandardAddress.of_streets_again_iff first second).symm
      case third =>
        exact (StandardAddress.of_streets_eq_iff _ _ _ _).2
          ⟨StandardAddress.side_third_pass first, StandardAddress.side_third_pass second⟩

/-- A city in which halves meet is put in uppercase by the second pass only. -/
theorem standardize_split_city :
    let first := standardize (.single (Bag.empty.set .city Text.splitLetter))
    (standardize first.components).city ≠ first.city ∧ first.components.identifier? = none := by
  decide +kernel

end PostalAddress
