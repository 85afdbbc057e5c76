import PostalAddress.Proofs.CasedUnits
import PostalAddress.Proofs.RequestBodies
import PostalAddress.Proofs.Respelling
import PostalAddress.Proofs.Restandardization

/-!
Standardizing depends on canonical values alone. Objects that spell the same values are standardized
alike. An object is standardized as the object of its canonical values is, without anything else
that stood in it, unless halves that have met over a mark leave a letter in lower case. Of the two
streets of an intersection only the street and the location count.
-/

namespace PostalAddress

def canonicalFields (listed : List Component) (fields : List (Text × Json)) : List (Text × Json) :=
  listed.filterMap fun component =>
    ((fields.lookup component.name).bind Json.text?).map fun text =>
      (component.name, .string (component.canonical text))

/-- A component without a text has the empty value. -/
def SpellsSame (listed : List Component) (left right : List (Text × Json)) : Prop :=
  ∀ component ∈ listed,
    SameSpelled component ((Bag.ofFields left).value component)
      ((Bag.ofFields right).value component)

namespace Bag

theorem canonical_eq_iff (listed : List Component) (left right : Bag) :
    left.canonical listed = right.canonical listed ↔
      ∀ component ∈ listed,
        component.canonical (left.value component) =
          component.canonical (right.value component) := by
  have value (bag : Bag) (component : Component) (member : component ∈ listed) :
      (bag.canonical listed).value component = component.canonical (bag.value component) := by
    rw [canonical, value_of_values, if_pos (by simpa using member)]
  constructor
  · intro same component member
    rw [← value left component member, ← value right component member, same]
  · intro same
    apply congrArg ofValues
    funext component
    split
    case isTrue listedHere => exact same component (by simpa using listedHere)
    case isFalse => rfl

theorem value_canonical_fields (listed : List Component) (fields : List (Text × Json))
    (component : Component) (member : component ∈ listed) :
    (ofFields (canonicalFields listed fields)).value component =
      component.canonical ((ofFields fields).value component) := by
  let texts : Bag := ⟨fun other => ((ofFields fields).get other).map other.canonical⟩
  have written : canonicalFields listed fields = texts.fields listed := by
    apply congrArg (listed.filterMap ·)
    funext other
    simp only [texts, Option.map_map]
    rfl
  have held : (ofFields (canonicalFields listed fields)).get component = texts.get component := by
    simp only [ofFields, written, texts.lookup_fields listed component member]
    cases texts.get component <;> rfl
  rw [value, held, value]
  cases given : (ofFields fields).get component with
  | none => simp [texts, given, component.canonical_nil]
  | some text => simp [texts, given]

/-- The canonical values of canonical values are these in uppercase. -/
theorem canonical_canonical_fields (listed : List Component) (fields : List (Text × Json)) :
    (ofFields (canonicalFields listed fields)).canonical listed =
      ((ofFields fields).canonical listed).upper := by
  apply congrArg ofValues
  funext component
  rw [canonical, value_of_values]
  split
  case isFalse => rfl
  case isTrue member =>
    have given := value_canonical_fields listed fields component (by simpa using member)
    rw [given, (component.canonical_canonical _).again]

end Bag

theorem SpellsSame.canonical {listed : List Component} {left right : List (Text × Json)}
    (same : SpellsSame listed left right) :
    (Bag.ofFields left).canonical listed = (Bag.ofFields right).canonical listed :=
  (Bag.canonical_eq_iff listed _ _).2 fun component member => (same component member).canonical

/-- In no listed value do halves of a letter in lower case meet over a mark. -/
def JoinNoHalves (listed : List Component) (fields : List (Text × Json)) : Prop :=
  ∀ component ∈ listed, ¬JoinsHalves ((Bag.ofFields fields).value component)

instance (listed : List Component) (fields : List (Text × Json)) :
    Decidable (JoinNoHalves listed fields) :=
  inferInstanceAs (Decidable (∀ component ∈ listed, _))

theorem spells_same_iff (listed : List Component) (left right : List (Text × Json))
    (leftApart : JoinNoHalves listed left) (rightApart : JoinNoHalves listed right) :
    SpellsSame listed left right ↔
      (Bag.ofFields left).canonical listed = (Bag.ofFields right).canonical listed := by
  refine ⟨SpellsSame.canonical, fun same component member => ?_⟩
  have alike := (Bag.canonical_eq_iff listed _ _).1 same component member
  exact (same_spelled_iff component _ _ (leftApart component member)
    (rightApart component member)).2 alike

namespace StandardAddress

theorem of_bag_canonical (left right : Bag)
    (same : left.canonical Component.all = right.canonical Component.all) :
    ofBag left = ofBag right := by
  rw [of_bag_eq_iff, singleComponents, singleComponents, same]

theorem of_streets_canonical (first second otherFirst otherSecond : Bag)
    (sameFirst : first.canonical sideFields = otherFirst.canonical sideFields)
    (sameSecond : second.canonical sideFields = otherSecond.canonical sideFields) :
    ofStreets first second = ofStreets otherFirst otherSecond := by
  have side (left right : Bag) (same : left.canonical sideFields = right.canonical sideFields) :
      sideComponents left = sideComponents right := by
    unfold sideFields at same
    rw [sideComponents, sideComponents, same]
  rw [ofStreets, ofStreets, side first otherFirst sameFirst, side second otherSecond sameSecond]

theorem of_bag_cased_iff (bag cased : Bag)
    (same : cased.canonical Component.all = (bag.canonical Component.all).upper) :
    ofBag cased = ofBag bag ↔ (ofBag bag).components.IsUpper := by
  rw [of_bag_eq_iff, single_components_upper bag cased same,
    Bag.upper_eq_iff (single_components_standard bag).given]
  simp [ofBag, ofLines, Components.IsUpper, Components.bags]

theorem of_streets_cased_iff (first second casedFirst casedSecond : Bag)
    (sameFirst : casedFirst.canonical sideFields = (first.canonical sideFields).upper)
    (sameSecond : casedSecond.canonical sideFields = (second.canonical sideFields).upper) :
    ofStreets casedFirst casedSecond = ofStreets first second ↔
      (ofStreets first second).components.IsUpper := by
  rw [of_streets_eq_iff, side_components_upper first casedFirst sameFirst,
    side_components_upper second casedSecond sameSecond, Bag.upper_eq_iff (side_given first),
    Bag.upper_eq_iff (side_given second)]
  simp [ofStreets, ofLines, Components.IsUpper, Components.bags]

end StandardAddress

open StandardAddress (sideFields)

/-- An object is standardized like any other that spells the same values, and like the object of its
canonical values exactly if this leaves no letters in lower case. -/
theorem standardize_canonical_values (first second : List (Text × Json)) :
    let single := fun fields => standardize (.single (.ofFields fields))
    let pair := fun left right => standardize (.pair (.ofFields left) (.ofFields right))
    let canonical := fun listed fields => (Bag.ofFields fields).canonical listed
    (single (canonicalFields Component.all first) = single first ↔
        (single first).components.IsUpper) ∧
      (pair (canonicalFields sideFields first) (canonicalFields sideFields second) =
          pair first second ↔ (pair first second).components.IsUpper) ∧
      (JoinNoHalves Component.all first → (single first).components.IsUpper) ∧
      (JoinNoHalves sideFields first → JoinNoHalves sideFields second →
        (pair first second).components.IsUpper) ∧
      (∀ other, canonical Component.all first = canonical Component.all other →
        single first = single other) ∧
      (∀ otherFirst otherSecond, canonical sideFields first = canonical sideFields otherFirst →
        canonical sideFields second = canonical sideFields otherSecond →
        pair first second = pair otherFirst otherSecond) ∧
      ∀ listed left right, (SpellsSame listed left right →
          canonical listed left = canonical listed right) ∧
        (JoinNoHalves listed left → JoinNoHalves listed right →
          canonical listed left = canonical listed right → SpellsSame listed left right) := by
  intro single pair canonical
  refine ⟨?_, ?_, ?_, ?_, ?_, ?_, ?_⟩
  · apply StandardAddress.of_bag_cased_iff
    exact Bag.canonical_canonical_fields Component.all first
  · apply StandardAddress.of_streets_cased_iff
    · exact Bag.canonical_canonical_fields sideFields first
    · exact Bag.canonical_canonical_fields sideFields second
  · intro apart
    apply standardize_is_upper
    intro bag member component
    rw [List.mem_singleton.1 member]
    exact apart component component.mem_all
  · intro firstApart secondApart bag member
    rcases List.mem_pair.1 member with rfl | rfl
    · exact StandardAddress.side_is_upper _ firstApart
    · exact StandardAddress.side_is_upper _ secondApart
  · intro other same
    exact StandardAddress.of_bag_canonical _ _ same
  · intro otherFirst otherSecond sameFirst sameSecond
    exact StandardAddress.of_streets_canonical _ _ _ _ sameFirst sameSecond
  · intro listed left right
    exact ⟨SpellsSame.canonical, fun leftApart rightApart =>
      (spells_same_iff listed left right leftApart rightApart).2⟩

def mainAvenue : List (Text × Json) :=
  [(Component.streetName.name, .string " (Main)".toList),
    (Component.posttype.name, .string "Avenue,".toList), (Component.city.name, .null),
    ("planet".toList, .string "Mars".toList)]

def mainAve : List (Text × Json) :=
  [(Component.posttype.name, .string "ave.".toList),
    (Component.streetName.name, .string "main".toList)]

theorem main_avenue_spelled_twice :
    SpellsSame Component.all mainAvenue mainAve ∧
      standardize (.single (.ofFields mainAvenue)) = standardize (.single (.ofFields mainAve)) ∧
      standardize (.single (.ofFields (canonicalFields Component.all mainAvenue))) =
        standardize (.single (.ofFields mainAvenue)) ∧
      standardize (.pair (.ofFields mainAvenue) (.ofFields mainAve)) =
        standardize (.pair (.ofFields mainAve) (.ofFields mainAvenue)) := by
  have apart : JoinNoHalves Component.all mainAvenue ∧ JoinNoHalves Component.all mainAve := by
    decide +kernel
  have sameAnywhere : (Bag.ofFields mainAvenue).canonical Component.all =
      (Bag.ofFields mainAve).canonical Component.all := by decide +kernel
  have sameOnStreets : (Bag.ofFields mainAvenue).canonical sideFields =
      (Bag.ofFields mainAve).canonical sideFields := by decide +kernel
  obtain ⟨canonical, _, upper, _, single, pair, spelled⟩ :=
    standardize_canonical_values mainAvenue mainAve
  exact ⟨(spelled _ _ _).2 apart.1 apart.2 sameAnywhere, single mainAve sameAnywhere,
    canonical.2 (upper apart.1), pair mainAve mainAvenue sameOnStreets sameOnStreets.symm⟩

/-- The canonical value of a city in which halves meet has another canonical value. -/
theorem split_city_canonical_value :
    let fields : List (Text × Json) := [(Component.city.name, .string Text.splitLetter)]
    (standardize (.single (.ofFields (canonicalFields Component.all fields)))).city ≠
        (standardize (.single (.ofFields fields))).city ∧
      standardize (.pair (.ofFields (canonicalFields sideFields fields)) .empty) ≠
        standardize (.pair (.ofFields fields) .empty) := by
  decide +kernel

end PostalAddress
