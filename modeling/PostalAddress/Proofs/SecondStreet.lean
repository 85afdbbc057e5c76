import PostalAddress.Parsed
import PostalAddress.Proofs.StreetTokens

/-!
What an ambiguous answer for an intersection keeps of the second street: a house number in front of
its name, and nothing else. Two locations with one first street and one place give the same bag
exactly if they have the same house number on the second street.
-/

namespace PostalAddress

namespace Doubt

def isOfIntersection : Doubt → Bool
  | addressPartInIntersection _ | missingStreetName => true
  | repeatedLabel _ | secondStreetInAddress _ => false

end Doubt

theorem classify_intersection_mode (tagging : Tagging) (doubt : Doubt)
    (ambiguous : classify tagging = .ambiguous doubt) :
    doubt.isOfIntersection = true ↔ ∃ tokens, tagging = .parsed .intersection tokens := by
  cases tagging with
  | repeatedLabel label tokens =>
      cases ambiguous
      simp [Doubt.isOfIntersection]
  | parsed mode tokens =>
      cases mode with
      | intersection =>
          rw [classify, classifyIntersection] at ambiguous
          split at ambiguous
          case h_1 =>
            cases ambiguous
            simp [Doubt.isOfIntersection]
          case h_2 =>
            split at ambiguous <;> cases ambiguous
            simp [Doubt.isOfIntersection]
      | streetAddress =>
          rw [classify, classifyStreetAddress] at ambiguous
          split at ambiguous <;> cases ambiguous
          simp [Doubt.isOfIntersection]

theorem Interpretation.of_tagging_ambiguous (tagging : Tagging) (doubt : Doubt) (bag : Bag)
    (read : ofTagging tagging = .ambiguous doubt bag) :
    classify tagging = .ambiguous doubt ∧
      bag = Bag.ofTokens (tagging.tokens.filter fun token => !token.isSecondStreet) := by
  rw [ofTagging] at read
  split at read
  case h_1 => cases read
  case h_2 => cases read
  case h_3 _ other classified =>
    cases read
    exact ⟨classified, rfl⟩

theorem Tagger.locating_intersection (locate : Locator) (text : Text) (location : Location)
    (tokens : List Token) (found : locate text = some location)
    (read : (locating locate text).value = .parsed .intersection tokens) :
    tokens = location.intersectionTokens ((findConnector? false text).getD ['&']) := by
  rw [locating] at read
  split at read
  case h_1 => cases read
  case h_2 =>
    rw [tagWhole] at read
    split at read
    case isTrue => cases read
    case isFalse =>
      simp only [found, Consulted.value_map, tagLocation] at read
      split at read
      case isTrue =>
        cases read
        rfl
      case isFalse => cases read

/-- The locator has an answer for the text, which is then an ambiguous intersection with this
bag. -/
structure Locator.ReadsAmbiguous (locate : Locator) (text : Text) (location : Location)
    (bag : Bag) : Prop where
  found : locate (cleanText text) = some location
  read : ∃ doubt, doubt.isOfIntersection = true ∧
    (interpret (.locating locate) text).value = .ambiguous doubt bag

theorem Locator.ReadsAmbiguous.bag_tokens {locate : Locator} {text : Text} {location : Location}
    {bag : Bag} (ambiguous : locate.ReadsAmbiguous text location bag) :
    bag = .ofTokens
      ((location.sideTokens (.street .first Component.label) ++
          [.separator ((findConnector? false (cleanText text)).getD ['&'])]) ++
        (Joining.numberTokens (location.sideNumber? .second) ++ location.tokens .place)) := by
  obtain ⟨doubt, ofIntersection, read⟩ := ambiguous.read
  rw [interpret] at read
  split at read
  case isTrue => cases read
  case isFalse =>
    obtain ⟨classified, rfl⟩ := Interpretation.of_tagging_ambiguous _ doubt bag read
    obtain ⟨tokens, parsed⟩ := (classify_intersection_mode _ doubt classified).1 ofIntersection
    have located := Tagger.locating_intersection locate _ location tokens ambiguous.found parsed
    rw [parsed, located, Tagging.tokens, location.first_street_tokens]

namespace Location

/-- Two locations that may differ in the second street and in the fields of an address alone. -/
structure AgreesOnFirstStreet (left right : Location) : Prop where
  street : ∀ part, left.get (.street .first part) = right.get (.street .first part)
  city : left.get .city = right.get .city
  state : left.get .state = right.get .state
  zip : left.get .zip = right.get .zip
  plus4 : left.get .plus4 = right.get .plus4

theorem AgreesOnFirstStreet.tokens {left right : Location}
    (agrees : left.AgreesOnFirstStreet right) :
    left.sideTokens (.street .first Component.label) =
        right.sideTokens (.street .first Component.label) ∧
      left.tokens .place = right.tokens .place := by
  have street : left.tokens (.street .first Component.label) =
      right.tokens (.street .first Component.label) := by
    apply left.tokens_congr right
    intro field member
    simp only [FieldLabels.street, List.mem_cons, List.not_mem_nil, or_false] at member
    rcases member with rfl | rfl | rfl | rfl <;> exact agrees.street _
  have place : left.tokens .place = right.tokens .place := by
    apply left.tokens_congr right
    intro field member
    simp only [FieldLabels.place, List.mem_cons, List.not_mem_nil, or_false] at member
    rcases member with rfl | rfl | rfl | rfl
    · exact agrees.city
    · exact agrees.state
    · exact agrees.zip
    · exact agrees.plus4
  exact ⟨by rw [sideTokens, sideTokens, street], place⟩

end Location

/-- Of the second street of an ambiguous intersection only the house number comes into the bag. -/
theorem second_street_number_only (text : Text) (leftLocate rightLocate : Locator)
    (left right : Location) (leftBag rightBag : Bag)
    (leftRead : leftLocate.ReadsAmbiguous text left leftBag)
    (rightRead : rightLocate.ReadsAmbiguous text right rightBag)
    (agrees : left.AgreesOnFirstStreet right) :
    (∀ component, component ≠ .number → leftBag.get component = rightBag.get component) ∧
      (leftBag = rightBag ↔ left.sideNumber? .second = right.sideNumber? .second) := by
  obtain ⟨first, place⟩ := agrees.tokens
  obtain ⟨leftGiven, leftWritten⟩ := left.side_number_written .second
  obtain ⟨rightGiven, rightWritten⟩ := right.side_number_written .second
  have absent : ∀ token ∈ right.tokens .place, token.component? ≠ some .number := by
    intro token member numbered
    have label := (Label.component_eq_some_iff token.label .number).1 numbered
    have listed := right.tokens_labelled _ token member
    rw [← label] at listed
    exact absurd listed (by decide)
  rw [leftRead.bag_tokens, rightRead.bag_tokens, first, place]
  constructor
  · intro component different
    exact Bag.of_tokens_but_number _ _ _ _ component different
  · constructor
    · intro same
      have numbers := congrArg (fun bag : Bag => bag.value .number) same
      simp only [Bag.of_tokens_number _ _ _ leftGiven leftWritten absent,
        Bag.of_tokens_number _ _ _ rightGiven rightWritten absent] at numbers
      exact Joining.number_with_injective _ _ _ leftGiven rightGiven numbers
    · intro same
      rw [same]

def mainCrossing (second : Text) : Location :=
  .ofFields [("street1".toList, .string "Main".toList), ("street2".toList, .string second),
    ("city".toList, .string "Springfield".toList)]

def mainBag (number : Text) : Bag :=
  ((Bag.empty.set .streetName "Main".toList).set .number number).set .city "Springfield".toList

theorem main_crossing_agrees (left right : Text) :
    (mainCrossing left).AgreesOnFirstStreet (mainCrossing right) := by
  constructor
  case street => intro part; cases part <;> rfl
  all_goals rfl

def mainLocator (second : Text) : Locator := fun _ => some (mainCrossing second)

theorem five_elm_read : (mainLocator "5 Elm".toList).ReadsAmbiguous
    "Main & 5 Elm, Springfield".toList (mainCrossing "5 Elm".toList) (mainBag ['5']) :=
  ⟨rfl, .addressPartInIntersection Component.number.label, rfl, by decide +kernel⟩

theorem second_street_name_dropped :
    (mainLocator "5 Elm".toList).ReadsAmbiguous "Main & 5 Elm, Springfield".toList
        (mainCrossing "5 Elm".toList) (mainBag ['5']) ∧
      (mainLocator "5 Oak".toList).ReadsAmbiguous "Main & 5 Elm, Springfield".toList
        (mainCrossing "5 Oak".toList) (mainBag ['5']) ∧
      (mainCrossing "5 Elm".toList).AgreesOnFirstStreet (mainCrossing "5 Oak".toList) ∧
      (mainBag ['5'] = mainBag ['5'] ↔ (mainCrossing "5 Elm".toList).sideNumber? .second =
        (mainCrossing "5 Oak".toList).sideNumber? .second) := by
  have oak : (mainLocator "5 Oak".toList).ReadsAmbiguous "Main & 5 Elm, Springfield".toList
      (mainCrossing "5 Oak".toList) (mainBag ['5']) :=
    ⟨rfl, .addressPartInIntersection Component.number.label, rfl, by decide +kernel⟩
  have agrees := main_crossing_agrees "5 Elm".toList "5 Oak".toList
  have kept := second_street_number_only _ _ _ _ _ _ _ five_elm_read oak agrees
  exact ⟨five_elm_read, oak, agrees, kept.2⟩

theorem second_street_number_kept :
    (mainLocator "5 Elm".toList).ReadsAmbiguous "Main & 5 Elm, Springfield".toList
        (mainCrossing "5 Elm".toList) (mainBag ['5']) ∧
      (mainLocator "7 Elm".toList).ReadsAmbiguous "Main & 5 Elm, Springfield".toList
        (mainCrossing "7 Elm".toList) (mainBag ['7']) ∧
      (mainCrossing "5 Elm".toList).AgreesOnFirstStreet (mainCrossing "7 Elm".toList) ∧
      mainBag ['5'] ≠ mainBag ['7'] := by
  have seven : (mainLocator "7 Elm".toList).ReadsAmbiguous "Main & 5 Elm, Springfield".toList
      (mainCrossing "7 Elm".toList) (mainBag ['7']) :=
    ⟨rfl, .addressPartInIntersection Component.number.label, rfl, by decide +kernel⟩
  exact ⟨five_elm_read, seven, main_crossing_agrees _ _, by decide +kernel⟩

end PostalAddress
