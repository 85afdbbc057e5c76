import PostalAddress.Proofs.CityUnits
import PostalAddress.Proofs.NumberRanges
import PostalAddress.Proofs.ParsedForm

/-!
Labels are open vocabulary. A token under a label that stands for nothing can be put in anywhere:
the classification stays, with its warning, and so do the components, unless the token parts a
range of house numbers.
-/

namespace PostalAddress

/-- A token under a label that stands for nothing: no component, no separator, no second street. -/
structure Token.IsIgnored (token : Token) : Prop where
  noComponent : token.component? = none
  noSeparator : token.isSeparator = false
  noSecondStreet : token.isSecondStreet = false

namespace Token.IsIgnored

variable {token : Token} (ignored : token.IsIgnored)
include ignored

theorem label_ne (component : Component) : token.label ≠ component.label := by
  intro same
  have labelled := (Label.component_eq_some_iff token.label component).2 same.symm
  have unlabelled : Label.component? token.label = none := ignored.noComponent
  rw [unlabelled] at labelled
  cases labelled

theorem traceless : token.value? = none := by
  rw [value?, ignored.noSeparator, ignored.noComponent]
  rfl

theorem no_address_part : token.isAddressOnly = false := by
  rw [← Bool.not_eq_true, token.is_address_only_iff]
  rintro ⟨component, -, same⟩
  exact ignored.label_ne component same

theorem no_street_name : token.isStreetName = false :=
  decide_eq_false (ignored.label_ne .streetName)

theorem no_second_street_name : token.isSecondStreetName = false := by
  refine decide_eq_false fun same => ?_
  have second := ignored.noSecondStreet
  rw [isSecondStreet, same] at second
  exact absurd second (by decide)

theorem no_location : token.isLocation = false := by
  rw [← Bool.not_eq_true]
  intro location
  obtain ⟨component, -, same⟩ := token.location_labelled location
  exact ignored.label_ne component same.symm

end Token.IsIgnored

def Tagging.withTokens : Tagging → List Token → Tagging
  | parsed mode _, tokens => parsed mode tokens
  | repeatedLabel label _, tokens => repeatedLabel label tokens

namespace Tagging

@[simp]
theorem tokens_with_tokens (tagging : Tagging) (tokens : List Token) :
    (tagging.withTokens tokens).tokens = tokens := by
  cases tagging <;> rfl

@[simp]
theorem with_own_tokens (tagging : Tagging) : tagging.withTokens tagging.tokens = tagging := by
  cases tagging <;> rfl

end Tagging

namespace Streams

/-- The longer streams have one more token, and it is in the first stream. -/
def AddToFirst (token : Token) (longer shorter : Streams) : Prop :=
  ∃ front behind, longer.first = front ++ token :: behind ∧ shorter.first = front ++ behind ∧
    longer.second = shorter.second

theorem AddToFirst.cons_first {token : Token} {longer shorter : Streams}
    (added : AddToFirst token longer shorter) (head : Token) :
    AddToFirst token (longer.consFirst head) (shorter.consFirst head) := by
  obtain ⟨front, behind, long, short, second⟩ := added
  exact ⟨head :: front, behind, congrArg (head :: ·) long, congrArg (head :: ·) short, second⟩

theorem AddToFirst.cons_second {token : Token} {longer shorter : Streams}
    (added : AddToFirst token longer shorter) (head : Token) :
    AddToFirst token (longer.consSecond head) (shorter.consSecond head) := by
  obtain ⟨front, behind, long, short, second⟩ := added
  exact ⟨front, behind, long, short, congrArg (head :: ·) second⟩

end Streams

section

variable (front behind : List Token) {token : Token} (ignored : token.IsIgnored)
include ignored

theorem classify_insert (tagging : Tagging) :
    classify (tagging.withTokens (front ++ token :: behind)) =
      classify (tagging.withTokens (front ++ behind)) := by
  cases tagging with
  | repeatedLabel label _ => rfl
  | parsed mode _ =>
      cases mode with
      | intersection =>
          simp [Tagging.withTokens, classify, classifyIntersection, List.find?_append,
            ignored.no_address_part, ignored.no_street_name, ignored.no_second_street_name]
      | streetAddress =>
          simp [Tagging.withTokens, classify, classifyStreetAddress, List.find?_append,
            ignored.noSecondStreet]

theorem Streams.of_tokens_insert (pastFirst : Bool) :
    AddToFirst token (ofTokens pastFirst (front ++ token :: behind))
      (ofTokens pastFirst (front ++ behind)) := by
  -- Both walks remember the same all along, since the token turns neither of them.
  induction front generalizing pastFirst with
  | nil =>
      refine ⟨[], (ofTokens pastFirst behind).first, ?_, rfl, ?_⟩ <;>
        simp [ofTokens, ignored.noSecondStreet, ignored.noSeparator, ignored.no_location,
          consFirst]
  | cons head rest induction =>
      rw [List.cons_append, List.cons_append, ofTokens, ofTokens]
      split
      case isTrue => exact (induction true).cons_second _
      case isFalse =>
        split
        case isTrue => exact induction true
        case isFalse =>
          split
          case isTrue => exact (induction pastFirst).cons_second _
          case isFalse => exact (induction pastFirst).cons_first _

theorem Bag.of_tokens_insert_unnumbered
    (unnumbered : ∀ other ∈ front, other.component? ≠ some .number) :
    ofTokens (front ++ token :: behind) = ofTokens (front ++ behind) := by
  apply of_tokens_insert front behind token ignored.noSeparator ignored.traceless
  rintro between ⟨gap, gapBehind, -, ⟨before, number, rfl, isNumber⟩, -⟩ -
  exact absurd isNumber.labelled (unnumbered number (by simp))

theorem split_streets_bags_insert (tagging : Tagging)
    (named : (tagging.withTokens (front ++ behind)).NamesTwoStreets) :
    Bag.ofTokens (splitStreets (front ++ token :: behind)).first =
        Bag.ofTokens (splitStreets (front ++ behind)).first ∧
      (splitStreets (front ++ token :: behind)).second =
        (splitStreets (front ++ behind)).second := by
  obtain ⟨firstFront, firstBehind, long, short, second⟩ :=
    Streams.of_tokens_insert front behind ignored false
  have unnumbered := (named.no_address_part .number (by decide)).1
  rw [Tagging.tokens_with_tokens, splitStreets, short] at unnumbered
  refine ⟨?_, second⟩
  rw [splitStreets, splitStreets, long, short]
  exact Bag.of_tokens_insert_unnumbered firstFront firstBehind ignored fun other member =>
    unnumbered other (List.mem_append_left _ member)

end

/-- Only separators and second-street tokens are between the house number in front of the place and
the one behind it, and a separator is. -/
def LiesInRange (front behind : List Token) : Prop :=
  ∃ between, LieBetweenNumbers between front behind ∧ (∀ token ∈ between, token.turns = true) ∧
    ∃ token ∈ between, token.isSeparator = true

def firstStreet (tokens : List Token) : List Token := tokens.filter fun token => !token.isSecondStreet

theorem first_street_append (front behind : List Token) :
    firstStreet (front ++ behind) = firstStreet front ++ firstStreet behind :=
  List.filter_append front behind

theorem mem_first_street_iff (tokens : List Token) (token : Token) :
    token ∈ firstStreet tokens ↔ token ∈ tokens ∧ token.isSecondStreet = false := by
  simp [firstStreet]

theorem Token.IsNumber.no_second_street {token : Token} (number : token.IsNumber) :
    token.isSecondStreet = false := by
  have label := (Label.component_eq_some_iff token.label .number).1 number.labelled
  rw [isSecondStreet, ← label]
  decide

theorem Token.separator_no_second_street (token : Token) (separates : token.isSeparator = true) :
    token.isSecondStreet = false := by
  rw [isSecondStreet, of_decide_eq_true separates]
  decide

theorem ends_with_number_first_street (tokens gap : List Token) :
    EndsWithNumber (firstStreet tokens) gap ↔
      ∃ mixed, EndsWithNumber tokens mixed ∧ gap = firstStreet mixed := by
  constructor
  · rintro ⟨before, number, parted, isNumber⟩
    obtain ⟨front, rest, rfl, -, kept⟩ := List.filter_eq_append_iff.1 parted
    obtain ⟨passed, mixed, rfl, -, -, rfl⟩ := List.filter_eq_cons_iff.1 kept
    exact ⟨mixed, ⟨front ++ passed, number, by simp, isNumber⟩, rfl⟩
  · rintro ⟨mixed, ⟨before, number, rfl, isNumber⟩, rfl⟩
    exact ⟨firstStreet before, number, by simp [firstStreet, isNumber.no_second_street], isNumber⟩

theorem begins_with_number_first_street (tokens gap : List Token) :
    BeginsWithNumber (firstStreet tokens) gap ↔
      ∃ mixed, BeginsWithNumber tokens mixed ∧ gap = firstStreet mixed := by
  constructor
  · rintro ⟨number, after, parted, isNumber⟩
    obtain ⟨mixed, rest, rfl, rfl, kept⟩ := List.filter_eq_append_iff.1 parted
    obtain ⟨passed, behind, rfl, second, -, -⟩ := List.filter_eq_cons_iff.1 kept
    have skipped : firstStreet passed = [] := by simpa [firstStreet] using second
    refine ⟨mixed ++ passed, ⟨number, behind, by simp, isNumber⟩, ?_⟩
    rw [first_street_append, skipped, List.append_nil, firstStreet]
  · rintro ⟨mixed, ⟨number, after, rfl, isNumber⟩, rfl⟩
    exact ⟨number, firstStreet after, by simp [firstStreet, isNumber.no_second_street], isNumber⟩

theorem turning_first_street (between : List Token) :
    (∀ token ∈ between, token.turns = true) ∧ (∃ token ∈ between, token.isSeparator = true) ↔
      (∀ token ∈ firstStreet between, token.isSeparator = true) ∧ firstStreet between ≠ [] := by
  constructor
  · rintro ⟨turning, separator, listed, separates⟩
    constructor
    · intro token member
      obtain ⟨found, first⟩ := (mem_first_street_iff between token).1 member
      have turns := turning token found
      rwa [Token.turns, first, Bool.or_false] at turns
    · have first := separator.separator_no_second_street separates
      exact List.ne_nil_of_mem ((mem_first_street_iff between separator).2 ⟨listed, first⟩)
  · rintro ⟨separators, given⟩
    obtain ⟨separator, member⟩ := List.exists_mem_of_ne_nil _ given
    refine ⟨fun token found => ?_, separator, ((mem_first_street_iff _ _).1 member).1,
      separators separator member⟩
    cases second : token.isSecondStreet with
    | true => rw [Token.turns, second, Bool.or_true]
    | false =>
        have kept := (mem_first_street_iff between token).2 ⟨found, second⟩
        rw [Token.turns, separators token kept, Bool.true_or]

theorem lies_in_range_iff (front behind : List Token) :
    LiesInRange front behind ↔
      ∃ between, LieBetweenNumbers between (firstStreet front) (firstStreet behind) ∧
        (∀ token ∈ between, token.isSeparator = true) ∧ between ≠ [] := by
  constructor
  · rintro ⟨_, ⟨gap, gapBehind, rfl, ends, begins⟩, separators⟩
    refine ⟨firstStreet gap ++ firstStreet gapBehind,
      ⟨_, _, rfl, (ends_with_number_first_street front _).2 ⟨gap, ends, rfl⟩,
        (begins_with_number_first_street behind _).2 ⟨gapBehind, begins, rfl⟩⟩, ?_⟩
    rw [← first_street_append]
    exact (turning_first_street _).1 separators
  · rintro ⟨_, ⟨_, _, rfl, frontEnds, behindBegins⟩, separators⟩
    obtain ⟨gap, ends, rfl⟩ := (ends_with_number_first_street front _).1 frontEnds
    obtain ⟨gapBehind, begins, rfl⟩ := (begins_with_number_first_street behind _).1 behindBegins
    refine ⟨gap ++ gapBehind, ⟨gap, gapBehind, rfl, ends, begins⟩, (turning_first_street _).2 ?_⟩
    rwa [first_street_append]

section

variable (front behind : List Token) {token : Token} (ignored : token.IsIgnored)
include ignored

theorem first_street_insert :
    firstStreet (front ++ token :: behind) = firstStreet front ++ token :: firstStreet behind := by
  simp [firstStreet, ignored.noSecondStreet]

theorem Bag.of_first_street_insert (apart : ¬LiesInRange front behind) :
    ofTokens (firstStreet (front ++ token :: behind)) =
      ofTokens (firstStreet (front ++ behind)) := by
  rw [first_street_insert front behind ignored, first_street_append]
  apply of_tokens_insert _ _ token ignored.noSeparator ignored.traceless
  intro between numbers separators
  by_contra given
  exact apart ((lies_in_range_iff front behind).2 ⟨between, numbers, separators, given⟩)

theorem Bag.of_first_street_part_range (inRange : LiesInRange front behind) :
    (ofTokens (firstStreet (front ++ token :: behind))).value .number ≠
      (ofTokens (firstStreet (front ++ behind))).value .number := by
  obtain ⟨between, numbers, separators, given⟩ := (lies_in_range_iff front behind).1 inRange
  rw [first_street_insert front behind ignored, first_street_append]
  exact of_tokens_part_range _ _ between token ignored.noSeparator ignored.traceless numbers
    separators given

end

theorem Tagging.NamesTwoStreets.no_number {tagging : Tagging} (named : tagging.NamesTwoStreets) :
    ∀ token ∈ tagging.tokens, token.component? ≠ some .number := by
  obtain ⟨tokens, rfl, lacking, -⟩ := named
  intro token listed labelled
  have label := (Label.component_eq_some_iff token.label .number).1 labelled
  exact lacking token listed .number (by decide) label.symm

namespace Interpretation

/-- What becomes of the bag of the first street. -/
def settle : Classification → Bag → Bag
  | .streetAddress => recoverUnits
  | .intersection | .ambiguous _ => id

theorem settle_number (classification : Classification) (bag : Bag) :
    (settle classification bag).value .number = bag.value .number := by
  cases classification with
  | streetAddress =>
      rw [settle, Bag.value, Bag.value, recover_units_keeps_others bag .number (by decide)]
  | intersection => rfl
  | ambiguous doubt => rfl

theorem components_of_one_street (tagging : Tagging) (single : classify tagging ≠ .intersection) :
    (ofTagging tagging).components =
      .single (settle (classify tagging) (.ofTokens (firstStreet tagging.tokens))) := by
  rw [ofTagging]
  split
  case h_1 classified =>
    have doubtless := (classify_eq_street_address_iff tagging).1 classified
    have own : firstStreet tagging.tokens = tagging.tokens := by
      refine List.filter_eq_self.2 fun token listed => ?_
      cases second : token.isSecondStreet with
      | true =>
          have found := token.is_second_street_iff.1 second
          exact absurd (.inr (.inr ⟨token, listed, found⟩)) doubtless
      | false => rfl
    rw [classified, own]
    rfl
  case h_2 classified => exact absurd classified single
  case h_3 doubt classified =>
    rw [classified]
    rfl

theorem components_insert_iff (tagging : Tagging) (front behind : List Token) (token : Token)
    (ignored : token.IsIgnored) :
    (ofTagging (tagging.withTokens (front ++ token :: behind))).components =
        (ofTagging (tagging.withTokens (front ++ behind))).components ↔
      ¬LiesInRange front behind := by
  have classified := classify_insert front behind ignored tagging
  by_cases crossing : classify (tagging.withTokens (front ++ behind)) = .intersection
  case pos =>
    -- A house number would make an intersection doubtful, so there is no range to part.
    have named := (classify_eq_intersection_iff _).1 crossing
    have longerNamed := (classify_eq_intersection_iff _).1 (classified.trans crossing)
    obtain ⟨first, second⟩ := split_streets_bags_insert front behind ignored tagging named
    have unnumbered := named.no_number
    rw [Tagging.tokens_with_tokens] at unnumbered
    have apart : ¬LiesInRange front behind := by
      rintro ⟨-, ⟨gap, -, -, ⟨before, number, rfl, isNumber⟩, -⟩, -⟩
      exact unnumbered number (by simp) isNumber.labelled
    rw [(components_eq_pair_iff _ _ _).2 ⟨longerNamed, rfl, rfl⟩,
      (components_eq_pair_iff _ _ _).2 ⟨named, rfl, rfl⟩, Tagging.tokens_with_tokens,
      Tagging.tokens_with_tokens, first, second]
    simp [apart]
  case neg =>
    rw [components_of_one_street _ crossing, components_of_one_street _ (classified ▸ crossing),
      classified, Tagging.tokens_with_tokens, Tagging.tokens_with_tokens]
    constructor
    · intro same inRange
      apply Bag.of_first_street_part_range front behind ignored inRange
      rw [← settle_number, Components.single.inj same, settle_number]
    · intro apart
      rw [Bag.of_first_street_insert front behind ignored apart]

end Interpretation

/-- New labels do not interfere: a token under one changes no classification, and it changes the
components only where it parts a range. -/
theorem parse_with_ignored_token (text : Text) (tagging : Tagging) (front behind : List Token)
    (token : Token) (parted : tagging.tokens = front ++ behind) (ignored : token.IsIgnored) :
    let plain := (parse (.fixed tagging) text).value
    let longer :=
      (parse (.fixed (tagging.withTokens (front ++ token :: behind))) text).value
    longer.classification = plain.classification ∧
      (longer.components ≠ plain.components ↔ cleanText text ≠ [] ∧ LiesInRange front behind) := by
  have same : tagging = tagging.withTokens (front ++ behind) := by
    rw [← parted, Tagging.with_own_tokens]
  by_cases empty : cleanText text = []
  · simp [parse_of_no_text _ text empty, empty]
  · have classified := classify_insert front behind ignored tagging
    have changed := Interpretation.components_insert_iff tagging front behind token ignored
    rw [← same] at classified changed
    rw [parse_of_text _ text empty, parse_of_text _ text empty]
    constructor
    · rw [Parsed.classification, Parsed.classification, Interpretation.classification_of_tagging,
        Interpretation.classification_of_tagging]
      exact classified
    · exact ⟨fun differ => ⟨empty, not_not.1 (mt changed.2 differ)⟩,
        fun inRange same => changed.1 same inRange.2⟩

def janeDoe : Token := ⟨"Recipient".toList, "Jane Doe".toList⟩

def rangeFront : List Token := [.ofComponent .number ['5'], .separator ['&']]

def rangeBehind : List Token :=
  [.ofComponent .number ['7'], .ofComponent .streetName "Main".toList]

theorem jane_doe_in_range :
    janeDoe.IsIgnored ∧ LiesInRange rangeFront rangeBehind ∧
      let plain := (parse (.fixed (.parsed .streetAddress (rangeFront ++ rangeBehind)))
        "5 & 7 Main".toList).value
      let longer := (parse (.fixed (.parsed .streetAddress (rangeFront ++ janeDoe :: rangeBehind)))
        "5 & 7 Main".toList).value
      longer.classification = plain.classification ∧ longer.components ≠ plain.components := by
  have ignored : janeDoe.IsIgnored := ⟨by decide, by decide, by decide⟩
  have inRange : LiesInRange rangeFront rangeBehind := by
    refine ⟨[.separator ['&']], ⟨[.separator ['&']], [], rfl, ?_, ?_⟩, by decide, by decide⟩
    · exact ⟨[], .ofComponent .number ['5'], rfl, by decide, by decide⟩
    · exact ⟨.ofComponent .number ['7'], [.ofComponent .streetName "Main".toList], rfl, by decide,
        by decide⟩
  have read := parse_with_ignored_token "5 & 7 Main".toList
    (.parsed .streetAddress (rangeFront ++ rangeBehind)) rangeFront rangeBehind janeDoe rfl ignored
  exact ⟨ignored, inRange, read.1, read.2.2 ⟨by decide +kernel, inRange⟩⟩

end PostalAddress
