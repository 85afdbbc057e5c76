import PostalAddress.Proofs.CrossingTokens
import PostalAddress.Proofs.CutText
import PostalAddress.Proofs.FirstConnector

/-!
What becomes of a text that the locator cannot read. Without a connector it is an empty street
address. With one it is an intersection if both of its streets are named: labelling takes words off
both ends of a street and leaves it a name if there is any word at all, so only a house number, or a
side without words, keeps the text from being one. Nothing in the last line matters.
-/

namespace PostalAddress

namespace Text

/-- The words of a text are all of it but the blanks. -/
theorem words_flatten (text : Text) :
    text.words.flatten = text.filter fun letter => !isBlank letter := by
  rw [words, List.flatten_filter_not_isEmpty, split_on_flatten]

theorem words_eq_nil_iff (text : Text) : text.words = [] ↔ text.isAllBlank = true := by
  have letters : text.words.flatten = [] ↔ text.isAllBlank = true := by
    simp [words_flatten, isAllBlank]
  rw [← letters]
  constructor
  · intro empty
    rw [empty]
    rfl
  · intro empty
    by_contra given
    obtain ⟨word, member⟩ := List.exists_mem_of_ne_nil _ given
    exact (word_letters text word member).1 (List.flatten_eq_nil_iff.1 empty word member)

/-- Digits and at most one more word character. -/
def IsHouseNumber (word : Text) : Prop :=
  ∃ digits mark, word = digits ++ mark ∧ digits ≠ [] ∧ (∀ digit ∈ digits, isDigit digit = true) ∧
    mark.length ≤ 1 ∧ ∀ letter ∈ mark, isWordCharacter letter = true

/-- Two or more words, the first of which is a house number. -/
def BeginsWithNumber (text : Text) : Prop :=
  ∃ number next rest, text.words = number :: next :: rest ∧ number.IsHouseNumber

/-- A side of an intersection that has a street and no house number. -/
structure NamesStreet (text : Text) : Prop where
  solid : text.isAllBlank = false
  numberless : ¬text.BeginsWithNumber

end Text

theorem is_house_number_iff (word : Text) : isHouseNumber word = true ↔ word.IsHouseNumber := by
  rw [isHouseNumber, Text.readDigits?]
  constructor
  · intro number
    split at number
    case h_1 => cases number
    case h_2 digits rest read =>
      split at read
      case h_1 => cases read
      case h_2 given =>
        cases read
        rw [Bool.and_eq_true, decide_eq_true_eq] at number
        refine ⟨_, _, List.takeWhile_append_dropWhile.symm, given, ?_, number.1,
          List.all_eq_true.1 number.2⟩
        intro digit member
        exact List.mem_takeWhile_imp member
  · intro number
    obtain ⟨digits, mark, parted, given, allDigits, short, wordCharacters⟩ := number
    subst parted
    rw [List.takeWhile_append_of_pos allDigits, List.dropWhile_append_of_pos allDigits]
    have behind : (mark.dropWhile isDigit).length ≤ 1 ∧
        ∀ letter ∈ mark.dropWhile isDigit, isWordCharacter letter = true := by
      have within := List.dropWhile_sublist (l := mark) isDigit
      exact ⟨le_trans within.length_le short, fun letter member =>
        wordCharacters letter (within.subset member)⟩
    obtain ⟨digit, others, begins⟩ := List.exists_cons_of_ne_nil given
    subst begins
    simpa using behind

theorem take_first_some_iff (kind : Text → Bool) (words : List Text) (first : Text) :
    (takeFirst kind words).1 = some first ↔
      ∃ next rest, words = first :: next :: rest ∧ kind first = true := by
  unfold takeFirst
  split
  case h_1 head next rest =>
    split
    case isTrue ofKind =>
      constructor
      · intro same
        cases same
        exact ⟨next, rest, rfl, ofKind⟩
      · intro ⟨_, _, same, _⟩
        cases same
        rfl
    case isFalse other =>
      constructor
      · intro impossible
        cases impossible
      · intro ⟨_, _, same, ofKind⟩
        cases same
        exact absurd ofKind other
  case h_2 few =>
    constructor
    · intro impossible
      cases impossible
    · intro ⟨next, rest, same, _⟩
      exact absurd same (few first next rest)

theorem take_first_nil_iff (kind : Text → Bool) (words : List Text) :
    (takeFirst kind words).2 = [] ↔ words = [] := by
  unfold takeFirst
  split
  case h_1 => split <;> simp
  case h_2 => rfl

theorem take_last_nil_iff (kind : Text → Bool) (words : List Text) :
    (takeLast kind words).2 = [] ↔ words = [] := by
  have kept := take_first_nil_iff kind words.reverse
  rw [List.reverse_eq_nil_iff] at kept
  rw [← kept]
  exact List.reverse_eq_nil_iff

namespace StreetWords

theorem name_nil_iff (words : List Text) : (ofWords words).name = [] ↔ words = [] := by
  simp only [ofWords, take_first_nil_iff, take_last_nil_iff]

theorem number_given_iff (text : Text) :
    (∃ number, (ofWords text.words).number = some number) ↔ text.BeginsWithNumber := by
  have first (number : Text) : (ofWords text.words).number = some number ↔
      ∃ next rest, text.words = number :: next :: rest ∧ number.IsHouseNumber := by
    simp only [ofWords, take_first_some_iff, is_house_number_iff]
  simp only [first, Text.BeginsWithNumber]

instance (text : Text) : Decidable text.BeginsWithNumber :=
  decidable_of_iff ((takeFirst isHouseNumber text.words).1.isSome = true)
    (Option.isSome_iff_exists.trans (number_given_iff text))

instance (text : Text) : Decidable text.NamesStreet :=
  decidable_of_iff (text.isAllBlank = false ∧ ¬text.BeginsWithNumber)
    ⟨fun ⟨solid, numberless⟩ => ⟨solid, numberless⟩,
      fun street => ⟨street.solid, street.numberless⟩⟩

example : Text.NamesStreet "12".toList ∧ ¬Text.NamesStreet "12b Elm".toList := by
  decide +kernel

variable (label : Component → Text)

theorem number_listed (street : StreetWords) (number : Text)
    (given : street.number = some number) :
    .ofComponent .number number ∈ street.tokens label := by
  simp [tokens, given]

theorem name_listed (street : StreetWords) (given : Text.unwords street.name ≠ []) :
    ⟨label .streetName, Text.unwords street.name⟩ ∈ street.tokens label := by
  simp [tokens, Text.present_given _ given]

/-- Of the labels of a street, that of a house number alone tells of one. -/
theorem number_of_address_only (street : StreetWords) (token : Token)
    (apart : ∀ component ∈ Component.crossingFields, ∀ part ∈ Component.addressOnly,
      label component ≠ part.label)
    (member : token ∈ street.tokens label) (addressOnly : token.isAddressOnly = true) :
    street.number = some token.text := by
  obtain ⟨part, listed, labelled⟩ := token.is_address_only_iff.1 addressOnly
  have other (component : Component) (field : component ∈ Component.crossingFields)
      (text? : Option Text) : token ∉ (text?.map (Token.mk (label component))).toList := by
    intro inPart
    obtain ⟨_, _, same⟩ := Option.map_eq_some_iff.1 (Option.mem_toList.1 inPart)
    rw [← same] at labelled
    exact apart component field part listed labelled
  simp only [tokens, List.mem_append, other .predirectional (by decide),
    other .streetName (by decide), other .posttype (by decide),
    other .postdirectional (by decide), or_false] at member
  obtain ⟨number, given, same⟩ := Option.map_eq_some_iff.1 (Option.mem_toList.1 member)
  rw [given, ← same]
  rfl

end StreetWords

theorem Text.unwords_given (pieces : List Text) (given : pieces ≠ [])
    (solid : ∀ piece ∈ pieces, piece ≠ []) : unwords pieces ≠ [] := by
  cases pieces with
  | nil => exact absurd rfl given
  | cons piece others =>
      have first := solid piece (.head _)
      cases others with
      | nil => simpa [unwords] using first
      | cons next rest => simp [unwords, first]

section tagStreet

variable (label : Component → Text) (text : Text)

theorem tag_street_address_only_iff
    (apart : ∀ component ∈ Component.crossingFields, ∀ part ∈ Component.addressOnly,
      label component ≠ part.label) :
    (∃ token ∈ tagStreet label text, token.isAddressOnly = true) ↔ text.BeginsWithNumber := by
  rw [← StreetWords.number_given_iff]
  constructor
  · intro ⟨token, member, addressOnly⟩
    exact ⟨_, StreetWords.number_of_address_only label _ token apart member addressOnly⟩
  · intro ⟨number, given⟩
    exact ⟨_, StreetWords.number_listed label _ number given, rfl⟩

theorem tag_street_name_iff :
    (∃ token ∈ tagStreet label text, token.label = label .streetName) ↔
      text.isAllBlank = false := by
  rw [← Bool.not_eq_true, ← Text.words_eq_nil_iff]
  constructor
  · intro ⟨token, member, _⟩ empty
    rw [tagStreet, empty] at member
    cases member
  · intro given
    have named := (StreetWords.name_nil_iff text.words).not.2 given
    have words : ∀ word ∈ (StreetWords.ofWords text.words).name, word ≠ [] := by
      intro word listed
      exact (Text.word_letters text word (StreetWords.name_words _ word listed)).1
    exact ⟨_, StreetWords.name_listed label _ (Text.unwords_given _ named words), rfl⟩

end tagStreet

namespace Crossing

theorem second_street_eq (crossing : Crossing) :
    crossing.secondStreet = crossing.behind.takeWhile (· ≠ ',') := by
  rw [secondStreet]
  cases cut : Text.cutAt? (· = ',') crossing.behind with
  | none =>
      have absent := (Text.cut_at_eq_none_iff ',' _).1 cut
      exact (Text.take_while_uncut ',' _ absent).1.symm
  | some parts =>
      obtain ⟨parted, absent⟩ := (Text.cut_at_eq_some_iff ',' _ _ _).1 cut
      rw [parted, (Text.take_while_cut ',' _ _ absent).1]
      rfl

variable (crossing : Crossing)

theorem parts_address_only_iff :
    (∃ token ∈ crossing.parts.tokens, token.isAddressOnly = true) ↔
      crossing.before.BeginsWithNumber ∨ crossing.secondStreet.BeginsWithNumber := by
  have firstApart : ∀ component ∈ Component.crossingFields, ∀ part ∈ Component.addressOnly,
      component.label ≠ part.label := by decide
  have secondApart : ∀ component ∈ Component.crossingFields, ∀ part ∈ Component.addressOnly,
      Label.ofSecondStreet component ≠ part.label := by decide
  have placeApart : ∀ component ∈ Component.locationFields, ∀ part ∈ Component.addressOnly,
      component.label ≠ part.label := by decide
  have separator (connector : Text) : (Token.separator connector).isAddressOnly = false := rfl
  have place : ∀ token ∈ crossing.parts.place, token.isAddressOnly = false := by
    intro token member
    have located := crossing.parts_labelled.place token member
    obtain ⟨component, listed, label⟩ := token.location_labelled located
    rw [← Bool.not_eq_true, Token.is_address_only_iff]
    intro ⟨part, ofAddress, same⟩
    exact placeApart component listed part ofAddress (label.trans same)
  rw [← tag_street_address_only_iff Component.label _ firstApart,
    ← tag_street_address_only_iff Label.ofSecondStreet _ secondApart]
  constructor
  · intro ⟨token, member, addressOnly⟩
    simp only [CrossingTokens.tokens, List.mem_append, List.mem_cons] at member
    rcases member with inFirst | same | inSecond | inPlace
    · exact .inl ⟨token, inFirst, addressOnly⟩
    · rw [same, separator] at addressOnly
      cases addressOnly
    · exact .inr ⟨token, inSecond, addressOnly⟩
    · rw [place token inPlace] at addressOnly
      cases addressOnly
  · intro numbered
    rcases numbered with ⟨token, member, addressOnly⟩ | ⟨token, member, addressOnly⟩
    · exact ⟨token, by simp [CrossingTokens.tokens, parts, member], addressOnly⟩
    · exact ⟨token, by simp [CrossingTokens.tokens, parts, member], addressOnly⟩

theorem parts_first_name_iff :
    (∃ token ∈ crossing.parts.tokens, token.label = Component.streetName.label) ↔
      crossing.before.isAllBlank = false := by
  rw [← tag_street_name_iff Component.label]
  constructor
  · intro ⟨token, member, name⟩
    exact ⟨token, (crossing.parts_labelled.named token member).1 name, name⟩
  · intro ⟨token, member, name⟩
    exact ⟨token, by simp [CrossingTokens.tokens, parts, member], name⟩

theorem parts_second_name_iff :
    (∃ token ∈ crossing.parts.tokens, token.label = Label.ofSecondStreet .streetName) ↔
      crossing.secondStreet.isAllBlank = false := by
  rw [← tag_street_name_iff Label.ofSecondStreet]
  constructor
  · intro ⟨token, member, name⟩
    exact ⟨token, (crossing.parts_labelled.named token member).2 name, name⟩
  · intro ⟨token, member, name⟩
    exact ⟨token, by simp [CrossingTokens.tokens, parts, member], name⟩

/-- Both streets are named, whatever the last line is. -/
theorem names_two_streets_iff :
    (Tagging.parsed .intersection crossing.parts.tokens).NamesTwoStreets ↔
      crossing.before.NamesStreet ∧ crossing.secondStreet.NamesStreet := by
  have numberless : (∀ token ∈ crossing.parts.tokens, token.isAddressOnly = false) ↔
      ¬crossing.before.BeginsWithNumber ∧ ¬crossing.secondStreet.BeginsWithNumber := by
    rw [← not_or, ← parts_address_only_iff]
    simp
  have first : crossing.parts.tokens.any Token.isStreetName = true ↔
      crossing.before.isAllBlank = false := by
    rw [← parts_first_name_iff]
    simp [Token.isStreetName]
  have second : crossing.parts.tokens.any Token.isSecondStreetName = true ↔
      crossing.secondStreet.isAllBlank = false := by
    rw [← parts_second_name_iff]
    simp [Token.isSecondStreetName]
  rw [intersection_names_two_streets_iff, numberless, first, second]
  constructor
  · intro streets
    obtain ⟨⟨firstFree, secondFree⟩, firstSolid, secondSolid⟩ := streets
    exact ⟨⟨firstSolid, firstFree⟩, ⟨secondSolid, secondFree⟩⟩
  · intro streets
    obtain ⟨first, second⟩ := streets
    exact ⟨⟨first.numberless, second.numberless⟩, first.solid, second.solid⟩

end Crossing

theorem Text.HasConnector.solid {text : Text} (crossed : text.HasConnector) :
    text.isAllBlank = false := by
  obtain ⟨front, rest, connector, behind, parted, begins⟩ := crossed
  obtain ⟨gap, back, split, isConnector, _⟩ := begins
  obtain ⟨letter, others, same, solid⟩ := isConnector.begins
  exact solid_of_letter text letter (by simp [parted, split, same]) solid

namespace Tagger

variable (locate : Locator) (text : Text)

theorem locating_unlocated (solid : text.isAllBlank = false)
    (single : DualNumber.ofText? text = none) (unread : locate text = none) :
    (locating locate text).value = .parsed (tagUnlocated text).1 (tagUnlocated text).2 := by
  simp [locating, single, tagWhole, solid, unread]

theorem tag_unlocated_crossing (crossing : Crossing)
    (read : Crossing.ofText? text = some crossing) :
    tagUnlocated text = (.intersection, crossing.parts.tokens) := by
  rw [tagUnlocated, bareIntersectionTokens?, read]
  rfl

end Tagger

theorem Interpretation.of_no_tokens :
    ofTagging (.parsed .streetAddress []) = streetAddress .empty := by
  decide +kernel

/-- Whether a text that the locator cannot read is an intersection is decided by the two sides of
its first connector. -/
theorem unlocated_classification (locate : Locator) (text : Text)
    (solid : (cleanText text).isAllBlank = false)
    (single : DualNumber.ofText? (cleanText text) = none)
    (unread : locate (cleanText text) = none) :
    (¬(cleanText text).HasConnector →
        (parse (.locating locate) text).value = ⟨text, .streetAddress .empty⟩) ∧
      ((cleanText text).HasConnector → ∃ crossing : Crossing,
        (∀ other : Crossing, other.IsFirstIn (cleanText text) ↔ other = crossing) ∧
        ((parse (.locating locate) text).value.classification = .intersection ↔
          crossing.before.NamesStreet ∧ Text.NamesStreet (crossing.behind.takeWhile (· ≠ ','))) ∧
        ((parse (.locating locate) text).value.classification ≠ .intersection →
          ∃ doubt, (parse (.locating locate) text).value.classification = .ambiguous doubt)) := by
  have given : cleanText text ≠ [] := by
    intro empty
    rw [empty] at solid
    cases solid
  have tagged := Tagger.locating_unlocated locate (cleanText text) solid single unread
  rw [parse_of_text _ text given, tagged]
  constructor
  · intro lacking
    have whole := (Crossing.of_text_eq_none_iff _).2 lacking
    rw [Tagger.tagUnlocated, bareIntersectionTokens?, whole, Option.map_none,
      Interpretation.of_no_tokens]
  · intro crossed
    obtain ⟨crossing, read⟩ := (Text.has_connector_iff _).1 crossed
    refine ⟨crossing, ?_, ?_⟩
    · intro other
      rw [← Crossing.of_text_eq_some_iff, read, Option.some.injEq, eq_comm]
    · rw [Tagger.tag_unlocated_crossing _ crossing read, ← crossing.second_street_eq,
        ← crossing.names_two_streets_iff, Parsed.classification,
        Interpretation.classification_of_tagging, classify]
      rcases classify_intersection_cases crossing.parts.tokens with
        ⟨named, both⟩ | ⟨⟨doubt, ambiguous⟩, unnamed⟩
      · simp [named, both]
      · simp [ambiguous, unnamed]

theorem one_and_elm_classified :
    let text := "1 & Elm St, Alton, IL".toList
    (cleanText text).isAllBlank = false ∧ DualNumber.ofText? (cleanText text) = none ∧
      (cleanText text).HasConnector ∧
      (parse (.locating fun _ => none) text).value.classification = .intersection := by
  intro text
  have solid : (cleanText text).isAllBlank = false := by decide +kernel
  have single : DualNumber.ofText? (cleanText text) = none := by decide +kernel
  have crossed : (cleanText text).HasConnector := by decide +kernel
  have first : Crossing.IsFirstIn ⟨['1'], ['&'], "Elm St, Alton, IL".toList⟩ (cleanText text) := by
    decide +kernel
  obtain ⟨crossing, firstOnly, both, _⟩ :=
    (unlocated_classification (fun _ => none) text solid single rfl).2 crossed
  rw [← (firstOnly _).1 first] at both
  exact ⟨solid, single, crossed, both.2 (by decide +kernel)⟩

end PostalAddress
