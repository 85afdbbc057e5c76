import PostalAddress.Proofs.Abbreviation
import PostalAddress.Proofs.BareCrossings
import PostalAddress.Proofs.JoinedWords
import Mathlib.Data.List.Infix

/-!
How the last line of an intersection is read from its end. Its last word may be a ZIP code, the
words in front of it may end in the name of a state, and the others are the city. The names of
states have up to five words, but no more than the last two words are taken for one.
-/

namespace PostalAddress

/-- A word that is a ZIP code of five digits, or of five digits, a hyphen and four digits. -/
inductive IsZipWord : Text → Text → Text → Prop where
  | five (zip : Text) (digits : isDigits 5 zip = true) : IsZipWord zip zip []
  | nine (zip plus4 : Text) (digits : isDigits 5 zip = true) (addOn : isDigits 4 plus4 = true) :
      IsZipWord (zip ++ '-' :: plus4) zip plus4

theorem digits_no_hyphen (count : Nat) (text : Text) (digits : isDigits count text = true) :
    '-' ∉ text := by
  intro member
  exact absurd (((is_digits_iff count text).1 digits).2 '-' member) (by decide)

theorem zip_word_eq_some_iff (word zip plus4 : Text) :
    zipWord? word = some (zip, plus4) ↔ IsZipWord word zip plus4 := by
  constructor
  · intro read
    rw [zipWord?] at read
    split at read
    case h_1 zone addOn cut =>
      obtain ⟨parted, _⟩ := (Text.cut_at_eq_some_iff '-' _ _ _).1 cut
      obtain ⟨digits, same⟩ := Option.ite_none_right_eq_some.1 read
      obtain ⟨zoneDigits, addOnDigits⟩ := Bool.and_eq_true_iff.1 digits
      cases same
      rw [parted]
      exact .nine zip plus4 zoneDigits addOnDigits
    case h_2 =>
      obtain ⟨digits, same⟩ := Option.ite_none_right_eq_some.1 read
      cases same
      exact .five word digits
  · intro zipWord
    cases zipWord with
    | five _ digits =>
        have whole := (Text.cut_at_eq_none_iff '-' _).2 (digits_no_hyphen 5 _ digits)
        simp [zipWord?, zipWord?.cutAtHyphen?, whole, digits]
    | nine _ _ digits addOn =>
        have cut := (Text.cut_at_eq_some_iff '-' (zip ++ '-' :: plus4) zip plus4).2
          ⟨rfl, digits_no_hyphen 5 _ digits⟩
        simp [zipWord?, zipWord?.cutAtHyphen?, cut, digits, addOn]

/-- The words of a line in front of its ZIP code, and the code with its extension. Both are empty
where the line does not end in one. -/
inductive IsZipParted : List Text → List Text → Text → Text → Prop where
  | coded (front : List Text) (word zip plus4 : Text) (zipWord : IsZipWord word zip plus4) :
      IsZipParted (front ++ [word]) front zip plus4
  | uncoded (words : List Text)
      (none : ∀ word zip plus4, words.getLast? = some word → ¬IsZipWord word zip plus4) :
      IsZipParted words words [] []

theorem IsZipParted.front_words {words front : List Text} {zip plus4 : Text}
    (parted : IsZipParted words front zip plus4) : ∀ word ∈ front, word ∈ words := by
  intro word member
  cases parted with
  | coded => exact List.mem_append_left _ member
  | uncoded => exact member

/-- The last words of a line that together are a term of the table of states, in any spelling, and
the words in front of them. -/
structure IsStateEnd (words city state : List Text) : Prop where
  parted : words = city ++ state
  known : states.recognizes (Text.unwords state) = true

/-- The most words at the end of a line that are the name of a state. -/
structure IsLongestStateEnd (words city state : List Text) : Prop
    extends IsStateEnd words city state where
  longest : ∀ otherCity other, IsStateEnd words otherCity other → other.length ≤ state.length

theorem IsStateEnd.given {words city state : List Text} (ends : IsStateEnd words city state) :
    state ≠ [] := by
  rintro rfl
  have known := ends.known
  rw [Text.unwords, List.intercalate_nil, AbbreviationTable.recognizes, normalize_nil,
    AbbreviationTable.contains, AbbreviationTable.states_closed.named] at known
  cases known

theorem state_words_eq_some_iff (words city : List Text) (count : Nat) (name : Text) :
    stateWords? words count = some (name, city) ↔
      ∃ state, IsStateEnd words city state ∧ state.length = count ∧ Text.unwords state = name := by
  constructor
  · intro read
    obtain ⟨known, same⟩ := Option.ite_none_right_eq_some.1 read
    obtain ⟨enough, recognized⟩ := Bool.and_eq_true_iff.1 known
    cases same
    refine ⟨_, ⟨(List.take_append_drop _ words).symm, recognized⟩, ?_, rfl⟩
    have within := of_decide_eq_true enough
    rw [List.length_drop]
    omega
  · intro ⟨state, ends, size, named⟩
    subst size named
    have front : words.length - state.length = city.length := by
      rw [ends.parted, List.length_append]
      omega
    have last : words.drop city.length = state := by rw [ends.parted, List.drop_left]
    have first : words.take city.length = city := by rw [ends.parted, List.take_left]
    have enough : state.length ≤ words.length := by
      rw [ends.parted, List.length_append]
      omega
    simp [stateWords?, front, last, first, enough, ends.known]

namespace LastLine

def wordsOf (text : Text) : List Text :=
  Text.words (text.map fun letter => if letter = ',' then ' ' else letter)

theorem words_of_solid (text : Text) : ∀ word ∈ wordsOf text, word.IsWord :=
  Text.mem_words_word _

theorem of_words_parted {words front : List Text} {zip plus4 : Text}
    (parted : IsZipParted words front zip plus4) : ofWords words = ofCityWords front zip plus4 := by
  cases parted with
  | coded front word zip plus4 zipWord =>
      have read := (zip_word_eq_some_iff word zip plus4).2 zipWord
      rw [ofWords, List.getLast?_concat, Option.bind_some, read, List.dropLast_concat]
  | uncoded words none =>
      have unread : words.getLast?.bind zipWord? = Option.none := by
        rw [Option.bind_eq_none_iff]
        intro word last
        cases read : zipWord? word with
        | none => rfl
        | some parts =>
            exact absurd ((zip_word_eq_some_iff word _ _).1 read) (none word _ _ last)
      rw [ofWords, unread]

variable {words : List Text} (zip plus4 : Text)

theorem of_city_words_longest {city state : List Text} (ends : IsStateEnd words city state)
    (short : state.length ≤ 2)
    (longest : ∀ otherCity other, IsStateEnd words otherCity other → other.length ≤ 2 →
      other.length ≤ state.length) :
    ofCityWords words zip plus4 = ⟨Text.unwords city, Text.unwords state, zip, plus4⟩ := by
  have positive : 0 < state.length := List.length_pos_iff.2 ends.given
  have read := (state_words_eq_some_iff words city state.length _).2 ⟨state, ends, rfl, rfl⟩
  have two : state.length = 2 ∨ stateWords? words 2 = none ∧ state.length = 1 := by
    by_cases size : state.length = 2
    · exact .inl size
    · refine .inr ⟨?_, by omega⟩
      cases longer : stateWords? words 2 with
      | none => rfl
      | some parts =>
          obtain ⟨other, otherEnds, otherSize, _⟩ := (state_words_eq_some_iff _ _ _ _).1 longer
          have bound := longest _ other otherEnds (by omega)
          omega
  rcases two with size | ⟨unread, size⟩
  · rw [size] at read
    simp [ofCityWords, read]
  · rw [size] at read
    simp [ofCityWords, unread, read]

/-- A name of one or two words is read, or none. -/
theorem of_city_words_cases (words : List Text) :
    (∃ city state, IsStateEnd words city state ∧ state.length ≤ 2 ∧
        ofCityWords words zip plus4 = ⟨Text.unwords city, Text.unwords state, zip, plus4⟩) ∨
      ofCityWords words zip plus4 = ⟨Text.unwords words, [], zip, plus4⟩ := by
  rw [ofCityWords]
  split
  case h_1 name city found =>
    obtain ⟨count, listed, read⟩ := List.exists_of_findSome?_eq_some found
    obtain ⟨state, ends, size, named⟩ := (state_words_eq_some_iff _ _ _ _).1 read
    refine .inl ⟨city, state, ends, ?_, by rw [named]⟩
    rw [size]
    revert listed
    simp
    omega
  case h_2 => exact .inr rfl

/-- The longest name at the end of a line is read unless it has more than two words. -/
theorem of_city_words_eq_iff {city state : List Text} (longest : IsLongestStateEnd words city state)
    (solid : ∀ word ∈ words, word.IsWord) :
    ofCityWords words zip plus4 = ⟨Text.unwords city, Text.unwords state, zip, plus4⟩ ↔
      state.length ≤ 2 := by
  have within {front last : List Text} (ends : IsStateEnd words front last) :
      ∀ word ∈ last, word.IsWord := by
    intro word member
    exact solid word (by simp [ends.parted, member])
  constructor
  · intro read
    obtain ⟨otherCity, other, ends, short, same⟩ | same := of_city_words_cases zip plus4 words
    · have named := congrArg LastLine.state (read.symm.trans same)
      rw [Text.unwords_injective state other (within longest.toIsStateEnd) (within ends) named]
      exact short
    · have named := congrArg LastLine.state (read.symm.trans same)
      exact absurd (Text.unwords_injective state [] (within longest.toIsStateEnd) (by simp) named)
        longest.given
  · intro short
    apply of_city_words_longest zip plus4 longest.toIsStateEnd short
    intro otherCity other ends _
    exact longest.longest otherCity other ends

def partTokens (component : Component) (value : Text) : List Token :=
  ((Text.present? value).map (Token.ofComponent component)).toList

theorem tokens_eq (line : LastLine) :
    line.tokens = partTokens .city line.city ++ (partTokens .state line.state ++
      (partTokens .zipCode line.zip ++ partTokens .zipPlus4 line.plus4)) := by
  rw [tokens, List.filterMap_eq_flatMap_toList]
  simp [partTokens]

theorem filter_part_tokens (component part : Component) (value : Text) :
    (partTokens part value).filter (fun token => token.label = component.label) =
      if part = component then partTokens part value else [] := by
  by_cases same : part = component
  · subst same
    cases value <;> simp [partTokens, Text.present?, Token.ofComponent]
  · have apart : part.label ≠ component.label :=
      fun equal => same (Component.label_injective equal)
    cases value <;> simp [partTokens, Text.present?, Token.ofComponent, apart, same]

theorem part_tokens_text (component : Component) (value : Text) :
    (partTokens component value).flatMap Token.text = value := by
  cases value <;> simp [partTokens, Text.present?, Token.ofComponent]

theorem tokens_injective (left right : LastLine) (same : left.tokens = right.tokens) :
    left = right := by
  have part (component : Component) := congrArg
    (fun tokens => (tokens.filter fun token => token.label = component.label).flatMap Token.text)
    same
  simp only [tokens_eq, List.filter_append, filter_part_tokens] at part
  have city := part .city
  have state := part .state
  have zip := part .zipCode
  have plus4 := part .zipPlus4
  simp [part_tokens_text] at city state zip plus4
  cases left
  cases right
  simp_all

end LastLine

/-- The location tokens of an intersection are those of its place. -/
theorem CrossingTokens.IsLabelled.location_tokens {crossing : CrossingTokens}
    (labelled : crossing.IsLabelled) :
    crossing.tokens.filter Token.isLocation = crossing.place := by
  have street (label : Component → Text) (tokens : List Token)
      (ofStreet : ∀ token ∈ tokens, token.IsOfStreet label)
      (apart : ∀ component ∈ Component.crossingFields, ∀ location ∈ Component.locationFields,
        location.label ≠ label component) : tokens.filter Token.isLocation = [] := by
    rw [List.filter_eq_nil_iff]
    intro token member located
    obtain ⟨location, listed, same⟩ := token.location_labelled located
    rcases (ofStreet token member).labelled with number | ⟨component, field, label⟩
    · have numberApart : ∀ location ∈ Component.locationFields,
          location.label ≠ Component.number.label := by decide
      exact numberApart location listed (same.trans number)
    · exact apart component field location listed (same.trans label)
  have first := street _ _ labelled.first (by decide)
  have second := street _ _ labelled.second (by decide)
  have place := List.filter_eq_self.2 labelled.place
  have separator : (Token.separator crossing.connector).isLocation = false := rfl
  simp [tokens, first, second, place, separator]

/-- The first comma behind the connector parts the second street from the last line. -/
theorem Crossing.parted_at_comma (crossing : Crossing) (street lastLine : Text)
    (cut : crossing.behind = street ++ ',' :: lastLine) (firstComma : ',' ∉ street) :
    crossing.secondStreet = street ∧ crossing.lastLine = lastLine := by
  rw [secondStreet, Crossing.lastLine, (Text.cut_at_eq_some_iff ',' _ _ _).2 ⟨cut, firstComma⟩]
  exact ⟨rfl, rfl⟩

theorem Tagger.unlocated_location_tokens (locate : Locator) (text : Text)
    (single : DualNumber.ofText? text = none) (unread : locate text = none) (crossing : Crossing)
    (first : crossing.IsFirstIn text) :
    (locating locate text).value.tokens.filter Token.isLocation =
      (LastLine.ofText crossing.lastLine).tokens := by
  have read := (Crossing.of_text_eq_some_iff text crossing).2 first
  have solid := (text.has_connector_iff.2 ⟨crossing, read⟩).solid
  rw [locating_unlocated locate text solid single unread,
    tag_unlocated_crossing text crossing read]
  exact crossing.parts_labelled.location_tokens

instance (words city state : List Text) : Decidable (IsStateEnd words city state) :=
  decidable_of_iff (words = city ++ state ∧ states.recognizes (Text.unwords state) = true)
    ⟨fun ⟨parted, known⟩ => ⟨parted, known⟩, fun ends => ⟨ends.parted, ends.known⟩⟩

instance (words city state : List Text) : Decidable (IsLongestStateEnd words city state) :=
  decidable_of_iff (IsStateEnd words city state ∧
      ∀ other ∈ words.tails, states.recognizes (Text.unwords other) = true →
        other.length ≤ state.length)
    ⟨fun ⟨ends, longest⟩ => ⟨ends, fun _ other otherEnds =>
        longest other ((List.mem_tails other words).2 ⟨_, otherEnds.parted.symm⟩) otherEnds.known⟩,
      fun longest => ⟨longest.toIsStateEnd, fun other member known => by
        obtain ⟨front, parted⟩ := (List.mem_tails other words).1 member
        exact longest.longest front other ⟨parted.symm, known⟩⟩⟩

/-- The last line of an unlocated intersection is read as the city and the longest name of a state
behind it exactly if the name has one word or two. -/
theorem longest_state_name_read_iff (locate : Locator) (text : Text)
    (single : DualNumber.ofText? text = none) (unread : locate text = none) (crossing : Crossing)
    (first : crossing.IsFirstIn text) (street lastLine : Text)
    (cut : crossing.behind = street ++ ',' :: lastLine) (firstComma : ',' ∉ street)
    (front : List Text) (zip plus4 : Text)
    (parted : IsZipParted (LastLine.wordsOf lastLine) front zip plus4) (city state : List Text)
    (longest : IsLongestStateEnd front city state) :
    (Tagger.locating locate text).value.tokens.filter Token.isLocation =
        (LastLine.mk (Text.unwords city) (Text.unwords state) zip plus4).tokens ↔
      state.length ≤ 2 := by
  have frontSolid : ∀ word ∈ front, word.IsWord := by
    intro word member
    exact LastLine.words_of_solid lastLine word (parted.front_words word member)
  rw [Tagger.unlocated_location_tokens locate text single unread crossing first,
    (crossing.parted_at_comma street lastLine cut firstComma).2, LastLine.ofText,
    ← LastLine.wordsOf, LastLine.of_words_parted parted,
    ← LastLine.of_city_words_eq_iff zip plus4 longest frontSolid]
  constructor
  · exact LastLine.tokens_injective _ _
  · exact congrArg LastLine.tokens

theorem new_mexico_read :
    let text : Text := "Oak & Elm, Santa Fe, New Mexico 87501".toList
    DualNumber.ofText? text = none ∧
      (Tagger.locating (fun _ => none) text).value.tokens.filter Token.isLocation =
        [.ofComponent .city "Santa Fe".toList, .ofComponent .state "New Mexico".toList,
          .ofComponent .zipCode "87501".toList] := by
  intro text
  have single : DualNumber.ofText? text = none := by decide +kernel
  have first : Crossing.IsFirstIn ⟨"Oak".toList, ['&'],
      "Elm, Santa Fe, New Mexico 87501".toList⟩ text := by
    decide +kernel
  have parted : IsZipParted (LastLine.wordsOf " Santa Fe, New Mexico 87501".toList)
      ["Santa".toList, "Fe".toList, "New".toList, "Mexico".toList] "87501".toList [] := by
    have words : LastLine.wordsOf " Santa Fe, New Mexico 87501".toList =
        ["Santa".toList, "Fe".toList, "New".toList, "Mexico".toList] ++ ["87501".toList] := by
      decide +kernel
    rw [words]
    exact .coded _ _ _ _ (.five _ (by decide))
  have longest : IsLongestStateEnd ["Santa".toList, "Fe".toList, "New".toList, "Mexico".toList]
      ["Santa".toList, "Fe".toList] ["New".toList, "Mexico".toList] := by
    decide +kernel
  exact ⟨single, (longest_state_name_read_iff _ text single rfl _ first "Elm".toList
    " Santa Fe, New Mexico 87501".toList rfl (by decide) _ _ _ parted _ _ longest).2 (by decide)⟩

/-- A name of three words is left to the city. -/
theorem district_of_columbia_unread :
    let text : Text := "Oak & Elm, Washington, District of Columbia 20001".toList
    DualNumber.ofText? text = none ∧
      IsLongestStateEnd
        ["Washington".toList, "District".toList, "of".toList, "Columbia".toList]
        ["Washington".toList] ["District".toList, "of".toList, "Columbia".toList] ∧
      (Tagger.locating (fun _ => none) text).value.tokens.filter Token.isLocation =
        [.ofComponent .city "Washington District of Columbia".toList,
          .ofComponent .zipCode "20001".toList] := by
  decide +kernel

end PostalAddress
