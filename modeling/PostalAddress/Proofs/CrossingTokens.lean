import PostalAddress.Proofs.IntersectionValues
import PostalAddress.Proofs.SecondStreet
import PostalAddress.Proofs.StreetWords

/-!
The two streets of an intersection that the locating tagger finds. Whether it renames the fields of
a location or labels a text word by word, its tokens have one form: the first street, a connector,
the second street, and the place behind it. An intersection of this form has no house number, so
both of its bags have a street name, and only the second one has a place.
-/

namespace PostalAddress

/-- The tokens of two streets, of the connector between them and of the place behind them. -/
structure CrossingTokens where
  first : List Token
  connector : Text
  second : List Token
  place : List Token

namespace CrossingTokens

def tokens (crossing : CrossingTokens) : List Token :=
  crossing.first ++ .separator crossing.connector :: (crossing.second ++ crossing.place)

structure IsLabelled (crossing : CrossingTokens) : Prop where
  first : ∀ token ∈ crossing.first, token.IsOfStreet Component.label
  second : ∀ token ∈ crossing.second, token.IsOfStreet Label.ofSecondStreet
  place : ∀ token ∈ crossing.place, token.isLocation = true

end CrossingTokens

theorem split_house_number_solid (text number name : Text)
    (split : splitHouseNumber? text = some (number, name)) :
    number.isAllBlank = false ∧ name.isAllBlank = false := by
  obtain ⟨given, written⟩ := split_house_number_written text number name split
  constructor
  · rw [← written] at given ⊢
    exact Text.trim_solid number given
  · simp only [splitHouseNumber?, Option.bind_eq_bind, Option.bind_eq_some_iff, Prod.exists,
      Option.ite_none_right_eq_some, Option.some.injEq, Prod.mk.injEq, Bool.and_eq_true] at split
    obtain ⟨_, rest, _, ⟨⟨_, nameGiven⟩, _⟩, _, rfl⟩ := split
    exact Text.skip_blanks_solid _ (by simpa using nameGiven)

namespace Location

theorem tokens_solid (location : Location) (fields : FieldLabels) :
    ∀ token ∈ location.tokens fields, token.text.isAllBlank = false := by
  intro token member
  obtain ⟨field, _, found⟩ := List.mem_filterMap.1 member
  obtain ⟨text, present, rfl⟩ := Option.map_eq_some_iff.1 found
  obtain ⟨given, written⟩ := Text.present_eq_some _ _ present
  rw [← written] at given ⊢
  exact Text.trim_solid _ given

theorem house_number_solid (token : Token) (number name : Text)
    (found : houseNumber? token = some (number, name)) :
    number.isAllBlank = false ∧ name.isAllBlank = false :=
  split_house_number_solid _ _ _ (Option.ite_none_right_eq_some.1 found).2

theorem side_tokens_of_street (location : Location) (side : StreetSide)
    (label : Component → Text) :
    ∀ token ∈ location.sideTokens (.street side label), token.IsOfStreet label := by
  intro token member
  rcases List.mem_append.1 member with number | other
  · obtain ⟨source, _, found⟩ := List.mem_filterMap.1 number
    obtain ⟨⟨digits, name⟩, split, rfl⟩ := Option.map_eq_some_iff.1 found
    exact ⟨(house_number_solid source digits name split).1, .inl rfl⟩
  · obtain ⟨source, listed, rfl⟩ := List.mem_map.1 other
    have inFields : source.label ∈ Component.crossingFields.map label :=
      location.tokens_labelled _ source listed
    obtain ⟨component, street, same⟩ := List.mem_map.1 inFields
    have labelled : ∃ component ∈ Component.crossingFields, source.label = label component :=
      ⟨component, street, same.symm⟩
    split
    case h_1 digits name split =>
      exact ⟨(house_number_solid source digits name split).2, .inr labelled⟩
    case h_2 => exact ⟨location.tokens_solid _ source listed, .inr labelled⟩

def crossing (location : Location) (connector : Text) : CrossingTokens where
  first := location.sideTokens (.street .first Component.label)
  connector := connector
  second := location.sideTokens (.street .second Label.ofSecondStreet)
  place := location.tokens .place

theorem crossing_labelled (location : Location) (connector : Text) :
    (location.crossing connector).IsLabelled where
  first := location.side_tokens_of_street .first Component.label
  second := location.side_tokens_of_street .second Label.ofSecondStreet
  place token member := by
    have inFields : token.label ∈ Component.locationFields.map Component.label :=
      location.tokens_labelled .place token member
    obtain ⟨component, located, same⟩ := List.mem_map.1 inFields
    exact List.any_eq_true.2 ⟨component, located, decide_eq_true same⟩

end Location

namespace Crossing

def secondStreet (crossing : Crossing) : Text :=
  ((Text.cutAt? (· = ',') crossing.behind).getD (crossing.behind, [])).1

def lastLine (crossing : Crossing) : Text :=
  ((Text.cutAt? (· = ',') crossing.behind).getD (crossing.behind, [])).2

def parts (crossing : Crossing) : CrossingTokens where
  first := tagStreet Component.label crossing.before
  connector := crossing.connector
  second := tagStreet Label.ofSecondStreet crossing.secondStreet
  place := (LastLine.ofText crossing.lastLine).tokens

theorem parts_labelled (crossing : Crossing) : crossing.parts.IsLabelled where
  first := tag_street_of_street Component.label _
  second := tag_street_of_street Label.ofSecondStreet _
  place token member := by
    obtain ⟨⟨component, value⟩, listed, found⟩ := List.mem_filterMap.1 member
    obtain ⟨text, _, rfl⟩ := Option.map_eq_some_iff.1 found
    have located : component ∈ Component.locationFields := by
      simp only [List.mem_cons, List.not_mem_nil, or_false, Prod.mk.injEq] at listed
      rcases listed with ⟨rfl, _⟩ | ⟨rfl, _⟩ | ⟨rfl, _⟩ | ⟨rfl, _⟩ <;> decide
    exact List.any_eq_true.2 ⟨component, located, decide_eq_true rfl⟩

end Crossing

namespace Streams

theorem of_tokens_front (front rest : List Token)
    (stays : ∀ token ∈ front, token.turns = false ∧ token.isLocation = false) :
    ofTokens false (front ++ rest) =
      ⟨front ++ (ofTokens false rest).first, (ofTokens false rest).second⟩ := by
  induction front with
  | nil => rfl
  | cons token others induction =>
      obtain ⟨stay, noLocation⟩ := stays token (.head _)
      obtain ⟨noSeparator, noSecond⟩ := Bool.or_eq_false_iff.1 stay
      have tail := induction fun other member => stays other (.tail _ member)
      simp [ofTokens, noSeparator, noSecond, noLocation, tail, consFirst]

theorem of_tokens_second (second rest : List Token)
    (ofSecond : ∀ token ∈ second, token.isSecondStreet = true) :
    ofTokens true (second ++ rest) =
      ⟨(ofTokens true rest).first,
        second.map Token.asFirstStreet ++ (ofTokens true rest).second⟩ := by
  induction second with
  | nil => rfl
  | cons token others induction =>
      have tail := induction fun other member => ofSecond other (.tail _ member)
      simp [ofTokens, ofSecond token (.head _), tail, consSecond]

theorem of_tokens_place (place : List Token)
    (located : ∀ token ∈ place, token.isLocation = true) :
    ofTokens true place = ⟨[], place⟩ := by
  induction place with
  | nil => rfl
  | cons token others induction =>
      have tail := induction fun other member => located other (.tail _ member)
      have location := located token (.head _)
      have stays : token.turns = false := by
        cases turns : token.turns with
        | false => rfl
        | true =>
            rw [token.turn_no_location turns] at location
            cases location
      obtain ⟨noSeparator, noSecond⟩ := Bool.or_eq_false_iff.1 stays
      simp [ofTokens, noSeparator, noSecond, location, tail, consSecond]

end Streams

theorem Token.IsOfStreet.part {label : Component → Text} {token : Token}
    (ofStreet : token.IsOfStreet label) (noPart : token.isAddressOnly = false) :
    ∃ component ∈ Component.crossingFields, token.label = label component := by
  rcases ofStreet.labelled with number | part
  · have addressOnly := token.is_address_only_iff.2 ⟨.number, by decide, number⟩
    rw [noPart] at addressOnly
    cases addressOnly
  · exact part

theorem Label.as_first_of_second (component : Component) :
    asFirstStreet (ofSecondStreet component) = component.label :=
  List.drop_left

theorem Component.crossing_labels_stay : ∀ component ∈ crossingFields,
    component.label ≠ Label.separator ∧ Label.isSecondStreet component.label = false ∧
      ∀ location ∈ locationFields, location.label ≠ component.label := by
  decide

theorem Component.crossing_labels_second : ∀ component ∈ crossingFields,
    Label.isSecondStreet (Label.ofSecondStreet component) = true := by
  decide

namespace Label

def streetNames : List Text := [Component.streetName.label, ofSecondStreet .streetName]

theorem street_names_apart : ∀ label ∈ streetNames,
    label ≠ separator ∧ label ≠ Component.number.label ∧
      ∀ location ∈ Component.locationFields, location.label ≠ label := by
  decide

theorem first_street_apart : ∀ component ∈ Component.crossingFields,
    component.label ≠ ofSecondStreet .streetName := by
  decide

theorem second_street_apart : ∀ component ∈ Component.crossingFields,
    ofSecondStreet component ≠ Component.streetName.label := by
  decide

end Label

namespace CrossingTokens

variable {crossing : CrossingTokens} (labelled : crossing.IsLabelled)

include labelled

theorem IsLabelled.split (numberless : ∀ token ∈ crossing.tokens, token.isAddressOnly = false) :
    splitStreets crossing.tokens =
      ⟨crossing.first, crossing.second.map Token.asFirstStreet ++ crossing.place⟩ := by
  have firstStays : ∀ token ∈ crossing.first, token.turns = false ∧ token.isLocation = false := by
    intro token member
    have noPart := numberless token (by simp [tokens, member])
    obtain ⟨component, street, same⟩ := (labelled.first token member).part noPart
    obtain ⟨noSeparator, noSecond, noLocation⟩ := Component.crossing_labels_stay component street
    rw [← same] at noSeparator noSecond noLocation
    constructor
    · exact Bool.or_eq_false_iff.2 ⟨decide_eq_false noSeparator, noSecond⟩
    · exact List.any_eq_false.2 fun location listed => by simpa using noLocation location listed
  have secondStreet : ∀ token ∈ crossing.second, token.isSecondStreet = true := by
    intro token member
    have noPart := numberless token (by simp [tokens, member])
    obtain ⟨component, street, same⟩ := (labelled.second token member).part noPart
    rw [Token.isSecondStreet, same]
    exact Component.crossing_labels_second component street
  have behind : Streams.ofTokens false
      (.separator crossing.connector :: (crossing.second ++ crossing.place)) =
        ⟨[], crossing.second.map Token.asFirstStreet ++ crossing.place⟩ := by
    have turned : Streams.ofTokens false
        (.separator crossing.connector :: (crossing.second ++ crossing.place)) =
          Streams.ofTokens true (crossing.second ++ crossing.place) := rfl
    rw [turned, Streams.of_tokens_second _ _ secondStreet,
      Streams.of_tokens_place _ labelled.place]
  rw [splitStreets, tokens, Streams.of_tokens_front _ _ firstStays, behind, List.append_nil]

end CrossingTokens

namespace Bag

theorem of_tokens_labelled (tokens : List Token) (component : Component) (text : Text)
    (found : (ofTokens tokens).get component = some text) :
    ∃ token ∈ tokens, token.component? = some component := by
  by_contra absent
  have kept := Joining.run_keeps .start tokens component fun token member labelled =>
    absent ⟨token, member, labelled⟩
  rw [ofTokens, kept] at found
  cases found

theorem of_tokens_given (tokens : List Token) (token : Token) (component : Component)
    (member : token ∈ tokens) (labelled : token.component? = some component)
    (solid : token.text.isAllBlank = false) (noNumber : component ≠ .number) :
    ∃ text, (ofTokens tokens).get component = some text ∧ text.isAllBlank = false := by
  have trimSolid : token.text.trim.isAllBlank = false := by rw [Text.trim_all_blank, solid]
  have added : token.textFor? component = some token.text.trim := by
    rw [Token.textFor?, if_pos labelled, Text.present_solid _ trimSolid]
  have listed : token.text.trim ∈ tokens.filterMap (Token.textFor? component) :=
    List.mem_filterMap.2 ⟨token, member, added⟩
  have joined := get_of_tokens tokens component noNumber
  rw [joinTexts, if_neg (List.ne_nil_of_mem listed)] at joined
  exact ⟨_, joined, of_tokens_holds_no_blank tokens component _ joined⟩

/-- A street that has a name, and no component outside the listed ones. -/
structure IsNamedStreet (bag : Bag) (fields : List Component) : Prop where
  named : ∃ name, bag.get .streetName = some name ∧ name.isAllBlank = false
  within : bag.toJson.HoldsOnly fields fun value => value.isAllBlank = false

theorem of_tokens_named_street (tokens : List Token) (fields : List Component)
    (labelled : ∀ token ∈ tokens, ∃ component ∈ fields, token.label = component.label)
    (name : Token) (member : name ∈ tokens) (named : name.label = Component.streetName.label)
    (solid : name.text.isAllBlank = false) : (ofTokens tokens).IsNamedStreet fields where
  named := by
    have component : name.component? = some .streetName :=
      (Label.component_eq_some_iff _ _).2 named.symm
    exact of_tokens_given tokens name .streetName member component solid (by decide)
  within := by
    apply to_json_holds_only
    intro component text found
    obtain ⟨token, listed, ofComponent⟩ := of_tokens_labelled tokens component text found
    obtain ⟨field, allowed, label⟩ := labelled token listed
    have same : token.component? = some field := (Label.component_eq_some_iff _ _).2 label.symm
    obtain rfl : field = component := Option.some.inj (same.symm.trans ofComponent)
    exact ⟨allowed, of_tokens_holds_no_blank tokens field text found⟩

end Bag

namespace CrossingTokens

variable {crossing : CrossingTokens} (labelled : crossing.IsLabelled)

include labelled

theorem IsLabelled.of_name (token : Token) (member : token ∈ crossing.tokens)
    (name : token.label ∈ Label.streetNames) :
    token ∈ crossing.first ∧ (∃ component ∈ Component.crossingFields,
        token.label = component.label) ∨
      token ∈ crossing.second ∧ ∃ component ∈ Component.crossingFields,
        token.label = Label.ofSecondStreet component := by
  obtain ⟨noSeparator, noNumber, noPlace⟩ := Label.street_names_apart token.label name
  rcases List.mem_append.1 member with inFirst | behind
  · exact .inl ⟨inFirst, (labelled.first token inFirst).labelled.resolve_left noNumber⟩
  · rcases List.mem_cons.1 behind with separator | later
    · exact absurd (congrArg Token.label separator) noSeparator
    · rcases List.mem_append.1 later with inSecond | inPlace
      · exact .inr ⟨inSecond, (labelled.second token inSecond).labelled.resolve_left noNumber⟩
      · obtain ⟨component, located, label⟩ := token.location_labelled (labelled.place token inPlace)
        exact absurd label (noPlace component located)

/-- Only tokens of the first street have the label of its name, and only tokens of the second one
have that of the other name. -/
theorem IsLabelled.named (token : Token) (member : token ∈ crossing.tokens) :
    (token.label = Component.streetName.label → token ∈ crossing.first) ∧
      (token.label = Label.ofSecondStreet .streetName → token ∈ crossing.second) := by
  constructor
  · intro name
    obtain ⟨inFirst, _⟩ | ⟨_, component, street, label⟩ :=
      labelled.of_name token member (name ▸ by decide)
    · exact inFirst
    · exact absurd (label.symm.trans name) (Label.second_street_apart component street)
  · intro name
    obtain ⟨_, component, street, label⟩ | ⟨inSecond, _⟩ :=
      labelled.of_name token member (name ▸ by decide)
    · exact absurd (label.symm.trans name) (Label.first_street_apart component street)
    · exact inSecond

theorem IsLabelled.named_streets
    (named : (Tagging.parsed .intersection crossing.tokens).NamesTwoStreets) :
    (Bag.ofTokens (splitStreets crossing.tokens).first).IsNamedStreet Component.crossingFields ∧
      (Bag.ofTokens (splitStreets crossing.tokens).second).IsNamedStreet
        (Component.crossingFields ++ Component.locationFields) := by
  obtain ⟨numberless, _, _⟩ := (intersection_names_two_streets_iff _).1 named
  obtain ⟨_, same, _, ⟨first, firstListed, firstNamed⟩, second, secondListed, secondNamed⟩ := named
  cases same
  rw [labelled.split numberless]
  constructor
  · have inFirst := (labelled.named first firstListed).1 firstNamed
    apply Bag.of_tokens_named_street _ _ _ first inFirst firstNamed (labelled.first _ inFirst).solid
    intro token member
    exact (labelled.first token member).part (numberless token (by simp [tokens, member]))
  · have inSecond := (labelled.named second secondListed).2 secondNamed
    apply Bag.of_tokens_named_street _ _ _ second.asFirstStreet
    · exact List.mem_append_left _ (List.mem_map_of_mem inSecond)
    · rw [Token.asFirstStreet, secondNamed, Label.as_first_of_second]
    · exact (labelled.second _ inSecond).solid
    · intro token member
      rcases List.mem_append.1 member with ofStreet | ofPlace
      · obtain ⟨source, listed, rfl⟩ := List.mem_map.1 ofStreet
        obtain ⟨component, street, label⟩ :=
          (labelled.second source listed).part (numberless source (by simp [tokens, listed]))
        refine ⟨component, List.mem_append_left _ street, ?_⟩
        rw [Token.asFirstStreet, label, Label.as_first_of_second]
      · obtain ⟨component, located, label⟩ := token.location_labelled (labelled.place token ofPlace)
        exact ⟨component, List.mem_append_right _ located, label.symm⟩

end CrossingTokens

/-- Where the tokens of an intersection come from: a location, or a text without one that is split
at its first connector. -/
theorem Tagger.locating_crossing (locate : Locator) (text : Text) (tokens : List Token)
    (read : (locating locate text).value = .parsed .intersection tokens) :
    ∃ crossing : CrossingTokens, crossing.IsLabelled ∧ crossing.tokens = tokens ∧
      (locate text = none → ∃ split, Crossing.ofText? text = some split ∧
        crossing = split.parts) := by
  cases found : locate text with
  | some location =>
      have located := locating_intersection locate text location tokens found read
      refine ⟨_, location.crossing_labelled _, located.symm, fun impossible => ?_⟩
      cases impossible
  | none =>
      rw [locating] at read
      split at read
      case h_1 => cases read
      case h_2 =>
        rw [tagWhole] at read
        split at read
        case isTrue => cases read
        case isFalse =>
          simp only [found, Consulted.value_map, tagUnlocated, bareIntersectionTokens?] at read
          cases split : Crossing.ofText? text with
          | none =>
              rw [split] at read
              cases read
          | some crossing =>
              rw [split] at read
              cases read
              exact ⟨crossing.parts, crossing.parts_labelled, rfl, fun _ => ⟨crossing, rfl, rfl⟩⟩

/-- An intersection in a text is read from tokens in the form of a crossing. -/
theorem locating_parse_crossing (locate : Locator) (text : Text)
    (classified : (parse (.locating locate) text).value.classification = .intersection) :
    ∃ crossing : CrossingTokens, crossing.IsLabelled ∧
      (Tagging.parsed .intersection crossing.tokens).NamesTwoStreets ∧
      (parse (.locating locate) text).value.components =
        .pair (.ofTokens (splitStreets crossing.tokens).first)
          (.ofTokens (splitStreets crossing.tokens).second) ∧
      (Tagger.locating locate (cleanText text)).value.tokens = crossing.tokens ∧
      (locate (cleanText text) = none → ∃ split, Crossing.ofText? (cleanText text) = some split ∧
        crossing = split.parts) := by
  obtain ⟨parsed, named⟩ := parsed_intersection_tagging (.locating locate) text classified
  obtain ⟨tokens, read, _⟩ := id named
  obtain ⟨crossing, labelled, rfl, unlocated⟩ :=
    Tagger.locating_crossing locate (cleanText text) tokens read
  rw [read] at named
  refine ⟨crossing, labelled, named, ?_, by rw [read]; rfl, unlocated⟩
  rw [parsed, read]
  exact (Interpretation.components_eq_pair_iff _ _ _).2 ⟨named, rfl, rfl⟩

/-- Whatever the locator answers, both streets of an intersection have a name, and only the second
one has a place. -/
theorem locating_names_two_streets (locate : Locator) (text : Text)
    (classified : (parse (.locating locate) text).value.classification = .intersection) :
    ∃ first second, (parse (.locating locate) text).value.components = .pair first second ∧
      first.IsNamedStreet Component.crossingFields ∧
      second.IsNamedStreet (Component.crossingFields ++ Component.locationFields) := by
  obtain ⟨crossing, labelled, named, bags, _⟩ := locating_parse_crossing locate text classified
  obtain ⟨first, second⟩ := labelled.named_streets named
  exact ⟨_, _, bags, first, second⟩

theorem hollywood_and_vine_named :
    let text := "N Hollywood Blvd and Vine St, Los Angeles, CA 90028-1234".toList
    (parse (.locating fun _ => none) text).value.classification = .intersection ∧
      ∃ first second,
        (parse (.locating fun _ => none) text).value.components = .pair first second ∧
        first.IsNamedStreet Component.crossingFields ∧
        second.IsNamedStreet (Component.crossingFields ++ Component.locationFields) := by
  intro text
  have classified : (parse (.locating fun _ => none) text).value.classification =
      .intersection := by
    decide +kernel
  exact ⟨classified, locating_names_two_streets _ text classified⟩

end PostalAddress
