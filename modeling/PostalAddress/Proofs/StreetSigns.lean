import PostalAddress.Proofs.CrossingTokens
import PostalAddress.Proofs.FirstConnector
import PostalAddress.Proofs.WrittenForm

/-!
Where an "&" in a street of a standard intersection comes from. Neither uppercase nor an
abbreviation writes one, so a token of the street has it. A street in front of the first connector
of a text has none.
-/

namespace PostalAddress

namespace Text

theorem sign_of_upper (text : Text) (sign : '&' ∈ text.upper) : '&' ∈ text := by
  obtain half | ⟨letter, listed, image⟩ := mem_upper_cases text '&' sign
  · cases half
  · rw [sign_of_upper_character letter '&' image (by decide)]
    exact listed

theorem sign_of_join (pieces : List Text) (sign : '&' ∈ joinNonempty [' '] pieces) :
    ∃ piece ∈ pieces, '&' ∈ piece := by
  obtain space | ⟨piece, listed, inPiece⟩ := unwords_letters _ '&' sign
  · exact absurd space (by decide)
  · exact ⟨piece, (mem_nonempty listed).1, inPiece⟩

end Text

theorem sign_of_normalize (value : Text) (sign : '&' ∈ normalize value) : '&' ∈ value := by
  have squeezed := (Text.trim_where_within isEdgeMark _).subset sign
  obtain space | ⟨kept, _⟩ := Text.mem_squeeze _ '&' squeezed
  · exact absurd space (by decide)
  · exact Text.sign_of_upper value (List.mem_of_mem_filter kept)

theorem shorts_no_sign : ∀ table ∈ [suffixes, directionals, states, units], ∀ entry ∈ table,
    '&' ∉ entry.short := by
  decide +kernel

namespace Component

theorem sign_of_canonical (component : Component) (value : Text)
    (sign : '&' ∈ component.canonical value) : '&' ∈ value := by
  cases given : component.table? with
  | none =>
      rw [component.canonical_of_no_table given] at sign
      exact sign_of_normalize value sign
  | some table =>
      rw [component.canonical_of_table table given, AbbreviationTable.lookup] at sign
      cases found : table.short? (normalize value) with
      | none =>
          rw [found, Option.getD_none] at sign
          exact sign_of_normalize value sign
      | some short =>
          obtain ⟨entry, listed, rfl, _⟩ := table.entry_of_short _ short found
          rw [found, Option.getD_some] at sign
          exact absurd sign (shorts_no_sign table (component.table_listed table given) entry listed)

end Component

def StandardAddress.sideStreet (bag : Bag) : Text := (sideComponents bag).streetText

theorem StandardAddress.sign_of_side_street (bag : Bag) (sign : '&' ∈ sideStreet bag) :
    ∃ component ∈ Component.streetFields, '&' ∈ bag.value component := by
  obtain ⟨_, listed, inValue⟩ := Text.sign_of_join _ sign
  obtain ⟨component, field, rfl⟩ := List.mem_map.1 listed
  by_cases street : component ∈ Component.streetFields
  · refine ⟨component, street, component.sign_of_canonical _ ?_⟩
    have noZip : component ≠ .zipCode ∧ component ≠ .zipPlus4 := by
      revert street
      cases component <;> decide
    have inSide : sideFields.contains component = true := by
      simp [sideFields, street]
    rwa [side_value bag component noZip.1 noZip.2, Bag.canonical, Bag.value_of_values,
      if_pos inSide] at inValue
  · have absent : component ∉ Component.standardSideFields := by
      revert street field
      cases component <;> decide
    rw [side_value_absent bag component absent] at inValue
    cases inValue

theorem Bag.sign_of_tokens (tokens : List Token) (component : Component)
    (street : component ∈ Component.streetFields)
    (sign : '&' ∈ (ofTokens tokens).value component) :
    ∃ token ∈ tokens, token.component? = some component ∧ '&' ∈ token.text := by
  have noNumber : component ≠ .number := by
    rintro rfl
    exact absurd street (by decide)
  rw [value, get_of_tokens tokens component noNumber, joinTexts] at sign
  split at sign
  case isTrue => cases sign
  case isFalse =>
    obtain space | ⟨text, listed, inText⟩ := Text.unwords_letters _ '&' sign
    · exact absurd space (by decide)
    · obtain ⟨token, member, given⟩ := List.mem_filterMap.1 listed
      have added := (token.text_for_eq_some_iff component text).1 given
      obtain ⟨labelled, rfl, _⟩ := token.value_parts component text added
      exact ⟨token, member, labelled, (Text.trim_where_within isBlank _).subset inText⟩

theorem Component.location_no_street : ∀ component ∈ locationFields, component ∉ streetFields := by
  decide

namespace CrossingTokens

variable {crossing : CrossingTokens} (labelled : crossing.IsLabelled)

include labelled

theorem IsLabelled.street_no_separator (token : Token)
    (ofStreet : token ∈ crossing.first ∨ token ∈ crossing.second) :
    token ∈ crossing.tokens ∧ token.isSeparator = false := by
  have apart : ∀ component ∈ Component.crossingFields,
      Label.ofSecondStreet component ≠ Label.separator := by decide
  have noNumber := Component.label_ne_separator .number
  constructor
  · rcases ofStreet with inFirst | inSecond
    · simp [tokens, inFirst]
    · simp [tokens, inSecond]
  · apply decide_eq_false
    rcases ofStreet with inFirst | inSecond
    · obtain number | ⟨component, -, part⟩ := (labelled.first token inFirst).labelled
      · exact number ▸ noNumber
      · exact part ▸ component.label_ne_separator
    · obtain number | ⟨component, street, part⟩ := (labelled.second token inSecond).labelled
      · exact number ▸ noNumber
      · exact part ▸ apart component street

variable (named : (Tagging.parsed .intersection crossing.tokens).NamesTwoStreets)

include named

theorem IsLabelled.first_no_sign (free : ∀ token ∈ crossing.first, '&' ∉ token.text) :
    '&' ∉ StandardAddress.sideStreet (.ofTokens (splitStreets crossing.tokens).first) := by
  intro sign
  obtain ⟨component, street, inValue⟩ := StandardAddress.sign_of_side_street _ sign
  obtain ⟨token, member, _, inText⟩ := Bag.sign_of_tokens _ component street inValue
  rw [labelled.split ((intersection_names_two_streets_iff _).1 named).1] at member
  exact free token member inText

theorem IsLabelled.second_no_sign (free : ∀ token ∈ crossing.second, '&' ∉ token.text) :
    '&' ∉ StandardAddress.sideStreet (.ofTokens (splitStreets crossing.tokens).second) := by
  intro sign
  obtain ⟨component, street, inValue⟩ := StandardAddress.sign_of_side_street _ sign
  obtain ⟨token, member, ofComponent, inText⟩ := Bag.sign_of_tokens _ component street inValue
  rw [labelled.split ((intersection_names_two_streets_iff _).1 named).1] at member
  rcases List.mem_append.1 member with ofStreet | ofPlace
  · obtain ⟨source, listed, rfl⟩ := List.mem_map.1 ofStreet
    exact free source listed inText
  · obtain ⟨location, located, label⟩ := token.location_labelled (labelled.place token ofPlace)
    obtain rfl : location = component :=
      Option.some.inj (((Label.component_eq_some_iff _ _).2 label).symm.trans ofComponent)
    exact absurd street (Component.location_no_street location located)

end CrossingTokens

namespace Crossing

/-- The first connector of a text comes no later than its first sign. -/
theorem before_no_sign (text : Text) (crossing : Crossing) (cut : ofText? text = some crossing) :
    ∀ letter ∈ crossing.before, isConnectorSign letter = false := by
  intro letter member
  rw [← Bool.not_eq_true]
  intro sign
  have first := (of_text_eq_some_iff text crossing).1 cut
  obtain ⟨rest, parted, _⟩ := first.cut
  obtain ⟨front, behind, before⟩ := List.append_of_mem member
  have split : text = front ++ letter :: (behind ++ rest) := by
    rw [parted, before, List.append_assoc, List.cons_append]
  have earlier : front.length < crossing.before.length := by
    rw [before, List.length_append, List.length_cons]
    omega
  exact first.first front _ _ _ split earlier (Text.sign_begins letter _ sign)

theorem parts_no_sign (text : Text) (crossing : Crossing) (cut : ofText? text = some crossing) :
    (∀ token ∈ crossing.parts.first, '&' ∉ token.text) ∧
      ('&' ∉ crossing.secondStreet → ∀ token ∈ crossing.parts.second, '&' ∉ token.text) := by
  constructor
  · intro token member inText
    obtain space | inFront := tag_street_letters _ _ token member '&' inText
    · exact absurd space (by decide)
    · exact absurd (before_no_sign text crossing cut '&' inFront) (by decide)
  · intro noSign token member inText
    obtain space | inBehind := tag_street_letters _ _ token member '&' inText
    · exact absurd space (by decide)
    · exact noSign inBehind

end Crossing

end PostalAddress
