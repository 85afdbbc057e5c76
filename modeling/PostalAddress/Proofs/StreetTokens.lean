import PostalAddress.Location
import PostalAddress.Proofs.Joining
import PostalAddress.Proofs.SolidText

/-!
The tokens of the two streets of a location. Each street has the tokens of its fields with a house
number in front of them, if the name begins with one. Filtering out what is labelled as second
street leaves its house number behind, since that has the label of any house number.
-/

namespace PostalAddress

/-- The longest run of digits in front of a text. -/
theorem Text.read_digits_eq_some_iff (text digits rest : Text) :
    readDigits? text = some (digits, rest) ↔
      text = digits ++ rest ∧ digits ≠ [] ∧ (∀ digit ∈ digits, isDigit digit = true) ∧
        ∀ letter ∈ rest.head?, isDigit letter = false := by
  constructor
  · intro read
    rw [readDigits?] at read
    split at read
    case h_1 => cases read
    case h_2 notEmpty =>
      cases read
      exact ⟨List.takeWhile_append_dropWhile.symm, notEmpty,
        fun digit member => List.mem_takeWhile_imp member, head_drop_while_not isDigit text⟩
  · rintro ⟨rfl, given, numeric, ends⟩
    have behind := drop_while_append isDigit digits rest numeric ends
    have front : (digits ++ rest).takeWhile isDigit = digits := by
      have parted := List.takeWhile_append_dropWhile (p := isDigit) (l := digits ++ rest)
      rw [behind] at parted
      exact List.append_cancel_right parted
    rw [readDigits?, front, behind]
    cases digits with
    | nil => exact absurd rfl given
    | cons => rfl

theorem split_house_number_written (text number name : Text)
    (split : splitHouseNumber? text = some (number, name)) :
    number ≠ [] ∧ number.trim = number := by
  simp only [splitHouseNumber?, Option.bind_eq_bind, Option.bind_eq_some_iff, Prod.exists,
    Option.ite_none_right_eq_some, Option.some.injEq, Prod.mk.injEq] at split
  obtain ⟨digits, rest, read, _, rfl, _⟩ := split
  obtain ⟨_, notEmpty, numeric, _⟩ := (Text.read_digits_eq_some_iff text digits rest).1 read
  constructor
  · simp [notEmpty]
  · apply Text.trim_of_solid
    intro letter member
    rcases List.mem_append.1 member with inDigits | inMark
    · exact digit_solid letter (numeric letter inDigits)
    · exact word_character_solid letter (List.of_mem_filter inMark)

namespace Location

def sideNumber? (location : Location) (side : StreetSide) : Option Text :=
  (splitHouseNumber? (location.value (.street side .name)).trim).map Prod.fst

theorem side_number_written (location : Location) (side : StreetSide) :
    location.sideNumber? side ≠ some [] ∧
      (location.sideNumber? side).map Text.trim = location.sideNumber? side := by
  rw [sideNumber?]
  cases split : splitHouseNumber? (location.value (.street side .name)).trim with
  | none => simp
  | some parts =>
      obtain ⟨notEmpty, written⟩ := split_house_number_written _ _ _ split
      simp [notEmpty, written]

theorem tokens_congr (left right : Location) (fields : FieldLabels)
    (same : ∀ field ∈ fields, left.get field.1 = right.get field.1) :
    left.tokens fields = right.tokens fields := by
  apply List.filterMap_congr
  intro (field, label) member
  simp only [value, same (field, label) member]

theorem tokens_labelled (location : Location) (fields : FieldLabels) :
    ∀ token ∈ location.tokens fields, token.label ∈ fields.map Prod.snd := by
  intro token member
  simp only [tokens, List.mem_filterMap, Option.map_eq_some_iff] at member
  obtain ⟨field, listed, text, _, rfl⟩ := member
  exact List.mem_map_of_mem listed

/-- The tokens of one street without its house numbers. -/
def unnumberedTokens (location : Location) (fields : FieldLabels) : List Token :=
  (location.tokens fields).map fun token =>
    match houseNumber? token with
    | some (_, name) => ⟨token.label, name⟩
    | none => token

theorem unnumbered_tokens_labelled (location : Location) (fields : FieldLabels) :
    ∀ token ∈ location.unnumberedTokens fields, token.label ∈ fields.map Prod.snd := by
  intro token member
  obtain ⟨source, listed, rfl⟩ := List.mem_map.1 member
  have labelled := location.tokens_labelled fields source listed
  split
  case h_1 => exact labelled
  case h_2 => exact labelled

def splitNumbers (tokens : List Token) : List Token :=
  tokens.filterMap fun token => (houseNumber? token).map fun (number, _) => .ofComponent .number number

theorem split_numbers_singleton (token : Token) :
    splitNumbers [token] =
      if Component.streetName.label.isSuffixOf token.label then
        Joining.numberTokens ((splitHouseNumber? token.text).map Prod.fst)
      else [] := by
  rw [splitNumbers, List.filterMap_cons, List.filterMap_nil, houseNumber?]
  by_cases named : Component.streetName.label.isSuffixOf token.label = true
  · rw [if_pos named, if_pos named]
    cases splitHouseNumber? token.text <;> rfl
  · rw [if_neg named, if_neg named]
    rfl

theorem split_numbers_of_field (location : Location) (field : LocationField) (label : Text) :
    splitNumbers (location.tokens [(field, label)]) =
      if Component.streetName.label.isSuffixOf label then
        Joining.numberTokens ((splitHouseNumber? (location.value field).trim).map Prod.fst)
      else [] := by
  cases text : (location.value field).trim with
  | nil =>
      have noToken : location.tokens [(field, label)] = [] := by
        simp [tokens, text, Text.present?]
      rw [noToken]
      split <;> rfl
  | cons letter rest =>
      have oneToken : location.tokens [(field, label)] = [⟨label, letter :: rest⟩] := by
        simp [tokens, text, Text.present?]
      rw [oneToken, split_numbers_singleton]

/-- Only the name of a street can have a house number in front of it. -/
theorem side_tokens_split (location : Location) (side : StreetSide) (label : Component → Text)
    (named : Component.streetName.label.isSuffixOf (label .streetName) = true)
    (others : ∀ component ∈ [Component.predirectional, .posttype, .postdirectional],
      Component.streetName.label.isSuffixOf (label component) = false) :
    location.sideTokens (.street side label) =
      Joining.numberTokens (location.sideNumber? side) ++
        location.unnumberedTokens (.street side label) := by
  have parted : location.tokens (.street side label) =
      location.tokens [(.street side .predirectional, label .predirectional)] ++
        (location.tokens [(.street side .name, label .streetName)] ++
          (location.tokens [(.street side .streetType, label .posttype)] ++
            location.tokens [(.street side .postdirectional, label .postdirectional)])) := by
    simp only [tokens, ← List.filterMap_append]
    rfl
  have numbers : splitNumbers (location.tokens (.street side label)) =
      Joining.numberTokens (location.sideNumber? side) := by
    have append (front behind : List Token) :
        splitNumbers (front ++ behind) = splitNumbers front ++ splitNumbers behind :=
      List.filterMap_append
    simp [parted, append, split_numbers_of_field, named, others, sideNumber?]
  rw [← numbers]
  rfl

theorem keep_first_street (tokens : List Token) (fields : FieldLabels)
    (labelled : ∀ token ∈ tokens, token.label ∈ fields.map Prod.snd)
    (kept : ∀ label ∈ fields.map Prod.snd, Label.isSecondStreet label = false) :
    tokens.filter (fun token => !token.isSecondStreet) = tokens := by
  apply List.filter_eq_self.2
  intro token member
  simp [Token.isSecondStreet, kept _ (labelled token member)]

theorem drop_second_street (tokens : List Token) (fields : FieldLabels)
    (labelled : ∀ token ∈ tokens, token.label ∈ fields.map Prod.snd)
    (dropped : ∀ label ∈ fields.map Prod.snd, Label.isSecondStreet label = true) :
    tokens.filter (fun token => !token.isSecondStreet) = [] := by
  apply List.filter_eq_nil_iff.2
  intro token member
  simp [Token.isSecondStreet, dropped _ (labelled token member)]

theorem keep_number (number : Option Text) :
    (Joining.numberTokens number).filter (fun token => !token.isSecondStreet) =
      Joining.numberTokens number := by
  cases number with
  | none => rfl
  | some number => rfl

/-- Without the tokens of the second street, all that is left of it is its house number. -/
theorem first_street_tokens (location : Location) (connector : Text) :
    (location.intersectionTokens connector).filter (fun token => !token.isSecondStreet) =
      (location.sideTokens (.street .first Component.label) ++ [.separator connector]) ++
        (Joining.numberTokens (location.sideNumber? .second) ++ location.tokens .place) := by
  have first := keep_first_street _ (.street .first Component.label)
    (location.unnumbered_tokens_labelled _) (by decide)
  have second := drop_second_street _ (.street .second Label.ofSecondStreet)
    (location.unnumbered_tokens_labelled _) (by decide)
  have place := keep_first_street _ .place (location.tokens_labelled _) (by decide)
  have separator : (Token.separator connector).isSecondStreet = false := rfl
  rw [intersectionTokens,
    location.side_tokens_split .first Component.label (by decide) (by decide),
    location.side_tokens_split .second Label.ofSecondStreet (by decide) (by decide)]
  simp only [List.filter_append, List.filter_cons, keep_number, first, second, place, separator,
    List.append_assoc]
  rfl

end Location

end PostalAddress
