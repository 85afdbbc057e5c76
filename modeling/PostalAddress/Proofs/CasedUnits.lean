import PostalAddress.Proofs.ListMark
import PostalAddress.Proofs.StandardForm

/-!
Standardizing and the case of canonical values. Of these only the letters that have come together
from halves may be in lower case. Putting them in uppercase before or after the units are settled
comes to the same, since no term of the tables has any of them, and the ZIP code is in uppercase
anyway.
-/

namespace PostalAddress

theorem Text.upper_behind_mark (mark : Char) (before behind : Text) (whole : isHalf mark = false)
    (settled : upperCharacter mark = [mark]) :
    (before ++ mark :: behind).upper = before.upper ++ mark :: behind.upper := by
  rw [upper_append, upper_cons mark behind, settled]
  · rfl
  · intro low _
    exact (whole_no_pair mark low whole).1
  · intro high _ low first
    cases first
    exact not_lower_of_no_pair _ _ (whole_no_pair mark high whole).2

theorem Text.upper_is_empty (text : Text) : text.upper.isEmpty = text.isEmpty := by
  rw [Bool.eq_iff_iff, List.isEmpty_iff, List.isEmpty_iff, upper_eq_nil_iff]

theorem Text.no_space_upper (text : Text)
    (settled : ∀ letter ∈ text, upperCharacter letter = [letter]) (absent : ' ' ∉ text) :
    ' ' ∉ text.upper := by
  intro member
  rcases mem_upper_cases text ' ' member with half | ⟨letter, listed, image⟩
  · exact absurd half (by decide)
  · rw [settled letter listed, List.mem_singleton] at image
    exact absent (image ▸ listed)

theorem Text.skip_blanks_upper (text : Text)
    (settled : ∀ letter ∈ text, upperCharacter letter = [letter]) :
    skipBlanks text.upper = (skipBlanks text).upper := by
  have parted := List.takeWhile_append_dropWhile (p := isBlank) (l := text)
  have blank : ∀ letter ∈ text.takeWhile isBlank, isBlank letter = true :=
    fun letter member => List.mem_takeWhile_imp member
  have edges : ∀ letter ∈ text.takeWhile isBlank, isEdgeMark letter = true :=
    fun letter member => blank_edge letter (blank letter member)
  have behindSettled : ∀ letter ∈ skipBlanks text, upperCharacter letter = [letter] :=
    fun letter member => settled letter ((List.dropWhile_suffix _).subset member)
  have split : text.upper = text.takeWhile isBlank ++ (skipBlanks text).upper := by
    conv_lhs => rw [← parted]
    rw [upper_append, (edges_upper _ edges).upper]
    · rfl
    · intro high last low _
      exact (edge_apart high low (edges high (List.mem_of_getLast? last))).1
  rw [split]
  apply drop_while_append isBlank _ _ blank
  exact upper_head_no _ behindSettled isBlank
    (fun unit half => not_blank_of_not_edge unit (half_unchanged unit half).2)
    (head_drop_while_not isBlank text)

namespace UnitText

def upper (unit : UnitText) : UnitText := ⟨unit.designator.upper, unit.identifier.upper⟩

theorem upper_is_empty (unit : UnitText) : unit.upper.isEmpty = unit.isEmpty := by
  simp only [upper, isEmpty, Text.upper_is_empty]

theorem of_text_upper (value : Text)
    (settled : ∀ letter ∈ value, Text.upperCharacter letter = [letter]) :
    ofText? value.upper = (ofText? value).map upper := by
  have parts (word rest : Text)
      (wordSettled : ∀ letter ∈ word, Text.upperCharacter letter = [letter]) :
      (units.short? word.upper).map (fun designator => UnitText.mk designator rest.upper) =
        ((units.short? word).map fun designator => ⟨designator, rest⟩).map upper := by
    rw [AbbreviationTable.units_closed.short_upper word wordSettled]
    cases found : units.short? word with
    | none => rfl
    | some short =>
        have plain := (AbbreviationTable.units_closed.short_short word short found).1
        simp [upper, (plain_upper short plain).upper]
  by_cases spaced : ' ' ∈ value
  · obtain ⟨word, rest, parted, absent⟩ := List.eq_append_cons_of_mem spaced
    have wordSettled : ∀ letter ∈ word, Text.upperCharacter letter = [letter] :=
      fun letter member => settled letter (by simp [parted, member])
    rw [parted, Text.upper_behind_mark ' ' word rest rfl rfl,
      of_text_behind_word _ _ (Text.no_space_upper word wordSettled absent),
      of_text_behind_word _ _ absent, parts word rest wordSettled]
  · rw [of_text_word _ (Text.no_space_upper value settled spaced), of_text_word _ spaced]
    exact parts value [] settled

theorem drop_number_sign_other (value : Text) (other : ∀ letter ∈ value.head?, letter ≠ '#') :
    dropNumberSign value = value := by
  unfold dropNumberSign
  split
  case h_1 => exact absurd rfl (other '#' rfl)
  case h_2 => rfl

theorem drop_number_sign_upper (value : Text)
    (settled : ∀ letter ∈ value, Text.upperCharacter letter = [letter]) :
    dropNumberSign value.upper = (dropNumberSign value).upper := by
  by_cases signed : value.head? = some '#'
  · obtain ⟨rest, rfl⟩ := List.head?_eq_some_iff.1 signed
    have alone : ∀ low ∈ rest.head?, Text.isPair '#' low = false := by
      intro low _
      exact (Text.whole_no_pair '#' low rfl).1
    rw [Text.upper_cons '#' rest alone, plain_settled '#' rfl]
    exact Text.skip_blanks_upper rest fun letter member => settled letter (.tail _ member)
  · have other : ∀ letter ∈ value.head?, letter ≠ '#' := by
      rintro letter first rfl
      exact signed first
    have others := upper_head_no value settled (fun letter => decide (letter = '#'))
      (fun unit half => decide_eq_false (by rintro rfl; exact absurd half (by decide)))
      (by simpa using other)
    rw [drop_number_sign_other value other, drop_number_sign_other value.upper (by simpa using others)]

theorem designated_upper (unit : UnitText)
    (settled : ∀ letter ∈ unit.identifier, Text.upperCharacter letter = [letter]) :
    unit.upper.designated = unit.designated.upper := by
  have dropped : ∀ letter ∈ dropNumberSign unit.identifier, Text.upperCharacter letter = [letter] :=
    fun letter member => settled letter ((drop_number_sign_suffix unit.identifier).subset member)
  unfold designated
  simp only [upper, Text.upper_is_empty, drop_number_sign_upper _ settled, of_text_upper _ dropped]
  split
  case isFalse => rfl
  case isTrue => cases ofText? (dropNumberSign unit.identifier) <;> rfl

end UnitText

namespace UnitPair

def upper (pair : UnitPair) : UnitPair := ⟨pair.occupancy.upper, pair.subaddress.upper⟩

theorem of_bag_upper (bag : Bag) : ofBag bag.upper = (ofBag bag).upper := by
  simp [ofBag, upper, UnitText.upper, Bag.upper]

theorem promote_upper (pair : UnitPair) : pair.upper.promote = pair.promote.upper := by
  simp only [promote, upper, UnitText.upper_is_empty]
  split <;> rfl

theorem fill_from_names_upper (pair : UnitPair) (building landmark : Text)
    (buildingSettled : ∀ letter ∈ building, Text.upperCharacter letter = [letter])
    (landmarkSettled : ∀ letter ∈ landmark, Text.upperCharacter letter = [letter]) :
    pair.upper.fillFromNames [building.upper, landmark.upper] =
      (pair.fillFromNames [building, landmark]).upper := by
  simp only [fillFromNames, upper, UnitText.upper_is_empty, List.findSome?_cons,
    List.findSome?_nil, UnitText.of_text_upper _ buildingSettled,
    UnitText.of_text_upper _ landmarkSettled]
  split
  case isFalse => rfl
  case isTrue =>
    cases UnitText.ofText? building with
    | some unit => rfl
    | none => cases UnitText.ofText? landmark <;> rfl

theorem settle_upper (bag : Bag)
    (canonical : ∀ component : Component, component.IsCanonical (bag.value component)) :
    settle bag.upper = (settle bag).upper := by
  let promoted := ((ofBag bag).fillFromNames
    [bag.value .buildingName, bag.value .landmarkName]).promote
  have same : ((ofBag bag.upper).fillFromNames [bag.upper.value .buildingName,
      bag.upper.value .landmarkName]).promote = promoted.upper := by
    rw [of_bag_upper, Bag.upper, Bag.value_of_values, Bag.value_of_values,
      fill_from_names_upper _ _ _ (canonical _).normal.settled (canonical _).normal.settled,
      promote_upper]
  have designated := UnitText.designated_upper promoted.occupancy
    (promoted_clean bag canonical).occupancy.identifier.settled
  simp only [settle, same]
  exact congrArg (UnitPair.mk · promoted.upper.subaddress) designated

theorem value_upper (pair : UnitPair) (component : Component) :
    pair.upper.value component = (pair.value component).upper := by
  cases component <;> rfl

end UnitPair

theorem Bag.whole_zip_upper (bag : Bag) : bag.upper.wholeZip = bag.wholeZip := by
  have present (component : Component) : bag.upper.has component = bag.has component := by
    rw [has, upper, value_of_values, Text.upper_is_empty]
    rfl
  have joined := Text.upper_behind_mark '-' (bag.value .zipCode) (bag.value .zipPlus4) rfl rfl
  rw [wholeZip, wholeZip, present, present, upper, value_of_values, value_of_values, ← joined,
    ← apply_ite Text.upper, write_zip_code_upper]

namespace StandardAddress

variable (bag cased : Bag)

theorem single_components_upper
    (same : cased.canonical Component.all = (bag.canonical Component.all).upper) :
    singleComponents cased = (singleComponents bag).upper := by
  have units := UnitPair.settle_upper _ bag.canonical_all
  have zip := (bag.canonical Component.all).whole_zip_is_upper (bag.canonical_all _).normal
    (bag.canonical_all _).normal
  rw [singleComponents, same, units, Bag.whole_zip_upper]
  apply congrArg Bag.ofValues
  funext component
  rw [singleComponents, Bag.value_of_values]
  cases component
  case buildingName | landmarkName | zipPlus4 => rfl
  case zipCode => exact zip.upper.symm
  case subaddressType | subaddressIdentifier | occupancyType | occupancyIdentifier =>
    exact UnitPair.value_upper _ _
  all_goals exact Bag.value_of_values _ _

theorem side_components_upper
    (same : cased.canonical sideFields = (bag.canonical sideFields).upper) :
    sideComponents cased = (sideComponents bag).upper := by
  have canonical := bag.canonical_fields sideFields
  have zip := (bag.canonical sideFields).whole_zip_is_upper (canonical _).normal (canonical _).normal
  unfold sideFields at same zip
  rw [sideComponents, same, Bag.whole_zip_upper]
  apply congrArg Bag.ofValues
  funext component
  rw [sideComponents, Bag.value_of_values]
  cases component
  case zipPlus4 => rfl
  case zipCode => exact zip.upper.symm
  all_goals exact Bag.value_of_values _ _

end StandardAddress

end PostalAddress
