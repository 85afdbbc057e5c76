import PostalAddress.Proofs.PrintedLastLines

/-!
Written ZIP codes. Writing a code keeps its digits and changes nothing but the gap between the zone
and the extension, and only where nine digits are parted so. A code that comes with a separate
extension keeps its shape exactly if the code is five digits alone and the extension ends with the
only digits in it, four of them.
-/

namespace PostalAddress

theorem edge_no_digit (letter : Char) (edge : isEdgeMark letter = true) :
    isDigit letter = false := by
  by_contra digit
  rw [plain_not_edge letter (digit_plain letter (by simpa using digit))] at edge
  cases edge

namespace Text

theorem upper_character_digits (letter : Char) :
    (upperCharacter letter).filter isDigit = [letter].filter isDigit := by
  cases digit : isDigit letter with
  | true => rw [plain_settled letter (digit_plain letter digit)]
  | false =>
      rw [List.filter_cons_of_neg (by simp [digit]), List.filter_nil, List.filter_eq_nil_iff]
      intro image member imageDigit
      have point := digit_point image imageDigit
      rw [sign_of_upper_character letter image member (by omega), digit] at imageDigit
      cases imageDigit

theorem upper_digits (text : Text) : text.upper.filter isDigit = text.filter isDigit := by
  induction text using upper.induct with
  | case1 high low rest pair induction =>
      obtain ⟨front, behind, units, paired, _⟩ := upper_pair_cases high low pair
      obtain ⟨highHalf, lowHalf⟩ := pair_halves high low pair
      obtain ⟨frontHalf, behindHalf⟩ := pair_halves front behind paired
      rw [upper, if_pos pair, units]
      simp [half_no_digit, highHalf, lowHalf, frontHalf, behindHalf, induction]
  | case2 high low rest unpaired induction =>
      rw [upper, if_neg unpaired, List.filter_append, upper_character_digits, induction,
        ← List.filter_append, List.singleton_append]
  | case3 unit => rw [upper, upper_character_digits]
  | case4 => rfl

end Text

theorem normalize_digits (value : Text) :
    (normalize value).filter isDigit = value.filter isDigit := by
  have noMark (letter : Char) (dropped : isDroppedMark letter = true) : isDigit letter = false := by
    by_contra digit
    have normal := plain_normal [letter] (by simpa using digit_plain letter (by simpa using digit))
    rw [normal.unmarked letter (by simp)] at dropped
    cases dropped
  rw [normalize_filter isDigit edge_no_digit noMark, Text.upper_digits]

theorem write_no_nine_digits (value : Text)
    (none : ∀ zone gap addOn, ¬IsNineDigits (normalize value) zone gap addOn) :
    writeZipCode value = normalize value := by
  have unread : nineDigits? (normalize value) = Option.none := by
    cases read : nineDigits? (normalize value) with
    | none => rfl
    | some parts =>
        obtain ⟨gap, nine⟩ := (nine_digits_eq_some_iff _ parts.1 parts.2).1 read
        exact absurd nine (none _ gap _)
  rw [writeZipCode, unread]

theorem digits_kept (count : Nat) (text : Text) (digits : isDigits count text = true) :
    text.filter isDigit = text :=
  List.filter_eq_self.2 ((is_digits_iff count text).1 digits).2

theorem IsNineDigits.digits {value zone gap addOn : Text}
    (nine : IsNineDigits value zone gap addOn) : value.filter isDigit = zone ++ addOn := by
  have noGap : gap.filter isDigit = [] := by
    rw [List.filter_eq_nil_iff]
    intro letter member
    simp [nine.digitless letter member]
  rw [nine.parted, List.filter_append, List.filter_append, noGap, List.nil_append,
    digits_kept 5 zone nine.zoneDigits, digits_kept 4 addOn nine.addOnDigits]

theorem write_zip_code_digits (value : Text) :
    (writeZipCode value).filter isDigit = value.filter isDigit := by
  rw [← normalize_digits value]
  by_cases nine : ∃ zone gap addOn, IsNineDigits (normalize value) zone gap addOn
  · obtain ⟨zone, gap, addOn, nine⟩ := nine
    have hyphened := nine_digits_hyphened zone addOn nine.zoneDigits nine.addOnDigits
    rw [write_nine_digits value zone gap addOn nine, hyphened.digits, nine.digits]
  · rw [write_no_nine_digits value fun zone gap addOn found => nine ⟨zone, gap, addOn, found⟩]

theorem write_zip_code_again_iff (value : Text) :
    writeZipCode (writeZipCode value) = writeZipCode value ↔
      (∃ zone gap addOn, IsNineDigits (normalize value) zone gap addOn) ∨ ¬JoinsHalves value := by
  rw [write_zip_code_again, Text.upper_eq_self_iff]
  by_cases nine : ∃ zone gap addOn, IsNineDigits (normalize value) zone gap addOn
  · obtain ⟨zone, gap, addOn, nine⟩ := nine
    rw [write_nine_digits value zone gap addOn nine]
    exact iff_of_true (plain_upper _ (hyphened_plain zone addOn nine.zoneDigits nine.addOnDigits))
      (.inl ⟨zone, gap, addOn, nine⟩)
  · rw [write_no_nine_digits value fun zone gap addOn found => nine ⟨zone, gap, addOn, found⟩,
      normalize_is_upper_iff]
    simp [nine]

/-- Nine digits get a hyphen, any other value its normal form, and no digit is lost, added or moved.
What is written is written so again, unless halves meet over a mark in it. -/
theorem write_zip_code_formats (value : Text) :
    (∀ zone gap addOn, IsNineDigits (normalize value) zone gap addOn →
        writeZipCode value = zone ++ '-' :: addOn) ∧
      ((∀ zone gap addOn, ¬IsNineDigits (normalize value) zone gap addOn) →
        writeZipCode value = normalize value) ∧
      (writeZipCode value).filter isDigit = value.filter isDigit ∧
      writeZipCode (writeZipCode value) = (writeZipCode value).upper ∧
      (writeZipCode (writeZipCode value) = writeZipCode value ↔
        (∃ zone gap addOn, IsNineDigits (normalize value) zone gap addOn) ∨ ¬JoinsHalves value) :=
  ⟨write_nine_digits value, write_no_nine_digits value, write_zip_code_digits value,
    write_zip_code_again value, write_zip_code_again_iff value⟩

theorem split_letter_written_again :
    writeZipCode (writeZipCode Text.splitLetter) ≠ writeZipCode Text.splitLetter := by
  decide +kernel

/-- A gap of letters and blanks goes, and a gap with a digit in it is none. -/
example : writeZipCode " 20500 (ext.)1234".toList = "20500-1234".toList ∧
    writeZipCode "20500-1-1234".toList = "20500-1-1234".toList := by
  decide +kernel

/-- A ZIP code as it is written. -/
def IsZipCode (text : Text) : Prop := ∃ zip plus4, IsZipWord text zip plus4

/-- A value with the digits of a ZIP code: five of them alone, or nine with or without a gap. -/
def HasZipDigits (value : Text) : Prop :=
  isDigits 5 value = true ∨ ∃ zone gap addOn, IsNineDigits value zone gap addOn

theorem has_zip_digits_iff (value : Text) :
    HasZipDigits value ↔ isDigits 5 value = true ∨ (nineDigits? value).isSome = true := by
  simp only [Option.isSome_iff_exists, Prod.exists, nine_digits_eq_some_iff, HasZipDigits]
  grind

instance (text : Text) : Decidable (IsZipCode text) :=
  decidable_of_iff ((zipWord? text).isSome = true) (by
    simp only [Option.isSome_iff_exists, Prod.exists, zip_word_eq_some_iff, IsZipCode])

instance (value : Text) : Decidable (HasZipDigits value) :=
  decidable_of_iff _ (has_zip_digits_iff value).symm

theorem HasZipDigits.of_zip_code {text : Text} (code : IsZipCode text) : HasZipDigits text := by
  obtain ⟨zip, plus4, zipWord⟩ := code
  cases zipWord with
  | five _ digits => exact .inl digits
  | nine _ _ digits addOn =>
      exact .inr ⟨zip, ['-'], plus4, nine_digits_hyphened zip plus4 digits addOn⟩

theorem IsTidy.zip_digits_upper_iff {text : Text} (tidy : IsTidy text) :
    HasZipDigits text.upper ↔ HasZipDigits text := by
  rw [has_zip_digits_iff, has_zip_digits_iff, tidy.is_digits_upper, tidy.nine_digits_upper]

/-- What is written is a ZIP code exactly if it has the digits of one. -/
theorem write_zip_code_iff (value : Text) :
    IsZipCode (writeZipCode value) ↔ HasZipDigits (normalize value) := by
  by_cases nine : ∃ zone gap addOn, IsNineDigits (normalize value) zone gap addOn
  · obtain ⟨zone, gap, addOn, nine⟩ := nine
    rw [write_nine_digits value zone gap addOn nine]
    exact iff_of_true ⟨zone, addOn, .nine zone addOn nine.zoneDigits nine.addOnDigits⟩
      (.inr ⟨zone, gap, addOn, nine⟩)
  · rw [write_no_nine_digits value fun zone gap addOn found => nine ⟨zone, gap, addOn, found⟩]
    constructor
    · exact HasZipDigits.of_zip_code
    · intro shaped
      exact ⟨normalize value, [], .five _ (shaped.resolve_right nine)⟩

/-- An extension of four digits, whatever else stands in front of them. -/
def IsAddOn (plus4 : Text) : Prop :=
  ∃ gap addOn, plus4 = gap ++ addOn ∧ (∀ letter ∈ gap, isDigit letter = false) ∧
    isDigits 4 addOn = true

theorem is_add_on_iff (plus4 : Text) :
    IsAddOn plus4 ↔ isDigits 4 (plus4.dropWhile fun letter => !isDigit letter) = true := by
  constructor
  · rintro ⟨gap, addOn, rfl, digitless, digits⟩
    rwa [drop_digitless gap digitless 4 addOn digits]
  · intro digits
    refine ⟨_, _, List.takeWhile_append_dropWhile.symm, fun letter member => ?_, digits⟩
    simpa using List.mem_takeWhile_imp member

instance (plus4 : Text) : Decidable (IsAddOn plus4) :=
  decidable_of_iff _ (is_add_on_iff plus4).symm

/-- Behind a hyphen four digits extend five. Nine have no room for more. -/
theorem zip_digits_extended_iff (zip plus4 : Text) (shaped : HasZipDigits zip) :
    HasZipDigits (zip ++ '-' :: plus4) ↔ isDigits 5 zip = true ∧ IsAddOn plus4 := by
  constructor
  · rintro (five | ⟨zone, gap, addOn, nine⟩)
    · exact absurd (by simp) (digits_no_hyphen 5 _ five)
    · have zoneSize := ((is_digits_iff 5 zone).1 nine.zoneDigits).1
      rcases shaped with five | ⟨firstZone, firstGap, firstAddOn, first⟩
      · have sizes : zip.length = zone.length := by
          rw [((is_digits_iff 5 zip).1 five).1, zoneSize]
        have behind : '-' :: plus4 = gap ++ addOn := (List.append_inj nine.parted sizes).2
        cases gap with
        | nil =>
            have hyphen : '-' ∈ addOn := by rw [← List.nil_append addOn, ← behind]; exact .head _
            exact absurd hyphen (digits_no_hyphen 4 addOn nine.addOnDigits)
        | cons head others =>
            cases behind
            exact ⟨five, others, addOn, rfl,
              fun letter member => nine.digitless letter (.tail _ member), nine.addOnDigits⟩
      · have sizes : firstZone.length = zone.length := by
          rw [((is_digits_iff 5 firstZone).1 first.zoneDigits).1, zoneSize]
        have whole := nine.parted
        rw [first.parted, List.append_assoc] at whole
        have behind := (List.append_inj whole sizes).2
        -- The hyphen would have to be in the new gap or behind it: the one has the digits of the
        -- old extension in it, the other is digits alone.
        rcases List.append_eq_append_iff.1 behind with ⟨between, sameGap, _⟩ | ⟨_, _, sameAddOn⟩
        · obtain ⟨size, digits⟩ := (is_digits_iff 4 firstAddOn).1 first.addOnDigits
          obtain ⟨digit, others, begins⟩ := List.exists_cons_of_length_eq_add_one size
          have inside := nine.digitless digit (by simp [sameGap, begins])
          rw [digits digit (by simp [begins])] at inside
          cases inside
        · exact absurd (by simp [sameAddOn]) (digits_no_hyphen 4 addOn nine.addOnDigits)
  · rintro ⟨five, gap, addOn, rfl, digitless, addOnDigits⟩
    refine .inr ⟨zip, '-' :: gap, addOn, rfl, five, ?_, addOnDigits⟩
    intro letter member
    rcases List.mem_cons.1 member with rfl | inGap
    · decide
    · exact digitless letter inGap

theorem HasZipDigits.given {value : Text} (shaped : HasZipDigits value) : value ≠ [] := by
  rintro rfl
  exact absurd shaped (by decide)

namespace Bag

theorem canonical_listed (bag : Bag) (fields : List Component) (component : Component)
    (listed : component ∈ fields) :
    (bag.canonical fields).value component = component.canonical (bag.value component) := by
  rw [canonical, value_of_values, if_pos (by simpa using listed)]

/-- What extends the ZIP code of a bag goes with it: nothing, or four digits behind five. -/
def ExtendsZip (bag : Bag) : Prop :=
  normalize (bag.value .zipPlus4) = [] ∨
    isDigits 5 (normalize (bag.value .zipCode)) = true ∧ IsAddOn (normalize (bag.value .zipPlus4))

instance (bag : Bag) : Decidable bag.ExtendsZip := inferInstanceAs (Decidable (_ ∨ _))

theorem whole_zip_code_iff (bag : Bag) (fields : List Component) (zipListed : .zipCode ∈ fields)
    (plus4Listed : .zipPlus4 ∈ fields)
    (shaped : HasZipDigits (normalize (bag.value .zipCode))) :
    IsZipCode (bag.canonical fields).wholeZip ↔ bag.ExtendsZip := by
  have given := shaped.given
  have hyphen : IsNormal ['-'] := plain_normal _ (List.forall_mem_singleton.2 (by decide))
  rw [wholeZip, has, has, bag.canonical_listed fields _ zipListed,
    bag.canonical_listed fields _ plus4Listed, Component.canonical_of_no_table _ rfl,
    Component.canonical_of_no_table _ rfl, if_pos (by simpa using given), write_zip_code_iff,
    ExtendsZip]
  by_cases none : normalize (bag.value .zipPlus4) = []
  · have again := (normalize_normal (bag.value .zipCode)).toIsTidy.zip_digits_upper_iff
    simp [none, normalize_normalize, again, shaped]
  · have joined := (normalize_normal (bag.value .zipCode)).join_by (normalize_normal _) '-'
      hyphen.toIsTidy.clear given none
    rw [if_pos (by simpa using none), joined.normalize_eq_upper, joined.toIsTidy.zip_digits_upper_iff,
      zip_digits_extended_iff _ _ shaped]
    simp [none]

end Bag

namespace StandardAddress

theorem single_zip (bag : Bag) :
    (singleComponents bag).value .zipCode = (bag.canonical Component.all).wholeZip := by
  rw [singleComponents, Bag.value_of_values]

theorem side_zip_eq_nil_iff (bag : Bag) :
    (sideComponents bag).value .zipCode = [] ↔ normalize (bag.value .zipCode) = [] := by
  have zip : (bag.canonical sideFields).value .zipCode = normalize (bag.value .zipCode) := by
    rw [bag.canonical_listed _ _ (by decide), Component.canonical_of_no_table _ rfl]
  have kept := (bag.canonical sideFields).whole_zip_ne_nil_iff (zip ▸ normalize_normal _)
  rw [side_zip, ← zip]
  exact not_iff_not.1 kept

theorem of_streets_zip (first second : Bag) :
    (ofStreets first second).zipCode =
      if normalize (first.value .zipCode) = [] then (sideComponents second).value .zipCode
      else (sideComponents first).value .zipCode := by
  simp only [ofStreets, ofLines, Place.orElse, Place.ofBag, List.isEmpty_iff,
    side_zip_eq_nil_iff]

end StandardAddress

/-- A ZIP code comes out in its written form exactly if what extends it goes with it. It is the ZIP
code of the whole address if no bag in front has one. -/
theorem standardized_zip_code_iff (components : Components) (place : Nat) (bag : Bag)
    (listed : components.bags[place]? = some bag)
    (shaped : HasZipDigits (normalize (bag.value .zipCode))) :
    ∃ standard, (standardize components).components.bags[place]? = some standard ∧
      (IsZipCode (standard.value .zipCode) ↔ bag.ExtendsZip) ∧
      ((∀ other ∈ components.bags.take place, normalize (other.value .zipCode) = []) →
        (standardize components).zipCode = standard.value .zipCode) := by
  cases components with
  | single only =>
      cases place with
      | zero =>
          cases listed
          refine ⟨_, rfl, ?_, fun _ => rfl⟩
          rw [StandardAddress.single_zip]
          exact bag.whole_zip_code_iff _ (by decide) (by decide) shaped
      | succ later => cases listed
  | pair first second =>
      have written : IsZipCode ((StandardAddress.sideComponents bag).value .zipCode) ↔
          bag.ExtendsZip := by
        rw [StandardAddress.side_zip]
        exact bag.whole_zip_code_iff _ (by decide) (by decide) shaped
      have zip := StandardAddress.of_streets_zip first second
      cases place with
      | zero =>
          cases listed
          rw [if_neg shaped.given] at zip
          exact ⟨_, rfl, written, fun _ => zip⟩
      | succ later =>
          cases later with
          | zero =>
              cases listed
              refine ⟨_, rfl, written, fun zipless => ?_⟩
              rw [if_pos (zipless first (.head _))] at zip
              exact zip
          | succ _ => cases listed

def zipBag (zip plus4 : Text) : Bag := (Bag.empty.set .zipCode zip).set .zipPlus4 plus4

/-- A first street without a ZIP code, and a second one with blanks and a word around the digits. -/
theorem second_zip_extended :
    let first := Bag.empty.set .streetName "Main".toList
    let second := zipBag " 20500 ".toList "ext. 0005".toList
    HasZipDigits (normalize (second.value .zipCode)) ∧ second.ExtendsZip ∧
      (standardize (.pair first second)).zipCode = "20500-0005".toList ∧
      IsZipCode (standardize (.pair first second)).zipCode := by
  intro first second
  have shaped : HasZipDigits (normalize (second.value .zipCode)) := by decide +kernel
  have extended : second.ExtendsZip := by decide +kernel
  obtain ⟨standard, _, written, whole⟩ :=
    standardized_zip_code_iff (.pair first second) 1 second rfl shaped
  refine ⟨shaped, extended, by decide +kernel, ?_⟩
  rw [whole (List.forall_mem_singleton.2 (by decide +kernel))]
  exact written.2 extended

/-- A code that has its extension already is extended by it once more. -/
theorem nine_digits_extended_again :
    let bag := zipBag "20500-1234".toList "1234".toList
    HasZipDigits (normalize (bag.value .zipCode)) ∧
      (standardize (.single bag)).zipCode = "20500-1234-1234".toList ∧
      ¬IsZipCode (standardize (.single bag)).zipCode := by
  decide +kernel

end PostalAddress
