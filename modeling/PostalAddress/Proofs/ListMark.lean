import PostalAddress.Proofs.CutText
import PostalAddress.Proofs.UnitPair

/-!
Which unit fields end up with an identifier that begins with list punctuation. The punctuation comes
to the front when a number sign or a designator in front of it is taken off, so it is found by
looking behind these in what the occupancy is made of.
-/

namespace PostalAddress

/-- List punctuation stands at the front, or behind a designator at the front. -/
def HidesListMark (value : Text) : Prop :=
  BeginsWithListMark value ∨
    ∃ word rest, units.contains word = true ∧ value = word ++ ' ' :: rest ∧ BeginsWithListMark rest

theorem unit_terms_plain : (units.terms.all fun term => term.all isPlain) = true := by
  decide +kernel

theorem unit_word_plain (word : Text) (known : units.contains word = true) (letter : Char)
    (member : letter ∈ word) : isPlain letter = true := by
  obtain ⟨short, found⟩ := Option.isSome_iff_exists.1 known
  have plain := List.all_eq_true.1 unit_terms_plain word (units.mem_terms word short found)
  exact List.all_eq_true.1 plain letter member

theorem unit_word_no_space (word : Text) (known : units.contains word = true) : ' ' ∉ word :=
  fun member => absurd (unit_word_plain word known ' ' member) (by decide)

theorem unit_word_not_begins (word : Text) (known : units.contains word = true) :
    ¬BeginsWithListMark word :=
  (plain_normal word (unit_word_plain word known)).not_begins

namespace UnitText

theorem of_text_word (word : Text) (absent : ' ' ∉ word) :
    ofText? word = (units.short? word).map fun designator => ⟨designator, []⟩ := by
  simp only [ofText?, (Text.take_while_uncut ' ' word absent).1, List.drop_length, List.drop_nil]

theorem of_text_behind_word (word rest : Text) (absent : ' ' ∉ word) :
    ofText? (word ++ ' ' :: rest) = (units.short? word).map fun designator => ⟨designator, rest⟩ := by
  simp only [ofText?, (Text.take_while_cut ' ' word rest absent).1, List.drop_left]
  rfl

theorem of_text_begins (value : Text) (begins : BeginsWithListMark value) :
    ofText? value = none := by
  cases found : ofText? value with
  | none => rfl
  | some unit =>
      obtain ⟨word, short, parts⟩ := of_text_parts value unit found
      have known : units.contains word = true := by simp [AbbreviationTable.contains, short]
      have first : value.head? = word.head? := by
        rcases parts with ⟨rfl, _⟩ | rfl
        · rfl
        · cases word with
          | nil =>
              rw [AbbreviationTable.units_closed.named] at short
              cases short
          | cons letter others => rfl
      rw [BeginsWithListMark, first] at begins
      exact absurd begins (unit_word_not_begins word known)

theorem of_text_hides (value : Text) (unit : UnitText) (found : ofText? value = some unit) :
    BeginsWithListMark unit.identifier ↔ HidesListMark value := by
  constructor
  · intro begins
    obtain ⟨word, short, ⟨_, empty⟩ | parts⟩ := of_text_parts value unit found
    · rw [empty] at begins
      rcases begins with comma | semicolon
      · cases comma
      · cases semicolon
    · exact .inr ⟨word, unit.identifier, by simp [AbbreviationTable.contains, short], parts, begins⟩
  · rintro (begins | ⟨word, rest, known, rfl, begins⟩)
    · rw [of_text_begins value begins] at found
      cases found
    · rw [of_text_behind_word word rest (unit_word_no_space word known)] at found
      obtain ⟨designator, _, rfl⟩ := Option.map_eq_some_iff.1 found
      exact begins

theorem of_text_hides_none (value : Text) (unfound : ofText? value = none) :
    BeginsWithListMark value ↔ HidesListMark value := by
  refine ⟨.inl, ?_⟩
  rintro (begins | ⟨word, rest, known, rfl, _⟩)
  · exact begins
  · rw [of_text_behind_word word rest (unit_word_no_space word known),
      Option.map_eq_none_iff] at unfound
    simp [AbbreviationTable.contains, unfound] at known

end UnitText

namespace UnitPair

def inUse (pair : UnitPair) : UnitText :=
  if pair.occupancy.isEmpty then pair.subaddress else pair.occupancy

theorem in_use_empty_iff (pair : UnitPair) :
    pair.inUse = .empty ↔ (pair.occupancy.isEmpty && pair.subaddress.isEmpty) = true := by
  rw [← is_empty_iff, inUse]
  split
  case isTrue noOccupancy => simp [noOccupancy]
  case isFalse given => simp [given]

theorem settle_of_names (bag : Bag) (unused : (ofBag bag).inUse = .empty) :
    (settle bag).occupancy = (([bag.value .buildingName,
      bag.value .landmarkName].findSome? UnitText.ofText?).getD .empty).designated := by
  have unitless := (in_use_empty_iff _).1 unused
  simp only [settle, fillFromNames, unitless, if_true, promote]
  split
  case isTrue none => rw [(is_empty_iff _).1 none]
  case isFalse => rfl

theorem settle_of_units (bag : Bag) (used : (ofBag bag).inUse ≠ .empty) :
    (settle bag).occupancy = (ofBag bag).inUse.designated := by
  have units := (in_use_empty_iff _).not.1 used
  simp only [settle, fillFromNames, units, Bool.false_eq_true, if_false, promote, inUse]
  split <;> rfl

end UnitPair

/-- List punctuation hides in the name of a building or a landmark where there is no unit, or in an
identifier without a designator. -/
def Bag.LosesListMark (bag : Bag) : Prop :=
  let unit := (UnitPair.ofBag bag).inUse
  unit = .empty ∧
      (HidesListMark (bag.value .buildingName) ∨
        UnitText.ofText? (bag.value .buildingName) = none ∧
          HidesListMark (bag.value .landmarkName)) ∨
    unit.designator = [] ∧ HidesListMark (UnitText.dropNumberSign unit.identifier)

theorem not_begins_nil : ¬BeginsWithListMark [] := by decide

theorem not_hides_nil : ¬HidesListMark [] := by
  rintro (begins | ⟨word, rest, _, split, _⟩)
  · exact not_begins_nil begins
  · simp at split

theorem designated_begins_iff (unit : UnitText) (normal : IsNormal unit.identifier) :
    BeginsWithListMark unit.designated.identifier ↔
      unit.designator = [] ∧ HidesListMark (UnitText.dropNumberSign unit.identifier) := by
  obtain ⟨designator, identifier⟩ := unit
  simp only at normal ⊢
  cases designator with
  | cons letter others => simp [UnitText.designated, normal.not_begins]
  | nil =>
      cases identifier with
      | nil => simp [UnitText.designated, UnitText.dropNumberSign, not_begins_nil, not_hides_nil]
      | cons letter others =>
          simp only [UnitText.designated, List.isEmpty_nil, List.isEmpty_cons, Bool.not_false,
            Bool.and_true, if_true, true_and]
          cases found : UnitText.ofText? (UnitText.dropNumberSign (letter :: others)) with
          | some folded => exact UnitText.of_text_hides _ folded found
          | none => exact UnitText.of_text_hides_none _ found

theorem designated_of_text (value : Text) (unit : UnitText)
    (found : UnitText.ofText? value = some unit) : unit.designated = unit := by
  obtain ⟨word, short, _⟩ := UnitText.of_text_parts value unit found
  have given := unit_short_ne_nil word _ short
  simp [UnitText.designated, given]

theorem names_begin_iff (building landmark : Text) (buildingNormal : IsNormal building)
    (landmarkNormal : IsNormal landmark) :
    BeginsWithListMark
        (([building, landmark].findSome? UnitText.ofText?).getD .empty).designated.identifier ↔
      HidesListMark building ∨
        UnitText.ofText? building = none ∧ HidesListMark landmark := by
  rw [List.findSome?_cons]
  cases fromBuilding : UnitText.ofText? building with
  | some unit =>
      simp [designated_of_text _ unit fromBuilding, UnitText.of_text_hides _ unit fromBuilding]
  | none =>
      have plainBuilding : ¬HidesListMark building :=
        (UnitText.of_text_hides_none building fromBuilding).not.1 buildingNormal.not_begins
      rw [List.findSome?_cons]
      cases fromLandmark : UnitText.ofText? landmark with
      | some unit =>
          simp [designated_of_text _ unit fromLandmark, UnitText.of_text_hides _ unit fromLandmark,
            plainBuilding]
      | none =>
          have plainLandmark : ¬HidesListMark landmark :=
            (UnitText.of_text_hides_none landmark fromLandmark).not.1 landmarkNormal.not_begins
          have nothing : ¬BeginsWithListMark UnitText.empty.designated.identifier := not_begins_nil
          simp [plainBuilding, plainLandmark, nothing]

theorem settle_begins_iff (bag : Bag) (normal : ∀ component, IsNormal (bag.value component)) :
    BeginsWithListMark (UnitPair.settle bag).occupancy.identifier ↔ bag.LosesListMark := by
  have usedNormal : IsNormal (UnitPair.ofBag bag).inUse.identifier := by
    rw [UnitPair.inUse]
    split
    case isTrue => exact normal .subaddressIdentifier
    case isFalse => exact normal .occupancyIdentifier
  by_cases unused : (UnitPair.ofBag bag).inUse = .empty
  · rw [UnitPair.settle_of_names bag unused,
      names_begin_iff _ _ (normal .buildingName) (normal .landmarkName), Bag.LosesListMark]
    simp only [unused, true_and]
    simp [UnitText.empty, UnitText.dropNumberSign, not_hides_nil]
  · rw [UnitPair.settle_of_units bag unused, designated_begins_iff _ usedNormal, Bag.LosesListMark]
    simp only [unused, false_and, false_or]

end PostalAddress
