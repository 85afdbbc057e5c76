import PostalAddress.Proofs.Canonical

/-!
What settling the units of canonical values leaves: an occupancy with a designator that abbreviates
itself in uppercase, unless there is no unit at all, and an identifier that is a normal form but
for list punctuation in front of it. Settling again finds nothing to do.
-/

namespace PostalAddress

/-- What is left of a normal form when words are cut off its front. -/
structure IsRemainder (text : Text) : Prop extends IsTidy text where
  start : ∀ letter ∈ text.head?, isBlank letter = false

def BeginsWithListMark (text : Text) : Prop := text.head? = some ',' ∨ text.head? = some ';'

instance (text : Text) : Decidable (BeginsWithListMark text) :=
  inferInstanceAs (Decidable (_ ∨ _))

theorem IsNormal.not_begins {text : Text} (normal : IsNormal text) : ¬BeginsWithListMark text := by
  rintro (comma | semicolon)
  · exact absurd (normal.first ',' comma) (by decide)
  · exact absurd (normal.first ';' semicolon) (by decide)

theorem IsNormal.remainder {text : Text} (normal : IsNormal text) : IsRemainder text where
  toIsTidy := normal.toIsTidy
  start letter member := not_blank_of_not_edge letter (normal.first letter member)

theorem IsTidy.remainder_behind_space {front rest : Text} (tidy : IsTidy (front ++ ' ' :: rest)) :
    IsRemainder rest := by
  have within : rest <:+ front ++ ' ' :: rest := ⟨front ++ [' '], by simp⟩
  refine ⟨tidy.suffix within, fun letter member => ?_⟩
  have spaced : IsTidy (' ' :: rest) := tidy.suffix ⟨front, rfl⟩
  have apart := (List.isChain_cons.1 spaced.squeezed.apart).1 letter member
  by_contra blank
  have space := spaced.squeezed.spaces letter (by simp [List.mem_of_head? member])
    (by simpa using blank)
  exact apart ⟨rfl, space⟩

theorem IsRemainder.normal_iff {text : Text} (remainder : IsRemainder text) :
    IsNormal text ↔ ¬BeginsWithListMark text := by
  refine ⟨IsNormal.not_begins, fun unmarked => remainder.toIsTidy.normal fun letter member => ?_⟩
  simp only [isEdgeMark, remainder.start letter member, Bool.false_or, Bool.or_eq_false_iff,
    decide_eq_false_iff_not]
  constructor <;> rintro rfl
  · exact unmarked (.inl member)
  · exact unmarked (.inr member)

/-- Normalizing takes the list punctuation off, and puts two halves in uppercase that have met;
both show. -/
theorem IsRemainder.normalize_iff {text : Text} (remainder : IsRemainder text) :
    normalize text = text ↔ text.IsUpper ∧ ¬BeginsWithListMark text := by
  rw [normalize_eq_self_iff_normal, remainder.normal_iff, and_comm]

theorem unit_short_ne_nil (word short : Text) (found : units.short? word = some short) :
    short ≠ [] := by
  rintro rfl
  have again := (AbbreviationTable.units_closed.short_short word [] found).2
  rw [AbbreviationTable.units_closed.named] at again
  cases again

theorem number_sign_normal : IsNormal ['#'] := plain_normal _ (List.forall_mem_singleton.2 (by decide))

theorem number_sign_lookup : units.lookup ['#'] = Text.upper ['#'] := by decide +kernel

namespace UnitText

theorem of_text_nil : ofText? [] = none := by
  rw [ofText?, List.takeWhile_nil, AbbreviationTable.units_closed.named, Option.map_none]

theorem of_text_parts (value : Text) (unit : UnitText) (found : ofText? value = some unit) :
    ∃ word, units.short? word = some unit.designator ∧
      (value = word ∧ unit.identifier = [] ∨ value = word ++ ' ' :: unit.identifier) := by
  obtain ⟨designator, short, rfl⟩ := Option.map_eq_some_iff.1 found
  refine ⟨_, short, ?_⟩
  have split := List.takeWhile_append_dropWhile (p := fun letter => decide (letter ≠ ' ')) (l := value)
  have stopped := Text.head_drop_while_not (fun letter => decide (letter ≠ ' ')) value
  have behind : value.drop (value.takeWhile fun letter => decide (letter ≠ ' ')).length =
      value.dropWhile fun letter => decide (letter ≠ ' ') := by
    conv_lhs => rw [← split, List.drop_left' (by rw [split])]
  rw [behind]
  cases rest : value.dropWhile fun letter => decide (letter ≠ ' ') with
  | nil =>
      rw [rest, List.append_nil] at split
      exact .inl ⟨split.symm, rfl⟩
  | cons letter others =>
      have space : letter = ' ' := by simpa using stopped letter (by rw [rest]; rfl)
      rw [rest, space] at split
      exact .inr split.symm

/-- A unit whose designator is in normal form and abbreviates its uppercase, and whose identifier
was cut off a normal form. -/
structure IsClean (unit : UnitText) : Prop where
  normal : IsNormal unit.designator
  designator : units.lookup unit.designator = unit.designator.upper
  identifier : IsRemainder unit.identifier

theorem empty_normal : IsNormal [] := plain_normal [] (by simp)

theorem empty_clean : empty.IsClean :=
  ⟨empty_normal,
    by rw [empty, AbbreviationTable.lookup, normalize_nil, AbbreviationTable.units_closed.named]; rfl,
    empty_normal.remainder⟩

theorem of_text_clean (value : Text) (remainder : IsRemainder value) (unit : UnitText)
    (found : ofText? value = some unit) : unit.IsClean := by
  obtain ⟨word, short, parts⟩ := of_text_parts value unit found
  have plain := (AbbreviationTable.units_closed.short_short word _ short).1
  refine ⟨plain_normal _ plain, ?_, ?_⟩
  · rw [AbbreviationTable.units_closed.lookup_short word _ short, (plain_upper _ plain).upper]
  rcases parts with ⟨_, none⟩ | split
  · rw [none]
    exact empty_normal.remainder
  · rw [split] at remainder
    exact remainder.toIsTidy.remainder_behind_space

theorem drop_number_sign_suffix (value : Text) : dropNumberSign value <:+ value := by
  unfold dropNumberSign
  split
  case h_1 => exact (List.dropWhile_suffix _).trans (List.suffix_cons _ _)
  case h_2 => exact List.suffix_refl _

theorem drop_number_sign_remainder (value : Text) (remainder : IsRemainder value) :
    IsRemainder (dropNumberSign value) := by
  refine ⟨remainder.toIsTidy.suffix (drop_number_sign_suffix value), ?_⟩
  unfold dropNumberSign
  split
  case h_1 rest => exact Text.head_drop_while_not isBlank rest
  case h_2 => exact remainder.start

theorem designated_clean (unit : UnitText) (clean : unit.IsClean) : unit.designated.IsClean := by
  have remainder := drop_number_sign_remainder _ clean.identifier
  unfold designated
  split
  case isFalse => exact clean
  case isTrue =>
    cases found : ofText? (dropNumberSign unit.identifier) with
    | some folded => exact of_text_clean _ remainder folded found
    | none => exact ⟨number_sign_normal, number_sign_lookup, remainder⟩

structure IsUpper (unit : UnitText) : Prop where
  designator : unit.designator.IsUpper
  identifier : unit.identifier.IsUpper

theorem empty_is_upper : empty.IsUpper := ⟨plain_upper [] (by simp), plain_upper [] (by simp)⟩

theorem of_text_is_upper (value : Text) (upper : value.IsUpper) (unit : UnitText)
    (found : ofText? value = some unit) : unit.IsUpper := by
  obtain ⟨word, short, parts⟩ := of_text_parts value unit found
  refine ⟨plain_upper _ (AbbreviationTable.units_closed.short_short word _ short).1, ?_⟩
  rcases parts with ⟨_, none⟩ | rfl
  · rw [none]
    exact empty_is_upper.identifier
  · exact upper.part ⟨word ++ [' '], [], by simp⟩

theorem designated_is_upper (unit : UnitText) (upper : unit.IsUpper) : unit.designated.IsUpper := by
  have dropped := upper.identifier.part (drop_number_sign_suffix unit.identifier).isInfix
  unfold designated
  split
  case isFalse => exact upper
  case isTrue =>
    cases found : ofText? (dropNumberSign unit.identifier) with
    | some folded => exact of_text_is_upper _ dropped folded found
    | none => exact ⟨plain_upper ['#'] (List.forall_mem_singleton.2 (by decide)), dropped⟩

theorem designated_complete (unit : UnitText) (lacking : unit.designated.designator = []) :
    unit = .empty := by
  unfold designated at lacking
  split at lacking
  case isTrue =>
    cases found : ofText? (dropNumberSign unit.identifier) with
    | some folded =>
        obtain ⟨word, short, _⟩ := of_text_parts _ folded found
        rw [found, Option.getD_some] at lacking
        exact absurd lacking (unit_short_ne_nil word _ short)
    | none =>
        rw [found, Option.getD_none] at lacking
        cases lacking
  case isFalse given =>
    simp only [lacking, List.isEmpty_nil, Bool.true_and, Bool.not_eq_true', Bool.not_eq_false,
      List.isEmpty_iff] at given
    obtain ⟨designator, identifier⟩ := unit
    simp only at lacking given
    rw [lacking, given]
    rfl

end UnitText

namespace UnitPair

structure IsClean (pair : UnitPair) : Prop where
  occupancy : pair.occupancy.IsClean
  subaddress : pair.subaddress.IsClean
  larger : IsNormal pair.subaddress.identifier

/-- Clean units, of which the larger one and the identifier never stand alone. -/
structure IsSettled (pair : UnitPair) : Prop extends IsClean pair where
  complete : pair.occupancy.designator = [] → pair = ⟨.empty, .empty⟩

def tidied (pair : UnitPair) : UnitPair :=
  ⟨⟨pair.occupancy.designator.upper, normalize pair.occupancy.identifier⟩,
    ⟨pair.subaddress.designator.upper, pair.subaddress.identifier.upper⟩⟩

theorem IsSettled.tidied {pair : UnitPair} (settled : pair.IsSettled) : pair.tidied.IsSettled := by
  have again (designator : Text) (clean : units.lookup designator = designator.upper) :
      units.lookup designator.upper = designator.upper.upper := by
    rw [AbbreviationTable.lookup_upper, clean, Text.upper_upper]
  refine ⟨⟨?occupancy, ?subaddress, settled.larger.upper⟩, ?complete⟩
  case occupancy =>
    exact ⟨settled.occupancy.normal.upper, again _ settled.occupancy.designator,
      (normalize_normal _).remainder⟩
  case subaddress =>
    exact ⟨settled.subaddress.normal.upper, again _ settled.subaddress.designator,
      settled.larger.upper.remainder⟩
  case complete =>
    intro lacking
    rw [settled.complete ((Text.upper_eq_nil_iff _).1 lacking)]
    rfl

theorem is_empty_iff (unit : UnitText) : unit.isEmpty = true ↔ unit = .empty := by
  obtain ⟨designator, identifier⟩ := unit
  simp [UnitText.isEmpty, UnitText.empty]

theorem of_bag_clean (bag : Bag)
    (canonical : ∀ component : Component, component.IsCanonical (bag.value component)) :
    (ofBag bag).IsClean := by
  have unit (designator identifier : Component) (given : designator.table? = some units) :
      UnitText.IsClean ⟨bag.value designator, bag.value identifier⟩ := by
    refine ⟨(canonical designator).normal, ?_, (canonical identifier).normal.remainder⟩
    rw [← designator.canonical_of_table units given, (canonical designator).again]
  exact ⟨unit .occupancyType .occupancyIdentifier rfl,
    unit .subaddressType .subaddressIdentifier rfl, (canonical .subaddressIdentifier).normal⟩

theorem fill_from_names_clean (pair : UnitPair) (clean : pair.IsClean) (names : List Text)
    (normal : ∀ name ∈ names, IsNormal name) : (pair.fillFromNames names).IsClean := by
  unfold fillFromNames
  split
  case isFalse => exact clean
  case isTrue =>
    refine ⟨?_, UnitText.empty_clean, UnitText.empty_normal⟩
    cases found : names.findSome? UnitText.ofText? with
    | none => exact UnitText.empty_clean
    | some unit =>
        obtain ⟨name, member, folded⟩ := List.exists_of_findSome?_eq_some found
        exact UnitText.of_text_clean name (normal name member).remainder unit folded

theorem promote_clean (pair : UnitPair) (clean : pair.IsClean) : pair.promote.IsClean := by
  unfold promote
  split
  case isTrue => exact ⟨clean.subaddress, UnitText.empty_clean, UnitText.empty_normal⟩
  case isFalse => exact clean

theorem promote_complete (pair : UnitPair) (lacking : pair.promote.occupancy = .empty) :
    pair.promote.subaddress = .empty := by
  unfold promote at lacking ⊢
  split at lacking
  case isTrue empty => simp [empty]
  case isFalse given => exact absurd ((is_empty_iff _).2 lacking) given

theorem promoted_clean (bag : Bag)
    (canonical : ∀ component : Component, component.IsCanonical (bag.value component)) :
    ((ofBag bag).fillFromNames
      [bag.value .buildingName, bag.value .landmarkName]).promote.IsClean := by
  have named : ∀ name ∈ [bag.value .buildingName, bag.value .landmarkName], IsNormal name := by
    intro name member
    simp only [List.mem_cons, List.not_mem_nil, or_false] at member
    rcases member with rfl | rfl
    · exact (canonical .buildingName).normal
    · exact (canonical .landmarkName).normal
  exact promote_clean _ (fill_from_names_clean _ (of_bag_clean bag canonical) _ named)

theorem settle_settled (bag : Bag)
    (canonical : ∀ component : Component, component.IsCanonical (bag.value component)) :
    (settle bag).IsSettled := by
  have promoted := promoted_clean bag canonical
  refine ⟨⟨UnitText.designated_clean _ promoted.occupancy, promoted.subaddress, promoted.larger⟩, ?_⟩
  intro lacking
  have empty := UnitText.designated_complete _ lacking
  have alone := promote_complete _ empty
  simp only [settle, empty, alone]
  rfl

/-- Units are cut out of the values and written with terms of the tables, so they are in uppercase
where the values are. -/
theorem settle_is_upper (bag : Bag) (upper : ∀ component, (bag.value component).IsUpper) :
    (settle bag).occupancy.IsUpper ∧ (settle bag).subaddress.IsUpper := by
  let filled := (ofBag bag).fillFromNames [bag.value .buildingName, bag.value .landmarkName]
  have filledUpper : filled.occupancy.IsUpper ∧ filled.subaddress.IsUpper := by
    simp only [filled, fillFromNames]
    split
    case isFalse => exact ⟨⟨upper _, upper _⟩, ⟨upper _, upper _⟩⟩
    case isTrue =>
      refine ⟨?_, UnitText.empty_is_upper⟩
      cases found : [bag.value .buildingName, bag.value .landmarkName].findSome? UnitText.ofText? with
      | none => exact UnitText.empty_is_upper
      | some unit =>
          obtain ⟨name, member, folded⟩ := List.exists_of_findSome?_eq_some found
          rcases List.mem_pair.1 member with rfl | rfl
          · exact UnitText.of_text_is_upper _ (upper _) unit folded
          · exact UnitText.of_text_is_upper _ (upper _) unit folded
  have promotedUpper : filled.promote.occupancy.IsUpper ∧ filled.promote.subaddress.IsUpper := by
    rw [promote]
    split
    case isTrue => exact ⟨filledUpper.2, UnitText.empty_is_upper⟩
    case isFalse => exact filledUpper
  exact ⟨UnitText.designated_is_upper _ promotedUpper.1, promotedUpper.2⟩

theorem IsSettled.settle (bag : Bag) (settled : (ofBag bag).IsSettled)
    (building : bag.value .buildingName = []) (landmark : bag.value .landmarkName = []) :
    settle bag = ofBag bag := by
  by_cases lacking : (ofBag bag).occupancy.designator = []
  · have empty := settled.complete lacking
    simp only [UnitPair.settle, empty, building, landmark, fillFromNames, promote,
      List.findSome?_cons, UnitText.of_text_nil, List.findSome?_nil]
    rfl
  · have given : (ofBag bag).occupancy.designator.isEmpty = false := by simpa using lacking
    simp only [UnitPair.settle, fillFromNames, promote, UnitText.designated, UnitText.isEmpty, given,
      Bool.false_and, Bool.false_eq_true, if_false]

end UnitPair

end PostalAddress
