import PostalAddress.Proofs.Restandardization
import PostalAddress.Proofs.WrittenForm

/-!
A unit is standardized alike wherever it is filed: in the fields of the occupancy or of the larger
unit, whole or folded into the identifier, or under the name of a building or a landmark. In each
place it comes to the same pair of units, with the short form of its designator, and nothing else of
the address depends on the place. A unit behind a number sign has to be no unit of its own, since
the sign is taken off an identifier before a designator is looked for in it.
-/

namespace PostalAddress

def Component.unitHolders : List Component :=
  [subaddressType, subaddressIdentifier, occupancyType, occupancyIdentifier, buildingName,
    landmarkName]

def UnitText.written (unit : UnitText) : Text :=
  Text.joinNonempty [' '] [unit.designator, unit.identifier]

/-- The places where a unit may be filed. -/
inductive Filing where
  | occupancy
  | foldedOccupancy
  | subaddress
  | foldedSubaddress
  | building
  | landmark

def Bag.file (bag : Bag) (unit : UnitText) : Filing → Bag
  | .occupancy =>
      (bag.set .occupancyType unit.designator).set .occupancyIdentifier unit.identifier
  | .foldedOccupancy => bag.set .occupancyIdentifier unit.written
  | .subaddress =>
      (bag.set .subaddressType unit.designator).set .subaddressIdentifier unit.identifier
  | .foldedSubaddress => bag.set .subaddressIdentifier unit.written
  | .building => bag.set .buildingName unit.written
  | .landmark => bag.set .landmarkName unit.written

theorem Bag.value_set_self (bag : Bag) (component : Component) (value : Text) :
    (bag.set component value).value component = value := by
  rw [Bag.value, get_set_self, Option.getD_some]

theorem Bag.value_set_other (bag : Bag) (component other : Component) (value : Text)
    (different : other ≠ component) : (bag.set component value).value other = bag.value other := by
  rw [Bag.value, get_set_other bag component other value different, Bag.value]

theorem Bag.file_elsewhere (bag : Bag) (unit : UnitText) (filing : Filing) (component : Component)
    (elsewhere : component ∉ Component.unitHolders) :
    (bag.file unit filing).value component = bag.value component := by
  have apart (holder : Component) (listed : holder ∈ Component.unitHolders) : component ≠ holder :=
    fun same => elsewhere (same ▸ listed)
  cases filing <;> simp only [file]
  case occupancy =>
    rw [value_set_other _ _ _ _ (apart .occupancyIdentifier (by decide)),
      value_set_other _ _ _ _ (apart .occupancyType (by decide))]
  case subaddress =>
    rw [value_set_other _ _ _ _ (apart .subaddressIdentifier (by decide)),
      value_set_other _ _ _ _ (apart .subaddressType (by decide))]
  all_goals exact value_set_other _ _ _ _ (apart _ (by decide))

/-- What is standardized of an address depends on its units and on the fields that hold none. -/
theorem StandardAddress.single_components_congr (left right : Bag)
    (settled : UnitPair.settle (left.canonical Component.all) =
      UnitPair.settle (right.canonical Component.all))
    (same : ∀ component, component ∉ Component.unitHolders →
      left.value component = right.value component) :
    singleComponents left = singleComponents right := by
  have canonical (component : Component) (elsewhere : component ∉ Component.unitHolders) :
      (left.canonical Component.all).value component =
        (right.canonical Component.all).value component := by
    rw [left.value_canonical, right.value_canonical, same component elsewhere]
  have zip : (left.canonical Component.all).wholeZip = (right.canonical Component.all).wholeZip := by
    unfold Bag.wholeZip Bag.has
    rw [canonical .zipCode (by decide), canonical .zipPlus4 (by decide)]
  apply congrArg Bag.ofValues
  funext component
  cases component <;> simp only [settled, zip]
  all_goals exact canonical _ (by decide)

/-- The second line of the units that an address is standardized to, if there is no larger one. -/
theorem StandardAddress.second_line_of_settled (bag : Bag) (unit : UnitText)
    (settled : UnitPair.settle (bag.canonical Component.all) = ⟨unit, .empty⟩) :
    (ofBag bag).addressLine2 = Text.joinNonempty [' '] [unit.designator, unit.identifier] := by
  have pair := of_bag_single_components bag
  rw [settled] at pair
  have written : (ofBag bag).addressLine2 = Text.joinNonempty [' ']
      [(UnitPair.ofBag (singleComponents bag)).subaddress.designator,
        (UnitPair.ofBag (singleComponents bag)).subaddress.identifier,
        (UnitPair.ofBag (singleComponents bag)).occupancy.designator,
        (UnitPair.ofBag (singleComponents bag)).occupancy.identifier] := rfl
  rw [written, pair]
  simp [Text.joinNonempty, UnitText.empty]

/-- A known designator in front of an identifier in normal form. Behind a number sign the identifier
begins with no designator of its own. -/
structure UnitText.IsKnown (unit : UnitText) (short : Text) : Prop where
  short : units.short? unit.designator = some short
  normal : IsNormal unit.identifier
  upper : unit.identifier.IsUpper
  parted : unit.designator ≠ ['#'] ∨
    units.contains (unit.identifier.takeWhile (· ≠ ' ')) = false

theorem unit_terms_sign : ∀ term ∈ units.terms, term.head? = some '#' → term = ['#'] := by
  decide +kernel

theorem IsNormal.join_by {left right : Text} (leftNormal : IsNormal left)
    (rightNormal : IsNormal right) (separator : Char) (clear : IsClear [separator])
    (leftGiven : left ≠ []) (rightGiven : right ≠ []) : IsNormal (left ++ separator :: right) := by
  have joined := leftNormal.written.join rightNormal.written clear leftGiven rightGiven
  rw [List.append_assoc, List.singleton_append] at joined
  apply (joined.toIsClear.tidy ?last).normal
  case last =>
    rw [List.getLast?_append_of_ne_nil _ (List.cons_ne_nil _ _),
      List.getLast?_cons_of_ne_nil rightGiven]
    exact rightNormal.last
  rw [List.head?_append_of_ne_nil _ leftGiven]
  exact leftNormal.first

theorem IsNormal.join {left right : Text} (leftNormal : IsNormal left) (rightNormal : IsNormal right)
    (leftGiven : left ≠ []) (rightGiven : right ≠ []) : IsNormal (left ++ ' ' :: right) :=
  leftNormal.join_by rightNormal ' ' (separator_clear _ (by simp) (by simp)) leftGiven rightGiven

namespace UnitText.IsKnown

variable {unit : UnitText} {short : Text} (known : unit.IsKnown short)

include known

theorem contained : units.contains unit.designator = true := by
  rw [AbbreviationTable.contains, known.short, Option.isSome_some]

theorem designator_normal : IsNormal unit.designator :=
  plain_normal _ (unit_word_plain _ known.contained)

theorem designator_upper : unit.designator.IsUpper :=
  plain_upper _ (unit_word_plain _ known.contained)

theorem designator_ne_nil : unit.designator ≠ [] := by
  intro empty
  have found := known.short
  rw [empty, AbbreviationTable.units_closed.named] at found
  cases found

theorem short_ne_nil : short ≠ [] := unit_short_ne_nil _ _ known.short

theorem lookup_designator : units.lookup unit.designator = short := by
  rw [AbbreviationTable.lookup, known.designator_normal.normalize known.designator_upper,
    known.short, Option.getD_some]

theorem written_cases :
    unit.identifier = [] ∧ unit.written = unit.designator ∨
      unit.identifier ≠ [] ∧ unit.written = unit.designator ++ ' ' :: unit.identifier := by
  have given := known.designator_ne_nil
  by_cases empty : unit.identifier = []
  · exact .inl ⟨empty, by simp [written, Text.joinNonempty, given, empty]⟩
  · exact .inr ⟨empty, by simp [written, Text.joinNonempty, given, empty]⟩

theorem written_normal : IsNormal unit.written := by
  have designator := known.designator_normal
  rcases known.written_cases with ⟨_, same⟩ | ⟨given, same⟩
  · rw [same]
    exact designator
  · have joined := IsNormal.join designator known.normal known.designator_ne_nil given
    rwa [same]

theorem written_fixed : normalize unit.written = unit.written := by
  apply known.written_normal.normalize
  apply Text.join_nonempty_upper [' '] (by simp) (by simp)
  intro piece member
  rcases List.mem_pair.1 member with rfl | rfl
  · exact known.designator_upper
  · exact known.upper

theorem of_text_written : UnitText.ofText? unit.written = some ⟨short, unit.identifier⟩ := by
  rcases known.written_cases with ⟨empty, same⟩ | ⟨_, same⟩
  · rw [same, UnitText.of_text_word _ (unit_word_no_space _ known.contained), known.short, empty,
      Option.map_some]
  · rw [same, UnitText.of_text_behind_word _ _ (unit_word_no_space _ known.contained), known.short,
      Option.map_some]

theorem written_ne_nil : unit.written ≠ [] := by
  rcases known.written_cases with ⟨_, same⟩ | ⟨_, same⟩
  · rw [same]
    exact known.designator_ne_nil
  · simp [same]

theorem drop_number_sign_written (noSign : unit.designator ≠ ['#']) :
    UnitText.dropNumberSign unit.written = unit.written := by
  have first : unit.written.head? = unit.designator.head? := by
    rcases known.written_cases with ⟨_, same⟩ | ⟨_, same⟩
    · rw [same]
    · rw [same, List.head?_append_of_ne_nil _ known.designator_ne_nil]
  unfold UnitText.dropNumberSign
  split
  case h_2 => rfl
  case h_1 rest written =>
    rw [written, List.head?_cons] at first
    have term := units.mem_terms _ _ known.short
    exact absurd (unit_terms_sign _ term first.symm) noSign

theorem drop_number_sign_of_sign (sign : unit.designator = ['#']) :
    UnitText.dropNumberSign unit.written = unit.identifier := by
  rcases known.written_cases with ⟨empty, same⟩ | ⟨given, same⟩
  · rw [same, sign, empty]
    rfl
  · rw [same, sign]
    have start : Text.skipBlanks unit.identifier = unit.identifier :=
      Text.drop_while_of_head isBlank _ known.normal.remainder.start
    change Text.skipBlanks (' ' :: unit.identifier) = _
    rw [Text.skipBlanks, List.dropWhile_cons_of_pos (by decide), ← Text.skipBlanks, start]

/-- A folded designator is found again, also a number sign. -/
theorem designated_written :
    (UnitText.mk [] unit.written).designated = ⟨short, unit.identifier⟩ := by
  have folded : (UnitText.mk [] unit.written).designated =
      (UnitText.ofText? (UnitText.dropNumberSign unit.written)).getD
        ⟨['#'], UnitText.dropNumberSign unit.written⟩ := by
    simp [UnitText.designated, known.written_ne_nil]
  rw [folded]
  rcases known.parted with noSign | apart
  · rw [known.drop_number_sign_written noSign, known.of_text_written, Option.getD_some]
  · by_cases sign : unit.designator = ['#']
    · have unfound : UnitText.ofText? unit.identifier = none := by
        rw [AbbreviationTable.contains, Option.isSome_eq_false_iff, Option.isNone_iff_eq_none]
          at apart
        rw [UnitText.ofText?, apart, Option.map_none]
      have itself : units.short? ['#'] = some ['#'] := by decide +kernel
      have found := known.short
      rw [sign, itself] at found
      rw [known.drop_number_sign_of_sign sign, unfound, Option.getD_none, Option.some.inj found]
    · rw [known.drop_number_sign_written sign, known.of_text_written, Option.getD_some]

theorem designated_short :
    (UnitText.mk short unit.identifier).designated = ⟨short, unit.identifier⟩ :=
  designated_of_text unit.written _ known.of_text_written

end UnitText.IsKnown

namespace UnitPair

theorem settle_lone_unit (bag : Bag) (unit : UnitText) (given : unit ≠ .empty)
    (alone : ofBag bag = ⟨unit, .empty⟩ ∨ ofBag bag = ⟨.empty, unit⟩) :
    settle bag = ⟨unit.designated, .empty⟩ := by
  have filled : unit.isEmpty = false := by
    apply Bool.eq_false_iff.2
    intro empty
    exact given ((is_empty_iff unit).1 empty)
  have vacant : UnitText.empty.isEmpty = true := rfl
  rcases alone with pair | pair <;> simp [settle, pair, fillFromNames, promote, filled, vacant]

theorem settle_named_unit (bag : Bag) (unit : UnitText) (unitless : ofBag bag = ⟨.empty, .empty⟩)
    (named : [bag.value .buildingName, bag.value .landmarkName].findSome? UnitText.ofText? =
      some unit) : settle bag = ⟨unit, .empty⟩ := by
  rcases List.exists_of_findSome?_eq_some named with ⟨name, _, found⟩
  have vacant : UnitText.empty.isEmpty = true := rfl
  have filled : unit.isEmpty = false := by
    rcases UnitText.of_text_parts name unit found with ⟨word, short, _⟩
    simp [UnitText.isEmpty, unit_short_ne_nil word _ short]
  simp [settle, unitless, fillFromNames, promote, vacant, named, filled,
    designated_of_text name unit found]

/-- Wherever a known unit is filed, it settles as the only unit, with a short designator. -/
theorem settle_filed (bag : Bag) (unit : UnitText) (short : Text) (known : unit.IsKnown short)
    (free : ∀ component ∈ Component.unitHolders, bag.value component = []) (filing : Filing) :
    settle ((bag.file unit filing).canonical Component.all) =
      ⟨⟨short, unit.identifier⟩, .empty⟩ := by
  have vacant (component : Component) (holder : component ∈ Component.unitHolders) :
      component.canonical (bag.value component) = [] := by
    rw [free component holder, component.canonical_nil]
  have designator (component : Component) (unitTyped : component.table? = some units) :
      component.canonical unit.designator = short := by
    rw [component.canonical_of_table units unitTyped, known.lookup_designator]
  have identifier (component : Component) (tableless : component.table? = none) :
      component.canonical unit.identifier = unit.identifier :=
    component.canonical_of_fixed _ (known.normal.normalize known.upper) tableless
  have written (component : Component) (tableless : component.table? = none) :
      component.canonical unit.written = unit.written :=
    component.canonical_of_fixed _ known.written_fixed tableless
  have parted : (⟨short, unit.identifier⟩ : UnitText) ≠ .empty := fun same =>
    known.short_ne_nil (congrArg UnitText.designator same)
  have folded : (⟨[], unit.written⟩ : UnitText) ≠ .empty := fun same =>
    known.written_ne_nil (congrArg UnitText.identifier same)
  -- The canonical values of the six fields, by the place of the unit.
  cases filing
  case occupancy =>
    rw [settle_lone_unit _ ⟨short, unit.identifier⟩ parted, known.designated_short]
    left
    simp (disch := decide) only [ofBag, Bag.value_canonical, Bag.file, Bag.value_set_self,
      Bag.value_set_other, vacant, designator .occupancyType rfl,
      identifier .occupancyIdentifier rfl, UnitText.empty]
  case subaddress =>
    rw [settle_lone_unit _ ⟨short, unit.identifier⟩ parted, known.designated_short]
    right
    simp (disch := decide) only [ofBag, Bag.value_canonical, Bag.file, Bag.value_set_self,
      Bag.value_set_other, vacant, designator .subaddressType rfl,
      identifier .subaddressIdentifier rfl, UnitText.empty]
  case foldedOccupancy =>
    rw [settle_lone_unit _ ⟨[], unit.written⟩ folded, known.designated_written]
    left
    simp (disch := decide) only [ofBag, Bag.value_canonical, Bag.file, Bag.value_set_self,
      Bag.value_set_other, vacant, written .occupancyIdentifier rfl, UnitText.empty]
  case foldedSubaddress =>
    rw [settle_lone_unit _ ⟨[], unit.written⟩ folded, known.designated_written]
    right
    simp (disch := decide) only [ofBag, Bag.value_canonical, Bag.file, Bag.value_set_self,
      Bag.value_set_other, vacant, written .subaddressIdentifier rfl, UnitText.empty]
  case building =>
    apply settle_named_unit
    · simp (disch := decide) only [ofBag, Bag.value_canonical, Bag.file, Bag.value_set_other,
        vacant, UnitText.empty]
    · simp only [Bag.value_canonical, Bag.file, Bag.value_set_self, written .buildingName rfl,
        List.findSome?_cons, known.of_text_written]
  case landmark =>
    apply settle_named_unit
    · simp (disch := decide) only [ofBag, Bag.value_canonical, Bag.file, Bag.value_set_other,
        vacant, UnitText.empty]
    · simp (disch := decide) only [Bag.value_canonical, Bag.file, Bag.value_set_self,
        Bag.value_set_other, vacant, written .landmarkName rfl, List.findSome?_cons,
        UnitText.of_text_nil, known.of_text_written]

end UnitPair

/-- A unit comes to the same standard address wherever it is filed, with its short designator in the
second line. -/
theorem standardize_filed_unit (bag : Bag) (unit : UnitText) (short : Text)
    (known : units.short? unit.designator = some short)
    (normal : normalize unit.identifier = unit.identifier)
    (parted : unit.designator ≠ ['#'] ∨
      units.contains (unit.identifier.takeWhile (· ≠ ' ')) = false)
    (free : ∀ component ∈ Component.unitHolders, bag.value component = []) :
    ∃ address, (∀ filing, standardize (.single (bag.file unit filing)) = address) ∧
      address.addressLine2 = Text.joinNonempty [' '] [short, unit.identifier] := by
  have fixed := (normalize_eq_self_iff_normal _).1 normal
  have isKnown : unit.IsKnown short := ⟨known, fixed.1, fixed.2, parted⟩
  have settled := UnitPair.settle_filed bag unit short isKnown free
  refine ⟨standardize (.single (bag.file unit .occupancy)), ?_, ?_⟩
  · intro filing
    apply (StandardAddress.of_bag_eq_iff _ _).2
    apply StandardAddress.single_components_congr
    · rw [settled filing, settled .occupancy]
    · intro component elsewhere
      rw [bag.file_elsewhere unit filing component elsewhere,
        bag.file_elsewhere unit .occupancy component elsewhere]
  · exact StandardAddress.second_line_of_settled _ _ (settled .occupancy)

theorem number_behind_two_signs :
    let bag := (Bag.empty.set .streetName "Main".toList).set .city "Alton".toList
    let unit : UnitText := ⟨"#".toList, "#5".toList⟩
    ∃ address, (∀ filing, standardize (.single (bag.file unit filing)) = address) ∧
      address.addressLine2 = "# #5".toList := by
  intro bag unit
  exact standardize_filed_unit bag unit "#".toList (by decide +kernel) (by decide)
    (.inr (by decide +kernel)) (by decide)

end PostalAddress
