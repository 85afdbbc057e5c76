import PostalAddress.Proofs.CityUnits

/-!
What unit recovery does to a bag that has a city. It only ever cuts the city off in front and never
down to nothing, it writes no unit field that is filled, and the one thing that it may put behind
a given identifier is a single letter.
-/

namespace PostalAddress

namespace Text

theorem trim_suffix {part text : Text} (within : part <:+ text) : part.trim <:+ text.trim := by
  by_cases blank : part.trim = []
  · rw [blank]
    exact List.nil_suffix
  · rcases within with ⟨front, whole⟩
    rcases trim_parts part with ⟨before, behind, parts, _, behindBlank⟩
    have split : text = (front ++ before) ++ part.trim ++ behind := by
      rw [← whole]
      conv_lhs => rw [parts]
      simp
    have last : ∀ letter ∈ ((front ++ before) ++ part.trim).getLast?, isBlank letter = false := by
      intro letter member
      rw [List.getLast?_append_of_ne_nil _ blank] at member
      exact last_trim_where isBlank part letter member
    have start : part.trim.dropWhile isBlank = part.trim :=
      drop_while_of_head isBlank _ (head_trim_where isBlank part)
    have trimmed : text.trim = ((front ++ before) ++ part.trim).dropWhile isBlank := by
      rw [split, trim, trim_where_append isBlank _ behind behindBlank,
        trim_where_of_last isBlank _ last]
    rw [trimmed, List.dropWhile_append, start]
    split
    case isTrue => exact List.suffix_rfl
    case isFalse => exact List.suffix_append _ _

theorem head_word_rest_suffix (text : Text) : (headWord text).2 <:+ text.trim := by
  rw [headWord]
  split
  case h_1 => exact List.nil_suffix
  case h_2 word rest cut =>
    rcases cut_at_append _ _ _ _ cut with ⟨letter, _, parted⟩
    have behind : rest <:+ text.trim := ⟨word ++ [letter], by simp [parted]⟩
    have cutOff := trim_suffix behind
    rwa [trim_trim] at cutOff

end Text

/-- The letters of the city stay in their order when segments in front of it are taken off. -/
theorem join_segments_suffix {rest segments : List Text} (within : rest <:+ segments) :
    joinSegments rest <:+ joinSegments segments := by
  induction segments with
  | nil =>
      have empty := List.suffix_nil.1 within
      subst empty
      exact List.suffix_rfl
  | cons segment others induction =>
      rcases List.suffix_cons_iff.1 within with same | behind
      · subst same
        exact List.suffix_rfl
      · apply (induction behind).trans
        cases others with
        | nil => exact List.nil_suffix
        | cons next tail =>
            simp only [joinSegments, List.intercalate_cons_cons]
            exact List.suffix_append _ _

theorem take_segments_suffix (bag : Bag) (segments : List Text) :
    (takeSegments bag segments).2 <:+ segments := by
  fun_induction takeSegments bag segments with
  | case1 => exact List.suffix_rfl
  | case2 => exact List.suffix_rfl
  | case3 => exact List.suffix_rfl
  | case4 _ _ _ _ _ _ _ _ hypothesis => exact hypothesis.trans (List.suffix_cons _ _)
  | case5 _ _ _ _ _ _ hypothesis => exact hypothesis.trans (List.suffix_cons _ _)
  | case6 => exact List.suffix_rfl

namespace CityRecovery

theorem of_segments_cuts (bag : Bag) (city : Text) :
    (ofSegments bag city).city.trim <:+ city.trim := by
  simp only [ofSegments]
  split
  case isTrue => exact List.suffix_rfl
  case isFalse =>
    have within := join_segments_suffix (take_segments_suffix bag (city.splitOn ','))
    rw [joinSegments.eq_def (city.splitOn ','), List.intercalate_splitOn] at within
    rw [Text.trim_trim]
    exact Text.trim_suffix within

theorem take_designator_cuts (recovery : CityRecovery Bag) :
    recovery.takeDesignator.city.trim <:+ recovery.city.trim := by
  have rest : (Text.headWord recovery.city).2.trim <:+ recovery.city.trim := by
    have within := Text.trim_suffix (Text.head_word_rest_suffix recovery.city)
    rwa [Text.trim_trim] at within
  simp only [takeDesignator]
  split
  case isTrue => exact List.suffix_rfl
  case isFalse =>
    split
    case isTrue => exact rest
    case isFalse =>
      split
      case isTrue => exact rest
      case isFalse => exact List.suffix_rfl

theorem take_fragment_cuts (recovery : CityRecovery Bag) :
    recovery.takeFragment.city.trim <:+ recovery.city.trim := by
  rw [takeFragment]
  split
  case h_1 letter rest identifier found _ =>
    have parts := (fragment_parts _ _ _ found).1
    have within : rest <:+ recovery.city := ⟨[letter, ' '], parts.symm⟩
    rw [Text.trim_trim]
    exact Text.trim_suffix within
  case h_2 => exact List.suffix_rfl

end CityRecovery

theorem recover_units_without_city (bag : Bag) (lacking : bag.value .city = []) :
    recoverUnits bag = bag := by
  have empty : (FieldStore.city bag).isEmpty = true := List.isEmpty_iff.2 lacking
  simp only [recoverUnits, empty, if_true]

theorem recover_units_written (bag : Bag) (given : bag.value .city ≠ []) :
    recoverUnits bag =
      let recovery := (CityRecovery.ofSegments bag (bag.value .city)).takeDesignator.takeFragment
      recovery.store.set .city recovery.city := by
  have filled : (FieldStore.city bag).isEmpty = false := by
    apply Bool.eq_false_iff.2
    intro empty
    exact given (List.isEmpty_iff.1 empty)
  simp only [recoverUnits, filled]
  rfl

theorem recover_units_city (bag : Bag) (given : bag.value .city ≠ []) :
    (recoverUnits bag).value .city =
      (CityRecovery.ofSegments bag (bag.value .city)).takeDesignator.takeFragment.city := by
  rw [recover_units_written bag given]
  exact congrArg (·.getD []) (Bag.get_set_self _ _ _)

theorem recover_units_filled (bag : Bag) (component : Component) (noCity : component ≠ .city)
    (filled : bag.has component = true) :
    (recoverUnits bag).get component = bag.get component ∨
      (recoverUnits bag).HasFragment bag component ∧
        (component = .occupancyIdentifier ∨
          component = .subaddressIdentifier ∧ bag.has .occupancyIdentifier = false) := by
  rcases recover_units_field bag component noCity with same | ⟨_, free⟩ | extended
  · exact .inl same
  · rw [filled] at free
    cases free
  · exact .inr extended

theorem UnitFields.designator_apart (slot : UnitFields) (listed : slot ∈ all) :
    slot.designator ≠ .city ∧ slot.designator ≠ .occupancyIdentifier ∧
      slot.designator ≠ .subaddressIdentifier := by
  revert slot
  decide

theorem UnitFields.identifier_ne_city (slot : UnitFields) (listed : slot ∈ all) :
    slot.identifier ≠ .city := by
  revert slot
  decide

/-- What unit recovery leaves of a bag that has a city. -/
structure Bag.IsRecoveredFrom (later earlier : Bag) : Prop where
  others : later.KeepsOthers earlier
  city : (later.value .city).isAllBlank = false
  cut : (later.value .city).trim <:+ (earlier.value .city).trim
  designators : ∀ slot ∈ UnitFields.all, earlier.has slot.designator = true →
    later.get slot.designator = earlier.get slot.designator
  identifiers : ∀ slot ∈ UnitFields.all, earlier.has slot.identifier = true →
    later.get slot.identifier = earlier.get slot.identifier ∨
      later.HasFragment earlier slot.identifier
  once : earlier.has .occupancyIdentifier = true → earlier.has .subaddressIdentifier = true →
    later.get .subaddressIdentifier = earlier.get .subaddressIdentifier

/-- Without a city a bag stays as it is, and with one it keeps all that unit recovery does not
own. -/
theorem recover_units_keeps_unowned (bag : Bag) :
    (bag.value .city = [] → recoverUnits bag = bag) ∧
      ((bag.value .city).isAllBlank = false → (recoverUnits bag).IsRecoveredFrom bag) := by
  refine ⟨recover_units_without_city bag, ?_⟩
  intro solid
  have given : bag.value .city ≠ [] := by
    intro empty
    rw [empty] at solid
    cases solid
  constructor
  case others => exact recover_units_keeps_others bag
  case city =>
    rw [recover_units_city bag given]
    apply CityRecovery.take_fragment_city_solid
    apply CityRecovery.take_designator_city_solid
    exact CityRecovery.of_segments_city_solid bag _ solid
  case cut =>
    rw [recover_units_city bag given]
    have segments := CityRecovery.of_segments_cuts bag (bag.value .city)
    have designator := (CityRecovery.take_designator_cuts _).trans segments
    exact (CityRecovery.take_fragment_cuts _).trans designator
  case designators =>
    intro slot listed filled
    have apart := slot.designator_apart listed
    rcases recover_units_filled bag _ apart.1 filled with same | ⟨_, occupancy | larger⟩
    · exact same
    · exact absurd occupancy apart.2.1
    · exact absurd larger.1 apart.2.2
  case identifiers =>
    intro slot listed filled
    rcases recover_units_filled bag _ (slot.identifier_ne_city listed) filled with
      same | ⟨extended, _⟩
    · exact .inl same
    · exact .inr extended
  case once =>
    intro occupied filled
    rcases recover_units_filled bag _ (by decide) filled with same | ⟨_, occupancy | larger⟩
    · exact same
    · cases occupancy
    · rw [occupied] at larger
      cases larger.2

/-- The letter is the tail of the unit's identifier and not of the larger one's, and the segment in
front finds both places taken. -/
theorem walla_walla_recovered :
    let bag := ((((Bag.empty.set .occupancyIdentifier "120".toList).set .subaddressIdentifier
      "C".toList).set .subaddressType "BLDG".toList).set .streetName "Oak".toList).set .city
        "STE 9, K WALLA WALLA ".toList
    (bag.value .city).isAllBlank = false ∧ (recoverUnits bag).IsRecoveredFrom bag ∧
      (recoverUnits bag).value .city = "WALLA WALLA".toList ∧
      (recoverUnits bag).value .occupancyIdentifier = "120 K".toList := by
  intro bag
  have solid : (bag.value .city).isAllBlank = false := by decide
  refine ⟨solid, (recover_units_keeps_unowned bag).2 solid, ?_, ?_⟩
  · decide +kernel
  · decide +kernel

end PostalAddress
