import PostalAddress.Parsed
import PostalAddress.Proofs.Joining
import PostalAddress.Proofs.SolidText

/-!
No value in the bags of an interpreted address is blank, whatever the tagger answers. Each step that
joins a token to a bag keeps this, and so does each of the three things that unit recovery takes
off the front of a city. The city itself cannot become blank on the way, so it is part of the
invariant of a recovery.
-/

namespace PostalAddress

namespace Bag

def HoldsNoBlank (bag : Bag) : Prop :=
  ∀ component value, bag.get component = some value → value.isAllBlank = false

theorem empty_holds_no_blank : empty.HoldsNoBlank := by
  intro component value impossible
  cases impossible

theorem HoldsNoBlank.set {bag : Bag} (noBlank : bag.HoldsNoBlank) (component : Component)
    (value : Text) (solid : value.isAllBlank = false) : (bag.set component value).HoldsNoBlank := by
  intro other held found
  by_cases same : other = component
  · rw [same, get_set_self] at found
    cases found
    exact solid
  · rw [get_set_other _ _ _ _ same] at found
    exact noBlank other held found

theorem HoldsNoBlank.value {bag : Bag} (noBlank : bag.HoldsNoBlank) (component : Component)
    (given : bag.value component ≠ []) : (bag.value component).isAllBlank = false := by
  rw [Bag.value] at given ⊢
  cases found : bag.get component with
  | none => simp [found] at given
  | some value => exact noBlank component value found

/-- Trimming takes no component away. -/
theorem HoldsNoBlank.is_empty_trimmed {bag : Bag} (noBlank : bag.HoldsNoBlank) :
    bag.trimmed.isEmpty = bag.isEmpty := by
  apply congrArg (Component.all.all ·)
  funext component
  rw [trimmed, get_of_values, Bag.value]
  cases found : bag.get component with
  | none => rfl
  | some value =>
      have solid : value.trim.isAllBlank = false := by
        rw [Text.trim_all_blank]
        exact noBlank component value found
      rw [Option.getD_some, Text.present_solid _ solid]
      rfl

end Bag

theorem Joining.step_holds_no_blank (joining : Joining) (token : Token)
    (noBlank : joining.bag.HoldsNoBlank) : (joining.step token).bag.HoldsNoBlank := by
  cases added : token.value? with
  | none => rwa [joining.step_without_value token added]
  | some entry =>
      obtain ⟨component, value⟩ := entry
      obtain ⟨_, written, given⟩ := token.value_parts component value added
      have solid : value.isAllBlank = false := by
        rw [← written] at given ⊢
        exact Text.trim_solid token.text given
      rw [joining.step_with_value token component value added]
      apply noBlank.set
      split
      case isTrue => exact Text.append_solid _ _ solid
      case isFalse => exact solid

theorem Bag.of_tokens_holds_no_blank (tokens : List Token) : (ofTokens tokens).HoldsNoBlank := by
  have run (joining : Joining) (noBlank : joining.bag.HoldsNoBlank) :
      (tokens.foldl Joining.step joining).bag.HoldsNoBlank := by
    induction tokens generalizing joining with
    | nil => exact noBlank
    | cons token rest hypothesis =>
        exact hypothesis _ (joining.step_holds_no_blank token noBlank)
  exact run .start empty_holds_no_blank

theorem store_unit_holds_no_blank (bag : Bag) (noBlank : bag.HoldsNoBlank)
    (designator identifier : Text) (named : designator.isAllBlank = false)
    (identified : identifier ≠ [] → identifier.isAllBlank = false) :
    (storeUnit bag designator identifier).HoldsNoBlank := by
  rw [storeUnit]
  split
  case h_1 => exact noBlank
  case h_2 slot _ =>
    have stored : (bag.set slot.designator designator).HoldsNoBlank := noBlank.set _ _ named
    split
    case isTrue => exact stored
    case isFalse given =>
      exact stored.set _ _ (identified fun empty => given (List.isEmpty_iff.2 empty))

theorem CitySegment.of_text_unit_solid (segment designator identifier : Text)
    (solid : segment.isAllBlank = false) (unit : ofText segment = .unit designator identifier) :
    designator.isAllBlank = false ∧ (identifier ≠ [] → identifier.isAllBlank = false) := by
  simp only [ofText] at unit
  split at unit
  case isTrue =>
    cases unit
    exact ⟨Text.head_word_solid segment solid, Text.head_word_rest segment⟩
  case isFalse => split at unit <;> cases unit

theorem take_segments_holds_no_blank (bag : Bag) (noBlank : bag.HoldsNoBlank)
    (segments : List Text) : (takeSegments bag segments).1.HoldsNoBlank := by
  fun_induction takeSegments bag segments with
  | case1 => exact noBlank
  | case2 => exact noBlank
  | case3 => exact noBlank
  | case4 bag segment rest _ solid designator identifier unit hypothesis =>
      have segmentSolid : segment.isAllBlank = false := by
        simp only [Bool.or_eq_true, not_or, Bool.not_eq_true] at solid
        exact solid.1
      obtain ⟨named, identified⟩ :=
        CitySegment.of_text_unit_solid segment designator identifier segmentSolid unit
      exact hypothesis (store_unit_holds_no_blank bag noBlank _ _ named identified)
  | case5 bag segment rest _ _ _ hypothesis => exact hypothesis noBlank
  | case6 => exact noBlank

theorem take_segments_remaining (bag : Bag) (segments : List Text) :
    (takeSegments bag segments).2 = segments ∨
      (joinSegments (takeSegments bag segments).2).isAllBlank = false := by
  have remaining (rest remains : List Text) (solid : (joinSegments rest).isAllBlank = false)
      (hypothesis : remains = rest ∨ (joinSegments remains).isAllBlank = false) :
      (joinSegments remains).isAllBlank = false := by
    rcases hypothesis with same | remainsSolid
    · rw [same, solid]
    · exact remainsSolid
  fun_induction takeSegments bag segments with
  | case1 => exact .inl rfl
  | case2 => exact .inl rfl
  | case3 => exact .inl rfl
  | case4 bag segment rest _ solid designator identifier unit hypothesis =>
      simp only [Bool.or_eq_true, not_or, Bool.not_eq_true] at solid
      exact .inr (remaining rest _ solid.2 hypothesis)
  | case5 bag segment rest _ solid _ hypothesis =>
      simp only [Bool.or_eq_true, not_or, Bool.not_eq_true] at solid
      exact .inr (remaining rest _ solid.2 hypothesis)
  | case6 => exact .inl rfl

namespace CityRecovery

/-- Neither a field nor what is left of the city is blank. -/
structure HoldsNoBlank (recovery : CityRecovery Bag) : Prop where
  store : recovery.store.HoldsNoBlank
  city : recovery.city.isAllBlank = false

theorem of_segments_city_solid (bag : Bag) (city : Text) (solid : city.isAllBlank = false) :
    (ofSegments bag city).city.isAllBlank = false := by
  simp only [ofSegments]
  split
  case isTrue => exact solid
  case isFalse shorter =>
    rcases take_segments_remaining bag (city.splitOn ',') with same | remains
    · exact absurd (congrArg List.length same) shorter
    · rw [Text.trim_all_blank, remains]

theorem of_segments_holds_no_blank (bag : Bag) (noBlank : bag.HoldsNoBlank) (city : Text)
    (solid : city.isAllBlank = false) : (ofSegments bag city).HoldsNoBlank :=
  ⟨take_segments_holds_no_blank bag noBlank _, of_segments_city_solid bag city solid⟩

theorem take_designator_city_solid (recovery : CityRecovery Bag)
    (solid : recovery.city.isAllBlank = false) :
    recovery.takeDesignator.city.isAllBlank = false := by
  simp only [takeDesignator]
  split
  case isTrue => exact solid
  case isFalse given =>
    have rest : (Text.headWord recovery.city).2.isAllBlank = false :=
      Text.head_word_rest _ fun empty => given (List.isEmpty_iff.2 empty)
    split
    case isTrue => exact rest
    case isFalse =>
      split
      case isTrue => exact rest
      case isFalse => exact solid

theorem HoldsNoBlank.take_designator {recovery : CityRecovery Bag}
    (noBlank : recovery.HoldsNoBlank) : recovery.takeDesignator.HoldsNoBlank := by
  refine ⟨?_, take_designator_city_solid recovery noBlank.city⟩
  simp only [takeDesignator]
  split
  case isTrue => exact noBlank.store
  case isFalse =>
    split
    case isTrue =>
      exact store_unit_holds_no_blank _ noBlank.store _ [] (Text.head_word_solid _ noBlank.city)
        fun given => absurd rfl given
    case isFalse => split <;> exact noBlank.store

theorem fragment_parts (city : Text) (letter : Char) (rest : Text)
    (found : fragment? city = some (letter, rest)) :
    city = letter :: ' ' :: rest ∧ isLetter letter = true ∧ rest.isAllBlank = false := by
  rw [fragment?.eq_def] at found
  split at found
  case h_1 first behind =>
    simp only [Option.ite_none_right_eq_some, Bool.and_eq_true, Bool.not_eq_true', Option.some.injEq,
      Prod.mk.injEq] at found
    obtain ⟨⟨⟨alphabetic, _⟩, solid⟩, rfl, rfl⟩ := found
    exact ⟨rfl, alphabetic, solid⟩
  case h_2 => cases found

theorem take_fragment_city_solid (recovery : CityRecovery Bag)
    (solid : recovery.city.isAllBlank = false) :
    recovery.takeFragment.city.isAllBlank = false := by
  rw [takeFragment]
  split
  case h_1 letter rest identifier found _ =>
    rw [Text.trim_all_blank, (fragment_parts _ _ _ found).2.2]
  case h_2 => exact solid

theorem HoldsNoBlank.take_fragment {recovery : CityRecovery Bag}
    (noBlank : recovery.HoldsNoBlank) : recovery.takeFragment.HoldsNoBlank := by
  refine ⟨?_, take_fragment_city_solid recovery noBlank.city⟩
  rw [takeFragment]
  split
  case h_1 letter rest identifier found _ =>
    have alphabetic := (fragment_parts _ _ _ found).2.1
    have letterSolid := letter_solid letter alphabetic
    apply noBlank.store.set
    have solid : Text.isAllBlank [' ', letter] = false := by simp [Text.isAllBlank, letterSolid]
    exact Text.append_solid (recovery.store.value identifier) _ solid
  case h_2 => exact noBlank.store

end CityRecovery

theorem recover_units_holds_no_blank (bag : Bag) (noBlank : bag.HoldsNoBlank) :
    (recoverUnits bag).HoldsNoBlank := by
  simp only [recoverUnits]
  split
  case isTrue => exact noBlank
  case isFalse given =>
    have city : (bag.value .city).isAllBlank = false :=
      noBlank.value .city fun empty => given (List.isEmpty_iff.2 empty)
    have recovered := (CityRecovery.of_segments_holds_no_blank bag noBlank _ city)
      |>.take_designator.take_fragment
    exact recovered.store.set _ _ recovered.city

theorem Interpretation.of_tagging_holds_no_blank (tagging : Tagging) :
    ∀ bag ∈ (ofTagging tagging).components.bags, bag.HoldsNoBlank := by
  intro bag member
  rw [ofTagging] at member
  split at member
  case h_1 =>
    rw [List.mem_singleton.1 member]
    exact recover_units_holds_no_blank _ (Bag.of_tokens_holds_no_blank _)
  case h_2 =>
    rcases List.mem_pair.1 member with rfl | rfl
    · exact Bag.of_tokens_holds_no_blank _
    · exact Bag.of_tokens_holds_no_blank _
  case h_3 =>
    rw [List.mem_singleton.1 member]
    exact Bag.of_tokens_holds_no_blank _

theorem interpret_holds_no_blank (tagger : Tagger) (input : Text) :
    ∀ bag ∈ (interpret tagger input).value.components.bags, bag.HoldsNoBlank := by
  rw [interpret]
  split
  case isTrue =>
    intro bag member
    rw [List.mem_singleton.1 member]
    exact Bag.empty_holds_no_blank
  case isFalse => exact Interpretation.of_tagging_holds_no_blank _

end PostalAddress
