import PostalAddress.Proofs.CommaLoop
import Mathlib.Logic.Function.Iterate

/-!
Unit recovery over and over. It peels one designator and one letter at a time, so once is not always
enough, but whatever it changes it leaves a shorter city. So the comma loop ends, and after at
most as many recoveries as the city has letters nothing changes any more.
-/

namespace PostalAddress

namespace Text

theorem head_word_rest_shorter (text : Text) (given : (headWord text).2 ≠ []) :
    (headWord text).2.length < text.length := by
  rw [headWord] at given ⊢
  split at given
  case h_1 => exact absurd rfl given
  case h_2 word rest cut =>
    have parted := ((cut_at_eq_some_iff ' ' _ word rest).1 cut).1
    have trimmed : text.trim.length ≤ text.length := (trim_where_within isBlank text).length_le
    have restTrimmed : rest.trim.length ≤ rest.length := (trim_where_within isBlank rest).length_le
    rw [parted, List.length_append, List.length_cons] at trimmed
    dsimp only
    omega

end Text

namespace CityRecovery

/-- A later recovery is the earlier one, or has a shorter city. -/
def SameOrShorter (later earlier : CityRecovery Bag) : Prop :=
  later = earlier ∨ later.city.length < earlier.city.length

theorem SameOrShorter.trans {latest later earlier : CityRecovery Bag}
    (newer : latest.SameOrShorter later) (older : later.SameOrShorter earlier) :
    latest.SameOrShorter earlier := by
  rcases newer with same | shorter
  · rwa [same]
  · right
    rcases older with same | before
    · rwa [← same]
    · exact shorter.trans before

theorem Rounds.same_or_shorter {count : Nat} {first last : CityRecovery Bag}
    (run : Rounds count first last) : last.SameOrShorter first := by
  cases run with
  | none => exact .inl rfl
  | next passed others =>
      have less := pass_comma_shorter _ _ passed
      have rest := others.shorter
      exact .inr (by omega)

theorem of_segments_shorter (bag : Bag) (city : Text) :
    (ofSegments bag city).SameOrShorter ⟨bag, city⟩ := by
  obtain ⟨count, run, _⟩ := comma_rounds_end ⟨bag, city⟩
  exact run.same_or_shorter

theorem take_designator_shorter (recovery : CityRecovery Bag) :
    recovery.takeDesignator.SameOrShorter recovery := by
  simp only [takeDesignator]
  split
  case isTrue => exact .inl rfl
  case isFalse given =>
    have rest : (Text.headWord recovery.city).2.length < recovery.city.length :=
      Text.head_word_rest_shorter _ fun empty => given (List.isEmpty_iff.2 empty)
    split
    case isTrue => exact .inr rest
    case isFalse =>
      split
      case isTrue => exact .inr rest
      case isFalse => exact .inl rfl

theorem take_fragment_shorter (recovery : CityRecovery Bag) :
    recovery.takeFragment.SameOrShorter recovery := by
  rw [takeFragment]
  split
  case h_2 => exact .inl rfl
  case h_1 letter rest identifier found _ =>
    right
    have parted := (fragment_parts _ _ _ found).1
    have trimmed : rest.trim.length ≤ rest.length := (Text.trim_where_within isBlank rest).length_le
    have size := congrArg List.length parted
    simp only [List.length_cons] at size
    dsimp only
    omega

end CityRecovery

theorem Bag.set_own_value (bag : Bag) (component : Component) (given : bag.value component ≠ []) :
    bag.set component (bag.value component) = bag := by
  apply Bag.ext
  funext other
  by_cases same : other = component
  · subst same
    rw [get_set_self]
    cases found : bag.get other with
    | none =>
        rw [value, found] at given
        exact absurd rfl given
    | some text => rw [value, found, Option.getD_some]
  · exact get_set_other _ _ _ _ same

/-- What a recovery changes it leaves with a shorter city. -/
theorem recover_units_shorter (bag : Bag) :
    recoverUnits bag = bag ∨
      ((recoverUnits bag).value .city).length < (bag.value .city).length := by
  by_cases given : bag.value .city = []
  case pos => exact .inl (recover_units_without_city bag given)
  case neg =>
    have segments := CityRecovery.of_segments_shorter bag (bag.value .city)
    have designator := (CityRecovery.take_designator_shorter _).trans segments
    rcases (CityRecovery.take_fragment_shorter _).trans designator with same | shorter
    · left
      rw [recover_units_written bag given, same]
      exact bag.set_own_value .city given
    · right
      rwa [recover_units_city bag given]

theorem recover_units_settled (bag : Bag) (steps : Nat)
    (enough : (bag.value .city).length ≤ steps) :
    recoverUnits (recoverUnits^[steps] bag) = recoverUnits^[steps] bag := by
  induction steps generalizing bag with
  | zero =>
      have empty : bag.value .city = [] := List.eq_nil_of_length_eq_zero (Nat.le_zero.1 enough)
      exact recover_units_without_city bag empty
  | succ steps induction =>
      rcases recover_units_shorter bag with same | shorter
      · rw [Function.iterate_fixed same, same]
      · rw [Function.iterate_succ_apply]
        exact induction (recoverUnits bag) (by omega)

/-- The comma loop ends, a recovery changes nothing or shortens the city, and after as many
recoveries as the city has letters nothing changes any more. -/
theorem recover_units_converges (bag : Bag) :
    let city := bag.value .city
    (∃ count, CityRecovery.Rounds count ⟨bag, city⟩ (CityRecovery.ofSegments bag city) ∧
      (CityRecovery.ofSegments bag city).passComma? = none) ∧
    (∀ count later, CityRecovery.Rounds count ⟨bag, city⟩ later → count ≤ city.count ',') ∧
    (recoverUnits bag = bag ∨ ((recoverUnits bag).value .city).length < city.length) ∧
    ∀ steps, city.length ≤ steps → recoverUnits^[steps] bag = recoverUnits^[city.length] bag := by
  intro city
  refine ⟨CityRecovery.comma_rounds_end ⟨bag, city⟩, ?bounded, recover_units_shorter bag, ?settled⟩
  case bounded =>
    intro count later run
    have used := run.commas
    dsimp only at used
    omega
  case settled =>
    intro steps enough
    have fixed := recover_units_settled bag city.length le_rfl
    obtain ⟨more, rfl⟩ := Nat.exists_eq_add_of_le' enough
    rw [Function.iterate_add_apply, Function.iterate_fixed fixed]

end PostalAddress
